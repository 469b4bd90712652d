import Mathlib.Logic.Function.Basic
import TrustZone.Lib.Bytes

/-!
# A heap of named blocks

`pvPortMalloc` and `vPortFree`. A block is named by the number of requests made before it; an
`Allocator` says which requests are granted and what a fresh block holds. Reading or writing outside
a live block and freeing what is not live do not return.

* `Heap.malloc_granted`, `Heap.write_eq`, `Heap.read_eq`, `Heap.free_eq`: each operation on a block
  that is there.
* `Heap.Wf`: the names not yet given out are not live; `Heap.Wf.malloc`, `Heap.Wf.free`: what each
  request does to the live blocks.
-/

namespace Lib

/-- Which requests for memory are granted, and the bytes a granted block starts with. -/
structure Allocator where
  avail : Nat → Nat → Bool
  junk : Nat → Nat → UInt8

/-- Every request is granted. -/
def Allocator.Succeeds (al : Allocator) : Prop := ∀ p n, al.avail p n = true

/-- The allocator that grants every request, with zeros. -/
def Allocator.granting : Allocator := ⟨fun _ _ => true, fun _ _ => 0⟩

theorem Allocator.granting_succeeds : granting.Succeeds := fun _ _ => rfl

/-- The allocator that grants what another one refuses. -/
def Allocator.grant (al : Allocator) : Allocator := ⟨fun _ _ => true, al.junk⟩

theorem Allocator.grant_succeeds (al : Allocator) : al.grant.Succeeds := fun _ _ => rfl

/-- The live blocks, and the name of the next one. -/
structure Heap where
  next : Nat
  mem : Nat → Option (List UInt8)

namespace Heap

def empty : Heap := ⟨0, fun _ => none⟩

/-- `pvPortMalloc`; `none` is `NULL`. -/
def malloc (al : Allocator) (h : Heap) (n : Nat) : Option Nat × Heap :=
  if al.avail h.next n then
    (some h.next, ⟨h.next + 1, Function.update h.mem h.next (some (slice (al.junk h.next) 0 n))⟩)
  else (none, ⟨h.next + 1, h.mem⟩)

/-- `vPortFree` of a block. -/
def free (h : Heap) (p : Nat) : Option Heap :=
  if (h.mem p).isSome then some ⟨h.next, Function.update h.mem p none⟩ else none

/-- `memcpy(p, src, |src|)`. -/
def write (h : Heap) (p : Nat) (src : List UInt8) : Option Heap :=
  match h.mem p with
  | none => none
  | some blk =>
    if src.length ≤ blk.length then some ⟨h.next, Function.update h.mem p (some (blit blk 0 src))⟩
    else none

/-- The `n` bytes at `p`. -/
def read (h : Heap) (p n : Nat) : Option (List UInt8) :=
  match h.mem p with
  | none => none
  | some blk => if n ≤ blk.length then some (blk.take n) else none

/-- The names not yet given out are not live. -/
def Wf (h : Heap) : Prop := ∀ p, h.next ≤ p → h.mem p = none

theorem wf_empty : Wf empty := fun _ _ => rfl

variable {al : Allocator} {h : Heap} {p n : Nat} {src blk : List UInt8}

theorem malloc_granted (hal : al.Succeeds) : malloc al h n =
    (some h.next, ⟨h.next + 1, Function.update h.mem h.next (some (slice (al.junk h.next) 0 n))⟩) := by
  simp [malloc, hal h.next n]

theorem malloc_refused (h : Heap) (hn : al.avail h.next n = false) :
    malloc al h n = (none, ⟨h.next + 1, h.mem⟩) := by
  simp [malloc, hn]

/-- What is granted is what the granting allocator gives. -/
theorem malloc_grant (h : Heap) (hn : al.avail h.next n = true) :
    malloc al h n = malloc al.grant h n := by
  simp [malloc, hn, Allocator.grant]

theorem free_eq (hp : h.mem p = some blk) :
    free h p = some ⟨h.next, Function.update h.mem p none⟩ := by
  simp [free, hp]

theorem write_eq (hp : h.mem p = some blk) (hn : src.length ≤ blk.length) :
    write h p src = some ⟨h.next, Function.update h.mem p (some (blit blk 0 src))⟩ := by
  simp [write, hp, hn]

theorem read_eq (hp : h.mem p = some blk) (hn : n ≤ blk.length) :
    read h p n = some (blk.take n) := by
  simp [read, hp, hn]

theorem Wf.lt (hw : h.Wf) (hp : h.mem p = some blk) : p < h.next := by
  by_contra hge
  rw [hw p (Nat.le_of_not_lt hge)] at hp
  cases hp

/-- A live block stays below the next name: the rest of the heap may change. -/
theorem Wf.update (hw : h.Wf) (hp : p < h.next) (b : Option (List UInt8)) :
    Wf ⟨h.next, Function.update h.mem p b⟩ := by
  intro q hq
  have hne : q ≠ p := by simp only at hq; omega
  exact (Function.update_of_ne hne _ _).trans (hw q hq)

theorem Wf.push (hw : h.Wf) (b : Option (List UInt8)) :
    Wf ⟨h.next + 1, Function.update h.mem h.next b⟩ := by
  intro q hq
  have hne : q ≠ h.next := by simp only at hq; omega
  exact (Function.update_of_ne hne _ _).trans (hw q (by simp only at hq; omega))

/-- A request gives out a block that was not live, or nothing. -/
theorem Wf.malloc (hw : h.Wf) (al : Allocator) (n : Nat) :
    (∃ h', h.malloc al n = (none, h') ∧ h'.Wf ∧ h'.mem = h.mem) ∨
    ∃ p blk h', h.malloc al n = (some p, h') ∧ h.mem p = none ∧ h'.Wf ∧
      h'.mem = Function.update h.mem p (some blk) := by
  unfold Heap.malloc
  cases al.avail h.next n with
  | false => exact .inl ⟨_, rfl, fun q hq => hw q (Nat.le_of_succ_le hq), rfl⟩
  | true => exact .inr ⟨_, _, _, rfl, hw _ (Nat.le_refl _), hw.push _, rfl⟩

/-- A live block can be freed. -/
theorem Wf.free (hw : h.Wf) (hp : h.mem p ≠ none) :
    ∃ h', h.free p = some h' ∧ h'.Wf ∧ h'.mem = Function.update h.mem p none := by
  obtain ⟨blk, hp⟩ := Option.ne_none_iff_exists'.1 hp
  exact ⟨_, free_eq hp, hw.update (hw.lt hp) _, rfl⟩

end Heap

end Lib
