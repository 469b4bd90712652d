import Mathlib.Data.List.Basic
import Mathlib.Data.Nat.Digits.Defs

/-!
# Bytes and buffers

A buffer is a `List UInt8`, memory read through a pointer is a `Nat → UInt8` (the byte at each
offset). `slice m off n` is what `memcpy` reads, `blit buf off src` what it leaves in `buf`.
-/

namespace Lib

/-- The bytes of an ASCII string literal, without the NUL. -/
def ascii (s : String) : List UInt8 := s.toList.map fun c => c.toNat.toUInt8

/-- The `n` bytes at offset `off` of a memory. -/
def slice (m : Nat → UInt8) (off n : Nat) : List UInt8 :=
  (List.range n).map fun i => m (off + i)

@[simp] theorem slice_length (m : Nat → UInt8) (off n : Nat) : (slice m off n).length = n := by
  simp [slice]

@[simp] theorem slice_zero (m : Nat → UInt8) (off : Nat) : slice m off 0 = [] := rfl

theorem slice_getElem? (m : Nat → UInt8) (off n i : Nat) :
    (slice m off n)[i]? = if i < n then some (m (off + i)) else none := by
  unfold slice
  split
  · rename_i h; simp [h]
  · rename_i h; simp [h]

/-- A buffer read through a pointer to its first byte. -/
def memOf (l : List UInt8) : Nat → UInt8 := fun i => l.getD i 0

theorem slice_memOf (l : List UInt8) (off n : Nat) (h : off + n ≤ l.length) :
    slice (memOf l) off n = (l.drop off).take n := by
  apply List.ext_getElem?
  intro i
  rw [slice_getElem?, List.getElem?_take, List.getElem?_drop]
  split
  · rename_i hi
    simp [memOf, List.getElem?_eq_getElem (show off + i < l.length by omega)]
  · rfl

theorem getD_of_drop {l rest : List UInt8} {n : Nat} {b : UInt8} (h : l.drop n = b :: rest) :
    l.getD n 0 = b := by
  have h0 : (l.drop n)[0]? = some b := by rw [h]; rfl
  rw [List.getElem?_drop, Nat.add_zero] at h0
  rw [List.getD_eq_getElem?_getD, h0]
  rfl

/-- `memcpy(&buf[off], src, |src|)`. -/
def blit (buf : List UInt8) (off : Nat) (src : List UInt8) : List UInt8 :=
  buf.take off ++ src ++ buf.drop (off + src.length)

theorem blit_length {buf src : List UInt8} {off : Nat} (h : off + src.length ≤ buf.length) :
    (blit buf off src).length = buf.length := by
  simp only [blit, List.length_append, List.length_take, List.length_drop]
  omega

@[simp] theorem blit_nil (buf : List UInt8) (off : Nat) : blit buf off [] = buf := by
  simp [blit]

theorem blit_zero {buf src : List UInt8} : blit buf 0 src = src ++ buf.drop src.length := by
  simp [blit]

theorem take_blit_zero {buf src : List UInt8} : (blit buf 0 src).take src.length = src := by
  simp [blit_zero]

theorem blit_append_right {a b src : List UInt8} {off : Nat} (h : a.length ≤ off) :
    blit (a ++ b) off src = a ++ blit b (off - a.length) src := by
  have hd : off + src.length - a.length = off - a.length + src.length := by omega
  simp [blit, List.take_append, List.drop_append, List.take_of_length_le h, hd,
    List.drop_of_length_le (show a.length ≤ off + src.length by omega)]

theorem take_blit {buf src : List UInt8} {off k : Nat} (h : off ≤ buf.length) (hk : k ≤ src.length) :
    (blit buf off src).take (off + k) = buf.take off ++ src.take k := by
  have hoff : (buf.take off).length = off := by rw [List.length_take]; omega
  rw [blit, List.append_assoc, List.take_append, hoff, Nat.add_sub_cancel_left,
    List.take_of_length_le (by omega), List.take_append_of_le_length hk]

/-! ## Bounds -/

/-- An access that is no good: out of bounds, or through `NULL`. -/
inductive MemFault
  | read
  | write
  | null
  deriving DecidableEq

/-- `memcpy(&dst[off], src, n)`, with the bounds of both buffers. -/
def memcpy (dst : List UInt8) (off : Nat) (src : List UInt8) (n : Nat) :
    Except MemFault (List UInt8) :=
  if src.length < n then .error .read
  else if dst.length < off + n then .error .write
  else .ok (blit dst off (src.take n))

theorem memcpy_ok {dst src r : List UInt8} {off n : Nat} :
    memcpy dst off src n = .ok r ↔
      n ≤ src.length ∧ off + n ≤ dst.length ∧ blit dst off (src.take n) = r := by
  unfold memcpy
  split_ifs with hread hwrite
  · exact iff_of_false nofun fun h => absurd h.1 (Nat.not_le.2 hread)
  · exact iff_of_false nofun fun h => absurd h.2.1 (Nat.not_le.2 hwrite)
  · rw [Except.ok.injEq]
    exact ⟨fun h => ⟨Nat.le_of_not_lt hread, Nat.le_of_not_lt hwrite, h⟩, fun h => h.2.2⟩

theorem memcpy_length {dst src r : List UInt8} {off n : Nat} (h : memcpy dst off src n = .ok r) :
    r.length = dst.length := by
  obtain ⟨hread, hwrite, rfl⟩ := memcpy_ok.1 h
  apply blit_length
  rw [List.length_take, Nat.min_eq_left hread]
  exact hwrite

/-! ## C strings -/

/-- The C string at the start of a buffer. -/
def cstr (b : List UInt8) : List UInt8 := b.takeWhile (· ≠ 0)

theorem cstr_nul (b : List UInt8) : cstr (0 :: b) = [] := rfl

theorem cstr_cons {x : UInt8} (hx : x ≠ 0) (b : List UInt8) : cstr (x :: b) = x :: cstr b := by
  unfold cstr
  rw [List.takeWhile_cons, if_pos (by simpa using hx)]

theorem cstr_of_notMem {b : List UInt8} (h : 0 ∉ b) : cstr b = b := by
  induction b with
  | nil => rfl
  | cons x b ih =>
    have hx : x ≠ 0 := fun he => h (by simp [he])
    rw [cstr_cons hx, ih fun hm => h (List.mem_cons_of_mem _ hm)]

theorem cstr_notMem (b : List UInt8) : 0 ∉ cstr b := by
  induction b with
  | nil => simp [cstr]
  | cons x b ih =>
    by_cases hx : x = 0
    · simp [hx, cstr_nul]
    · rw [cstr_cons hx, List.mem_cons]
      rintro (h | h)
      · exact hx h.symm
      · exact ih h

theorem cstr_append_nul (b rest : List UInt8) : cstr (b ++ 0 :: rest) = cstr b := by
  induction b with
  | nil => simp [cstr]
  | cons x b ih =>
    by_cases hx : x = 0
    · rw [hx, List.cons_append, cstr_nul, cstr_nul]
    · rw [List.cons_append, cstr_cons hx, cstr_cons hx, ih]

theorem cstr_start (b : List UInt8) : cstr b <+: b := List.takeWhile_prefix _

theorem cstr_append {a : List UInt8} (h : 0 ∉ a) (b : List UInt8) : cstr (a ++ b) = a ++ cstr b := by
  induction a with
  | nil => rfl
  | cons x a ih =>
    have hx : x ≠ 0 := fun he => h (by simp [he])
    rw [List.cons_append, cstr_cons hx, ih fun hm => h (List.mem_cons_of_mem _ hm), List.cons_append]

theorem prefix_cstr {c b : List UInt8} (h : 0 ∉ c) : c <+: b ↔ c <+: cstr b := by
  constructor
  · rintro ⟨t, rfl⟩
    induction c with
    | nil => exact List.nil_prefix
    | cons x c ih =>
      have hx : x ≠ 0 := fun he => h (by simp [he])
      rw [List.cons_append, cstr_cons hx]
      exact List.cons_prefix_cons.2 ⟨rfl, ih fun hm => h (List.mem_cons_of_mem _ hm)⟩
  · intro hp
    exact hp.trans (cstr_start b)

/-- A string and its NUL at the start of a string and its NUL. -/
theorem prefix_nul_iff {a b : List UInt8} (h : 0 ∉ b) : a ++ [0] <+: b ++ [0] ↔ a = b := by
  constructor
  · intro hp
    induction a generalizing b with
    | nil =>
      cases b with
      | nil => rfl
      | cons y b =>
        have hy : 0 = y := (List.cons_prefix_cons.1 hp).1
        simp [← hy] at h
    | cons x a ih =>
      cases b with
      | nil =>
        have := (List.cons_prefix_cons.1 hp).2.length_le
        simp at this
      | cons y b =>
        obtain ⟨hxy, htail⟩ := List.cons_prefix_cons.1 hp
        rw [hxy, ih (fun hm => h (List.mem_cons_of_mem _ hm)) htail]
  · rintro rfl
    exact List.prefix_rfl

/-! ## Little-endian words -/

/-- The low `w` bytes of `n`, least significant first. -/
def leBytes : Nat → Nat → List UInt8
  | 0, _ => []
  | w + 1, n => UInt8.ofNat n :: leBytes w (n / 256)

/-- The number that bytes stand for, least significant first. -/
def leVal : List UInt8 → Nat
  | [] => 0
  | b :: l => b.toNat + 256 * leVal l

@[simp] theorem leBytes_length (w n : Nat) : (leBytes w n).length = w := by
  induction w generalizing n with
  | zero => rfl
  | succ w ih => simp [leBytes, ih]

theorem leVal_lt (l : List UInt8) : leVal l < 256 ^ l.length := by
  induction l with
  | nil => simp [leVal]
  | cons b l ih =>
    have := b.toNat_lt
    simp only [leVal, List.length_cons, Nat.pow_succ]
    omega

theorem leVal_leBytes {w n : Nat} (h : n < 256 ^ w) : leVal (leBytes w n) = n := by
  induction w generalizing n with
  | zero => simp only [Nat.pow_zero] at h; simp only [leBytes, leVal]; omega
  | succ w ih =>
    have hn : n / 256 < 256 ^ w := Nat.div_lt_of_lt_mul (by rwa [Nat.pow_succ, Nat.mul_comm] at h)
    simp only [leBytes, leVal, ih hn, UInt8.toNat_ofNat']
    omega

theorem leBytes_leVal (l : List UInt8) : leBytes l.length (leVal l) = l := by
  induction l with
  | nil => rfl
  | cons b l ih =>
    have hb := b.toNat_lt
    have h1 : (b.toNat + 256 * leVal l) / 256 = leVal l := by omega
    have h2 : UInt8.ofNat (b.toNat + 256 * leVal l) = b := by
      apply UInt8.toNat_inj.1
      rw [UInt8.toNat_ofNat']
      omega
    simp only [leVal, List.length_cons, leBytes, h1, h2, ih]

end Lib
