import TrustZone.KvStore.Proof.Ownership

/-!
# The cache is a map of last writes

`CopyOf w n out`: what a read of a key gives into a buffer of `n` bytes, when `w` was the last write to
it. `cache_last_write`: after every run of writes, `xprvCopyValueFromCache` gives this for the last write
of each key, and a further write changes what is read of its own key only. This holds also of the runs
that lose blocks.
-/

namespace KvStore

open Lib Psa Machine

variable {al : Allocator} {cfg : Config} {s s' : State} {its : Its} {w : CacheWrite} {b : Bool}
  {tr : List (Entry State CacheWrite Bool)} {key n : Nat} {out : CacheCopy}

/-- The last write to the key. -/
def lastWrite (key : Nat) (tr : List (Entry State CacheWrite Bool)) : Option CacheWrite :=
  ((tr.map (·.inp)).filter fun w => w.xKey = key).getLast?

theorem lastWrite_self {e : Entry State CacheWrite Bool} :
    lastWrite e.inp.xKey (tr ++ [e]) = some e.inp := by
  simp [lastWrite, List.filter_append]

theorem lastWrite_other {e : Entry State CacheWrite Bool} (h : key ≠ e.inp.xKey) :
    lastWrite key (tr ++ [e]) = lastWrite key tr := by
  simp [lastWrite, List.filter_append, Ne.symm h]

/-- What a read into a buffer of `n` bytes leaves: of a key that was never written to nothing but the
result. -/
def CopyOf (last : Option CacheWrite) (n : Nat) (out out' : CacheCopy) : Prop :=
  match last with
  | none => out' = { out with ret := false }
  | some w => (out'.ret = true ↔ 0 < min n w.pvNewValue.length) ∧ out'.pxDataType = w.xNewType ∧
    out'.pxDataLength = w.pvNewValue.length ∧
    ∀ i, if i < min n w.pvNewValue.length then w.pvNewValue[i]? = some (out'.pvBuffer i)
      else out'.pvBuffer i = out.pvBuffer i

/-- The entry of a key holds what was last written, if anything. -/
def HoldsLast (s : State) (tr : List (Entry State CacheWrite Bool)) (key : Nat) : Prop :=
  match lastWrite key tr with
  | none => (s.kvStoreCache key).type = kvTypeNone
  | some w => HoldsValue s.heap (s.kvStoreCache key) w.xNewType w.pvNewValue ∧ w.xNewType ≠ kvTypeNone

/-- **One write** leaves every entry with its last write. -/
theorem HoldsLast.step (heff : WriteEffect s w s') (hty : w.xNewType ≠ kvTypeNone)
    (hl : HoldsLast s tr key) : HoldsLast s' (tr ++ [⟨s, w, b, s'⟩]) key := by
  unfold HoldsLast at hl ⊢
  by_cases hk : key = w.xKey
  · subst hk
    rw [lastWrite_self (e := ⟨s, w, b, s'⟩)]
    exact ⟨heff.holds, hty⟩
  · rw [lastWrite_other (e := ⟨s, w, b, s'⟩) hk, heff.other key hk]
    cases hlast : lastWrite key tr with
    | none =>
      rw [hlast] at hl
      exact hl
    | some w₀ =>
      rw [hlast] at hl
      obtain ⟨⟨ht, hlen, hb⟩, hne⟩ := hl
      exact ⟨⟨ht, hlen, (heff.bytes key hk).trans hb⟩, hne⟩

/-- **Every run** leaves every entry with its last write. -/
theorem holdsLast_run (hal : al.Succeeds) (h : Exec (cacheWriter al cfg) (.boot its) tr s)
    (hty : ∀ e ∈ tr, e.inp.xNewType ≠ kvTypeNone) (key : Nat) : HoldsLast s tr key := by
  induction h with
  | nil => exact rfl
  | @snoc tr s s' w b hr hst ih =>
    have hl := ih fun e he => hty e (List.mem_append_left _ he)
    obtain ⟨-, heff⟩ := (CacheHeld.run hal hr).1.step_of hal hst
    exact hl.step heff (hty ⟨s, w, b, s'⟩ (by simp))

/-- What is read of an entry that holds a value. -/
theorem cacheCopy_holds (hs : CacheHeld s) (hkey : key < cfg.csNumKeys)
    (hv : HoldsValue s.heap (s.kvStoreCache key) w.xNewType w.pvNewValue) (hty : w.xNewType ≠ kvTypeNone)
    (out : CacheCopy) (n : Nat) :
    cacheCopy cfg s key out n =
      some ⟨decide (0 < min n w.pvNewValue.length), w.xNewType, w.pvNewValue.length,
        copyTo out.pvBuffer (w.pvNewValue.take (min n w.pvNewValue.length))⟩ := by
  have ht : (s.kvStoreCache key).type ≠ kvTypeNone := by
    rw [hv.type]
    exact hty
  obtain ⟨ptr, hptr, hload⟩ := (hs.held key).load ht
  have hmin : min n w.pvNewValue.length ≤ (s.kvStoreCache key).length := by
    rw [hv.length]
    exact Nat.min_le_right _ _
  unfold cacheCopy xprvCopyValueFromCache
  rw [if_pos hkey, hptr]
  simp only [hv.length, hload _ hmin, hv.bytes, hv.type, List.length_take]
  rw [Nat.min_eq_left (Nat.min_le_right n w.pvNewValue.length)]

theorem copyTo_take (mem : Nat → UInt8) (v : List UInt8) (m : Nat) (hm : m ≤ v.length) (i : Nat) :
    if i < m then v[i]? = some (copyTo mem (v.take m) i) else copyTo mem (v.take m) i = mem i := by
  unfold copyTo
  split_ifs with hi
  · have hlt : i < v.length := Nat.lt_of_lt_of_le hi hm
    simp [List.getElem?_take, hi, hlt]
  · simp [List.getElem?_take, hi]

/-- **The cache is a last-write map**, whatever is written: a read into a buffer of any size gives the last
write to its key, and a write to another key does not change it. -/
theorem cache_last_write (hal : al.Succeeds) (h : Exec (cacheWriter al cfg) (.boot its) tr s)
    (hty : ∀ e ∈ tr, e.inp.xNewType ≠ kvTypeNone) :
    (∀ key out n, key < cfg.csNumKeys →
      ∃ out', cacheCopy cfg s key out n = some out' ∧ CopyOf (lastWrite key tr) n out out') ∧
    ∀ (w : CacheWrite) s' b, w.xNewType ≠ kvTypeNone → cacheStep al cfg s w = some (s', b) →
      ∀ key out n, key ≠ w.xKey → cacheCopy cfg s' key out n = cacheCopy cfg s key out n := by
  have hs := (CacheHeld.run hal h).1
  constructor
  · intro key out n hkey
    have hl := holdsLast_run hal h hty key
    unfold HoldsLast at hl
    unfold CopyOf
    cases hlast : lastWrite key tr with
    | none =>
      rw [hlast] at hl
      refine ⟨_, ?_, rfl⟩
      unfold cacheCopy xprvCopyValueFromCache pvGetDataReadPtr
      rw [if_pos hkey, if_pos hl]
    | some w =>
      rw [hlast] at hl
      refine ⟨_, cacheCopy_holds hs hkey hl.1 hl.2 out n, by simp, rfl, rfl, ?_⟩
      exact copyTo_take _ _ _ (Nat.min_le_right _ _)
  · intro w s' b hne hst key out n hk
    obtain ⟨hs', heff⟩ := hs.step_of hal hst
    by_cases hkey : key < cfg.csNumKeys
    · have hl := holdsLast_run hal h hty key
      unfold HoldsLast at hl
      cases hlast : lastWrite key tr with
      | none =>
        rw [hlast] at hl
        unfold cacheCopy xprvCopyValueFromCache pvGetDataReadPtr
        rw [heff.other key hk, if_pos hl]
      | some w₀ =>
        rw [hlast] at hl
        have hv' : HoldsValue s'.heap (s'.kvStoreCache key) w₀.xNewType w₀.pvNewValue := by
          rw [heff.other key hk]
          exact ⟨hl.1.type, hl.1.length, (heff.bytes key hk).trans hl.1.bytes⟩
        rw [cacheCopy_holds hs hkey hl.1 hl.2 out n, cacheCopy_holds hs' hkey hv' hl.2 out n]
    · unfold cacheCopy
      rw [if_neg hkey, if_neg hkey]

/-- A name of five bytes shrinks to four, in the union: a buffer of three bytes gets the first three. -/
theorem cache_last_write_name : ∃ tr s out',
    exec? (cacheWriter .granting portAndName) (.boot fun _ => none)
      [⟨1, kvTypeString, [97, 98, 99, 100, 0]⟩, ⟨1, kvTypeString, [97, 98, 99, 0]⟩] = some (tr, s) ∧
    cacheCopy portAndName s 1 ⟨false, 0, 0, fun _ => 7⟩ 3 = some out' ∧
    CopyOf (some ⟨1, kvTypeString, [97, 98, 99, 0]⟩) 3 ⟨false, 0, 0, fun _ => 7⟩ out' := by
  have hrun : (exec? (cacheWriter .granting portAndName) (.boot fun _ => none)
      [⟨1, kvTypeString, [97, 98, 99, 100, 0]⟩, ⟨1, kvTypeString, [97, 98, 99, 0]⟩]).map
      (fun r => (decide (∀ e ∈ r.1, e.inp.xNewType ≠ kvTypeNone),
        (lastWrite 1 r.1).map fun w => (w.xKey, w.xNewType, w.pvNewValue))) =
      some (true, some (1, kvTypeString, [97, 98, 99, 0])) := by
    decide +kernel
  obtain ⟨⟨tr, s⟩, hr, heq⟩ := Option.map_eq_some_iff.1 hrun
  simp only [Prod.mk.injEq, decide_eq_true_eq] at heq
  obtain ⟨hty, hlast⟩ := heq
  obtain ⟨w, hw, hval⟩ := Option.map_eq_some_iff.1 hlast
  have hw' : w = ⟨1, kvTypeString, [97, 98, 99, 0]⟩ := by
    cases w
    simpa using hval
  obtain ⟨out', hcopy, hout⟩ := (cache_last_write Allocator.granting_succeeds (exec?_exec hr) hty).1
    1 ⟨false, 0, 0, fun _ => 7⟩ 3 (by decide)
  rw [hw, hw'] at hout
  exact ⟨tr, s, out', hr, hcopy, hout⟩

end KvStore
