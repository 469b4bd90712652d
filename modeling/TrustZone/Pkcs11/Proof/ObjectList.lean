import TrustZone.Pkcs11.Module

/-!
# The object list

* `ListOk`: every label array holds a NUL, and a free entry is zeroed.
* `ListReach.ok`: so it is with every list that adding and deleting make.
* `prvAddObjectToList_outcome`: an object is listed already, takes a free entry, or is refused.
* `prvFindObjectInListByLabel_cases`: the first entry whose label starts with the string.
-/

namespace Pkcs11

open Lib Psa

/-! ## Entries -/

/-- An entry: its label array holds a NUL, and a free entry is zeroed. -/
structure P11Object.Ok (o : P11Object) : Prop where
  nul : 0 ∈ o.xLabel
  length : o.xLabel.length = pkcs11configMaxLabelLength + 1
  free : o.xHandle = 0 → o = .zero

/-- Every entry is one. -/
def ListOk (l : P11ObjectList) : Prop := ∀ i, (l.xObjects i).Ok

theorem P11Object.label_zero : P11Object.zero.label = [] := by decide

theorem P11Object.Ok.handle_ne {o : P11Object} (h : o.Ok) (hl : o.label ≠ []) : o.xHandle ≠ 0 := by
  intro h0
  rw [h.free h0] at hl
  exact hl label_zero

theorem blit_free {label : List UInt8} (hl : label.length < pkcs11configMaxLabelLength)
    {o : P11Object} (ho : o.Ok) (hf : o.xHandle = 0) : blit o.xLabel 0 label =
      label ++ 0 :: List.replicate (pkcs11configMaxLabelLength - label.length) 0 := by
  have hn : pkcs11configMaxLabelLength + 1 - label.length =
      (pkcs11configMaxLabelLength - label.length) + 1 := by omega
  rw [ho.free hf, blit_zero, P11Object.zero, List.drop_replicate, hn, List.replicate_succ]

/-- A label written into a free entry. -/
theorem label_blit_zero {label : List UInt8} (h0 : 0 ∉ label)
    (hl : label.length < pkcs11configMaxLabelLength) {o : P11Object} (ho : o.Ok)
    (hf : o.xHandle = 0) (pal : ObjectHandle) :
    (P11Object.mk pal (blit o.xLabel 0 label)).label = label := by
  rw [P11Object.label, blit_free hl ho hf, cstr_append_nul, cstr_of_notMem h0]

theorem ok_blit_zero {label : List UInt8} (hl : label.length < pkcs11configMaxLabelLength)
    {o : P11Object} (ho : o.Ok) (hf : o.xHandle = 0) {pal : ObjectHandle} (hp : pal ≠ 0) :
    (P11Object.mk pal (blit o.xLabel 0 label)).Ok := by
  refine ⟨?_, ?_, fun h => absurd h hp⟩
  · simp [blit_free hl ho hf]
  · simp only [blit_free hl ho hf, List.length_append, List.length_cons, List.length_replicate]
    omega

theorem appHandle_ne (i : Fin pkcs11configMaxNumObjects) : appHandle i ≠ 0 := by
  revert i
  decide

theorem appHandle_inj : ∀ i j : Fin pkcs11configMaxNumObjects, appHandle i = appHandle j → i = j := by
  decide

/-! ## Adding -/

variable {xs : Fin pkcs11configMaxNumObjects → P11Object} {pal : ObjectHandle}

theorem addSearch_inl {is : List (Fin pkcs11configMaxNumObjects)}
    {ins : Option (Fin pkcs11configMaxNumObjects)} {i : Fin pkcs11configMaxNumObjects}
    (h : addSearch xs pal is ins = .inl i) : (xs i).xHandle = pal := by
  induction is generalizing ins with
  | nil => cases h
  | cons j js ih =>
    simp only [addSearch] at h
    split at h
    · cases h; assumption
    · split at h
      · exact ih h
      · exact ih h

theorem addSearch_inr {is : List (Fin pkcs11configMaxNumObjects)}
    {ins o : Option (Fin pkcs11configMaxNumObjects)} (h : addSearch xs pal is ins = .inr o) :
    (∀ j ∈ is, (xs j).xHandle ≠ pal) ∧
      (o = ins ∧ (∀ j ∈ is, (xs j).xHandle ≠ ckInvalidHandle) ∨
        ∃ i, o = some i ∧ (xs i).xHandle = ckInvalidHandle) := by
  induction is generalizing ins with
  | nil => cases h; exact ⟨by simp, .inl ⟨rfl, by simp⟩⟩
  | cons j js ih =>
    simp only [addSearch] at h
    split at h
    · cases h
    · rename_i hpal
      split at h
      · rename_i hfree
        obtain ⟨h1, h2⟩ := ih h
        refine ⟨by simpa [hpal] using h1, .inr ?_⟩
        rcases h2 with ⟨rfl, -⟩ | h2
        · exact ⟨j, rfl, hfree⟩
        · exact h2
      · rename_i hused
        obtain ⟨h1, h2⟩ := ih h
        refine ⟨by simpa [hpal] using h1, ?_⟩
        rcases h2 with ⟨rfl, h2⟩ | h2
        · exact .inl ⟨rfl, by simpa [hused] using h2⟩
        · exact .inr h2

/-- What `prvAddObjectToList` can answer and leave. -/
inductive AddOutcome (l : P11ObjectList) (pal : ObjectHandle) (label : List UInt8) :
    Bool → CkRv × Option ObjectHandle × P11ObjectList → Prop
  | locked : AddOutcome l pal label false (.cantLock, none, l)
  | present (i : Fin pkcs11configMaxNumObjects) : (l.xObjects i).xHandle = pal →
      AddOutcome l pal label true (.ok, some (appHandle i), l)
  | inserted (i : Fin pkcs11configMaxNumObjects) : (∀ j, (l.xObjects j).xHandle ≠ pal) →
      (l.xObjects i).xHandle = ckInvalidHandle → label.length < pkcs11configMaxLabelLength →
      AddOutcome l pal label true (.ok, some (appHandle i), { l with
        xObjects := Function.update l.xObjects i ⟨pal, blit (l.xObjects i).xLabel 0 label⟩ })
  | full : (∀ j, (l.xObjects j).xHandle ≠ pal) → (∀ j, (l.xObjects j).xHandle ≠ ckInvalidHandle) →
      AddOutcome l pal label true (.bufferTooSmall, none, l)
  | long : (∀ j, (l.xObjects j).xHandle ≠ pal) → pkcs11configMaxLabelLength ≤ label.length →
      AddOutcome l pal label true (.dataLenRange, none, l)

/-- **Adding**: the PAL handle is listed already and nothing changes, or the object takes a free entry,
or the list stays as it is. -/
theorem prvAddObjectToList_outcome (lock : Bool) (l : P11ObjectList) (pal : ObjectHandle)
    (label : List UInt8) : AddOutcome l pal label lock (prvAddObjectToList lock l pal label) := by
  have hall : ∀ j, j ∈ (List.finRange pkcs11configMaxNumObjects).reverse := by simp
  unfold prvAddObjectToList
  cases lock with
  | false => exact .locked
  | true =>
    rw [if_pos rfl]
    cases hs : addSearch l.xObjects pal (List.finRange pkcs11configMaxNumObjects).reverse none with
    | inl i => exact .present i (addSearch_inl hs)
    | inr o =>
      obtain ⟨hpal, ho⟩ := addSearch_inr hs
      rcases ho with ⟨rfl, hfull⟩ | ⟨i, rfl, hfree⟩
      · exact .full (fun j => hpal j (hall j)) fun j => hfull j (hall j)
      · by_cases hl : label.length < pkcs11configMaxLabelLength
        · simp only [if_pos hl]
          exact .inserted i (fun j => hpal j (hall j)) hfree hl
        · simp only [if_neg hl]
          exact .long (fun j => hpal j (hall j)) (not_lt.1 hl)

/-- Adding under a short label, with the mutex. -/
theorem prvAddObjectToList_cases (l : P11ObjectList) (pal : ObjectHandle) {label : List UInt8}
    (hl : label.length < pkcs11configMaxLabelLength) :
    (∃ i, (l.xObjects i).xHandle = pal ∧
      prvAddObjectToList true l pal label = (.ok, some (appHandle i), l)) ∨
    (∃ i, (∀ j, (l.xObjects j).xHandle ≠ pal) ∧ (l.xObjects i).xHandle = ckInvalidHandle ∧
      prvAddObjectToList true l pal label = (.ok, some (appHandle i), { l with
        xObjects := Function.update l.xObjects i ⟨pal, blit (l.xObjects i).xLabel 0 label⟩ })) ∨
    ((∀ j, (l.xObjects j).xHandle ≠ pal) ∧ (∀ j, (l.xObjects j).xHandle ≠ ckInvalidHandle) ∧
      prvAddObjectToList true l pal label = (.bufferTooSmall, none, l)) := by
  have ho := prvAddObjectToList_outcome true l pal label
  generalize prvAddObjectToList true l pal label = r at ho ⊢
  cases ho with
  | present i hi => exact .inl ⟨i, hi, rfl⟩
  | inserted i habsent hfree _ => exact .inr (.inl ⟨i, habsent, hfree, rfl⟩)
  | full habsent hfull => exact .inr (.inr ⟨habsent, hfull, rfl⟩)
  | long _ hlong => exact absurd hl (not_lt.2 hlong)

/-! ## The lists of the module -/

/-- The lists that adding and deleting make of the zeroed list of `C_Initialize`. -/
inductive ListReach : P11ObjectList → Prop
  | init (before : Int → P11Object) : ListReach ⟨fun _ => .zero, before⟩
  | add {l : P11ObjectList} (lock : Bool) (pal : ObjectHandle) (label : List UInt8) :
      ListReach l → ListReach (prvAddObjectToList lock l pal label).2.2
  | delete {l : P11ObjectList} (lock : Bool) (xAppHandle : ObjectHandle) :
      ListReach l → ListReach (prvDeleteObjectFromList lock l xAppHandle).2

theorem P11Object.zero_ok : P11Object.zero.Ok := ⟨by decide, by decide, fun _ => rfl⟩

theorem ListOk.update {l : P11ObjectList} (h : ListOk l) {o : P11Object} (ho : o.Ok)
    (i : Fin pkcs11configMaxNumObjects) :
    ListOk { l with xObjects := Function.update l.xObjects i o } := by
  intro j
  by_cases hj : j = i
  · subst hj
    simpa using ho
  · simpa [Function.update_of_ne hj] using h j

theorem ListOk.set {l : P11ObjectList} (h : ListOk l) {o : P11Object} (ho : o.Ok) (i : Int) :
    ListOk (l.set i o) := by
  unfold P11ObjectList.set
  split
  · exact h.update ho _
  · exact h

theorem ListOk.add {l : P11ObjectList} (h : ListOk l) (lock : Bool) (pal : ObjectHandle)
    (label : List UInt8) : ListOk (prvAddObjectToList lock l pal label).2.2 := by
  have ho := prvAddObjectToList_outcome lock l pal label
  generalize prvAddObjectToList lock l pal label = r at ho ⊢
  cases ho with
  | inserted i habsent hfree hl =>
    -- a free entry is not the one of `pal`
    have hp : pal ≠ 0 := fun h0 => habsent i (hfree.trans h0.symm)
    exact h.update (ok_blit_zero hl (h i) hfree hp) i
  | locked | present | full | long => exact h

theorem ListOk.delete {l : P11ObjectList} (h : ListOk l) (lock : Bool) (xAppHandle : ObjectHandle) :
    ListOk (prvDeleteObjectFromList lock l xAppHandle).2 := by
  unfold prvDeleteObjectFromList
  dsimp only
  split_ifs
  · exact h.set P11Object.zero_ok _
  all_goals exact h

/-- **Reachable lists**: every list of the module is well formed. -/
theorem ListReach.ok {l : P11ObjectList} (h : ListReach l) : ListOk l := by
  induction h with
  | init before => exact fun _ => P11Object.zero_ok
  | add lock pal label _ ih => exact ih.add lock pal label
  | delete lock xAppHandle _ ih => exact ih.delete lock xAppHandle

/-! ## Finding -/

/-- **Finding by label**: the first entry whose label starts with the string, if there is one. -/
theorem prvFindObjectInListByLabel_cases (l : P11ObjectList) {c : List UInt8} (hc : 0 ∉ c) :
    (∃ i, c <+: (l.xObjects i).label ∧ (∀ j < i, ¬c <+: (l.xObjects j).label) ∧
      prvFindObjectInListByLabel l c = ((l.xObjects i).xHandle, appHandle i)) ∨
    ((∀ j, ¬c <+: (l.xObjects j).label) ∧
      prvFindObjectInListByLabel l c = (ckInvalidHandle, ckInvalidHandle)) := by
  have hp : ∀ j, c.isPrefixOf (l.xObjects j).xLabel = true ↔ c <+: (l.xObjects j).label :=
    fun j => List.isPrefixOf_iff_prefix.trans (prefix_cstr hc)
  unfold prvFindObjectInListByLabel
  cases hf : (List.finRange pkcs11configMaxNumObjects).find?
      (fun i => c.isPrefixOf (l.xObjects i).xLabel) with
  | none =>
    refine .inr ⟨fun j hj => ?_, rfl⟩
    exact List.find?_eq_none.1 hf j (List.mem_finRange j) ((hp j).2 hj)
  | some i =>
    obtain ⟨hi, as, bs, hsplit, hbefore⟩ := List.find?_eq_some_iff_append.1 hf
    refine .inl ⟨i, (hp i).1 hi, fun j hj hpre => ?_, rfl⟩
    -- an index below `i` stands before it in the range
    have hmem : j ∈ as := by
      have hsorted : (as ++ i :: bs).Pairwise (· < ·) := hsplit ▸ List.pairwise_lt_finRange _
      have hin : j ∈ as ++ i :: bs := hsplit ▸ List.mem_finRange j
      rcases List.mem_append.1 hin with h | h
      · exact h
      · rcases List.mem_cons.1 h with rfl | h
        · exact absurd hj (lt_irrefl _)
        · have := (List.pairwise_cons.1 (List.pairwise_append.1 hsorted).2.1).1 j h
          exact absurd hj (lt_asymm this)
    have := hbefore j hmem
    rw [(hp j).2 hpre] at this
    cases this

end Pkcs11
