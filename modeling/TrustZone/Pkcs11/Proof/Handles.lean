import TrustZone.Pkcs11.GetAttributeValue
import TrustZone.Pkcs11.SignVerify
import TrustZone.Pkcs11.Proof.DestroyObject

/-!
# Object handles

The index of a handle is the handle less one, as a signed number, and it is compared with the upper bound
only: the handle 0 and those above 2^31 read what lies before the array. Past the array, the deletion answers
`CKR_CANT_LOCK`; and `C_DestroyObject` answers `CKR_OK` to a handle that names nothing.

* `findLaw_iff`, `deleteLaw_iff`: when the two functions on the list do what they should.
* `handle_law_iff`: when each function that takes a handle does.
-/

namespace Pkcs11

open Lib Psa

variable {κ : Type} {l : P11ObjectList} {xAppHandle : ObjectHandle}

/-! ## Indices -/

/-- The handle of an object in the list. -/
def Names (l : P11ObjectList) (xAppHandle : ObjectHandle) : Prop :=
  ∃ i, xAppHandle = appHandle i ∧ (l.xObjects i).xHandle ≠ ckInvalidHandle

/-- The index is not negative. -/
def InRange (xAppHandle : ObjectHandle) : Prop := xAppHandle ≠ 0 ∧ xAppHandle.toNat ≤ 2 ^ 31

theorem toInt_pred (h : ObjectHandle) : (h - 1).toInt =
    if h = 0 then -1 else if h.toNat ≤ 2 ^ 31 then (h.toNat : Int) - 1 else (h.toNat : Int) - 1 - 2 ^ 32 := by
  have hlt := h.isLt
  have hzero : h = 0 ↔ h.toNat = 0 := by
    rw [← BitVec.toNat_inj]
    rfl
  have hone : (1 : ObjectHandle).toNat = 1 := rfl
  rw [BitVec.toInt_eq_toNat_cond, BitVec.toNat_sub, hone]
  simp only [hzero]
  split_ifs <;> omega

theorem index_nonneg : 0 ≤ (xAppHandle - 1).toInt ↔ InRange xAppHandle := by
  have hlt := xAppHandle.isLt
  have hzero : xAppHandle = 0 ↔ xAppHandle.toNat = 0 := by
    rw [← BitVec.toNat_inj]
    rfl
  rw [toInt_pred, InRange, ne_eq]
  split_ifs with h0 hle
  · simp [h0]
  · rw [hzero] at h0
    exact iff_of_true (by omega) ⟨by rwa [hzero], hle⟩
  · exact iff_of_false (by omega) fun h => hle h.2

/-- An index that is not negative and below the upper bound is one of the array. -/
theorem inArray_of_index (h : InRange xAppHandle)
    (hlt : (xAppHandle - 1).toInt < (pkcs11configMaxNumObjects : Nat)) : InArray xAppHandle := by
  have hle := h.2
  rw [toInt_pred, if_neg h.1, if_pos hle] at hlt
  have hzero : xAppHandle.toNat ≠ 0 := fun h0 => h.1 (BitVec.eq_of_toNat_eq h0)
  refine ⟨⟨xAppHandle.toNat - 1, by omega⟩, ?_⟩
  apply BitVec.eq_of_toNat_eq
  rw [appHandle, BitVec.toNat_ofNat]
  dsimp only
  omega

theorem InArray.inRange (h : InArray xAppHandle) : InRange xAppHandle := by
  obtain ⟨i, rfl⟩ := h
  rw [← index_nonneg, index_appHandle]
  exact Int.natCast_nonneg _

theorem Names.inArray (h : Names l xAppHandle) : InArray xAppHandle := by
  obtain ⟨i, hi, -⟩ := h
  exact ⟨i, hi⟩

theorem names_appHandle {i : Fin pkcs11configMaxNumObjects} :
    Names l (appHandle i) ↔ (l.xObjects i).xHandle ≠ ckInvalidHandle := by
  constructor
  · rintro ⟨j, hj, hne⟩
    rwa [appHandle_inj i j hj]
  · exact fun hne => ⟨i, rfl, hne⟩

/-! ## The list -/

/-- **What the search for a handle should do**: what lies before the array does not matter, and the object in
the slot is reported, or none. -/
structure FindLaw (l : P11ObjectList) (xAppHandle : ObjectHandle) : Prop where
  inside : ∀ before, prvFindObjectInListByHandle { l with before := before } xAppHandle =
    prvFindObjectInListByHandle l xAppHandle
  named : ∀ i, xAppHandle = appHandle i → (l.xObjects i).xHandle ≠ ckInvalidHandle →
    prvFindObjectInListByHandle l xAppHandle =
      ((l.xObjects i).xHandle, some ((l.xObjects i).label ++ [0]))
  unnamed : ¬Names l xAppHandle → prvFindObjectInListByHandle l xAppHandle = (ckInvalidHandle, none)

/-- **What the deletion of a handle should do**: what lies before the array does not matter and stays, and the
object in the slot is removed, or there is none and the list stays. -/
structure DeleteLaw (lock : Bool) (l : P11ObjectList) (xAppHandle : ObjectHandle) : Prop where
  inside : ∀ before, prvDeleteObjectFromList lock { l with before := before } xAppHandle =
    ((prvDeleteObjectFromList lock l xAppHandle).1,
      { (prvDeleteObjectFromList lock l xAppHandle).2 with before := before })
  named : ∀ i, xAppHandle = appHandle i → (l.xObjects i).xHandle ≠ ckInvalidHandle →
    prvDeleteObjectFromList lock l xAppHandle =
      (.ok, { l with xObjects := Function.update l.xObjects i .zero })
  unnamed : ¬Names l xAppHandle → prvDeleteObjectFromList lock l xAppHandle = (.objectHandleInvalid, l)

theorem at_before {i : Int} (h : i < 0) (l : P11ObjectList) : l.at i = l.before i := by
  rw [P11ObjectList.at, dif_neg]
  exact fun hi => absurd hi.1 (Int.not_le.2 h)

/-- Before the array, an object is reported or not as the memory there has it. -/
theorem find_before (h : ¬InRange xAppHandle) (l : P11ObjectList) :
    prvFindObjectInListByHandle { l with before := fun _ => ⟨1, []⟩ } xAppHandle ≠
      prvFindObjectInListByHandle { l with before := fun _ => .zero } xAppHandle := by
  have hneg : (xAppHandle - 1).toInt < 0 := Int.not_le.1 fun hle => h (index_nonneg.1 hle)
  have hlt : (xAppHandle - 1).toInt < (pkcs11configMaxNumObjects : Nat) := hneg.trans_le (Int.natCast_nonneg _)
  simp only [prvFindObjectInListByHandle, if_pos hlt, at_before hneg]
  decide

theorem findLaw_iff : FindLaw l xAppHandle ↔ InRange xAppHandle := by
  constructor
  · intro h
    by_contra hrange
    exact find_before hrange l ((h.inside _).trans (h.inside _).symm)
  · intro h
    by_cases hlt : (xAppHandle - 1).toInt < (pkcs11configMaxNumObjects : Nat)
    · obtain ⟨i, rfl⟩ := inArray_of_index h hlt
      refine ⟨?_, ?_, ?_⟩
      · intro before
        rw [prvFindObjectInListByHandle_appHandle, prvFindObjectInListByHandle_appHandle]
      · intro j hj hne
        obtain rfl := appHandle_inj i j hj
        rw [prvFindObjectInListByHandle_appHandle, if_pos hne]
      · intro hnames
        rw [prvFindObjectInListByHandle_appHandle, if_neg fun hne => hnames (names_appHandle.2 hne)]
    · have hnone : ∀ l, prvFindObjectInListByHandle l xAppHandle = (ckInvalidHandle, none) :=
        fun l => if_neg hlt
      refine ⟨fun before => (hnone _).trans (hnone _).symm, ?_, fun _ => hnone l⟩
      rintro i rfl -
      exact absurd (index_appHandle i ▸ by exact_mod_cast i.isLt) hlt

/-- Past the array, the answer is not that of the handle. -/
theorem delete_past (lock : Bool) (l : P11ObjectList)
    (hlt : ¬(xAppHandle - 1).toInt < (pkcs11configMaxNumObjects : Nat)) :
    prvDeleteObjectFromList lock l xAppHandle = (.cantLock, l) := if_neg hlt

theorem delete_before (h : ¬InRange xAppHandle) (l : P11ObjectList) :
    (prvDeleteObjectFromList true { l with before := fun _ => ⟨1, []⟩ } xAppHandle).1 = .ok ∧
      (prvDeleteObjectFromList true { l with before := fun _ => .zero } xAppHandle).1 = .objectHandleInvalid := by
  have hneg : (xAppHandle - 1).toInt < 0 := Int.not_le.1 fun hle => h (index_nonneg.1 hle)
  have hlt : (xAppHandle - 1).toInt < (pkcs11configMaxNumObjects : Nat) := hneg.trans_le (Int.natCast_nonneg _)
  simp only [prvDeleteObjectFromList, if_pos hlt, at_before hneg]
  exact ⟨rfl, rfl⟩

theorem deleteLaw_iff {lock : Bool} : DeleteLaw lock l xAppHandle ↔ lock = true ∧ InArray xAppHandle := by
  constructor
  · intro h
    have hout : ∀ {r}, prvDeleteObjectFromList lock l xAppHandle = (.cantLock, r) → False := by
      intro r hr
      by_cases hnames : Names l xAppHandle
      · obtain ⟨i, hi, hne⟩ := hnames
        have hok := hr.symm.trans (h.named i hi hne)
        cases hok
      · have hinvalid := hr.symm.trans (h.unnamed hnames)
        cases hinvalid
    cases lock with
    | false => exact (hout (prvDeleteObjectFromList_unlocked l xAppHandle)).elim
    | true =>
      refine ⟨rfl, ?_⟩
      by_cases hrange : InRange xAppHandle
      · by_cases hlt : (xAppHandle - 1).toInt < (pkcs11configMaxNumObjects : Nat)
        · exact inArray_of_index hrange hlt
        · exact (hout (delete_past true l hlt)).elim
      · obtain ⟨hok, hinvalid⟩ := delete_before hrange l
        rw [h.inside] at hok hinvalid
        cases hok.symm.trans hinvalid
  · rintro ⟨rfl, i, rfl⟩
    refine ⟨?_, ?_, ?_⟩
    · intro before
      rw [prvDeleteObjectFromList_appHandle, prvDeleteObjectFromList_appHandle, if_pos rfl, if_pos rfl]
      split_ifs <;> rfl
    · intro j hj hne
      obtain rfl := appHandle_inj i j hj
      rw [prvDeleteObjectFromList_appHandle, if_pos rfl, if_pos hne]
    · intro hnames
      rw [prvDeleteObjectFromList_appHandle, if_pos rfl, if_neg fun hne => hnames (names_appHandle.2 hne)]

/-! ## Every function with a handle -/

/-- A function that takes a handle, its other arguments, and what it is answered. -/
inductive HandleCall
  | prvFindObjectInListByHandle
  | prvDeleteObjectFromList (lock : Bool)
  | cDestroyObject (a : RemoveAns) (lock : Bool)
  | cGetAttributeValue (env : ValueEnv) (first : CkAttribute) (rest : List CkAttribute)
  | cSignInit (env : SignEnv) (mechanism : MechanismType)
  | cVerifyInit (env : SignEnv) (mechanism : MechanismType)

/-- An error about a handle. -/
def CkRv.OfHandle (rv : CkRv) : Prop := rv = .objectHandleInvalid ∨ rv = .keyHandleInvalid

/-- The handle is looked up in the array, and one that names nothing is refused. -/
structure Rejects (d : Device κ) (xSession : SessionHandle) (xObject : ObjectHandle) (rv : Option CkRv) :
    Prop where
  lookup : FindLaw d.p11.xObjectList xObject
  refused : ∀ h, sessionCheck d.p11 xSession = .ok h → ¬Names d.p11.xObjectList xObject →
    ∃ e, rv = some e ∧ e.OfHandle

/-- **What a function should do with a handle.** -/
def HandleLaw (d : Device κ) (xSession : SessionHandle) (xObject : ObjectHandle) : HandleCall → Prop
  | .prvFindObjectInListByHandle => FindLaw d.p11.xObjectList xObject
  | .prvDeleteObjectFromList lock => DeleteLaw lock d.p11.xObjectList xObject
  | .cDestroyObject a lock =>
      Rejects d xSession xObject (some (Pkcs11.cDestroyObject d xSession xObject a lock).1)
  | .cGetAttributeValue env first rest => Rejects d xSession xObject
      ((Pkcs11.cGetAttributeValue env d.p11 xSession xObject (some (first :: rest))).map Prod.fst)
  | .cSignInit env mechanism =>
      Rejects d xSession xObject (some (Pkcs11.cSignInit env d.p11 xSession (some mechanism) xObject).1)
  | .cVerifyInit env mechanism =>
      Rejects d xSession xObject (some (Pkcs11.cVerifyInit env d.p11 xSession (some mechanism) xObject).1)

/-- When it does. -/
def HandleRight (d : Device κ) (xSession : SessionHandle) (xObject : ObjectHandle) : HandleCall → Prop
  | .prvDeleteObjectFromList lock => lock = true ∧ InArray xObject
  | .cDestroyObject _ _ => InRange xObject ∧
      ∀ h, sessionCheck d.p11 xSession = .ok h → Names d.p11.xObjectList xObject
  | _ => InRange xObject

theorem rejects_iff {d : Device κ} {xSession : SessionHandle} {xObject : ObjectHandle} {rv : Option CkRv}
    (hrefused : ∀ h, sessionCheck d.p11 xSession = .ok h →
      prvFindObjectInListByHandle d.p11.xObjectList xObject = (ckInvalidHandle, none) →
      ∃ e, rv = some e ∧ e.OfHandle) :
    Rejects d xSession xObject rv ↔ InRange xObject := by
  constructor
  · exact fun h => findLaw_iff.1 h.lookup
  · intro h
    have hlookup : FindLaw d.p11.xObjectList xObject := findLaw_iff.2 h
    exact ⟨hlookup, fun k hk hnames => hrefused k hk (hlookup.unnamed hnames)⟩

theorem destroy_rejects_iff {d : Device κ} {xSession : SessionHandle} {xObject : ObjectHandle}
    (a : RemoveAns) (lock : Bool) :
    Rejects d xSession xObject (some (cDestroyObject d xSession xObject a lock).1) ↔
      InRange xObject ∧ ∀ h, sessionCheck d.p11 xSession = .ok h → Names d.p11.xObjectList xObject := by
  constructor
  · intro h
    refine ⟨findLaw_iff.1 h.lookup, fun k hk => ?_⟩
    by_contra hnames
    -- a handle that names nothing is answered with `CKR_OK`
    have hok : (cDestroyObject d xSession xObject a lock).1 = .ok := by
      unfold cDestroyObject
      rw [hk, h.lookup.unnamed hnames]
    obtain ⟨e, he, hof⟩ := h.refused k hk hnames
    rw [hok] at he
    obtain rfl := Option.some.inj he
    rcases hof with hof | hof <;> cases hof
  · intro h
    exact ⟨findLaw_iff.2 h.1, fun k hk hnames => absurd (h.2 k hk) hnames⟩

/-- **Each function with a handle** does what it should exactly when its index is not negative; for the deletion
the handle is in the array and the mutex taken, and for `C_DestroyObject` it names an object, if the session is
open. -/
theorem handle_law_iff (d : Device κ) (xSession : SessionHandle) (xObject : ObjectHandle) (c : HandleCall) :
    HandleLaw d xSession xObject c ↔ HandleRight d xSession xObject c := by
  cases c with
  | prvFindObjectInListByHandle => exact findLaw_iff
  | prvDeleteObjectFromList lock => exact deleteLaw_iff
  | cDestroyObject a lock => exact destroy_rejects_iff a lock
  | cGetAttributeValue env first rest =>
    apply rejects_iff
    intro h hs hf
    simp only [Pkcs11.cGetAttributeValue, hs, hf]
    exact ⟨_, rfl, .inl rfl⟩
  | cSignInit env mechanism =>
    apply rejects_iff
    intro h hs hf
    simp only [Pkcs11.cSignInit, hs, hf]
    exact ⟨_, rfl, .inr rfl⟩
  | cVerifyInit env mechanism =>
    apply rejects_iff
    intro h hs hf
    simp only [Pkcs11.cVerifyInit, hs, hf]
    exact ⟨_, rfl, .inr rfl⟩

/-- An empty list, and something else before the array. -/
def emptyListed : Device Unit :=
  { initializedDevice with
    p11 := { initializedDevice.p11 with xObjectList := ⟨fun _ => .zero, fun _ => ⟨1, []⟩⟩ } }

/-- The handle 0 names an object, the deletion of 7 is not refused for its handle, and destroying 7 succeeds. -/
theorem handle_missed :
    (prvFindObjectInListByHandle emptyListed.p11.xObjectList 0).1 = 1 ∧
    ¬HandleLaw emptyListed (some 0) 0 .prvFindObjectInListByHandle ∧
    (prvDeleteObjectFromList true emptyListed.p11.xObjectList 7).1 = .cantLock ∧
    ¬HandleLaw emptyListed (some 0) 7 (.prvDeleteObjectFromList true) ∧
    (cDestroyObject emptyListed (some 0) 7 removeAns true).1 = .ok ∧
    ¬HandleLaw emptyListed (some 0) 7 (.cDestroyObject removeAns true) := by
  have hdelete : (prvDeleteObjectFromList true emptyListed.p11.xObjectList 7).1 = .cantLock := by decide +kernel
  have hdestroy : (cDestroyObject emptyListed (some 0) 7 removeAns true).1 = .ok := by decide +kernel
  have hsession : sessionCheck emptyListed.p11 (some 0) = .ok 0 := by decide +kernel
  have hnames : ∀ h, ¬Names emptyListed.p11.xObjectList h := by
    rintro h ⟨i, -, hne⟩
    exact hne rfl
  refine ⟨by decide +kernel, fun h => (findLaw_iff.1 h).1 rfl, hdelete, ?_, hdestroy, ?_⟩
  · intro h
    cases hdelete.symm.trans (congrArg Prod.fst (h.unnamed (hnames 7)))
  · intro h
    obtain ⟨e, he, hof⟩ := h.refused 0 hsession (hnames 7)
    rw [hdestroy] at he
    obtain rfl := Option.some.inj he
    rcases hof with hof | hof <;> cases hof

end Pkcs11
