import TrustZone.Pkcs11.Proof.GenerateKeyPair
import TrustZone.Pkcs11.Proof.TokenObjects

/-!
# Destroying an object

`C_DestroyObject` answers `CKR_OK` to a handle that names nothing, removes the object before it takes
the mutex of the list, and removes no more than what `P11KeyConfig` has marked. `Removable` says when
that is no harm; `destroy_law_iff` that it is exactly then that the call does what it should
(`DestroyLaw`).
-/

namespace Pkcs11

open Lib Psa Crypto Machine

variable {κ ρ ε : Type}

/-! ## Removing an object -/

/-- The PSA call of a removal fails. -/
def Blocked (d : Device κ) (a : RemoveAns) : TokenObject → Prop
  | .key k => a.destroyKey ≠ none ∨ d.psa.keys (d.p11.p11KeyConfig.handle k).toNat = none
  | .certificate c => a.psRemove ≠ none ∨ d.psa.objects c.uid = none

/-- It fails with the key gone. -/
def ErasesStored (d : Device κ) (a : RemoveAns) : TokenObject → Prop
  | .key k => a.Erases ∧ d.psa.keys (d.p11.p11KeyConfig.handle k).toNat ≠ none
  | .certificate _ => False

/-- PSA has a key under the fixed id that is not the recorded one. -/
def OtherCopy (d : Device κ) : TokenObject → Prop
  | .key k => d.p11.p11KeyConfig.handle k ≠ k.keyId ∧ d.psa.keys k.keyId.toNat ≠ none
  | .certificate _ => False

/-- What a removal can do. -/
inductive Removal (d : Device κ) (a : RemoveAns) (o : TokenObject) : CkRv × Device κ → Prop
  | unmarked : o.marked d.p11.p11KeyConfig = false → Removal d a o (.ok, d)
  | blocked {psa : PsaStores κ} : o.marked d.p11.p11KeyConfig = true → Blocked d a o →
      psa.objects = d.psa.objects → (psa.keys = d.psa.keys ↔ ¬ErasesStored d a o) →
      Removal d a o (.functionFailed, ⟨d.p11, psa⟩)
  | removed {cfg : P11KeyConfig} {psa : PsaStores κ} : o.marked d.p11.p11KeyConfig = true →
      ¬Blocked d a o → o.marked cfg = false → (o.Stored psa ↔ OtherCopy d o) →
      Removal d a o (.ok, ⟨{ d.p11 with p11KeyConfig := cfg }, psa⟩)

theorem removeKey_removal {d : Device κ} (hs : Slots d.keyState) (a : RemoveAns) (k : DeviceKey) :
    Removal d a (.key k) (removeObject d (k.label ++ [0]) true a) := by
  unfold removeObject
  rw [remove_key]
  unfold removeKey
  by_cases hm : d.p11.p11KeyConfig.mark k = true
  swap
  · rw [if_neg hm]
    exact .unmarked (Bool.eq_false_iff.2 hm)
  have h0 : d.p11.p11KeyConfig.handle k ≠ 0 := (hs k hm).ne_zero
  rw [if_pos hm, if_pos rfl]
  unfold PsaStores.destroyKey psaDestroyKey
  rw [if_neg h0]
  cases hf : a.destroyKey with
  | some f =>
    obtain ⟨e, erased⟩ := f
    have hb : Blocked d a (.key k) := .inl (by rw [hf]; exact Option.some_ne_none _)
    simp only [e.2, if_false, ne_eq, not_false_eq_true, if_true]
    refine .blocked hm hb rfl ?_
    cases erased with
    | false =>
      have : ¬a.Erases := by
        rintro ⟨e', he'⟩
        rw [hf] at he'
        cases he'
      simp [ErasesStored, this]
    | true =>
      have he : a.Erases := ⟨e, hf⟩
      simp only [ErasesStored, he, true_and, ne_eq, not_not, if_true]
      constructor
      · intro h
        rw [← h, Function.update_self]
      · intro h
        rw [← h, Function.update_eq_self]
  | none =>
    have he : ¬a.Erases := by
      rintro ⟨e', he'⟩
      rw [hf] at he'
      cases he'
    by_cases hn : d.psa.keys (d.p11.p11KeyConfig.handle k).toNat = none
    · simp only [hn, if_true, (by decide : psaErrorInvalidHandle ≠ psaSuccess), if_false, ne_eq,
        not_false_eq_true]
      exact .blocked hm (.inr hn) rfl (by simp [ErasesStored, he])
    · have hb : ¬Blocked d a (.key k) := by
        rintro (h | h)
        · exact h hf
        · exact hn h
      simp only [hn, if_false, if_true, ne_eq, not_true_eq_false]
      refine .removed hm hb ?_ ?_
      · exact P11KeyConfig.mark_setKey_self _ _ _ k
      · by_cases hk : k.keyId.toNat = (d.p11.p11KeyConfig.handle k).toNat
        · simp [TokenObject.Stored, OtherCopy, hk, BitVec.eq_of_toNat_eq hk]
        · have hne : d.p11.p11KeyConfig.handle k ≠ k.keyId := fun h => hk (congrArg _ h.symm)
          simp [TokenObject.Stored, OtherCopy, Function.update_of_ne hk, hne]

theorem removeCertificate_removal (d : Device κ) (a : RemoveAns) (x : DeviceCertificate) :
    Removal d a (.certificate x) (removeObject d (x.label ++ [0]) true a) := by
  unfold removeObject
  rw [remove_certificate]
  unfold removeCertificate
  by_cases hm : x.marked d.p11.p11KeyConfig = true
  swap
  · rw [if_neg hm]
    exact .unmarked (Bool.eq_false_iff.2 hm)
  rw [if_pos hm]
  unfold PsaStores.psRemove
  cases hf : a.psRemove with
  | some e =>
    have hb : Blocked d a (.certificate x) := .inl (by rw [hf]; exact Option.some_ne_none _)
    simp only [e.2, ne_eq, not_false_eq_true, if_true]
    exact .blocked hm hb rfl (by simp [ErasesStored])
  | none =>
    by_cases hn : d.psa.objects x.uid = none
    · simp only [hn, if_true, (by decide : psaErrorDoesNotExist ≠ psaSuccess), ne_eq,
        not_false_eq_true]
      exact .blocked hm (.inr hn) rfl (by simp [ErasesStored])
    · have hb : ¬Blocked d a (.certificate x) := by
        rintro (h | h)
        · exact h hf
        · exact hn h
      simp only [hn, if_false, ne_eq, not_true_eq_false]
      refine .removed hm hb ?_ ?_
      · cases x <;> rfl
      · simp [TokenObject.Stored, OtherCopy]

/-- **Removing an object** by its label. -/
theorem removeObject_removal {d : Device κ} (hs : Slots d.keyState) (a : RemoveAns)
    (o : TokenObject) : Removal d a o (removeObject d (o.label ++ [0]) true a) := by
  cases o with
  | key k => exact removeKey_removal hs a k
  | certificate x => exact removeCertificate_removal d a x

/-! ## The law -/

/-- Whatever calls follow, as long as none creates an object with the label, a search does not find
it. -/
def NeverFound (mbed : Mbed ρ ε κ) (publicKey : κ → List UInt8) (d : Device κ) (o : TokenObject) :
    Prop :=
  ∀ tr d', Exec (tokenMachine mbed publicKey) d tr d' →
    (∀ e ∈ tr, ¬CreatesLabel mbed e.pre o.label e.inp) → ∀ a rv count,
      (findByLabel (d'.findEnv a) d'.p11 rv o.label count).pxObject = ckInvalidHandle ∧
        (findByLabel (d'.findEnv a) d'.p11 rv o.label count).pulObjectCount = count

/-- **What `C_DestroyObject` should do**: it succeeds on the handle of a listed object, which is gone
then and is not found again; it fails on any other; and when it fails, nothing has changed. -/
structure DestroyLaw (mbed : Mbed ρ ε κ) (publicKey : κ → List UInt8) (d : Device κ)
    (xObject : ObjectHandle) (r : CkRv × Device κ) : Prop where
  done : r.1 = .ok → ∃ (i : Fin pkcs11configMaxNumObjects) (o : TokenObject), xObject = appHandle i ∧
    (d.p11.xObjectList.xObjects i).xHandle = o.pal ∧ (d.p11.xObjectList.xObjects i).label = o.label ∧
    Gone r.2 o ∧ NeverFound mbed publicKey r.2 o
  unnamed : (∀ i, xObject = appHandle i → (d.p11.xObjectList.xObjects i).xHandle = ckInvalidHandle) →
    r.1 ≠ .ok
  failed : r.1 ≠ .ok → r.2.p11.xObjectList = d.p11.xObjectList ∧
    r.2.p11.p11KeyConfig = d.p11.p11KeyConfig ∧ r.2.psa.keys = d.psa.keys ∧
    r.2.psa.objects = d.psa.objects

/-- The handle is an index into the array. -/
def InArray (xObject : ObjectHandle) : Prop :=
  ∃ i : Fin pkcs11configMaxNumObjects, xObject = appHandle i

/-- The removal of an object leaves everything or nothing. If the object is marked, PSA refuses to
remove it and keeps it, or the mutex is taken, the handle is in the array and there is no other copy;
if it is not, the mutex is not taken, or the handle is in the array and PSA has no copy. -/
structure Removable (d : Device κ) (xObject : ObjectHandle) (a : RemoveAns) (lock : Bool)
    (o : TokenObject) : Prop where
  marked : o.marked d.p11.p11KeyConfig = true → Blocked d a o ∧ ¬ErasesStored d a o ∨
    ¬Blocked d a o ∧ lock = true ∧ InArray xObject ∧ ¬OtherCopy d o
  unmarked : o.marked d.p11.p11KeyConfig = false → lock = false ∨ InArray xObject ∧ ¬o.Stored d.psa

/-- If the session is open, the handle reads an entry, whose label is none of the token's or that of an
object that can be removed. -/
def DestroysWhole (d : Device κ) (xSession : SessionHandle) (xObject : ObjectHandle) (a : RemoveAns)
    (lock : Bool) : Prop :=
  ∀ h, sessionCheck d.p11 xSession = .ok h → ∃ pal label,
    prvFindObjectInListByHandle d.p11.xObjectList xObject = (pal, some (label ++ [0])) ∧
      ((∀ o : TokenObject, label ≠ o.label) ∨
        ∃ o : TokenObject, label = o.label ∧ Removable d xObject a lock o)

/-! ### The list -/

theorem prvFindObjectInListByHandle_cases (l : P11ObjectList) (xObject : ObjectHandle) :
    prvFindObjectInListByHandle l xObject = (ckInvalidHandle, none) ∨
      ∃ pal label, prvFindObjectInListByHandle l xObject = (pal, some (label ++ [0])) ∧
        (prvDeleteObjectFromList true l xObject).1 = .ok := by
  unfold prvFindObjectInListByHandle prvDeleteObjectFromList
  dsimp only
  split
  · split
    · exact .inr ⟨_, _, rfl, rfl⟩
    · exact .inl rfl
  · exact .inl rfl

theorem prvDeleteObjectFromList_unlocked (l : P11ObjectList) (xObject : ObjectHandle) :
    prvDeleteObjectFromList false l xObject = (.cantLock, l) := by
  unfold prvDeleteObjectFromList
  dsimp only
  split
  · rfl
  · rfl

/-- The slot of the object that a handle in the array names. -/
theorem Listed.named {l : P11ObjectList} (h : Listed l) {i : Fin pkcs11configMaxNumObjects}
    {pal : ObjectHandle} {o : TokenObject}
    (hf : prvFindObjectInListByHandle l (appHandle i) = (pal, some (o.label ++ [0]))) :
    (l.xObjects i).xHandle = o.pal ∧ (l.xObjects i).label = o.label := by
  rw [prvFindObjectInListByHandle_appHandle] at hf
  split at hf
  swap
  · cases hf
  rename_i hne
  simp only [Prod.mk.injEq, Option.some.injEq, List.append_cancel_right_eq] at hf
  obtain ⟨o', hpal, hlab⟩ := (h.stands i hne).object
  rw [hf.2] at hlab
  rw [TokenObject.label_prefix_inj hlab]
  exact ⟨hpal, hf.2.trans (congrArg _ (TokenObject.label_prefix_inj hlab))⟩

/-- Deleting its slot removes the object from the list. -/
theorem Listed.delete_named {l : P11ObjectList} (h : Listed l) {i : Fin pkcs11configMaxNumObjects}
    {o : TokenObject} (hi : (l.xObjects i).xHandle = o.pal) :
    ¬Lists (prvDeleteObjectFromList true l (appHandle i)).2 o.pal := by
  have hne : (l.xObjects i).xHandle ≠ ckInvalidHandle := hi ▸ o.pal_ne
  rw [prvDeleteObjectFromList_appHandle, if_pos rfl, if_pos hne]
  rintro ⟨j, hj⟩
  by_cases hji : j = i
  · subst hji
    simp only [Function.update_self] at hj
    exact o.pal_ne hj.symm
  · simp only [Function.update_of_ne hji] at hj
    exact hji (h.unique j i (hj ▸ o.pal_ne) (hj.trans hi.symm))

theorem Gone.neverFound {mbed : Mbed ρ ε κ} {publicKey : κ → List UInt8} {d : Device κ}
    {o : TokenObject} (h : Gone d o) (hl : Listed d.p11.xObjectList) :
    NeverFound mbed publicKey d o := by
  intro tr d' hr hc a rv count
  have hl' : Listed d'.p11.xObjectList := Exec.inv (I := fun d => Listed d.p11.xObjectList)
    (fun _ _ _ _ hs hstep => (tokenStep_list hstep).listed hs) hr hl
  exact (h.run hr hc).find hl' a rv count

/-! ### The call -/

section
variable {mbed : Mbed ρ ε κ} {publicKey : κ → List UInt8} {d : Device κ} {xSession : SessionHandle}
  {xObject : ObjectHandle} {a : RemoveAns} {lock : Bool}

/-- A call that leaves everything and fails. -/
theorem destroyLaw_same {rv : CkRv} (h : rv ≠ .ok) :
    DestroyLaw mbed publicKey d xObject (rv, d) :=
  ⟨fun he => absurd he h, fun _ => h, fun _ => ⟨rfl, rfl, rfl, rfl⟩⟩

/-- What is left of an object that was taken out of PSA and `P11KeyConfig`, once it is deleted from the
list. -/
theorem destroyLaw_deleted (hl : Listed d.p11.xObjectList) {o : TokenObject} {pal : ObjectHandle}
    {cfg : P11KeyConfig} {psa : PsaStores κ}
    (hf : prvFindObjectInListByHandle d.p11.xObjectList xObject = (pal, some (o.label ++ [0])))
    (hok : (prvDeleteObjectFromList true d.p11.xObjectList xObject).1 = .ok)
    (hm : o.marked cfg = false) :
    DestroyLaw mbed publicKey d xObject ((prvDeleteObjectFromList true d.p11.xObjectList xObject).1,
      ⟨{ d.p11 with
        p11KeyConfig := cfg
        xObjectList := (prvDeleteObjectFromList true d.p11.xObjectList xObject).2 }, psa⟩) ↔
      InArray xObject ∧ ¬o.Stored psa := by
  constructor
  · intro h
    obtain ⟨i, o', rfl, hi, hlab, hgone, -⟩ := h.done hok
    obtain ⟨hpal, -⟩ := hl.named hf
    obtain rfl := TokenObject.pal_inj (hi.symm.trans hpal)
    exact ⟨⟨i, rfl⟩, hgone.unstored⟩
  · rintro ⟨⟨i, rfl⟩, hstored⟩
    obtain ⟨hpal, hlab⟩ := hl.named hf
    have hgone : Gone (⟨{ d.p11 with
        p11KeyConfig := cfg
        xObjectList := (prvDeleteObjectFromList true d.p11.xObjectList (appHandle i)).2 }, psa⟩ :
        Device κ) o := ⟨hl.delete_named hpal, hm, hstored⟩
    refine ⟨fun _ => ⟨i, o, rfl, hpal, hlab, hgone, ?_⟩, ?_, fun hne => absurd hok hne⟩
    · exact hgone.neverFound ((ListMove.delete true (appHandle i)).listed hl)
    · intro hfree
      exact absurd (hpal.symm.trans (hfree i rfl)) o.pal_ne

/-- **Destroying a named object** does what it should exactly when it can be removed. -/
theorem destroy_named_iff (hs : Slots d.keyState) (hl : Listed d.p11.xObjectList) {h : Nat}
    (hsess : sessionCheck d.p11 xSession = .ok h) {o : TokenObject} {pal : ObjectHandle}
    (hf : prvFindObjectInListByHandle d.p11.xObjectList xObject = (pal, some (o.label ++ [0])))
    (hok : (prvDeleteObjectFromList true d.p11.xObjectList xObject).1 = .ok) :
    DestroyLaw mbed publicKey d xObject (cDestroyObject d xSession xObject a lock) ↔
      Removable d xObject a lock o := by
  have hrem := removeObject_removal hs a o
  unfold cDestroyObject
  simp only [hsess, hf]
  generalize removeObject d (o.label ++ [0]) true a = r at hrem ⊢
  cases hrem with
  | unmarked hm =>
    have hmarked : ¬o.marked d.p11.p11KeyConfig = true := by simp [hm]
    cases lock with
    | false =>
      simp only [prvDeleteObjectFromList_unlocked]
      exact iff_of_true (destroyLaw_same (by decide)) ⟨fun h => absurd h hmarked, fun _ => .inl rfl⟩
    | true =>
      refine (destroyLaw_deleted hl hf hok hm).trans ⟨fun h => ⟨fun h' => absurd h' hmarked, fun _ => .inr h⟩, ?_⟩
      intro h
      rcases h.unmarked hm with hlock | h
      · cases hlock
      · exact h
  | @blocked psa hm hb hobj hkeys =>
    constructor
    · intro h
      refine ⟨fun _ => .inl ⟨hb, hkeys.1 (h.failed (by simp)).2.2.1⟩, ?_⟩
      intro hm'
      rw [hm] at hm'
      cases hm'
    · intro h
      rcases h.marked hm with ⟨-, he⟩ | ⟨hb', -⟩
      · refine ⟨?_, fun _ => by simp, fun _ => ⟨rfl, rfl, hkeys.2 he, hobj⟩⟩
        intro hok'
        cases hok'
      · exact absurd hb hb'
  | @removed cfg psa hm hb hcfg hstored =>
    have hunmarked : ¬o.marked d.p11.p11KeyConfig = false := by simp [hm]
    cases lock with
    | false =>
      simp only [prvDeleteObjectFromList_unlocked]
      refine iff_of_false ?_ ?_
      · intro h
        have hcfg' : cfg = d.p11.p11KeyConfig := (h.failed (by simp)).2.1
        rw [hcfg'] at hcfg
        exact hunmarked hcfg
      · intro h
        rcases h.marked hm with ⟨hb', -⟩ | ⟨-, hlock, -⟩
        · exact hb hb'
        · cases hlock
    | true =>
      refine (destroyLaw_deleted hl hf hok hcfg).trans ?_
      rw [hstored]
      refine ⟨fun h => ⟨fun _ => .inr ⟨hb, rfl, h⟩, fun h' => absurd h' hunmarked⟩, ?_⟩
      intro h
      rcases h.marked hm with ⟨hb', -⟩ | ⟨-, -, h⟩
      · exact absurd hb' hb
      · exact h

/-- **`C_DestroyObject`** in a state that the module can reach does what it should exactly when the
session is not open, or the handle reads an entry, and its label is none of the token's or that of an
object that can be removed. -/
theorem destroy_law_iff (hd : d.Reachable mbed publicKey) :
    DestroyLaw mbed publicKey d xObject (cDestroyObject d xSession xObject a lock) ↔
      DestroysWhole d xSession xObject a lock := by
  have hl := hd.listed
  cases hsess : sessionCheck d.p11 xSession with
  | error e =>
    have hr : cDestroyObject d xSession xObject a lock = (e, d) := by
      unfold cDestroyObject
      simp only [hsess]
    rw [hr]
    refine iff_of_true (destroyLaw_same (sessionCheck_error_ne hsess)) ?_
    intro h hh
    rw [hsess] at hh
    cases hh
  | ok h =>
    rcases prvFindObjectInListByHandle_cases d.p11.xObjectList xObject with
      hf | ⟨pal, label, hf, hok⟩
    · have hr : cDestroyObject d xSession xObject a lock = (.ok, d) := by
        unfold cDestroyObject
        simp only [hsess, hf]
      rw [hr]
      refine iff_of_false ?_ ?_
      · intro hlaw
        obtain ⟨i, o, rfl, hi, -⟩ := hlaw.done rfl
        rw [prvFindObjectInListByHandle_appHandle, if_pos (hi ▸ o.pal_ne)] at hf
        simp at hf
      · intro hw
        obtain ⟨pal, label, hf', -⟩ := hw h hsess
        rw [hf] at hf'
        cases hf'
    · by_cases hlab : ∃ o : TokenObject, label = o.label
      · obtain ⟨o, rfl⟩ := hlab
        refine (destroy_named_iff hd.slots hl hsess hf hok).trans ⟨?_, ?_⟩
        · intro hrem h' _
          exact ⟨pal, o.label, hf, .inr ⟨o, rfl, hrem⟩⟩
        · intro hw
          obtain ⟨pal', label', hf', hrem⟩ := hw h hsess
          rw [hf] at hf'
          simp only [Prod.mk.injEq, Option.some.injEq, List.append_cancel_right_eq] at hf'
          obtain ⟨-, rfl⟩ := hf'
          rcases hrem with hno | ⟨o', ho', hrem⟩
          · exact absurd rfl (hno o)
          · rwa [TokenObject.label_inj ho']
      · have hno : ∀ o : TokenObject, label ≠ o.label := fun o ho => hlab ⟨o, ho⟩
        have hr : cDestroyObject d xSession xObject a lock = (.attributeValueInvalid, d) := by
          unfold cDestroyObject removeObject
          simp only [hsess, hf, remove_unknown _ _ _ _ _ hno]
        rw [hr]
        refine iff_of_true (destroyLaw_same (by decide)) ?_
        intro h' _
        exact ⟨pal, label, hf, .inl hno⟩

end

/-! ## Two calls -/

/-- No call of PSA fails. -/
def removeAns : RemoveAns := ⟨none, none, none⟩

/-- The private key of a pair is destroyed. -/
theorem destroy_law_iff_private : ∃ d : Device Unit, d.Reachable unitMbed unitPublicKey ∧
    (cDestroyObject d (some 0) 1 removeAns true).1 = .ok ∧
    (DestroyLaw unitMbed unitPublicKey d 1 (cDestroyObject d (some 0) 1 removeAns true) ↔
      DestroysWhole d (some 0) 1 removeAns true) := by
  have hrun : (exec? (tokenMachine unitMbed unitPublicKey) freshDevice
      (generateCalls labelDevicePrivateKeyForTls labelDevicePublicKeyForTls)).map
        (fun r => (cDestroyObject r.2 (some 0) 1 removeAns true).1) = some .ok := by
    decide +kernel
  obtain ⟨⟨tr, d⟩, hr, hok⟩ := Option.map_eq_some_iff.1 hrun
  have hd : d.Reachable unitMbed unitPublicKey :=
    ⟨freshDevice, tr, freshDevice_fresh, fun _ => rfl, exec?_exec hr⟩
  exact ⟨d, hd, hok, destroy_law_iff hd⟩

/-- A handle that names nothing is answered with `CKR_OK`. -/
theorem destroy_unnamed_ok : initializedDevice.Reachable unitMbed unitPublicKey ∧
    (cDestroyObject initializedDevice (some 0) 99 removeAns true).1 = .ok ∧
    ¬DestroyLaw unitMbed unitPublicKey initializedDevice 99
      (cDestroyObject initializedDevice (some 0) 99 removeAns true) := by
  have hok : (cDestroyObject initializedDevice (some 0) 99 removeAns true).1 = .ok := by
    decide +kernel
  refine ⟨initializedDevice_reachable, hok, ?_⟩
  intro h
  apply h.unnamed _ hok
  intro i _
  rfl

end Pkcs11
