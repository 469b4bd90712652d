import TrustZone.Crypto.Provisioning
import TrustZone.Pkcs11.Proof.TokenObjects

/-!
# What the application finds

After a reboot the module learns from its searches what PSA holds. `Tracks st s`: what it has listed and
marked is held, and listed under its label.

* `Learns`: a search keeps that, and moves nothing that is listed. Any call does (`appStep_keeps`).
* `search_object`: a search for an object finds it just when PSA holds it.
* `findPkcs11Keys_object`: `FindPKCS11Keys` tells whether PSA holds them all.
-/

namespace Crypto

open Lib Psa Pkcs11 Machine

/-! ## The objects that PSA holds -/

/-- PSA holds an object of the token. -/
def PkiStores.HasObject (st : PkiStores) : TokenObject → Prop
  | .key k => st.keys k.keyId.toNat ≠ none
  | .certificate c => st.ps c.uid ≠ none

theorem holds_psaCrypto {st : PkiStores} {label : List UInt8} {id : Nat}
    (ho : xPkiObjectFromLabel label = .psaCrypto id) : st.Holds label ↔ st.keys id ≠ none := by
  unfold PkiStores.Holds
  rw [ho]

theorem holds_psaPs {st : PkiStores} {label : List UInt8} {uid : Nat}
    (ho : xPkiObjectFromLabel label = .psaPs uid) : st.Holds label ↔ st.ps uid ≠ none := by
  unfold PkiStores.Holds
  rw [ho]

/-- The labels of the CLI are those of objects of the token, under the same ids. -/
theorem pkiLabel_object {label : List UInt8} (h : label ∈ pkiLabels) :
    ∃ o : TokenObject, label = o.label ∧ ∀ st : PkiStores, st.Holds label ↔ st.HasObject o := by
  simp only [pkiLabels, List.mem_cons, List.not_mem_nil, or_false] at h
  rcases h with rfl | rfl | rfl | rfl | rfl
  · exact ⟨.key .devicePrivate, rfl, fun st => holds_psaCrypto (by decide)⟩
  · exact ⟨.key .devicePublic, rfl, fun st => holds_psaCrypto (by decide)⟩
  · exact ⟨.certificate .device, rfl, fun st => holds_psaPs (by decide)⟩
  · exact ⟨.certificate .root, rfl, fun st => holds_psaPs (by decide)⟩
  · exact ⟨.key .codeVerify, rfl, fun st => holds_psaCrypto (by decide)⟩

theorem holds_label {o : TokenObject} (h : o.label ∈ pkiLabels) (st : PkiStores) :
    st.Holds o.label ↔ st.HasObject o := by
  obtain ⟨o', ho, hholds⟩ := pkiLabel_object h
  obtain rfl := TokenObject.label_inj ho
  exact hholds st

/-- An object as the search table has it. -/
def persistent : TokenObject → PersistentObject
  | .key k => .key k.label (TokenObject.key k).pal k.keyId (·.mark k)
  | .certificate c => .certificate c.label (TokenObject.certificate c).pal c.uid

theorem persistent_mem (o : TokenObject) : persistent o ∈ persistentObjects := by
  have hmem : ∀ i (hi : i < persistentObjects.length), persistentObjects[i] ∈ persistentObjects :=
    fun i hi => List.getElem_mem hi
  rcases o with k | c
  · cases k
    · exact hmem 0 (by decide)
    · exact hmem 1 (by decide)
    · exact hmem 2 (by decide)
  · cases c
    · exact hmem 3 (by decide)
    · exact hmem 5 (by decide)
    · exact hmem 4 (by decide)

theorem persistent_label (o : TokenObject) : (persistent o).label = o.label := by
  cases o <;> rfl

theorem persistent_pal (o : TokenObject) : (persistent o).xPalHandle = o.pal := by
  cases o <;> rfl

variable {st : PkiStores} {s s' : State} {a : SearchAns} {a' : SessionAns} {o : TokenObject}

theorem openKey_held {id : KeyHandle} (h : st.keys id.toNat ≠ none) :
    (st.findEnv a).openKey id = (psaSuccess, id) := if_pos (Option.isSome_iff_ne_none.2 h)

theorem openKey_absent {id : KeyHandle} (h : st.keys id.toNat = none) :
    (st.findEnv a).openKey id = (psaErrorDoesNotExist, 0) := if_neg (by simp [h])

theorem psGetInfo_held {uid : Nat} (h : st.ps uid ≠ none) : (st.findEnv a).psGetInfo uid = psaSuccess :=
  if_pos (Option.isSome_iff_ne_none.2 h)

theorem psGetInfo_absent {uid : Nat} (h : st.ps uid = none) :
    (st.findEnv a).psGetInfo uid = psaErrorDoesNotExist := if_neg (by simp [h])

theorem persistent_held (h : st.HasObject o) : (persistent o).status (st.findEnv a) = psaSuccess := by
  rcases o with k | c
  · exact congrArg Prod.fst (openKey_held h)
  · exact psGetInfo_held (a := a) h

theorem persistent_absent (h : ¬st.HasObject o) :
    (persistent o).status (st.findEnv a) = psaErrorDoesNotExist := by
  rcases o with k | c
  · exact congrArg Prod.fst (openKey_absent (not_not.1 h))
  · exact psGetInfo_absent (a := a) (not_not.1 h)

/-! ## What the module knows -/

/-- What the module has listed and marked, PSA holds. A listed object has its label and its mark, and a
marked key the handle that PSA knows it by. -/
structure Tracks (st : PkiStores) (s : State) : Prop where
  listed : Listed s.xObjectList
  entry : ∀ (o : TokenObject) i, (s.xObjectList.xObjects i).xHandle = o.pal →
    (s.xObjectList.xObjects i).label = o.label ∧ o.marked s.p11KeyConfig = true
  held : ∀ o : TokenObject, o.marked s.p11KeyConfig = true → st.HasObject o
  handle : ∀ k : DeviceKey, s.p11KeyConfig.mark k = true → s.p11KeyConfig.handle k = k.keyId

/-- The handle that a search records with an object. -/
def recordedHandle : TokenObject → KeyHandle
  | .key k => k.keyId
  | .certificate _ => pkcs11ObjectHandleNa

theorem import_self (c : P11KeyConfig) (o : TokenObject) (h : KeyHandle) :
    o.marked (pkcs11PsaContextImportObject c o.label h) = true := by
  rcases o with k | x
  · show (pkcs11PsaContextImportObject c k.label h).mark k = true
    rw [import_key, P11KeyConfig.mark_setKey_self]
  · cases x <;> rfl

/-- Recording an object takes no mark away. -/
theorem import_keeps (c : P11KeyConfig) (o o' : TokenObject) (h : KeyHandle)
    (hm : o'.marked c = true) : o'.marked (pkcs11PsaContextImportObject c o.label h) = true := by
  by_cases he : o = o'
  · rw [he]
    exact import_self c o' h
  · rwa [import_marked c (fun hl => he (TokenObject.label_inj hl))]

theorem Tracks.congr (h : Tracks st s) (hl : s'.xObjectList = s.xObjectList)
    (hc : s'.p11KeyConfig = s.p11KeyConfig) : Tracks st s' := by
  obtain ⟨h1, h2, h3, h4⟩ := h
  rw [← hl] at h1 h2
  rw [← hc] at h2 h3 h4
  exact ⟨h1, h2, h3, h4⟩

/-- An object that PSA holds is recorded. -/
theorem Tracks.record (h : Tracks st s) (ho : st.HasObject o) : Tracks st { s with
    p11KeyConfig := pkcs11PsaContextImportObject s.p11KeyConfig o.label (recordedHandle o) } := by
  refine ⟨h.listed, ?_, ?_, ?_⟩
  · intro o' i hi
    exact ⟨(h.entry o' i hi).1, import_keeps _ o o' _ (h.entry o' i hi).2⟩
  · intro o' hm
    by_cases he : o = o'
    · exact he ▸ ho
    · have hm' : o'.marked (pkcs11PsaContextImportObject s.p11KeyConfig o.label _) = true := hm
      rw [import_marked _ fun hl => he (TokenObject.label_inj hl)] at hm'
      exact h.held o' hm'
  · intro k hm
    rcases o with j | x
    · simp only [TokenObject.label, recordedHandle, import_key] at hm ⊢
      by_cases hk : k = j
      · subst hk
        exact P11KeyConfig.handle_setKey_self ..
      · rw [P11KeyConfig.mark_setKey_of_ne _ _ _ hk] at hm
        rw [P11KeyConfig.handle_setKey_of_ne _ _ _ hk]
        exact h.handle k hm
    · have hne : ∀ j : DeviceKey, (TokenObject.certificate x).label ≠ (TokenObject.key j).label :=
        fun j hl => TokenObject.noConfusion (TokenObject.label_inj hl)
      have hother := import_other s.p11KeyConfig hne (recordedHandle (.certificate x))
      simp only [hother.1, hother.2] at hm ⊢
      exact h.handle k hm

theorem object_short (o : TokenObject) : o.label.length < pkcs11configMaxLabelLength := by
  rw [← persistent_label]
  exact (persistentObjects_label (persistent_mem o)).2

/-- An object that has its mark is listed, or not. -/
theorem Tracks.add (h : Tracks st s) (hm : o.marked s.p11KeyConfig = true) (lock : Bool) :
    Tracks st { s with xObjectList := (prvAddObjectToList lock s.xObjectList o.pal o.label).2.2 } := by
  have hlist : Listed (prvAddObjectToList lock s.xObjectList o.pal o.label).2.2 := by
    have hbytes : cstr o.label <+: (persistent o).label := by
      rw [persistent_label, cstr_of_notMem o.label_notMem]
    have hmove : ListMove s.xObjectList _ := .add lock (persistent_mem o) hbytes
    rw [persistent_pal] at hmove
    exact hmove.listed h.listed
  refine ⟨hlist, ?_, h.held, h.handle⟩
  intro o' i hi
  have hout := prvAddObjectToList_outcome lock s.xObjectList o.pal o.label
  dsimp only at hi ⊢
  generalize prvAddObjectToList lock s.xObjectList o.pal o.label = r at hout hi ⊢
  cases hout with
  | inserted j habsent hfree hlen =>
    by_cases hij : i = j
    · subst hij
      simp only [Function.update_self] at hi ⊢
      obtain rfl := TokenObject.pal_inj hi
      exact ⟨label_blit_zero o.label_notMem hlen (h.listed.ok i) hfree _, hm⟩
    · simp only [Function.update_of_ne hij] at hi ⊢
      exact h.entry o' i hi
  | locked | present | full | long => exact h.entry o' i hi

/-! ## What a search does to the module -/

/-- What is listed stays where it is. -/
def Extends (l l' : P11ObjectList) : Prop :=
  ∀ i, (l.xObjects i).xHandle ≠ ckInvalidHandle → l'.xObjects i = l.xObjects i

theorem Extends.trans {l l' l'' : P11ObjectList} (h : Extends l l') (h' : Extends l' l'') :
    Extends l l'' := by
  intro i hi
  have hsame := h i hi
  rw [h' i (by rwa [hsame]), hsame]

theorem extends_add (lock : Bool) (l : P11ObjectList) (pal : ObjectHandle) (label : List UInt8) :
    Extends l (prvAddObjectToList lock l pal label).2.2 := by
  have hout := prvAddObjectToList_outcome lock l pal label
  generalize prvAddObjectToList lock l pal label = r at hout ⊢
  intro i hi
  cases hout with
  | inserted j habsent hfree hlen =>
    refine Function.update_of_ne ?_ _ _
    rintro rfl
    exact hi hfree
  | locked | present | full | long => rfl

/-- The module knows no less, and nothing false. -/
structure Learns (st : PkiStores) (s s' : State) : Prop where
  tracks : Tracks st s → Tracks st s'
  list : Extends s.xObjectList s'.xObjectList

namespace Learns

theorem refl (st : PkiStores) (s : State) : Learns st s s := ⟨id, fun _ _ => rfl⟩

theorem trans {s'' : State} (h : Learns st s s') (h' : Learns st s' s'') : Learns st s s'' :=
  ⟨fun ht => h'.tracks (h.tracks ht), h.list.trans h'.list⟩

/-- A step that leaves the list and the configuration alone. -/
theorem of_eq (hl : s'.xObjectList = s.xObjectList) (hc : s'.p11KeyConfig = s.p11KeyConfig) :
    Learns st s s' :=
  ⟨fun h => h.congr hl hc, fun _ _ => by rw [hl]⟩

end Learns

/-- A key that has its mark, or that PSA holds, is listed; the search records what it opens. -/
theorem findKey_leaves (st : PkiStores) (s : State) (a : SearchAns) (k : DeviceKey) (rv : CkRv) (px : ObjectHandle) (count : Nat) :
    let f := Pkcs11.findObject (st.findEnv a) (.key k) ⟨rv, px, count, s⟩
    let l := (prvAddObjectToList (st.findEnv a).lock s.xObjectList (TokenObject.key k).pal k.label).2.2
    s.p11KeyConfig.mark k = true ∧ f.post = { s with xObjectList := l } ∨
    st.HasObject (.key k) ∧ f.post = { s with
      xObjectList := l
      p11KeyConfig := pkcs11PsaContextImportObject s.p11KeyConfig k.label k.keyId } ∨
    f.post = s := by
  dsimp only
  unfold Pkcs11.findObject findKeyObjects
  by_cases hm : s.p11KeyConfig.mark k = true
  · refine .inl ⟨hm, ?_⟩
    simp only [if_pos ((getKeyHandle_ok _ k).2 hm), and_self, if_true]
    generalize prvAddObjectToList (st.findEnv a).lock s.xObjectList _ k.label = r
    split <;> rfl
  · by_cases hk : st.keys k.keyId.toNat = none
    · refine .inr (.inr ?_)
      have hne : psaErrorDoesNotExist ≠ psaSuccess := by decide
      simp [if_neg (mt (getKeyHandle_ok _ k).1 hm), openKey_absent hk, hne]
    · refine .inr (.inl ⟨hk, ?_⟩)
      simp only [if_neg (mt (getKeyHandle_ok _ k).1 hm), openKey_held hk, and_self, if_true]
      generalize prvAddObjectToList (st.findEnv a).lock s.xObjectList _ k.label = r
      split <;> rfl

/-- A certificate that PSA holds is listed and recorded. -/
theorem findCertificate_leaves (st : PkiStores) (s : State) (a : SearchAns) (c : DeviceCertificate) (rv : CkRv) (px : ObjectHandle) (count : Nat) :
    let f := Pkcs11.findObject (st.findEnv a) (.certificate c) ⟨rv, px, count, s⟩
    let l := (prvAddObjectToList (st.findEnv a).lock s.xObjectList (TokenObject.certificate c).pal
      c.label).2.2
    st.HasObject (.certificate c) ∧ f.post = { s with
      xObjectList := l
      p11KeyConfig := pkcs11PsaContextImportObject s.p11KeyConfig c.label pkcs11ObjectHandleNa } ∨
    f.post = s := by
  dsimp only
  unfold Pkcs11.findObject findCertificate
  by_cases hc : st.ps c.uid = none
  · refine .inr ?_
    have hne : psaErrorDoesNotExist ≠ psaSuccess := by decide
    simp [psGetInfo_absent hc, hne]
  · simp only [psGetInfo_held hc, if_true]
    have hout := prvAddObjectToList_outcome (st.findEnv a).lock s.xObjectList
      (TokenObject.certificate c).pal c.label
    generalize (st.findEnv a).lock = lock at hout ⊢
    generalize prvAddObjectToList lock s.xObjectList _ c.label = r at hout ⊢
    cases hout with
    | present | inserted => exact .inl ⟨hc, rfl⟩
    | locked | full | long => exact .inr rfl

/-- **A search for an object** teaches the module at most that PSA holds it. -/
theorem findObject_learns (o : TokenObject) (rv : CkRv) (px : ObjectHandle) (count : Nat) :
    Learns st s (Pkcs11.findObject (st.findEnv a) o ⟨rv, px, count, s⟩).post := by
  rcases o with k | c
  · obtain ⟨hm, hpost⟩ | ⟨hk, hpost⟩ | hpost := findKey_leaves st s a k rv px count
    · rw [hpost]
      exact ⟨fun h => h.add (o := .key k) hm _, extends_add _ _ _ _⟩
    · rw [hpost]
      exact ⟨fun h => (h.record hk).add (o := .key k) (import_self _ (.key k) _) _,
        extends_add _ _ _ _⟩
    · rw [hpost]
      exact .refl st s
  · obtain ⟨hc, hpost⟩ | hpost := findCertificate_leaves st s a c rv px count
    · rw [hpost]
      exact ⟨fun h => (h.record hc).add (o := .certificate c) (import_self _ (.certificate c) _) _,
        extends_add _ _ _ _⟩
    · rw [hpost]
      exact .refl st s

theorem findByLabel_learns (st : PkiStores) (s : State) (a : SearchAns) (rv : CkRv) (label : List UInt8) (count : Nat) :
    Learns st s (findByLabel (st.findEnv a) s rv label count).post := by
  rcases findByLabel_cases (st.findEnv a) s rv label count with ⟨-, hsame⟩ | ⟨-, ⟨o, -, ho⟩ | ⟨-, hsame⟩⟩
  · rw [hsame]
    exact .refl st s
  · rw [ho]
    exact findObject_learns o rv _ count
  · rw [hsame]
    exact .refl st s

/-! ## What a search answers -/

theorem object_pal (o : TokenObject) : 1 ≤ o.pal.toNat ∧ o.pal.toNat ≤ pkcs11configMaxNumObjects := by
  rcases o with k | c
  · cases k <;> decide
  · cases c <;> decide

/-- There is an entry for every object. -/
theorem listed_room {l : P11ObjectList} (h : Listed l)
    (hfull : ∀ j, (l.xObjects j).xHandle ≠ ckInvalidHandle) (o : TokenObject) : Lists l o.pal := by
  have hpal : ∀ j, ∃ o : TokenObject, (l.xObjects j).xHandle = o.pal := by
    intro j
    obtain ⟨o, ho, -⟩ := (h.stands j (hfull j)).object
    exact ⟨o, ho⟩
  have hlt : ∀ o : TokenObject, o.pal.toNat - 1 < pkcs11configMaxNumObjects := by
    intro o
    have := object_pal o
    omega
  -- six entries with six different handles
  let index : Fin pkcs11configMaxNumObjects → Fin pkcs11configMaxNumObjects := fun j =>
    ⟨(l.xObjects j).xHandle.toNat - 1, by
      obtain ⟨o, ho⟩ := hpal j
      rw [ho]
      exact hlt o⟩
  have heq : ∀ {j : Fin pkcs11configMaxNumObjects} {o : TokenObject},
      (index j).val = o.pal.toNat - 1 → (l.xObjects j).xHandle = o.pal := by
    intro j o hj
    obtain ⟨o', ho'⟩ := hpal j
    have h1 := object_pal o
    have h2 := object_pal o'
    have hj' : (l.xObjects j).xHandle.toNat - 1 = o.pal.toNat - 1 := hj
    rw [ho'] at hj' ⊢
    exact BitVec.eq_of_toNat_eq (by omega)
  have hinj : Function.Injective index := by
    intro i j hij
    obtain ⟨o, ho⟩ := hpal j
    have hi : (l.xObjects i).xHandle = o.pal := heq (by rw [hij]; exact congrArg (·.toNat - 1) ho)
    exact h.unique i j (hfull i) (hi.trans ho.symm)
  obtain ⟨i, hi⟩ := Finite.surjective_of_injective hinj ⟨o.pal.toNat - 1, hlt o⟩
  exact ⟨i, heq (congrArg Fin.val hi)⟩

/-- The handle is that of the entry that stands for an object. -/
def Names (l : P11ObjectList) (px : ObjectHandle) (o : TokenObject) : Prop :=
  ∃ i, px = appHandle i ∧ (l.xObjects i).xHandle = o.pal

theorem Names.extends {l l' : P11ObjectList} {px : ObjectHandle} (h : Names l px o) (hl : Extends l l') :
    Names l' px o := by
  obtain ⟨i, hpx, hi⟩ := h
  refine ⟨i, hpx, ?_⟩
  rwa [hl i (by rw [hi]; exact o.pal_ne)]

/-- **A search for an object**: PSA holds the object and the handle names it, or PSA does not and nothing
is found. It fails only for want of the mutex of the list. -/
theorem findByLabel_object (h : Tracks st s) (a : SearchAns) (o : TokenObject) :
    let f := findByLabel (st.findEnv a) s .ok o.label 0
    (a.lock = true → f.rv = .ok) ∧ (f.rv = .ok →
      st.HasObject o ∧ f.pulObjectCount = 1 ∧ Names f.post.xObjectList f.pxObject o ∨
        ¬st.HasObject o ∧ f.pulObjectCount = 0 ∧ f.pxObject = ckInvalidHandle) := by
  dsimp only
  rcases prvFindObjectInListByLabel_cases s.xObjectList o.label_notMem with ⟨i, hp, -, hfind⟩ | ⟨hno, hfind⟩
  · have hpal := h.listed.pal_of_prefix hp
    rw [findByLabel_listed hfind]
    exact ⟨fun _ => rfl, fun _ => .inl ⟨h.held o (h.entry o i hpal).2, rfl, i, rfl, hpal⟩⟩
  · have hans : (findByLabel (st.findEnv a) s .ok (persistent o).label 0).answer =
        lookup (st.findEnv a) s (persistent o) 0 :=
      findByLabel_stored (persistent_mem o) (by rw [persistent_label]; exact hfind)
    rw [persistent_label] at hans
    generalize findByLabel (st.findEnv a) s .ok o.label 0 = f at hans ⊢
    unfold lookup PersistentObject.Stored at hans
    by_cases ho : st.HasObject o
    · rw [if_pos (.inr (persistent_held ho)), show (st.findEnv a).lock = a.lock from rfl, persistent_label,
        persistent_pal] at hans
      have hout := prvAddObjectToList_outcome a.lock s.xObjectList o.pal o.label
      generalize a.lock = lock at hout hans ⊢
      generalize prvAddObjectToList lock s.xObjectList o.pal o.label = q at hout hans
      cases hout with
      | locked =>
        have hrv : f.rv = .cantLock := congrArg Prod.fst hans
        rw [hrv]
        exact ⟨nofun, nofun⟩
      | present i hpal =>
        refine absurd ?_ (hno i)
        rw [(h.entry o i hpal).1]
      | inserted i habsent hfree hlen =>
        simp only [Found.answer, Prod.mk.injEq] at hans
        obtain ⟨hrv, hpx, hcount, hlist⟩ := hans
        refine ⟨fun _ => hrv, fun _ => .inl ⟨ho, hcount, i, hpx, ?_⟩⟩
        simp only [hlist, Function.update_self]
      | full habsent hfull =>
        obtain ⟨i, hi⟩ := listed_room h.listed hfull o
        exact absurd hi (habsent i)
      | long habsent hlong => exact absurd (object_short o) (not_lt.2 hlong)
    · have hne : psaErrorDoesNotExist ≠ psaSuccess := by decide
      have hm : ¬((persistent o).mark s.p11KeyConfig = true) := by
        intro hm
        rcases o with k | c
        · exact ho (h.held (.key k) hm)
        · cases hm
      have hmiss : ¬((persistent o).mark s.p11KeyConfig = true ∨
          (persistent o).status (st.findEnv a) = psaSuccess) := by
        rw [persistent_absent ho]
        exact not_or.2 ⟨hm, hne⟩
      rw [if_neg hmiss, if_pos (persistent_absent ho)] at hans
      simp only [Found.answer, Prod.mk.injEq] at hans
      exact ⟨fun _ => hans.1, fun _ => .inr ⟨ho, hans.2.2.1, hans.2.1⟩⟩

/-! ## The calls of the application -/

/-- Between two calls no open session is searching, and none has searched before the module is
initialized. -/
structure AppState (st : PkiStores) (s : State) : Prop where
  tracks : Tracks st s
  idle : ∀ h, (s.sessions h).xOpened = true → (s.sessions h).pxFindObjectLabel = none
  fresh : s.xIsInitialized = false → ∀ h, (s.sessions h).pxFindObjectLabel = none

/-- Once the module is initialized it stays so, and what is listed stays where it is. -/
def Later (s s' : State) : Prop :=
  s.xIsInitialized = true → s'.xIsInitialized = true ∧ Extends s.xObjectList s'.xObjectList

theorem Later.trans {s'' : State} (h : Later s s') (h' : Later s' s'') : Later s s'' := by
  intro hi
  obtain ⟨hi', hl⟩ := h hi
  obtain ⟨hi'', hl'⟩ := h' hi'
  exact ⟨hi'', hl.trans hl'⟩

theorem Rebooted.appState (h : Rebooted s) : AppState st s := by
  have hzero : s.xObjectList.xObjects = fun _ => .zero := funext h.list
  have hmark : ∀ o : TokenObject, o.marked s.p11KeyConfig ≠ true := by
    intro o
    rw [h.keyConfig]
    rcases o with k | c
    · cases k <;> decide
    · cases c <;> decide
  refine ⟨⟨?_, ?_, ?_, ?_⟩, ?_, ?_⟩
  · exact (Listed.zeroed fun _ => .zero).congr hzero
  · intro o i hi
    rw [hzero] at hi
    exact absurd hi.symm o.pal_ne
  · exact fun o hm => absurd hm (hmark o)
  · exact fun k hm => absurd hm (hmark (.key k))
  · exact fun i _ => (h.sessions i).2
  · exact fun _ i => (h.sessions i).2

variable {xSession : SessionHandle} {label : List UInt8} {h : Nat}

/-- A call that leaves the sessions alone. -/
theorem AppState.learn (h : AppState st s) (hl : Learns st s s')
    (hi : s'.xIsInitialized = s.xIsInitialized) (hs : s'.sessions = s.sessions) :
    AppState st s' ∧ Later s s' := by
  refine ⟨⟨hl.tracks h.tracks, ?_, ?_⟩, fun hinit => ⟨hi.trans hinit, hl.list⟩⟩
  · rw [hs]
    exact h.idle
  · rw [hi, hs]
    exact h.fresh

/-- A session that is searching no more is as it was before. -/
theorem searched_sessions (hstart : StartsSearch (st.findEnv a) s xSession h) (label c : List UInt8)
    (count : Nat) :
    ((findByLabel (st.findEnv a) (searching s h label) .ok c count).post.searched h).sessions =
      s.sessions := by
  have hidle := hstart.idle
  unfold State.searched State.setSession
  rw [(findByLabel_frame (st.findEnv a) (searching s h label) .ok c count).2]
  funext i
  by_cases hi : i = h
  · subst hi
    simp only [searching, State.setSession, Function.update_self, ← hidle]
  · simp only [searching, State.setSession, Function.update_of_ne hi]

theorem searched_learns (st : PkiStores) (s : State) (a : SearchAns) (h : Nat) (label c : List UInt8) (count : Nat) : Learns st s
    ((findByLabel (st.findEnv a) (searching s h label) .ok c count).post.searched h) := by
  have h1 : Learns st s (searching s h label) := .of_eq rfl rfl
  have h2 := findByLabel_learns st (searching s h label) a .ok c count
  exact (h1.trans h2).trans (.of_eq rfl rfl)

theorem sessionCheck_congr (hi : s'.xIsInitialized = s.xIsInitialized) (hs : s'.sessions = s.sessions) :
    sessionCheck s' xSession = sessionCheck s xSession := by
  unfold sessionCheck
  rw [hi, hs]

/-- A search that cannot start changes nothing. -/
theorem searchInit_refused (hno : ∀ h, ¬StartsSearch (st.findEnv a) s xSession h)
    (template : List Attribute) : ∃ e,
      cFindObjectsInit (st.findEnv a) s xSession (some template) = some (e, s) ∧ e ≠ .ok :=
  cFindObjectsInit_refused template fun h hh => absurd hh (hno h)

/-- **A search**, whatever its session, teaches the module what PSA holds and leaves the sessions as
they are. -/
theorem searchRun_learns (happ : AppState st s) {px : ObjectHandle} {count : Nat} {r : Search}
    (hr : searchRun (st.findEnv a) s xSession label px count = some r) :
    Learns st s r.post ∧ r.post.xIsInitialized = s.xIsInitialized ∧ r.post.sessions = s.sessions := by
  by_cases hstart : ∃ h, StartsSearch (st.findEnv a) s xSession h
  · obtain ⟨h, hstart⟩ := hstart
    rw [searchRun_done hstart] at hr
    obtain rfl := Option.some.inj hr
    refine ⟨searched_learns st s a h label _ count, ?_, searched_sessions hstart label _ count⟩
    exact (findByLabel_frame (st.findEnv a) (searching s h label) .ok (cstr label) count).1
  · obtain ⟨e, hinit, -⟩ := searchInit_refused (not_exists.1 hstart) [⟨true, label⟩]
    unfold searchRun at hr
    rw [hinit] at hr
    dsimp only at hr
    cases hs : sessionCheck s xSession with
    | error e' =>
      -- a session that is closed: the search goes on with the label that it has kept
      simp only [cFindObjects, hs] at hr
      cases hbuf : xSession.bind fun h => (s.sessions h).pxFindObjectLabel with
      | none => simp [hbuf] at hr
      | some buf =>
        simp only [hbuf] at hr
        obtain ⟨hi, hsess⟩ := findByLabel_frame (st.findEnv a) s e' (cstr buf) count
        have hlearn := findByLabel_learns st s a e' (cstr buf) count
        generalize findByLabel (st.findEnv a) s e' (cstr buf) count = f at hr hi hsess hlearn
        have hcheck : sessionCheck f.post xSession = .error e' := (sessionCheck_congr hi hsess).trans hs
        simp only [cFindObjectsFinal, hcheck] at hr
        obtain rfl := Option.some.inj hr
        exact ⟨hlearn, hi, hsess⟩
    | ok h =>
      obtain ⟨rfl, -, hopen⟩ := sessionCheck_ok hs
      have hidle := happ.idle h hopen
      simp only [cFindObjects, hs, hidle, cFindObjectsFinal, if_true] at hr
      obtain rfl := Option.some.inj hr
      exact ⟨.refl st s, rfl, rfl⟩

/-- The search of a session for an object, as `C_FindObjects` leaves it. -/
theorem searching_object (happ : AppState st s) (h : Nat) (o : TokenObject) :
    let f := findByLabel (st.findEnv a) (searching s h o.label) .ok (cstr o.label) 0
    (a.lock = true → f.rv = .ok) ∧ (f.rv = .ok →
      st.HasObject o ∧ f.pulObjectCount = 1 ∧ Names f.post.xObjectList f.pxObject o ∨
        ¬st.HasObject o ∧ f.pulObjectCount = 0 ∧ f.pxObject = ckInvalidHandle) := by
  have htracks : Tracks st (searching s h o.label) := happ.tracks.congr rfl rfl
  rw [cstr_of_notMem o.label_notMem]
  exact findByLabel_object htracks a o

theorem Names.ne {l : P11ObjectList} {px : ObjectHandle} (h : Names l px o) : px ≠ ckInvalidHandle := by
  obtain ⟨i, rfl, -⟩ := h
  exact appHandle_ne i

/-- A search that is served finds the object just when PSA holds it. -/
theorem search_object (happ : AppState st s) (hs : sessionCheck s xSession = .ok h)
    (hmalloc : a.malloc = true) (hlock : a.lock = true) (o : TokenObject) :
    ∃ r, searchRun (st.findEnv a) s xSession o.label ckInvalidHandle 0 = some r ∧ r.Ok ∧
      (r.Found ↔ st.HasObject o) := by
  have hstart : StartsSearch (st.findEnv a) s xSession h :=
    ⟨hs, happ.idle h (sessionCheck_ok hs).2.2, hmalloc⟩
  obtain ⟨hrv, hans⟩ := searching_object (a := a) happ h o
  refine ⟨_, searchRun_done hstart o.label _ 0, ⟨rfl, hrv hlock, rfl⟩, ?_⟩
  obtain ⟨ho, hcount, hnames⟩ | ⟨ho, hcount, hpx⟩ := hans (hrv hlock)
  · exact iff_of_true ⟨hcount, hnames.ne⟩ ho
  · exact iff_of_false (fun hf => hf.2 hpx) ho

/-- A handle that a search has found names the object, in a module that is initialized. -/
theorem search_names (happ : AppState st s) {r : Search}
    (hr : searchRun (st.findEnv a) s xSession o.label ckInvalidHandle 0 = some r) (hok : r.Ok)
    (hfound : r.Found) : Names r.post.xObjectList r.pxObject o ∧ r.post.xIsInitialized = true := by
  by_cases hstart : ∃ h, StartsSearch (st.findEnv a) s xSession h
  · obtain ⟨h, hstart⟩ := hstart
    rw [searchRun_done hstart] at hr
    obtain rfl := Option.some.inj hr
    obtain ⟨-, -, hnames⟩ | ⟨-, -, hpx⟩ := (searching_object (a := a) happ h o).2 hok.2.1
    · refine ⟨hnames, ?_⟩
      have hframe := findByLabel_frame (st.findEnv a) (searching s h o.label) .ok (cstr o.label) 0
      exact hframe.1.trans (sessionCheck_ok hstart.session).2.1
    · exact absurd hpx hfound.2
  · obtain ⟨e, hinit, he⟩ := searchInit_refused (not_exists.1 hstart) [⟨true, o.label⟩]
    unfold searchRun at hr
    rw [hinit] at hr
    dsimp only at hr
    split at hr
    · cases hr
    · obtain rfl := Option.some.inj hr
      exact absurd hok.1 he

/-! ## Sessions -/

theorem Later.refl (s : State) : Later s s := fun hi => ⟨hi, fun _ _ => rfl⟩

theorem initializeModule_keeps (happ : AppState st s) (before : Int → P11Object) (mutex : Bool) :
    AppState st (initializeModule s before mutex).2 ∧ Later s (initializeModule s before mutex).2 := by
  unfold initializeModule
  split
  · exact ⟨happ, .refl s⟩
  · rename_i hi
    have hzero : Tracks st { s with xObjectList := ⟨fun _ => .zero, before⟩, xIsInitialized := mutex } :=
      ⟨.zeroed before, fun o i hpal => absurd hpal.symm o.pal_ne, happ.tracks.held, happ.tracks.handle⟩
    exact ⟨⟨hzero, happ.idle, fun _ => happ.fresh (by simpa using hi)⟩, fun h => absurd h hi⟩

theorem initializeModule_ok (s : State) (before : Int → P11Object) (mutex : Bool)
    (h : (initializeModule s before mutex).1 = .ok ∨
      (initializeModule s before mutex).1 = .cryptokiAlreadyInitialized) :
    (initializeModule s before mutex).2.xIsInitialized = true := by
  unfold initializeModule at h ⊢
  split
  · assumption
  · rename_i hi
    rw [if_neg hi] at h
    cases mutex with
    | true => rfl
    | false => simp at h

/-- A session without a search is opened, or closed. -/
theorem AppState.setSession (happ : AppState st s) {x : P11Session}
    (hx : x.xOpened = true → x.pxFindObjectLabel = none)
    (hinit : s.xIsInitialized = false → x.pxFindObjectLabel = none) (h : Nat) :
    AppState st (s.setSession h x) := by
  refine ⟨happ.tracks.congr rfl rfl, fun i hi => ?_, fun hi i => ?_⟩
  · by_cases hih : i = h
    · subst hih
      simp only [State.setSession, Function.update_self] at hi ⊢
      exact hx hi
    · simp only [State.setSession, Function.update_of_ne hih] at hi ⊢
      exact happ.idle i hi
  · by_cases hih : i = h
    · subst hih
      simp only [State.setSession, Function.update_self]
      exact hinit hi
    · simp only [State.setSession, Function.update_of_ne hih]
      exact happ.fresh hi i

/-- The session that `xInitializePkcs11Session` opens, if it opens one. -/
structure Opens (st : PkiStores) (s : State) (r : CkRv × SessionHandle × State) : Prop where
  post : AppState st r.2.2
  later : Later s r.2.2
  session : r.1 = .ok → ∃ h, r.2.1 = some h ∧ sessionCheck r.2.2 (some h) = .ok h
  failed : r.1 ≠ .ok → r.2.1 = none

theorem xInitializePkcs11Session_opens (happ : AppState st s) (a : SessionAns) :
    Opens st s (xInitializePkcs11Session s a) := by
  obtain ⟨hpost, hlater⟩ := initializeModule_keeps happ a.before a.mutex
  have hok := initializeModule_ok s a.before a.mutex
  unfold xInitializePkcs11Session
  generalize initializeModule s a.before a.mutex = q at hpost hlater hok
  obtain ⟨rv, s₁⟩ := q
  dsimp only at hpost hlater hok ⊢
  split
  swap
  · rename_i hrv
    exact ⟨hpost, hlater, fun h => absurd (.inl h) hrv, fun _ => rfl⟩
  rename_i hrv
  split
  swap
  · exact ⟨hpost, hlater, nofun, fun _ => rfl⟩
  cases a.session with
  | none => exact ⟨hpost, hlater, nofun, fun _ => rfl⟩
  | some h =>
    dsimp only
    split
    · refine ⟨hpost.setSession (fun _ => rfl) (fun _ => rfl) h, hlater, fun _ => ⟨h, rfl, ?_⟩,
        fun hne => absurd rfl hne⟩
      exact sessionCheck_open (hok hrv) (by simp [State.setSession, openedSession])
    · exact ⟨hpost, hlater, nofun, fun _ => rfl⟩

/-- A session gets what it asks for. -/
structure SessionAns.Granted (a : SessionAns) : Prop where
  mutex : a.mutex = true
  slots : a.slots = true
  session : a.session ≠ none
  sessionMutexes : a.sessionMutexes = true

theorem xInitializePkcs11Session_granted (ha : a'.Granted) : (xInitializePkcs11Session s a').1 = .ok := by
  obtain ⟨h, hh⟩ := Option.ne_none_iff_exists'.1 ha.session
  have hrv : (initializeModule s a'.before a'.mutex).1 = .ok ∨
      (initializeModule s a'.before a'.mutex).1 = .cryptokiAlreadyInitialized := by
    unfold initializeModule
    rw [ha.mutex]
    split
    · exact .inr rfl
    · exact .inl rfl
  unfold xInitializePkcs11Session
  generalize initializeModule s a'.before a'.mutex = q at hrv
  simp only [if_pos hrv, ha.slots, hh, ha.sessionMutexes, if_true]

/-! ## `FindPKCS11Keys` -/

/-- A search gets what it asks for. -/
structure SearchAns.Granted (a : SearchAns) : Prop where
  malloc : a.malloc = true
  lock : a.lock = true

variable {r r' : FindKeys} {b : Bool} {xClass : List UInt8}

/-- A search for a label and a class is one for the label. -/
theorem moduleFind_started (hstart : StartsSearch (st.findEnv a) s xSession h)
    (label xClass : List UInt8) (px : ObjectHandle) :
    xFindObjectWithLabelAndClass (moduleFind (st.findEnv a) xSession label xClass) s px =
      let f := findByLabel (st.findEnv a) (searching s h label) .ok (cstr label) 0
      let pxHandle := if f.pulObjectCount = 0 then ckInvalidHandle else f.pxObject
      some (if f.rv = .ok then (ckrOk, pxHandle, f.post.searched h) else (f.rv.code, pxHandle, f.post)) := by
  have hinit : cFindObjectsInit (st.findEnv a) s xSession (some [⟨true, label⟩, ⟨false, xClass⟩]) =
      some (.ok, searching s h label) := by
    rw [cFindObjectsInit_copies hstart (.inr rfl), copyLabels_two]
    rfl
  have hfind : cFindObjects (st.findEnv a) (searching s h label) xSession px 1 0 =
      some (findByLabel (st.findEnv a) (searching s h label) .ok (cstr label) 0) :=
    cFindObjects_searching hstart List.prefix_rfl _ px 0 Nat.one_ne_zero
  have hfinal := cFindObjectsFinal_searching hstart label 0
  have hok : CkRv.ok.code = ckrOk := rfl
  unfold xFindObjectWithLabelAndClass moduleFind
  simp only [hinit, hfind, Option.map_some, hfinal]
  by_cases hrv : (findByLabel (st.findEnv a) (searching s h label) .ok (cstr label) 0).rv = .ok
  · simp [hrv, hok]
  · simp [hrv, mt CkRv.code_eq_ok.1 hrv, hok]

theorem moduleFind_refused (hno : ∀ h, ¬StartsSearch (st.findEnv a) s xSession h)
    (label xClass : List UInt8) (px : ObjectHandle) : ∃ e, e ≠ ckrOk ∧
      xFindObjectWithLabelAndClass (moduleFind (st.findEnv a) xSession label xClass) s px =
        some (e, ckInvalidHandle, s) := by
  obtain ⟨e, hinit, he⟩ := searchInit_refused hno [⟨true, label⟩, ⟨false, xClass⟩]
  have hcode := mt CkRv.code_eq_ok.1 he
  refine ⟨e.code, hcode, ?_⟩
  unfold xFindObjectWithLabelAndClass moduleFind
  simp [hinit, hcode]

/-- The module while `FindPKCS11Keys` searches in its session, which was opened in `s`. -/
structure KeysOpen (st : PkiStores) (s : State) (h : Nat) (r : FindKeys) : Prop where
  learns : Learns st s r.post
  initialized : r.post.xIsInitialized = true
  others : ∀ i, i ≠ h → r.post.sessions i = s.sessions i
  opened : (r.post.sessions h).xOpened = true
  idle : r.xResult = ckrOk → (r.post.sessions h).pxFindObjectLabel = none

theorem KeysOpen.starts (hk : KeysOpen st s h r) (hr : r.xResult = ckrOk) (hmalloc : a.malloc = true) :
    StartsSearch (st.findEnv a) r.post (some h) h :=
  ⟨sessionCheck_open hk.initialized hk.opened, hk.idle hr, hmalloc⟩

/-- **One search of `FindPKCS11Keys`** keeps the session for the next. -/
theorem findKey_keeps {n : Nat} (hk : KeysOpen st s h r)
    (hr : findKey st (some h) label n a r = some (b, r')) : KeysOpen st s h r' := by
  unfold findKey at hr
  split at hr
  swap
  · obtain ⟨-, rfl⟩ := Prod.mk.inj (Option.some.inj hr)
    exact hk
  rename_i hok
  obtain ⟨⟨rv, px, s'⟩, hfind, hres⟩ := Option.map_eq_some_iff.1 hr
  obtain ⟨-, rfl⟩ := Prod.mk.inj hres
  by_cases hstart : ∃ i, StartsSearch (st.findEnv a) r.post (some h) i
  · obtain ⟨i, hstart⟩ := hstart
    obtain rfl : h = i := Option.some.inj (sessionCheck_ok hstart.session).1
    rw [moduleFind_started hstart] at hfind
    have hlearn := searched_learns st r.post a h label (cstr label) 0
    have hsess := searched_sessions hstart label (cstr label) 0
    obtain ⟨hi, hs⟩ :=
      findByLabel_frame (st.findEnv a) (searching r.post h label) .ok (cstr label) 0
    have hfail := findByLabel_learns st (searching r.post h label) a .ok
      (cstr label) 0
    generalize findByLabel (st.findEnv a) (searching r.post h label) .ok (cstr label) 0 = f
      at hfind hlearn hsess hi hs hfail
    dsimp only at hfind
    split at hfind
    · obtain ⟨-, hpost⟩ := Prod.mk.inj (Option.some.inj hfind)
      obtain ⟨-, rfl⟩ := Prod.mk.inj hpost
      refine ⟨hk.learns.trans hlearn, hi.trans hk.initialized, ?_, ?_, fun _ => ?_⟩
      · rw [hsess]
        exact hk.others
      · rw [hsess]
        exact hk.opened
      · rw [hsess]
        exact hk.idle hok
    · rename_i hrv
      obtain ⟨rfl, hpost⟩ := Prod.mk.inj (Option.some.inj hfind)
      obtain ⟨-, rfl⟩ := Prod.mk.inj hpost
      have hgo : Learns st r.post (searching r.post h label) := .of_eq rfl rfl
      refine ⟨hk.learns.trans (hgo.trans hfail), hi.trans hk.initialized, ?_, ?_, ?_⟩
      · intro j hj
        rw [hs, ← hk.others j hj]
        exact Function.update_of_ne hj _ _
      · rw [hs]
        exact (congrArg P11Session.xOpened (Function.update_self h _ r.post.sessions)).trans hk.opened
      · exact fun hcode => absurd (CkRv.code_eq_ok.1 hcode) hrv
  · obtain ⟨e, he, hrun⟩ := moduleFind_refused (fun i hi => hstart ⟨i, hi⟩) label (leBytes 4 n) r.xHandle
    obtain ⟨rfl, hpost⟩ := Prod.mk.inj (Option.some.inj (hfind.symm.trans hrun))
    obtain ⟨-, rfl⟩ := Prod.mk.inj hpost
    exact ⟨hk.learns, hk.initialized, hk.others, hk.opened, fun h => absurd h he⟩

/-- A search that is served tells whether PSA holds the object. -/
theorem findKey_object (hk : KeysOpen st s h r) (happ : Tracks st s) (hok : r.xResult = ckrOk)
    (ha : a.Granted) (o : TokenObject) (n : Nat) :
    ∃ b r', findKey st (some h) o.label n a r = some (b, r') ∧ KeysOpen st s h r' ∧
      r'.xResult = ckrOk ∧ (b = true ↔ st.HasObject o) := by
  have hstart := hk.starts hok ha.malloc
  have hrun := moduleFind_started hstart o.label (leBytes 4 n) r.xHandle
  have htracks : Tracks st (searching r.post h o.label) := (hk.learns.tracks happ).congr rfl rfl
  obtain ⟨hrv, hans⟩ := findByLabel_object htracks a o
  rw [cstr_of_notMem o.label_notMem] at hrun
  generalize findByLabel (st.findEnv a) (searching r.post h o.label) .ok o.label 0 = f at hrun hrv hans
  dsimp only at hrun
  rw [if_pos (hrv ha.lock)] at hrun
  have hfind : findKey st (some h) o.label n a r = some
      (decide (ckrOk = ckrOk ∧ (if f.pulObjectCount = 0 then ckInvalidHandle else f.pxObject) ≠ 0),
        ⟨ckrOk, if f.pulObjectCount = 0 then ckInvalidHandle else f.pxObject, f.post.searched h⟩) := by
    unfold findKey
    rw [if_pos hok, hrun]
    rfl
  refine ⟨_, _, hfind, findKey_keeps hk hfind, rfl, ?_⟩
  rw [decide_eq_true_iff]
  obtain ⟨ho, hcount, hnames⟩ | ⟨ho, hcount, -⟩ := hans (hrv ha.lock)
  · refine iff_of_true ⟨rfl, ?_⟩ ho
    rw [hcount]
    exact hnames.ne
  · refine iff_of_false (fun hx => hx.2 ?_) ho
    rw [if_pos hcount]
    rfl

theorem KeysOpen.start (happ : AppState st s) (hs : sessionCheck s (some h) = .ok h) (rv : Rv)
    (px : ObjectHandle) : KeysOpen st s h ⟨rv, px, s⟩ := by
  obtain ⟨-, hinit, hopen⟩ := sessionCheck_ok hs
  exact ⟨.refl st s, hinit, fun _ _ => rfl, hopen, fun _ => happ.idle h hopen⟩

/-- The session is closed, whether a search was left in it or not. -/
theorem KeysOpen.close (hk : KeysOpen st s h r) (happ : AppState st s) :
    AppState st (closeSession r.post (some h)) ∧ Later s (closeSession r.post (some h)) := by
  have hclose : closeSession r.post (some h) =
      r.post.setSession h { r.post.sessions h with xOpened := false } := by
    unfold closeSession
    rw [sessionCheck_open hk.initialized hk.opened]
  rw [hclose]
  refine ⟨⟨(hk.learns.tracks happ.tracks).congr rfl rfl, fun i hi => ?_, fun hi => ?_⟩,
    fun _ => ⟨hk.initialized, hk.learns.list⟩⟩
  · by_cases hih : i = h
    · subst hih
      simp [State.setSession] at hi
    · simp only [State.setSession, Function.update_of_ne hih, hk.others i hih] at hi ⊢
      exact happ.idle i hi
  · have hinit : r.post.xIsInitialized = false := hi
    rw [hk.initialized] at hinit
    cases hinit

/-- `FindPKCS11Keys` between two searches: its session is open, or could not be opened. -/
inductive KeysRun (st : PkiStores) (s : State) : SessionHandle → FindKeys → Prop
  | opened {h : Nat} {r : FindKeys} (hk : KeysOpen st s h r) : KeysRun st s (some h) r
  | failed {r : FindKeys} (hr : r.xResult ≠ ckrOk) (hpost : r.post = s) : KeysRun st s none r

theorem KeysRun.findKey {n : Nat} (hk : KeysRun st s xSession r)
    (hr : findKey st xSession label n a r = some (b, r')) : KeysRun st s xSession r' := by
  cases hk with
  | opened hk => exact .opened (findKey_keeps hk hr)
  | failed hne hpost =>
    unfold Crypto.findKey at hr
    rw [if_neg hne] at hr
    obtain ⟨-, rfl⟩ := Prod.mk.inj (Option.some.inj hr)
    exact .failed hne hpost

theorem KeysRun.close (hk : KeysRun st s xSession r) (happ : AppState st s) :
    AppState st (closeSession r.post xSession) ∧ Later s (closeSession r.post xSession) := by
  cases hk with
  | opened hk => exact hk.close happ
  | failed hne hpost =>
    have hclose : closeSession r.post none = s := by
      unfold closeSession sessionCheck
      rw [hpost]
      split_ifs <;> rfl
    rw [hclose]
    exact ⟨happ, .refl s⟩

/-- **`FindPKCS11Keys`** leaves the module as any call of the application does. -/
theorem findPkcs11Keys_keeps (happ : AppState st s) {ota : Bool} {ans : FindKeysAns} {ret : Nat}
    (hr : findPkcs11Keys st ota s ans = some (ret, s')) : AppState st s' ∧ Later s s' := by
  obtain ⟨hpost, hlater, hsession, hfailed⟩ := xInitializePkcs11Session_opens happ ans.session
  unfold findPkcs11Keys at hr
  generalize xInitializePkcs11Session s ans.session = q at hr hpost hlater hsession hfailed
  obtain ⟨rv, xSession, s₁⟩ := q
  have hstart : KeysRun st s₁ xSession ⟨rv.code, ans.xHandle, s₁⟩ := by
    by_cases hrv : rv = .ok
    · obtain ⟨h, rfl, hs⟩ := hsession hrv
      exact .opened (.start hpost hs _ _)
    · obtain rfl := hfailed hrv
      exact .failed (mt CkRv.code_eq_ok.1 hrv) rfl
  -- the result does not matter, the session is closed in the end
  have hdone : ∀ {r : FindKeys} {b₁ b₂ b₃ b₄ : Bool}, KeysRun st s₁ xSession r →
      (if ¬b₁ = true ∨ ¬b₂ = true ∨ ¬b₃ = true then some (0, closeSession r.post xSession)
        else if ¬b₄ = true then some (0, closeSession r.post xSession)
        else some (1, closeSession r.post xSession)) = some (ret, s') →
      AppState st s' ∧ Later s s' := by
    intro r b₁ b₂ b₃ b₄ hk hret
    have hs' : s' = closeSession r.post xSession := by
      split_ifs at hret <;> exact (Prod.mk.inj (Option.some.inj hret)).2.symm
    obtain ⟨happ', hlater'⟩ := hk.close hpost
    rw [hs']
    exact ⟨happ', hlater.trans hlater'⟩
  cases ota with
  | false =>
    simp only [Option.bind_eq_bind, Option.bind_eq_some_iff, Bool.false_eq_true, if_false] at hr
    obtain ⟨⟨b₁, r₁⟩, h₁, ⟨b₂, r₂⟩, h₂, ⟨b₃, r₃⟩, h₃, ⟨b₄, r₄⟩, h₄, hr⟩ := hr
    obtain ⟨rfl, rfl⟩ := Prod.mk.inj (Option.some.inj h₄)
    exact hdone (((hstart.findKey h₁).findKey h₂).findKey h₃) hr
  | true =>
    simp only [Option.bind_eq_bind, Option.bind_eq_some_iff, if_true] at hr
    obtain ⟨⟨b₁, r₁⟩, h₁, ⟨b₂, r₂⟩, h₂, ⟨b₃, r₃⟩, h₃, ⟨b₄, r₄⟩, h₄, hr⟩ := hr
    exact hdone ((((hstart.findKey h₁).findKey h₂).findKey h₃).findKey h₄) hr

/-- What `FindPKCS11Keys` asks for is granted. -/
structure FindKeysAns.Granted (a : FindKeysAns) : Prop where
  session : a.session.Granted
  devicePrivateKey : a.devicePrivateKey.Granted
  devicePublicKey : a.devicePublicKey.Granted
  deviceCertificate : a.deviceCertificate.Granted
  codeVerificationKey : a.codeVerificationKey.Granted

/-- The objects that `FindPKCS11Keys` looks for. -/
def neededObjects (ota : Bool) : List TokenObject :=
  [.key .devicePrivate, .key .devicePublic, .certificate .device] ++ if ota then [.key .codeVerify] else []

/-- **`FindPKCS11Keys`**, when it is served, tells whether PSA holds what it looks for. -/
theorem findPkcs11Keys_object (happ : AppState st s) {ans : FindKeysAns} (ha : ans.Granted)
    (ota : Bool) : ∃ ret s', findPkcs11Keys st ota s ans = some (ret, s') ∧
      (ret = 1 ↔ ∀ o ∈ neededObjects ota, st.HasObject o) := by
  obtain ⟨hpost, -, hsession, -⟩ := xInitializePkcs11Session_opens happ ans.session
  have hgranted := xInitializePkcs11Session_granted (s := s) ha.session
  unfold findPkcs11Keys
  generalize xInitializePkcs11Session s ans.session = q at hpost hsession hgranted
  obtain ⟨rv, xSession, s₁⟩ := q
  obtain rfl : rv = .ok := hgranted
  obtain ⟨h, rfl, hs⟩ := hsession rfl
  have htracks : Tracks st s₁ := hpost.tracks
  obtain ⟨b₁, r₁, h₁, hk₁, hok₁, hb₁⟩ := findKey_object (.start hpost hs CkRv.ok.code ans.xHandle) htracks rfl
    ha.devicePrivateKey (.key .devicePrivate) ckoPrivateKey
  obtain ⟨b₂, r₂, h₂, hk₂, hok₂, hb₂⟩ := findKey_object hk₁ htracks hok₁
    ha.devicePublicKey (.key .devicePublic) ckoPublicKey
  obtain ⟨b₃, r₃, h₃, hk₃, hok₃, hb₃⟩ := findKey_object hk₂ htracks hok₂
    ha.deviceCertificate (.certificate .device) ckoCertificate
  obtain ⟨b₄, r₄, h₄, hk₄, hok₄, hb₄⟩ := findKey_object hk₃ htracks hok₃
    ha.codeVerificationKey (.key .codeVerify) ckoPublicKey
  have hret : ∀ (b : Bool) (x : State),
      ∃ ret s', (if ¬b₁ = true ∨ ¬b₂ = true ∨ ¬b₃ = true then some (0, x)
        else if ¬b = true then some (0, x) else some (1, x)) = some (ret, s') ∧
      (ret = 1 ↔ b₁ = true ∧ b₂ = true ∧ b₃ = true ∧ b = true) := by
    intro b x
    cases b₁ <;> cases b₂ <;> cases b₃ <;> cases b <;> simp
  have hlabel₁ : (TokenObject.key .devicePrivate).label = labelDevicePrivateKeyForTls := rfl
  have hlabel₂ : (TokenObject.key .devicePublic).label = labelDevicePublicKeyForTls := rfl
  have hlabel₃ : (TokenObject.certificate .device).label = labelDeviceCertificateForTls := rfl
  have hlabel₄ : (TokenObject.key .codeVerify).label = labelCodeVerificationKey := rfl
  rw [hlabel₁] at h₁
  rw [hlabel₂] at h₂
  rw [hlabel₃] at h₃
  rw [hlabel₄] at h₄
  cases ota with
  | false =>
    obtain ⟨ret, s', hrun, hiff⟩ := hret true (closeSession r₃.post (some h))
    refine ⟨ret, s', ?_, ?_⟩
    · simpa only [Option.bind_eq_bind, h₁, h₂, h₃, Option.bind_some, Bool.false_eq_true, if_false] using hrun
    · rw [hiff, hb₁, hb₂, hb₃]
      simp [neededObjects]
  | true =>
    obtain ⟨ret, s', hrun, hiff⟩ := hret b₄ (closeSession r₄.post (some h))
    refine ⟨ret, s', ?_, ?_⟩
    · simpa only [Option.bind_eq_bind, h₁, h₂, h₃, h₄, Option.bind_some, if_true] using hrun
    · rw [hiff, hb₁, hb₂, hb₃, hb₄]
      simp [neededObjects]

/-! ## Runs -/

/-- **A call of the application.** -/
theorem appStep_keeps {c : AppCall} {ans : AppAns} (happ : AppState st s)
    (h : appStep st s c = some (s', ans)) : AppState st s' ∧ Later s s' := by
  cases c with
  | xInitializePkcs11Session a =>
    obtain ⟨rfl, -⟩ := Prod.mk.inj (Option.some.inj h)
    obtain ⟨hpost, hlater, -, -⟩ := xInitializePkcs11Session_opens happ a
    exact ⟨hpost, hlater⟩
  | search xSession label a =>
    obtain ⟨r, hr, hres⟩ := Option.map_eq_some_iff.1 h
    obtain ⟨rfl, -⟩ := Prod.mk.inj hres
    obtain ⟨hlearn, hi, hs⟩ := searchRun_learns happ hr
    exact happ.learn hlearn hi hs
  | findPkcs11Keys ota a =>
    obtain ⟨⟨ret, s₁⟩, hr, hres⟩ := Option.map_eq_some_iff.1 h
    obtain ⟨rfl, -⟩ := Prod.mk.inj hres
    exact findPkcs11Keys_keeps happ hr

variable {s₀ : State} {run : List (Entry State AppCall AppAns)}

/-- **Every state** that the application leads to after a reboot. -/
theorem application_state (hboot : Rebooted s₀) (h : Exec (application st) s₀ run s) : AppState st s :=
  h.inv (fun _ _ _ _ happ hstep => (appStep_keeps happ hstep).1) hboot.appState

theorem application_later (happ : AppState st s₀) (h : Exec (application st) s₀ run s) :
    AppState st s ∧ Later s₀ s := by
  refine h.inv (I := fun s => AppState st s ∧ Later s₀ s) ?_ ⟨happ, .refl s₀⟩
  intro s c s' ans hs hstep
  obtain ⟨happ', hlater⟩ := appStep_keeps hs.1 hstep
  exact ⟨happ', hs.2.trans hlater⟩

/-- A search of the run has found the object, and answered with the handle. -/
def FindsHandle (label : List UInt8) (px : ObjectHandle) (e : Entry State AppCall AppAns) : Prop :=
  ∃ xSession a r, e.inp = .search xSession label a ∧ e.out = .searched r ∧ r.Ok ∧ r.Found ∧
    px = r.pxObject

/-- **A handle** that was found names the object to the end of the run. -/
theorem application_names (hboot : Rebooted s₀) (h : Exec (application st) s₀ run s)
    {e : Entry State AppCall AppAns} (he : e ∈ run) {px : ObjectHandle}
    (hfind : FindsHandle o.label px e) : Names s.xObjectList px o := by
  obtain ⟨run₁, run₂, rfl⟩ := List.append_of_mem he
  obtain ⟨hbefore, hafter⟩ := h.split
  have happ := application_state hboot hbefore
  obtain ⟨xSession, a, r, hinp, hout, hok, hfound, rfl⟩ := hfind
  have hstep := h.mem he
  rw [hinp, hout] at hstep
  obtain ⟨r', hr, hres⟩ := Option.map_eq_some_iff.1 hstep
  obtain ⟨hpost, hsame⟩ := Prod.mk.inj hres
  obtain rfl := AppAns.searched.inj hsame
  obtain ⟨hnames, hinit⟩ := search_names happ hr hok hfound
  obtain ⟨happ', -⟩ := appStep_keeps happ (h.mem he)
  rw [hpost] at hnames hinit
  exact hnames.extends ((application_later happ' hafter).2 hinit).2

end Crypto
