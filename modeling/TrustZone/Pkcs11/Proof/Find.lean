import TrustZone.Pkcs11.Proof.FindInit
import TrustZone.Pkcs11.Proof.ObjectList

/-!
# Searching for an object by its label

A search compares the label it is given with the first bytes of the listed labels (`memcmp` over
`strlen` bytes), and leaves the caller's count alone when it finds nothing. So it answers as it
should exactly when the first listed label that begins with the given one is the given one, or no
listed label begins with it and the persistent objects and the count agree (`search_correct_iff`).

* `findByLabel_listed`, `findByLabel_stored`, `findByLabel_unknown`: what `C_FindObjects` does.
* `searchRun_done`, `searchRun_eq`: the three calls of a search come down to it.
-/

namespace Pkcs11

open Lib Psa

/-! ## The objects a search can find -/

/-- An object that PSA keeps: its label, its PAL handle, what PSA answers about it, and whether the
context holds a key of it. A search does not look at the marks of certificates. -/
structure PersistentObject where
  label : List UInt8
  xPalHandle : ObjectHandle
  status : FindEnv → Status
  mark : P11KeyConfig → Bool

def PersistentObject.key (label : List UInt8) (xPalHandle : ObjectHandle) (xKeyId : KeyHandle)
    (mark : P11KeyConfig → Bool) : PersistentObject :=
  ⟨label, xPalHandle, fun env => (env.openKey xKeyId).1, mark⟩

def PersistentObject.certificate (label : List UInt8) (xPalHandle : ObjectHandle) (uid : Nat) :
    PersistentObject :=
  ⟨label, xPalHandle, fun env => env.psGetInfo uid, fun _ => false⟩

/-- The six objects that `C_FindObjects` knows. -/
def persistentObjects : List PersistentObject :=
  [.key labelDevicePrivateKeyForTls eAwsDevicePrivateKey psaDevicePrivateKeyId
      (·.xDevicePrivateKeyMark),
   .key labelDevicePublicKeyForTls eAwsDevicePublicKey psaDevicePublicKeyId (·.xDevicePublicKeyMark),
   .key labelCodeVerificationKey eAwsCodeVerifyingKey psaCodeVerificationKeyId
      (·.xCodeVerifyKeyMark),
   .certificate labelDeviceCertificateForTls eAwsDeviceCertificate psaDeviceCertificateUid,
   .certificate labelRootCertificate eAwsRootCertificate psaRootCertificateUid,
   .certificate labelJitpCertificate eAwsJitpCertificate psaJitpCertificateUid]

/-- PSA storage holds the object. -/
def PersistentObject.Stored (o : PersistentObject) (env : FindEnv) : Prop :=
  o.status env = psaSuccess

instance (o : PersistentObject) (env : FindEnv) : Decidable (o.Stored env) :=
  inferInstanceAs (Decidable (o.status env = psaSuccess))

/-- An entry of the list that has a label. -/
def P11Object.HasLabel (o : P11Object) (label : List UInt8) : Prop :=
  o.xHandle ≠ ckInvalidHandle ∧ o.label = label

instance (o : P11Object) (label : List UInt8) : Decidable (o.HasLabel label) :=
  inferInstanceAs (Decidable (o.xHandle ≠ ckInvalidHandle ∧ o.label = label))

/-- An object with the label is in the list or in PSA storage. -/
def ObjectExists (env : FindEnv) (s : State) (label : List UInt8) : Prop :=
  (∃ i, (s.xObjectList.xObjects i).HasLabel label) ∨
    ∃ o ∈ persistentObjects, o.label = label ∧ o.Stored env

instance (env : FindEnv) (s : State) (label : List UInt8) : Decidable (ObjectExists env s label) :=
  inferInstanceAs (Decidable ((∃ i, (s.xObjectList.xObjects i).HasLabel label) ∨
    ∃ o ∈ persistentObjects, o.label = label ∧ o.Stored env))

/-- PSA reports no failure about the object of a label, other than that it does not exist. -/
def NoPsaFailure (env : FindEnv) (label : List UInt8) : Prop :=
  ∀ o ∈ persistentObjects, o.label = cstr label → o.Stored env ∨ o.status env = psaErrorDoesNotExist

/-- An entry that stands for an object with the label: listed before, or stored in PSA. -/
def IsObject (env : FindEnv) (s : State) (label : List UInt8) (x : P11Object) : Prop :=
  x.HasLabel label ∧ ((∃ i, s.xObjectList.xObjects i = x) ∨
    ∃ o ∈ persistentObjects, o.label = label ∧ o.Stored env ∧ x.xHandle = o.xPalHandle)

/-! ## What a search should do -/

def Search.Ok (r : Search) : Prop := r.init = .ok ∧ r.find = .ok ∧ r.final = .ok

def Search.Found (r : Search) : Prop := r.pulObjectCount = 1 ∧ r.pxObject ≠ ckInvalidHandle

/-- **A correct search** from `s`: it finds an object exactly when there is one with the label, and
the handle is that object's; without one, and without a failure of PSA, the count is zero. -/
structure SearchCorrect (env : FindEnv) (s : State) (label : List UInt8) (r : Search) : Prop where
  found : r.Found ↔ ObjectExists env s label
  handle : ObjectExists env s label → r.Ok ∧
    ∃ i, r.pxObject = appHandle i ∧ IsObject env s label (r.post.xObjectList.xObjects i)
  absent : ¬ObjectExists env s label → NoPsaFailure env label → r.Ok ∧ r.pulObjectCount = 0

/-- No listed label begins with the string. -/
def NoMatch (l : P11ObjectList) (c : List UInt8) : Prop := ∀ j, ¬c <+: (l.xObjects j).label

/-- The list has the PAL handle, or a free entry for it. -/
def Room (l : P11ObjectList) (xPalHandle : ObjectHandle) : Prop :=
  (∃ i, (l.xObjects i).xHandle = xPalHandle) ∨ ∃ i, (l.xObjects i).xHandle = ckInvalidHandle

/-- The object is found: the first listed label that begins with the given one is the given one, or
none begins with it and PSA's object finds a free entry. -/
inductive FindsObject (env : FindEnv) (s : State) (label : List UInt8) : Prop
  | listed (i : Fin pkcs11configMaxNumObjects) (h : (s.xObjectList.xObjects i).label = label)
      (first : ∀ j < i, ¬cstr label <+: (s.xObjectList.xObjects j).label)
  | stored (o : PersistentObject) (mem : o ∈ persistentObjects) (h : o.label = label)
      (stored : o.Stored env) (noMatch : NoMatch s.xObjectList (cstr label))
      (unlisted : ∀ i, (s.xObjectList.xObjects i).xHandle ≠ o.xPalHandle)
      (free : ∃ i, (s.xObjectList.xObjects i).xHandle = ckInvalidHandle)

/-- There is no object, and nothing is taken for one: no listed label begins with the given one, no
persistent object is listed, and, unless PSA fails, no mark is set and the count is zero already. -/
structure FindsNothing (env : FindEnv) (s : State) (label : List UInt8) (count : Nat) : Prop where
  noObject : ¬ObjectExists env s label
  noMatch : NoMatch s.xObjectList (cstr label)
  notListed : ∀ o ∈ persistentObjects, o.label = cstr label →
    ¬o.Stored env ∧ (o.mark s.p11KeyConfig → ¬Room s.xObjectList o.xPalHandle)
  zero : NoPsaFailure env label →
    (∀ o ∈ persistentObjects, o.label = cstr label → o.mark s.p11KeyConfig = false) ∧ count = 0

/-- A session that can search, with memory and the mutex of the list granted. -/
structure Ready (env : FindEnv) (s : State) (h : Nat) : Prop where
  initialized : s.xIsInitialized
  opened : (s.sessions h).xOpened
  idle : (s.sessions h).pxFindObjectLabel = none
  malloc : env.malloc
  lock : env.lock
  list : ListReach s.xObjectList

/-! ## Persistent objects -/

theorem persistentObjects_label {o : PersistentObject} (h : o ∈ persistentObjects) :
    0 ∉ o.label ∧ o.label.length < pkcs11configMaxLabelLength := by
  simp only [persistentObjects, List.mem_cons, List.not_mem_nil, or_false] at h
  rcases h with rfl | rfl | rfl | rfl | rfl | rfl <;>
    decide

theorem persistentObjects_inj {o o' : PersistentObject} (h : o ∈ persistentObjects)
    (h' : o' ∈ persistentObjects) (hl : o.label = o'.label) : o = o' := by
  have hnd : (persistentObjects.map (·.label)).Nodup := by decide
  exact List.inj_on_of_nodup_map hnd h h' hl

theorem persistentObjects_pal {o : PersistentObject} (h : o ∈ persistentObjects) :
    o.xPalHandle ≠ ckInvalidHandle := by
  simp only [persistentObjects, List.mem_cons, List.not_mem_nil, or_false] at h
  rcases h with rfl | rfl | rfl | rfl | rfl | rfl <;>
    decide

/-- The label of an object is a string. -/
theorem cstr_label {o : PersistentObject} (h : o ∈ persistentObjects) : cstr o.label = o.label :=
  cstr_of_notMem (persistentObjects_label h).1

/-- Nothing in the list has the label when nothing begins with it. -/
theorem NoMatch.stored {env : FindEnv} {s : State} {label : List UInt8}
    (h : NoMatch s.xObjectList (cstr label)) (he : ObjectExists env s label) :
    ∃ o ∈ persistentObjects, o.label = label ∧ o.Stored env := by
  rcases he with ⟨i, -, rfl⟩ | he
  · exact absurd (List.takeWhile_prefix _) (h i)
  · exact he

/-! ## `C_FindObjects` -/

/-- What `C_FindObjects` leaves, with the list only of the state. -/
def Found.answer (r : Found) : CkRv × ObjectHandle × Nat × P11ObjectList :=
  (r.rv, r.pxObject, r.pulObjectCount, r.post.xObjectList)

/-- Looking a persistent object up: a mark or PSA tells that it is there, and it is listed. -/
def lookup (env : FindEnv) (s : State) (o : PersistentObject) (count : Nat) :
    CkRv × ObjectHandle × Nat × P11ObjectList :=
  if o.mark s.p11KeyConfig ∨ o.Stored env then
    match prvAddObjectToList env.lock s.xObjectList o.xPalHandle o.label with
    | (.ok, some uxObjectHandle, l) => (.ok, uxObjectHandle, 1, l)
    | (rv, _, l) => (rv, ckInvalidHandle, count, l)
  else if o.status env = psaErrorDoesNotExist then (.ok, ckInvalidHandle, count, s.xObjectList)
  else (.functionFailed, ckInvalidHandle, count, s.xObjectList)

variable {env : FindEnv} {s : State} {label c : List UInt8} {count : Nat}

theorem pkcs11PsaGetKeyHandle_ok (cfg : P11KeyConfig) :
    ((pkcs11PsaGetKeyHandle cfg labelDevicePrivateKeyForTls).1 = .ok ↔ cfg.xDevicePrivateKeyMark) ∧
    ((pkcs11PsaGetKeyHandle cfg labelDevicePublicKeyForTls).1 = .ok ↔ cfg.xDevicePublicKeyMark) ∧
    ((pkcs11PsaGetKeyHandle cfg labelCodeVerificationKey).1 = .ok ↔ cfg.xCodeVerifyKeyMark) := by
  unfold pkcs11PsaGetKeyHandle
  refine ⟨?_, ?_, ?_⟩
  · have h2 : labelDevicePrivateKeyForTls.isPrefixOf (labelDevicePublicKeyForTls ++ [0]) = false := by
      decide
    have h3 : labelDevicePrivateKeyForTls.isPrefixOf (labelCodeVerificationKey ++ [0]) = false := by
      decide
    cases cfg.xDevicePrivateKeyMark <;> simp [h2, h3]
  · have h1 : labelDevicePublicKeyForTls.isPrefixOf (labelDevicePrivateKeyForTls ++ [0]) = false := by
      decide
    have h3 : labelDevicePublicKeyForTls.isPrefixOf (labelCodeVerificationKey ++ [0]) = false := by
      decide
    cases cfg.xDevicePublicKeyMark <;> simp [h1, h3]
  · have h1 : labelCodeVerificationKey.isPrefixOf (labelDevicePrivateKeyForTls ++ [0]) = false := by
      decide
    have h2 : labelCodeVerificationKey.isPrefixOf (labelDevicePublicKeyForTls ++ [0]) = false := by
      decide
    cases cfg.xCodeVerifyKeyMark <;> simp [h1, h2]

theorem findKeyObjects_answer {xKeyId : KeyHandle} {xPalHandle : ObjectHandle}
    {mark : P11KeyConfig → Bool}
    (hm : (pkcs11PsaGetKeyHandle s.p11KeyConfig c).1 = .ok ↔ mark s.p11KeyConfig) :
    (findKeyObjects env c xKeyId xPalHandle ⟨.ok, ckInvalidHandle, count, s⟩).answer =
      lookup env s (.key c xPalHandle xKeyId mark) count := by
  unfold findKeyObjects lookup PersistentObject.Stored PersistentObject.key
  by_cases hk : mark s.p11KeyConfig
  · simp only [if_pos (hm.2 hk), hk, true_or, and_self, if_true]
    rcases prvAddObjectToList env.lock s.xObjectList xPalHandle c with ⟨rv, px, l⟩
    cases rv <;> cases px <;> rfl
  · rw [if_neg (mt hm.1 hk)]
    by_cases h1 : (env.openKey xKeyId).1 = psaSuccess
    · simp only [h1, if_true, or_true, and_self]
      rcases prvAddObjectToList env.lock s.xObjectList xPalHandle c with ⟨rv, px, l⟩
      cases rv <;> cases px <;> rfl
    · by_cases h2 : (env.openKey xKeyId).1 = psaErrorDoesNotExist
      · have hne : psaErrorDoesNotExist ≠ psaSuccess := by decide
        simp [h2, hne, hk, Found.answer]
      · simp [h1, h2, hk, Found.answer]

theorem findCertificate_answer {uid : Nat} {xPalHandle : ObjectHandle} :
    (findCertificate env c uid xPalHandle ⟨.ok, ckInvalidHandle, count, s⟩).answer =
      lookup env s (.certificate c xPalHandle uid) count := by
  unfold findCertificate lookup PersistentObject.Stored PersistentObject.certificate
  by_cases h1 : env.psGetInfo uid = psaSuccess
  · simp only [h1, if_true, or_true]
    rcases prvAddObjectToList env.lock s.xObjectList xPalHandle c with ⟨rv, px, l⟩
    cases rv <;> cases px <;> rfl
  · by_cases h2 : env.psGetInfo uid = psaErrorDoesNotExist
    · have hne : psaErrorDoesNotExist ≠ psaSuccess := by decide
      simp [h2, hne, Found.answer]
    · simp [h1, h2, Found.answer]

theorem findByLabel_listed {i : Fin pkcs11configMaxNumObjects} {xHandle : ObjectHandle}
    (h : prvFindObjectInListByLabel s.xObjectList c = (xHandle, appHandle i)) :
    findByLabel env s .ok c count = ⟨.ok, appHandle i, 1, s⟩ := by
  unfold findByLabel
  rw [h]
  exact if_pos (appHandle_ne i)

theorem findByLabel_stored {o : PersistentObject} (ho : o ∈ persistentObjects)
    (h : prvFindObjectInListByLabel s.xObjectList o.label = (ckInvalidHandle, ckInvalidHandle)) :
    (findByLabel env s .ok o.label count).answer = lookup env s o count := by
  unfold findByLabel
  rw [h]
  simp only [ne_eq, not_true_eq_false, if_false]
  simp only [persistentObjects, List.mem_cons, List.not_mem_nil, or_false] at ho
  obtain ⟨hprv, hpub, hcode⟩ := pkcs11PsaGetKeyHandle_ok s.p11KeyConfig
  rcases ho with rfl | rfl | rfl | rfl | rfl | rfl
  · rw [if_pos (by rfl)]
    exact findKeyObjects_answer hprv
  · rw [if_neg (by decide), if_pos (by rfl)]
    exact findKeyObjects_answer hpub
  · rw [if_neg (by decide), if_neg (by decide), if_pos (by rfl)]
    exact findKeyObjects_answer hcode
  · rw [if_neg (by decide), if_neg (by decide), if_neg (by decide), if_pos (by rfl)]
    exact findCertificate_answer
  · rw [if_neg (by decide), if_neg (by decide), if_neg (by decide), if_neg (by decide), if_pos (by rfl)]
    exact findCertificate_answer
  · rw [if_neg (by decide), if_neg (by decide), if_neg (by decide), if_neg (by decide),
      if_neg (by decide), if_pos (by rfl)]
    exact findCertificate_answer

theorem findByLabel_unknown (hc : ∀ o ∈ persistentObjects, o.label ≠ c)
    (h : prvFindObjectInListByLabel s.xObjectList c = (ckInvalidHandle, ckInvalidHandle)) :
    findByLabel env s .ok c count = ⟨.ok, ckInvalidHandle, count, s⟩ := by
  have hne : ∀ b ∈ persistentObjects.map (·.label), c ≠ b := by
    intro b hb
    obtain ⟨o, ho, rfl⟩ := List.mem_map.1 hb
    exact (hc o ho).symm
  simp only [persistentObjects, List.map_cons, List.map_nil, List.forall_mem_cons,
    PersistentObject.key, PersistentObject.certificate] at hne
  obtain ⟨h1, h2, h3, h4, h5, h6, -⟩ := hne
  unfold findByLabel
  rw [h]
  simp only [ne_eq, not_true_eq_false, if_false, if_neg h1, if_neg h2, if_neg h3, if_neg h4,
    if_neg h5, if_neg h6]

/-- A search changes the list and the key configuration only. -/
theorem findKeyObjects_frame (env : FindEnv) (c : List UInt8) (xKeyId : KeyHandle)
    (xPalHandle : ObjectHandle) (r : Found) :
    (findKeyObjects env c xKeyId xPalHandle r).post.xIsInitialized = r.post.xIsInitialized ∧
      (findKeyObjects env c xKeyId xPalHandle r).post.sessions = r.post.sessions := by
  unfold findKeyObjects
  split
  split
  · split <;> exact ⟨rfl, rfl⟩
  · exact ⟨rfl, rfl⟩

theorem findCertificate_frame (env : FindEnv) (c : List UInt8) (uid : Nat)
    (xPalHandle : ObjectHandle) (r : Found) :
    (findCertificate env c uid xPalHandle r).post.xIsInitialized = r.post.xIsInitialized ∧
      (findCertificate env c uid xPalHandle r).post.sessions = r.post.sessions := by
  unfold findCertificate
  dsimp only
  split
  · split <;> exact ⟨rfl, rfl⟩
  · split <;> exact ⟨rfl, rfl⟩

theorem findByLabel_frame (env : FindEnv) (s : State) (rv : CkRv) (c : List UInt8) (count : Nat) :
    (findByLabel env s rv c count).post.xIsInitialized = s.xIsInitialized ∧
      (findByLabel env s rv c count).post.sessions = s.sessions := by
  unfold findByLabel
  dsimp only
  split_ifs
  · exact ⟨rfl, rfl⟩
  iterate 3 exact findKeyObjects_frame _ _ _ _ _
  iterate 3 exact findCertificate_frame _ _ _ _ _
  exact ⟨rfl, rfl⟩

/-! ## The three calls -/

/-- The state between `C_FindObjectsInit` and `C_FindObjects`. -/
def searching (s : State) (h : Nat) (label : List UInt8) : State :=
  s.setSession h { s.sessions h with pxFindObjectLabel := some (label ++ [0]) }

/-- The state after a search. -/
def State.searched (s : State) (h : Nat) : State :=
  s.setSession h { s.sessions h with pxFindObjectLabel := none }

variable {h : Nat} {xSession : SessionHandle}

theorem sessionCheck_open (hi : s.xIsInitialized) (ho : (s.sessions h).xOpened) :
    sessionCheck s (some h) = .ok h := by
  unfold sessionCheck
  rw [if_pos hi]
  exact if_pos ho

theorem cFindObjectsInit_label (hstart : StartsSearch env s xSession h) (label : List UInt8) :
    cFindObjectsInit env s xSession (some [⟨true, label⟩]) = some (.ok, searching s h label) := by
  rw [cFindObjectsInit_copies hstart (.inl rfl), copyLabels_one]
  rfl

theorem cFindObjectsFinal_searching (hstart : StartsSearch env s xSession h) (label : List UInt8)
    (count : Nat) :
    cFindObjectsFinal (findByLabel env (searching s h label) .ok (cstr label) count).post xSession =
      (.ok, (findByLabel env (searching s h label) .ok (cstr label) count).post.searched h) := by
  obtain ⟨rfl, hinit, hopened⟩ := sessionCheck_ok hstart.session
  have hsess : (searching s h label).sessions h =
      { s.sessions h with pxFindObjectLabel := some (label ++ [0]) } := Function.update_self ..
  have hframe := findByLabel_frame env (searching s h label) .ok (cstr label) count
  generalize findByLabel env (searching s h label) .ok (cstr label) count = f at hframe ⊢
  have hcheck : sessionCheck f.post (some h) = .ok h := by
    refine sessionCheck_open ?_ ?_
    · rw [hframe.1]; exact hinit
    · rw [hframe.2, hsess]; exact hopened
  have hlabel : (f.post.sessions h).pxFindObjectLabel ≠ none := by
    rw [hframe.2, hsess]
    exact Option.some_ne_none _
  unfold cFindObjectsFinal
  rw [hcheck]
  exact if_neg hlabel

/-- **The three calls** of a search, from a session that can start one. -/
theorem searchRun_done (hstart : StartsSearch env s xSession h) (label : List UInt8)
    (px : ObjectHandle) (count : Nat) :
    searchRun env s xSession label px count =
      let f := findByLabel env (searching s h label) .ok (cstr label) count
      some ⟨.ok, f.rv, .ok, f.pxObject, f.pulObjectCount, f.post.searched h⟩ := by
  have hfind : cFindObjects env (searching s h label) xSession px 1 count =
      some (findByLabel env (searching s h label) .ok (cstr label) count) :=
    cFindObjects_searching hstart List.prefix_rfl env px count Nat.one_ne_zero
  unfold searchRun
  rw [cFindObjectsInit_label hstart]
  simp only [hfind, cFindObjectsFinal_searching hstart]

theorem Ready.starts (hr : Ready env s h) : StartsSearch env s (some h) h :=
  ⟨sessionCheck_open hr.initialized hr.opened, hr.idle, hr.malloc⟩

/-- So a search comes down to `findByLabel`. -/
theorem searchRun_eq (hr : Ready env s h) (label : List UInt8) (px : ObjectHandle) (count : Nat) :
    ∃ r, searchRun env s (some h) label px count = some r ∧ r.init = .ok ∧ r.final = .ok ∧
      (r.find, r.pxObject, r.pulObjectCount, r.post.xObjectList) =
        (findByLabel env (searching s h label) .ok (cstr label) count).answer :=
  ⟨_, searchRun_done hr.starts label px count, rfl, rfl, rfl⟩

/-! ## Correct searches -/

/-- The label of an entry that is the first to begin with the given one. -/
theorem searchCorrect_listed {r : Search} (hL : label ≠ []) (hok : ListOk s.xObjectList)
    {i : Fin pkcs11configMaxNumObjects} (hpre : cstr label <+: (s.xObjectList.xObjects i).label)
    (hfirst : ∀ j < i, ¬cstr label <+: (s.xObjectList.xObjects j).label)
    (hr : r.Ok) (hpx : r.pxObject = appHandle i) (hcount : r.pulObjectCount = 1)
    (hlist : r.post.xObjectList = s.xObjectList) :
    SearchCorrect env s label r ↔ FindsObject env s label ∨ FindsNothing env s label count := by
  have hfound : r.Found := ⟨hcount, by rw [hpx]; exact appHandle_ne i⟩
  constructor
  · intro hc
    obtain ⟨-, i', hi', hobj, -⟩ := hc.handle (hc.found.1 hfound)
    obtain rfl := appHandle_inj i i' (hpx.symm.trans hi')
    rw [hlist] at hobj
    exact .inl (.listed i hobj.2 hfirst)
  · rintro ((⟨i', hl, hfirst'⟩ | ⟨_, _, _, _, hno, _, _⟩) | hn)
    · -- both are the first
      have hpre' : cstr label <+: (s.xObjectList.xObjects i').label := by
        rw [hl]
        exact List.takeWhile_prefix _
      have hi : i' = i := by
        rcases lt_trichotomy i' i with h | h | h
        · exact absurd hpre' (hfirst i' h)
        · exact h
        · exact absurd hpre (hfirst' i h)
      subst hi
      have hhas : (s.xObjectList.xObjects i').HasLabel label :=
        ⟨(hok i').handle_ne (by rw [hl]; exact hL), hl⟩
      have hex : ObjectExists env s label := .inl ⟨i', hhas⟩
      refine ⟨⟨fun _ => hex, fun _ => hfound⟩, fun _ => ⟨hr, i', hpx, ?_⟩, fun hne => absurd hex hne⟩
      rw [hlist]
      exact ⟨hhas, .inl ⟨i', rfl⟩⟩
    · exact absurd hpre (hno i)
    · exact absurd hpre (hn.noMatch i)

/-- Nothing listed begins with the label, and no persistent object has it. -/
theorem searchCorrect_unknown {r : Search} (hno : NoMatch s.xObjectList (cstr label))
    (hunknown : ∀ o ∈ persistentObjects, o.label ≠ cstr label)
    (hr : r.Ok) (hpx : r.pxObject = ckInvalidHandle) (hcount : r.pulObjectCount = count) :
    SearchCorrect env s label r ↔ FindsObject env s label ∨ FindsNothing env s label count := by
  have hex : ¬ObjectExists env s label := by
    intro h
    obtain ⟨o, ho, rfl, -⟩ := hno.stored h
    exact hunknown o ho (cstr_label ho).symm
  have hpsa : NoPsaFailure env label := fun o ho hl => absurd hl (hunknown o ho)
  have hfound : ¬r.Found := fun h => h.2 hpx
  constructor
  · intro hc
    refine .inr ⟨hex, hno, fun o ho hl => absurd hl (hunknown o ho), fun _ => ⟨?_, ?_⟩⟩
    · exact fun o ho hl => absurd hl (hunknown o ho)
    · rw [← hcount]
      exact (hc.absent hex hpsa).2
  · rintro ((⟨i, hl, -⟩ | ⟨o, ho, rfl, -⟩) | hn)
    · refine absurd ?_ (hno i)
      rw [hl]
      exact List.takeWhile_prefix _
    · exact absurd (cstr_label ho).symm (hunknown o ho)
    · refine ⟨⟨fun h => absurd h hfound, fun h => absurd h hex⟩, fun h => absurd h hex, ?_⟩
      exact fun _ hp => ⟨hr, hcount.trans (hn.zero hp).2⟩

/-- The object that a label names, when nothing listed begins with the label. -/
theorem stored_eq {o : PersistentObject} (ho : o ∈ persistentObjects) (hl : o.label = cstr label)
    (hno : NoMatch s.xObjectList (cstr label)) (hex : ObjectExists env s label) :
    o.label = label ∧ o.Stored env := by
  obtain ⟨o', ho', hl', hs⟩ := hno.stored hex
  have hc : cstr label = label := hl' ▸ cstr_label ho'
  obtain rfl := persistentObjects_inj ho ho' (by rw [hl, hc, hl'])
  exact ⟨hl', hs⟩

/-! Nothing listed begins with the label `o.label`: the four ways of looking `o` up. -/

section Known

variable {o : PersistentObject} {r : Search} (ho : o ∈ persistentObjects)
  (hl : o.label = cstr label) (hno : NoMatch s.xObjectList (cstr label))

include ho hl in
theorem known_eq {o' : PersistentObject} (ho' : o' ∈ persistentObjects)
    (hl' : o'.label = cstr label) : o' = o :=
  persistentObjects_inj ho' ho (hl'.trans hl.symm)

include hno in
theorem NoMatch.label_ne (i : Fin pkcs11configMaxNumObjects) :
    (s.xObjectList.xObjects i).label ≠ label := by
  rintro rfl
  exact hno i (List.takeWhile_prefix _)

include ho hl in
theorem FindsNothing.unmarked (hn : FindsNothing env s label count)
    (hm : o.mark s.p11KeyConfig ∨ o.Stored env) : o.mark s.p11KeyConfig :=
  hm.resolve_right (hn.notListed o ho hl).1

include ho hl hno in
/-- The PAL handle is listed under another label, and that entry is the answer. -/
theorem searchCorrect_elsewhere {i : Fin pkcs11configMaxNumObjects}
    (hm : o.mark s.p11KeyConfig ∨ o.Stored env)
    (hpal : (s.xObjectList.xObjects i).xHandle = o.xPalHandle) (hpx : r.pxObject = appHandle i)
    (hcount : r.pulObjectCount = 1) (hlist : r.post.xObjectList = s.xObjectList) :
    SearchCorrect env s label r ↔ FindsObject env s label ∨ FindsNothing env s label count := by
  have hfound : r.Found := ⟨hcount, by rw [hpx]; exact appHandle_ne i⟩
  constructor
  · intro hc
    obtain ⟨-, i', -, hobj, -⟩ := hc.handle (hc.found.1 hfound)
    rw [hlist] at hobj
    exact absurd hobj.2 (hno.label_ne i')
  · rintro ((⟨i', hl', -⟩ | ⟨o', ho', rfl, -, -, hunl, -⟩) | hn)
    · exact absurd hl' (hno.label_ne i')
    · obtain rfl := known_eq ho hl ho' (cstr_label ho').symm
      exact absurd hpal (hunl i)
    · have hmark := hn.unmarked ho hl hm
      exact absurd (.inl ⟨i, hpal⟩) ((hn.notListed o ho hl).2 hmark)

include ho hl hno in
/-- A free entry takes the object. -/
theorem searchCorrect_added {i : Fin pkcs11configMaxNumObjects} (hok : ListOk s.xObjectList)
    (hm : o.mark s.p11KeyConfig ∨ o.Stored env)
    (hunl : ∀ j, (s.xObjectList.xObjects j).xHandle ≠ o.xPalHandle)
    (hfree : (s.xObjectList.xObjects i).xHandle = ckInvalidHandle) (hr : r.Ok)
    (hpx : r.pxObject = appHandle i) (hcount : r.pulObjectCount = 1)
    (hpost : r.post.xObjectList.xObjects i =
      ⟨o.xPalHandle, blit (s.xObjectList.xObjects i).xLabel 0 o.label⟩) :
    SearchCorrect env s label r ↔ FindsObject env s label ∨ FindsNothing env s label count := by
  have hfound : r.Found := ⟨hcount, by rw [hpx]; exact appHandle_ne i⟩
  constructor
  · intro hc
    obtain ⟨hl', hs⟩ := stored_eq ho hl hno (hc.found.1 hfound)
    exact .inl (.stored o ho hl' hs hno hunl ⟨i, hfree⟩)
  · rintro ((⟨i', hl', -⟩ | ⟨o', ho', rfl, hs, -, -, -⟩) | hn)
    · exact absurd hl' (hno.label_ne i')
    · obtain rfl := known_eq ho hl ho' (cstr_label ho').symm
      obtain ⟨h0, hlen⟩ := persistentObjects_label ho
      have hex : ObjectExists env s o'.label := .inr ⟨o', ho, rfl, hs⟩
      refine ⟨⟨fun _ => hex, fun _ => hfound⟩, fun _ => ⟨hr, i, hpx, ?_⟩, fun hne => absurd hex hne⟩
      rw [hpost]
      exact ⟨⟨persistentObjects_pal ho, label_blit_zero h0 hlen (hok i) hfree _⟩,
        .inr ⟨o', ho, rfl, hs, rfl⟩⟩
    · have hmark := hn.unmarked ho hl hm
      exact absurd (.inr ⟨i, hfree⟩) ((hn.notListed o ho hl).2 hmark)

include ho hl hno in
/-- No entry is free. -/
theorem searchCorrect_full (hm : o.mark s.p11KeyConfig ∨ o.Stored env)
    (hunl : ∀ j, (s.xObjectList.xObjects j).xHandle ≠ o.xPalHandle)
    (hfull : ∀ j, (s.xObjectList.xObjects j).xHandle ≠ ckInvalidHandle)
    (hfind : r.find = .bufferTooSmall) (hpx : r.pxObject = ckInvalidHandle) :
    SearchCorrect env s label r ↔ FindsObject env s label ∨ FindsNothing env s label count := by
  have hfound : ¬r.Found := fun h => h.2 hpx
  have hbad : ¬r.Ok := fun h => by rw [h.2.1] at hfind; cases hfind
  have hroom : ¬Room s.xObjectList o.xPalHandle := by
    rintro (⟨i, hi⟩ | ⟨i, hi⟩)
    · exact hunl i hi
    · exact hfull i hi
  constructor
  · intro hc
    have hex : ¬ObjectExists env s label := fun h => hfound (hc.found.2 h)
    have hpsa : ¬NoPsaFailure env label := fun h => hbad (hc.absent hex h).1
    refine .inr ⟨hex, hno, fun o' ho' hl' => ?_, fun h => absurd h hpsa⟩
    obtain rfl := known_eq ho hl ho' hl'
    refine ⟨fun hs => hpsa fun o'' ho'' hl'' => ?_, fun _ => hroom⟩
    obtain rfl := known_eq ho hl ho'' hl''
    exact .inl hs
  · rintro ((⟨i', hl', -⟩ | ⟨_, _, _, _, _, _, ⟨i, hfree⟩⟩) | hn)
    · exact absurd hl' (hno.label_ne i')
    · exact absurd hfree (hfull i)
    · refine ⟨⟨fun h => absurd h hfound, fun h => absurd h hn.noObject⟩,
        fun h => absurd h hn.noObject, fun _ hpsa => ?_⟩
      have hmark := hn.unmarked ho hl hm
      rw [(hn.zero hpsa).1 o ho hl] at hmark
      cases hmark

include ho hl hno in
/-- Neither a mark nor PSA tells of the object. -/
theorem searchCorrect_absent (hm : ¬(o.mark s.p11KeyConfig ∨ o.Stored env)) (hi : r.init = .ok)
    (hf : r.final = .ok) (hfind : NoPsaFailure env label → r.find = .ok)
    (hpx : r.pxObject = ckInvalidHandle) (hcount : r.pulObjectCount = count) :
    SearchCorrect env s label r ↔ FindsObject env s label ∨ FindsNothing env s label count := by
  obtain ⟨hmark, hs⟩ := not_or.1 hm
  have hfound : ¬r.Found := fun h => h.2 hpx
  have hex : ¬ObjectExists env s label := fun h => hs (stored_eq ho hl hno h).2
  constructor
  · intro hc
    refine .inr ⟨hex, hno, fun o' ho' hl' => ?_, fun hpsa => ⟨fun o' ho' hl' => ?_, ?_⟩⟩
    · obtain rfl := known_eq ho hl ho' hl'
      exact ⟨hs, fun h => absurd h hmark⟩
    · obtain rfl := known_eq ho hl ho' hl'
      simpa using hmark
    · rw [← hcount]
      exact (hc.absent hex hpsa).2
  · rintro ((⟨i', hl', -⟩ | ⟨o', ho', rfl, hs', -, -, -⟩) | hn)
    · exact absurd hl' (hno.label_ne i')
    · obtain rfl := known_eq ho hl ho' (cstr_label ho').symm
      exact absurd hs' hs
    · refine ⟨⟨fun h => absurd h hfound, fun h => absurd h hex⟩, fun h => absurd h hex, ?_⟩
      exact fun _ hpsa => ⟨⟨hi, hfind hpsa, hf⟩, hcount.trans (hn.zero hpsa).2⟩

include ho hl hno in
/-- A persistent object with the label, looked up. -/
theorem searchCorrect_known (hlock : env.lock) (hok : ListOk s.xObjectList) (hi : r.init = .ok)
    (hf : r.final = .ok)
    (hr : (r.find, r.pxObject, r.pulObjectCount, r.post.xObjectList) = lookup env s o count) :
    SearchCorrect env s label r ↔ FindsObject env s label ∨ FindsNothing env s label count := by
  unfold lookup at hr
  by_cases hm : o.mark s.p11KeyConfig ∨ o.Stored env
  · rw [if_pos hm, hlock] at hr
    rcases prvAddObjectToList_cases s.xObjectList o.xPalHandle (persistentObjects_label ho).2 with
      ⟨i, hpal, hadd⟩ | ⟨i, hunl, hfree, hadd⟩ | ⟨hunl, hfull, hadd⟩
    · simp only [hadd, Prod.mk.injEq] at hr
      obtain ⟨-, hpx, hcount, hpost⟩ := hr
      exact searchCorrect_elsewhere ho hl hno hm hpal hpx hcount hpost
    · simp only [hadd, Prod.mk.injEq] at hr
      obtain ⟨hfind, hpx, hcount, hpost⟩ := hr
      refine searchCorrect_added ho hl hno hok hm hunl hfree ⟨hi, hfind, hf⟩ hpx hcount ?_
      rw [hpost]
      exact Function.update_self ..
    · simp only [hadd, Prod.mk.injEq] at hr
      exact searchCorrect_full ho hl hno hm hunl hfull hr.1 hr.2.1
  · rw [if_neg hm] at hr
    split at hr
    · simp only [Prod.mk.injEq] at hr
      exact searchCorrect_absent ho hl hno hm hi hf (fun _ => hr.1) hr.2.1 hr.2.2.1
    · rename_i hne
      simp only [Prod.mk.injEq] at hr
      have hpsa : ¬NoPsaFailure env label := fun h => h o ho hl |>.elim (not_or.1 hm).2 hne
      exact searchCorrect_absent ho hl hno hm hi hf (fun h => absurd h hpsa) hr.2.1 hr.2.2.1

end Known

/-- **Searches**: a session that can search finds the object of a label, or tells that there is none,
exactly under the two conditions. -/
theorem search_correct_iff (hr : Ready env s h) (hL : label ≠ []) (px : ObjectHandle) (count : Nat) :
    ∃ r, searchRun env s (some h) label px count = some r ∧
      (SearchCorrect env s label r ↔ FindsObject env s label ∨ FindsNothing env s label count) := by
  obtain ⟨r, hrun, hi, hf, hans⟩ := searchRun_eq hr label px count
  refine ⟨r, hrun, ?_⟩
  have hok := hr.list.ok
  rcases prvFindObjectInListByLabel_cases s.xObjectList (cstr_notMem label) with
    ⟨i, hpre, hfirst, hfind⟩ | ⟨hno, hfind⟩
  · rw [findByLabel_listed (s := searching s h label) hfind] at hans
    simp only [Found.answer, Prod.mk.injEq] at hans
    obtain ⟨h1, h2, h3, h4⟩ := hans
    exact searchCorrect_listed hL hok hpre hfirst ⟨hi, h1, hf⟩ h2 h3 h4
  · by_cases hk : ∃ o ∈ persistentObjects, o.label = cstr label
    · obtain ⟨o, ho, hl⟩ := hk
      rw [← hl] at hfind hans
      rw [findByLabel_stored (s := searching s h label) ho hfind] at hans
      exact searchCorrect_known ho hl hno hr.lock hok hi hf hans
    · have hunknown : ∀ o ∈ persistentObjects, o.label ≠ cstr label :=
        fun o ho hl => hk ⟨o, ho, hl⟩
      rw [findByLabel_unknown (s := searching s h label) hunknown hfind] at hans
      simp only [Found.answer, Prod.mk.injEq] at hans
      obtain ⟨h1, h2, h3, -⟩ := hans
      exact searchCorrect_unknown hno hunknown ⟨hi, h1, hf⟩ h2 h3

/-- PSA keeps the device certificate only, and memory and the mutex are granted. -/
def certificateOnly : FindEnv where
  openKey _ := (psaErrorDoesNotExist, 0)
  psGetInfo uid := if uid = psaDeviceCertificateUid then psaSuccess else psaErrorDoesNotExist
  malloc := true
  lock := true

/-- A session without operations. -/
def idleSession : P11Session :=
  ⟨true, none, 0, pkcs11NoOperation, 0, 0, pkcs11NoOperation, 0⟩

/-- The device certificate is listed, as a search for it leaves it. -/
def certificateListed : State where
  xIsInitialized := true
  xObjectList := (prvAddObjectToList true ⟨fun _ => .zero, fun _ => .zero⟩ eAwsDeviceCertificate
    labelDeviceCertificateForTls).2.2
  p11KeyConfig := ⟨0, 0, 0, true, false, false, false, false, false⟩
  sessions _ := idleSession

/-- The device certificate is found under its label. -/
theorem search_correct_certificate :
    ∃ r, searchRun certificateOnly certificateListed (some 0) labelDeviceCertificateForTls 0 0 =
      some r ∧ SearchCorrect certificateOnly certificateListed labelDeviceCertificateForTls r := by
  have hr : Ready certificateOnly certificateListed 0 :=
    ⟨rfl, rfl, rfl, rfl, rfl, .add true eAwsDeviceCertificate labelDeviceCertificateForTls (.init _)⟩
  obtain ⟨r, hrun, hiff⟩ := search_correct_iff hr
    (show labelDeviceCertificateForTls ≠ [] by decide) 0 0
  refine ⟨r, hrun, hiff.2 (.inl (.listed 0 (by decide) ?_))⟩
  exact fun j hj => absurd hj (Nat.not_lt_zero _)

/-- `"tls"` finds the device certificate, `"tls_cert"`; and without a root certificate, a count of
seven stays seven. -/
theorem search_prefix_stale :
    (∃ r, searchRun certificateOnly certificateListed (some 0) (ascii "tls") 0 0 = some r ∧
      r.pulObjectCount = 1 ∧ ¬SearchCorrect certificateOnly certificateListed (ascii "tls") r) ∧
    ∃ r, searchRun certificateOnly certificateListed (some 0) labelRootCertificate 0 7 = some r ∧
      r.find = .ok ∧ r.pulObjectCount = 7 ∧
      ¬SearchCorrect certificateOnly certificateListed labelRootCertificate r := by
  have hnone : ∀ label ∈ [ascii "tls", labelRootCertificate],
      ¬ObjectExists certificateOnly certificateListed label := by decide
  constructor
  · have h : (searchRun certificateOnly certificateListed (some 0) (ascii "tls") 0 0).map
        (fun r => (r.pxObject, r.pulObjectCount)) = some (1, 1) := by decide
    obtain ⟨r, hrun, hr⟩ := Option.map_eq_some_iff.1 h
    obtain ⟨hpx, hcount⟩ := Prod.mk.inj hr
    refine ⟨r, hrun, hcount, fun hc => hnone _ (by simp) (hc.found.1 ⟨hcount, ?_⟩)⟩
    rw [hpx]
    decide
  · have h : (searchRun certificateOnly certificateListed (some 0) labelRootCertificate 0 7).map
        (fun r => (r.find, r.pulObjectCount)) = some (.ok, 7) := by decide
    obtain ⟨r, hrun, hr⟩ := Option.map_eq_some_iff.1 h
    obtain ⟨hfind, hcount⟩ := Prod.mk.inj hr
    have hpsa : NoPsaFailure certificateOnly labelRootCertificate := by
      unfold NoPsaFailure
      decide
    refine ⟨r, hrun, hfind, hcount, fun hc => ?_⟩
    have hzero := (hc.absent (hnone _ (by simp)) hpsa).2
    rw [hcount] at hzero
    cases hzero

end Pkcs11
