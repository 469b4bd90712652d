import TrustZone.Pkcs11.Proof.Find
import TrustZone.Pkcs11.Proof.KeyMarks
import TrustZone.Pkcs11.Proof.ObjectListRuns

/-!
# The objects in the list

The calls on the device change the list by `ListMove`s: it is zeroed, one of the persistent objects is
added, or an entry is deleted. What that keeps (`Listed`) holds of every list of the module: the
entries are well formed, their PAL handles differ, and each stands for a persistent object, under a
prefix of its label (`reachable_listed`). The label is the whole one unless the caller gave a length
that is too short.
-/

namespace Pkcs11

open Lib Psa Crypto Machine Relation

variable {κ ρ ε : Type}

/-! ## Moves -/

/-- What one step can do to the list. -/
inductive ListMove : P11ObjectList → P11ObjectList → Prop
  | init {l : P11ObjectList} (before : Int → P11Object) : ListMove l (.zeroed before)
  | add {l : P11ObjectList} (lock : Bool) {o : PersistentObject} {bytes : List UInt8} :
      o ∈ persistentObjects → cstr bytes <+: o.label →
      ListMove l (prvAddObjectToList lock l o.xPalHandle bytes).2.2
  | delete {l : P11ObjectList} (lock : Bool) (xAppHandle : ObjectHandle) :
      ListMove l (prvDeleteObjectFromList lock l xAppHandle).2

/-- A chain of moves. -/
abbrev ListMoves : P11ObjectList → P11ObjectList → Prop := ReflTransGen ListMove

/-! ## What a move keeps -/

/-- An entry stands for a persistent object, under a prefix of its label. -/
def P11Object.Stands (x : P11Object) : Prop :=
  ∃ o ∈ persistentObjects, x.xHandle = o.xPalHandle ∧ x.label <+: o.label

theorem persistentObjects_pal_inj {o o' : PersistentObject} (h : o ∈ persistentObjects)
    (h' : o' ∈ persistentObjects) (hp : o.xPalHandle = o'.xPalHandle) : o = o' := by
  have hnd : (persistentObjects.map (·.xPalHandle)).Nodup := by decide
  exact List.inj_on_of_nodup_map hnd h h' hp

theorem P11Object.Stands.label {x : P11Object} (h : x.Stands) {o : PersistentObject}
    (ho : o ∈ persistentObjects) (hx : x.xHandle = o.xPalHandle) : x.label <+: o.label := by
  obtain ⟨o', ho', hx', hp⟩ := h
  rwa [persistentObjects_pal_inj ho ho' (hx.symm.trans hx')]

/-- The lists of the module. -/
structure Listed (l : P11ObjectList) : Prop where
  ok : ListOk l
  unique : ListUnique l
  stands : ∀ i, (l.xObjects i).xHandle ≠ ckInvalidHandle → (l.xObjects i).Stands

theorem Listed.zeroed (before : Int → P11Object) : Listed (.zeroed before) := by
  refine ⟨(ListInv.init before).1, (ListInv.init before).2, ?_⟩
  intro i hi
  exact absurd rfl hi

/-- A slot that is freed. -/
theorem Listed.free {l : P11ObjectList} (h : Listed l) (i : Fin pkcs11configMaxNumObjects) :
    Listed { l with xObjects := Function.update l.xObjects i .zero } := by
  refine ⟨h.ok.update P11Object.zero_ok i, ?_, ?_⟩
  · intro j k hj hjk
    have hji : j ≠ i := by
      rintro rfl
      simp [P11Object.zero, ckInvalidHandle] at hj
    have hki : k ≠ i := by
      rintro rfl
      rw [hjk] at hj
      simp [P11Object.zero, ckInvalidHandle] at hj
    simp only [Function.update_of_ne hji, Function.update_of_ne hki] at hj hjk
    exact h.unique j k hj hjk
  · intro j hj
    have hji : j ≠ i := by
      rintro rfl
      simp [P11Object.zero, ckInvalidHandle] at hj
    simp only [Function.update_of_ne hji] at hj ⊢
    exact h.stands j hj

/-- A free slot that is filled with an object that is not listed. -/
theorem Listed.fill {l : P11ObjectList} (h : Listed l) {i : Fin pkcs11configMaxNumObjects}
    {x : P11Object} (hx : x.Ok) (hs : x.Stands) (habsent : ∀ j, (l.xObjects j).xHandle ≠ x.xHandle) :
    Listed { l with xObjects := Function.update l.xObjects i x } := by
  refine ⟨h.ok.update hx i, ?_, ?_⟩
  · intro j k hj hjk
    by_cases hji : j = i <;> by_cases hki : k = i
    · exact hji.trans hki.symm
    · subst hji
      simp only [Function.update_self, Function.update_of_ne hki] at hjk
      exact absurd hjk.symm (habsent k)
    · subst hki
      simp only [Function.update_self, Function.update_of_ne hji] at hjk
      exact absurd hjk (habsent j)
    · simp only [Function.update_of_ne hji, Function.update_of_ne hki] at hj hjk
      exact h.unique j k hj hjk
  · intro j hj
    by_cases hji : j = i
    · subst hji
      simpa using hs
    · simp only [Function.update_of_ne hji] at hj ⊢
      exact h.stands j hj

/-- Deleting frees a slot, or leaves the slots alone. -/
theorem prvDeleteObjectFromList_slots (lock : Bool) (l : P11ObjectList) (xAppHandle : ObjectHandle) :
    (prvDeleteObjectFromList lock l xAppHandle).2.xObjects = l.xObjects ∨
      ∃ i, (prvDeleteObjectFromList lock l xAppHandle).2.xObjects =
        Function.update l.xObjects i .zero := by
  unfold prvDeleteObjectFromList P11ObjectList.set
  dsimp only
  split
  · split
    · split
      · split
        · exact .inr ⟨_, rfl⟩
        · exact .inl rfl
      · exact .inl rfl
    · exact .inl rfl
  · exact .inl rfl

/-- `Listed` looks at the slots only. -/
theorem Listed.congr {l l' : P11ObjectList} (h : Listed l) (he : l'.xObjects = l.xObjects) :
    Listed l' := by
  refine ⟨?_, ?_, ?_⟩
  · intro i
    rw [he]
    exact h.ok i
  · intro i j
    rw [he]
    exact h.unique i j
  · intro i
    rw [he]
    exact h.stands i

theorem ListMove.listed {l l' : P11ObjectList} (h : ListMove l l') (hl : Listed l) : Listed l' := by
  cases h with
  | init before => exact .zeroed before
  | @add lock o bytes ho hp =>
    have hout := prvAddObjectToList_outcome lock l o.xPalHandle bytes
    generalize prvAddObjectToList lock l o.xPalHandle bytes = r at hout ⊢
    cases hout with
    | inserted i habsent hfree hlen =>
      refine hl.fill (ok_blit_zero hlen (hl.ok i) hfree (persistentObjects_pal ho)) ?_ habsent
      refine ⟨o, ho, rfl, ?_⟩
      rwa [P11Object.label, blit_free hlen (hl.ok i) hfree, cstr_append_nul]
    | locked | present | full | long => exact hl
  | delete lock xAppHandle =>
    rcases prvDeleteObjectFromList_slots lock l xAppHandle with hs | ⟨i, hs⟩
    · exact hl.congr hs
    · exact (hl.free i).congr hs

theorem ListMoves.listed {l l' : P11ObjectList} (h : ListMoves l l') (hl : Listed l) : Listed l' := by
  induction h with
  | refl => exact hl
  | tail _ hm ih => exact hm.listed ih

/-! ## The moves of each call -/

/-- The string at the start of fewer bytes. -/
theorem prefix_cstr_slice (v : List UInt8) (n : Nat) : cstr (slice (memOf v) 0 n) <+: cstr v := by
  induction v generalizing n with
  | nil =>
    have hz : slice (memOf []) 0 n = List.replicate n 0 := by
      apply List.ext_getElem
      · simp
      · simp [slice, memOf]
    rw [hz]
    cases n with
    | zero => exact List.nil_prefix
    | succ n => simp [List.replicate_succ, cstr_nul]
  | cons x v ih =>
    cases n with
    | zero => exact List.nil_prefix
    | succ n =>
      have hs : slice (memOf (x :: v)) 0 (n + 1) = x :: slice (memOf v) 0 n := by
        simp [slice, memOf, List.range_succ_eq_map, Function.comp_def]
      rw [hs]
      by_cases hx : x = 0
      · simp [hx, cstr_nul]
      · rw [cstr_cons hx, cstr_cons hx]
        exact List.cons_prefix_cons.2 ⟨rfl, ih n⟩

theorem CkAttribute.prefix_string {a : CkAttribute} {s b : List UInt8} (hs : a.string = some s)
    (hb : a.bytes = some b) : cstr b <+: s := by
  obtain ⟨v, hv, rfl⟩ := Option.map_eq_some_iff.1 hs
  obtain ⟨w, hw, rfl⟩ := Option.map_eq_some_iff.1 hb
  obtain rfl := Option.some.inj (hv.symm.trans hw)
  exact prefix_cstr_slice v _

/-! A search for a key or a certificate lists it at most, and records it. -/

theorem findKeyObjects_post (env : FindEnv) (label : List UInt8) (xKeyId : KeyHandle)
    (pal : ObjectHandle) (r : Found) :
    ((findKeyObjects env label xKeyId pal r).post.xObjectList = r.post.xObjectList ∨
      (findKeyObjects env label xKeyId pal r).post.xObjectList =
        (prvAddObjectToList env.lock r.post.xObjectList pal label).2.2) ∧
    ((findKeyObjects env label xKeyId pal r).post.p11KeyConfig = r.post.p11KeyConfig ∨
      ∃ h, (findKeyObjects env label xKeyId pal r).post.p11KeyConfig =
        pkcs11PsaContextImportObject r.post.p11KeyConfig label h) := by
  unfold findKeyObjects
  generalize prvAddObjectToList env.lock r.post.xObjectList pal label = q
  obtain ⟨rv, h, l⟩ := q
  by_cases hg : (pkcs11PsaGetKeyHandle r.post.p11KeyConfig label).1 = .ok
  · simp only [hg, if_true, and_self]
    cases rv <;> cases h <;> exact ⟨.inr rfl, .inl rfl⟩
  · by_cases ho : (env.openKey xKeyId).1 = psaSuccess
    · simp only [hg, ho, if_true, if_false, and_self]
      cases rv <;> cases h <;> exact ⟨.inr rfl, .inr ⟨_, rfl⟩⟩
    · by_cases hd : (env.openKey xKeyId).1 = psaErrorDoesNotExist
      · simp only [hg, hd, if_false, ne_eq, not_true_eq_false, and_false,
          (by decide : psaErrorDoesNotExist ≠ psaSuccess)]
        exact ⟨.inl trivial, .inl trivial⟩
      · simp only [hg, ho, hd, if_false, ne_eq, not_false_eq_true, if_true, and_false]
        exact ⟨.inl trivial, .inl trivial⟩

theorem findCertificate_post (env : FindEnv) (label : List UInt8) (uid : Nat) (pal : ObjectHandle)
    (r : Found) :
    ((findCertificate env label uid pal r).post.xObjectList = r.post.xObjectList ∨
      (findCertificate env label uid pal r).post.xObjectList =
        (prvAddObjectToList env.lock r.post.xObjectList pal label).2.2) ∧
    ((findCertificate env label uid pal r).post.p11KeyConfig = r.post.p11KeyConfig ∨
      ∃ h, (findCertificate env label uid pal r).post.p11KeyConfig =
        pkcs11PsaContextImportObject r.post.p11KeyConfig label h) := by
  unfold findCertificate
  generalize prvAddObjectToList env.lock r.post.xObjectList pal label = q
  obtain ⟨rv, h, l⟩ := q
  dsimp only
  split
  · split
    · rename_i heq
      cases heq
      exact ⟨.inr rfl, .inr ⟨_, rfl⟩⟩
    · rename_i heq
      cases heq
      exact ⟨.inr rfl, .inl rfl⟩
  · split
    · exact ⟨.inl rfl, .inl rfl⟩
    · exact ⟨.inl rfl, .inl rfl⟩

theorem findKeyObjects_list (env : FindEnv) {o : PersistentObject} (ho : o ∈ persistentObjects)
    (xKeyId : KeyHandle) (r : Found) : ListMoves r.post.xObjectList
      (findKeyObjects env o.label xKeyId o.xPalHandle r).post.xObjectList := by
  rcases (findKeyObjects_post env o.label xKeyId o.xPalHandle r).1 with h | h
  · rw [h]
  · rw [h]
    exact .single (.add env.lock ho (by rw [cstr_label ho]))

theorem findCertificate_list (env : FindEnv) {o : PersistentObject} (ho : o ∈ persistentObjects)
    (uid : Nat) (r : Found) : ListMoves r.post.xObjectList
      (findCertificate env o.label uid o.xPalHandle r).post.xObjectList := by
  rcases (findCertificate_post env o.label uid o.xPalHandle r).1 with h | h
  · rw [h]
  · rw [h]
    exact .single (.add env.lock ho (by rw [cstr_label ho]))

theorem findByLabel_list (env : FindEnv) (s : State) (rv : CkRv) (label : List UInt8) (count : Nat) :
    ListMoves s.xObjectList (findByLabel env s rv label count).post.xObjectList := by
  have hmem : ∀ i (hi : i < persistentObjects.length), persistentObjects[i] ∈ persistentObjects :=
    fun i hi => List.getElem_mem hi
  unfold findByLabel
  dsimp only
  split_ifs with h0 h1 h2 h3 h4 h5 h6
  · exact .refl
  · subst h1
    exact findKeyObjects_list env (hmem 0 (by decide)) _ ⟨rv, _, count, s⟩
  · subst h2
    exact findKeyObjects_list env (hmem 1 (by decide)) _ ⟨rv, _, count, s⟩
  · subst h3
    exact findKeyObjects_list env (hmem 2 (by decide)) _ ⟨rv, _, count, s⟩
  · subst h4
    exact findCertificate_list env (hmem 3 (by decide)) _ ⟨rv, _, count, s⟩
  · subst h5
    exact findCertificate_list env (hmem 4 (by decide)) _ ⟨rv, _, count, s⟩
  · subst h6
    exact findCertificate_list env (hmem 5 (by decide)) _ ⟨rv, _, count, s⟩
  · exact .refl

theorem find_list {env : FindEnv} {s : State} {xSession : SessionHandle} {pxObject : ObjectHandle}
    {max count : Nat} {r : Found} (h : cFindObjects env s xSession pxObject max count = some r) :
    ListMoves s.xObjectList r.post.xObjectList := by
  unfold cFindObjects at h
  split at h
  · split at h
    · cases h
    · cases h
      exact findByLabel_list env s _ _ _
  · split at h
    · cases h
      exact .refl
    · split at h
      · cases h
        exact .refl
      · cases h
        exact findByLabel_list env s _ _ _

/-- What is saved is one of the persistent objects. -/
theorem saveObject_persistent {mbed : Mbed ρ ε κ} {xClass : Nat} {label data : List UInt8}
    {pk : Option (PkContext ρ ε)} {o : SaveObject κ}
    (h : saveObject mbed xClass label data pk = some o) :
    ∃ p ∈ persistentObjects, p.label = label ∧
      match o with
      | .certificate _ pal => p.xPalHandle = pal
      | .key _ _ _ pal => p.xPalHandle = pal := by
  have hmem : ∀ i (hi : i < persistentObjects.length), persistentObjects[i] ∈ persistentObjects :=
    fun i hi => List.getElem_mem hi
  unfold saveObject at h
  split_ifs at h with h1 h2 h3 h4 h5 h6
  · cases h
    exact ⟨_, hmem 3 (by decide), h1.2.symm, rfl⟩
  · cases h
    exact ⟨_, hmem 5 (by decide), h2.2.symm, rfl⟩
  · cases h
    exact ⟨_, hmem 4 (by decide), h3.2.symm, rfl⟩
  · obtain ⟨_, -, rfl⟩ := Option.map_eq_some_iff.1 h
    exact ⟨_, hmem 0 (by decide), h4.2.symm, rfl⟩
  · obtain ⟨_, -, rfl⟩ := Option.map_eq_some_iff.1 h
    exact ⟨_, hmem 2 (by decide), h5.2.symm, rfl⟩
  · obtain ⟨_, -, rfl⟩ := Option.map_eq_some_iff.1 h
    exact ⟨_, hmem 1 (by decide), h6.2.symm, rfl⟩

theorem save_persistent {mbed : Mbed ρ ε κ} {c c' : P11KeyConfig} {p p' : PsaStores κ} {xClass : Nat}
    {pxLabel : Option (List UInt8)} {data : List UInt8} {size : Nat} {pk : Option (PkContext ρ ε)}
    {a : SaveAns} {pal : ObjectHandle}
    (h : pkcs11PsaSaveObject mbed p c xClass pxLabel data size pk a = some (pal, c', p'))
    (hpal : pal ≠ ckInvalidHandle) :
    ∃ o ∈ persistentObjects, pxLabel = some o.label ∧ o.xPalHandle = pal := by
  unfold pkcs11PsaSaveObject at h
  split at h
  swap
  · cases h
    exact absurd rfl hpal
  split at h
  · split at h
    · cases h
    · cases h
      exact absurd rfl hpal
  · rename_i label
    split at h
    · cases h
      exact absurd rfl hpal
    · rename_i uid pal' ho
      obtain ⟨o, hmem, rfl, hpal'⟩ := saveObject_persistent ho
      dsimp only at h
      split at h
      · cases h
        exact ⟨o, hmem, rfl, hpal'⟩
      · cases h
        exact absurd rfl hpal
    · rename_i k id key pal' ho
      obtain ⟨o, hmem, rfl, hpal'⟩ := saveObject_persistent ho
      dsimp only at h
      split at h
      · cases h
        exact ⟨o, hmem, rfl, hpal'⟩
      · cases h
        exact absurd rfl hpal

theorem create_list {mbed : Mbed ρ ε κ} {d : Device κ} {xSession : SessionHandle}
    {pxTemplate : Option (List CkAttribute)} {pxObject : Option ObjectHandle} {a : CreateAns}
    {r : CreateResult κ} (h : cCreateObject mbed d xSession pxTemplate pxObject a = some r) :
    ListMoves d.p11.xObjectList r.post.p11.xObjectList := by
  unfold cCreateObject at h
  split at h
  swap
  · cases h
    exact .refl
  split at h
  · cases h
    exact .refl
  split at h
  · cases h
  · cases h
    exact .refl
  · split at h
    · cases h
    · rename_i hsave
      cases h
      unfold saveAndAdd at hsave
      split at hsave
      · cases hsave
      split at hsave
      · cases hsave
      rename_i pal cfg psa hso
      dsimp only at hsave
      split at hsave
      · cases hsave
        exact .refl
      · rename_i hpal
        split at hsave
        · cases hsave
        · rename_i bytes hbytes
          cases hsave
          obtain ⟨o, ho, hlabel, rfl⟩ := save_persistent hso hpal
          obtain ⟨attr, hattr, hs⟩ := Option.bind_eq_some_iff.1 hlabel
          rw [hattr] at hbytes
          exact .single (.add a.lock ho (CkAttribute.prefix_string hs hbytes))

theorem recordKey_list (d : Device κ) {k : DeviceKey} {o : PersistentObject}
    (ho : o ∈ persistentObjects) (hk : o.label = k.label) {label bytes : List UInt8}
    (hb : cstr bytes <+: label) (h : KeyHandle) (lock : Bool) :
    ListMoves d.p11.xObjectList
      (recordKey d k o.xPalHandle label bytes h lock).2.2.p11.xObjectList := by
  unfold recordKey
  split
  · rename_i hl
    refine .single (.add lock ho ?_)
    rwa [hk, ← hl]
  · exact .refl

theorem recordKeys_list (d : Device κ) (g : GeneratedKeys κ) {prv pub prvBytes pubBytes : List UInt8}
    (hprv : cstr prvBytes <+: prv) (hpub : cstr pubBytes <+: pub) (a : KeyPairAns κ)
    (hPub hPrv : ObjectHandle) :
    ListMoves d.p11.xObjectList
      (recordKeys d g prv pub prvBytes pubBytes a hPub hPrv).post.p11.xObjectList := by
  have hmem : ∀ i (hi : i < persistentObjects.length), persistentObjects[i] ∈ persistentObjects :=
    fun i hi => List.getElem_mem hi
  have h1 := recordKey_list ⟨d.p11, g.psa⟩ (k := .devicePrivate) (hmem 0 (by decide)) rfl hprv
    g.hPrivate a.lockPrivate
  rw [recordKeys_post]
  split
  · exact h1.trans (recordKey_list _ (hmem 1 (by decide)) rfl hpub _ _)
  · exact h1

theorem generate_list {publicKey : κ → List UInt8} {d : Device κ} {args : KeyPairArgs}
    {a : KeyPairAns κ} {r : KeyPairResult κ} (h : cGenerateKeyPair publicKey d args a = some r) :
    ListMoves d.p11.xObjectList r.post.p11.xObjectList := by
  cases generate_outcome h with
  | refused | privateFails | publicFails => exact .refl
  | recorded hc hprv hprvBytes hst hpub hpubBytes hst' =>
    exact recordKeys_list d _ (CkAttribute.prefix_string hprv hprvBytes)
      (CkAttribute.prefix_string hpub hpubBytes) a _ _

theorem destroy_list (d : Device κ) (xSession : SessionHandle) (xObject : ObjectHandle)
    (a : RemoveAns) (lock : Bool) : ListMoves d.p11.xObjectList
      (cDestroyObject d xSession xObject a lock).2.p11.xObjectList := by
  unfold cDestroyObject
  split
  · exact .refl
  split
  · have hr : ∀ pcLabel, (removeObject d pcLabel true a).2.p11.xObjectList = d.p11.xObjectList :=
      fun _ => rfl
    rename_i pcLabel _
    have hkeep := hr pcLabel
    split
    · rename_i d' hd
      rw [hd] at hkeep
      rw [← hkeep]
      exact .single (.delete lock xObject)
    · rename_i rv d' _ hd
      rw [hd] at hkeep
      rw [← hkeep]
  · exact .refl

theorem finalize_list (d : Device κ) (pvReserved : Bool) (before : Int → P11Object)
    (aPrivate aPublic : RemoveAns) :
    ListMoves d.p11.xObjectList (cFinalize d pvReserved before aPrivate aPublic).2.p11.xObjectList := by
  have hr : ∀ (d : Device κ) (pcLabel : List UInt8) (a : RemoveAns),
      (removeObject d pcLabel false a).2.p11.xObjectList = d.p11.xObjectList := fun _ _ _ => rfl
  unfold cFinalize
  split
  · exact .refl
  split
  · have hinit : ListMoves d.p11.xObjectList (.zeroed before) := .single (.init before)
    have h1 := hr ⟨{ d.p11 with xObjectList := ⟨fun _ => .zero, before⟩, xIsInitialized := false },
      d.psa⟩ (labelDevicePrivateKeyForTls ++ [0]) aPrivate
    dsimp only
    split
    · rename_i d' hd
      rw [hd] at h1
      rw [hr, h1]
      exact hinit
    · rename_i rv d' _ hd
      rw [hd] at h1
      rw [h1]
      exact hinit
  · exact .refl

/-- **One call** changes the list by moves. -/
theorem tokenStep_list {mbed : Mbed ρ ε κ} {publicKey : κ → List UInt8} {d d' : Device κ}
    {c : TokenCall κ} {rv : CkRv} (h : tokenStep mbed publicKey d c = some (d', rv)) :
    ListMoves d.p11.xObjectList d'.p11.xObjectList := by
  cases c with
  | cInitialize before mutex =>
    have hd : d' = (cInitialize d before mutex).2 := by cases h; rfl
    rw [hd]
    unfold cInitialize
    split
    · exact .refl
    · exact .single (.init before)
  | cFinalize pvReserved before aPrivate aPublic =>
    cases h
    exact finalize_list d pvReserved before aPrivate aPublic
  | cCreateObject xSession pxTemplate pxObject a =>
    obtain ⟨r, hr, h⟩ := Option.map_eq_some_iff.1 h
    cases h
    exact create_list hr
  | cGenerateKeyPair args a =>
    obtain ⟨r, hr, h⟩ := Option.map_eq_some_iff.1 h
    cases h
    exact generate_list hr
  | cFindObjects xSession pxObject max count a =>
    obtain ⟨r, hr, h⟩ := Option.map_eq_some_iff.1 h
    cases h
    exact find_list hr
  | cDestroyObject xSession xObject a lock =>
    cases h
    exact destroy_list d xSession xObject a lock
  | sessions sessions =>
    cases h
    exact .refl

/-! ## Handles -/

theorem prvFindObjectInListByHandle_appHandle (l : P11ObjectList) (i : Fin pkcs11configMaxNumObjects) :
    prvFindObjectInListByHandle l (appHandle i) =
      if (l.xObjects i).xHandle ≠ ckInvalidHandle then
        ((l.xObjects i).xHandle, some ((l.xObjects i).label ++ [0]))
      else (ckInvalidHandle, none) := by
  have hi : (i.val : Int) < (pkcs11configMaxNumObjects : Nat) := by exact_mod_cast i.isLt
  simp only [prvFindObjectInListByHandle, index_appHandle, if_pos hi, P11ObjectList.at_fin]

theorem DeviceKey.label_notMem (k : DeviceKey) : 0 ∉ k.label := by
  cases k <;> decide

theorem DeviceKey.label_prefix_inj {j k : DeviceKey} : j.label <+: k.label → j = k := by
  cases j <;> cases k <;> decide

/-- The key of a label and its NUL. -/
theorem getKeyHandle_nul (c : P11KeyConfig) (k : DeviceKey) :
    pkcs11PsaGetKeyHandle c (k.label ++ [0]) =
      if c.mark k = true then (.ok, c.handle k) else (.argumentsBad, 0) := by
  have hp : ∀ j : DeviceKey, (k.label ++ [0]).isPrefixOf (j.label ++ [0]) = true ↔ k = j := by
    intro j
    rw [List.isPrefixOf_iff_prefix, prefix_nul_iff j.label_notMem]
    exact ⟨label_inj, congrArg _⟩
  have h1 : (k.label ++ [0]).isPrefixOf (labelDevicePrivateKeyForTls ++ [0]) = true ↔
    k = .devicePrivate := hp .devicePrivate
  have h2 : (k.label ++ [0]).isPrefixOf (labelDevicePublicKeyForTls ++ [0]) = true ↔
    k = .devicePublic := hp .devicePublic
  have h3 : (k.label ++ [0]).isPrefixOf (labelCodeVerificationKey ++ [0]) = true ↔
    k = .codeVerify := hp .codeVerify
  unfold pkcs11PsaGetKeyHandle
  simp only [h1, h2, h3]
  cases k with
  | devicePrivate =>
    by_cases hm : c.xDevicePrivateKeyMark = true <;> simp [P11KeyConfig.mark, P11KeyConfig.handle, hm]
  | devicePublic =>
    by_cases hm : c.xDevicePublicKeyMark = true <;> simp [P11KeyConfig.mark, P11KeyConfig.handle, hm]
  | codeVerify =>
    by_cases hm : c.xCodeVerifyKeyMark = true <;> simp [P11KeyConfig.mark, P11KeyConfig.handle, hm]

/-- Only the label of a slot finds a key. -/
theorem getKeyHandle_nul_ok {c : P11KeyConfig} {label : List UInt8} {kh : KeyHandle}
    (h : pkcs11PsaGetKeyHandle c (label ++ [0]) = (.ok, kh)) : ∃ k : DeviceKey, label = k.label := by
  have hp : ∀ j : DeviceKey, (label ++ [0]).isPrefixOf (j.label ++ [0]) = true → label = j.label := by
    intro j hj
    exact (prefix_nul_iff j.label_notMem).1 (List.isPrefixOf_iff_prefix.1 hj)
  unfold pkcs11PsaGetKeyHandle at h
  split_ifs at h with h1 h2 h3
  · exact ⟨.devicePrivate, hp .devicePrivate h1.1⟩
  · exact ⟨.devicePublic, hp .devicePublic h2.1⟩
  · exact ⟨.codeVerify, hp .codeVerify h3.1⟩
  · cases h

/-! ## Runs -/

/-- A device that a run leads to, from a module that has not been used and has nothing listed. -/
def Device.Reachable (mbed : Mbed ρ ε κ) (publicKey : κ → List UInt8) (d : Device κ) : Prop :=
  ∃ d₀ tr, d₀.Fresh ∧ (∀ i, d₀.p11.xObjectList.xObjects i = .zero) ∧
    Exec (tokenMachine mbed publicKey) d₀ tr d

variable {mbed : Mbed ρ ε κ} {publicKey : κ → List UInt8} {d : Device κ}

theorem Device.Reachable.slots (h : d.Reachable mbed publicKey) : Slots d.keyState := by
  obtain ⟨d₀, tr, hfresh, -, hr⟩ := h
  exact run_slots hfresh hr

theorem Device.Reachable.listed (h : d.Reachable mbed publicKey) : Listed d.p11.xObjectList := by
  obtain ⟨d₀, tr, -, hzero, hr⟩ := h
  refine Exec.inv (I := fun d => Listed d.p11.xObjectList) ?_ hr ?_
  · intro s c s' rv hs hstep
    exact (tokenStep_list hstep).listed hs
  · exact (Listed.zeroed fun _ => .zero).congr (funext hzero)

end Pkcs11
