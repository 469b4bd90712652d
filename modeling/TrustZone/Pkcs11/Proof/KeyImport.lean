import TrustZone.Pkcs11.KeyImport
import TrustZone.Pkcs11.Proof.CreateObject

/-!
# What the import of a key leaves behind

* `cCreateObject_key`: the two imports are those of `C_CreateObject`.
* `prvStoreKey_short`, `prvStoreKey_saves`: an import ends before the save, or in it.
* `Kept.found`: an object that PSA and `P11KeyConfig` have is found under its label.
* `key_import_law_iff`: **an import gives back its blocks** exactly when a context that is granted gets to
  the save, and an import that fails leaves the device as it was, or with the key and unlisted.
-/

namespace Pkcs11

open Lib Psa Crypto

variable {κ ρ ε : Type} {mbed : Mbed ρ ε κ} {d : Device κ} {template : List CkAttribute}
  {pxObject : ObjectHandle} {ans : CreateAns}

/-! ## The two imports -/

/-- The functions that import keys. -/
inductive KeyImporter
  | privateKey | publicKey
  deriving DecidableEq

namespace KeyImporter

def run (mbed : Mbed ρ ε κ) (d : Device κ) (template : List CkAttribute) (pxObject : ObjectHandle)
    (a : CreateAns) : KeyImporter → Option (KeyImport κ)
  | privateKey => prvCreatePrivateKey mbed d template pxObject a
  | publicKey => prvCreatePublicKey mbed d template pxObject a

/-- The class that a function is called for. -/
def xClass : KeyImporter → Nat
  | privateKey => ckoPrivateKey
  | publicKey => ckoPublicKey

/-- What the first key type of a template picks. -/
def kind (template : List CkAttribute) : KeyImporter → Option ImportKind
  | privateKey =>
    if firstUlong .ckaKeyType template = some ckkRsa then some .rsaPrivateKey
    else if firstUlong .ckaKeyType template = some ckkEc then some .ecPrivateKey else none
  | publicKey => if firstUlong .ckaKeyType template = some ckkEc then some .ecPublicKey else none

end KeyImporter

variable {f : KeyImporter} {kind : ImportKind}

/-- An import of a kind: its parser, then the rest. Only the RSA context must be granted. -/
theorem run_kind (h : f.kind template = some kind) : f.run mbed d template pxObject ans =
    if kind = .rsaPrivateKey ∧ ans.mallocContext = false then some ⟨.hostMemory, pxObject, [], d⟩
    else (keyState mbed template ans kind).bind fun st =>
      prvStoreKey mbed d st (writeKey mbed st.ctx kind) pxObject ans := by
  have hne : ckkEc ≠ ckkRsa := by decide
  cases f with
  | privateKey =>
    simp only [KeyImporter.kind] at h
    simp only [KeyImporter.run, prvCreatePrivateKey]
    split_ifs at h with hrsa hec
    · obtain rfl := Option.some.inj h
      rw [prvGetKeyType_of_some hrsa]
      cases hm : ans.mallocContext with
      | false => simp
      | true =>
        simp only [keyState, writeKey, if_true, reduceCtorEq, and_false, if_false]
        cases prvCreateRsaPrivateKey mbed template _ <;> rfl
    · obtain rfl := Option.some.inj h
      rw [prvGetKeyType_of_some hec]
      simp only [keyState, writeKey, ecContext, Option.some.injEq, hne, if_true, if_false,
        reduceCtorEq, false_and]
      cases List.foldlM (ecPrivateKeyAttribute mbed ans.stack) _ template <;> rfl
  | publicKey =>
    simp only [KeyImporter.kind] at h
    simp only [KeyImporter.run, prvCreatePublicKey]
    split_ifs at h with hec
    obtain rfl := Option.some.inj h
    rw [prvGetKeyType_of_some hec]
    simp only [keyState, writeKey, ecContext, Option.some.injEq, hne, if_true, if_false,
      reduceCtorEq, false_and]
    cases List.foldlM (ecPublicKeyAttribute mbed ans.stack) _ template <;> rfl

/-- No import of that key type. -/
theorem run_none (mbed : Mbed ρ ε κ) (d : Device κ) (pxObject : ObjectHandle) (ans : CreateAns)
    (h : f.kind template = none) :
    f.run mbed d template pxObject ans = none ∨
      ∃ e, e ≠ .ok ∧ f.run mbed d template pxObject ans = some ⟨e, pxObject, [], d⟩ := by
  obtain ⟨hget, -⟩ | ⟨hget, -⟩ := prvGetKeyType_cases template
  · left
    cases f <;> simp [KeyImporter.run, prvCreatePrivateKey, prvCreatePublicKey, hget]
  · right
    cases f with
    | privateKey =>
      simp only [KeyImporter.kind] at h
      split_ifs at h with hrsa hec
      exact ⟨.mechanismInvalid, nofun, by simp [KeyImporter.run, prvCreatePrivateKey, hget, hrsa, hec]⟩
    | publicKey =>
      simp only [KeyImporter.kind] at h
      split_ifs at h with hec
      by_cases hrsa : firstUlong .ckaKeyType template = some ckkRsa
      · exact ⟨.attributeTypeInvalid, nofun, by simp [KeyImporter.run, prvCreatePublicKey, hget, hrsa]⟩
      · exact ⟨.mechanismInvalid, nofun,
          by simp [KeyImporter.run, prvCreatePublicKey, hget, hrsa, hec]⟩

/-! ## The rest of an import -/

/-- The block of the context, if it is granted. -/
def contextOps (ans : CreateAns) : List KeyBlockOp :=
  if ans.mallocContext then [.malloc .pkContext] else []

/-- The DER of a key: the attributes are taken, the buffer is granted, and mbedTLS writes it. -/
def DerWritten (st : TemplateState (PkContext ρ ε)) (ans : CreateAns)
    (write : Except CkRv (List UInt8 × Nat)) : Prop :=
  st.xResult = .ok ∧ ans.mallocDer = true ∧ ∃ w, write = .ok w

/-- What is handed to the save. -/
def keyPlan (st : TemplateState (PkContext ρ ε)) (w : List UInt8 × Nat) : SavePlan ρ ε :=
  ⟨st.pxClass, st.pxLabel, w.1, w.2, some st.ctx⟩

variable {st : TemplateState (PkContext ρ ε)} {write : Except CkRv (List UInt8 × Nat)}

/-- An import that ends before the save keeps its context. -/
theorem prvStoreKey_short (mbed : Mbed ρ ε κ) (d : Device κ) (pxObject : ObjectHandle)
    (h : ¬DerWritten st ans write) (hwrite : ∀ e, write = .error e → e ≠ .ok) :
    ∃ e ops, e ≠ .ok ∧ (ops = [] ∨ ops = [.malloc .pxDerKey, .free .pxDerKey]) ∧
      prvStoreKey mbed d st write pxObject ans = some ⟨e, pxObject, contextOps ans ++ ops, d⟩ := by
  unfold prvStoreKey contextOps
  by_cases hok : st.xResult = .ok
  · by_cases hder : ans.mallocDer = true
    · cases write with
      | ok w => exact absurd ⟨hok, hder, w, rfl⟩ h
      | error e =>
        refine ⟨e, [.malloc .pxDerKey, .free .pxDerKey], hwrite e rfl, .inr rfl, ?_⟩
        simp [hok, hder]
    · exact ⟨.hostMemory, [], nofun, .inl rfl, by simp [hok, hder]⟩
  · exact ⟨st.xResult, [], hok, .inl rfl, by simp [hok]⟩

/-- What an import that gets to the save has done with its blocks. -/
def savedOps (ans : CreateAns) : List KeyBlockOp :=
  contextOps ans ++ [.malloc .pxDerKey] ++ (if ans.mallocContext then [.free .pkContext] else []) ++
    [.free .pxDerKey]

theorem prvStoreKey_saves {w : List UInt8 × Nat} (hok : st.xResult = .ok)
    (hder : ans.mallocDer = true) : prvStoreKey mbed d st (.ok w) pxObject ans =
      (saveAndAdd mbed d (keyPlan st w) pxObject ans).map fun r =>
        ⟨r.1, r.2.1, savedOps ans, r.2.2⟩ := by
  unfold prvStoreKey
  rw [if_neg (not_not.2 hok), if_neg (not_not.2 hder)]
  simp only [keyPlan]
  cases saveAndAdd mbed d _ pxObject ans <;> rfl

/-! ## Blocks -/

/-- Every block that is taken is given back once. -/
def FreedOnce (ops : List KeyBlockOp) : Prop :=
  ∀ b, .malloc b ∈ ops → ops.filter (fun o => o.block = b) = [.malloc b, .free b]

theorem freedOnce_savedOps (ans : CreateAns) : FreedOnce (savedOps ans) := by
  unfold FreedOnce savedOps contextOps
  cases ans.mallocContext
  · intro b
    cases b <;> decide
  · intro b
    cases b <;> decide

theorem freedOnce_short {ops : List KeyBlockOp}
    (h : ops = [] ∨ ops = [.malloc .pxDerKey, .free .pxDerKey]) :
    FreedOnce (contextOps ans ++ ops) ↔ ans.mallocContext = false := by
  unfold contextOps
  cases ans.mallocContext with
  | false =>
    refine iff_of_true (fun b => ?_) rfl
    obtain rfl | rfl := h <;> cases b <;> decide
  | true =>
    refine iff_of_false (fun hfreed => ?_) nofun
    have hcontext := hfreed .pkContext (by simp)
    obtain rfl | rfl := h <;> revert hcontext <;> decide

/-! ## `C_CreateObject` -/

/-- The result of `C_CreateObject`, without the names of the blocks. -/
def KeyImport.result (r : KeyImport κ) : CreateResult κ :=
  ⟨r.rv, r.pxObject, r.ops.map (·.heapOp), r.post⟩

/-- What `C_CreateObject` makes of what a parser hands on. -/
def finishCreate (mbed : Mbed ρ ε κ) (d : Device κ) (h : ObjectHandle) (ans : CreateAns)
    (p : Prepared ρ ε) : Option (CreateResult κ) :=
  match p.plan with
  | .error e => some ⟨e, h, p.heap, d⟩
  | .ok plan =>
    (saveAndAdd mbed d plan h ans).map fun r =>
      ⟨r.1, r.2.1, p.heap ++ List.replicate (p.heap.count .malloc) .free, r.2.2⟩

theorem cCreateObject_finish {xSession : SessionHandle} {s : Nat}
    (hs : sessionCheck d.p11 xSession = .ok s) :
    cCreateObject mbed d xSession (some template) (some pxObject) ans =
      (createPlan mbed template ans).bind (finishCreate mbed d pxObject ans) := by
  unfold cCreateObject
  simp only [hs]
  cases createPlan mbed template ans with
  | none => rfl
  | some r =>
    obtain ⟨plan, heap⟩ := r
    cases plan with
    | error e => rfl
    | ok plan =>
      simp only [Option.bind_some, finishCreate]
      cases saveAndAdd mbed d plan pxObject ans <;> rfl

theorem finishCreate_derPlan (hwrite : ∀ e, write = .error e → e ≠ .ok) :
    finishCreate mbed d pxObject ans
      (derPlan st (if ans.mallocContext then [.malloc] else []) ans.mallocDer write) =
      (prvStoreKey mbed d st write pxObject ans).map KeyImport.result := by
  unfold derPlan prvStoreKey
  by_cases hok : st.xResult = .ok
  · by_cases hder : ans.mallocDer = true
    · simp only [hok, hder, if_true, ne_eq, not_true_eq_false, if_false]
      cases write with
      | error e =>
        cases hm : ans.mallocContext <;> simp [finishCreate, KeyImport.result, KeyBlockOp.heapOp]
      | ok w =>
        simp only [finishCreate]
        cases saveAndAdd mbed d _ pxObject ans with
        | none => rfl
        | some r =>
          cases hm : ans.mallocContext <;>
            simp [KeyImport.result, KeyBlockOp.heapOp, List.replicate]
    · simp only [hok, hder, if_true, ne_eq, not_true_eq_false, if_false]
      cases hm : ans.mallocContext <;> simp [finishCreate, KeyImport.result, KeyBlockOp.heapOp]
  · simp only [hok, if_false, ne_eq, not_false_eq_true, if_true]
    cases hm : ans.mallocContext <;> simp [finishCreate, KeyImport.result, KeyBlockOp.heapOp]

/-- The kind of a template whose first class is that of the function. -/
theorem ofTemplate_kind (hclass : firstUlong .ckaClass template = some f.xClass) :
    ImportKind.ofTemplate template = f.kind template := by
  have h1 : ckoPrivateKey ≠ ckoCertificate := by decide
  have h2 : ckoPublicKey ≠ ckoCertificate := by decide
  have h3 : ckoPublicKey ≠ ckoPrivateKey := by decide
  cases f <;>
    simp [ImportKind.ofTemplate, KeyImporter.kind, hclass, KeyImporter.xClass, h1, h2, h3]

theorem kind_ne_certificate (h : f.kind template = some kind) : kind ≠ .certificate := by
  rintro rfl
  cases f <;> simp only [KeyImporter.kind] at h <;> split_ifs at h <;> cases h

/-- **`C_CreateObject` of a key** is one of the two imports. -/
theorem cCreateObject_key {xSession : SessionHandle} {s : Nat}
    (hs : sessionCheck d.p11 xSession = .ok s)
    (hclass : firstUlong .ckaClass template = some f.xClass) :
    cCreateObject mbed d xSession (some template) (some pxObject) ans =
      (f.run mbed d template pxObject ans).map KeyImport.result := by
  rw [cCreateObject_finish hs]
  cases hkind : f.kind template with
  | none =>
    have h1 : ckoPrivateKey ≠ ckoCertificate := by decide
    have h2 : ckoPublicKey ≠ ckoCertificate := by decide
    have h3 : ckoPublicKey ≠ ckoPrivateKey := by decide
    rw [createPlan_class hclass]
    cases f with
    | privateKey =>
      simp only [KeyImporter.kind] at hkind
      split_ifs at hkind with hrsa hec
      obtain ⟨hget, -⟩ | ⟨hget, -⟩ := prvGetKeyType_cases template <;>
        simp [KeyImporter.xClass, h1, privateKeyPlan, KeyImporter.run, prvCreatePrivateKey, hget, hrsa,
          hec, finishCreate, KeyImport.result]
    | publicKey =>
      simp only [KeyImporter.kind] at hkind
      split_ifs at hkind with hec
      obtain ⟨hget, -⟩ | ⟨hget, -⟩ := prvGetKeyType_cases template
      · simp [KeyImporter.xClass, h2, h3, publicKeyPlan, KeyImporter.run, prvCreatePublicKey, hget]
      · by_cases hrsa : firstUlong .ckaKeyType template = some ckkRsa <;>
          simp [KeyImporter.xClass, h2, h3, publicKeyPlan, KeyImporter.run, prvCreatePublicKey, hget,
            hrsa, hec, finishCreate, KeyImport.result]
  | some kind =>
    rw [run_kind hkind, createPlan_key ((ofTemplate_kind hclass).trans hkind) (kind_ne_certificate hkind)]
    by_cases hrsa : kind = .rsaPrivateKey ∧ ans.mallocContext = false
    · rw [if_pos hrsa, if_pos hrsa]
      rfl
    · rw [if_neg hrsa, if_neg hrsa]
      cases keyState mbed template ans kind with
      | none => rfl
      | some st => exact finishCreate_derPlan fun _ => writeKey_error

/-! ## Searching for what is kept -/

/-- PSA and `P11KeyConfig` have an object. -/
def Kept (d : Device κ) : TokenObject → Prop
  | .key k => d.p11.p11KeyConfig.mark k = true
  | .certificate x => d.psa.objects x.uid ≠ none

/-- A search for a label, past the checks of `C_FindObjects`, whose own listing succeeds finds the
object. -/
def FoundBySearch (d : Device κ) (label : List UInt8) (pal : ObjectHandle) : Prop :=
  ∀ (a : FindAns) count, a.psGetInfo = none → Listable a.lock d.p11.xObjectList pal label →
    ∃ i r, findByLabel (d.findEnv a) d.p11 .ok label count = r ∧ r.rv = .ok ∧ r.pulObjectCount = 1 ∧
      r.pxObject = appHandle i ∧ (r.post.xObjectList.xObjects i).xHandle = pal

/-- The object in the search table. -/
def TokenObject.persistent : TokenObject → PersistentObject
  | .key k => .key k.label (TokenObject.key k).pal k.keyId (·.mark k)
  | .certificate x => .certificate x.label (TokenObject.certificate x).pal x.uid

theorem persistent_mem (o : TokenObject) : o.persistent ∈ persistentObjects := by
  rcases o with k | x
  · cases k
    · exact List.mem_of_getElem? (i := 0) rfl
    · exact List.mem_of_getElem? (i := 1) rfl
    · exact List.mem_of_getElem? (i := 2) rfl
  · cases x
    · exact List.mem_of_getElem? (i := 3) rfl
    · exact List.mem_of_getElem? (i := 5) rfl
    · exact List.mem_of_getElem? (i := 4) rfl

theorem persistent_label (o : TokenObject) : o.persistent.label = o.label := by
  cases o <;> rfl

theorem persistent_pal (o : TokenObject) : o.persistent.xPalHandle = o.pal := by
  cases o <;> rfl

theorem Kept.persistent {o : TokenObject} (h : Kept d o) {a : FindAns} (ha : a.psGetInfo = none) :
    o.persistent.mark d.p11.p11KeyConfig = true ∨ o.persistent.Stored (d.findEnv a) := by
  cases o with
  | key k => exact .inl h
  | certificate x =>
    have hne : d.psa.objects x.uid ≠ none := h
    right
    simp [TokenObject.persistent, PersistentObject.Stored, PersistentObject.certificate,
      Device.findEnv, PsaStores.psGetInfo, ha, hne]

/-- **What is kept is found.** -/
theorem Kept.found {o : TokenObject} (h : Kept d o) (hl : Listed d.p11.xObjectList) :
    FoundBySearch d o.label o.pal := by
  intro a count ha hlist
  obtain ⟨i, hpre, -, hfind⟩ | ⟨-, hfind⟩ :=
    prvFindObjectInListByLabel_cases d.p11.xObjectList o.label_notMem
  · exact ⟨i, _, findByLabel_listed hfind, rfl, rfl, rfl, hl.pal_of_prefix hpre⟩
  · rw [← persistent_label] at hfind hlist ⊢
    rw [← persistent_pal] at hlist ⊢
    have hans : (findByLabel (d.findEnv a) d.p11 .ok o.persistent.label count).answer =
        lookup (d.findEnv a) d.p11 o.persistent count := findByLabel_stored (persistent_mem o) hfind
    have hok := (add_ok_iff _ _ _ _).2 hlist
    have hadd := prvAddObjectToList_outcome a.lock d.p11.xObjectList o.persistent.xPalHandle
      o.persistent.label
    rw [lookup, if_pos (h.persistent ha)] at hans
    -- the mutex of the search is the one of the environment
    have hlock : (d.findEnv a).lock = a.lock := rfl
    rw [hlock] at hans
    generalize prvAddObjectToList a.lock d.p11.xObjectList o.persistent.xPalHandle
      o.persistent.label = r at hans hadd hok
    generalize a.lock = lock at hadd
    cases hadd with
    | locked | full | long => cases hok
    | present i hi =>
      simp only [Found.answer, Prod.mk.injEq] at hans
      obtain ⟨hrv, hpx, hcount, hlst⟩ := hans
      exact ⟨i, _, rfl, hrv, hcount, hpx, hlst ▸ hi⟩
    | inserted i =>
      simp only [Found.answer, Prod.mk.injEq] at hans
      obtain ⟨hrv, hpx, hcount, hlst⟩ := hans
      exact ⟨i, _, rfl, hrv, hcount, hpx, by simp [hlst]⟩

theorem SaveObject.StoredIn.kept {o : SaveObject κ} {label data : List UInt8}
    (h : o.StoredIn d label data) : ∃ t : TokenObject, label = t.label ∧ o.pal = t.pal ∧ Kept d t := by
  cases o with
  | certificate uid pal =>
    obtain ⟨x, hlabel, rfl, hpal, -, hobj⟩ := h
    exact ⟨.certificate x, hlabel, hpal, by simp [Kept, hobj]⟩
  | key slot id k pal =>
    obtain ⟨hlabel, hpal, hmark, -⟩ := h
    exact ⟨.key slot, hlabel, hpal, hmark⟩

theorem savedIn_list (d : Device κ) (label data : List UInt8) (a : SaveAns) (o : SaveObject κ) :
    (o.savedIn d label data a).p11.xObjectList = d.p11.xObjectList := by
  cases o <;> rfl

/-! ## What an import comes to -/

/-- What an import hands to the save. -/
def KeyHanded (mbed : Mbed ρ ε κ) (template : List CkAttribute) (ans : CreateAns) (f : KeyImporter)
    (plan : SavePlan ρ ε) : Prop :=
  ∃ kind st w, f.kind template = some kind ∧
    ¬(kind = .rsaPrivateKey ∧ ans.mallocContext = false) ∧
    keyState mbed template ans kind = some st ∧ st.xResult = .ok ∧ ans.mallocDer = true ∧
    writeKey mbed st.ctx kind = .ok w ∧ plan = keyPlan st w

/-- A context that is granted gets to the save: the attributes are taken, the DER buffer is granted and
the DER is written. -/
def ContextSaved (mbed : Mbed ρ ε κ) (template : List CkAttribute) (ans : CreateAns)
    (f : KeyImporter) : Prop :=
  ans.mallocContext = true → ∀ kind st, f.kind template = some kind →
    keyState mbed template ans kind = some st → DerWritten st ans (writeKey mbed st.ctx kind)

/-- What an import comes to: it stops, ends before the save, or ends in it. -/
inductive RunOutcome (mbed : Mbed ρ ε κ) (d : Device κ) (template : List CkAttribute)
    (pxObject : ObjectHandle) (ans : CreateAns) (f : KeyImporter) : Option (KeyImport κ) → Prop
  | stops : ContextSaved mbed template ans f → RunOutcome mbed d template pxObject ans f none
  | short {e : CkRv} {ops : List KeyBlockOp} : e ≠ .ok →
      (∀ plan, ¬KeyHanded mbed template ans f plan) →
      (FreedOnce ops ↔ ContextSaved mbed template ans f) →
      RunOutcome mbed d template pxObject ans f (some ⟨e, pxObject, ops, d⟩)
  | saves {plan : SavePlan ρ ε} {r : Option (CkRv × ObjectHandle × Device κ)} :
      KeyHanded mbed template ans f plan → ContextSaved mbed template ans f →
      ImportOutcome mbed d ans plan pxObject r →
      RunOutcome mbed d template pxObject ans f (r.map fun r => ⟨r.1, r.2.1, savedOps ans, r.2.2⟩)

theorem run_outcome (mbed : Mbed ρ ε κ) (d : Device κ) (template : List CkAttribute)
    (pxObject : ObjectHandle) (ans : CreateAns) (f : KeyImporter) :
    RunOutcome mbed d template pxObject ans f (f.run mbed d template pxObject ans) := by
  cases hkind : f.kind template with
  | none =>
    have hnone : ∀ plan, ¬KeyHanded mbed template ans f plan := by
      rintro plan ⟨kind, st, w, hk, -⟩
      cases hkind.symm.trans hk
    have hsaved : ContextSaved mbed template ans f := by
      intro _ kind st hk
      cases hkind.symm.trans hk
    obtain hrun | ⟨e, he, hrun⟩ := run_none mbed d pxObject ans hkind
    · rw [hrun]
      exact .stops hsaved
    · rw [hrun]
      exact .short he hnone (iff_of_true (fun b => by simp) hsaved)
  | some kind =>
    rw [run_kind hkind]
    by_cases hrsa : kind = .rsaPrivateKey ∧ ans.mallocContext = false
    · rw [if_pos hrsa]
      refine .short nofun ?_ (iff_of_true (fun b => by simp) ?_)
      · rintro plan ⟨kind', st, w, hk, hno, -⟩
        obtain rfl := Option.some.inj (hkind.symm.trans hk)
        exact hno hrsa
      · intro hctx
        exact absurd (hrsa.2.symm.trans hctx) Bool.false_ne_true
    · rw [if_neg hrsa]
      cases hstate : keyState mbed template ans kind with
      | none =>
        refine .stops fun _ kind' st hk hst => ?_
        obtain rfl := Option.some.inj (hkind.symm.trans hk)
        cases hstate.symm.trans hst
      | some st =>
        -- the context is saved exactly when it is not there, or its DER is written
        have hsaved : ContextSaved mbed template ans f ↔
            (ans.mallocContext = true → DerWritten st ans (writeKey mbed st.ctx kind)) := by
          refine forall_congr' fun _ => ⟨fun h => h kind st hkind hstate, fun h kind' st' hk hst => ?_⟩
          obtain rfl := Option.some.inj (hkind.symm.trans hk)
          obtain rfl := Option.some.inj (hstate.symm.trans hst)
          exact h
        rw [Option.bind_some]
        by_cases hder : DerWritten st ans (writeKey mbed st.ctx kind)
        · obtain ⟨hok, hbuf, w, hw⟩ := hder
          rw [hw, prvStoreKey_saves hok hbuf]
          exact .saves ⟨kind, st, w, hkind, hrsa, hstate, hok, hbuf, hw, rfl⟩
            (hsaved.2 fun _ => ⟨hok, hbuf, w, hw⟩) (import_outcome _ _ _ _ _)
        · obtain ⟨e, ops, he, hops, hrun⟩ :=
            prvStoreKey_short mbed d pxObject hder fun _ => writeKey_error
          rw [hrun]
          refine .short he ?_ ?_
          · rintro plan ⟨kind', st', w, hk, -, hst, hok, hbuf, hw, -⟩
            obtain rfl := Option.some.inj (hkind.symm.trans hk)
            obtain rfl := Option.some.inj (hstate.symm.trans hst)
            exact hder ⟨hok, hbuf, w, hw⟩
          · rw [freedOnce_short hops, hsaved]
            simp [hder]

/-! ## The law -/

/-- Only the listing has failed: PSA and `P11KeyConfig` have the object, nothing else has changed, and a
search finds it. -/
structure LeftUnlisted (d d' : Device κ) (a : SaveAns) (label data : List UInt8) (o : SaveObject κ) :
    Prop where
  post : d' = o.savedIn d label data a
  list : d'.p11.xObjectList = d.p11.xObjectList
  stored : o.StoredIn d' label data
  found : FoundBySearch d' label o.pal

/-- **The law of an import**: a call that returns has given back each block once, and one that fails has
changed nothing, unless only the listing failed. -/
structure KeyImportLaw (mbed : Mbed ρ ε κ) (d : Device κ) (template : List CkAttribute)
    (pxObject : ObjectHandle) (ans : CreateAns) (f : KeyImporter) : Prop where
  freed : ∀ r, f.run mbed d template pxObject ans = some r → FreedOnce r.ops
  failed : ∀ r, f.run mbed d template pxObject ans = some r → r.rv ≠ .ok →
    (∀ plan xClass label o, KeyHanded mbed template ans f plan →
      ¬Saved mbed d ans plan xClass label o) ∧ r.post = d ∨
    ∃ plan xClass label o, KeyHanded mbed template ans f plan ∧
      Saved mbed d ans plan xClass label o ∧
      LeftUnlisted d r.post ans.save label plan.pucData o

theorem KeyHanded.unique {plan plan' : SavePlan ρ ε} (h : KeyHanded mbed template ans f plan)
    (h' : KeyHanded mbed template ans f plan') : plan = plan' := by
  obtain ⟨kind, st, w, hk, -, hst, -, -, hw, rfl⟩ := h
  obtain ⟨kind', st', w', hk', -, hst', -, -, hw', rfl⟩ := h'
  obtain rfl := Option.some.inj (hk.symm.trans hk')
  obtain rfl := Option.some.inj (hst.symm.trans hst')
  obtain rfl := Except.ok.inj (hw.symm.trans hw')
  rfl

/-- An import that fails. -/
theorem run_failed (hl : Listed d.p11.xObjectList) {r : KeyImport κ}
    (hrun : f.run mbed d template pxObject ans = some r) (hrv : r.rv ≠ .ok) :
    (∀ plan xClass label o, KeyHanded mbed template ans f plan →
      ¬Saved mbed d ans plan xClass label o) ∧ r.post = d ∨
    ∃ plan xClass label o, KeyHanded mbed template ans f plan ∧
      Saved mbed d ans plan xClass label o ∧
      LeftUnlisted d r.post ans.save label plan.pucData o := by
  have ho := run_outcome mbed d template pxObject ans f
  rw [hrun] at ho
  generalize hr : some r = r' at ho
  cases ho with
  | stops => cases hr
  | short _ hnone =>
    obtain rfl := Option.some.inj hr
    exact .inl ⟨fun plan _ _ _ hplan => absurd hplan (hnone plan), rfl⟩
  | saves hplan _ himport =>
    cases himport with
    | stops => cases hr
    | unsaved _ hno =>
      obtain rfl := Option.some.inj hr
      refine .inl ⟨fun plan' n label o hplan' => ?_, rfl⟩
      obtain rfl := hplan.unique hplan'
      exact hno n label o
    | listed =>
      obtain rfl := Option.some.inj hr
      exact absurd rfl hrv
    | unlisted hs =>
      obtain rfl := Option.some.inj hr
      have hstored := savedIn_stored hs.object (d := d) (a := ans.save) rfl rfl
      obtain ⟨t, rfl, hpal, hkept⟩ := hstored.kept
      refine .inr ⟨_, _, _, _, hplan, hs, rfl, savedIn_list _ _ _ _ _, hstored, ?_⟩
      rw [hpal]
      exact hkept.found (by rw [savedIn_list]; exact hl)

/-- **When an import keeps its law.** -/
theorem key_import_law_iff {publicKey : κ → List UInt8} (hd : d.Reachable mbed publicKey)
    (template : List CkAttribute) (pxObject : ObjectHandle) (ans : CreateAns) (f : KeyImporter) :
    KeyImportLaw mbed d template pxObject ans f ↔ ContextSaved mbed template ans f := by
  have ho := run_outcome mbed d template pxObject ans f
  constructor
  · intro hlaw
    generalize hrun : f.run mbed d template pxObject ans = r at ho
    cases ho with
    | stops hsaved => exact hsaved
    | short _ _ hiff => exact hiff.1 (hlaw.freed _ hrun)
    | saves _ hsaved => exact hsaved
  · intro hsaved
    refine ⟨fun r hr => ?_, fun r hr hrv => run_failed hd.listed hr hrv⟩
    rw [hr] at ho
    generalize hr' : some r = r' at ho
    cases ho with
    | stops => cases hr'
    | short _ _ hiff =>
      obtain rfl := Option.some.inj hr'
      exact hiff.2 hsaved
    | @saves plan r'' =>
      obtain ⟨x, -, rfl⟩ := Option.map_eq_some_iff.1 hr'.symm
      exact freedOnce_savedOps ans

/-- A public key with a label and a point, where every call answers well. -/
theorem key_import_law_public : KeyImportLaw unitMbed initializedDevice
    [⟨.ckaKeyType, some [3, 0, 0, 0], 4⟩, labelAttribute labelCodeVerificationKey,
      ⟨.ckaEcPoint, some [4, 65, 4], 3⟩] 0 (createAns true) .publicKey := by
  refine (key_import_law_iff initializedDevice_reachable _ _ _ _).2 fun _ kind st hkind hstate => ?_
  obtain rfl : ImportKind.ecPublicKey = kind := Option.some.inj hkind
  have hok : (keyState unitMbed [⟨.ckaKeyType, some [3, 0, 0, 0], 4⟩,
      labelAttribute labelCodeVerificationKey, ⟨.ckaEcPoint, some [4, 65, 4], 3⟩] (createAns true)
      .ecPublicKey).map (·.xResult) = some .ok := by decide +kernel
  rw [hstate] at hok
  exact ⟨Option.some.inj hok, rfl, _, rfl⟩

theorem key_import_leaks_of (b : KeyBlock) (ops : List KeyBlockOp)
    (hops : (f.run mbed d template pxObject ans).map (·.ops) = some ops) (hmem : .malloc b ∈ ops)
    (hne : ops.filter (fun o => o.block = b) ≠ [.malloc b, .free b]) :
    ¬KeyImportLaw mbed d template pxObject ans f := by
  intro h
  obtain ⟨r, hr, rfl⟩ := Option.map_eq_some_iff.1 hops
  exact hne (h.freed r hr b hmem)

/-- **Three private keys**: a token that is not `CK_TRUE`, a DER buffer that is refused and a key that
mbedTLS does not write each leave the context in the heap. -/
theorem key_import_leaks : initializedDevice.Reachable unitMbed unitPublicKey ∧
    ¬KeyImportLaw unitMbed initializedDevice (ecTemplate [⟨.ckaToken, some [0], 1⟩]) 0 (createAns true)
      .privateKey ∧
    ¬KeyImportLaw unitMbed initializedDevice (ecTemplate []) 0
      { createAns true with mallocDer := false } .privateKey ∧
    ¬KeyImportLaw { unitMbed with pkWriteKeyDer := fun _ => .error (-1) } initializedDevice
      (ecTemplate []) 0 (createAns true) .privateKey := by
  refine ⟨initializedDevice_reachable, ?_, ?_, ?_⟩
  · exact key_import_leaks_of .pkContext [.malloc .pkContext] (by decide +kernel) (by decide) (by decide)
  · exact key_import_leaks_of .pkContext [.malloc .pkContext] (by decide +kernel) (by decide) (by decide)
  · exact key_import_leaks_of .pkContext
      [.malloc .pkContext, .malloc .pxDerKey, .free .pxDerKey] (by decide +kernel) (by decide) (by decide)

end Pkcs11
