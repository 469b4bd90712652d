import TrustZone.Crypto.GenerateKeyPair
import TrustZone.Crypto.Proof.PkiObjectPsa

/-!
# The two slots of a generated key pair

* `readKey_cases`: the public key of the generated pair is read, or the call fails with nothing left.
* `destroySlots_keeps`: each slot is emptied or left as it was.
* `generate_spec`: a call fails and pairs no new key with an old one, or it succeeds and fills both
  slots with one pair.
* `key_pairing`: the slots of every run whose calls meet `CallOk`.
* `generate_overruns`: without it, a null byte is written before the buffer.
-/

namespace Crypto

open Lib Psa Machine

variable {κ : Type} {mbed : PkiEnv} {publicKey : κ → List UInt8} {store : KeyStore κ}
  {a : GenerateAns κ}

/-! ## Reading the public key -/

theorem readEnv_documented (h : mbed.Documented) (id : Nat) :
    (readEnv mbed publicKey store id a).Documented :=
  ⟨h.asn1, h.eckey, h.rsa, h.ecp, h.ecpSize, h.mpiSize⟩

theorem proceed_error_ne {α : Type} {st e : Status} {x : α} (h : proceed st x = .error e) :
    e ≠ psaSuccess := by
  unfold proceed at h
  split at h
  · cases h
  · rename_i hne
    exact Except.error.inj h ▸ hne

theorem countStep_error_ne {w : BackWrite} {s : DerState} {e : Status}
    (h : countStep w s = .error e) : e ≠ psaSuccess := by
  unfold countStep at h
  split at h
  · cases h
  · exact proceed_error_ne h

/-- A key whose algorithm has no parameters is refused. -/
theorem writeSteps_refused {env : PkiEnv} {attrs : KeyAttributes} {e : Status}
    (he : e ≠ psaSuccess) (h : ∀ s, paramsStep env attrs s = .error e) (s : DerState) :
    ∃ e', e' ≠ psaSuccess ∧ writeSteps env attrs s = some (.error e') := by
  unfold writeSteps
  cases h₁ : countStep (env.asn1.writeLen s.buf 0 s.pucAsn1WritePtr s.uxObjLen) s with
  | error e₁ => exact ⟨e₁, countStep_error_ne h₁, rfl⟩
  | ok s₁ =>
    cases h₂ : countStep (env.asn1.writeTag s₁.buf 0 s₁.pucAsn1WritePtr Der.tagBitString) s₁ with
    | error e₂ =>
      refine ⟨e₂, countStep_error_ne h₂, ?_⟩
      simp only [bind, Except.bind, h₂]
    | ok s₂ =>
      refine ⟨e, he, ?_⟩
      simp only [bind, Except.bind, h₂, h s₂]

/-- A buffer of which as much was taken from the heap as was given back. -/
def Balanced (heap : List HeapOp) : Prop := heap.count .malloc = heap.count .free

/-- The call left a DER object that ends with these bytes, and its buffer. -/
def EndsWith (out : DerOut) (key : List UInt8) : Prop :=
  ∃ buf, out.ppucPubKeyDer = some buf ∧ key.length ≤ out.puxPubKeyDerLen ∧
    slice (memOf buf) (out.puxPubKeyDerLen - key.length) key.length = key

theorem slice_suffix {buf der pre key : List UInt8} (h : buf.take der.length = der)
    (hd : der = pre ++ key) : slice (memOf buf) (der.length - key.length) key.length = key := by
  have hlen : der.length ≤ buf.length := by
    have := congrArg List.length h
    rw [List.length_take] at this
    omega
  have hpre : der.length - key.length = pre.length := by rw [hd, List.length_append]; omega
  have hdrop : (buf.take der.length).drop pre.length = key := by rw [h, hd, List.drop_left]
  rw [List.drop_take] at hdrop
  rw [slice_memOf _ _ _ (by rw [hd, List.length_append] at *; omega), hpre]
  have htake : der.length - pre.length = key.length := by rw [hd, List.length_append]; omega
  rwa [htake] at hdrop

theorem tlv_suffix (tag : UInt8) (body : List UInt8) : body <:+ Der.tlv tag body :=
  (List.suffix_append _ _).trans (List.suffix_cons _ _)

theorem subjectPublicKeyInfo_suffix (alg params key : List UInt8) :
    ∃ pre, subjectPublicKeyInfo alg params key = pre ++ key := by
  have hkey : key <:+ Der.bitString key := (List.suffix_cons _ _).trans (tlv_suffix _ _)
  obtain ⟨pre, hpre⟩ := (hkey.trans (List.suffix_append _ _)).trans
    (tlv_suffix Der.tagSequence (algorithmIdentifier alg params ++ Der.bitString key))
  exact ⟨pre, hpre.symm⟩

theorem eccKeyPair_type : psaKeyTypeIsEcc eccKeyPairSecpR1 = true ∧
    psaKeyTypeIsRsa eccKeyPairSecpR1 = false ∧ psaKeyTypeIsPublicKey eccKeyPairSecpR1 = false ∧
    psaKeyTypeIsKeyPair eccKeyPairSecpR1 = true ∧
    psaKeyTypeEccGetFamily eccKeyPairSecpR1 = psaEccFamilySecpR1 ∧
    psaExportPublicKeyOutputSize eccKeyPairSecpR1 256 = 65 := by decide

theorem secp256r1_lookup :
    eccOids.lookup (psaEccFamilySecpR1, 256) = some oidSecp256r1 := by decide

/-- An environment whose key is a generated pair with the public key `key`. -/
structure Generated (env : PkiEnv) (key : List UInt8) : Prop where
  attributes : env.getKeyAttributes = (psaSuccess, ⟨eccKeyPairSecpR1, 256⟩)
  exported : ∀ size, env.exportPublicKey size = (psaSuccess, key)
  length : key.length = 65

theorem Generated.size {env : PkiEnv} {key : List UInt8} (_ : Generated env key) :
    pubKeyDerLen env eccKeyPairSecpR1 = some (ecpPubDerMaxBytes env) := by
  rw [pubKeyDerLen, if_pos eccKeyPair_type.1]

/-- With memory and the curve, the `SubjectPublicKeyInfo` is read. -/
theorem Generated.delivers {env : PkiEnv} {key : List UInt8} (henv : env.Documented)
    (h : Generated env key) (halloc : env.calloc (ecpPubDerMaxBytes env))
    (hcurve : env.eccEnabled psaEccFamilySecpR1 256) :
    Delivers env (subjectPublicKeyInfo oidEcPublicKey (Der.oid oidSecp256r1) key) := by
  obtain ⟨hecc, hrsa, hpub, hpair, hfam, hout⟩ := eccKeyPair_type
  have hecp := henv.ecp _ _ hcurve
  have hlen := h.length
  have hkey : PublicKeyOf env ⟨eccKeyPairSecpR1, 256⟩ oidEcPublicKey (Der.oid oidSecp256r1) key := by
    refine ⟨h.attributes, ?_, fun hr => absurd (hrsa.symm.trans hr) Bool.noConfusion, ?_, ?_⟩
    · have hoid : mbedtlsPsaGetEccOidFromId env.eccEnabled psaEccFamilySecpR1 256 =
          (0, some oidSecp256r1) := by
        simp only [mbedtlsPsaGetEccOidFromId, secp256r1_lookup, hcurve, if_true]
      simp only [keyAlgorithmInfo, hecc, if_true, hfam]
      rw [show (256 : BitVec 16).toNat = 256 from rfl, hoid]
      rfl
    · intro size _
      simp only [exportPublic, hpub, hpair, Bool.false_eq_true, if_false, if_true, h.exported]
    · rw [show (256 : BitVec 16).toNat = 256 from rfl, hout]
      omega
  have hroom : psaExportPublicKeyOutputSize eccKeyPairSecpR1 256 + 1 ≤ ecpPubDerMaxBytes env := by
    rw [hout, ecpPubDerMaxBytes]
    omega
  rw [xReadPublicKey_of_code henv hkey h.size halloc hroom henv.ecpSize (by decide)
    (List.cons_ne_nil _ _) (by decide) (ecc_fits (by omega) (by decide) hecp (by omega))]
  decide

/-- Without the curve, the key is refused. -/
theorem Generated.refused {env : PkiEnv} {key : List UInt8} (h : Generated env key)
    (halloc : env.calloc (ecpPubDerMaxBytes env))
    (hcurve : env.eccEnabled psaEccFamilySecpR1 256 = false) : ∃ st, st ≠ psaSuccess ∧
      xReadPublicKeyFromPSACrypto env = some (st, none, 0) := by
  obtain ⟨hecc, hrsa, hpub, hpair, hfam, hout⟩ := eccKeyPair_type
  have hlen := h.length
  have hread : ∀ e,
      exportStep env ⟨eccKeyPairSecpR1, 256⟩ (ecpPubDerMaxBytes env) = some (.error e) ∨
      (∃ s, exportStep env ⟨eccKeyPairSecpR1, 256⟩ (ecpPubDerMaxBytes env) = some (.ok s) ∧
        writeSteps env ⟨eccKeyPairSecpR1, 256⟩ s = some (.error e)) →
      xReadPublicKeyFromPSACrypto env = some (e, none, 0) := by
    rintro e (hexport | ⟨s, hexport, hsteps⟩)
    · unfold xReadPublicKeyFromPSACrypto
      simp only [h.attributes, h.size, halloc, hexport, if_true]
    · unfold xReadPublicKeyFromPSACrypto
      simp only [h.attributes, h.size, halloc, hexport, hsteps, if_true]
  by_cases hroom : 66 ≤ ecpPubDerMaxBytes env
  · have hexp : exportPublic env eccKeyPairSecpR1 (ecpPubDerMaxBytes env) = (psaSuccess, key) := by
      simp only [exportPublic, hpub, hpair, Bool.false_eq_true, if_false, if_true, h.exported]
    have hspec : ∃ p b, Written (List.replicate (ecpPubDerMaxBytes env) 0) 0 (0 :: key) p b ∧
        exportStep env ⟨eccKeyPairSecpR1, 256⟩ (ecpPubDerMaxBytes env) =
          some (.ok ⟨p, b, key.length + 1, key.length + 1⟩) :=
      exportStep_spec hexp
        (by show _ ≤ psaExportPublicKeyOutputSize eccKeyPairSecpR1 256; rw [hout]; omega)
        (by show psaExportPublicKeyOutputSize eccKeyPairSecpR1 256 + 1 ≤ _; rw [hout]; omega)
    obtain ⟨p, b, -, hexport⟩ := hspec
    have hparams : ∀ s,
        paramsStep env ⟨eccKeyPairSecpR1, 256⟩ s = .error psaErrorNotSupported := by
      intro s
      have hoid : mbedtlsPsaGetEccOidFromId env.eccEnabled psaEccFamilySecpR1 256 = (-1, none) := by
        simp only [mbedtlsPsaGetEccOidFromId, secp256r1_lookup, hcurve, Bool.false_eq_true, if_false]
      simp only [paramsStep, hecc, if_true, hfam]
      rw [show (256 : BitVec 16).toNat = 256 from rfl, hoid]
      rfl
    obtain ⟨e, he, hsteps⟩ := writeSteps_refused (by decide) hparams _
    exact ⟨e, he, hread e (.inr ⟨_, hexport, hsteps⟩)⟩
  · refine ⟨psaErrorBufferTooSmall, by decide, hread _ (.inl ?_)⟩
    unfold exportStep
    rw [if_pos (by show _ < psaExportPublicKeyOutputSize eccKeyPairSecpR1 256 + 1; rw [hout]; omega)]

/-- The public key of a generated pair is read, or the call fails and gives its buffer back. The
export must not fail once there is a buffer. -/
theorem readKey_cases (henv : mbed.Documented) {id : Nat} {k : κ}
    (hk : store id = some (.keyPair k)) (hlen : (publicKey k).length = 65)
    (hexport : a.getKeyAttributes = none → a.calloc (ecpPubDerMaxBytes mbed) →
      a.exportPublicKey = none) :
    let env := readEnv mbed publicKey store id a
    (∃ st, st ≠ psaSuccess ∧ xReadPublicKeyFromPSACrypto env = some (st, none, 0) ∧
      Balanced (readHeap env)) ∨
    (∃ buf len, xReadPublicKeyFromPSACrypto env = some (psaSuccess, some buf, len) ∧
      readHeap env = [.malloc] ∧ EndsWith ⟨some buf, len⟩ (publicKey k)) := by
  intro env
  have hdoc : env.Documented := readEnv_documented henv id
  cases hattrs : a.getKeyAttributes with
  | some e =>
    have hget : env.getKeyAttributes = (e.1, ⟨0, 0⟩) := by
      simp only [env, readEnv, hattrs]
    have hsize : pubKeyDerLen env 0 = none := by
      simp only [pubKeyDerLen, (by decide : psaKeyTypeIsEcc 0 = false),
        (by decide : psaKeyTypeIsRsa 0 = false), Bool.false_eq_true, if_false]
    refine .inl ⟨e.1, e.2, ?_, ?_⟩
    · unfold xReadPublicKeyFromPSACrypto
      simp only [hget, e.2, if_false]
    · unfold readHeap
      simp only [hget, hsize]
      rfl
  | none =>
    have hget : env.getKeyAttributes = (psaSuccess, ⟨eccKeyPairSecpR1, 256⟩) := by
      simp only [env, readEnv, hattrs, hk, StoredKey.attributes]
    have hsize : pubKeyDerLen env eccKeyPairSecpR1 = some (ecpPubDerMaxBytes env) := by
      rw [pubKeyDerLen, if_pos eccKeyPair_type.1]
    cases halloc : a.calloc (ecpPubDerMaxBytes mbed) with
    | false =>
      have halloc' : env.calloc (ecpPubDerMaxBytes env) = false := halloc
      refine .inl ⟨psaErrorInsufficientMemory, by decide, ?_, ?_⟩
      · unfold xReadPublicKeyFromPSACrypto
        simp only [hget, hsize, halloc', if_true, Bool.false_eq_true, if_false]
      · unfold readHeap
        simp only [hget, hsize, halloc', Bool.false_eq_true, and_false, if_false]
        rfl
    | true =>
      have halloc' : env.calloc (ecpPubDerMaxBytes env) = true := halloc
      have hgen : Generated env (publicKey k) :=
        ⟨hget, fun size => by simp only [env, readEnv, hexport hattrs halloc, hk], hlen⟩
      cases hcurve : env.eccEnabled psaEccFamilySecpR1 256 with
      | false =>
        obtain ⟨st, hst, hread⟩ := hgen.refused halloc' hcurve
        refine .inl ⟨st, hst, hread, ?_⟩
        unfold readHeap
        simp only [hget, hsize, halloc', and_self, if_true, hread, hst, if_false]
        rfl
      | true =>
        obtain ⟨buf, hread, hbuf⟩ := hgen.delivers hdoc halloc' hcurve
        obtain ⟨pre, hpre⟩ := subjectPublicKeyInfo_suffix oidEcPublicKey (Der.oid oidSecp256r1)
          (publicKey k)
        refine .inr ⟨buf, _, hread, ?_, buf, rfl, ?_, slice_suffix hbuf hpre⟩
        · unfold readHeap
          simp only [hget, hsize, halloc', and_self, if_true, hread]
        · show (publicKey k).length ≤ (subjectPublicKeyInfo _ _ _).length
          rw [hpre, List.length_append]
          omega

/-! ## The slots -/

/-- Each of the two slots is empty or as it was. -/
def SlotsKept (store store' : KeyStore κ) (xPrvKeyId xPubKeyId : Nat) : Prop :=
  (store' xPrvKeyId = none ∨ store' xPrvKeyId = store xPrvKeyId) ∧
  (store' xPubKeyId = none ∨ store' xPubKeyId = store xPubKeyId)

theorem psaDestroyKey_slot (store : KeyStore κ) (id i : Nat) (fault : Option (PsaError × Bool)) :
    (psaDestroyKey store id fault).1 i = none ∨ (psaDestroyKey store id fault).1 i = store i := by
  have hupdate : Function.update store id none i = none ∨
      Function.update store id none i = store i := by
    by_cases h : i = id
    · rw [h, Function.update_self]
      exact .inl rfl
    · rw [Function.update_of_ne h]
      exact .inr rfl
  unfold psaDestroyKey
  cases fault with
  | some f =>
    obtain ⟨e, erased⟩ := f
    dsimp only
    split
    · exact hupdate
    · exact .inr rfl
  | none =>
    dsimp only
    split
    · exact .inr rfl
    · exact hupdate

theorem destroySlots_slot (store : KeyStore κ) (xPrvKeyId xPubKeyId : Nat) (a : GenerateAns κ)
    (i : Nat) : (destroySlots store xPrvKeyId xPubKeyId a).1 i = none ∨
      (destroySlots store xPrvKeyId xPubKeyId a).1 i = store i := by
  have h₁ := psaDestroyKey_slot store xPrvKeyId i a.destroyPrv
  have h₂ := psaDestroyKey_slot (psaDestroyKey store xPrvKeyId a.destroyPrv).1 xPubKeyId i
    a.destroyPub
  unfold destroySlots
  dsimp only
  split
  · rcases h₂ with h₂ | h₂
    · exact .inl h₂
    · rw [h₂]
      exact h₁
  · exact h₁

theorem destroySlots_keeps (store : KeyStore κ) (xPrvKeyId xPubKeyId : Nat) (a : GenerateAns κ) :
    SlotsKept store (destroySlots store xPrvKeyId xPubKeyId a).1 xPrvKeyId xPubKeyId :=
  ⟨destroySlots_slot _ _ _ a xPrvKeyId, destroySlots_slot _ _ _ a xPubKeyId⟩

/-- A key pair is generated: both slots were destroyed, or said to be empty, the private one is
empty, and the generation does not fail. -/
def Generates (store : KeyStore κ) (xPrvKeyId xPubKeyId : Nat) (a : GenerateAns κ) : Prop :=
  (destroySlots store xPrvKeyId xPubKeyId a).2 = psaSuccess ∧
  (destroySlots store xPrvKeyId xPubKeyId a).1 xPrvKeyId = none ∧ a.generate = none

/-- When a key pair is generated, the public slot is empty, and the public key is exported once there
is a buffer for it. -/
def CallOk (mbed : PkiEnv) (xPrvKeyId xPubKeyId : Nat) (store : KeyStore κ) (a : GenerateAns κ) :
    Prop :=
  Generates store xPrvKeyId xPubKeyId a →
    (destroySlots store xPrvKeyId xPubKeyId a).1 xPubKeyId = none ∧
    (a.getKeyAttributes = none → a.calloc (ecpPubDerMaxBytes mbed) → a.exportPublicKey = none)

/-- If both slots are occupied, they hold a key pair and its public key. -/
def Paired (publicKey : κ → List UInt8) (xPrvKeyId xPubKeyId : Nat) (store : KeyStore κ) : Prop :=
  ∀ prv pub, store xPrvKeyId = some prv → store xPubKeyId = some pub →
    ∃ k, prv = .keyPair k ∧ pub = .publicKey (publicKey k)

/-- What a call leaves: the two keys and a DER object that ends with the public key, or cleared
outputs and no block of the heap. -/
structure Outcome (publicKey : κ → List UInt8) (xPrvKeyId xPubKeyId : Nat) (store : KeyStore κ)
    (r : GenerateResult) : Prop where
  success : r.ret = 0 → ∃ k, store xPrvKeyId = some (.keyPair k) ∧
    store xPubKeyId = some (.publicKey (publicKey k)) ∧ EndsWith r.out (publicKey k)
  failure : r.ret ≠ 0 → r.out = ⟨none, 0⟩ ∧ Balanced r.heap

theorem mbedtlsPsaErrTranslatePk_ne {st : Status} (h : st ≠ psaSuccess) :
    mbedtlsPsaErrTranslatePk st ≠ 0 := by
  unfold mbedtlsPsaErrTranslatePk
  rw [if_neg h]
  repeat' split
  all_goals decide

/-- A call that fails before or after it has a buffer. -/
theorem finish_failure {st : Status} (h : st ≠ psaSuccess) (store : KeyStore κ) (out : DerOut)
    (heap : List HeapOp)
    (hheap : Balanced (heap ++ if out.ppucPubKeyDer.isSome then [.free] else [])) :
    ∃ r, finish store st out heap = (store, r) ∧ r.ret ≠ 0 ∧ r.out = ⟨none, 0⟩ ∧
      Balanced r.heap :=
  ⟨_, if_pos h, mbedtlsPsaErrTranslatePk_ne h, rfl, hheap⟩

theorem psaCreateKey_cases (store : KeyStore κ) (id : Nat) (key : StoredKey κ)
    (fault : Option PsaError) :
    (fault = none ∧ store id = none ∧
      psaCreateKey store id key fault = (Function.update store id (some key), psaSuccess)) ∨
    (¬(store id = none ∧ fault = none) ∧
      ∃ st, st ≠ psaSuccess ∧ psaCreateKey store id key fault = (store, st)) := by
  unfold psaCreateKey
  cases fault with
  | some e => exact .inr ⟨nofun, e.1, e.2, rfl⟩
  | none =>
    by_cases hs : store id = none
    · exact .inl ⟨rfl, hs, if_pos hs⟩
    · exact .inr ⟨fun h => hs h.1, psaErrorAlreadyExists, by decide, if_neg hs⟩

/-- **One call**: it fills both slots with one pair, or it fails and leaves each of them as it was,
or one of them empty. -/
theorem generate_spec (henv : mbed.Documented) (hlen : ∀ k, (publicKey k).length = 65)
    {xPrvKeyId xPubKeyId : Nat} (hprv : xPrvKeyId ≠ 0) (hpub : xPubKeyId ≠ 0)
    (hne : xPrvKeyId ≠ xPubKeyId) (out : DerOut)
    (hok : CallOk mbed xPrvKeyId xPubKeyId store a) : ∃ store' r,
    lGenerateKeyPairECPsaCrypto mbed publicKey store xPrvKeyId xPubKeyId out a =
      some (store', r) ∧
    Outcome publicKey xPrvKeyId xPubKeyId store' r ∧
    (r.ret ≠ 0 → store' xPrvKeyId = none ∨ store' xPubKeyId = none ∨
      store' xPrvKeyId = store xPrvKeyId ∧ store' xPubKeyId = store xPubKeyId) := by
  have hids : ¬(xPrvKeyId = 0 ∨ xPubKeyId = 0) := fun h => h.elim hprv hpub
  have hkept := destroySlots_keeps store xPrvKeyId xPubKeyId a
  have hslots : ∀ store', (store' = (destroySlots store xPrvKeyId xPubKeyId a).1) →
      store' xPrvKeyId = none ∨ store' xPubKeyId = none ∨
        store' xPrvKeyId = store xPrvKeyId ∧ store' xPubKeyId = store xPubKeyId := by
    rintro _ rfl
    rcases hkept with ⟨h₁ | h₁, h₂ | h₂⟩
    · exact .inl h₁
    · exact .inl h₁
    · exact .inr (.inl h₂)
    · exact .inr (.inr ⟨h₁, h₂⟩)
  unfold lGenerateKeyPairECPsaCrypto
  unfold CallOk Generates at hok
  rw [if_neg hids]
  generalize destroySlots store xPrvKeyId xPubKeyId a = d at hok hslots ⊢
  obtain ⟨store₁, st₁⟩ := d
  dsimp only at hok hslots ⊢
  by_cases hst : st₁ = psaSuccess
  · rw [if_pos hst]
    rcases psaCreateKey_cases store₁ xPrvKeyId (.keyPair a.key) a.generate with
      ⟨hgen, hempty, hcreate⟩ | ⟨-, st, hst', hcreate⟩
    · obtain ⟨hpubEmpty, hexport⟩ := hok ⟨hst, hempty, hgen⟩
      rw [hcreate]
      dsimp only
      rw [if_pos rfl]
      -- the new pair is in its slot, the public slot is still empty
      generalize hstore : Function.update store₁ xPrvKeyId (some (StoredKey.keyPair a.key)) = store₂
      have hk : store₂ xPrvKeyId = some (.keyPair a.key) := by rw [← hstore, Function.update_self]
      have hp : store₂ xPubKeyId = none := by
        rw [← hstore, Function.update_of_ne (Ne.symm hne), hpubEmpty]
      rcases readKey_cases henv hk (hlen a.key) hexport with
        ⟨st, hst', hread, hheap⟩ | ⟨buf, len, hread, hheap, hend⟩
      · rw [hread]
        dsimp only
        rw [if_neg hst']
        obtain ⟨r, hr, hret, hcleared⟩ := finish_failure hst' store₂ ⟨none, 0⟩
          (readHeap (readEnv mbed publicKey store₂ xPrvKeyId a)) (by simpa using hheap)
        rw [hr]
        exact ⟨_, _, rfl, ⟨fun h => absurd h hret, fun _ => hcleared⟩, fun _ => .inr (.inl hp)⟩
      · obtain ⟨buf', hbuf, hle, hslice⟩ := hend
        obtain rfl := Option.some.inj hbuf
        rw [hlen] at hslice
        rw [hread, hheap]
        dsimp only
        rw [if_pos rfl, eccKeyPair_type.2.2.2.2.2, Option.getD_some, hslice]
        rcases psaCreateKey_cases store₂ xPubKeyId (.publicKey (publicKey a.key)) a.importKey with
          ⟨-, -, himport⟩ | ⟨-, st, hst', himport⟩
        · rw [himport]
          refine ⟨_, _, rfl, ⟨fun _ => ⟨a.key, ?_, ?_, buf, rfl, hle, ?_⟩, fun h => absurd rfl h⟩,
            fun h => absurd rfl h⟩
          · show Function.update store₂ xPubKeyId _ xPrvKeyId = _
            rw [Function.update_of_ne hne, hk]
          · exact Function.update_self ..
          · rw [hlen]
            exact hslice
        · rw [himport]
          obtain ⟨r, hr, hret, hcleared⟩ := finish_failure hst' store₂ ⟨some buf, len⟩
            [.malloc] rfl
          dsimp only
          rw [hr]
          exact ⟨_, _, rfl, ⟨fun h => absurd h hret, fun _ => hcleared⟩, fun _ => .inr (.inl hp)⟩
    · rw [hcreate]
      dsimp only
      rw [if_neg hst']
      obtain ⟨r, hr, hret, hcleared⟩ := finish_failure hst' store₁ ⟨none, 0⟩ [] rfl
      rw [hr]
      exact ⟨_, _, rfl, ⟨fun h => absurd h hret, fun _ => hcleared⟩, fun _ => hslots store₁ rfl⟩
  · rw [if_neg hst]
    dsimp only
    rw [if_neg hst]
    obtain ⟨r, hr, hret, hcleared⟩ := finish_failure hst store₁ ⟨none, 0⟩ [] rfl
    rw [hr]
    exact ⟨_, _, rfl, ⟨fun h => absurd h hret, fun _ => hcleared⟩, fun _ => hslots store₁ rfl⟩

/-- What a call does to a store that was paired if the public slot was written by a call. -/
theorem generate_paired {xPrvKeyId xPubKeyId : Nat} {store' : KeyStore κ} {r : GenerateResult}
    {written : Prop} (hw : written → Paired publicKey xPrvKeyId xPubKeyId store)
    (hout : Outcome publicKey xPrvKeyId xPubKeyId store' r)
    (hkept : r.ret ≠ 0 → store' xPrvKeyId = none ∨ store' xPubKeyId = none ∨
      store' xPrvKeyId = store xPrvKeyId ∧ store' xPubKeyId = store xPubKeyId)
    (h : written ∨ r.ret = 0) : Paired publicKey xPrvKeyId xPubKeyId store' := by
  intro prv pub hprv hpub
  by_cases hret : r.ret = 0
  · obtain ⟨k, h₁, h₂, -⟩ := hout.success hret
    exact ⟨k, Option.some.inj (hprv.symm.trans h₁), Option.some.inj (hpub.symm.trans h₂)⟩
  · rcases hkept hret with h₁ | h₂ | ⟨h₁, h₂⟩
    · exact nomatch h₁.symm.trans hprv
    · exact nomatch h₂.symm.trans hpub
    · exact hw (h.resolve_right hret) prv pub (h₁ ▸ hprv) (h₂ ▸ hpub)

/-- **The slots of a run** whose calls meet `CallOk`: once a call has written the public slot, two
occupied slots hold a pair; every call fills both slots or fails with nothing left; and a next such
call returns. -/
theorem key_pairing (henv : mbed.Documented) (hlen : ∀ k, (publicKey k).length = 65)
    {xPrvKeyId xPubKeyId : Nat} (hprv : xPrvKeyId ≠ 0) (hpub : xPubKeyId ≠ 0)
    (hne : xPrvKeyId ≠ xPubKeyId) {s₀ s : KeyStore κ}
    {tr : List (Entry (KeyStore κ) (DerOut × GenerateAns κ) GenerateResult)}
    (h : Exec (keyGenerator mbed publicKey xPrvKeyId xPubKeyId) s₀ tr s)
    (hok : ∀ e ∈ tr, CallOk mbed xPrvKeyId xPubKeyId e.pre e.inp.2) :
    ((∃ e ∈ tr, e.out.ret = 0) → Paired publicKey xPrvKeyId xPubKeyId s) ∧
    (∀ e ∈ tr, Outcome publicKey xPrvKeyId xPubKeyId e.post e.out) ∧
    (∀ c, CallOk mbed xPrvKeyId xPubKeyId s c.2 →
      ((keyGenerator mbed publicKey xPrvKeyId xPubKeyId).step s c).isSome) := by
  have hrun := h.hist (I := fun tr s =>
    (∀ e ∈ tr, CallOk mbed xPrvKeyId xPubKeyId e.pre e.inp.2) →
      ((∃ e ∈ tr, e.out.ret = 0) → Paired publicKey xPrvKeyId xPubKeyId s) ∧
      (∀ e ∈ tr, Outcome publicKey xPrvKeyId xPubKeyId e.post e.out)) ?_ ?_
  · obtain ⟨hpaired, hout⟩ := hrun hok
    refine ⟨hpaired, hout, fun c hc => ?_⟩
    obtain ⟨store', r, hcall, -⟩ := generate_spec henv hlen hprv hpub hne c.1 hc
    exact Option.isSome_iff_exists.2 ⟨_, hcall⟩
  · intro tr s c s' o hI hs hok
    obtain ⟨hpaired, houts⟩ := hI fun e he => hok e (List.mem_append_left _ he)
    obtain ⟨store', r, hcall, hout, hkept⟩ := generate_spec henv hlen hprv hpub hne c.1
      (hok ⟨s, c, o, s'⟩ (List.mem_append_right _ (List.mem_singleton.2 rfl)))
    obtain ⟨rfl, rfl⟩ := Prod.mk.inj (Option.some.inj (hcall.symm.trans hs))
    constructor
    · rintro ⟨e, he, hret⟩
      refine generate_paired hpaired hout hkept ?_
      rcases List.mem_append.1 he with he | he
      · exact .inl ⟨e, he, hret⟩
      · rw [List.mem_singleton.1 he] at hret
        exact .inr hret
    · intro e he
      rcases List.mem_append.1 he with he | he
      · exact houts e he
      · rw [List.mem_singleton.1 he]
        exact hout
  · exact fun _ => ⟨fun ⟨e, he, _⟩ => absurd he List.not_mem_nil,
      fun e he => absurd he List.not_mem_nil⟩

/-- Calls that all succeed, but for the export of the public key. -/
def answers (exportPublicKey : Option PsaError) : GenerateAns Unit where
  destroyPrv := none
  destroyPub := none
  generate := none
  key := ()
  getKeyAttributes := none
  calloc _ := true
  exportPublicKey := exportPublicKey
  importKey := none

/-- PSA with one key pair that it can generate. -/
def unitGenerator : Machine (KeyStore Unit) (DerOut × GenerateAns Unit) GenerateResult :=
  keyGenerator (oneKey (secpR1 256) []) (fun _ => List.replicate 65 4) 1 2

/-- The keys 1 and 2 of an empty storage are generated. -/
theorem key_pairing_empty : ∃ s r,
    unitGenerator.step (fun _ => none) (⟨none, 0⟩, answers none) = some (s, r) ∧ r.ret = 0 ∧
      Paired (fun _ : Unit => List.replicate 65 4) 1 2 s := by
  have hok : CallOk (oneKey (secpR1 256) []) 1 2 (fun _ => none) (answers none) := fun _ =>
    ⟨rfl, fun _ _ => rfl⟩
  have hret : (unitGenerator.step (fun _ => none) (⟨none, 0⟩, answers none)).map (·.2.ret) =
      some 0 := by decide +kernel
  obtain ⟨⟨s, r⟩, hstep, hr⟩ := Option.map_eq_some_iff.1 hret
  refine ⟨s, r, hstep, hr, ?_⟩
  refine (key_pairing (oneKey_documented _ _) (fun _ => List.length_replicate ..) (by decide)
    (by decide) (by decide) (Exec.snoc .nil hstep) ?_).1 ⟨_, List.mem_singleton.2 rfl, hr⟩
  intro e he
  rw [List.mem_singleton.1 he]
  exact hok

/-- **The export fails**: with the buffer allocated, the null byte is written before its start, and
the call does not come to its outputs. -/
theorem generate_overruns :
    ¬∃ s r, unitGenerator.step (fun _ => none)
      (⟨none, 0⟩, answers (some ⟨psaErrorHardwareFailure, by decide⟩)) = some (s, r) ∧
      (r.ret ≠ 0 → r.out = ⟨none, 0⟩ ∧ Balanced r.heap) := by
  have hnone : (unitGenerator.step (fun _ => none)
      (⟨none, 0⟩, answers (some ⟨psaErrorHardwareFailure, by decide⟩))).isNone = true := by
    decide +kernel
  rintro ⟨s, r, hstep, -⟩
  rw [hstep] at hnone
  cases hnone

end Crypto
