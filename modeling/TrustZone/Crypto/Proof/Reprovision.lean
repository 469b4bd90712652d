import TrustZone.Crypto.Proof.PkiObjectPkcs11
import TrustZone.Crypto.Provisioning

/-!
# Provisioning once more

A call that writes under a label should succeed whether or not the slot is occupied, and reading the label
then gives the new object. A storage replaces what it holds, and the generator destroys both its slots
first; a key or a certificate of the crypto service is imported, for which the slot must be free.

* `Rewrites`: the law of one call. `ProvisionCall.Repeatable`: what it takes.
* `lGenerateKeyPair_success`: the generator without a fault.
* `provision_repeat_iff`: one call from any content of the stores, and every run of calls that are
  repeatable: each label reads as it was last written.
-/

namespace Crypto

open Lib Psa Machine

/-! ## The law -/

/-- A key of the generator: its attributes and its point, from which mbedTLS parses a key. -/
structure PkiKey.FreshPair (k : PkiKey) (link : PkiLink) : Prop where
  attributes : k.attributes = ⟨eccKeyPairSecpR1, 256⟩
  length : k.publicKey.length = 65
  parses : link.pkParsePublicKey (p256Info k.publicKey) = (0, .eckey)

/-- The context of an EC key, whose point can be written. -/
structure PkContext.EcKey (pk : PkContext) : Prop where
  type : pk.type = .eckey
  point : pk.Documented
  written : (pk.pointWriteBinary (pointSize pk)).1 = 0
  ne : pk.point ≠ []

/-- No call of PSA reports a fault. -/
structure GenerateAns.NoFault {κ : Type} (a : GenerateAns κ) : Prop where
  destroyPrv : a.destroyPrv = none
  destroyPub : a.destroyPub = none
  generate : a.generate = none
  getKeyAttributes : a.getKeyAttributes = none
  exportPublicKey : a.exportPublicKey = none
  importKey : a.importKey = none

/-- The labels that a call writes to. -/
def ProvisionCall.labels : ProvisionCall → List (List UInt8)
  | .xPkiGenerateECKeypair prv pub _ _ => [prv, pub]
  | .xPkiWriteCertificate label _ _ => [label]
  | .xPkiWritePubKey _ label _ _ _ => [label]

/-- What is expected of the callers and of PSA: real keys and certificates, labels of objects, and no fault
but that of a slot that is occupied. -/
def ProvisionCall.Assumed (link : PkiLink) : ProvisionCall → Prop
  | .xPkiGenerateECKeypair prv pub _ a =>
    xPkiObjectFromLabel prv ≠ .none ∧ xPkiObjectFromLabel pub ≠ .none ∧ a.NoFault ∧ a.key.FreshPair link
  | .xPkiWriteCertificate label raw fault =>
    xPkiObjectFromLabel label ≠ .none ∧ fault = none ∧ link.Certificate raw ∧
      ∀ id, xPkiObjectFromLabel label = .psaCrypto id → 8 * raw.length ≤ psaMaxKeyBits
  | .xPkiWritePubKey _ label _ pk fault =>
    xPkiObjectFromLabel label ≠ .none ∧ fault = none ∧ pk.EcKey

/-- The private key of a pair is read. -/
def ReadsPrivateKey (link : PkiLink) (st : PkiStores) (k : PkiKey) : PkiObject → Prop
  | .psaCrypto id => st.keys id = some k ∧ xPkiReadPrivateKey link st (.psaCrypto id) = some .success
  | o => xPkiReadPrivateKey link st o = some .success

/-- The `SubjectPublicKeyInfo` of a pair is read. -/
def ReadsPairKey (link : PkiLink) (st : PkiStores) (k : PkiKey) (o : PkiObject) : Prop :=
  ∃ buf, xPkiReadPublicKeyDer link st o = some (.success, some buf, (p256Info k.publicKey).length) ∧
    buf.take (p256Info k.publicKey).length = p256Info k.publicKey

/-- The label reads as the call wrote it. -/
def ReadsAs (link : PkiLink) (st : PkiStores) (label : List UInt8) : ProvisionCall → Prop
  | .xPkiGenerateECKeypair prv pub _ a =>
    (label = prv → ReadsPrivateKey link st a.key (xPkiObjectFromLabel label)) ∧
      (label = pub → ReadsPairKey link st a.key (xPkiObjectFromLabel label))
  | .xPkiWriteCertificate _ raw _ =>
    xPkiReadCertificate link st (xPkiObjectFromLabel label) = some (.success, some raw)
  | .xPkiWritePubKey _ _ der pk _ => ReadsPublicKey link st der pk (xPkiObjectFromLabel label)

/-- **The law of a call**: it succeeds, and then its labels read as it wrote them. -/
def Rewrites (link : PkiLink) (st : PkiStores) (c : ProvisionCall) : Prop :=
  ∃ st', provisionStep link st c = some (st', .success) ∧ ∀ label ∈ c.labels, ReadsAs link st' label c

/-! ## What it takes -/

/-- There is memory to read a public key of the crypto service. -/
def ReadMemory (link : PkiLink) : Prop := link.pki.calloc (ecpPubDerMaxBytes link.pki) = true

/-- The generator writes two slots of the crypto service, with memory, and the curve is there. -/
structure PairRepeatable (link : PkiLink) (prv pub : PkiObject) (a : GenerateAns PkiKey) (p q : Nat) :
    Prop where
  prv : prv = .psaCrypto p
  pub : pub = .psaCrypto q
  ne : p ≠ q
  curve : link.pki.eccEnabled psaEccFamilySecpR1 256 = true
  malloc : a.calloc (ecpPubDerMaxBytes link.pki) = true
  read : ReadMemory link
  context : link.psaPkCtxAlloc = true

/-- **The condition** for a call. -/
def ProvisionCall.Repeatable (link : PkiLink) (st : PkiStores) : ProvisionCall → Prop
  | .xPkiGenerateECKeypair prv pub _ a =>
    ∃ p q, PairRepeatable link (xPkiObjectFromLabel prv) (xPkiObjectFromLabel pub) a p q
  | .xPkiWriteCertificate label raw _ =>
    match xPkiObjectFromLabel label with
    | .psaCrypto id => st.keys id = none ∧ link.pki.calloc raw.length = true
    | .psaIts uid => Readable link uid raw ∧ ParsesBack link raw
    | .psaPs uid => Readable link uid raw ∧ ParsesBack link raw
    | _ => False
  | .xPkiWritePubKey link' label der pk _ =>
    match xPkiObjectFromLabel label with
    | .psaCrypto id => st.keys id = none ∧ link'.pki.calloc (pointSize pk) = true ∧
      OnReadCurve link pk ∧ ReadMemory link
    | .psaIts uid => Readable link uid der
    | .psaPs uid => Readable link uid der ∧ st.its uid = some der
    | _ => False

variable {link : PkiLink} {st st' : PkiStores} {c : ProvisionCall} {label raw : List UInt8}

/-! ## Labels -/

/-- The label of an object. -/
def labelOf (o : PkiObject) : List UInt8 :=
  if o = .psaCrypto psaTlsPrvKeyId then tlsKeyPrvLabel
  else if o = .psaCrypto psaTlsPubKeyId then tlsKeyPubLabel
  else if o = .psaPs psaTlsCertId then tlsCertLabel
  else if o = .psaPs psaTlsRootCaCertId then tlsRootCaCertLabel
  else otaSigningKeyLabel

/-- A label is of a key or of an object of protected storage, and no other label is of the same. -/
theorem label_object (h : xPkiObjectFromLabel label ≠ .none) :
    labelOf (xPkiObjectFromLabel label) = label ∧
      ((∃ id, xPkiObjectFromLabel label = .psaCrypto id ∧ psaKeyIdUserMin ≤ id ∧ id ≤ psaKeyIdVendorMax) ∨
        ∃ uid, xPkiObjectFromLabel label = .psaPs uid ∧ 0 < uid ∧ uid < 2 ^ 32) := by
  unfold xPkiObjectFromLabel at h ⊢
  split_ifs at h ⊢ with h₁ h₂ h₃ h₄ h₅
  · exact ⟨h₁ ▸ rfl, .inl ⟨_, rfl, by decide⟩⟩
  · exact ⟨h₂ ▸ rfl, .inl ⟨_, rfl, by decide⟩⟩
  · exact ⟨h₃ ▸ rfl, .inr ⟨_, rfl, by decide⟩⟩
  · exact ⟨h₄ ▸ rfl, .inr ⟨_, rfl, by decide⟩⟩
  · exact ⟨h₅ ▸ rfl, .inl ⟨_, rfl, by decide⟩⟩
  · exact absurd rfl h

theorem label_inj {label' : List UInt8} (h : xPkiObjectFromLabel label ≠ .none)
    (he : xPkiObjectFromLabel label = xPkiObjectFromLabel label') : label = label' := by
  rw [← (label_object h).1, he, (label_object (he ▸ h)).1]

/-! ## The generator -/

section Generator

variable {κ : Type} {mbed : PkiEnv} {publicKey : κ → List UInt8} {store store' : KeyStore κ}
  {a : GenerateAns κ} {p q : Nat} {out : DerOut}

/-- A key that is destroyed without a fault is gone, and that it was not there is no error. -/
theorem psaDestroyKey_none (store : KeyStore κ) (id : Nat) :
    (psaDestroyKey store id none).1 = Function.update store id none ∧
      maskInvalidHandle (psaDestroyKey store id none).2 = psaSuccess := by
  unfold psaDestroyKey
  by_cases h : store id = none
  · dsimp only
    rw [if_pos h]
    exact ⟨(Function.update_eq_self_iff.2 h.symm).symm, rfl⟩
  · dsimp only
    rw [if_neg h]
    exact ⟨rfl, rfl⟩

theorem destroySlots_none (hprv : a.destroyPrv = none) (hpub : a.destroyPub = none) :
    destroySlots store p q a = (Function.update (Function.update store p none) q none, psaSuccess) := by
  obtain ⟨hst, hmask⟩ := psaDestroyKey_none store p
  obtain ⟨hst', hmask'⟩ := psaDestroyKey_none (Function.update store p none) q
  unfold destroySlots
  simp only [hprv, hpub, hmask, if_true, hst, hmask', hst']

/-- A generated key is read with memory and the curve, else it is refused. -/
theorem Generated.read_cases {env : PkiEnv} {key : List UInt8} (henv : env.Documented)
    (h : Generated env key) :
    ((env.calloc (ecpPubDerMaxBytes env) = true ∧ env.eccEnabled psaEccFamilySecpR1 256 = true) ∧
      Delivers env (subjectPublicKeyInfo oidEcPublicKey (Der.oid oidSecp256r1) key)) ∨
    (¬(env.calloc (ecpPubDerMaxBytes env) = true ∧ env.eccEnabled psaEccFamilySecpR1 256 = true) ∧
      ∃ st, st ≠ psaSuccess ∧ xReadPublicKeyFromPSACrypto env = some (st, none, 0)) := by
  cases halloc : env.calloc (ecpPubDerMaxBytes env) with
  | false =>
    refine .inr ⟨by simp, psaErrorInsufficientMemory, by decide, ?_⟩
    unfold xReadPublicKeyFromPSACrypto
    simp only [h.attributes, h.size, halloc, if_true, Bool.false_eq_true, if_false]
  | true =>
    cases hcurve : env.eccEnabled psaEccFamilySecpR1 256 with
    | false => exact .inr ⟨by simp, h.refused halloc hcurve⟩
    | true => exact .inl ⟨⟨rfl, rfl⟩, h.delivers henv halloc hcurve⟩

/-- The end of the buffer is the key. -/
theorem delivered_slice {key buf alg params : List UInt8}
    (h : buf.take (subjectPublicKeyInfo alg params key).length = subjectPublicKeyInfo alg params key) :
    slice (memOf buf) ((subjectPublicKeyInfo alg params key).length - key.length) key.length = key := by
  obtain ⟨pre, hpre⟩ := subjectPublicKeyInfo_suffix alg params key
  exact slice_suffix h hpre

/-- The end succeeds with the status of success only, and leaves the store. -/
theorem finish_success {xStatus : Status} {heap : List HeapOp} :
    (∃ r, some (finish store xStatus out heap) = some (store', r) ∧
      xPrvMbedtlsErrToPkiStatus r.ret = .success) ↔ xStatus = psaSuccess ∧ store = store' := by
  unfold finish
  by_cases h : xStatus = psaSuccess
  · rw [if_neg (not_not_intro h)]
    simp [pkiStatus_translate, h]
  · rw [if_pos h]
    simp [pkiStatus_translate, h]

/-- **The generator without a fault** fills both slots, whatever they held, if they are two. -/
theorem lGenerateKeyPair_success (henv : mbed.Documented) (hf : a.NoFault)
    (hlen : (publicKey a.key).length = 65) (hp : p ≠ 0) (hq : q ≠ 0) :
    (∃ r, lGenerateKeyPairECPsaCrypto mbed publicKey store p q out a = some (store', r) ∧
      xPrvMbedtlsErrToPkiStatus r.ret = .success) ↔
      (p ≠ q ∧ a.calloc (ecpPubDerMaxBytes mbed) = true ∧
        mbed.eccEnabled psaEccFamilySecpR1 256 = true) ∧
      Function.update (Function.update store p (some (.keyPair a.key))) q
        (some (.publicKey (publicKey a.key))) = store' := by
  have hids : ¬(p = 0 ∨ q = 0) := fun h => h.elim hp hq
  have hempty : (Function.update (Function.update store p none) q none) p = none := by
    by_cases h : p = q
    · rw [h, Function.update_self]
    · rw [Function.update_of_ne h, Function.update_self]
  unfold lGenerateKeyPairECPsaCrypto
  rw [if_neg hids, destroySlots_none hf.destroyPrv hf.destroyPub]
  simp only [if_true, psaCreateKey, hf.generate, hempty]
  generalize hstore : Function.update (Function.update (Function.update store p none) q none) p
    (some (StoredKey.keyPair a.key)) = store₁
  have hk : store₁ p = some (.keyPair a.key) := by rw [← hstore, Function.update_self]
  have hgen : Generated (readEnv mbed publicKey store₁ p a) (publicKey a.key) := by
    refine ⟨?_, fun size => ?_, hlen⟩
    · simp only [readEnv, hf.getKeyAttributes, hk, StoredKey.attributes]
    · simp only [readEnv, hf.exportPublicKey, hk]
  obtain ⟨⟨halloc, hcurve⟩, buf, hread, hbuf⟩ | ⟨hno, st, hst, hread⟩ :=
    hgen.read_cases (readEnv_documented henv p)
  · have hslice := delivered_slice hbuf
    rw [hlen] at hslice
    simp only [hread, if_true, eccKeyPair_type.2.2.2.2.2, Option.getD_some, hslice, hf.importKey]
    rw [finish_success]
    by_cases hne : p = q
    · subst hne
      simp [hk, (by decide : psaErrorAlreadyExists ≠ psaSuccess)]
    · have hfree : store₁ q = none := by
        rw [← hstore, Function.update_of_ne (Ne.symm hne), Function.update_self]
      have hslots : Function.update store₁ q (some (.publicKey (publicKey a.key))) =
          Function.update (Function.update store p (some (.keyPair a.key))) q
            (some (.publicKey (publicKey a.key))) := by
        funext i
        by_cases hi : i = q
        · rw [hi, Function.update_self, Function.update_self]
        · rw [Function.update_of_ne hi, Function.update_of_ne hi, ← hstore]
          by_cases hi' : i = p
          · rw [hi', Function.update_self, Function.update_self]
          · rw [Function.update_of_ne hi', Function.update_of_ne hi', Function.update_of_ne hi,
              Function.update_of_ne hi']
      have halloc : a.calloc (ecpPubDerMaxBytes mbed) = true := halloc
      have hcurve : mbed.eccEnabled psaEccFamilySecpR1 256 = true := hcurve
      simp only [hfree, if_true, true_and, hslots, hne, halloc, hcurve, ne_eq, not_false_eq_true, and_self]
  · simp only [hread, hst, if_false]
    rw [finish_success]
    exact iff_of_false (fun h => hst h.1) fun h => hno h.1.2

end Generator

/-- The stores with a pair under the two ids. -/
def PkiStores.withPair (st : PkiStores) (p q : Nat) (k : PkiKey) : PkiStores :=
  { st with
    keys := Function.update (Function.update st.keys p (some k)) q
      (some ⟨⟨eccPublicKeySecpR1, 256⟩, k.publicKey, k.publicKey⟩) }

theorem withPair_keyStore (st : PkiStores) (p q : Nat) (k : PkiKey) :
    ({ st with keys := fun id => ((Function.update (Function.update st.keyStore p (some (.keyPair k))) q
      (some (.publicKey k.publicKey))) id).map StoredKey.pkiKey } : PkiStores) = st.withPair p q k := by
  unfold PkiStores.withPair
  congr 1
  funext i
  by_cases hq : i = q
  · rw [hq, Function.update_self, Function.update_self]
    rfl
  · rw [Function.update_of_ne hq, Function.update_of_ne hq]
    by_cases hp : i = p
    · rw [hp, Function.update_self, Function.update_self]
      rfl
    · rw [Function.update_of_ne hp, Function.update_of_ne hp]
      unfold PkiStores.keyStore
      cases st.keys i with
      | none => rfl
      | some k => rfl

variable {prv pub : List UInt8} {out : DerOut} {a : GenerateAns PkiKey} {p q id : Nat} {k : PkiKey}

/-- A pair is generated under two labels. -/
theorem generatePair_success (hlink : link.Documented) (hf : a.NoFault) (hk : a.key.FreshPair link)
    (hprv : xPkiObjectFromLabel prv ≠ .none) (hpub : xPkiObjectFromLabel pub = .psaCrypto q) :
    xPkiGenerateECKeypair link st prv pub out a = some (st', .success) ↔
      ((xPkiObjectFromLabel prv).cryptoId ≠ q ∧ a.calloc (ecpPubDerMaxBytes link.pki) = true ∧
        link.pki.eccEnabled psaEccFamilySecpR1 256 = true) ∧
      st.withPair (xPkiObjectFromLabel prv).cryptoId q a.key = st' := by
  have hp : (xPkiObjectFromLabel prv).cryptoId ≠ 0 := by
    obtain ⟨-, ⟨id, h, hmin, -⟩ | ⟨uid, h, hpos, hlt⟩⟩ := label_object hprv
    · rw [h]
      exact Nat.ne_of_gt hmin
    · rw [h]
      show uid % 2 ^ 32 ≠ 0
      omega
  have hq : q ≠ 0 := by
    obtain ⟨-, ⟨id, h, hmin, -⟩ | ⟨uid, h, -⟩⟩ := label_object (hpub ▸ PkiObject.noConfusion : xPkiObjectFromLabel pub ≠ .none)
    · rw [hpub] at h
      cases h
      exact Nat.ne_of_gt hmin
    · rw [hpub] at h
      cases h
  have hgen := fun store' => @lGenerateKeyPair_success PkiKey link.pki PkiKey.publicKey st.keyStore store' a
    (xPkiObjectFromLabel prv).cryptoId q out hlink.pki hf hk.length hp hq
  unfold xPkiGenerateECKeypair
  rw [hpub]
  simp only [Option.map_eq_some_iff, Prod.mk.injEq, Prod.exists]
  refine ⟨fun ⟨store', r, hrun, hst, hret⟩ => ?_, fun ⟨hcond, hst⟩ => ?_⟩
  · obtain ⟨hcond, rfl⟩ := (hgen store').1 ⟨r, hrun, hret⟩
    exact ⟨hcond, (withPair_keyStore st _ q a.key).symm.trans hst⟩
  · obtain ⟨r, hrun, hret⟩ := (hgen _).2 ⟨hcond, rfl⟩
    exact ⟨_, r, hrun, (withPair_keyStore st _ q a.key).trans hst, hret⟩

/-! ### Reading a pair -/

/-- The dispatch tells what is delivered. -/
theorem readPublicKeyDer_psaCrypto {der : List UInt8} :
    (∃ buf, xPkiReadPublicKeyDer link st (.psaCrypto id) = some (.success, some buf, der.length) ∧
      buf.take der.length = der) ↔ Delivers (pkiReadEnv link st id) der := by
  refine exists_congr fun buf => and_congr_left fun _ => ?_
  show (xReadPublicKeyFromPSACrypto (pkiReadEnv link st id)).map PkiStatus.of = _ ↔ _
  refine ⟨fun h => ?_, fun h => by rw [h]; rfl⟩
  obtain ⟨⟨xStatus, der', n⟩, hr, heq⟩ := Option.map_eq_some_iff.1 h
  obtain ⟨-, rfl, rfl⟩ : _ ∧ der' = some buf ∧ n = der.length := by
    simpa [PkiStatus.of] using heq
  obtain rfl := xReadPublicKey_buffer hr
  exact hr

section Pair

variable (hlink : link.Documented) (hcurve : link.pki.eccEnabled psaEccFamilySecpR1 256 = true)
  (hk : k.FreshPair link)

include hlink hcurve hk

theorem withPair_readsPublic : ReadsPairKey link (st.withPair p q k) k (.psaCrypto q) ↔ ReadMemory link := by
  have hkey : (st.withPair p q k).keys q =
    some ⟨⟨eccPublicKeySecpR1, 256⟩, k.publicKey, k.publicKey⟩ := Function.update_self ..
  unfold ReadsPairKey
  rw [readPublicKeyDer_psaCrypto]
  exact (secpKey_public hkey).delivers hlink.pki hcurve hk.length

theorem withPair_readsPrivate (hne : p ≠ q) (hp : p ≠ 0) (hmem : ReadMemory link) :
    ReadsPrivateKey link (st.withPair p q k) k (.psaCrypto p) ↔ link.psaPkCtxAlloc = true := by
  have hkey : (st.withPair p q k).keys p = some k := by
    show Function.update _ q _ p = _
    rw [Function.update_of_ne hne, Function.update_self]
  obtain ⟨buf, hread, hbuf⟩ :=
    ((secpKey_pair hkey hk.attributes).delivers hlink.pki hcurve hk.length).2 hmem
  unfold ReadsPrivateKey xPkiReadPrivateKey lPsaInitMbedtlsPkContext
  cases halloc : link.psaPkCtxAlloc with
  | false =>
    have hne : xPrvMbedtlsErrToPkiStatus (-1) ≠ .success := by decide
    simp [hp, hne]
  | true => simp [hkey, hp, hread, hbuf, hk.parses, xPrvMbedtlsErrToPkiStatus]

end Pair

/-! ## One call -/

/-- The stores with an object of protected storage. -/
def PkiStores.withPs (st : PkiStores) (uid : Nat) (data : List UInt8) : PkiStores :=
  { st with ps := Function.update st.ps uid (some data) }

variable {der : List UInt8} {pk : PkContext} {link' : PkiLink} {uid : Nat}

theorem certificate_success (hcert : link.Certificate raw) (ho : xPkiObjectFromLabel label = .psaPs uid) :
    xPkiWriteCertificate st label raw none = some (st', .success) ↔ st.withPs uid raw = st' := by
  have hlen : raw.length ≠ 0 := by simpa using hcert.ne
  unfold xPkiWriteCertificate writeCertificate lWriteCertificateToPsaPS
  rw [ho]
  simp only [hlen, if_false, Option.some.injEq, writePs_success, true_and]
  exact Iff.rfl

/-- A certificate replaces one in a storage, and not one of the crypto service. -/
theorem rewrites_certificate {fault : Option PsaError}
    (hc : (ProvisionCall.xPkiWriteCertificate label raw fault).Assumed link) :
    Rewrites link st (.xPkiWriteCertificate label raw fault) ↔
      (ProvisionCall.xPkiWriteCertificate label raw fault).Repeatable link st := by
  obtain ⟨hlabel, rfl, hcert, hbits⟩ := hc
  unfold Rewrites ProvisionCall.Repeatable ProvisionCall.labels
  simp only [List.mem_singleton, forall_eq, ReadsAs, provisionStep]
  obtain ⟨-, ⟨id, ho, hid⟩ | ⟨uid, ho, hpos, -⟩⟩ := label_object hlabel
  · rw [ho]
    have hwrite : ∀ st', xPkiWriteCertificate st label raw none = some (st', .success) ↔
        st.keys id = none ∧ st.withCertificate id raw = st' := by
      intro st'
      unfold xPkiWriteCertificate
      rw [ho, writeCertificate_psaCrypto hcert.ne]
      simp [hid, hbits id ho]
    simp only [hwrite]
    constructor
    · rintro ⟨st', ⟨hfree, rfl⟩, hread⟩
      exact ⟨hfree, (readCertificate_psaCrypto hcert hid (hbits id ho)).1 hread⟩
    · rintro ⟨hfree, hmem⟩
      exact ⟨_, ⟨hfree, rfl⟩, (readCertificate_psaCrypto hcert hid (hbits id ho)).2 hmem⟩
  · rw [ho]
    simp only [certificate_success hcert ho]
    have hread := readCertificate_success (Function.update_self uid (some raw) st.ps) hcert
    constructor
    · rintro ⟨st', hst, h⟩
      rw [← hst] at h
      exact hread.1 h
    · intro h
      exact ⟨_, rfl, hread.2 h⟩

/-- A public key of the crypto service is imported, and one of protected storage is read from internal
trusted storage. -/
theorem rewrites_pubKey (hlink : link.Documented) {fault : Option PsaError}
    (hc : (ProvisionCall.xPkiWritePubKey link' label der pk fault).Assumed link) :
    Rewrites link st (.xPkiWritePubKey link' label der pk fault) ↔
      (ProvisionCall.xPkiWritePubKey link' label der pk fault).Repeatable link st := by
  obtain ⟨hlabel, rfl, hpk⟩ := hc
  unfold Rewrites ProvisionCall.Repeatable ProvisionCall.labels
  simp only [List.mem_singleton, forall_eq, ReadsAs, provisionStep, xPkiWritePubKey]
  obtain ⟨-, ⟨id, ho, hid⟩ | ⟨uid, ho, hpos, -⟩⟩ := label_object hlabel
  · rw [ho]
    have himp : Imports link' st id pk none ↔
        st.keys id = none ∧ link'.pki.calloc (pointSize pk) = true := by
      refine ⟨fun h => ⟨h.free, h.malloc⟩, ?_⟩
      rintro ⟨hfree, hmem⟩
      exact ⟨Nat.ne_of_gt hid.1, hpk.type, hmem, hpk.written, hpk.ne, rfl, hfree⟩
    simp only [writePubKey_psaCrypto, himp]
    have hread := @readsPublicKey_iff link st id der pk hlink hpk.point hpk.written
    constructor
    · rintro ⟨st', ⟨⟨hfree, hmem⟩, hst⟩, h⟩
      rw [← hst] at h
      exact ⟨hfree, hmem, hread.1 h⟩
    · rintro ⟨hfree, hmem, h⟩
      exact ⟨_, ⟨⟨hfree, hmem⟩, rfl⟩, hread.2 h⟩
  · rw [ho]
    simp only [writePubKey, Option.some.injEq, writePs_success, true_and]
    have hread : ∀ st : PkiStores, ReadsPublicKey link st der pk (.psaPs uid) ↔
      st.its uid = some der ∧ Readable link uid der := fun _ => readPublicBlob_success
    constructor
    · rintro ⟨st', hst, h⟩
      obtain ⟨hits, hmem⟩ := (hread st').1 h
      rw [← hst] at hits
      exact ⟨hmem, hits⟩
    · rintro ⟨hmem, hits⟩
      exact ⟨_, rfl, (hread _).2 ⟨hits, hmem⟩⟩

/-- A pair replaces one, under two labels of the crypto service. -/
theorem rewrites_pair (hlink : link.Documented)
    (hc : (ProvisionCall.xPkiGenerateECKeypair prv pub out a).Assumed link) :
    Rewrites link st (.xPkiGenerateECKeypair prv pub out a) ↔
      (ProvisionCall.xPkiGenerateECKeypair prv pub out a).Repeatable link st := by
  obtain ⟨hprv, hpub, hf, hk⟩ := hc
  unfold Rewrites ProvisionCall.Repeatable ProvisionCall.labels
  simp only [List.mem_cons, List.not_mem_nil, or_false, forall_eq_or_imp, forall_eq, ReadsAs, provisionStep]
  obtain ⟨-, ⟨q, hq, hqid⟩ | ⟨uid, hq, -⟩⟩ := label_object hpub
  · simp only [generatePair_success hlink hf hk hprv hq]
    obtain ⟨-, ⟨p, hp, hpid⟩ | ⟨uid, hp, -⟩⟩ := label_object hprv
    · rw [hp, hq]
      have hp0 : p ≠ 0 := Nat.ne_of_gt hpid.1
      constructor
      · rintro ⟨st', ⟨⟨hne, hmem, hcurve⟩, hst⟩, ⟨hreadPrv, -⟩, -, hreadPub⟩
        rw [← hst] at hreadPrv hreadPub
        have hread := (withPair_readsPublic hlink hcurve hk).1 (hreadPub trivial)
        exact ⟨p, q, rfl, rfl, hne, hcurve, hmem, hread,
          (withPair_readsPrivate hlink hcurve hk hne hp0 hread).1 (hreadPrv trivial)⟩
      · rintro ⟨p', q', hp', hq', hne, hcurve, hmem, hread, hctx⟩
        cases hp'
        cases hq'
        have hlabels : prv ≠ pub := by
          intro he
          rw [he, hq] at hp
          exact hne (PkiObject.psaCrypto.inj hp).symm
        refine ⟨_, ⟨⟨hne, hmem, hcurve⟩, rfl⟩, ⟨fun _ => ?_, fun h => absurd h hlabels⟩,
          fun h => absurd h.symm hlabels, fun _ => ?_⟩
        · exact (withPair_readsPrivate hlink hcurve hk hne hp0 hread).2 hctx
        · exact (withPair_readsPublic hlink hcurve hk).2 hread
    · -- the id is taken from the storage's, and the label names an object there
      rw [hp]
      refine iff_of_false ?_ ?_
      · rintro ⟨st', -, ⟨hreadPrv, -⟩, -⟩
        exact xPkiReadPrivateKey_ps (hreadPrv trivial)
      · rintro ⟨p, q, h⟩
        exact PkiObject.noConfusion h.prv
  · refine iff_of_false ?_ ?_
    · rintro ⟨st', hst, -⟩
      unfold xPkiGenerateECKeypair at hst
      rw [hq] at hst
      cases hst
    · rintro ⟨p, q, h⟩
      rw [hq] at h
      exact PkiObject.noConfusion h.pub

/-- **One call**, from any content of the stores. -/
theorem rewrites_iff (hlink : link.Documented) (hc : c.Assumed link) :
    Rewrites link st c ↔ c.Repeatable link st := by
  cases c with
  | xPkiGenerateECKeypair => exact rewrites_pair hlink hc
  | xPkiWriteCertificate => exact rewrites_certificate hc
  | xPkiWritePubKey => exact rewrites_pubKey hlink hc

/-! ## Runs -/

/-- What a reader of the object looks at is as it was. -/
def SameSlot (st st' : PkiStores) : PkiObject → Prop
  | .psaCrypto id => st'.keys id = st.keys id
  | .psaPs uid => st'.ps uid = st.ps uid ∧ st'.its uid = st.its uid
  | _ => True

theorem SameSlot.trans {st'' : PkiStores} {o : PkiObject} (h : SameSlot st st' o) (h' : SameSlot st' st'' o) :
    SameSlot st st'' o := by
  cases o with
  | psaCrypto id => exact Eq.trans h' h
  | psaPs uid => exact ⟨h'.1.trans h.1, h'.2.trans h.2⟩
  | _ => trivial

theorem sameSlot_key {o : PkiObject} (x : Option PkiKey) (hne : o ≠ .psaCrypto id) :
    SameSlot st { st with keys := Function.update st.keys id x } o := by
  cases o with
  | psaCrypto id' => exact Function.update_of_ne (fun h => hne (congrArg PkiObject.psaCrypto h)) _ _
  | psaPs uid => exact ⟨rfl, rfl⟩
  | _ => trivial

theorem sameSlot_ps {o : PkiObject} (data : List UInt8) (hne : o ≠ .psaPs uid) :
    SameSlot st (st.withPs uid data) o := by
  cases o with
  | psaCrypto id => rfl
  | psaPs uid' => exact ⟨Function.update_of_ne (fun h => hne (congrArg PkiObject.psaPs h)) _ _, rfl⟩
  | _ => trivial

/-- The readers look at one key of the crypto service, or at one uid of the storages. -/
theorem SameSlot.reads {o : PkiObject} (h : SameSlot st st' o)
    (ho : (∃ id, o = .psaCrypto id) ∨ ∃ uid, o = .psaPs uid) :
    xPkiReadPublicKeyDer link st' o = xPkiReadPublicKeyDer link st o ∧
      xPkiReadCertificate link st' o = xPkiReadCertificate link st o ∧
      (∀ k, ReadsPrivateKey link st k o → ReadsPrivateKey link st' k o) ∧
      ∀ der pk, ReadsPublicKey link st der pk o → ReadsPublicKey link st' der pk o := by
  obtain ⟨id, rfl⟩ | ⟨uid, rfl⟩ := ho
  · have hkey : st'.keys id = st.keys id := h
    have henv : pkiReadEnv link st' id = pkiReadEnv link st id := by
      unfold pkiReadEnv
      rw [hkey]
    have hpub : xPkiReadPublicKeyDer link st' (.psaCrypto id) = xPkiReadPublicKeyDer link st (.psaCrypto id) := by
      simp only [xPkiReadPublicKeyDer, henv]
    refine ⟨hpub, ?_, fun k hread => ?_, fun der pk hread => ?_⟩
    · simp only [xPkiReadCertificate, lReadCertificateFromPSACrypto, xReadObjectFromPSACrypto, hkey]
    · refine ⟨hkey.trans hread.1, Eq.trans ?_ hread.2⟩
      simp only [xPkiReadPrivateKey, lPsaInitMbedtlsPkContext, henv]
    · obtain ⟨spki, buf, hspki, hread, hbuf⟩ := hread
      exact ⟨spki, buf, hspki, hpub.trans hread, hbuf⟩
  · obtain ⟨hps, hits⟩ := h
    have hpub : xPkiReadPublicKeyDer link st' (.psaPs uid) = xPkiReadPublicKeyDer link st (.psaPs uid) := by
      simp only [xPkiReadPublicKeyDer, lReadObjectFromPsaIts, readObject, hits]
    refine ⟨hpub, ?_, fun k hread => absurd hread xPkiReadPrivateKey_ps, fun der pk hread => hpub.trans hread⟩
    simp only [xPkiReadCertificate, lReadCertificateFromPsaPS, readCertificate, readObject, hps]

/-- A label of an object reads as before. -/
theorem ReadsAs.same (hlabel : xPkiObjectFromLabel label ≠ .none)
    (h : SameSlot st st' (xPkiObjectFromLabel label)) (hread : ReadsAs link st label c) :
    ReadsAs link st' label c := by
  have ho : (∃ id, xPkiObjectFromLabel label = .psaCrypto id) ∨ ∃ uid, xPkiObjectFromLabel label = .psaPs uid := by
    obtain ⟨-, ⟨id, ho, -⟩ | ⟨uid, ho, -⟩⟩ := label_object hlabel
    · exact .inl ⟨id, ho⟩
    · exact .inr ⟨uid, ho⟩
  cases c with
  | xPkiGenerateECKeypair prv pub out a =>
    obtain ⟨hpub, -, hprv, -⟩ := h.reads ho
    refine ⟨fun he => hprv _ (hread.1 he), fun he => ?_⟩
    obtain ⟨buf, hbuf⟩ := hread.2 he
    exact ⟨buf, hpub.symm ▸ hbuf⟩
  | xPkiWriteCertificate l raw fault => exact (h.reads ho).2.1.trans hread
  | xPkiWritePubKey link' l der pk fault => exact (h.reads ho).2.2.2 _ _ hread

/-- A call that succeeds leaves the other labels alone. -/
theorem provisionStep_frame (hlink : link.Documented) (hc : c.Assumed link) (hrep : c.Repeatable link st)
    (h : provisionStep link st c = some (st', .success)) (hlabel : xPkiObjectFromLabel label ≠ .none)
    (hother : label ∉ c.labels) : SameSlot st st' (xPkiObjectFromLabel label) := by
  cases c with
  | xPkiGenerateECKeypair prv pub out a =>
    obtain ⟨hprv, hpub, hf, hk⟩ := hc
    obtain ⟨p, q, hpair⟩ := hrep
    obtain ⟨-, rfl⟩ := (generatePair_success hlink hf hk hprv hpair.pub).1 h
    have hp : xPkiObjectFromLabel label ≠ .psaCrypto p := fun he =>
      hother (label_inj hlabel (he.trans hpair.prv.symm) ▸ List.mem_cons_self)
    have hq : xPkiObjectFromLabel label ≠ .psaCrypto q := fun he =>
      hother (label_inj hlabel (he.trans hpair.pub.symm) ▸ List.mem_cons_of_mem _ List.mem_cons_self)
    rw [hpair.prv]
    exact (sameSlot_key _ hp).trans (sameSlot_key _ hq)
  | xPkiWriteCertificate l raw fault =>
    obtain ⟨hl, rfl, hcert, hbits⟩ := hc
    have hne : xPkiObjectFromLabel label ≠ xPkiObjectFromLabel l := fun he =>
      hother (label_inj hlabel he ▸ List.mem_cons_self)
    obtain ⟨-, ⟨id, ho, hid⟩ | ⟨uid, ho, hpos, -⟩⟩ := label_object hl
    · have h : writeCertificate st (xPkiObjectFromLabel l) raw none = some (st', .success) := h
      rw [ho] at h hne
      obtain ⟨-, rfl⟩ := (writeCertificate_psaCrypto hcert.ne).1 h
      exact sameSlot_key _ hne
    · obtain rfl := (certificate_success hcert ho).1 h
      rw [ho] at hne
      exact sameSlot_ps _ hne
  | xPkiWritePubKey link' l der pk fault =>
    obtain ⟨hl, rfl, hpk⟩ := hc
    have hne : xPkiObjectFromLabel label ≠ xPkiObjectFromLabel l := fun he =>
      hother (label_inj hlabel he ▸ List.mem_cons_self)
    have h : writePubKey link' st (xPkiObjectFromLabel l) der pk none = some (st', .success) := h
    obtain ⟨-, ⟨id, ho, hid⟩ | ⟨uid, ho, hpos, -⟩⟩ := label_object hl
    · rw [ho] at h hne
      obtain ⟨-, rfl⟩ := writePubKey_psaCrypto.1 h
      exact sameSlot_key _ hne
    · rw [ho] at h hne
      obtain ⟨-, rfl⟩ := writePs_success.1 (Option.some.inj h)
      exact sameSlot_ps _ hne

theorem ProvisionCall.Assumed.object (hc : c.Assumed link) (h : label ∈ c.labels) :
    xPkiObjectFromLabel label ≠ .none := by
  cases c with
  | xPkiGenerateECKeypair prv pub out a =>
    obtain rfl | h := List.mem_cons.1 h
    · exact hc.1
    · exact List.mem_singleton.1 h ▸ hc.2.1
  | xPkiWriteCertificate => exact List.mem_singleton.1 h ▸ hc.1
  | xPkiWritePubKey => exact List.mem_singleton.1 h ▸ hc.1

/-- The call was the last that wrote to the label. -/
def LastWrite (label : List UInt8) (c : ProvisionCall)
    (hist : List (Entry PkiStores ProvisionCall PkiStatus)) : Prop :=
  Since (fun e => e.inp = c ∧ label ∈ c.labels) (fun e => label ∉ e.inp.labels) hist

variable {st₀ : PkiStores} {hist : List (Entry PkiStores ProvisionCall PkiStatus)}

/-- **Every run** of calls that are repeatable succeeds, and a label reads as it was last written. -/
theorem repeatable_run (hlink : link.Documented) (h : Exec (provisioner link) st₀ hist st)
    (hrep : ∀ e ∈ hist, e.inp.Assumed link ∧ e.inp.Repeatable link e.pre) :
    (∀ e ∈ hist, e.out = .success) ∧ ∀ label c, LastWrite label c hist → ReadsAs link st label c := by
  induction h with
  | nil =>
    refine ⟨by simp, fun label c ⟨a, e, b, he, _⟩ => ?_⟩
    simp at he
  | @snoc tr st st' c' status _ hs ih =>
    obtain ⟨hout, hread⟩ := ih fun e he => hrep e (List.mem_append_left _ he)
    obtain ⟨hc, hr⟩ := hrep ⟨st, c', status, st'⟩ (by simp)
    obtain ⟨st'', hstep, hnew⟩ := (rewrites_iff hlink hc).2 hr
    obtain ⟨rfl, rfl⟩ := Prod.mk.inj (Option.some.inj (hstep.symm.trans hs))
    refine ⟨fun e he => ?_, fun label c hlast => ?_⟩
    · obtain he | he := List.mem_append.1 he
      · exact hout e he
      · rw [List.mem_singleton.1 he]
    · obtain ⟨rfl, hmem⟩ | ⟨hlast, hother⟩ := since_snoc.1 hlast
      · exact hnew label hmem
      · have hlabel : xPkiObjectFromLabel label ≠ .none := by
          obtain ⟨a, e, b, htr, ⟨rfl, hmem⟩, -⟩ := hlast
          exact (hrep e (by simp [htr])).1.object hmem
        exact (hread label c hlast).same hlabel (provisionStep_frame hlink hc hr hstep hlabel hother)

/-- **Provisioning can be repeated** by the calls that the condition allows and no others, from any content
of the stores; in every run of such calls each label reads as it was last written. -/
theorem provision_repeat_iff (hlink : link.Documented) :
    (∀ st c, c.Assumed link → (Rewrites link st c ↔ c.Repeatable link st)) ∧
    ∀ st₀ hist st, Exec (provisioner link) st₀ hist st →
      (∀ e ∈ hist, e.inp.Assumed link ∧ e.inp.Repeatable link e.pre) →
      (∀ e ∈ hist, e.out = .success) ∧ ∀ label c, LastWrite label c hist → ReadsAs link st label c :=
  ⟨fun _ _ hc => rewrites_iff hlink hc, fun _ _ _ h hrep => repeatable_run hlink h hrep⟩

/-- The second certificate is written where the first was. -/
theorem provision_repeat_certificate :
    Rewrites p256Link (emptyStores.withPs psaTlsCertId deviceCertificate)
      (.xPkiWriteCertificate tlsCertLabel renewedCertificate none) := by
  have ho : xPkiObjectFromLabel tlsCertLabel = .psaPs psaTlsCertId := by decide +kernel
  have hc : (ProvisionCall.xPkiWriteCertificate tlsCertLabel renewedCertificate none).Assumed p256Link := by
    refine ⟨by rw [ho]; exact PkiObject.noConfusion, rfl, renewedCertificate_taken, fun id h => ?_⟩
    rw [ho] at h
    cases h
  refine ((provision_repeat_iff p256Link_documented).1 _ _ hc).2 ?_
  simp only [ProvisionCall.Repeatable, ho]
  exact ⟨⟨by decide, rfl⟩, fun h => absurd h (by decide +kernel)⟩

/-- The public key of the update is not written where one is. -/
theorem provision_repeat_fails :
    (ProvisionCall.xPkiWritePubKey p256Link otaSigningKeyLabel [] deviceContext none).Assumed p256Link ∧
      ¬Rewrites p256Link (emptyStores.withPublicKey otaSigningKeyId deviceContext)
        (.xPkiWritePubKey p256Link otaSigningKeyLabel [] deviceContext none) := by
  have ho : xPkiObjectFromLabel otaSigningKeyLabel = .psaCrypto otaSigningKeyId := by decide +kernel
  have hc : (ProvisionCall.xPkiWritePubKey p256Link otaSigningKeyLabel [] deviceContext none).Assumed
      p256Link := by
    refine ⟨by rw [ho]; exact PkiObject.noConfusion, rfl, rfl, pointContext_documented _ _, ?_, ?_⟩
    · decide +kernel
    · exact fun h => absurd (congrArg List.length h) (by decide +kernel)
  refine ⟨hc, fun h => ?_⟩
  have hrep := (rewrites_iff p256Link_documented hc).1 h
  simp only [ProvisionCall.Repeatable, ho] at hrep
  have hslot : (emptyStores.withPublicKey otaSigningKeyId deviceContext).keys otaSigningKeyId ≠ none := by
    simp [PkiStores.withPublicKey]
  exact hslot hrep.1

end Crypto
