import TrustZone.Crypto.PkiObject
import TrustZone.Crypto.Proof.PkiObjectPsa

/-!
# What is written under a label is read back

`PubKeyRoundTrip`, `CertRoundTrip` and `PrivateKeyReads` say of an object what a reader of the dispatch
functions expects: what was written is read, from the store it was written to. `PubKeyKept`, `CertKept`
and `PrivateKeyKept` are what it takes; `pki_round_trip` proves that it takes exactly this.

An object of protected storage has no public key, unless internal trusted storage holds the same
bytes, and no private key; a key of the crypto service is one on secp192r1 or secp256r1.
-/

namespace Crypto

open Lib Psa

/-! ## What is expected -/

/-- mbedTLS as it is documented: a private key is not of no length. -/
structure PkiLink.Documented (link : PkiLink) : Prop where
  pki : link.pki.Documented
  emptyKey : link.pkParseKey (some []) ≠ 0

/-- The point fits the buffer it is written to. -/
def PkContext.Documented (pk : PkContext) : Prop :=
  ∀ n, (pk.pointWriteBinary n).1 = 0 → (pk.pointWriteBinary n).2.length ≤ n

/-- The DER of a certificate. -/
structure PkiLink.Certificate (link : PkiLink) (raw : List UInt8) : Prop where
  ne : raw ≠ []
  parses : link.x509CrtParseDer (some raw) = (0, some raw)

/-- The point of a key context. -/
def PkContext.point (pk : PkContext) : List UInt8 := (pk.pointWriteBinary (pointSize pk)).2

/-- The `SubjectPublicKeyInfo` of a key context, when its curve has an identifier. -/
def PkContext.spki (pk : PkContext) (link : PkiLink) : Option (List UInt8) :=
  (keyAlgorithmInfo link.pki (publicKeyAttributes pk)).map
    fun info => subjectPublicKeyInfo info.1 info.2 pk.point

/-- The object is read as the public key that was written. -/
def ReadsPublicKey (link : PkiLink) (st : PkiStores) (pubKeyDer : List UInt8) (pk : PkContext) :
    PkiObject → Prop
  | .psaCrypto id => ∃ spki buf, pk.spki link = some spki ∧
    xPkiReadPublicKeyDer link st (.psaCrypto id) = some (.success, some buf, spki.length) ∧
    buf.take spki.length = spki
  | o => xPkiReadPublicKeyDer link st o = some (.success, some pubKeyDer, pubKeyDer.length)

/-- A public key that is written is read back. -/
def PubKeyRoundTrip (link : PkiLink) (st : PkiStores) (o : PkiObject) (pubKeyDer : List UInt8)
    (pk : PkContext) (fault : Option PsaError) : Prop :=
  ∀ st', writePubKey link st o pubKeyDer pk fault = some (st', .success) →
    ReadsPublicKey link st' pubKeyDer pk o

/-- A certificate that is written is read back. -/
def CertRoundTrip (link : PkiLink) (st : PkiStores) (o : PkiObject) (raw : List UInt8)
    (fault : Option PsaError) : Prop :=
  ∀ st', writeCertificate st o raw fault = some (st', .success) →
    xPkiReadCertificate link st' o = some (.success, some raw)

/-- A private key of a storage is read when its blob can be read and parsed. -/
def PrivateKeyReads (link : PkiLink) (st : PkiStores) : PkiObject → Prop
  | .psaIts uid => ∀ blob, lReadObjectFromPsaIts link st uid = some (0, some blob) →
    link.pkParseKey (some blob) = 0 → xPkiReadPrivateKey link st (.psaIts uid) = some .success
  | .psaPs uid => ∀ blob, lReadObjectFromPsaPs link st uid = some (0, some blob) →
    link.pkParseKey (some blob) = 0 → xPkiReadPrivateKey link st (.psaPs uid) = some .success
  | _ => True

/-! ## What it takes -/

/-- The object of a storage can be read: its id is not zero, and there is memory for it. -/
def Readable (link : PkiLink) (uid : Nat) (blob : List UInt8) : Prop :=
  0 < uid ∧ link.pki.calloc blob.length = true

/-- The public key can be imported under the id. -/
structure Imports (link : PkiLink) (st : PkiStores) (id : Nat) (pk : PkContext)
    (fault : Option PsaError) : Prop where
  handle : id ≠ 0
  type : pk.type = .eckey
  malloc : link.pki.calloc (pointSize pk) = true
  written : (pk.pointWriteBinary (pointSize pk)).1 = 0
  point : pk.point ≠ []
  fault : fault = none
  free : st.keys id = none

/-- The key is on one of the two curves that can be read. -/
def OnReadCurve (link : PkiLink) (pk : PkContext) : Prop :=
  xPsaFamilyFromMbedtlsEccGroupId pk.grpId = psaEccFamilySecpR1 ∧ (pk.bitlen = 192 ∨ pk.bitlen = 256) ∧
    link.pki.eccEnabled psaEccFamilySecpR1 pk.bitlen = true

/-- **The condition** for a public key. -/
def PubKeyKept (link : PkiLink) (st : PkiStores) (o : PkiObject) (pubKeyDer : List UInt8)
    (pk : PkContext) (fault : Option PsaError) : Prop :=
  match o with
  | .psaCrypto id => Imports link st id pk fault →
    OnReadCurve link pk ∧ link.pki.calloc (ecpPubDerMaxBytes link.pki) = true
  | .psaIts uid => fault = none → Readable link uid pubKeyDer
  | .psaPs uid => fault = none → Readable link uid pubKeyDer ∧ st.its uid = some pubKeyDer
  | _ => True

/-- The blob is not taken for PEM, or parses as PEM to the same certificate. -/
def ParsesBack (link : PkiLink) (raw : List UInt8) : Prop :=
  looksPem raw = true → PkiStatus.of (link.x509CrtParse (some raw)) = (.success, some raw)

/-- **The condition** for a certificate. -/
def CertKept (link : PkiLink) (st : PkiStores) (o : PkiObject) (raw : List UInt8)
    (fault : Option PsaError) : Prop :=
  match o with
  | .psaCrypto id => psaKeyIdUserMin ≤ id ∧ id ≤ psaKeyIdVendorMax → fault = none →
    st.keys id = none → 8 * raw.length ≤ psaMaxKeyBits → link.pki.calloc raw.length = true
  | .psaIts uid => fault = none → Readable link uid raw ∧ ParsesBack link raw
  | .psaPs uid => fault = none → Readable link uid raw ∧ ParsesBack link raw
  | _ => True

/-- **The condition** for a private key. -/
def PrivateKeyKept (link : PkiLink) (st : PkiStores) : PkiObject → Prop
  | .psaPs uid => ∀ blob, st.ps uid = some blob → Readable link uid blob →
    link.pkParseKey (some blob) ≠ 0
  | _ => True

variable {link : PkiLink} {st st' : PkiStores}

/-! ## The storages -/

theorem translate_success : mbedtlsPsaErrTranslatePk psaSuccess = 0 := rfl

/-- A status that is no success is told as an error. -/
theorem translate_error {st : Status} (h : st ≠ psaSuccess) :
    mbedtlsPsaErrTranslatePk st ≠ 0 ∧
      xPrvMbedtlsErrToPkiStatus (mbedtlsPsaErrTranslatePk st) ≠ .success := by
  unfold mbedtlsPsaErrTranslatePk
  rw [if_neg h]
  split_ifs <;> decide

theorem pkiStatus_translate (st : Status) :
    xPrvMbedtlsErrToPkiStatus (mbedtlsPsaErrTranslatePk st) = .success ↔ st = psaSuccess := by
  constructor
  · intro hs
    by_contra h
    exact (translate_error h).2 hs
  · rintro rfl
    rfl

/-- An object is read, or the read fails. -/
theorem readObject_cases (link : PkiLink) (store : Nat → Option (List UInt8)) (uid : Nat) :
    (∃ blob, store uid = some blob ∧ Readable link uid blob ∧
      readObject link store uid = some (0, some blob)) ∨
    (∀ blob, store uid = some blob → ¬Readable link uid blob) ∧
      (readObject link store uid = none ∨ ∃ e, e ≠ 0 ∧ xPrvMbedtlsErrToPkiStatus e ≠ .success ∧
        readObject link store uid = some (e, none)) := by
  unfold readObject Readable
  by_cases hu : 0 < uid
  · cases hs : store uid with
    | none =>
      have he := translate_error (show psaErrorDoesNotExist ≠ psaSuccess by decide)
      exact .inr ⟨by simp, .inr ⟨_, he.1, he.2, by simp [hu]⟩⟩
    | some data =>
      by_cases hc : link.pki.calloc data.length = true
      · exact .inl ⟨data, rfl, ⟨hu, hc⟩, by simp [hu, hc, translate_success]⟩
      · have he := translate_error (show psaErrorInsufficientMemory ≠ psaSuccess by decide)
        exact .inr ⟨by simp [hc], .inr ⟨_, he.1, he.2, by simp [hu, hc]⟩⟩
  · exact .inr ⟨by simp [hu], .inl (by simp [hu])⟩

theorem readObject_success {store : Nat → Option (List UInt8)} {uid : Nat} {blob : List UInt8} :
    readObject link store uid = some (0, some blob) ↔
      store uid = some blob ∧ Readable link uid blob := by
  obtain ⟨data, hs, hr, h⟩ | ⟨hno, h⟩ := readObject_cases link store uid
  · rw [h, hs]
    constructor
    · intro heq
      obtain rfl : data = blob := by simpa using heq
      exact ⟨rfl, hr⟩
    · intro ⟨heq, _⟩
      obtain rfl := Option.some.inj heq
      rfl
  · refine iff_of_false ?_ fun ⟨hs, hr⟩ => hno blob hs hr
    obtain h | ⟨e, he, -, h⟩ := h
    · simp [h]
    · simp [h]

/-- A public key is read as the object. -/
theorem readPublicBlob_success {store : Nat → Option (List UInt8)} {uid : Nat} {der : List UInt8} :
    (readObject link store uid).map readPublicBlob = some (.success, some der, der.length) ↔
      store uid = some der ∧ Readable link uid der := by
  rw [← readObject_success]
  obtain ⟨data, -, -, h⟩ | ⟨-, h | ⟨e, he, hst, h⟩⟩ := readObject_cases link store uid
  · rw [h]
    constructor
    · intro heq
      obtain ⟨rfl, -⟩ : data = der ∧ data.length = der.length := by
        simpa [readPublicBlob, xPrvMbedtlsErrToPkiStatus] using heq
      rfl
    · intro heq
      obtain rfl : data = der := by simpa using heq
      rfl
  · simp [h]
  · simp [h, readPublicBlob]

/-- A certificate is read as the object parses. -/
theorem readCertificate_success {store : Nat → Option (List UInt8)} {uid : Nat} {raw : List UInt8}
    (hs : store uid = some raw) (hcert : link.Certificate raw) :
    (readCertificate link store uid).map PkiStatus.of = some (.success, some raw) ↔
      Readable link uid raw ∧ ParsesBack link raw := by
  unfold readCertificate ParsesBack
  obtain ⟨data, hd, hr, h⟩ | ⟨hno, h | ⟨e, he, hst, h⟩⟩ := readObject_cases link store uid
  · obtain rfl := Option.some.inj (hs.symm.trans hd)
    simp only [h, if_true, Option.getD_some, Option.map_some, Option.some.injEq, hr, true_and]
    by_cases hp : looksPem raw = true
    · simp [hp]
    · simp [hp, hcert.parses, PkiStatus.of, xPrvMbedtlsErrToPkiStatus]
  · simp [h, hno raw hs]
  · simp [h, he, hno raw hs, PkiStatus.of]

/-- A private key is read when its blob is and parses. -/
theorem readPrivateBlob_success {store : Nat → Option (List UInt8)} {uid : Nat} {blob : List UInt8}
    (hlink : link.Documented) (hread : readObject link store uid = some (0, some blob))
    (hparse : link.pkParseKey (some blob) = 0) :
    readPrivateBlob link (readObject link store uid) = some .success := by
  have hne : blob ≠ [] := by
    rintro rfl
    exact hlink.emptyKey hparse
  simp [hread, readPrivateBlob, hparse, hne, xPrvMbedtlsErrToPkiStatus]

/-! ### What is written -/

theorem written_success {s : PkiStores} {xStatus : Status} :
    PkiStatus.written (s, mbedtlsPsaErrTranslatePk xStatus) = (st', .success) ↔
      s = st' ∧ xStatus = psaSuccess := by
  rw [PkiStatus.written, Prod.mk.injEq, pkiStatus_translate]

theorem writeIts_success {uid : Nat} {data : List UInt8} {fault : Option PsaError} :
    PkiStatus.written (lWriteObjectToPsaIts st uid data fault) = (st', .success) ↔
      fault = none ∧ { st with its := Function.update st.its uid (some data) } = st' := by
  unfold lWriteObjectToPsaIts PkiStores.itsSet
  cases fault with
  | none => simp only [written_success, and_true, true_and]
  | some e => simp only [written_success, e.2, and_false, reduceCtorEq, false_and]

theorem writePs_success {uid : Nat} {data : List UInt8} {fault : Option PsaError} :
    PkiStatus.written (lWriteObjectToPsaPs st uid data fault) = (st', .success) ↔
      fault = none ∧ { st with ps := Function.update st.ps uid (some data) } = st' := by
  unfold lWriteObjectToPsaPs PkiStores.psSet
  cases fault with
  | none => simp only [written_success, and_true, true_and]
  | some e => simp only [written_success, e.2, and_false, reduceCtorEq, false_and]

/-! ### Round trips -/

variable {o : PkiObject} {uid id : Nat} {pubKeyDer raw : List UInt8} {pk : PkContext}
  {fault : Option PsaError}

theorem pubKey_its : PubKeyRoundTrip link st (.psaIts uid) pubKeyDer pk fault ↔
    PubKeyKept link st (.psaIts uid) pubKeyDer pk fault := by
  unfold PubKeyRoundTrip PubKeyKept writePubKey ReadsPublicKey xPkiReadPublicKeyDer
  simp only [Option.some.injEq, writeIts_success, and_imp, lReadObjectFromPsaIts,
    readPublicBlob_success]
  constructor
  · intro h hf
    exact (h _ hf rfl).2
  · intro h st' hf hst
    rw [← hst]
    exact ⟨Function.update_self uid (some pubKeyDer) st.its, h hf⟩

/-- A public key of protected storage is read from internal trusted storage. -/
theorem pubKey_ps : PubKeyRoundTrip link st (.psaPs uid) pubKeyDer pk fault ↔
    PubKeyKept link st (.psaPs uid) pubKeyDer pk fault := by
  unfold PubKeyRoundTrip PubKeyKept writePubKey ReadsPublicKey xPkiReadPublicKeyDer
  simp only [Option.some.injEq, writePs_success, and_imp, lReadObjectFromPsaIts,
    readPublicBlob_success]
  constructor
  · intro h hf
    exact (h _ hf rfl).symm
  · intro h st' hf hst
    rw [← hst]
    exact (h hf).symm

theorem cert_its (hcert : link.Certificate raw) :
    CertRoundTrip link st (.psaIts uid) raw fault ↔ CertKept link st (.psaIts uid) raw fault := by
  have hlen : raw.length ≠ 0 := by simpa using hcert.ne
  unfold CertRoundTrip CertKept writeCertificate xPkiReadCertificate lWriteCertificateToPsaIts
    lReadCertificateFromPsaIts
  simp only [hlen, if_false, Option.some.injEq, writeIts_success, and_imp]
  have hread := readCertificate_success
    (Function.update_self uid (some raw) st.its) hcert
  constructor
  · intro h hf
    exact hread.1 (h _ hf rfl)
  · intro h st' hf hst
    rw [← hst]
    exact hread.2 (h hf)

/-- A certificate is written to protected storage. -/
theorem writeCertificate_ps (hraw : raw.length ≠ 0) : writeCertificate st (.psaPs uid) raw none =
    some ({ st with ps := Function.update st.ps uid (some raw) }, .success) := by
  show some (PkiStatus.written (lWriteCertificateToPsaPS st uid raw none)) = _
  rw [lWriteCertificateToPsaPS, if_neg hraw]
  exact congrArg some (writePs_success.2 ⟨rfl, rfl⟩)

theorem cert_ps (hcert : link.Certificate raw) :
    CertRoundTrip link st (.psaPs uid) raw fault ↔ CertKept link st (.psaPs uid) raw fault := by
  have hlen : raw.length ≠ 0 := by simpa using hcert.ne
  unfold CertRoundTrip CertKept writeCertificate xPkiReadCertificate lWriteCertificateToPsaPS
    lReadCertificateFromPsaPS
  simp only [hlen, if_false, Option.some.injEq, writePs_success, and_imp]
  have hread := readCertificate_success
    (Function.update_self uid (some raw) st.ps) hcert
  constructor
  · intro h hf
    exact hread.1 (h _ hf rfl)
  · intro h st' hf hst
    rw [← hst]
    exact hread.2 (h hf)

/-- A private key of protected storage is never read. -/
theorem xPkiReadPrivateKey_ps : xPkiReadPrivateKey link st (.psaPs uid) ≠ some .success := by
  unfold xPkiReadPrivateKey
  cases readPrivateBlob link (lReadObjectFromPsaPs link st uid) with
  | none => simp
  | some status => simp

theorem privateKey_iff (hlink : link.Documented) (o : PkiObject) :
    PrivateKeyReads link st o ↔ PrivateKeyKept link st o := by
  cases o with
  | psaIts uid =>
    refine iff_of_true ?_ trivial
    intro blob hread hparse
    exact readPrivateBlob_success hlink hread hparse
  | psaPs uid =>
    unfold PrivateKeyReads PrivateKeyKept
    simp only [lReadObjectFromPsaPs, readObject_success, xPkiReadPrivateKey_ps, imp_false, and_imp]
  | _ => exact Iff.rfl

/-! ## Keys of the crypto service -/

/-- The type of an ECC public key of a family. -/
structure EccPublicKeyType (type : KeyType) (family : EccFamily) : Prop where
  isEcc : psaKeyTypeIsEcc type = true
  isPublicKey : psaKeyTypeIsPublicKey type = true
  notRsa : psaKeyTypeIsRsa type = false
  structured : psaKeyTypeIsUnstructured type = false
  family : psaKeyTypeEccGetFamily type = family

theorem eccPublicKeyType (grpId : EcpGroupId) :
    EccPublicKeyType
      (psaKeyTypeEccPublicKeyBase ||| (xPsaFamilyFromMbedtlsEccGroupId grpId).setWidth 16)
      (xPsaFamilyFromMbedtlsEccGroupId grpId) := by
  cases grpId <;> constructor <;> decide

theorem publicKeyAttributes_type (pk : PkContext) :
    EccPublicKeyType (publicKeyAttributes pk).type (xPsaFamilyFromMbedtlsEccGroupId pk.grpId) :=
  eccPublicKeyType pk.grpId

theorem psaSetKeyBits_toNat (bits : Nat) :
    (psaSetKeyBits bits).toNat = if psaMaxKeyBits < bits then 65535 else bits := by
  unfold psaSetKeyBits psaMaxKeyBits
  split_ifs with h
  · rfl
  · exact Nat.mod_eq_of_lt (by omega)

/-- What a key is imported for: no fault, a free id, and data that fits the attributes. -/
theorem importKey_success {attrs : KeyAttributes} {data : List UInt8} :
    st.importKey id attrs data fault = (st', psaSuccess) ↔
      (fault = none ∧ st.keys id = none ∧ data ≠ [] ∧
        (psaKeyTypeIsUnstructured attrs.type = true → attrs.bits.toNat = 8 * data.length)) ∧
      { st with keys := Function.update st.keys id (some ⟨attrs, data, data⟩) } = st' := by
  unfold PkiStores.importKey
  cases fault with
  | some e => simp [e.2]
  | none =>
    dsimp only
    have hexists : psaErrorAlreadyExists ≠ psaSuccess := by decide
    have hinvalid : psaErrorInvalidArgument ≠ psaSuccess := by decide
    split_ifs with hfree hne hbits
    · simp [hexists, hfree]
    · simp [hinvalid, hne]
    · simp [hinvalid, hbits]
    · have hfits : psaKeyTypeIsUnstructured attrs.type = true →
          attrs.bits.toNat = 8 * data.length := by
        intro h
        by_contra hn
        exact hbits ⟨h, hn⟩
      rw [Prod.mk.injEq, and_iff_left rfl]
      constructor
      · intro heq
        exact ⟨⟨rfl, Decidable.not_not.1 hfree, hne, hfits⟩, heq⟩
      · intro h
        exact h.2

/-- The stores with the public key under the id. -/
def PkiStores.withPublicKey (st : PkiStores) (id : Nat) (pk : PkContext) : PkiStores :=
  { st with
    keys := Function.update st.keys id (some ⟨publicKeyAttributes pk, pk.point, pk.point⟩) }

theorem written_import {attrs : KeyAttributes} {data : List UInt8} :
    PkiStatus.written ((st.importKey id attrs data fault).1,
        mbedtlsPsaErrTranslatePk (st.importKey id attrs data fault).2) = (st', .success) ↔
      st.importKey id attrs data fault = (st', psaSuccess) := by
  rw [written_success, ← Prod.mk.injEq]

theorem writePubKey_psaCrypto :
    writePubKey link st (.psaCrypto id) pubKeyDer pk fault = some (st', .success) ↔
      Imports link st id pk fault ∧ st.withPublicKey id pk = st' := by
  have htype := publicKeyAttributes_type pk
  have hmem : psaErrorInsufficientMemory ≠ psaSuccess := by decide
  have hgen : psaErrorGenericError ≠ psaSuccess := by decide
  have hsup : psaErrorNotSupported ≠ psaSuccess := by decide
  unfold writePubKey lWritePublicKeyToPSACrypto
  dsimp only
  split_ifs with hid hkey hmalloc hw
  · exact iff_of_false (by simp) fun h => h.1.handle hid
  · simp only [Option.map_some, Option.some.injEq, written_success, hgen, and_false, false_iff]
    exact fun h => hw h.1.written
  · simp only [Option.map_some, Option.some.injEq, written_import, importKey_success]
    constructor
    · intro ⟨⟨hf, hfree, hne, _⟩, heq⟩
      exact ⟨⟨hid, hkey, hmalloc, Decidable.not_not.1 hw, hne, hf, hfree⟩, heq⟩
    · intro ⟨h, heq⟩
      refine ⟨⟨h.fault, h.free, h.point, fun hraw => ?_⟩, heq⟩
      rw [htype.structured] at hraw
      cases hraw
  · simp only [Option.map_some, Option.some.injEq, written_success, hmem, and_false, false_iff]
    exact fun h => hmalloc h.1.malloc
  · simp only [Option.map_some, Option.some.injEq, written_success, hsup, and_false, false_iff]
    exact fun h => hkey h.1.type

theorem pkiReadEnv_documented (hlink : link.Documented) (st : PkiStores) (id : Nat) :
    (pkiReadEnv link st id).Documented :=
  ⟨hlink.pki.asn1, hlink.pki.eckey, hlink.pki.rsa, hlink.pki.ecp, hlink.pki.ecpSize,
    hlink.pki.mpiSize⟩

/-- Only a call that succeeds leaves a buffer. -/
theorem xReadPublicKey_buffer {env : PkiEnv} {xStatus : Status} {buf : List UInt8} {n : Nat}
    (h : xReadPublicKeyFromPSACrypto env = some (xStatus, some buf, n)) : xStatus = psaSuccess := by
  unfold xReadPublicKeyFromPSACrypto at h
  dsimp only at h
  repeat' split at h
  all_goals simp_all

/-- The dispatch tells what the read delivers. -/
theorem readsPublicKey_psaCrypto :
    ReadsPublicKey link st pubKeyDer pk (.psaCrypto id) ↔
      ∃ spki, pk.spki link = some spki ∧ Delivers (pkiReadEnv link st id) spki := by
  unfold ReadsPublicKey Delivers xPkiReadPublicKeyDer
  constructor
  · intro ⟨spki, buf, hspki, hread, htake⟩
    obtain ⟨⟨xStatus, der, n⟩, hr, heq⟩ := Option.map_eq_some_iff.1 hread
    obtain ⟨-, rfl, rfl⟩ : _ ∧ der = some buf ∧ n = spki.length := by
      simpa [PkiStatus.of] using heq
    obtain rfl := xReadPublicKey_buffer hr
    exact ⟨spki, hspki, buf, hr, htake⟩
  · intro ⟨spki, hspki, buf, hr, htake⟩
    refine ⟨spki, buf, hspki, ?_, htake⟩
    show (xReadPublicKeyFromPSACrypto _).map PkiStatus.of = _
    rw [hr]
    rfl

/-- The public key of the store. -/
theorem publicKeyOf_withPublicKey (hlink : link.Documented) (hpk : pk.Documented)
    (hw : (pk.pointWriteBinary (pointSize pk)).1 = 0) {alg params : List UInt8}
    (hinfo : keyAlgorithmInfo link.pki (publicKeyAttributes pk) = some (alg, params)) :
    PublicKeyOf (pkiReadEnv link (st.withPublicKey id pk) id) (publicKeyAttributes pk) alg params
      pk.point := by
  have htype := publicKeyAttributes_type pk
  have hkey : (st.withPublicKey id pk).keys id =
      some ⟨publicKeyAttributes pk, pk.point, pk.point⟩ := Function.update_self id _ st.keys
  have hpoint : pk.point.length ≤ pointSize pk := hpk _ hw
  refine ⟨?_, hinfo, ?_, ?_, ?_⟩
  · simp only [pkiReadEnv, hkey]
  · intro hrsa
    rw [htype.notRsa] at hrsa
    cases hrsa
  · -- the buffer has room for the largest curve
    intro size hsize
    obtain rfl : ecpPubDerMaxBytes link.pki = size := by
      simpa [pubKeyDerLen, htype.isEcc, ecpPubDerMaxBytes, pkiReadEnv] using hsize
    unfold keyAlgorithmInfo at hinfo
    rw [if_pos htype.isEcc] at hinfo
    split at hinfo
    · rename_i oid hoid
      obtain ⟨hen, -⟩ := mbedtlsPsaGetEccOidFromId_mem hoid
      have hecp := hlink.pki.ecp _ _ hen
      have hfit : pk.point.length ≤ ecpPubDerMaxBytes link.pki := by
        unfold pointSize at hpoint
        unfold ecpPubDerMaxBytes
        omega
      simp only [exportPublic, htype.isPublicKey, if_true, pkiReadEnv, hkey, exportInto, hfit]
    · cases hinfo
  · rw [psaExportPublicKeyOutputSize, if_neg (by simp [htype.notRsa]), if_pos htype.isEcc]
    exact hpoint

theorem publicKeyAttributes_bitlen (h : pk.bitlen ≤ psaMaxKeyBits) :
    (publicKeyAttributes pk).bits.toNat = pk.bitlen :=
  (psaSetKeyBits_toNat pk.bitlen).trans (if_neg (by omega))

/-- The attributes tell the size of a curve that can be read. -/
theorem publicKeyAttributes_bits :
    ((publicKeyAttributes pk).bits.toNat = 192 ∨ (publicKeyAttributes pk).bits.toNat = 256) ↔
      pk.bitlen = 192 ∨ pk.bitlen = 256 := by
  have hbits : (publicKeyAttributes pk).bits.toNat =
      if psaMaxKeyBits < pk.bitlen then 65535 else pk.bitlen := psaSetKeyBits_toNat pk.bitlen
  rw [hbits]
  unfold psaMaxKeyBits
  split_ifs with h
  · constructor <;> omega
  · exact Iff.rfl

/-- The algorithm of a public key. -/
theorem keyAlgorithmInfo_publicKey {alg params : List UInt8} :
    keyAlgorithmInfo link.pki (publicKeyAttributes pk) = some (alg, params) ↔
      ∃ oid, mbedtlsPsaGetEccOidFromId link.pki.eccEnabled
        (xPsaFamilyFromMbedtlsEccGroupId pk.grpId) (publicKeyAttributes pk).bits.toNat =
          (0, some oid) ∧ alg = oidEcPublicKey ∧ params = Der.oid oid := by
  have htype := publicKeyAttributes_type pk
  unfold keyAlgorithmInfo
  rw [if_pos htype.isEcc, htype.family]
  split
  · rename_i oid hoid
    rw [hoid]
    constructor
    · intro h
      obtain ⟨rfl, rfl⟩ := Prod.mk.inj (Option.some.inj h)
      exact ⟨oid, rfl, rfl, rfl⟩
    · intro ⟨oid', heq, halg, hparams⟩
      obtain rfl : oid = oid' := by simpa using heq
      rw [halg, hparams]
  · rename_i hno
    refine iff_of_false (by simp) ?_
    intro ⟨oid, hoid, _, _⟩
    exact hno oid hoid

/-- The two curves have identifiers. -/
theorem onReadCurve_info (h : OnReadCurve link pk) :
    ∃ params, keyAlgorithmInfo link.pki (publicKeyAttributes pk) =
      some (oidEcPublicKey, params) := by
  obtain ⟨hfam, hbits, hen⟩ := h
  have hattr := publicKeyAttributes_bitlen (show pk.bitlen ≤ psaMaxKeyBits by
    unfold psaMaxKeyBits; omega)
  obtain ⟨oid, hoid⟩ : ∃ oid, eccOids.lookup (psaEccFamilySecpR1, pk.bitlen) = some oid := by
    obtain hb | hb := hbits
    · rw [hb]
      exact ⟨oidSecp192r1, by decide⟩
    · rw [hb]
      exact ⟨oidSecp256r1, by decide⟩
  refine ⟨Der.oid oid, keyAlgorithmInfo_publicKey.2 ⟨oid, ?_, rfl, rfl⟩⟩
  unfold mbedtlsPsaGetEccOidFromId
  simp only [hfam, hattr, hoid, hen, if_true]

/-- **A public key of the crypto service** is read exactly on the two curves, with memory for it. -/
theorem readsPublicKey_iff (hlink : link.Documented) (hpk : pk.Documented)
    (hw : (pk.pointWriteBinary (pointSize pk)).1 = 0) :
    ReadsPublicKey link (st.withPublicKey id pk) pubKeyDer pk (.psaCrypto id) ↔
      OnReadCurve link pk ∧ link.pki.calloc (ecpPubDerMaxBytes link.pki) = true := by
  have htype := publicKeyAttributes_type pk
  have hsize : pubKeyDerLen (pkiReadEnv link (st.withPublicKey id pk) id)
      (publicKeyAttributes pk).type = some (ecpPubDerMaxBytes link.pki) := if_pos htype.isEcc
  have hread : ∀ alg params,
      keyAlgorithmInfo link.pki (publicKeyAttributes pk) = some (alg, params) →
      (Delivers (pkiReadEnv link (st.withPublicKey id pk) id)
        (subjectPublicKeyInfo alg params pk.point) ↔ link.pki.calloc (ecpPubDerMaxBytes link.pki) ∧
          xPsaFamilyFromMbedtlsEccGroupId pk.grpId = psaEccFamilySecpR1 ∧
            (pk.bitlen = 192 ∨ pk.bitlen = 256)) := by
    intro alg params hinfo
    rw [xReadPublicKey_correct_iff (pkiReadEnv_documented hlink _ _)
      (publicKeyOf_withPublicKey hlink hpk hw hinfo) hsize, htype.notRsa, htype.family,
      publicKeyAttributes_bits]
    simp only [Bool.false_eq_true, false_or]
    exact Iff.rfl
  rw [readsPublicKey_psaCrypto]
  constructor
  · intro ⟨spki, hspki, hdel⟩
    obtain ⟨⟨alg, params⟩, hinfo, rfl⟩ := Option.map_eq_some_iff.1 hspki
    obtain ⟨hcalloc, hfam, hbits⟩ := (hread alg params hinfo).1 hdel
    obtain ⟨oid, hoid, -, -⟩ := keyAlgorithmInfo_publicKey.1 hinfo
    obtain ⟨hen, -⟩ := mbedtlsPsaGetEccOidFromId_mem hoid
    have hattr := publicKeyAttributes_bitlen (show pk.bitlen ≤ psaMaxKeyBits by
      unfold psaMaxKeyBits; omega)
    rw [hfam, hattr] at hen
    exact ⟨⟨hfam, hbits, hen⟩, hcalloc⟩
  · intro ⟨hcurve, hcalloc⟩
    obtain ⟨params, hinfo⟩ := onReadCurve_info hcurve
    refine ⟨_, ?_, (hread _ params hinfo).2 ⟨hcalloc, hcurve.1, hcurve.2.1⟩⟩
    unfold PkContext.spki
    rw [hinfo]
    rfl

theorem pubKey_psaCrypto (hlink : link.Documented) (hpk : pk.Documented) :
    PubKeyRoundTrip link st (.psaCrypto id) pubKeyDer pk fault ↔
      PubKeyKept link st (.psaCrypto id) pubKeyDer pk fault := by
  unfold PubKeyRoundTrip PubKeyKept
  simp only [writePubKey_psaCrypto]
  constructor
  · intro h himp
    exact (readsPublicKey_iff hlink hpk himp.written).1 (h _ ⟨himp, rfl⟩)
  · intro h st' ⟨himp, heq⟩
    rw [← heq]
    exact (readsPublicKey_iff hlink hpk himp.written).2 (h himp)

/-! ### Certificates -/

theorem rawDataType : psaKeyTypeIsUnstructured psaKeyTypeRawData = true := by decide

/-- The stores with the certificate under the id. -/
def PkiStores.withCertificate (st : PkiStores) (id : Nat) (raw : List UInt8) : PkiStores :=
  { st with
    keys := Function.update st.keys id
      (some ⟨⟨psaKeyTypeRawData, psaSetKeyBits (8 * raw.length)⟩, raw, raw⟩) }

theorem writeCertificate_psaCrypto (hne : raw ≠ []) :
    writeCertificate st (.psaCrypto id) raw fault = some (st', .success) ↔
      ((psaKeyIdUserMin ≤ id ∧ id ≤ psaKeyIdVendorMax) ∧ fault = none ∧ st.keys id = none ∧
        8 * raw.length ≤ psaMaxKeyBits) ∧ st.withCertificate id raw = st' := by
  have hbits : (psaSetKeyBits (8 * raw.length)).toNat = 8 * raw.length ↔
      8 * raw.length ≤ psaMaxKeyBits := by
    rw [psaSetKeyBits_toNat]
    split_ifs with h
    · constructor <;> omega
    · simp only [true_iff]
      omega
  unfold writeCertificate lWriteCertificateToPSACrypto
  dsimp only
  split_ifs with hid
  · simp only [Option.map_some, Option.some.injEq, written_import, importKey_success, rawDataType,
      hbits, hne, hid, ne_eq, not_false_eq_true, forall_const, true_and, and_self]
    exact Iff.rfl
  · simp [hid]

/-- A certificate of the crypto service is exported into a buffer of its size. -/
theorem readCertificate_psaCrypto (hcert : link.Certificate raw)
    (hid : psaKeyIdUserMin ≤ id ∧ id ≤ psaKeyIdVendorMax) (hlen : 8 * raw.length ≤ psaMaxKeyBits) :
    xPkiReadCertificate link (st.withCertificate id raw) (.psaCrypto id) =
      some (.success, some raw) ↔ link.pki.calloc raw.length = true := by
  have hkey : (st.withCertificate id raw).keys id =
      some ⟨⟨psaKeyTypeRawData, psaSetKeyBits (8 * raw.length)⟩, raw, raw⟩ :=
    Function.update_self id _ st.keys
  have hbits : ((psaSetKeyBits (8 * raw.length)).toNat + 7) / 8 = raw.length := by
    rw [psaSetKeyBits_toNat, if_neg (by omega)]
    omega
  have hzero : xPrvMbedtlsErrToPkiStatus (mbedtlsPsaErrTranslatePk 0) = .success := rfl
  unfold xPkiReadCertificate lReadCertificateFromPSACrypto xReadObjectFromPSACrypto
  simp only [hid, and_self, if_true, hkey, rawDataType, hbits, exportInto, le_refl]
  by_cases hcalloc : link.pki.calloc raw.length = true
  · simp [hcalloc, hcert.ne, hcert.parses, PkiStatus.of, hzero]
  · have hmem : psaErrorInsufficientMemory ≠ psaSuccess := by decide
    simp [hcalloc, hmem, PkiStatus.of]

theorem cert_psaCrypto (hcert : link.Certificate raw) :
    CertRoundTrip link st (.psaCrypto id) raw fault ↔
      CertKept link st (.psaCrypto id) raw fault := by
  unfold CertRoundTrip CertKept
  simp only [writeCertificate_psaCrypto hcert.ne]
  constructor
  · intro h hid hfault hfree hlen
    exact (readCertificate_psaCrypto hcert hid hlen).1 (h _ ⟨⟨hid, hfault, hfree, hlen⟩, rfl⟩)
  · intro h st' ⟨⟨hid, hfault, hfree, hlen⟩, heq⟩
    rw [← heq]
    exact (readCertificate_psaCrypto hcert hid hlen).2 (h hid hfault hfree hlen)

/-! ## The law -/

theorem pubKey_iff (hlink : link.Documented) (hpk : pk.Documented) (o : PkiObject) :
    PubKeyRoundTrip link st o pubKeyDer pk fault ↔ PubKeyKept link st o pubKeyDer pk fault := by
  cases o with
  | psaCrypto id => exact pubKey_psaCrypto hlink hpk
  | psaIts uid => exact pubKey_its
  | psaPs uid => exact pubKey_ps
  | _ =>
    refine iff_of_true ?_ trivial
    intro st' h
    cases h

theorem cert_iff (hcert : link.Certificate raw) (o : PkiObject) :
    CertRoundTrip link st o raw fault ↔ CertKept link st o raw fault := by
  cases o with
  | psaCrypto id => exact cert_psaCrypto hcert
  | psaIts uid => exact cert_its hcert
  | psaPs uid => exact cert_ps hcert
  | _ =>
    refine iff_of_true ?_ trivial
    intro st' h
    cases h

/-- **What is written under a label is read back** when the three conditions say so, and only then: for
every label, for every form of object, and for a private key of a storage. -/
theorem pki_round_trip (hlink : link.Documented) (st : PkiStores) :
    (∀ (pcLabel pubKeyDer : List UInt8) (pk : PkContext) (fault : Option PsaError), pk.Documented →
      ((∀ st', xPkiWritePubKey link st pcLabel pubKeyDer pk fault = some (st', .success) →
          ReadsPublicKey link st' pubKeyDer pk (xPkiObjectFromLabel pcLabel)) ↔
        PubKeyKept link st (xPkiObjectFromLabel pcLabel) pubKeyDer pk fault)) ∧
    (∀ (pcLabel raw : List UInt8) (fault : Option PsaError), link.Certificate raw →
      ((∀ st', xPkiWriteCertificate st pcLabel raw fault = some (st', .success) →
          xPkiReadCertificate link st' (xPkiObjectFromLabel pcLabel) = some (.success, some raw)) ↔
        CertKept link st (xPkiObjectFromLabel pcLabel) raw fault)) ∧
    ∀ o : PkiObject,
      (∀ pubKeyDer pk fault, pk.Documented → (PubKeyRoundTrip link st o pubKeyDer pk fault ↔
        PubKeyKept link st o pubKeyDer pk fault)) ∧
      (∀ raw fault, link.Certificate raw →
        (CertRoundTrip link st o raw fault ↔ CertKept link st o raw fault)) ∧
      (PrivateKeyReads link st o ↔ PrivateKeyKept link st o) := by
  refine ⟨?_, ?_, ?_⟩
  · intro pcLabel pubKeyDer pk fault hpk
    exact pubKey_iff hlink hpk (xPkiObjectFromLabel pcLabel)
  · intro pcLabel raw fault hcert
    exact cert_iff hcert (xPkiObjectFromLabel pcLabel)
  · intro o
    refine ⟨?_, ?_, privateKey_iff hlink o⟩
    · intro pubKeyDer pk fault hpk
      exact pubKey_iff hlink hpk o
    · intro raw fault hcert
      exact cert_iff hcert o

/-- The point of a P-256 key. -/
def devicePoint : List UInt8 :=
  [0x04, 0x49, 0x5a, 0x16, 0x8e, 0x93, 0xf8, 0x80, 0x9e, 0x61, 0x7c, 0x3a, 0xf3, 0x9e, 0x8b, 0x03,
   0x05, 0xc8, 0xbf, 0x98, 0xfd, 0x01, 0x56, 0xf0, 0x81, 0xd2, 0x76, 0x62, 0xaf, 0xb2, 0xee, 0xb6,
   0xb2, 0x2a, 0x98, 0x55, 0x9f, 0x26, 0xcf, 0xe3, 0x4a, 0x89, 0x6a, 0x49, 0xcc, 0xf8, 0xc3, 0x5e,
   0xa2, 0xc8, 0x63, 0x3e, 0x5f, 0x5a, 0x17, 0x34, 0xeb, 0xc6, 0xea, 0xde, 0x19, 0x72, 0x5b, 0x68,
   0x5c]

/-- The point of a P-384 key. -/
def longPoint : List UInt8 :=
  [0x04, 0x09, 0x36, 0x83, 0xf5, 0x23, 0x70, 0xbd, 0x27, 0x8f, 0x90, 0x7c, 0x1c, 0x47, 0xce, 0xb3,
   0x68, 0x52, 0x0a, 0xf9, 0xe0, 0xe0, 0xd0, 0xfb, 0xdf, 0x09, 0x7a, 0x6d, 0xca, 0x81, 0xf7, 0xaa,
   0xf7, 0xff, 0x38, 0x0b, 0x94, 0x3c, 0xaf, 0xef, 0x9b, 0x86, 0x44, 0x08, 0x93, 0xf4, 0x29, 0x3b,
   0x6b, 0x78, 0xb3, 0xa8, 0x73, 0xd0, 0xd1, 0x8c, 0x49, 0x95, 0x24, 0x2d, 0x2b, 0x83, 0xa0, 0x96,
   0x0d, 0xf3, 0x06, 0x5b, 0xde, 0xbd, 0x67, 0x5e, 0x6b, 0xa8, 0xb3, 0xb6, 0x41, 0x74, 0xad, 0xab,
   0x8c, 0xa4, 0x06, 0x7d, 0x96, 0x0e, 0x09, 0xb9, 0xe5, 0x17, 0x86, 0x88, 0x52, 0xed, 0xd5, 0x22,
   0x8e]

/-- The `SubjectPublicKeyInfo` of the P-256 key. -/
def devicePublicKey : List UInt8 :=
  [0x30, 0x59, 0x30, 0x13, 0x06, 0x07, 0x2a, 0x86, 0x48, 0xce, 0x3d, 0x02, 0x01, 0x06, 0x08, 0x2a,
   0x86, 0x48, 0xce, 0x3d, 0x03, 0x01, 0x07, 0x03, 0x42, 0x00] ++ devicePoint

/-- The `ECPrivateKey` of the P-256 key. -/
def devicePrivateKey : List UInt8 :=
  [0x30, 0x77, 0x02, 0x01, 0x01, 0x04, 0x20, 0x37, 0x6e, 0x83, 0x0c, 0xda, 0xa1, 0x74, 0x03, 0x1b,
   0x30, 0x3c, 0x00, 0x33, 0xe6, 0x7d, 0xf4, 0xad, 0xda, 0x49, 0x3c, 0x2b, 0xed, 0x11, 0x4f, 0x20,
   0xa7, 0x04, 0xea, 0xce, 0x20, 0x9d, 0x56, 0xa0, 0x0a, 0x06, 0x08, 0x2a, 0x86, 0x48, 0xce, 0x3d,
   0x03, 0x01, 0x07, 0xa1, 0x44, 0x03, 0x42, 0x00, 0x04, 0x49, 0x5a, 0x16, 0x8e, 0x93, 0xf8, 0x80,
   0x9e, 0x61, 0x7c, 0x3a, 0xf3, 0x9e, 0x8b, 0x03, 0x05, 0xc8, 0xbf, 0x98, 0xfd, 0x01, 0x56, 0xf0,
   0x81, 0xd2, 0x76, 0x62, 0xaf, 0xb2, 0xee, 0xb6, 0xb2, 0x2a, 0x98, 0x55, 0x9f, 0x26, 0xcf, 0xe3,
   0x4a, 0x89, 0x6a, 0x49, 0xcc, 0xf8, 0xc3, 0x5e, 0xa2, 0xc8, 0x63, 0x3e, 0x5f, 0x5a, 0x17, 0x34,
   0xeb, 0xc6, 0xea, 0xde, 0x19, 0x72, 0x5b, 0x68, 0x5c]

/-- A certificate that the P-256 key signs for itself. -/
def selfSigned (serial : UInt8) (signature : List UInt8) : List UInt8 :=
  [0x30, 0x82, 0x01, 0x08, 0x30, 0x81, 0xb0, 0x02, 0x01] ++ serial ::
  [0x30, 0x0a, 0x06, 0x08, 0x2a, 0x86, 0x48, 0xce, 0x3d, 0x04, 0x03, 0x02, 0x30, 0x11, 0x31, 0x0f,
   0x30, 0x0d, 0x06, 0x03, 0x55, 0x04, 0x03, 0x0c, 0x06, 0x64, 0x65, 0x76, 0x69, 0x63, 0x65, 0x30,
   0x1e, 0x17, 0x0d, 0x32, 0x36, 0x30, 0x31, 0x30, 0x31, 0x30, 0x30, 0x30, 0x30, 0x30, 0x30, 0x5a,
   0x17, 0x0d, 0x33, 0x36, 0x30, 0x31, 0x30, 0x31, 0x30, 0x30, 0x30, 0x30, 0x30, 0x30, 0x5a, 0x30,
   0x11, 0x31, 0x0f, 0x30, 0x0d, 0x06, 0x03, 0x55, 0x04, 0x03, 0x0c, 0x06, 0x64, 0x65, 0x76, 0x69,
   0x63, 0x65] ++ devicePublicKey ++
  [0x30, 0x0a, 0x06, 0x08, 0x2a, 0x86, 0x48, 0xce, 0x3d, 0x04, 0x03, 0x02, 0x03, 0x47, 0x00] ++ signature

/-- The first certificate of the key. -/
def deviceCertificate : List UInt8 := selfSigned 1
  [0x30, 0x44, 0x02, 0x20, 0x03, 0x1d, 0xb8, 0x2e, 0x64, 0xbd, 0xb4, 0x3a, 0x23, 0xc0, 0x76, 0x6f,
   0xa2, 0x66, 0x86, 0x8b, 0xdd, 0x34, 0xe7, 0x7e, 0xff, 0x35, 0x3a, 0x10, 0x6b, 0x52, 0x15, 0x44,
   0x39, 0xf2, 0xa9, 0x48, 0x02, 0x20, 0x1f, 0xa9, 0x04, 0xcf, 0x85, 0x9a, 0xae, 0xac, 0xd3, 0x34,
   0x4b, 0xae, 0x1e, 0xfd, 0x22, 0x1f, 0x65, 0x86, 0xf3, 0xe4, 0x76, 0xc5, 0x23, 0x24, 0xeb, 0x5e,
   0x74, 0x27, 0x36, 0xab, 0x59, 0x74]

/-- The second certificate of the key. -/
def renewedCertificate : List UInt8 := selfSigned 2
  [0x30, 0x44, 0x02, 0x20, 0x72, 0x72, 0x6e, 0x5c, 0x38, 0xde, 0xcd, 0x2d, 0x7a, 0x6c, 0x11, 0x6e,
   0xe2, 0x9d, 0x3a, 0xe9, 0x88, 0x91, 0x45, 0x0d, 0xd4, 0x75, 0x4f, 0x5a, 0x48, 0x99, 0x58, 0xdf,
   0xea, 0x1c, 0xaa, 0xfb, 0x02, 0x20, 0x46, 0x0d, 0xd6, 0x81, 0x57, 0x2f, 0xfe, 0x1b, 0xd9, 0x29,
   0xb1, 0xc7, 0xd6, 0x34, 0xfb, 0x8a, 0x5b, 0xa5, 0x1c, 0xcc, 0x93, 0x0d, 0xe7, 0x0c, 0xd9, 0x2e,
   0x2a, 0xfe, 0xc6, 0x67, 0x3b, 0xda]

/-- mbedTLS with the curves secp256r1 and secp384r1 and memory for everything, that takes the key and its
certificates. -/
def p256Link : PkiLink where
  pki := oneKey (secpR1 256) []
  pvPortMalloc _ := true
  psaPkCtxAlloc := true
  x509CrtParse _ := (mbedtlsErrX509CertUnknownFormat, none)
  x509CrtParseDer raw :=
    if raw = some deviceCertificate ∨ raw = some renewedCertificate then (0, raw)
    else (mbedtlsErrX509BadInputData, none)
  pkParseKey raw := if raw = some devicePrivateKey then 0 else -0x3D00
  pkParsePublicKey der := if der = devicePublicKey then (0, .eckey) else (-0x3D00, .none)

theorem p256Link_documented : p256Link.Documented :=
  ⟨oneKey_documented _ _, by decide +kernel⟩

theorem deviceCertificate_taken : p256Link.Certificate deviceCertificate :=
  ⟨by decide +kernel, by decide +kernel⟩

theorem renewedCertificate_taken : p256Link.Certificate renewedCertificate :=
  ⟨by decide +kernel, by decide +kernel⟩

/-- The context of a public key. -/
def pointContext (grpId : EcpGroupId) (point : List UInt8) : PkContext where
  type := .eckey
  grpId := grpId
  bitlen := 4 * (point.length - 1)
  pointWriteBinary size := if point.length ≤ size then (0, point) else (-0x4F00, [])

theorem pointContext_documented (grpId : EcpGroupId) (point : List UInt8) :
    (pointContext grpId point).Documented := by
  intro size h
  unfold pointContext at h ⊢
  dsimp only at h ⊢
  split_ifs at h ⊢ with hfit
  · exact hfit
  · cases h

/-- The P-256 key. -/
def deviceContext : PkContext := pointContext .secp256r1 devicePoint

/-- The P-384 key. -/
def longContext : PkContext := pointContext .secp384r1 longPoint

/-- Nothing is stored. -/
def emptyStores : PkiStores := ⟨fun _ => none, fun _ => none, fun _ => none⟩

/-- The point of a public key that fits is imported. -/
theorem writePubKey_point {grpId : EcpGroupId} {point pubKeyDer : List UInt8}
    (hfit : point.length ≤ pointSize (pointContext grpId point)) (hpoint : point ≠ []) :
    writePubKey p256Link emptyStores (.psaCrypto psaTlsPubKeyId) pubKeyDer (pointContext grpId point) none =
      some (emptyStores.withPublicKey psaTlsPubKeyId (pointContext grpId point), .success) := by
  have hwrite : (pointContext grpId point).pointWriteBinary (pointSize (pointContext grpId point)) = (0, point) :=
    if_pos hfit
  have hwritten : (pointContext grpId point).point = point := by rw [PkContext.point, hwrite]
  exact writePubKey_psaCrypto.2
    ⟨⟨by decide, rfl, rfl, by rw [hwrite], by rwa [hwritten], rfl, rfl⟩, rfl⟩

/-- A P-256 key and a certificate are read back under their labels. -/
theorem pki_round_trip_p256 :
    ReadsPublicKey p256Link (emptyStores.withPublicKey psaTlsPubKeyId deviceContext) devicePublicKey
      deviceContext (.psaCrypto psaTlsPubKeyId) ∧
    xPkiReadCertificate p256Link
      { emptyStores with ps := Function.update emptyStores.ps psaTlsCertId (some deviceCertificate) }
      (xPkiObjectFromLabel tlsCertLabel) = some (.success, some deviceCertificate) := by
  have hlaw := pki_round_trip p256Link_documented emptyStores
  have hpub : xPkiObjectFromLabel tlsKeyPubLabel = .psaCrypto psaTlsPubKeyId := by decide +kernel
  have hcert : xPkiObjectFromLabel tlsCertLabel = .psaPs psaTlsCertId := by decide +kernel
  constructor
  · have hkept : PubKeyKept p256Link emptyStores (xPkiObjectFromLabel tlsKeyPubLabel) devicePublicKey
        deviceContext none := by
      rw [hpub]
      intro _
      exact ⟨⟨by decide, by decide, by decide⟩, rfl⟩
    have hread := (hlaw.1 tlsKeyPubLabel devicePublicKey _ none (pointContext_documented _ _)).2 hkept
    rw [hpub] at hread
    apply hread
    unfold xPkiWritePubKey
    rw [hpub]
    exact writePubKey_point (by decide) (List.cons_ne_nil _ _)
  · have hkept : CertKept p256Link emptyStores (xPkiObjectFromLabel tlsCertLabel) deviceCertificate none := by
      rw [hcert]
      intro _
      exact ⟨⟨by decide, rfl⟩, fun h => absurd h (by decide +kernel)⟩
    apply (hlaw.2.1 tlsCertLabel deviceCertificate none deviceCertificate_taken).2 hkept
    rw [xPkiWriteCertificate, hcert]
    exact writeCertificate_ps (by decide +kernel)

/-- A public key of protected storage is looked for in internal trusted storage, a private key is read
and parsed and refused all the same, and a P-384 key of the crypto service is not read. -/
theorem pki_round_trip_fails :
    (xPkiWritePubKey p256Link emptyStores tlsCertLabel devicePublicKey deviceContext none =
        some ({ emptyStores with ps := Function.update emptyStores.ps psaTlsCertId (some devicePublicKey) },
          .success) ∧
      xPkiReadPublicKeyDer p256Link
        { emptyStores with ps := Function.update emptyStores.ps psaTlsCertId (some devicePublicKey) }
        (xPkiObjectFromLabel tlsCertLabel) = some (.err, none, 0)) ∧
    (lReadObjectFromPsaPs p256Link
        { emptyStores with ps := Function.update emptyStores.ps 1 (some devicePrivateKey) } 1 =
        some (0, some devicePrivateKey) ∧
      p256Link.pkParseKey (some devicePrivateKey) = 0 ∧
      xPkiReadPrivateKey p256Link
        { emptyStores with ps := Function.update emptyStores.ps 1 (some devicePrivateKey) } (.psaPs 1) =
        some .argInvalid) ∧
    (writePubKey p256Link emptyStores (.psaCrypto psaTlsPubKeyId) [] longContext none =
        some (emptyStores.withPublicKey psaTlsPubKeyId longContext, .success) ∧
      xPkiReadPublicKeyDer p256Link (emptyStores.withPublicKey psaTlsPubKeyId longContext)
        (.psaCrypto psaTlsPubKeyId) = some (.err, none, 0)) ∧
    ¬PubKeyRoundTrip p256Link emptyStores (xPkiObjectFromLabel tlsCertLabel) devicePublicKey deviceContext
      none := by
  have hcert : xPkiObjectFromLabel tlsCertLabel = .psaPs psaTlsCertId := by decide +kernel
  have hwrite : xPkiWritePubKey p256Link emptyStores tlsCertLabel devicePublicKey deviceContext none =
        some ({ emptyStores with ps := Function.update emptyStores.ps psaTlsCertId (some devicePublicKey) },
          .success) := by
    unfold xPkiWritePubKey
    rw [hcert]
    rfl
  refine ⟨⟨hwrite, ?_⟩, ⟨rfl, by decide +kernel, by decide +kernel⟩, ⟨?_, by decide +kernel⟩, ?_⟩
  · rw [hcert]
    decide +kernel
  · exact writePubKey_point (by decide) (List.cons_ne_nil _ _)
  · rw [hcert]
    intro h
    have hread := h _ ((congrArg (writePubKey p256Link emptyStores · devicePublicKey _ none)
      hcert.symm).trans hwrite)
    revert hread
    unfold ReadsPublicKey
    decide +kernel

end Crypto
