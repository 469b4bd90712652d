import TrustZone.Crypto.PkiServices
import TrustZone.Crypto.Proof.GenerateKeyPair
import TrustZone.Crypto.Proof.PkiObject

/-!
# PKI objects in a PKCS#11 module

Two exporters of one public key: `xPrvExportPubKeyDer` allocates a byte more than it writes, and tells
that byte with the rest (`exporters_disagree`).

* `exportPubKeyDer_ecPoint`: what it leaves for a module that gives the point.
* `ecPoint_size`, `ecPoint_value`: that is what the PSA module gives.
-/

namespace Crypto

open Lib Psa Pkcs11

variable {env : ValueEnv} {s : State} {xSession : SessionHandle} {xObject : ObjectHandle}
  {id : KeyHandle} {key : List UInt8}

/-- The `SubjectPublicKeyInfo` of a point of P-256. -/
def p256Info (key : List UInt8) : List UInt8 :=
  subjectPublicKeyInfo oidEcPublicKey (Der.oid oidSecp256r1) key

/-- The header that `xPrvExportPubKeyDer` copies is that of the `SubjectPublicKeyInfo`. -/
theorem p256Info_eq (hkey : key.length = 65) : p256Info key = pucEcP256AsnAndOid ++ key := by
  have hbits : Der.bitString key = [0x03, 0x42, 0x00] ++ key := by
    rw [Der.bitString, Der.tlv, List.length_cons, hkey]
    rfl
  have halg : algorithmIdentifier oidEcPublicKey (Der.oid oidSecp256r1) =
      [0x30, 0x13, 0x06, 0x07, 0x2a, 0x86, 0x48, 0xce, 0x3d, 0x02, 0x01, 0x06, 0x08, 0x2a,
        0x86, 0x48, 0xce, 0x3d, 0x03, 0x01, 0x07] := by decide
  rw [p256Info, subjectPublicKeyInfo, Der.sequence, Der.tlv, halg, hbits]
  simp only [List.length_append, hkey]
  rfl

/-! ## The attribute of a public key -/

/-- The object is a listed public key that has its mark, and the key `id` of PSA. -/
def PublicKeyObject (s : State) (xObject : ObjectHandle) (id : KeyHandle) : Prop :=
  (prvFindObjectInListByHandle s.xObjectList xObject).1 = eAwsDevicePublicKey ∧
      s.p11KeyConfig.xDevicePublicKeyMark = true ∧ s.p11KeyConfig.uxDevicePublicKey = id ∨
    (prvFindObjectInListByHandle s.xObjectList xObject).1 = eAwsCodeVerifyingKey ∧
      s.p11KeyConfig.xCodeVerifyKeyMark = true ∧ s.p11KeyConfig.uxCodeVerifyKey = id

theorem PublicKeyObject.listed (h : PublicKeyObject s xObject id) :
    (prvFindObjectInListByHandle s.xObjectList xObject).1 ≠ ckInvalidHandle := by
  obtain ⟨hpal, _⟩ | ⟨hpal, _⟩ := h
  · rw [hpal]
    decide
  · rw [hpal]
    decide

/-- The value of such an object is that of the key. -/
theorem PublicKeyObject.value (h : PublicKeyObject s xObject id) :
    pkcs11PsaGetObjectValue env s.p11KeyConfig
      (prvFindObjectInListByHandle s.xObjectList xObject).1 = psaGetKeyValue env id := by
  obtain ⟨hpal, hmark, rfl⟩ | ⟨hpal, hmark, rfl⟩ := h
  · rw [hpal]
    show ifMarked s.p11KeyConfig.xDevicePublicKeyMark _ = _
    rw [hmark]
    rfl
  · rw [hpal]
    show ifMarked s.p11KeyConfig.xCodeVerifyKeyMark _ = _
    rw [hmark]
    rfl

/-- One attribute of an object whose value can be read. -/
theorem cGetAttributeValue_one {h₀ : Nat} {v : ObjectValue} (hs : sessionCheck s xSession = .ok h₀)
    (hpal : (prvFindObjectInListByHandle s.xObjectList xObject).1 ≠ ckInvalidHandle)
    (hv : pkcs11PsaGetObjectValue env s.p11KeyConfig
      (prvFindObjectInListByHandle s.xObjectList xObject).1 = some (.ok v))
    {a a' : CkAttribute} {rv : CkRv}
    (ha : getAttribute env s.p11KeyConfig (prvFindObjectInListByHandle s.xObjectList xObject).1
      ((prvFindObjectInListByHandle s.xObjectList xObject).2.getD []) v a = some (rv, a')) :
    cGetAttributeValue env s xSession xObject (some [a]) = some (rv, some [a']) := by
  unfold cGetAttributeValue
  simp only [hs]
  rw [if_pos hpal, hv]
  dsimp only
  unfold getAttributes
  rw [ha]
  cases rv <;> rfl

/-- The key under `id` is the point `key` of P-256, and PSA gives it. -/
structure StoredPoint (st : PkiStores) (id : KeyHandle) (key : List UInt8) : Prop where
  stored : st.keys id.toNat = some ⟨⟨eccPublicKeySecpR1, 256⟩, key, key⟩
  length : key.length = 65

variable {st : PkiStores} {a : ValueAns}

theorem StoredPoint.value (h : StoredPoint st id key) :
    psaGetKeyValue (st.valueEnv a) id = some (.ok ⟨key, false⟩) := by
  have hsize : psaExportKeyOutputSize eccPublicKeySecpR1 (256 : BitVec 16).toNat = 65 := by decide
  have hlen := h.length
  have hexport : exportInto key 65 = (psaSuccess, key) := if_pos (by omega)
  have hmax : key.length ≤ pkcs11ObjectMaxSize := by
    unfold pkcs11ObjectMaxSize
    omega
  have hnot : psaSuccess ≠ psaErrorNotPermitted := by decide
  unfold psaGetKeyValue PkiStores.valueEnv
  simp only [h.stored, hsize, hexport, if_true, if_neg hnot, if_pos hmax]

/-- A module that gives the point, behind its tag and length. -/
structure GivesPoint (c : ExportCalls) (xObject : ObjectHandle) (key : List UInt8) : Prop where
  getFunctionList : c.getFunctionList = ckrOk
  size : c.getAttributeValue xObject ⟨.ckaEcPoint, none, 0⟩ =
    some (ckrOk, ⟨.ckaEcPoint, none, 67⟩)
  value : ∀ buf : List UInt8, 67 ≤ buf.length →
    c.getAttributeValue xObject ⟨.ckaEcPoint, some buf, 67⟩ =
      some (ckrOk, ⟨.ckaEcPoint, some (blit buf 0 (pucUnusedKeyTag ++ key)), 67⟩)

/-- **What the exporter leaves**: the `SubjectPublicKeyInfo`, and a zero byte. -/
theorem exportPubKeyDer_ecPoint {c : ExportCalls} (h : GivesPoint c xObject key)
    (hkey : key.length = 65) (hmalloc : c.pvPortMalloc 92 = true) :
    xPrvExportPubKeyDer c xObject =
      some (ckrOk, ⟨some (p256Info key ++ [0]), (p256Info key).length + 1⟩) := by
  have hder : (p256Info key).length = 91 := by
    rw [p256Info_eq hkey, List.length_append, hkey]
    rfl
  have hdrop : (List.replicate 92 (0 : UInt8)).drop 24 = List.replicate 68 0 := List.drop_replicate
  have htake : (List.replicate 92 (0 : UInt8)).take 24 = List.replicate 24 0 := by
    rw [List.take_replicate]
    rfl
  have hvalue := h.value (List.replicate 68 0) (by rw [List.length_replicate]; omega)
  -- the header goes over the tag and the length of the point
  have hblit : blit (List.replicate 24 0 ++ blit (List.replicate 68 0) 0 (pucUnusedKeyTag ++ key)) 0
      pucEcP256AsnAndOid = p256Info key ++ [0] := by
    have htag : (pucUnusedKeyTag ++ key).length = 67 := by
      rw [List.length_append, hkey]
      rfl
    have hlast : (List.replicate 68 (0 : UInt8)).drop 67 = [0] := by rw [List.drop_replicate]; rfl
    rw [blit_zero, blit_zero, htag, hlast, p256Info_eq hkey, List.append_assoc]
    rfl
  have hroom : (67 + pucEcP256AsnAndOid.length - pucUnusedKeyTag.length + 1) % 2 ^ 32 = 92 := rfl
  have hoff : pucEcP256AsnAndOid.length - pucUnusedKeyTag.length = 24 := rfl
  have hfit : ¬92 < pucEcP256AsnAndOid.length := Nat.not_lt.2 (Nat.le_add_left 26 66)
  unfold xPrvExportPubKeyDer
  rw [h.getFunctionList, h.size]
  show (if ckrOk = ckrOk ∧ c.pvPortMalloc 92 = true then _ else _) = _
  rw [if_pos ⟨rfl, hmalloc⟩, hder]
  dsimp only
  rw [hroom, hoff, hdrop, hvalue, if_neg hfit]
  show some (ckrOk, (⟨some (blit ((List.replicate 92 (0 : UInt8)).take 24 ++ _) 0 _), 92⟩ : DerOut)) = _
  rw [htake]
  exact congrArg (fun x => some (ckrOk, (⟨some x, 92⟩ : DerOut))) hblit

/-- The length that the exporter tells is that of the attribute and 25 bytes. -/
theorem exportPubKeyDer_length {c : ExportCalls} {t : CkAttribute} {der : List UInt8} {len : Nat}
    (hsize : c.getAttributeValue xObject ⟨.ckaEcPoint, none, 0⟩ = some (ckrOk, t))
    (h : xPrvExportPubKeyDer c xObject = some (ckrOk, ⟨some der, len⟩)) :
    len = (t.ulValueLen + 25) % 2 ^ 32 := by
  have hlen : t.ulValueLen + pucEcP256AsnAndOid.length - pucUnusedKeyTag.length + 1 =
      t.ulValueLen + 25 := rfl
  unfold xPrvExportPubKeyDer at h
  rw [hsize] at h
  dsimp only at h
  rw [hlen] at h
  split_ifs at h
  · cases h
  · split at h
    · cases h
    · split_ifs at h
      · cases (Prod.mk.inj (Option.some.inj h)).2
      · exact (DerOut.mk.inj (Prod.mk.inj (Option.some.inj h)).2).2.symm
  · cases (Prod.mk.inj (Option.some.inj h)).2

theorem CkAttribute.store_fits {type : AttributeType} {n : Nat} {buf bytes : List UInt8}
    (h : bytes.length ≤ buf.length) :
    CkAttribute.store ⟨type, some buf, n⟩ bytes = some ⟨type, some (blit buf 0 bytes), n⟩ := if_pos h

section
variable {h₀ : Nat} {pvPortMalloc : Nat → Bool}

/-- The call of the exporter is that of the module. -/
theorem moduleExport_getAttributeValue {v : ObjectValue} (hs : sessionCheck s xSession = .ok h₀)
    (hpal : (prvFindObjectInListByHandle s.xObjectList xObject).1 ≠ ckInvalidHandle)
    (hv : pkcs11PsaGetObjectValue env s.p11KeyConfig
      (prvFindObjectInListByHandle s.xObjectList xObject).1 = some (.ok v))
    {a a' : CkAttribute} {rv : CkRv}
    (ha : getAttribute env s.p11KeyConfig (prvFindObjectInListByHandle s.xObjectList xObject).1
      ((prvFindObjectInListByHandle s.xObjectList xObject).2.getD []) v a = some (rv, a')) :
    (moduleExport env s xSession pvPortMalloc).getAttributeValue xObject a = some (rv.code, a') := by
  have hget := cGetAttributeValue_one hs hpal hv ha
  simp only [moduleExport, hget]

/-- The PSA module tells the size of a point. -/
theorem moduleExport_size (hs : sessionCheck s xSession = .ok h₀) (hobj : PublicKeyObject s xObject id)
    (hst : StoredPoint st id key) :
    (moduleExport (st.valueEnv a) s xSession pvPortMalloc).getAttributeValue xObject
      ⟨.ckaEcPoint, none, 0⟩ = some (ckrOk, ⟨.ckaEcPoint, none, 67⟩) := by
  have hv : pkcs11PsaGetObjectValue (st.valueEnv a) s.p11KeyConfig _ = some (.ok ⟨key, false⟩) :=
    hobj.value.trans hst.value
  have hget : getAttribute (st.valueEnv a) s.p11KeyConfig
      (prvFindObjectInListByHandle s.xObjectList xObject).1
      ((prvFindObjectInListByHandle s.xObjectList xObject).2.getD []) ⟨key, false⟩
      ⟨.ckaEcPoint, none, 0⟩ = some (.ok, ⟨.ckaEcPoint, none, 67⟩) := rfl
  exact moduleExport_getAttributeValue hs hobj.listed hv hget

/-- The PSA module gives the point of a public key, where an `mbedtls_ecp_point` is no larger. -/
theorem moduleExport_givesPoint (hs : sessionCheck s xSession = .ok h₀)
    (hobj : PublicKeyObject s xObject id) (hst : StoredPoint st id key) (hsize : a.ecpPointSize ≤ 67) :
    GivesPoint (moduleExport (st.valueEnv a) s xSession pvPortMalloc) xObject key := by
  refine ⟨rfl, moduleExport_size hs hobj hst, fun buf hbuf => ?_⟩
  have hv : pkcs11PsaGetObjectValue (st.valueEnv a) s.p11KeyConfig _ = some (.ok ⟨key, false⟩) :=
    hobj.value.trans hst.value
  have hnot : ¬67 < (st.valueEnv a).ecpPointSize := Nat.not_lt.2 hsize
  have htag : 0x04 :: UInt8.ofNat key.length :: key = pucUnusedKeyTag ++ key := by
    rw [hst.length]
    rfl
  have hfits : (pucUnusedKeyTag ++ key).length ≤ buf.length := by
    rw [List.length_append, hst.length]
    exact hbuf
  have hget : getAttribute (st.valueEnv a) s.p11KeyConfig
      (prvFindObjectInListByHandle s.xObjectList xObject).1
      ((prvFindObjectInListByHandle s.xObjectList xObject).2.getD []) ⟨key, false⟩
      ⟨.ckaEcPoint, some buf, 67⟩ =
      some (.ok, ⟨.ckaEcPoint, some (blit buf 0 (pucUnusedKeyTag ++ key)), 67⟩) := by
    unfold getAttribute
    dsimp only
    rw [if_neg (Option.some_ne_none _), if_neg hnot, htag, CkAttribute.store_fits hfits, hst.length]
    rfl
  exact moduleExport_getAttributeValue hs hobj.listed hv hget

end

/-! ## The two exporters -/

theorem eccPublicKey_type : psaKeyTypeIsEcc eccPublicKeySecpR1 = true ∧
    psaKeyTypeIsRsa eccPublicKeySecpR1 = false ∧ psaKeyTypeIsPublicKey eccPublicKeySecpR1 = true ∧
    psaKeyTypeEccGetFamily eccPublicKeySecpR1 = psaEccFamilySecpR1 ∧
    psaExportPublicKeyOutputSize eccPublicKeySecpR1 256 = 65 := by decide

section SecpKey

variable {link : PkiLink} {st : PkiStores} {id : Nat} {type : KeyType} {k : PkiKey}

/-- What a key on secp256r1 is to the reader. -/
structure SecpKey (link : PkiLink) (st : PkiStores) (id : Nat) (key : List UInt8) (type : KeyType) : Prop where
  attributes : (pkiReadEnv link st id).getKeyAttributes = (psaSuccess, ⟨type, 256⟩)
  isEcc : psaKeyTypeIsEcc type = true
  family : psaKeyTypeEccGetFamily type = psaEccFamilySecpR1
  size : psaExportPublicKeyOutputSize type 256 = 65
  exported : ∀ n, exportPublic (pkiReadEnv link st id) type n = exportInto key n

theorem secpKey_pair (hkey : st.keys id = some k) (hattrs : k.attributes = ⟨eccKeyPairSecpR1, 256⟩) :
    SecpKey link st id k.publicKey eccKeyPairSecpR1 := by
  obtain ⟨hecc, -, hpub, hpair, hfam, hout⟩ := eccKeyPair_type
  refine ⟨?_, hecc, hfam, hout, fun n => ?_⟩
  · simp only [pkiReadEnv, hkey, hattrs]
  · simp only [exportPublic, hpub, hpair, Bool.false_eq_true, if_false, if_true, pkiReadEnv, hkey]

theorem secpKey_public
    (hkey : st.keys id = some ⟨⟨eccPublicKeySecpR1, 256⟩, key, key⟩) :
    SecpKey link st id key eccPublicKeySecpR1 := by
  obtain ⟨hecc, -, hpub, hfam, hout⟩ := eccPublicKey_type
  refine ⟨?_, hecc, hfam, hout, fun n => ?_⟩
  · simp only [pkiReadEnv, hkey]
  · simp only [exportPublic, hpub, if_true, pkiReadEnv, hkey]

/-- It is read with memory for it. -/
theorem SecpKey.delivers (h : SecpKey link st id key type) (hlink : link.pki.Documented)
    (hcurve : link.pki.eccEnabled psaEccFamilySecpR1 256 = true) (hlen : key.length = 65) :
    Delivers (pkiReadEnv link st id) (p256Info key) ↔ link.pki.calloc (ecpPubDerMaxBytes link.pki) = true := by
  have hbits : (256 : BitVec 16).toNat = 256 := rfl
  have hrsa := psaKeyTypeIsEcc_not_rsa h.isEcc
  have hecp := hlink.ecp _ _ hcurve
  have hsize : pubKeyDerLen (pkiReadEnv link st id) type = some (ecpPubDerMaxBytes link.pki) :=
    if_pos h.isEcc
  have hkey : PublicKeyOf (pkiReadEnv link st id) ⟨type, 256⟩ oidEcPublicKey (Der.oid oidSecp256r1) key := by
    refine ⟨h.attributes, ?_, fun hr => absurd hr (by rw [hrsa]; exact Bool.false_ne_true), ?_, ?_⟩
    · have hoid : mbedtlsPsaGetEccOidFromId link.pki.eccEnabled psaEccFamilySecpR1 256 =
          (0, some oidSecp256r1) := by
        simp only [mbedtlsPsaGetEccOidFromId, secp256r1_lookup, hcurve, if_true]
      have hoid : mbedtlsPsaGetEccOidFromId (pkiReadEnv link st id).eccEnabled psaEccFamilySecpR1 256 =
        (0, some oidSecp256r1) := hoid
      simp only [keyAlgorithmInfo, h.isEcc, if_true, h.family, hbits, hoid]
    · intro size hs
      obtain rfl := Option.some.inj (hsize.symm.trans hs)
      rw [h.exported, exportInto, if_pos]
      unfold ecpPubDerMaxBytes
      omega
    · rw [hbits, h.size]
      exact Nat.le_of_eq hlen
  have henv : (pkiReadEnv link st id).Documented :=
    ⟨hlink.asn1, hlink.eckey, hlink.rsa, hlink.ecp, hlink.ecpSize, hlink.mpiSize⟩
  rw [p256Info, xReadPublicKey_correct_iff henv hkey hsize, h.family, hbits]
  simp only [or_true, and_true]
  exact Iff.rfl

end SecpKey

/-- PSA reads the public key too. -/
theorem StoredPoint.delivers {link : PkiLink} (hst : StoredPoint st id key)
    (hlink : link.pki.Documented) (hcurve : link.pki.eccEnabled psaEccFamilySecpR1 256 = true)
    (hcalloc : link.pki.calloc (ecpPubDerMaxBytes link.pki) = true) :
    Delivers (pkiReadEnv link st id.toNat) (p256Info key) :=
  ((secpKey_public hst.stored).delivers hlink hcurve hst.length).2 hcalloc

/-- Both exporters leave the same bytes and the same length, those of `spki`. -/
def ExportersAgree (spki : List UInt8) (r : Option (Rv × DerOut))
    (r' : Option (Status × Option (List UInt8) × Nat)) : Prop :=
  ∃ der der' len, r = some (ckrOk, ⟨some der, len⟩) ∧ r' = some (psaSuccess, some der', len) ∧
    len = spki.length ∧ der.take len = spki ∧ der'.take len = spki

/-- **The two exporters** never agree: PSA gives the `SubjectPublicKeyInfo`, and the PKCS#11 side has a
zero byte behind it, which its length counts. -/
theorem exporters_disagree {link : PkiLink} {h₀ : Nat} {pvPortMalloc : Nat → Bool}
    (hlink : link.pki.Documented) (hcurve : link.pki.eccEnabled psaEccFamilySecpR1 256 = true)
    (hcalloc : link.pki.calloc (ecpPubDerMaxBytes link.pki) = true)
    (hmalloc : pvPortMalloc 92 = true) (hs : sessionCheck s xSession = .ok h₀)
    (hobj : PublicKeyObject s xObject id) (hst : StoredPoint st id key) :
    (a.ecpPointSize ≤ 67 →
      xPrvExportPubKeyDer (moduleExport (st.valueEnv a) s xSession pvPortMalloc) xObject =
        some (ckrOk, ⟨some (p256Info key ++ [0]), (p256Info key).length + 1⟩)) ∧
    Delivers (pkiReadEnv link st id.toNat) (p256Info key) ∧
    ¬ExportersAgree (p256Info key)
      (xPrvExportPubKeyDer (moduleExport (st.valueEnv a) s xSession pvPortMalloc) xObject)
      (xReadPublicKeyFromPSACrypto (pkiReadEnv link st id.toNat)) := by
  refine ⟨fun hsize => ?_, hst.delivers hlink hcurve hcalloc, ?_⟩
  · exact exportPubKeyDer_ecPoint (moduleExport_givesPoint hs hobj hst hsize) hst.length hmalloc
  · intro ⟨der, der', len, hexport, _, hlen, _⟩
    have h92 := exportPubKeyDer_length (moduleExport_size hs hobj hst) hexport
    rw [p256Info_eq hst.length, List.length_append, hst.length] at hlen
    rw [hlen] at h92
    exact absurd h92 (by decide)

/-- The module with the device public key, and a session. -/
def publicKeyListed : State where
  xIsInitialized := true
  xObjectList :=
    ⟨Function.update (fun _ => .zero) 0
      ⟨eAwsDevicePublicKey, labelDevicePublicKeyForTls ++ List.replicate 22 0⟩, fun _ => .zero⟩
  p11KeyConfig :=
    ⟨0, psaDevicePublicKeyId, 0, false, false, true, false, false, false⟩
  sessions _ := ⟨true, none, 0, 0, 0, 0, 0, 0⟩

/-- PSA with a point of P-256. -/
def pointStored : PkiStores :=
  { emptyStores with
    keys := Function.update emptyStores.keys 16
      (some ⟨⟨eccPublicKeySecpR1, 256⟩, devicePoint, devicePoint⟩) }

/-- Memory for everything, and an `mbedtls_ecp_point` of 36 bytes. -/
def plentyAns : ValueAns := ⟨fun _ => 0, fun _ => true, fun _ _ => none, [], 36⟩

theorem exporters_disagree_p256 :
    (plentyAns.ecpPointSize ≤ 67 →
      xPrvExportPubKeyDer (moduleExport (pointStored.valueEnv plentyAns) publicKeyListed (some 0)
        fun _ => true) 1 =
        some (ckrOk, ⟨some (p256Info devicePoint ++ [0]),
          (p256Info devicePoint).length + 1⟩)) ∧
    Delivers (pkiReadEnv p256Link pointStored psaDevicePublicKeyId.toNat)
      (p256Info devicePoint) ∧
    ¬ExportersAgree (p256Info devicePoint)
      (xPrvExportPubKeyDer (moduleExport (pointStored.valueEnv plentyAns) publicKeyListed (some 0)
        fun _ => true) 1)
      (xReadPublicKeyFromPSACrypto (pkiReadEnv p256Link pointStored psaDevicePublicKeyId.toNat)) := by
  have hobj : PublicKeyObject publicKeyListed 1 psaDevicePublicKeyId :=
    .inl ⟨by decide +kernel, rfl, rfl⟩
  exact exporters_disagree p256Link_documented.pki (by decide) rfl rfl rfl hobj ⟨rfl, rfl⟩

/-- The PKCS#11 side tells 92 bytes, PSA 91. -/
theorem exporters_lengths :
    (xPrvExportPubKeyDer (moduleExport (pointStored.valueEnv plentyAns) publicKeyListed (some 0)
      fun _ => true) 1).map (fun x => (x.1, x.2.puxPubKeyDerLen)) = some (ckrOk, 92) ∧
    (xReadPublicKeyFromPSACrypto
      (pkiReadEnv p256Link pointStored psaDevicePublicKeyId.toNat)).map
        (fun x => (x.1, x.2.2)) = some (psaSuccess, 91) ∧
    (p256Info devicePoint).length = 91 := by
  decide +kernel

end Crypto
