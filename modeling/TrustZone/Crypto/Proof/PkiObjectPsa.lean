import TrustZone.Crypto.PkiObjectPsa

/-!
# The `SubjectPublicKeyInfo` of a PSA key

The bytes that `xReadPublicKeyFromPSACrypto` writes are right for every key. But the count of the
`AlgorithmIdentifier` goes through `mbedtls_to_psa_error`, and 18 and 22 bytes read as error codes: the
curves with identifiers of 5 and of 9 bytes are refused (`xReadPublicKey_correct_iff`).

* `exportStep_spec`, `countStep_spec`, `paramsStep_spec`, `algorithmStep_spec`, `closeStep_spec`: each
  step, with `Written` for what is in the buffer.
* `ecc_fits`, `rsa_fits`: the buffer is large enough.
-/

namespace Crypto

open Lib Psa

def oidEcPublicKey : List UInt8 := [0x2A, 0x86, 0x48, 0xCE, 0x3D, 0x02, 0x01]
def oidRsaEncryption : List UInt8 := [0x2A, 0x86, 0x48, 0x86, 0xF7, 0x0D, 0x01, 0x01, 0x01]

/-- What mbedTLS is documented to be: the functions that write, the identifiers of the two algorithms,
a maximal size of coordinates that is one for every curve it is configured with, and sizes that are
`size_t`. -/
structure PkiEnv.Documented (env : PkiEnv) : Prop where
  asn1 : env.asn1.Documented
  eckey : env.oidByPkAlg .eckey = (0, some oidEcPublicKey)
  rsa : env.oidByPkAlg .rsa = (0, some oidRsaEncryption)
  ecp : ∀ family bits, env.eccEnabled family bits → (bits + 7) / 8 ≤ env.ecpMaxBytes
  ecpSize : ecpPubDerMaxBytes env < 2 ^ 32
  mpiSize : rsaPubDerMaxBytes env < 2 ^ 32

/-- The algorithm and the parameters of a key: its curve, or `NULL`. -/
def keyAlgorithmInfo (env : PkiEnv) (attrs : KeyAttributes) : Option (List UInt8 × List UInt8) :=
  if psaKeyTypeIsEcc attrs.type then
    match mbedtlsPsaGetEccOidFromId env.eccEnabled (psaKeyTypeEccGetFamily attrs.type)
        attrs.bits.toNat with
    | (0, some oid) => some (oidEcPublicKey, Der.oid oid)
    | _ => none
  else if psaKeyTypeIsRsa attrs.type then some (oidRsaEncryption, Der.null)
  else none

def algorithmIdentifier (oid params : List UInt8) : List UInt8 := Der.sequence (Der.oid oid ++ params)

def subjectPublicKeyInfo (oid params key : List UInt8) : List UInt8 :=
  Der.sequence (algorithmIdentifier oid params ++ Der.bitString key)

/-! ## Steps -/

variable {env : PkiEnv} {attrs : KeyAttributes} {s : DerState} {buf w bytes key : List UInt8}

theorem proceed_success {α : Type} {st : Status} (h : st = psaSuccess) (x : α) :
    proceed st x = .ok x := if_pos h

theorem proceed_error {α : Type} {st : Status} (h : st ≠ psaSuccess) (x : α) :
    proceed st x = .error st := if_neg h

theorem countStep_spec {x : BackWrite} (hx : x.ret = bytes.length) (hne : bytes ≠ []) :
    countStep x s = .ok ⟨x.p, x.buf, s.uxObjLen, s.uxBytesWritten + bytes.length⟩ := by
  have hpos : 0 < bytes.length := List.length_pos_iff.2 hne
  have hnat : x.ret.toNat = bytes.length := by omega
  unfold countStep
  rw [if_pos (by omega), hnat]

/-- The parameters, behind the public key. -/
theorem paramsStep_spec (henv : env.Documented) {alg params : List UInt8}
    (hinfo : keyAlgorithmInfo env attrs = some (alg, params))
    (hcode : mbedtlsToPsaError params.length = psaSuccess)
    (h : Written buf 0 w s.pucAsn1WritePtr s.buf)
    (hfit : params.length + w.length ≤ buf.length) :
    ∃ t p b, paramsStep env attrs s = .ok (t, ⟨p, b, (if t = .rsa then 0 else params.length),
        s.uxBytesWritten⟩) ∧ env.oidByPkAlg t = (0, some alg) ∧
      (t = .eckey ∧ Written buf 0 (params ++ w) p b ∨
        t = .rsa ∧ params = Der.null ∧ Written buf 0 w p b) := by
  unfold keyAlgorithmInfo at hinfo
  unfold paramsStep
  by_cases hecc : psaKeyTypeIsEcc attrs.type
  · rw [if_pos hecc] at hinfo ⊢
    split at hinfo
    · rename_i oid hoid
      obtain ⟨rfl, rfl⟩ := Prod.mk.inj (Option.some.inj hinfo)
      obtain ⟨hret, hw⟩ := (henv.asn1.writeOid s.buf 0 s.pucAsn1WritePtr oid).written h hfit
      have hpos : (0 : Int) < (Der.oid oid).length := by
        rw [Der.oid, Der.tlv_length]
        omega
      refine ⟨.eckey, _, _, ?_, henv.eckey, .inl ⟨rfl, hw⟩⟩
      simp only [hoid, hret, hcode, proceed_success, hpos, if_true, Int.toNat_natCast]
      rfl
    · cases hinfo
  · rw [if_neg hecc] at hinfo ⊢
    split at hinfo
    · rename_i hrsa
      obtain ⟨rfl, rfl⟩ := Prod.mk.inj (Option.some.inj hinfo)
      rw [if_pos hrsa]
      refine ⟨.rsa, _, _, proceed_success (by decide) _, henv.rsa, .inr ⟨rfl, rfl, h⟩⟩
    · cases hinfo

/-- The algorithm before the parameters: the bytes are written in any case, and their number decides. -/
theorem algorithmStep_spec (henv : env.Documented) {alg params : List UInt8} {t : PkType}
    (halg : alg.length ≠ 0) (hoid : env.oidByPkAlg t = (0, some alg))
    (hobj : s.uxObjLen = if t = .rsa then 0 else params.length) (hne : params ≠ [])
    (hw : t = .eckey ∧ Written buf 0 (params ++ w) s.pucAsn1WritePtr s.buf ∨
      t = .rsa ∧ params = Der.null ∧ Written buf 0 w s.pucAsn1WritePtr s.buf)
    (hfit : (algorithmIdentifier alg params).length + w.length ≤ buf.length) :
    ∃ p b, Written buf 0 (algorithmIdentifier alg params ++ w) p b ∧
      algorithmStep env t s = proceed (mbedtlsToPsaError (algorithmIdentifier alg params).length)
        ⟨p, b, s.uxObjLen, s.uxBytesWritten + (algorithmIdentifier alg params).length⟩ := by
  have hsplit : algorithmIdentifier alg params = algorithmHead alg params.length ++ params := by
    rw [algorithmIdentifier, algorithmHead, Der.sequence, Der.tlv, List.length_append]
    simp
  have hpos : 0 < (algorithmIdentifier alg params).length := by
    rw [hsplit, algorithmHead]
    simp
  obtain ⟨x, hx, hret, hput⟩ : ∃ x, env.asn1.writeAlgorithmIdentifier s.buf 0 s.pucAsn1WritePtr alg
      s.uxObjLen = x ∧ x.ret = (algorithmIdentifier alg params).length ∧
      Written buf 0 (algorithmIdentifier alg params ++ w) x.p x.buf := by
    rcases hw with ⟨rfl, hw⟩ | ⟨rfl, rfl, hw⟩
    · have hlen : s.uxObjLen = params.length := by rw [hobj]; rfl
      obtain ⟨x, hwrites, hx⟩ := henv.asn1.writeParams s.buf 0 s.pucAsn1WritePtr alg params.length
        (List.length_pos_iff.2 hne)
      have hfit' : (algorithmHead alg params.length).length + (params ++ w).length ≤ buf.length := by
        rw [hsplit, List.length_append] at hfit
        rw [List.length_append]
        omega
      obtain ⟨hret, hput⟩ := hwrites.written hw hfit'
      refine ⟨_, rfl, ?_, ?_⟩
      · rw [hlen, hx, if_neg (by omega), hsplit, List.length_append]
        show x.ret + params.length = _
        rw [hret]
        push_cast
        rfl
      · rw [hlen, hx, if_neg (by omega), hsplit, List.append_assoc]
        exact hput
    · have hlen : s.uxObjLen = 0 := by rw [hobj]; rfl
      have hwrites := henv.asn1.writeNull s.buf 0 s.pucAsn1WritePtr alg
      rw [← hsplit] at hwrites
      obtain ⟨hret, hput⟩ := hwrites.written hw hfit
      exact ⟨_, by rw [hlen], hret, hput⟩
  refine ⟨x.p, x.buf, hput, ?_⟩
  have hcond : (0 : Int) < (algorithmIdentifier alg params).length := by omega
  unfold algorithmStep
  simp only [hoid, halg, hx, hret, hcond, if_true, if_false, Int.toNat_natCast]

/-- The head of the whole. -/
theorem closeStep_spec (henv : env.Documented) {body : List UInt8} (hlen : body.length < 2 ^ 32)
    (h : Written buf 0 body s.pucAsn1WritePtr s.buf) (hwritten : s.uxBytesWritten = body.length)
    (hfit : (Der.sequence body).length ≤ buf.length) :
    ∃ p b, Written buf 0 (Der.sequence body) p b ∧
      closeStep env s = some (.ok ⟨p, b, s.uxObjLen, (Der.sequence body).length⟩) := by
  have hseq := Der.tlv_length Der.tagSequence body
  rw [← Der.sequence] at hseq
  have hlo := List.length_pos_iff.2 (Der.lenOctets_ne_nil body.length)
  obtain ⟨hret, hw⟩ := (henv.asn1.writeLen s.buf 0 s.pucAsn1WritePtr body.length hlen).written h
    (by omega)
  generalize hx : env.asn1.writeLen s.buf 0 s.pucAsn1WritePtr body.length = x at hret hw
  obtain ⟨hret', hw'⟩ := (henv.asn1.writeTag x.buf 0 x.p Der.tagSequence).written hw
    (by rw [List.length_append, List.length_singleton]; omega)
  generalize hx' : env.asn1.writeTag x.buf 0 x.p Der.tagSequence = x' at hret' hw'
  refine ⟨x'.p, x'.buf, hw', ?_⟩
  have hne : x.ret ≠ 0 := by omega
  have hpos : 0 < x.ret := by omega
  have hone : x'.ret = 1 := hret'
  have hcode : mbedtlsToPsaError 1 = psaSuccess := by decide
  have hnat : x.ret.toNat = (Der.lenOctets body.length).length := by omega
  unfold closeStep
  rw [hwritten, hx]
  simp only [hne, hpos, hx', hone, hcode, hnat, if_true, if_false, zero_lt_one]
  have hsum : body.length + (Der.lenOctets body.length).length + Int.toNat 1 =
      1 + (Der.lenOctets body.length).length + body.length := by
    rw [Int.toNat_one]
    omega
  rw [proceed_success rfl, hseq, hsum]

/-- The exported key at the end of the buffer, behind a null byte. -/
theorem exportStep_spec {size : Nat} (hexp : exportPublic env attrs.type size = (psaSuccess, key))
    (hkey : key.length ≤ psaExportPublicKeyOutputSize attrs.type attrs.bits.toNat)
    (hsize : psaExportPublicKeyOutputSize attrs.type attrs.bits.toNat + 1 ≤ size) :
    ∃ p b, Written (List.replicate size 0) 0 (0 :: key) p b ∧
      exportStep env attrs size = some (.ok ⟨p, b, key.length + 1, key.length + 1⟩) := by
  have hzeros : (List.replicate size (0 : UInt8)).length = size := List.length_replicate
  have hexported : (blit (List.replicate size 0) 0 key).length = size := by
    rw [blit_length (by omega), hzeros]
  have h0 : Written (List.replicate size 0) 0 [] size (blit (List.replicate size 0) 0 key) :=
    ⟨by rw [hexported, hzeros], hzeros.symm, Nat.zero_le _, rfl,
      List.drop_of_length_le (by omega)⟩
  have hfit : 0 + key.length ≤ size := by omega
  have hmoved := h0.step hfit
  rw [List.append_nil] at hmoved
  have hone : 0 + [(0 : UInt8)].length ≤ size - key.length := by
    rw [List.length_singleton]
    omega
  refine ⟨_, _, hmoved.step hone, ?_⟩
  have hroom : 1 ≤ size - key.length := by omega
  unfold exportStep
  rw [if_neg (by omega), hexp]
  exact if_pos hroom

/-- **The steps** between the export and the move: the code of the `AlgorithmIdentifier` decides. -/
theorem writeSteps_spec (henv : env.Documented) {alg params : List UInt8} (halg : alg.length ≠ 0)
    (hinfo : keyAlgorithmInfo env attrs = some (alg, params)) (hne : params ≠ [])
    (hcode : mbedtlsToPsaError params.length = psaSuccess) {p : Nat} {b : List UInt8}
    (h : Written buf 0 (0 :: key) p b) (hlen : buf.length < 2 ^ 32)
    (hfit : (subjectPublicKeyInfo alg params key).length ≤ buf.length) :
    ∃ p' b' n, Written buf 0 (subjectPublicKeyInfo alg params key) p' b' ∧
      writeSteps env attrs ⟨p, b, key.length + 1, key.length + 1⟩ =
        if mbedtlsToPsaError (algorithmIdentifier alg params).length = psaSuccess then
          some (.ok ⟨p', b', n, (subjectPublicKeyInfo alg params key).length⟩)
        else some (.error (mbedtlsToPsaError (algorithmIdentifier alg params).length)) := by
  have hspki : (subjectPublicKeyInfo alg params key).length =
      1 + (Der.lenOctets (algorithmIdentifier alg params ++ Der.bitString key).length).length +
        ((algorithmIdentifier alg params).length + (Der.bitString key).length) := by
    rw [subjectPublicKeyInfo, Der.sequence, Der.tlv_length, List.length_append]
  have hbits : (Der.bitString key).length =
      1 + (Der.lenOctets (key.length + 1)).length + (key.length + 1) := Der.tlv_length _ _
  have hparams : params.length ≤ (algorithmIdentifier alg params).length := by
    rw [algorithmIdentifier, Der.sequence, Der.tlv_length, List.length_append]
    omega
  -- the public key object
  obtain ⟨hret1, hw1⟩ := (henv.asn1.writeLen b 0 p (key.length + 1) (by omega)).written h
    (by rw [List.length_cons]; omega)
  have hstep1 := countStep_spec (s := ⟨p, b, key.length + 1, key.length + 1⟩) hret1
    (Der.lenOctets_ne_nil _)
  generalize hx1 : env.asn1.writeLen b 0 p (key.length + 1) = x1 at hw1 hstep1
  obtain ⟨hret2, hw2⟩ := (henv.asn1.writeTag x1.buf 0 x1.p Der.tagBitString).written hw1
    (by simp only [List.length_append, List.length_cons, List.length_nil]; omega)
  have hstep2 := countStep_spec (s := ⟨x1.p, x1.buf, key.length + 1,
    key.length + 1 + (Der.lenOctets (key.length + 1)).length⟩) hret2 (List.cons_ne_nil _ _)
  generalize hx2 : env.asn1.writeTag x1.buf 0 x1.p Der.tagBitString = x2 at hw2 hstep2
  have hbitString : Written buf 0 (Der.bitString key) x2.p x2.buf := hw2
  have hcount2 : key.length + 1 + (Der.lenOctets (key.length + 1)).length + [Der.tagBitString].length =
      (Der.bitString key).length := by
    rw [hbits, List.length_singleton]
    omega
  rw [hcount2] at hstep2
  -- the algorithm
  obtain ⟨t, p3, b3, hstep3, hoid, hw3⟩ := paramsStep_spec (s := ⟨x2.p, x2.buf, key.length + 1,
    (Der.bitString key).length⟩) henv hinfo hcode hbitString (by omega)
  obtain ⟨p4, b4, hw4, hstep4⟩ := algorithmStep_spec (s := ⟨p3, b3,
    (if t = .rsa then 0 else params.length), (Der.bitString key).length⟩) henv halg hoid rfl hne hw3
    (by omega)
  -- the whole
  have hbody : (algorithmIdentifier alg params ++ Der.bitString key).length =
      (algorithmIdentifier alg params).length + (Der.bitString key).length := List.length_append
  obtain ⟨p5, b5, hw5, hstep5⟩ := closeStep_spec (s := ⟨p4, b4,
    (if t = .rsa then 0 else params.length),
    (Der.bitString key).length + (algorithmIdentifier alg params).length⟩) henv
    (by omega) hw4 (by rw [hbody]; exact Nat.add_comm _ _) hfit
  refine ⟨p5, b5, (if t = .rsa then 0 else params.length), hw5, ?_⟩
  simp only [writeSteps, hx1, hstep1, hx2, hstep2, hstep3, hstep4, bind, Except.bind]
  by_cases hok : mbedtlsToPsaError (algorithmIdentifier alg params).length = psaSuccess
  · rw [proceed_success hok, if_pos hok]
    exact hstep5
  · rw [proceed_error hok, if_neg hok]

/-! ## Room -/

theorem bitString_length (key : List UInt8) : (Der.bitString key).length =
    1 + (Der.lenOctets (key.length + 1)).length + (key.length + 1) :=
  Der.tlv_length _ _

theorem subjectPublicKeyInfo_length (alg params key : List UInt8) :
    (subjectPublicKeyInfo alg params key).length =
      1 + (Der.lenOctets ((algorithmIdentifier alg params).length +
        (Der.bitString key).length)).length +
        ((algorithmIdentifier alg params).length + (Der.bitString key).length) := by
  rw [subjectPublicKeyInfo, Der.sequence, Der.tlv_length, List.length_append]

theorem oid_length {oid : List UInt8} (h : oid.length < 128) :
    (Der.oid oid).length = oid.length + 2 := by
  rw [Der.oid, Der.tlv_length, Der.lenOctets_short h, List.length_singleton]
  omega

/-- An `AlgorithmIdentifier` of less than 128 bytes has two length octets. -/
theorem algorithmIdentifier_length {oid params : List UInt8} (hoid : oid.length < 64)
    (hparams : params.length < 32) :
    (algorithmIdentifier oid params).length = oid.length + params.length + 4 := by
  have hinner : (Der.oid oid).length = oid.length + 2 := oid_length (by omega)
  rw [algorithmIdentifier, Der.sequence, Der.tlv_length, List.length_append, hinner,
    Der.lenOctets_short (by omega), List.length_singleton]
  omega

theorem mbedtlsPsaGetEccOidFromId_mem {enabled : EccFamily → Nat → Bool} {curve : EccFamily}
    {bits : Nat} {oid : List UInt8} (h : mbedtlsPsaGetEccOidFromId enabled curve bits = (0, some oid)) :
    enabled curve bits ∧ ((curve, bits), oid) ∈ eccOids := by
  unfold mbedtlsPsaGetEccOidFromId at h
  split at h
  · rename_i oid' hlook
    split_ifs at h with he
    · obtain rfl := Option.some.inj (Prod.mk.inj h).2
      obtain ⟨l₁, l₂, hl, -⟩ := List.lookup_eq_some_iff.1 hlook
      exact ⟨he, by rw [hl]; simp⟩
    · cases (Prod.mk.inj h).2
  · cases (Prod.mk.inj h).2

/-- The curves: their sizes, the lengths of their identifiers, and which have one of eight bytes. -/
theorem eccOids_sizes : ∀ e ∈ eccOids, e.1.2 ≤ 521 ∧
    (e.2.length = 8 ∧ e.1.1 = psaEccFamilySecpR1 ∧ (e.1.2 = 192 ∨ e.1.2 = 256) ∨
      (e.2.length = 5 ∨ e.2.length = 9) ∧
        ¬(e.1.1 = psaEccFamilySecpR1 ∧ (e.1.2 = 192 ∨ e.1.2 = 256))) := by
  decide

theorem ecc_algorithm_length {oid : List UInt8} (h : oid.length ≤ 9) :
    (algorithmIdentifier oidEcPublicKey (Der.oid oid)).length = oid.length + 13 := by
  have hpar : (Der.oid oid).length = oid.length + 2 := oid_length (by omega)
  rw [algorithmIdentifier_length (by decide) (by omega), hpar]
  show 7 + (oid.length + 2) + 4 = _
  omega

/-- The count of a curve's identifier reads as no error. -/
theorem paramsCode {n : Nat} (h : n = 5 ∨ n = 8 ∨ n = 9) :
    mbedtlsToPsaError ((n + 2 : Nat) : Int) = psaSuccess := by
  rcases h with rfl | rfl | rfl <;> decide

theorem psaKeyTypeIsEcc_not_rsa {type : KeyType} (h : psaKeyTypeIsEcc type) :
    psaKeyTypeIsRsa type = false := by
  by_contra hrsa
  rw [Bool.not_eq_false] at hrsa
  unfold psaKeyTypeIsRsa at hrsa
  unfold psaKeyTypeIsEcc at h
  rw [beq_iff_eq] at hrsa h
  rw [hrsa] at h
  revert h
  decide

/-- The buffer of an ECC key is large enough. -/
theorem ecc_fits {ecpMaxBytes bits : Nat} {oid key : List UInt8} (hbits : bits ≤ 521)
    (hoid : oid.length ≤ 9) (hecp : (bits + 7) / 8 ≤ ecpMaxBytes)
    (hkey : key.length ≤ 2 * ((bits + 7) / 8) + 1) :
    (subjectPublicKeyInfo oidEcPublicKey (Der.oid oid) key).length ≤ 30 + 2 * ecpMaxBytes := by
  have halg := ecc_algorithm_length hoid
  have hlo : (Der.lenOctets (key.length + 1)).length ≤ 2 :=
    Der.lenOctets_length_le (w := 1) (by omega)
  have hlo' : (Der.lenOctets ((algorithmIdentifier oidEcPublicKey (Der.oid oid)).length +
      (Der.bitString key).length)).length ≤ 2 := by
    refine Der.lenOctets_length_le (w := 1) ?_
    rw [halg, bitString_length]
    omega
  rw [subjectPublicKeyInfo_length]
  rw [halg, bitString_length] at hlo' ⊢
  omega

/-- So is that of an RSA key. -/
theorem rsa_fits {mpiMaxSize bits : Nat} {key : List UInt8} (hbits : bits < 65536)
    (hmpi : bits ≤ 8 * mpiMaxSize) (hkey : key.length ≤ bits / 8 + 5 + 11) :
    (subjectPublicKeyInfo oidRsaEncryption Der.null key).length ≤ 38 + 2 * mpiMaxSize := by
  have halg : (algorithmIdentifier oidRsaEncryption Der.null).length = 15 := by decide +kernel
  have hlo : (Der.lenOctets (key.length + 1)).length ≤ 3 :=
    Der.lenOctets_length_le (w := 2) (by omega)
  have hlo' : (Der.lenOctets (15 + (Der.bitString key).length)).length ≤ 3 := by
    refine Der.lenOctets_length_le (w := 2) ?_
    rw [bitString_length]
    omega
  rw [subjectPublicKeyInfo_length, halg]
  by_cases hshort : 15 + (key.length + 1) + 2 < 128
  · have h1 : (Der.lenOctets (key.length + 1)).length = 1 := by
      rw [Der.lenOctets_short (by omega)]
      rfl
    have h2 : (Der.lenOctets (15 + (Der.bitString key).length)).length = 1 := by
      rw [Der.lenOctets_short (by rw [bitString_length]; omega)]
      rfl
    rw [h2, bitString_length]
    omega
  · rw [bitString_length] at hlo' ⊢
    omega

/-! ## The whole -/

/-- A key that PSA has: an ECC key on a curve with an identifier, or an RSA key that mbedTLS can hold;
and its public key `key`, exported within the size that PSA declares. -/
structure PublicKeyOf (env : PkiEnv) (attrs : KeyAttributes) (alg params key : List UInt8) : Prop where
  attributes : env.getKeyAttributes = (psaSuccess, attrs)
  info : keyAlgorithmInfo env attrs = some (alg, params)
  rsaBits : psaKeyTypeIsRsa attrs.type → attrs.bits.toNat ≤ 8 * env.mpiMaxSize
  exported : ∀ size, pubKeyDerLen env attrs.type = some size →
    exportPublic env attrs.type size = (psaSuccess, key)
  keySize : key.length ≤ psaExportPublicKeyOutputSize attrs.type attrs.bits.toNat

/-- The call succeeds and leaves `der` and its length. -/
def Delivers (env : PkiEnv) (der : List UInt8) : Prop :=
  ∃ buf, xReadPublicKeyFromPSACrypto env = some (psaSuccess, some buf, der.length) ∧
    buf.take der.length = der

/-- With memory, the code of the `AlgorithmIdentifier` is the answer. -/
theorem xReadPublicKey_of_code (henv : env.Documented) {alg params : List UInt8}
    (h : PublicKeyOf env attrs alg params key) {size : Nat}
    (hsize : pubKeyDerLen env attrs.type = some size) (halloc : env.calloc size)
    (hout : psaExportPublicKeyOutputSize attrs.type attrs.bits.toNat + 1 ≤ size)
    (h32 : size < 2 ^ 32) (halg : alg.length ≠ 0) (hne : params ≠ [])
    (hcode : mbedtlsToPsaError params.length = psaSuccess)
    (hfit : (subjectPublicKeyInfo alg params key).length ≤ size) :
    Delivers env (subjectPublicKeyInfo alg params key) ↔
      mbedtlsToPsaError (algorithmIdentifier alg params).length = psaSuccess := by
  have hzeros : (List.replicate size (0 : UInt8)).length = size := List.length_replicate
  obtain ⟨p, b, hw, hexport⟩ := exportStep_spec (h.exported size hsize) h.keySize hout
  obtain ⟨p', b', n, hw', hsteps⟩ := writeSteps_spec henv halg h.info hne hcode hw (by omega)
    (by omega)
  unfold Delivers xReadPublicKeyFromPSACrypto
  simp only [h.attributes, hsize, halloc, hexport, hsteps, if_true]
  by_cases hok : mbedtlsToPsaError (algorithmIdentifier alg params).length = psaSuccess
  · have hpos := hw'.pos
    have hlen := subjectPublicKeyInfo_length alg params key
    have hp : p' < size := by omega
    have hdrop : size - (subjectPublicKeyInfo alg params key).length = p' := by omega
    simp only [hok, hp, hdrop, if_true, hw'.tail, List.take_length, iff_true]
    exact ⟨_, rfl, take_blit_zero⟩
  · simp only [hok, if_false, iff_false]
    rintro ⟨buf, hbuf, -⟩
    cases (Prod.mk.inj (Option.some.inj hbuf)).2

/-- **The exported key**: the call leaves the `SubjectPublicKeyInfo` of the key exactly when there is
memory for it and the key is an RSA key or one on the curves secp192r1 and secp256r1. -/
theorem xReadPublicKey_correct_iff (henv : env.Documented) {alg params : List UInt8}
    (h : PublicKeyOf env attrs alg params key) {size : Nat}
    (hsize : pubKeyDerLen env attrs.type = some size) :
    Delivers env (subjectPublicKeyInfo alg params key) ↔
      env.calloc size ∧ (psaKeyTypeIsRsa attrs.type ∨
        psaKeyTypeEccGetFamily attrs.type = psaEccFamilySecpR1 ∧
          (attrs.bits.toNat = 192 ∨ attrs.bits.toNat = 256)) := by
  cases halloc : env.calloc size with
  | false =>
    simp only [Bool.false_eq_true, false_and, iff_false]
    rintro ⟨buf, hbuf, -⟩
    unfold xReadPublicKeyFromPSACrypto at hbuf
    simp only [h.attributes, hsize, halloc, if_true, Bool.false_eq_true, if_false] at hbuf
    cases (Prod.mk.inj (Option.some.inj hbuf)).2
  | true =>
    have hinfo := h.info
    have hkey := h.keySize
    have hsize' := hsize
    unfold keyAlgorithmInfo at hinfo
    unfold pubKeyDerLen at hsize'
    by_cases hecc : psaKeyTypeIsEcc attrs.type
    · have hrsa := psaKeyTypeIsEcc_not_rsa hecc
      have hout : psaExportPublicKeyOutputSize attrs.type attrs.bits.toNat =
          2 * ((attrs.bits.toNat + 7) / 8) + 1 := by
        rw [psaExportPublicKeyOutputSize, if_neg (by simp [hrsa]), if_pos hecc]
      rw [hout] at hkey
      rw [if_pos hecc] at hinfo hsize'
      split at hinfo
      · rename_i oid hoid
        obtain ⟨rfl, rfl⟩ := Prod.mk.inj (Option.some.inj hinfo)
        obtain rfl := Option.some.inj hsize'
        obtain ⟨hen, hmem⟩ := mbedtlsPsaGetEccOidFromId_mem hoid
        obtain ⟨hbits, hoidLen⟩ := eccOids_sizes _ hmem
        dsimp only at hbits hoidLen
        have hecp := henv.ecp _ _ hen
        have hle : oid.length ≤ 9 := by omega
        have hpar : (Der.oid oid).length = oid.length + 2 := oid_length (by omega)
        have hcode : mbedtlsToPsaError (Der.oid oid).length = psaSuccess := by
          rw [hpar]
          exact paramsCode (by omega)
        have halgLen : (algorithmIdentifier oidEcPublicKey (Der.oid oid)).length =
            oid.length + 13 := ecc_algorithm_length hle
        rw [xReadPublicKey_of_code henv h hsize halloc
          (by rw [hout, ecpPubDerMaxBytes]; omega) henv.ecpSize (by decide)
          (List.cons_ne_nil _ _) hcode (ecc_fits hbits hle hecp hkey), halgLen]
        simp only [hrsa, Bool.false_eq_true, false_or, true_and]
        rcases hoidLen with ⟨h8, hcurve⟩ | ⟨h5 | h9, hcurve⟩
        · rw [h8]
          exact iff_of_true (by decide) hcurve
        · rw [h5]
          exact iff_of_false (by decide) hcurve
        · rw [h9]
          exact iff_of_false (by decide) hcurve
      · cases hinfo
    · rw [if_neg hecc] at hinfo hsize'
      split at hinfo
      · rename_i hrsa
        obtain ⟨rfl, rfl⟩ := Prod.mk.inj (Option.some.inj hinfo)
        rw [if_pos hrsa] at hsize'
        obtain rfl := Option.some.inj hsize'
        have hmpi := h.rsaBits hrsa
        have hbits : attrs.bits.toNat < 65536 := attrs.bits.isLt
        have hout : psaExportPublicKeyOutputSize attrs.type attrs.bits.toNat =
            attrs.bits.toNat / 8 + 5 + 11 := by
          rw [psaExportPublicKeyOutputSize, if_pos hrsa]
        rw [hout] at hkey
        rw [xReadPublicKey_of_code henv h hsize halloc
          (by rw [hout, rsaPubDerMaxBytes]; omega) henv.mpiSize (by decide) (by decide)
          (by decide +kernel) (rsa_fits hbits hmpi hkey)]
        exact iff_of_true (by decide +kernel) ⟨rfl, .inl hrsa⟩
      · cases hinfo

/-- An environment with the curves secp256r1 and secp384r1, that keeps one key. -/
def oneKey (attrs : KeyAttributes) (key : List UInt8) : PkiEnv where
  getKeyAttributes := (psaSuccess, attrs)
  exportKey _ := (psaSuccess, key)
  exportPublicKey _ := (psaSuccess, key)
  calloc _ := true
  asn1 := .whole
  oidByPkAlg
    | .eckey => (0, some oidEcPublicKey)
    | .rsa => (0, some oidRsaEncryption)
    | .none => (-0x2E, none)
  eccEnabled family bits := family = psaEccFamilySecpR1 ∧ (bits = 256 ∨ bits = 384)
  ecpMaxBytes := 48
  mpiMaxSize := 1024

theorem oneKey_documented (attrs : KeyAttributes) (key : List UInt8) :
    (oneKey attrs key).Documented := by
  refine ⟨Asn1Write.whole_documented, rfl, rfl, fun family bits h => ?_,
    (by decide : 126 < 2 ^ 32), (by decide : 2086 < 2 ^ 32)⟩
  have hbits : bits = 256 ∨ bits = 384 := (of_decide_eq_true h).2
  show (bits + 7) / 8 ≤ 48
  omega

/-- The attributes of a public key on a curve of the family secp r1. -/
def secpR1 (bits : BitVec 16) : KeyAttributes := ⟨0x4112, bits⟩

/-- A P-256 key is read. -/
theorem xReadPublicKey_p256 :
    Delivers (oneKey (secpR1 256) (List.replicate 65 4))
      (subjectPublicKeyInfo oidEcPublicKey (Der.oid oidSecp256r1) (List.replicate 65 4)) := by
  have hkey : PublicKeyOf (oneKey (secpR1 256) (List.replicate 65 4)) (secpR1 256) oidEcPublicKey
      (Der.oid oidSecp256r1) (List.replicate 65 4) :=
    ⟨rfl, by decide +kernel, by decide +kernel, fun _ _ => rfl, by decide +kernel⟩
  have hsize : pubKeyDerLen (oneKey (secpR1 256) (List.replicate 65 4)) (secpR1 256).type =
      some 126 := by decide +kernel
  refine (xReadPublicKey_correct_iff (oneKey_documented _ _) hkey hsize).2 ⟨rfl, .inr ?_⟩
  decide +kernel

/-- A P-384 key, on a curve that has an identifier, is refused: the 18 bytes of its
`AlgorithmIdentifier` read as `MBEDTLS_ERR_ERROR_CORRUPTION_DETECTED`. -/
theorem xReadPublicKey_p384 :
    PublicKeyOf (oneKey (secpR1 384) (List.replicate 97 4)) (secpR1 384) oidEcPublicKey
      (Der.oid oidSecp384r1) (List.replicate 97 4) ∧
    xReadPublicKeyFromPSACrypto (oneKey (secpR1 384) (List.replicate 97 4)) =
      some (psaErrorCorruptionDetected, none, 0) ∧
    ¬Delivers (oneKey (secpR1 384) (List.replicate 97 4))
      (subjectPublicKeyInfo oidEcPublicKey (Der.oid oidSecp384r1) (List.replicate 97 4)) := by
  have hread : xReadPublicKeyFromPSACrypto (oneKey (secpR1 384) (List.replicate 97 4)) =
      some (psaErrorCorruptionDetected, none, 0) := by decide +kernel
  refine ⟨⟨rfl, by decide +kernel, by decide +kernel, fun _ _ => rfl, by decide +kernel⟩, hread, ?_⟩
  rintro ⟨buf, hbuf, -⟩
  rw [hread] at hbuf
  cases (Prod.mk.inj (Option.some.inj hbuf)).2

end Crypto
