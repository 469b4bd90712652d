import TrustZone.Crypto.Proof.GenerateKeyPair
import TrustZone.Crypto.Proof.PkiObject
import TrustZone.Crypto.Provisioning

/-!
# What provisioning leaves in the stores

* `provision_certificate`: after every history, PSA holds under the uid of a certificate label what was
  last written to the label, and nothing else.
* `provision_exportable`: a public key that it holds can be exported into what the PKCS#11 module allows
  for it.
-/

namespace Crypto

open Lib Psa Pkcs11 Machine

/-- A key context of mbedTLS, whose largest group has 521 bits. -/
structure PkContext.OfGroup (pk : PkContext) : Prop where
  point : pk.Documented
  bitlen : pk.bitlen ≤ 521

/-- The calls of provisioning: the two keys of TLS are generated, certificates are written for TLS, and
the public keys of TLS and of the update. -/
def ProvisionCall.Known : ProvisionCall → Prop
  | .xPkiGenerateECKeypair prv pub _ _ => prv = tlsKeyPrvLabel ∧ pub = tlsKeyPubLabel
  | .xPkiWriteCertificate label raw _ =>
    (label = tlsCertLabel ∨ label = tlsRootCaCertLabel) ∧ raw.length ≤ pkcs11ObjectMaxSize
  | .xPkiWritePubKey _ label _ pk _ =>
    (label = otaSigningKeyLabel ∨ label = tlsKeyPubLabel) ∧ pk.OfGroup

/-- The certificate was written under the label. -/
def WritesCertificate (label raw : List UInt8) (e : Entry PkiStores ProvisionCall PkiStatus) : Prop :=
  (∃ fault, e.inp = .xPkiWriteCertificate label raw fault) ∧ e.out = .success

/-- The certificate that was last written under the label. -/
def LastCertificate (label raw : List UInt8) (tr : List (Entry PkiStores ProvisionCall PkiStatus)) :
    Prop :=
  Since (WritesCertificate label raw) (fun e => ∀ raw', ¬WritesCertificate label raw' e) tr

/-- A public key that PSA exports into the size that the module asks for, and that fits its array. -/
structure PkiKey.Exportable (k : PkiKey) : Prop where
  same : k.material = k.publicKey
  size : k.material.length ≤ psaExportKeyOutputSize k.attributes.type k.attributes.bits.toNat
  fits : k.material.length ≤ pkcs11ObjectMaxSize

variable {link : PkiLink} {st st' : PkiStores} {c : ProvisionCall} {status : PkiStatus}
  {label raw : List UInt8} {uid id : Nat}

/-! ## Certificates -/

theorem certificate_object (h : label = tlsCertLabel ∨ label = tlsRootCaCertLabel) :
    xPkiObjectFromLabel label = .psaPs (if label = tlsCertLabel then psaTlsCertId
      else psaTlsRootCaCertId) := by
  obtain rfl | rfl := h
  · decide
  · decide

/-- Two labels of certificates that stand for one object are one. -/
theorem certificate_object_inj {label' : List UInt8}
    (hl : label = tlsCertLabel ∨ label = tlsRootCaCertLabel)
    (hl' : label' = tlsCertLabel ∨ label' = tlsRootCaCertLabel)
    (h : xPkiObjectFromLabel label = xPkiObjectFromLabel label') : label = label' := by
  have hne : xPkiObjectFromLabel tlsCertLabel ≠ xPkiObjectFromLabel tlsRootCaCertLabel := by decide
  obtain rfl | rfl := hl <;> obtain rfl | rfl := hl'
  · rfl
  · exact absurd h hne
  · exact absurd h.symm hne
  · rfl

theorem pubKey_object (h : label = otaSigningKeyLabel ∨ label = tlsKeyPubLabel) :
    xPkiObjectFromLabel label = .psaCrypto (if label = otaSigningKeyLabel then otaSigningKeyId
      else psaTlsPubKeyId) := by
  obtain rfl | rfl := h
  · decide
  · decide

/-- A certificate that is written, or a call that leaves the stores alone. -/
theorem writeCertificatePs_cases {fault : Option PsaError} (h : PkiStatus.written
    (lWriteCertificateToPsaPS st uid raw fault) = (st', status)) :
    status = .success ∧ st' = { st with ps := Function.update st.ps uid (some raw) } ∨
      status ≠ .success ∧ st' = st := by
  have hrefused : ∀ {e : Status}, e ≠ psaSuccess →
      PkiStatus.written (st, mbedtlsPsaErrTranslatePk e) = (st', status) →
        status ≠ .success ∧ st' = st := by
    intro e he hw
    obtain ⟨rfl, rfl⟩ := Prod.mk.inj hw
    exact ⟨(translate_error he).2, rfl⟩
  unfold lWriteCertificateToPsaPS lWriteObjectToPsaPs PkiStores.psSet at h
  split_ifs at h
  · exact .inr (hrefused (by decide) h)
  · cases fault with
    | some e => exact .inr (hrefused e.2 h)
    | none =>
      obtain ⟨rfl, rfl⟩ := Prod.mk.inj h
      exact .inl ⟨rfl, rfl⟩

/-- The stores after a key pair was generated, or not. -/
theorem generate_cases {out : DerOut} {a : GenerateAns PkiKey}
    (h : xPkiGenerateECKeypair link st tlsKeyPrvLabel tlsKeyPubLabel out a = some (st', status)) :
    ∃ store r, lGenerateKeyPairECPsaCrypto link.pki PkiKey.publicKey st.keyStore psaTlsPrvKeyId
      psaTlsPubKeyId out a = some (store, r) ∧
      st' = { st with keys := fun id => (store id).map StoredKey.pkiKey } := by
  have hpub : xPkiObjectFromLabel tlsKeyPubLabel = .psaCrypto psaTlsPubKeyId := by decide
  have hprv : (xPkiObjectFromLabel tlsKeyPrvLabel).cryptoId = psaTlsPrvKeyId := by decide
  unfold xPkiGenerateECKeypair at h
  rw [hpub, hprv] at h
  obtain ⟨⟨store, r⟩, hgen, hr⟩ := Option.map_eq_some_iff.1 h
  obtain ⟨rfl, -⟩ := Prod.mk.inj hr
  exact ⟨store, r, hgen, rfl⟩

/-- The stores after a public key was imported, or not. -/
theorem writePublicKey_cases {pk : PkContext} {fault : Option PsaError} {lError : Int}
    (h : lWritePublicKeyToPSACrypto link st id pk fault = some (st', lError)) :
    st' = st ∨ (pk.pointWriteBinary (pointSize pk)).1 = 0 ∧ st' = { st with
      keys := Function.update st.keys id (some ⟨publicKeyAttributes pk, pk.point, pk.point⟩) } := by
  unfold lWritePublicKeyToPSACrypto at h
  split_ifs at h with hid htype hmem
  · dsimp only at h
    by_cases hw : (pk.pointWriteBinary (pointSize pk)).1 = 0
    · rw [if_neg (not_not.2 hw)] at h
      obtain ⟨rfl, -⟩ := Prod.mk.inj (Option.some.inj h)
      unfold PkiStores.importKey
      split
      · exact .inl rfl
      · split_ifs
        · exact .inl rfl
        · exact .inl rfl
        · exact .inl rfl
        · exact .inr ⟨hw, rfl⟩
    · rw [if_pos hw] at h
      obtain ⟨rfl, -⟩ := Prod.mk.inj (Option.some.inj h)
      exact .inl rfl
  · obtain ⟨rfl, -⟩ := Prod.mk.inj (Option.some.inj h)
    exact .inl rfl
  · obtain ⟨rfl, -⟩ := Prod.mk.inj (Option.some.inj h)
    exact .inl rfl

theorem writePubKey_known {der : List UInt8} {pk : PkContext} {fault : Option PsaError}
    (hl : label = otaSigningKeyLabel ∨ label = tlsKeyPubLabel)
    (h : xPkiWritePubKey link st label der pk fault = some (st', status)) : ∃ id lError,
    lWritePublicKeyToPSACrypto link st id pk fault = some (st', lError) := by
  unfold xPkiWritePubKey at h
  rw [pubKey_object hl] at h
  obtain ⟨⟨st₁, lError⟩, hw, hr⟩ := Option.map_eq_some_iff.1 h
  obtain ⟨rfl, -⟩ := Prod.mk.inj hr
  exact ⟨_, lError, hw⟩

/-- What a call does to the certificate of a label. -/
theorem provisionStep_ps (hc : c.Known) (h : provisionStep link st c = some (st', status))
    (hl : label = tlsCertLabel ∨ label = tlsRootCaCertLabel)
    (huid : xPkiObjectFromLabel label = .psaPs uid) :
    (∃ raw, WritesCertificate label raw ⟨st, c, status, st'⟩ ∧ st'.ps uid = some raw ∧
      raw.length ≤ pkcs11ObjectMaxSize) ∨
    (∀ raw, ¬WritesCertificate label raw ⟨st, c, status, st'⟩) ∧ st'.ps uid = st.ps uid := by
  cases c with
  | xPkiGenerateECKeypair prv pub out a =>
    obtain ⟨rfl, rfl⟩ := hc
    obtain ⟨store, r, -, rfl⟩ := generate_cases h
    refine .inr ⟨?_, rfl⟩
    rintro raw ⟨⟨_, hw⟩, -⟩
    cases hw
  | xPkiWritePubKey link' label' der pk fault =>
    obtain ⟨id, lError, hw⟩ := writePubKey_known hc.1 h
    have hps : st'.ps uid = st.ps uid := by
      obtain rfl | ⟨-, rfl⟩ := writePublicKey_cases hw
      · rfl
      · rfl
    refine .inr ⟨?_, hps⟩
    rintro raw ⟨⟨_, hw⟩, -⟩
    cases hw
  | xPkiWriteCertificate label' raw fault =>
    obtain ⟨hl', hlen⟩ := hc
    have hw : writeCertificate st (xPkiObjectFromLabel label') raw fault = some (st', status) := h
    obtain ⟨uid', huid'⟩ : ∃ uid', xPkiObjectFromLabel label' = .psaPs uid' :=
      ⟨_, certificate_object hl'⟩
    rw [huid'] at hw
    obtain ⟨rfl, rfl⟩ | ⟨hne, rfl⟩ := writeCertificatePs_cases (Option.some.inj hw)
    · by_cases hsame : label' = label
      · subst hsame
        obtain rfl := PkiObject.psaPs.inj (huid.symm.trans huid')
        exact .inl ⟨raw, ⟨⟨fault, rfl⟩, rfl⟩, Function.update_self .., hlen⟩
      · have hne : uid ≠ uid' := by
          rintro rfl
          exact hsame (certificate_object_inj hl' hl (huid'.trans huid.symm))
        refine .inr ⟨?_, Function.update_of_ne hne _ _⟩
        rintro raw' ⟨⟨_, hw⟩, -⟩
        exact hsame (ProvisionCall.xPkiWriteCertificate.inj hw).1
    · refine .inr ⟨?_, rfl⟩
      rintro raw ⟨-, hout⟩
      exact hne hout

/-- A device on which nothing is provisioned. -/
structure PkiStores.Unprovisioned (st : PkiStores) : Prop where
  keys : ∀ id, st.keys id = none
  ps : ∀ uid, st.ps uid = none

variable {st₀ : PkiStores} {hist : List (Entry PkiStores ProvisionCall PkiStatus)}

/-- **The certificate** under a label is the one that was last written. -/
theorem provision_certificate (h₀ : st₀.Unprovisioned) (h : Exec (provisioner link) st₀ hist st)
    (hknown : ∀ e ∈ hist, e.inp.Known) (hl : label = tlsCertLabel ∨ label = tlsRootCaCertLabel)
    (huid : xPkiObjectFromLabel label = .psaPs uid) (raw : List UInt8) :
    (st.ps uid = some raw ↔ LastCertificate label raw hist) ∧
      (st.ps uid = some raw → raw.length ≤ pkcs11ObjectMaxSize) := by
  induction h generalizing raw with
  | nil =>
    have hnone : ¬LastCertificate label raw [] := by
      rintro ⟨a, e, b, he, -⟩
      simp at he
    rw [h₀.ps uid]
    exact ⟨iff_of_false (by simp) hnone, by simp⟩
  | @snoc tr st st' c status _ hs ih =>
    have ih := ih fun e he => hknown e (List.mem_append_left _ he)
    unfold LastCertificate
    rw [since_snoc]
    obtain ⟨raw', hw, hst, hlen⟩ | ⟨hno, hst⟩ :=
      provisionStep_ps (hknown ⟨st, c, status, st'⟩ (by simp)) hs hl huid
    · rw [hst, Option.some.injEq]
      refine ⟨⟨?_, ?_⟩, ?_⟩
      · rintro rfl
        exact .inl hw
      · rintro (⟨⟨f, hf⟩, -⟩ | ⟨-, hno⟩)
        · obtain ⟨f', hf'⟩ := hw.1
          exact (ProvisionCall.xPkiWriteCertificate.inj (hf'.symm.trans hf)).2.1
        · exact absurd hw (hno raw')
      · rintro rfl
        exact hlen
    · rw [hst]
      refine ⟨⟨fun hp => .inr ⟨(ih raw).1.1 hp, hno⟩, ?_⟩, (ih raw).2⟩
      rintro (hw | ⟨hlast, -⟩)
      · exact absurd hw (hno raw)
      · exact (ih raw).1.2 hlast

/-! ## Public keys -/

theorem finish_store {κ : Type} (store : KeyStore κ) (xStatus : Status) (out : DerOut)
    (heap : List HeapOp) : (finish store xStatus out heap).1 = store := by
  unfold finish
  split <;> rfl

/-- The keys when the old ones are destroyed and the pair is generated. -/
def pairStored {κ : Type} (store : KeyStore κ) (xPrvKeyId xPubKeyId : Nat) (a : GenerateAns κ) :
    KeyStore κ × Status :=
  if (destroySlots store xPrvKeyId xPubKeyId a).2 = psaSuccess then
    psaCreateKey (destroySlots store xPrvKeyId xPubKeyId a).1 xPrvKeyId (.keyPair a.key) a.generate
  else destroySlots store xPrvKeyId xPubKeyId a

/-- **What the generator does to the keys**: it is refused at once, it ends after the pair, or it goes on to
store the public key, a point of 65 bytes. -/
theorem generate_store {κ : Type} {mbed : PkiEnv} {publicKey : κ → List UInt8}
    {store store' : KeyStore κ} {xPrvKeyId xPubKeyId : Nat} {out : DerOut} {a : GenerateAns κ}
    {r : GenerateResult} (h : lGenerateKeyPairECPsaCrypto mbed publicKey store xPrvKeyId xPubKeyId out
      a = some (store', r)) :
    store' = store ∨ store' = (pairStored store xPrvKeyId xPubKeyId a).1 ∨ ∃ p, p.length = 65 ∧
      store' = (psaCreateKey (pairStored store xPrvKeyId xPubKeyId a).1 xPubKeyId (.publicKey p)
        a.importKey).1 := by
  have hsize : psaExportPublicKeyOutputSize eccKeyPairSecpR1 256 = 65 := by decide
  have hfin : ∀ {st : KeyStore κ} {e : Status} {o : DerOut} {l : List HeapOp},
      some (finish st e o l) = some (store', r) → store' = st := by
    intro st e o l hf
    exact (congrArg Prod.fst (Option.some.inj hf)).symm.trans (finish_store st e o l)
  unfold lGenerateKeyPairECPsaCrypto at h
  split_ifs at h with hid
  · exact .inl (hfin h)
  · right
    dsimp only at h
    unfold pairStored
    generalize (if (destroySlots store xPrvKeyId xPubKeyId a).2 = psaSuccess then
      psaCreateKey (destroySlots store xPrvKeyId xPubKeyId a).1 xPrvKeyId (.keyPair a.key) a.generate
      else destroySlots store xPrvKeyId xPubKeyId a) = d at h ⊢
    obtain ⟨store₂, st₂⟩ := d
    dsimp only at h ⊢
    split_ifs at h
    · split at h
      · cases h
      · split_ifs at h
        · exact .inr ⟨_, by rw [slice_length, hsize], hfin h⟩
        · exact .inl (hfin h)
    · exact .inl (hfin h)

/-- The new keys of the generator: the pair, and a point of 65 bytes. -/
inductive NewKey {κ : Type} (k : κ) (xPrvKeyId xPubKeyId : Nat) : Nat → StoredKey κ → Prop
  | pair : NewKey k xPrvKeyId xPubKeyId xPrvKeyId (.keyPair k)
  | point {p : List UInt8} (h : p.length = 65) : NewKey k xPrvKeyId xPubKeyId xPubKeyId (.publicKey p)

theorem psaCreateKey_slot {κ : Type} {store : KeyStore κ} {id i : Nat} {key key' : StoredKey κ}
    {fault : Option PsaError} (h : (psaCreateKey store id key fault).1 i = some key') :
    store i = some key' ∨ i = id ∧ key' = key := by
  obtain ⟨-, -, hc⟩ | ⟨-, e, -, hc⟩ := psaCreateKey_cases store id key fault
  · simp only [hc] at h
    by_cases hi : i = id
    · subst hi
      rw [Function.update_self] at h
      exact .inr ⟨rfl, (Option.some.inj h).symm⟩
    · rw [Function.update_of_ne hi] at h
      exact .inl h
  · rw [hc] at h
    exact .inl h

theorem pairStored_slot {κ : Type} {store : KeyStore κ} {xPrvKeyId xPubKeyId i : Nat} {a : GenerateAns κ}
    {key : StoredKey κ} (hk : (pairStored store xPrvKeyId xPubKeyId a).1 i = some key) :
    store i = some key ∨ NewKey a.key xPrvKeyId xPubKeyId i key := by
  have hold : (destroySlots store xPrvKeyId xPubKeyId a).1 i = some key → store i = some key := by
    intro hi
    obtain hnone | hsame := destroySlots_slot store xPrvKeyId xPubKeyId a i
    · rw [hnone] at hi
      cases hi
    · rwa [← hsame]
  unfold pairStored at hk
  split_ifs at hk
  · obtain hi | ⟨rfl, rfl⟩ := psaCreateKey_slot hk
    · exact .inl (hold hi)
    · exact .inr .pair
  · exact .inl (hold hk)

/-- **The generator** leaves no key but those that were there and its own. -/
theorem generate_slot {κ : Type} {mbed : PkiEnv} {publicKey : κ → List UInt8}
    {store store' : KeyStore κ} {xPrvKeyId xPubKeyId : Nat} {out : DerOut} {a : GenerateAns κ}
    {r : GenerateResult} (h : lGenerateKeyPairECPsaCrypto mbed publicKey store xPrvKeyId xPubKeyId out
      a = some (store', r)) {i : Nat} {key : StoredKey κ} (hk : store' i = some key) :
    store i = some key ∨ NewKey a.key xPrvKeyId xPubKeyId i key := by
  obtain rfl | rfl | ⟨p, hp, rfl⟩ := generate_store h
  · exact .inl hk
  · exact pairStored_slot hk
  · obtain hi | ⟨rfl, rfl⟩ := psaCreateKey_slot hk
    · exact pairStored_slot hi
    · exact .inr (.point hp)

theorem exportable_point {p : List UInt8} (hp : p.length = 65) :
    (StoredKey.publicKey p).pkiKey.Exportable := by
  have hsize : psaExportKeyOutputSize eccPublicKeySecpR1 (256 : BitVec 16).toNat = 65 := by decide
  refine ⟨rfl, ?_, ?_⟩
  · show p.length ≤ psaExportKeyOutputSize eccPublicKeySecpR1 (256 : BitVec 16).toNat
    omega
  · show p.length ≤ pkcs11ObjectMaxSize
    unfold pkcs11ObjectMaxSize
    omega

/-- The size that is asked for to export the public key of a group. -/
theorem exportSize_publicKey (g : EcpGroupId) (bits : Nat) :
    psaExportKeyOutputSize
      (psaKeyTypeEccPublicKeyBase ||| (xPsaFamilyFromMbedtlsEccGroupId g).setWidth 16) bits =
      2 * Pkcs11.psaBitsToBytes bits + 1 := by
  cases g <;> rfl

theorem exportable_written {pk : PkContext} (hpk : pk.OfGroup)
    (hw : (pk.pointWriteBinary (pointSize pk)).1 = 0) :
    (⟨publicKeyAttributes pk, pk.point, pk.point⟩ : PkiKey).Exportable := by
  have hlen : pk.point.length ≤ pointSize pk := hpk.point _ hw
  have hbits : (publicKeyAttributes pk).bits.toNat ≤ 521 := by
    have hle := hpk.bitlen
    show (psaSetKeyBits pk.bitlen).toNat ≤ 521
    unfold psaSetKeyBits psaMaxKeyBits
    rw [if_neg (by omega), BitVec.toNat_ofNat]
    omega
  refine ⟨rfl, ?_, ?_⟩
  · exact hlen.trans (Nat.le_of_eq (exportSize_publicKey pk.grpId _).symm)
  · show pk.point.length ≤ pkcs11ObjectMaxSize
    unfold pointSize at hlen
    unfold pkcs11ObjectMaxSize
    omega

/-- What a call does to a public key. -/
theorem provisionStep_keys (hc : c.Known) (h : provisionStep link st c = some (st', status))
    (hid : id ≠ psaTlsPrvKeyId) {k : PkiKey} (hk : st'.keys id = some k) :
    st.keys id = some k ∨ k.Exportable := by
  cases c with
  | xPkiGenerateECKeypair prv pub out a =>
    obtain ⟨rfl, rfl⟩ := hc
    obtain ⟨store, r, hgen, rfl⟩ := generate_cases h
    obtain ⟨key, hkey, rfl⟩ := Option.map_eq_some_iff.1 hk
    obtain hold | hnew := generate_slot hgen hkey
    · have hold : (st.keys id).map StoredKey.keyPair = some key := hold
      obtain ⟨k, hkeep, rfl⟩ := Option.map_eq_some_iff.1 hold
      exact .inl hkeep
    · cases hnew with
      | pair => exact absurd rfl hid
      | point hp => exact .inr (exportable_point hp)
  | xPkiWritePubKey link' label' der pk fault =>
    obtain ⟨id', lError, hw⟩ := writePubKey_known hc.1 h
    obtain rfl | ⟨hpoint, rfl⟩ := writePublicKey_cases hw
    · exact .inl hk
    · by_cases he : id = id'
      · subst he
        simp only [Function.update_self, Option.some.injEq] at hk
        subst hk
        exact .inr (exportable_written hc.2 hpoint)
      · exact .inl ((Function.update_of_ne he _ _).symm.trans hk)
  | xPkiWriteCertificate label' raw fault =>
    have hw : writeCertificate st (xPkiObjectFromLabel label') raw fault = some (st', status) := h
    rw [certificate_object hc.1] at hw
    obtain ⟨-, rfl⟩ | ⟨-, rfl⟩ := writeCertificatePs_cases (Option.some.inj hw)
    · exact .inl hk
    · exact .inl hk

/-- **The public keys** can be exported. -/
theorem provision_exportable (h₀ : st₀.Unprovisioned) (h : Exec (provisioner link) st₀ hist st)
    (hknown : ∀ e ∈ hist, e.inp.Known) (hid : id ≠ psaTlsPrvKeyId) {k : PkiKey}
    (hk : st.keys id = some k) : k.Exportable := by
  refine h.along (I := fun st => ∀ k, st.keys id = some k → k.Exportable) ?_ ?_ k hk
  · intro e he hpre k hk
    obtain hold | hnew := provisionStep_keys (hknown e he) (h.mem he) hid hk
    · exact hpre k hold
    · exact hnew
  · intro k hk
    rw [h₀.keys id] at hk
    cases hk

end Crypto
