import TrustZone.Crypto.Proof.Provisioning

/-!
# The labels of a generated key pair

`xPkiGenerateECKeypair` looks at the form of the public object only. The id of the private one is read
from the union whatever its form is, and the two ids are not compared.

* `generate_other`: no slot but the two is written to.
* `destroyed`: without memory for a new key, the private slot is left empty.
* `keypair_labels_iff`: the pairs of labels that are handled as they should be.
-/

namespace Crypto

open Lib Psa

variable {link : PkiLink} {st st' : PkiStores} {prv pub : List UInt8} {status : PkiStatus} {out : DerOut}
  {a : GenerateAns PkiKey} {κ : Type} {mbed : PkiEnv} {publicKey : κ → List UInt8}
  {store store' : KeyStore κ} {xPrvKeyId xPubKeyId i : Nat}

/-! ## Slots that are not written -/

theorem psaDestroyKey_other (h : i ≠ xPrvKeyId) (store : KeyStore κ) (fault : Option (PsaError × Bool)) :
    (psaDestroyKey store xPrvKeyId fault).1 i = store i := by
  unfold psaDestroyKey
  cases fault with
  | some f =>
    obtain ⟨e, erased⟩ := f
    cases erased with
    | true => exact Function.update_of_ne h ..
    | false => rfl
  | none =>
    dsimp only
    split
    · rfl
    · exact Function.update_of_ne h ..

theorem destroySlots_other (hprv : i ≠ xPrvKeyId) (hpub : i ≠ xPubKeyId) (store : KeyStore κ)
    (a : GenerateAns κ) : (destroySlots store xPrvKeyId xPubKeyId a).1 i = store i := by
  have hfirst := psaDestroyKey_other hprv store a.destroyPrv
  unfold destroySlots
  dsimp only
  split
  · rw [psaDestroyKey_other hpub, hfirst]
  · exact hfirst

theorem psaCreateKey_other (h : i ≠ xPrvKeyId) (store : KeyStore κ) (key : StoredKey κ)
    (fault : Option PsaError) : (psaCreateKey store xPrvKeyId key fault).1 i = store i := by
  rcases psaCreateKey_cases store xPrvKeyId key fault with ⟨-, -, hc⟩ | ⟨-, st, -, hc⟩
  · rw [hc]
    exact Function.update_of_ne h ..
  · rw [hc]

theorem pairStored_other (hprv : i ≠ xPrvKeyId) (hpub : i ≠ xPubKeyId) (store : KeyStore κ)
    (a : GenerateAns κ) : (pairStored store xPrvKeyId xPubKeyId a).1 i = store i := by
  have hslots := destroySlots_other hprv hpub store a
  unfold pairStored
  split
  · rw [psaCreateKey_other hprv, hslots]
  · exact hslots

/-- A slot under another id is left as it was. -/
theorem generate_other {a : GenerateAns κ} {r : GenerateResult}
    (h : lGenerateKeyPairECPsaCrypto mbed publicKey store xPrvKeyId xPubKeyId out a = some (store', r))
    (hprv : i ≠ xPrvKeyId) (hpub : i ≠ xPubKeyId) : store' i = store i := by
  obtain rfl | rfl | ⟨p, -, rfl⟩ := generate_store h
  · rfl
  · exact pairStored_other hprv hpub store a
  · rw [psaCreateKey_other hpub, pairStored_other hprv hpub]

/-! ## A generation that fails -/

/-- The id 0 is refused. -/
theorem generate_zero (mbed : PkiEnv) (publicKey : κ → List UInt8) (store : KeyStore κ) (xPubKeyId : Nat)
    (out : DerOut) (a : GenerateAns κ) (h : xPrvKeyId = 0) :
    ∃ r, lGenerateKeyPairECPsaCrypto mbed publicKey store xPrvKeyId xPubKeyId out a = some (store, r) ∧
      xPrvMbedtlsErrToPkiStatus r.ret ≠ .success := by
  have hne : psaErrorInvalidHandle ≠ psaSuccess := by decide
  unfold lGenerateKeyPairECPsaCrypto
  rw [if_pos (.inl h), finish, if_pos hne]
  exact ⟨_, rfl, (translate_error hne).2⟩

/-- PSA has no memory for a key. -/
def noMemory : PsaError := ⟨psaErrorInsufficientMemory, by decide⟩

/-- Only the generation fails. -/
def generateFails (k : κ) : GenerateAns κ := ⟨none, none, some noMemory, k, none, fun _ => true, none, none⟩

/-- The private slot is left empty. -/
theorem destroyed (mbed : PkiEnv) (publicKey : κ → List UInt8) (out : DerOut) (hprv : xPrvKeyId ≠ 0)
    (hpub : xPubKeyId ≠ 0) (k : κ)
    (hstore : store xPubKeyId = none ∨ xPubKeyId = xPrvKeyId) (hk : store xPrvKeyId ≠ none) :
    ∃ store' r, lGenerateKeyPairECPsaCrypto mbed publicKey store xPrvKeyId xPubKeyId out (generateFails k) =
      some (store', r) ∧ store' xPrvKeyId = none ∧ xPrvMbedtlsErrToPkiStatus r.ret = .err := by
  have hempty : Function.update store xPrvKeyId none xPubKeyId = none := by
    rcases hstore with h | h
    · by_cases he : xPubKeyId = xPrvKeyId
      · rw [he, Function.update_self]
      · rw [Function.update_of_ne he, h]
    · rw [h, Function.update_self]
  have hslots : destroySlots store xPrvKeyId xPubKeyId (generateFails k) =
      (Function.update store xPrvKeyId none, psaSuccess) := by
    have hprv : psaDestroyKey store xPrvKeyId none = (Function.update store xPrvKeyId none, psaSuccess) :=
      if_neg hk
    have hpub : psaDestroyKey (Function.update store xPrvKeyId none) xPubKeyId none =
        (Function.update store xPrvKeyId none, psaErrorInvalidHandle) := if_pos hempty
    rw [destroySlots, show (generateFails k).destroyPrv = none from rfl, hprv,
      show (generateFails k).destroyPub = none from rfl]
    dsimp only
    rw [show maskInvalidHandle psaSuccess = psaSuccess by decide, if_pos rfl, hpub]
    rfl
  have hids : ¬(xPrvKeyId = 0 ∨ xPubKeyId = 0) := fun h => h.elim hprv hpub
  have hfault : psaErrorInsufficientMemory ≠ psaSuccess := by decide
  unfold lGenerateKeyPairECPsaCrypto
  rw [if_neg hids, hslots]
  dsimp only
  rw [if_pos rfl, show (generateFails k).generate = some noMemory from rfl, psaCreateKey]
  simp only [noMemory, if_neg hfault, finish]
  exact ⟨_, _, rfl, Function.update_self .., by decide⟩

/-! ## Labels -/

/-- What a label denotes. -/
theorem xPkiObjectFromLabel_cases (label : List UInt8) : xPkiObjectFromLabel label = .none ∨
    (∃ id, xPkiObjectFromLabel label = .psaCrypto id ∧ id ≠ 0) ∨
    ∃ uid, xPkiObjectFromLabel label = .psaPs uid ∧ uid % 2 ^ 32 ≠ 0 := by
  unfold xPkiObjectFromLabel
  split_ifs
  · exact .inr (.inl ⟨_, rfl, by decide⟩)
  · exact .inr (.inl ⟨_, rfl, by decide⟩)
  · exact .inr (.inr ⟨_, rfl, by decide⟩)
  · exact .inr (.inr ⟨_, rfl, by decide⟩)
  · exact .inr (.inl ⟨_, rfl, by decide⟩)
  · exact .inl rfl

theorem keyStore_pkiKey (st : PkiStores) : (fun id => (st.keyStore id).map StoredKey.pkiKey) = st.keys := by
  funext id
  rw [PkiStores.keyStore, Option.map_map]
  exact Option.map_id'

/-- Both labels denote keys of the crypto service, under two ids. -/
def DistinctKeys (prv pub : List UInt8) : Prop :=
  ∃ i j, xPkiObjectFromLabel prv = .psaCrypto i ∧ xPkiObjectFromLabel pub = .psaCrypto j ∧ i ≠ j

/-- Labels of anything else are refused and no key is touched; none but theirs ever is. -/
structure KeypairLaw (prv pub : List UInt8) (st st' : PkiStores) (status : PkiStatus) : Prop where
  refused : ¬DistinctKeys prv pub → status ≠ .success ∧ st'.keys = st.keys
  others : ∀ id, st'.keys id ≠ st.keys id →
    xPkiObjectFromLabel prv = .psaCrypto id ∨ xPkiObjectFromLabel pub = .psaCrypto id

/-- Where the public label denotes a key, the private one denotes no object of a storage, and not the same
key. -/
def KeypairLabels (prv pub : List UInt8) : Prop :=
  ∀ id, xPkiObjectFromLabel pub = .psaCrypto id →
    xPkiObjectFromLabel prv ≠ .psaCrypto id ∧ ∀ uid, xPkiObjectFromLabel prv ≠ .psaPs uid

/-- What a call with a public label of a key is. -/
theorem keypair_generates {id : Nat} (hpub : xPkiObjectFromLabel pub = .psaCrypto id) :
    xPkiGenerateECKeypair link st prv pub out a = (lGenerateKeyPairECPsaCrypto link.pki PkiKey.publicKey
      st.keyStore (xPkiObjectFromLabel prv).cryptoId id out a).map fun r =>
        ({ st with keys := fun id => (r.1 id).map StoredKey.pkiKey }, xPrvMbedtlsErrToPkiStatus r.2.ret) := by
  rw [xPkiGenerateECKeypair, hpub]

theorem KeypairLaw.of_same (hstatus : status ≠ .success) : KeypairLaw prv pub st st status where
  refused _ := ⟨hstatus, rfl⟩
  others _ h := absurd rfl h

/-- Labels that are fit and denote no pair of keys are refused with an error. -/
theorem keypair_refused (hlabels : KeypairLabels prv pub) (hno : ¬DistinctKeys prv pub) :
    ∃ status, xPkiGenerateECKeypair link st prv pub out a = some (st, status) ∧ status ≠ .success := by
  have hinvalid : PkiStatus.argInvalid ≠ .success := by decide
  rcases xPkiObjectFromLabel_cases pub with hpub | ⟨j, hpub, -⟩ | ⟨uid, hpub, -⟩
  · exact ⟨_, by rw [xPkiGenerateECKeypair, hpub], hinvalid⟩
  · obtain ⟨hne, hps⟩ := hlabels j hpub
    rcases xPkiObjectFromLabel_cases prv with hprv | ⟨i, hprv, -⟩ | ⟨uid, hprv, -⟩
    · obtain ⟨r, hzero, hstatus⟩ := generate_zero link.pki PkiKey.publicKey st.keyStore j out a
        (congrArg PkiObject.cryptoId hprv)
      refine ⟨_, ?_, hstatus⟩
      rw [keypair_generates hpub, hzero, Option.map_some]
      dsimp only
      rw [keyStore_pkiKey]
    · have hij : i ≠ j := fun h => hne (hprv.trans (congrArg PkiObject.psaCrypto h))
      exact absurd ⟨i, j, hprv, hpub, hij⟩ hno
    · exact absurd hprv (hps uid)
  · exact ⟨_, by rw [xPkiGenerateECKeypair, hpub], hinvalid⟩

/-- Labels that are fit are handled as they should be. -/
theorem keypair_law (hlabels : KeypairLabels prv pub)
    (h : xPkiGenerateECKeypair link st prv pub out a = some (st', status)) :
    KeypairLaw prv pub st st' status := by
  by_cases hkeys : DistinctKeys prv pub
  · refine ⟨fun hno => absurd hkeys hno, fun id hid => ?_⟩
    obtain ⟨i, j, hprv, hpub, -⟩ := hkeys
    rw [keypair_generates hpub, hprv] at h
    obtain ⟨⟨store, r⟩, hgen, hr⟩ := Option.map_eq_some_iff.1 h
    obtain ⟨rfl, rfl⟩ := Prod.mk.inj hr
    rw [hprv, hpub]
    by_contra hother
    obtain ⟨hidi, hidj⟩ := not_or.1 hother
    refine hid ?_
    show (store id).map StoredKey.pkiKey = st.keys id
    have hi : id ≠ i := fun h => hidi (congrArg PkiObject.psaCrypto h.symm)
    have hj : id ≠ j := fun h => hidj (congrArg PkiObject.psaCrypto h.symm)
    rw [generate_other hgen hi hj]
    exact congrFun (keyStore_pkiKey st) id
  · obtain ⟨status', hcall, hstatus⟩ : ∃ status, xPkiGenerateECKeypair link st prv pub out a =
        some (st, status) ∧ status ≠ .success := keypair_refused hlabels hkeys
    obtain ⟨rfl, rfl⟩ := Prod.mk.inj (Option.some.inj (hcall.symm.trans h))
    exact .of_same hstatus

/-- A key under an id, and no other. -/
def oneKeyUnder (id : Nat) (key : PkiKey) : PkiStores :=
  ⟨Function.update (fun _ => none) id (some key), fun _ => none, fun _ => none⟩

/-- A key pair, of which only the id matters. -/
def somePair : PkiKey := ⟨⟨eccKeyPairSecpR1, 256⟩, [], []⟩

theorem oneKeyUnder_self (id : Nat) (key : PkiKey) : (oneKeyUnder id key).keys id = some key :=
  Function.update_self (f := fun _ => none) ..

/-- A key that the labels do not denote as one of two is destroyed. -/
theorem keypair_destroys (link : PkiLink) (out : DerOut) (key : PkiKey) {j : Nat}
    (hpub : xPkiObjectFromLabel pub = .psaCrypto j)
    (hprv : xPkiObjectFromLabel prv = .psaCrypto j ∨ ∃ uid, xPkiObjectFromLabel prv = .psaPs uid) :
    ∃ st', xPkiGenerateECKeypair link (oneKeyUnder (xPkiObjectFromLabel prv).cryptoId key) prv pub out
        (generateFails key) = some (st', .err) ∧
      st'.keys (xPkiObjectFromLabel prv).cryptoId = none ∧
      ¬KeypairLaw prv pub (oneKeyUnder (xPkiObjectFromLabel prv).cryptoId key) st' .err := by
  have hnot : ¬DistinctKeys prv pub := by
    rintro ⟨i, j', hi, hj', hij⟩
    rw [hpub, PkiObject.psaCrypto.injEq] at hj'
    rcases hprv with h | ⟨uid, h⟩
    · rw [h, PkiObject.psaCrypto.injEq] at hi
      exact hij (hi.symm.trans hj')
    · rw [h] at hi
      cases hi
  have hj : j ≠ 0 := by
    rcases xPkiObjectFromLabel_cases pub with h | ⟨i, h, hi⟩ | ⟨uid, h, -⟩
    · rw [h] at hpub
      cases hpub
    · rw [h, PkiObject.psaCrypto.injEq] at hpub
      exact hpub ▸ hi
    · rw [h] at hpub
      cases hpub
  have hid : (xPkiObjectFromLabel prv).cryptoId ≠ 0 := by
    rcases xPkiObjectFromLabel_cases prv with h | ⟨i, h, hi⟩ | ⟨uid, h, hi⟩
    · rw [h] at hprv
      rcases hprv with hc | ⟨uid, hc⟩
      · cases hc
      · cases hc
    · rw [h]
      exact hi
    · rw [h]
      exact hi
  generalize hi : (xPkiObjectFromLabel prv).cryptoId = i at hid ⊢
  have hkey : (oneKeyUnder i key).keyStore i = some (.keyPair key) := by
    rw [PkiStores.keyStore, oneKeyUnder_self, Option.map_some]
  have hslot : (oneKeyUnder i key).keyStore j = none ∨ j = i := by
    by_cases h : j = i
    · exact .inr h
    · refine .inl ?_
      simp only [PkiStores.keyStore, oneKeyUnder, Function.update_of_ne h, Option.map_none]
  obtain ⟨store', r, hgen, hgone, hstatus⟩ := destroyed link.pki PkiKey.publicKey out hid hj key hslot (by rw [hkey]; exact Option.some_ne_none _)
  have hgone' : (store' i).map StoredKey.pkiKey = none := by rw [hgone, Option.map_none]
  refine ⟨{ oneKeyUnder i key with keys := fun id => (store' id).map StoredKey.pkiKey }, ?_, hgone',
    fun law => ?_⟩
  · rw [keypair_generates hpub, hi, hgen, Option.map_some, hstatus]
  · have hsame := congrFun (law.refused hnot).2 i
    rw [oneKeyUnder_self] at hsame
    exact absurd (hgone'.symm.trans hsame) nofun

/-- **The labels**: whatever is stored and PSA answers, the two labels are handled as they should be, and a
call with no pair of keys returns, exactly when a public label of a key comes with a private label that
denotes no object of a storage and not the same key. -/
theorem keypair_labels_iff (link : PkiLink) (prv pub : List UInt8) :
    (∀ st out a,
      (¬DistinctKeys prv pub → ∃ st' status, xPkiGenerateECKeypair link st prv pub out a =
        some (st', status)) ∧
      ∀ st' status, xPkiGenerateECKeypair link st prv pub out a = some (st', status) →
        KeypairLaw prv pub st st' status) ↔ KeypairLabels prv pub := by
  constructor
  · intro law id hpub
    have hlaw : ∀ hprv, False := fun hprv => by
      obtain ⟨st', hcall, -, hnot⟩ := keypair_destroys link ⟨none, 0⟩ somePair hpub hprv
      exact hnot ((law _ _ _).2 _ _ hcall)
    exact ⟨fun h => hlaw (.inl h), fun uid h => hlaw (.inr ⟨uid, h⟩)⟩
  · intro hlabels st out a
    refine ⟨fun hno => ?_, fun st' status h => keypair_law hlabels h⟩
    obtain ⟨status, hcall, -⟩ := keypair_refused hlabels hno
    exact ⟨st, status, hcall⟩

/-- With the label of a certificate as the private one, the key with the number of the certificate is
destroyed; with the same label twice, that key is. -/
theorem keypair_missed :
    (∃ st', xPkiGenerateECKeypair p256Link (oneKeyUnder 5 somePair) tlsCertLabel tlsKeyPubLabel ⟨none, 0⟩
        (generateFails somePair) = some (st', .err) ∧ st'.keys 5 = none ∧
      ¬KeypairLaw tlsCertLabel tlsKeyPubLabel (oneKeyUnder 5 somePair) st' .err) ∧
    ∃ st', xPkiGenerateECKeypair p256Link (oneKeyUnder 0x10 somePair) tlsKeyPubLabel tlsKeyPubLabel ⟨none, 0⟩
        (generateFails somePair) = some (st', .err) ∧ st'.keys 0x10 = none ∧
      ¬KeypairLaw tlsKeyPubLabel tlsKeyPubLabel (oneKeyUnder 0x10 somePair) st' .err := by
  have hpub : xPkiObjectFromLabel tlsKeyPubLabel = .psaCrypto 0x10 := by decide
  have hcert : xPkiObjectFromLabel tlsCertLabel = .psaPs 5 := by decide
  have h₁ := keypair_destroys p256Link ⟨none, 0⟩ somePair hpub (.inr ⟨5, hcert⟩)
  have h₂ := keypair_destroys p256Link ⟨none, 0⟩ somePair hpub (.inl hpub)
  rw [hcert] at h₁
  rw [hpub] at h₂
  exact ⟨h₁, h₂⟩

end Crypto
