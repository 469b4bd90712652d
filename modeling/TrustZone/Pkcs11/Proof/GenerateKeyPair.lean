import Mathlib.Data.Finset.Card
import Mathlib.Data.Fintype.Basic
import TrustZone.Crypto.Proof.GenerateKeyPair
import TrustZone.Pkcs11.Proof.ListedObjects

/-!
# A key pair is generated as a whole, or not

`C_GenerateKeyPair` undoes nothing: once the private key exists, it stays, whatever fails after it. So
the call leaves everything or nothing exactly when, once `psa_generate_key` has succeeded, the rest
succeeds too (`Completes`). The buffer for the public key is left on the heap by every call that gets
one.

* `add_ok_iff`, `added_entry`, `added_room`: an add to the list.
* `generated_iff`, `imported_iff`: the two keys in PSA.
* `recordKeys_ok_iff`, `recordKeys_done`: the end of the call.
* `generate_all_or_nothing`: the call.
-/

namespace Pkcs11

open Lib Psa Crypto Machine

variable {κ ρ ε : Type}

/-! ## Adding to the list -/

/-- The slots that are free. -/
def freeSlots (l : P11ObjectList) : Finset (Fin pkcs11configMaxNumObjects) :=
  Finset.univ.filter fun i => (l.xObjects i).xHandle = ckInvalidHandle

/-- The slots that an object still needs. -/
def unlisted (l : P11ObjectList) (pal : ObjectHandle) : Nat :=
  if ∃ i, (l.xObjects i).xHandle = pal then 0 else 1

/-- An entry for the object stands under the label, or an add would put it there. -/
def ListsUnder (l : P11ObjectList) (pal : ObjectHandle) (label bytes : List UInt8) : Prop :=
  (∃ i, (l.xObjects i).xHandle = pal ∧ (l.xObjects i).label = label) ∨
    (∀ i, (l.xObjects i).xHandle ≠ pal) ∧ bytes.length < pkcs11configMaxLabelLength ∧
      cstr bytes = label

variable {l : P11ObjectList} {pal : ObjectHandle} {bytes : List UInt8} {lock : Bool}

theorem mem_freeSlots {i : Fin pkcs11configMaxNumObjects} :
    i ∈ freeSlots l ↔ (l.xObjects i).xHandle = ckInvalidHandle := by
  simp [freeSlots]

theorem unlisted_present {i : Fin pkcs11configMaxNumObjects} (h : (l.xObjects i).xHandle = pal) :
    unlisted l pal = 0 := if_pos ⟨i, h⟩

theorem unlisted_absent (h : ∀ i, (l.xObjects i).xHandle ≠ pal) : unlisted l pal = 1 := by
  apply if_neg
  rintro ⟨i, hi⟩
  exact h i hi

theorem add_ok_iff (lock : Bool) (l : P11ObjectList) (pal : ObjectHandle) (bytes : List UInt8) :
    (prvAddObjectToList lock l pal bytes).1 = .ok ↔ lock = true ∧
      unlisted l pal ≤ (freeSlots l).card ∧
      ((∀ i, (l.xObjects i).xHandle ≠ pal) → bytes.length < pkcs11configMaxLabelLength) := by
  have ho := prvAddObjectToList_outcome lock l pal bytes
  generalize prvAddObjectToList lock l pal bytes = r at ho ⊢
  cases ho with
  | locked => simp
  | present i hi =>
    have habs : ¬∀ j, (l.xObjects j).xHandle ≠ pal := fun h => h i hi
    simp [unlisted_present hi, habs]
  | inserted i habsent hfree hlen =>
    have hpos : 0 < (freeSlots l).card := Finset.card_pos.2 ⟨i, mem_freeSlots.2 hfree⟩
    simp only [unlisted_absent habsent, true_iff]
    exact ⟨trivial, hpos, fun _ => hlen⟩
  | full habsent hfull =>
    have hzero : (freeSlots l).card = 0 := by
      apply Finset.card_eq_zero.2
      apply Finset.eq_empty_of_forall_notMem
      intro i hi
      exact hfull i (mem_freeSlots.1 hi)
    simp [unlisted_absent habsent, hzero]
  | long habsent hlong =>
    simp only [reduceCtorEq, false_iff]
    rintro ⟨-, -, h⟩
    exact absurd (h habsent) (not_lt.2 hlong)

/-- **The entry of an add that succeeds.** -/
theorem added_entry (hl : Listed l) (hok : (prvAddObjectToList lock l pal bytes).1 = .ok)
    (hpal : pal ≠ ckInvalidHandle) (label : List UInt8) :
    ∃ i, (prvAddObjectToList lock l pal bytes).2.1 = some (appHandle i) ∧
      ((prvAddObjectToList lock l pal bytes).2.2.xObjects i).xHandle = pal ∧
      (((prvAddObjectToList lock l pal bytes).2.2.xObjects i).label = label ↔
        ListsUnder l pal label bytes) := by
  have ho := prvAddObjectToList_outcome lock l pal bytes
  generalize prvAddObjectToList lock l pal bytes = r at ho hok ⊢
  cases ho with
  | locked | full | long => cases hok
  | present i hi =>
    refine ⟨i, rfl, hi, ?_, ?_⟩
    · intro hlab
      exact .inl ⟨i, hi, hlab⟩
    · rintro (⟨j, hj, hlab⟩ | ⟨habs, -⟩)
      · rwa [hl.unique i j (hi ▸ hpal) (hi.trans hj.symm)]
      · exact absurd hi (habs i)
  | inserted i habsent hfree hlen =>
    have hlab : (P11Object.mk pal (blit (l.xObjects i).xLabel 0 bytes)).label = cstr bytes := by
      rw [P11Object.label, blit_free hlen (hl.ok i) hfree, cstr_append_nul]
    refine ⟨i, rfl, by simp, ?_⟩
    simp only [Function.update_self, hlab]
    constructor
    · intro h
      exact .inr ⟨habsent, hlen, h⟩
    · rintro (⟨j, hj, -⟩ | ⟨-, -, h⟩)
      · exact absurd hj (habsent j)
      · exact h

/-- An add that succeeds takes the slots that it needs, and leaves every other object alone. -/
theorem added_room (hok : (prvAddObjectToList lock l pal bytes).1 = .ok)
    (hpal : pal ≠ ckInvalidHandle) :
    (freeSlots (prvAddObjectToList lock l pal bytes).2.2).card + unlisted l pal =
      (freeSlots l).card ∧
    ∀ j, (l.xObjects j).xHandle ≠ ckInvalidHandle ∨
      ((prvAddObjectToList lock l pal bytes).2.2.xObjects j).xHandle ≠ pal →
      (prvAddObjectToList lock l pal bytes).2.2.xObjects j = l.xObjects j := by
  have ho := prvAddObjectToList_outcome lock l pal bytes
  generalize prvAddObjectToList lock l pal bytes = r at ho hok ⊢
  cases ho with
  | locked | full | long => cases hok
  | present i hi =>
    simp [unlisted_present hi]
  | inserted i habsent hfree hlen =>
    have herase : freeSlots ⟨Function.update l.xObjects i ⟨pal, blit (l.xObjects i).xLabel 0 bytes⟩,
        l.before⟩ = (freeSlots l).erase i := by
      ext j
      rw [Finset.mem_erase, mem_freeSlots, mem_freeSlots]
      by_cases hji : j = i
      · subst hji
        simp [hpal]
      · simp [hji, Function.update_of_ne hji]
    rw [herase, unlisted_absent habsent]
    refine ⟨Finset.card_erase_add_one (mem_freeSlots.2 hfree), ?_⟩
    intro j hj
    have hji : j ≠ i := by
      rintro rfl
      simp [hfree] at hj
    exact Function.update_of_ne hji _ _

section
variable {l' : P11ObjectList}
  (hframe : ∀ j, (l.xObjects j).xHandle = pal ∨ (l'.xObjects j).xHandle = pal →
    l'.xObjects j = l.xObjects j)
include hframe

/-- Lists that have the object in the same slots. -/
theorem xHandle_frame (j : Fin pkcs11configMaxNumObjects) :
    (l'.xObjects j).xHandle = pal ↔ (l.xObjects j).xHandle = pal := by
  constructor
  · intro h
    rwa [hframe j (.inr h)] at h
  · intro h
    rwa [hframe j (.inl h)]

theorem unlisted_frame : unlisted l' pal = unlisted l pal := by
  simp only [unlisted, xHandle_frame hframe]

theorem listsUnder_frame (label bytes : List UInt8) :
    ListsUnder l' pal label bytes ↔ ListsUnder l pal label bytes := by
  have hex : (∃ i, (l'.xObjects i).xHandle = pal ∧ (l'.xObjects i).label = label) ↔
      ∃ i, (l.xObjects i).xHandle = pal ∧ (l.xObjects i).label = label := by
    constructor
    · rintro ⟨i, hi, hlab⟩
      have he := hframe i (.inr hi)
      exact ⟨i, he ▸ hi, he ▸ hlab⟩
    · rintro ⟨i, hi, hlab⟩
      have he := hframe i (.inl hi)
      exact ⟨i, he ▸ hi, he ▸ hlab⟩
  unfold ListsUnder
  rw [hex]
  simp only [ne_eq, xHandle_frame hframe]

end

/-! ## The keys in PSA -/

/-- The handle that a created key gets. -/
def newId (id : KeyHandle) (a : PsaStores.NewKeyAns) : KeyHandle :=
  if id = 0 then a.volatileId.val else id

theorem newId_keyIdOf (k : DeviceKey) (a : PsaStores.NewKeyAns) :
    newId (keyIdOf k k.label) a = k.keyId := by
  rw [keyIdOf, if_pos rfl, newId, if_neg (keyId_bounds k).1]

/-- A key is created when PSA reports no fault and its id is free. -/
theorem newKey_eq (p : PsaStores κ) (id : KeyHandle) (key : StoredKey κ) (a : PsaStores.NewKeyAns) :
    (¬(a.fault = none ∧ p.keys (newId id a).toNat = none) ∧
      ∃ st, st ≠ psaSuccess ∧ p.newKey id key a = (p, st, 0)) ∨
    (a.fault = none ∧ p.keys (newId id a).toNat = none) ∧
      p.newKey id key a = (p.addKey (newId id a) key, psaSuccess, newId id a) := by
  rcases newKey_cases p id key a with ⟨st, hst, hn⟩ | ⟨h, rfl, hf, hn, hk⟩
  · refine .inl ⟨?_, st, hst, hn⟩
    rintro ⟨hf, hfree⟩
    simp only [PsaStores.newKey, psaCreateKey, hf, newId] at hn hfree
    simp only [hfree, if_true] at hn
    exact hst (congrArg (·.2.1) hn).symm
  · exact .inr ⟨⟨hf, hn⟩, hk⟩

/-- The handle of the private key. -/
def privateKeyId (prv : List UInt8) (a : KeyPairAns κ) : KeyHandle :=
  newId (keyIdOf .devicePrivate prv) a.generateKey

/-- `psa_generate_key` creates the private key. -/
def CreatesPrivate (p : PsaStores κ) (prv : List UInt8) (a : KeyPairAns κ) : Prop :=
  a.generateKey.fault = none ∧ p.keys (privateKeyId prv a).toNat = none

/-- `psa_export_public_key` succeeds. -/
def ExportsPublic (publicKey : κ → List UInt8) (a : KeyPairAns κ) : Prop :=
  a.exportPublicKey = none ∧ (publicKey a.key).length ≤ pkcs11KeyEcpointLength

theorem exportPublicKey_addKey (publicKey : κ → List UInt8) (p : PsaStores κ) (h : KeyHandle)
    (a : KeyPairAns κ) :
    (¬ExportsPublic publicKey a ∧ ∃ st point, st ≠ psaSuccess ∧
      (p.addKey h (.keyPair a.key)).exportPublicKey publicKey h pkcs11KeyEcpointLength
        a.exportPublicKey = (st, point)) ∨
    (ExportsPublic publicKey a ∧
      (p.addKey h (.keyPair a.key)).exportPublicKey publicKey h pkcs11KeyEcpointLength
        a.exportPublicKey = (psaSuccess, publicKey a.key)) := by
  unfold PsaStores.exportPublicKey
  rw [PsaStores.addKey_self]
  cases hf : a.exportPublicKey with
  | some e =>
    refine .inl ⟨?_, e, [], e.2, rfl⟩
    intro h
    exact Option.some_ne_none e (hf.symm.trans h.1)
  | none =>
    by_cases hlen : (publicKey a.key).length ≤ pkcs11KeyEcpointLength
    · exact .inr ⟨⟨hf, hlen⟩, if_pos hlen⟩
    · exact .inl ⟨fun h => hlen h.2, psaErrorBufferTooSmall, [], by decide, if_neg hlen⟩

theorem generatePrivateKey_cases (publicKey : κ → List UInt8) (p : PsaStores κ) (prv : List UInt8)
    (a : KeyPairAns κ) :
    (¬CreatesPrivate p prv a ∧ ∃ st, st ≠ psaSuccess ∧
      generatePrivateKey publicKey p prv a = (⟨p, st, 0, 0⟩, [])) ∨
    (CreatesPrivate p prv a ∧ ¬ExportsPublic publicKey a ∧ ∃ st point, st ≠ psaSuccess ∧
      generatePrivateKey publicKey p prv a =
        (⟨p.addKey (privateKeyId prv a) (.keyPair a.key), st, privateKeyId prv a, 0⟩, point)) ∨
    (CreatesPrivate p prv a ∧ ExportsPublic publicKey a ∧
      generatePrivateKey publicKey p prv a =
        (⟨p.addKey (privateKeyId prv a) (.keyPair a.key), psaSuccess, privateKeyId prv a, 0⟩,
          publicKey a.key)) := by
  unfold generatePrivateKey
  rcases newKey_eq p (keyIdOf .devicePrivate prv) (.keyPair a.key) a.generateKey with
    ⟨hno, st, hst, hn⟩ | ⟨hyes, hk⟩
  · refine .inl ⟨hno, st, hst, ?_⟩
    simp only [hn, hst, if_false]
  · refine .inr ?_
    simp only [hk, if_true]
    rcases exportPublicKey_addKey publicKey p (newId (keyIdOf .devicePrivate prv) a.generateKey) a with
      ⟨hno, st, point, hst, hx⟩ | ⟨hx, he⟩
    · refine .inl ⟨hyes, hno, st, point, hst, ?_⟩
      simp only [hx, privateKeyId]
    · refine .inr ⟨hyes, hx, ?_⟩
      simp only [he, privateKeyId]

theorem importPublicKey_cases (g : GeneratedKeys κ) (pub point : List UInt8) (a : KeyPairAns κ) :
    let h := newId (keyIdOf .devicePublic pub) a.importKey
    (¬(a.importKey.fault = none ∧ g.psa.keys h.toNat = none) ∧ ∃ st, st ≠ psaSuccess ∧
      importPublicKey g pub point a = ⟨g.psa, st, g.hPrivate, 0⟩) ∨
    (a.importKey.fault = none ∧ g.psa.keys h.toNat = none) ∧
      importPublicKey g pub point a =
        ⟨g.psa.addKey h (.publicKey point), psaSuccess, g.hPrivate, h⟩ := by
  dsimp only
  unfold importPublicKey
  rcases newKey_eq g.psa (keyIdOf .devicePublic pub) (.publicKey point) a.importKey with
    ⟨hno, st, hst, hn⟩ | ⟨hyes, hk⟩
  · exact .inl ⟨hno, st, hst, by simp only [hn]⟩
  · exact .inr ⟨hyes, by simp only [hk]⟩

/-! ## The end of the call -/

/-- A handle resolves to a key: through the list to a label, and through `P11KeyConfig` to a key of
PSA. -/
def Resolves (d : Device κ) (h : ObjectHandle) (key : StoredKey κ) : Prop :=
  ∃ pal label kh, prvFindObjectInListByHandle d.p11.xObjectList h = (pal, some label) ∧
    pkcs11PsaGetKeyHandle d.p11.p11KeyConfig label = (.ok, kh) ∧ d.psa.keys kh.toNat = some key

/-- The entry of a key resolves if its label is whole. -/
theorem resolves_iff {d : Device κ} {k : DeviceKey} {i : Fin pkcs11configMaxNumObjects}
    (hne : (d.p11.xObjectList.xObjects i).xHandle ≠ ckInvalidHandle)
    (hp : (d.p11.xObjectList.xObjects i).label <+: k.label) (hm : d.p11.p11KeyConfig.mark k = true)
    (key : StoredKey κ) : Resolves d (appHandle i) key ↔
      (d.p11.xObjectList.xObjects i).label = k.label ∧
        d.psa.keys (d.p11.p11KeyConfig.handle k).toNat = some key := by
  unfold Resolves
  rw [prvFindObjectInListByHandle_appHandle, if_pos hne]
  constructor
  · rintro ⟨pal, label, kh, hfind, hget, hkey⟩
    cases hfind
    obtain ⟨j, hj⟩ := getKeyHandle_nul_ok hget
    have hjk : j = k := DeviceKey.label_prefix_inj (hj ▸ hp)
    rw [hj, hjk, getKeyHandle_nul, if_pos hm] at hget
    cases hget
    exact ⟨hj.trans (congrArg _ hjk), hkey⟩
  · rintro ⟨hl, hkey⟩
    refine ⟨_, _, _, rfl, ?_, hkey⟩
    rw [hl, getKeyHandle_nul, if_pos hm]

theorem recordKey_label (d : Device κ) (k : DeviceKey) (pal : ObjectHandle) (bytes : List UInt8)
    (h : KeyHandle) (lock : Bool) :
    recordKey d k pal k.label bytes h lock =
      ((prvAddObjectToList lock d.p11.xObjectList pal bytes).1,
        (prvAddObjectToList lock d.p11.xObjectList pal bytes).2.1,
        ⟨{ d.p11 with
            p11KeyConfig := d.p11.p11KeyConfig.setKey h true k
            xObjectList := (prvAddObjectToList lock d.p11.xObjectList pal bytes).2.2 }, d.psa⟩) := by
  rw [recordKey, if_pos rfl, import_key]

section
variable (d : Device κ) (g : GeneratedKeys κ) (prvBytes pubBytes : List UInt8) (a : KeyPairAns κ)
  (hPub hPrv : ObjectHandle)

/-- The insertion of the private key. -/
abbrev addPrivate : CkRv × Option ObjectHandle × P11ObjectList :=
  prvAddObjectToList a.lockPrivate d.p11.xObjectList eAwsDevicePrivateKey prvBytes

/-- The insertion of the public key, after it. -/
abbrev addPublic : CkRv × Option ObjectHandle × P11ObjectList :=
  prvAddObjectToList a.lockPublic (addPrivate d prvBytes a).2.2 eAwsDevicePublicKey pubBytes

theorem recordKeys_label (hok : (addPrivate d prvBytes a).1 = .ok) :
    recordKeys d g labelDevicePrivateKeyForTls labelDevicePublicKeyForTls prvBytes pubBytes a hPub
      hPrv =
      ⟨(addPublic d prvBytes pubBytes a).1, some ((addPublic d prvBytes pubBytes a).2.1.getD hPub),
        some ((addPrivate d prvBytes a).2.1.getD hPrv), [.malloc],
        ⟨{ d.p11 with
            p11KeyConfig := (d.p11.p11KeyConfig.setKey g.hPrivate true .devicePrivate).setKey
              g.hPublic true .devicePublic
            xObjectList := (addPublic d prvBytes pubBytes a).2.2 }, g.psa⟩⟩ := by
  have h1 := recordKey_label ⟨d.p11, g.psa⟩ .devicePrivate eAwsDevicePrivateKey prvBytes g.hPrivate
    a.lockPrivate
  simp only [DeviceKey.label] at h1
  unfold recordKeys
  simp only [h1, hok]
  have h2 := recordKey_label (κ := κ) ⟨{ d.p11 with
      p11KeyConfig := d.p11.p11KeyConfig.setKey g.hPrivate true .devicePrivate
      xObjectList := (addPrivate d prvBytes a).2.2 }, g.psa⟩ .devicePublic eAwsDevicePublicKey pubBytes
    g.hPublic a.lockPublic
  simp only [DeviceKey.label] at h2
  rw [h2]

theorem recordKeys_ok_iff (prv pub : List UInt8) :
    (recordKeys d g prv pub prvBytes pubBytes a hPub hPrv).rv = .ok ↔
      prv = labelDevicePrivateKeyForTls ∧ pub = labelDevicePublicKeyForTls ∧
        (addPrivate d prvBytes a).1 = .ok ∧ (addPublic d prvBytes pubBytes a).1 = .ok := by
  by_cases hprv : prv = labelDevicePrivateKeyForTls
  swap
  · have h1 : recordKey ⟨d.p11, g.psa⟩ .devicePrivate eAwsDevicePrivateKey prv prvBytes g.hPrivate
        a.lockPrivate = (.attributeValueInvalid, none, ⟨d.p11, g.psa⟩) := if_neg hprv
    unfold recordKeys
    simp [h1, hprv]
  subst hprv
  by_cases hok : (addPrivate d prvBytes a).1 = .ok
  swap
  · have h1 := recordKey_label ⟨d.p11, g.psa⟩ .devicePrivate eAwsDevicePrivateKey prvBytes g.hPrivate
      a.lockPrivate
    simp only [DeviceKey.label] at h1
    unfold recordKeys
    simp only [h1, hok, false_and, and_false]
  by_cases hpub : pub = labelDevicePublicKeyForTls
  · subst hpub
    rw [recordKeys_label d g prvBytes pubBytes a hPub hPrv hok]
    simp [hok]
  · have h1 := recordKey_label ⟨d.p11, g.psa⟩ .devicePrivate eAwsDevicePrivateKey prvBytes g.hPrivate
      a.lockPrivate
    simp only [DeviceKey.label] at h1
    unfold recordKeys
    simp only [h1, hok]
    simp only [recordKey, DeviceKey.label]
    simp [hpub]

end

/-! ## Both insertions -/

theorem privateObject_mem : PersistentObject.key labelDevicePrivateKeyForTls eAwsDevicePrivateKey
    psaDevicePrivateKeyId (·.xDevicePrivateKeyMark) ∈ persistentObjects :=
  List.getElem_mem (by decide : 0 < persistentObjects.length)

theorem publicObject_mem : PersistentObject.key labelDevicePublicKeyForTls eAwsDevicePublicKey
    psaDevicePublicKeyId (·.xDevicePublicKeyMark) ∈ persistentObjects :=
  List.getElem_mem (by decide : 1 < persistentObjects.length)

section
variable {d : Device κ} {prvBytes pubBytes : List UInt8} {a : KeyPairAns κ}

/-- The first insertion leaves the public key where it is. -/
theorem addPrivate_frame (hok : (addPrivate d prvBytes a).1 = .ok) (j : Fin pkcs11configMaxNumObjects)
    (hj : (d.p11.xObjectList.xObjects j).xHandle = eAwsDevicePublicKey ∨
      ((addPrivate d prvBytes a).2.2.xObjects j).xHandle = eAwsDevicePublicKey) :
    (addPrivate d prvBytes a).2.2.xObjects j = d.p11.xObjectList.xObjects j := by
  apply (added_room hok (by decide)).2
  rcases hj with hj | hj
  · exact .inl (by rw [hj]; decide)
  · exact .inr (by rw [hj]; decide)

/-- **Both keys are listed**: the mutex is taken twice, the list has room for what it lacks, and the
labels are short enough. -/
theorem adds_ok_iff :
    ((addPrivate d prvBytes a).1 = .ok ∧ (addPublic d prvBytes pubBytes a).1 = .ok) ↔
      (a.lockPrivate = true ∧ a.lockPublic = true) ∧
      unlisted d.p11.xObjectList eAwsDevicePrivateKey +
        unlisted d.p11.xObjectList eAwsDevicePublicKey ≤ (freeSlots d.p11.xObjectList).card ∧
      ((∀ i, (d.p11.xObjectList.xObjects i).xHandle ≠ eAwsDevicePrivateKey) →
        prvBytes.length < pkcs11configMaxLabelLength) ∧
      ((∀ i, (d.p11.xObjectList.xObjects i).xHandle ≠ eAwsDevicePublicKey) →
        pubBytes.length < pkcs11configMaxLabelLength) := by
  have h2 : (addPrivate d prvBytes a).1 = .ok → ((addPublic d prvBytes pubBytes a).1 = .ok ↔
      a.lockPublic = true ∧
      unlisted d.p11.xObjectList eAwsDevicePublicKey + unlisted d.p11.xObjectList eAwsDevicePrivateKey ≤
        (freeSlots d.p11.xObjectList).card ∧
      ((∀ i, (d.p11.xObjectList.xObjects i).xHandle ≠ eAwsDevicePublicKey) →
        pubBytes.length < pkcs11configMaxLabelLength)) := by
    intro hok
    have hframe := addPrivate_frame hok
    have hroom := (added_room hok (by decide)).1
    rw [add_ok_iff, unlisted_frame hframe, ← hroom, Nat.add_le_add_iff_right]
    simp only [ne_eq, xHandle_frame hframe]
  constructor
  · rintro ⟨hprv, hpub⟩
    obtain ⟨hlock, hroom, hshort⟩ := (h2 hprv).1 hpub
    obtain ⟨hlock', -, hshort'⟩ := (add_ok_iff _ _ _ _).1 hprv
    exact ⟨⟨hlock', hlock⟩, by rwa [Nat.add_comm] at hroom, hshort', hshort⟩
  · rintro ⟨⟨hlock', hlock⟩, hroom, hshort', hshort⟩
    have hprv : (addPrivate d prvBytes a).1 = .ok :=
      (add_ok_iff _ _ _ _).2 ⟨hlock', (Nat.le_add_right _ _).trans hroom, hshort'⟩
    exact ⟨hprv, (h2 hprv).2 ⟨hlock, by rwa [Nat.add_comm], hshort⟩⟩

theorem ListsUnder.short {label : List UInt8} (h : ListsUnder l pal label bytes)
    (habs : ∀ i, (l.xObjects i).xHandle ≠ pal) : bytes.length < pkcs11configMaxLabelLength := by
  rcases h with ⟨i, hi, -⟩ | ⟨-, hlen, -⟩
  · exact absurd hi (habs i)
  · exact hlen

end

/-- The handles that the call returns resolve to a private key and to its public key. -/
def Done (publicKey : κ → List UInt8) (r : KeyPairResult κ) : Prop :=
  ∃ hPrv hPub key, r.pxPrivateKey = some hPrv ∧ r.pxPublicKey = some hPub ∧
    Resolves r.post hPrv (.keyPair key) ∧ Resolves r.post hPub (.publicKey (publicKey key))

/-- **What a call that succeeds returns** resolves if both entries stand under the whole labels. -/
theorem recordKeys_done {publicKey : κ → List UInt8} {d : Device κ} {g : GeneratedKeys κ}
    {prvBytes pubBytes : List UInt8} {a : KeyPairAns κ} (hPub hPrv : ObjectHandle)
    (hl : Listed d.p11.xObjectList) (hprvBytes : cstr prvBytes <+: labelDevicePrivateKeyForTls)
    (hpubBytes : cstr pubBytes <+: labelDevicePublicKeyForTls)
    (hprv : (addPrivate d prvBytes a).1 = .ok) (hpub : (addPublic d prvBytes pubBytes a).1 = .ok)
    (hkprv : g.psa.keys g.hPrivate.toNat = some (.keyPair a.key))
    (hkpub : g.psa.keys g.hPublic.toNat = some (.publicKey (publicKey a.key))) :
    Done publicKey (recordKeys d g labelDevicePrivateKeyForTls labelDevicePublicKeyForTls prvBytes
      pubBytes a hPub hPrv) ↔
    ListsUnder d.p11.xObjectList eAwsDevicePrivateKey labelDevicePrivateKeyForTls prvBytes ∧
      ListsUnder d.p11.xObjectList eAwsDevicePublicKey labelDevicePublicKeyForTls pubBytes := by
  have hl1 : Listed (addPrivate d prvBytes a).2.2 :=
    (ListMove.add a.lockPrivate privateObject_mem hprvBytes).listed hl
  have hl2 : Listed (addPublic d prvBytes pubBytes a).2.2 :=
    (ListMove.add a.lockPublic publicObject_mem hpubBytes).listed hl1
  obtain ⟨i, hi, hipal, hilab⟩ := added_entry hl hprv (by decide) labelDevicePrivateKeyForTls
  obtain ⟨j, hj, hjpal, hjlab⟩ := added_entry hl1 hpub (by decide) labelDevicePublicKeyForTls
  -- the second insertion leaves the private key where it is
  have hkeep : (addPublic d prvBytes pubBytes a).2.2.xObjects i =
      (addPrivate d prvBytes a).2.2.xObjects i := by
    apply (added_room hpub (by decide)).2
    exact .inl (by rw [hipal]; decide)
  rw [listsUnder_frame (addPrivate_frame hprv)] at hjlab
  rw [← hkeep] at hipal hilab
  have hine : ((addPublic d prvBytes pubBytes a).2.2.xObjects i).xHandle ≠ ckInvalidHandle := by
    rw [hipal]
    decide
  have hjne : ((addPublic d prvBytes pubBytes a).2.2.xObjects j).xHandle ≠ ckInvalidHandle := by
    rw [hjpal]
    decide
  rw [recordKeys_label d g prvBytes pubBytes a hPub hPrv hprv]
  unfold Done
  simp only [hi, hj, Option.getD_some, Option.some.injEq]
  have hrprv := fun key : κ => resolves_iff (k := .devicePrivate)
    (d := ⟨{ d.p11 with
      p11KeyConfig := (d.p11.p11KeyConfig.setKey g.hPrivate true .devicePrivate).setKey
        g.hPublic true .devicePublic
      xObjectList := (addPublic d prvBytes pubBytes a).2.2 }, g.psa⟩) hine
    ((hl2.stands i hine).label privateObject_mem hipal) rfl (.keyPair key)
  have hrpub := fun key : κ => resolves_iff (k := .devicePublic)
    (d := ⟨{ d.p11 with
      p11KeyConfig := (d.p11.p11KeyConfig.setKey g.hPrivate true .devicePrivate).setKey
        g.hPublic true .devicePublic
      xObjectList := (addPublic d prvBytes pubBytes a).2.2 }, g.psa⟩) hjne
    ((hl2.stands j hjne).label publicObject_mem hjpal) rfl (.publicKey (publicKey key))
  constructor
  · rintro ⟨_, _, key, rfl, rfl, h1, h2⟩
    exact ⟨hilab.1 ((hrprv key).1 h1).1, hjlab.1 ((hrpub key).1 h2).1⟩
  · rintro ⟨h1, h2⟩
    exact ⟨_, _, a.key, rfl, rfl, (hrprv a.key).2 ⟨hilab.2 h1, hkprv⟩,
      (hrpub a.key).2 ⟨hjlab.2 h2, hkpub⟩⟩

/-! ## The call -/

/-- **All or nothing**: a call that fails leaves the keys, `P11KeyConfig` and the list as they were,
and the handles of one that succeeds resolve. -/
structure AllOrNothing (publicKey : κ → List UInt8) (d : Device κ) (r : KeyPairResult κ) : Prop where
  failed : r.rv ≠ .ok → r.post.psa.keys = d.psa.keys ∧
    r.post.p11.p11KeyConfig = d.p11.p11KeyConfig ∧ r.post.p11.xObjectList = d.p11.xObjectList
  done : r.rv = .ok → Done publicKey r

/-- Nothing fails after `psa_generate_key`: the labels are those of the slots, the public key is
exported and imported, and both keys are listed under their whole labels. -/
structure Completes (publicKey : κ → List UInt8) (d : Device κ) (a : KeyPairAns κ)
    (prv prvBytes pub pubBytes : List UInt8) : Prop where
  privateLabel : prv = labelDevicePrivateKeyForTls
  publicLabel : pub = labelDevicePublicKeyForTls
  exported : ExportsPublic publicKey a
  imported : a.importKey.fault = none ∧ d.psa.keys psaDevicePublicKeyId.toNat = none
  locks : a.lockPrivate = true ∧ a.lockPublic = true
  room : unlisted d.p11.xObjectList eAwsDevicePrivateKey +
    unlisted d.p11.xObjectList eAwsDevicePublicKey ≤ (freeSlots d.p11.xObjectList).card
  privateEntry :
    ListsUnder d.p11.xObjectList eAwsDevicePrivateKey labelDevicePrivateKeyForTls prvBytes
  publicEntry :
    ListsUnder d.p11.xObjectList eAwsDevicePublicKey labelDevicePublicKeyForTls pubBytes

/-- If the call comes to `psa_generate_key` and that succeeds, the rest does too. -/
def CompletesOnceCreated (publicKey : κ → List UInt8) (d : Device κ) (args : KeyPairArgs)
    (a : KeyPairAns κ) : Prop :=
  ∀ labels prv, checkKeyPair d.p11 args a.malloc = some (.ok labels) →
    labels.privateLabel.string = some prv → CreatesPrivate d.psa prv a →
    ∃ prvBytes pub pubBytes, labels.privateLabel.bytes = some prvBytes ∧
      labels.publicLabel.string = some pub ∧ labels.publicLabel.bytes = some pubBytes ∧
      Completes publicKey d a prv prvBytes pub pubBytes

theorem checkKeyPair_error_ne {s : State} {args : KeyPairArgs} {malloc : Bool} {e : CkRv}
    (h : checkKeyPair s args malloc = some (.error e)) : e ≠ .ok := by
  -- a template check that answers `CKR_OK` goes on, with or without a label
  have hcheck : ∀ {o : Option CkAttribute}, (∀ label, e = .ok → o = some label → False) →
      (e = .ok → o = none → False) → e ≠ .ok := by
    intro o hsome hnone he
    cases o with
    | none => exact hnone he rfl
    | some label => exact hsome label he rfl
  unfold checkKeyPair at h
  split at h
  swap
  · cases h; decide
  split at h
  · cases h; exact sessionCheck_error_ne ‹_›
  split at h
  swap
  · cases h; decide
  split at h
  · cases h; decide
  split at h
  · split at h
    · cases h
    · cases h
    · rename_i o hsome hnone _
      cases h
      exact hcheck hsome hnone
    · cases h
  · cases h
  · rename_i o hsome hnone _
    cases h
    exact hcheck hsome hnone
  · cases h

theorem checkKeyPair_malloc {s : State} {args : KeyPairArgs} {malloc : Bool} {labels : KeyPairLabels}
    (h : checkKeyPair s args malloc = some (.ok labels)) : malloc = true := by
  unfold checkKeyPair at h
  split at h
  · assumption
  · cases h

theorem generate_heap {publicKey : κ → List UInt8} {d : Device κ} {args : KeyPairArgs}
    {a : KeyPairAns κ} {r : KeyPairResult κ} (h : cGenerateKeyPair publicKey d args a = some r) :
    r.heap = if a.malloc then [.malloc] else [] := by
  cases generate_outcome h with
  | refused | privateFails | publicFails => rfl
  | recorded hc =>
    rw [checkKeyPair_malloc hc, if_pos rfl]
    unfold recordKeys
    dsimp only
    split
    · rfl
    · rfl

/-- The private key that was created is still there when both keys are. -/
theorem importPublicKey_keeps (g : GeneratedKeys κ) (pub point : List UInt8) (a : KeyPairAns κ)
    {id : Nat} (h : g.psa.keys id ≠ none) : (importPublicKey g pub point a).psa.keys id ≠ none :=
  (importPublicKey_moves True False .zero g point a fun h => absurd trivial h).2.1 id h

theorem recordKeys_psa (d : Device κ) (g : GeneratedKeys κ) (prv pub prvBytes pubBytes : List UInt8)
    (a : KeyPairAns κ) (hPub hPrv : ObjectHandle) :
    (recordKeys d g prv pub prvBytes pubBytes a hPub hPrv).post.psa = g.psa := by
  have hkeep : ∀ (d : Device κ) (k : DeviceKey) (pal : ObjectHandle) (label bytes : List UInt8)
      (h : KeyHandle) (lock : Bool), (recordKey d k pal label bytes h lock).2.2.psa = d.psa := by
    intro d k pal label bytes h lock
    unfold recordKey
    split
    · rfl
    · rfl
  rw [recordKeys_post]
  split
  · rw [hkeep, hkeep]
  · rw [hkeep]

/-- A call that leaves the private key does not leave the keys as they were. -/
theorem not_allOrNothing {publicKey : κ → List UInt8} {d : Device κ} {prv : List UInt8}
    {a : KeyPairAns κ} {r : KeyPairResult κ} (hc : CreatesPrivate d.psa prv a)
    (hkey : r.post.psa.keys (privateKeyId prv a).toNat ≠ none) (hrv : r.rv ≠ .ok) :
    ¬AllOrNothing publicKey d r := by
  intro h
  rw [(h.failed hrv).1] at hkey
  exact hkey hc.2

theorem Completes.adds {publicKey : κ → List UInt8} {d : Device κ} {a : KeyPairAns κ}
    {prv prvBytes pub pubBytes : List UInt8} (h : Completes publicKey d a prv prvBytes pub pubBytes) :
    (addPrivate d prvBytes a).1 = .ok ∧ (addPublic d prvBytes pubBytes a).1 = .ok :=
  adds_ok_iff.2 ⟨h.locks, h.room, h.privateEntry.short, h.publicEntry.short⟩

/-- The import of a call that completes. -/
theorem Completes.imports {publicKey : κ → List UInt8} {d : Device κ} {a : KeyPairAns κ}
    {prv prvBytes pub pubBytes : List UInt8} (h : Completes publicKey d a prv prvBytes pub pubBytes) :
    a.importKey.fault = none ∧ (d.psa.addKey (privateKeyId prv a) (.keyPair a.key)).keys
      (newId (keyIdOf .devicePublic pub) a.importKey).toNat = none := by
  have hprv : privateKeyId prv a = psaDevicePrivateKeyId := by
    rw [privateKeyId, h.privateLabel]
    exact newId_keyIdOf .devicePrivate _
  have hpub : newId (keyIdOf .devicePublic pub) a.importKey = psaDevicePublicKeyId := by
    rw [h.publicLabel]
    exact newId_keyIdOf .devicePublic _
  rw [hprv, hpub]
  refine ⟨h.imported.1, ?_⟩
  rw [PsaStores.addKey_keys (by decide)]
  exact h.imported.2

/-- The keys of a call that got as far as the import. -/
theorem recorded_iff {publicKey : κ → List UInt8} {d : Device κ} {a : KeyPairAns κ}
    {prv prvBytes pub pubBytes : List UInt8} (hPub hPrv : ObjectHandle)
    (hl : Listed d.p11.xObjectList) (hprvBytes : cstr prvBytes <+: prv)
    (hpubBytes : cstr pubBytes <+: pub) (hx : ExportsPublic publicKey a)
    (hgen : generatePrivateKey publicKey d.psa prv a =
      (⟨d.psa.addKey (privateKeyId prv a) (.keyPair a.key), psaSuccess, privateKeyId prv a, 0⟩,
        publicKey a.key)) (hc : CreatesPrivate d.psa prv a)
    (himp : (importPublicKey (generatePrivateKey publicKey d.psa prv a).1 pub
      (generatePrivateKey publicKey d.psa prv a).2 a).uxStatus = psaSuccess) :
    AllOrNothing publicKey d (recordKeys d (importPublicKey
      (generatePrivateKey publicKey d.psa prv a).1 pub (generatePrivateKey publicKey d.psa prv a).2 a)
        prv pub prvBytes pubBytes a hPub hPrv) ↔
      Completes publicKey d a prv prvBytes pub pubBytes := by
  rw [hgen] at himp ⊢
  have hself : (d.psa.addKey (privateKeyId prv a) (.keyPair a.key)).keys (privateKeyId prv a).toNat =
      some (.keyPair a.key) := PsaStores.addKey_self
  rcases importPublicKey_cases ⟨d.psa.addKey (privateKeyId prv a) (.keyPair a.key), psaSuccess,
    privateKeyId prv a, 0⟩ pub (publicKey a.key) a with ⟨-, st, hst, hi⟩ | ⟨hyes, hi⟩
  · rw [hi] at himp
    exact absurd himp hst
  have hne : (privateKeyId prv a).toNat ≠ (newId (keyIdOf .devicePublic pub) a.importKey).toNat := by
    intro he
    have hnone := hyes.2
    rw [← he, hself] at hnone
    cases hnone
  simp only [hi]
  by_cases hok : (recordKeys d ⟨(d.psa.addKey (privateKeyId prv a) (.keyPair a.key)).addKey
      (newId (keyIdOf .devicePublic pub) a.importKey) (.publicKey (publicKey a.key)), psaSuccess,
      privateKeyId prv a, newId (keyIdOf .devicePublic pub) a.importKey⟩ prv pub prvBytes pubBytes a
      hPub hPrv).rv = .ok
  · obtain ⟨rfl, rfl, hprv, hpub⟩ := (recordKeys_ok_iff _ _ _ _ _ _ _ _ _).1 hok
    have hself' : ((d.psa.addKey (privateKeyId labelDevicePrivateKeyForTls a) (.keyPair a.key)).addKey
        (newId (keyIdOf .devicePublic labelDevicePublicKeyForTls) a.importKey)
        (.publicKey (publicKey a.key))).keys
        (newId (keyIdOf .devicePublic labelDevicePublicKeyForTls) a.importKey).toNat =
          some (.publicKey (publicKey a.key)) := PsaStores.addKey_self
    have hdone := recordKeys_done (g := ⟨_, psaSuccess, privateKeyId labelDevicePrivateKeyForTls a,
      newId (keyIdOf .devicePublic labelDevicePublicKeyForTls) a.importKey⟩) hPub hPrv hl hprvBytes
      hpubBytes hprv hpub ((PsaStores.addKey_keys hne).trans hself) hself'
    obtain ⟨hlocks, hroom, -⟩ := adds_ok_iff.1 ⟨hprv, hpub⟩
    have himported : d.psa.keys psaDevicePublicKeyId.toNat = none := by
      have hnone := hyes.2
      rw [PsaStores.addKey_keys hne.symm] at hnone
      have hid : newId (keyIdOf .devicePublic labelDevicePublicKeyForTls) a.importKey =
        psaDevicePublicKeyId := newId_keyIdOf .devicePublic _
      rwa [hid] at hnone
    constructor
    · intro h
      obtain ⟨h1, h2⟩ := hdone.1 (h.done hok)
      exact ⟨rfl, rfl, hx, ⟨hyes.1, himported⟩, hlocks, hroom, h1, h2⟩
    · intro h
      exact ⟨fun hne => absurd hok hne, fun _ => hdone.2 ⟨h.privateEntry, h.publicEntry⟩⟩
  · refine iff_of_false (not_allOrNothing hc ?_ hok) ?_
    · rw [recordKeys_psa, PsaStores.addKey_keys hne, hself]
      exact Option.some_ne_none _
    · intro h
      exact hok ((recordKeys_ok_iff _ _ _ _ _ _ _ _ _).2
        ⟨h.privateLabel, h.publicLabel, h.adds.1, h.adds.2⟩)

/-- **The state**: everything or nothing, exactly when what follows the creation of the private key
succeeds. -/
theorem generate_state_iff {publicKey : κ → List UInt8} {d : Device κ}
    (hl : Listed d.p11.xObjectList) {args : KeyPairArgs} {a : KeyPairAns κ} {r : KeyPairResult κ}
    (h : cGenerateKeyPair publicKey d args a = some r) :
    AllOrNothing publicKey d r ↔ CompletesOnceCreated publicKey d args a := by
  have hself : ∀ prv, (d.psa.addKey (privateKeyId prv a) (.keyPair a.key)).keys
      (privateKeyId prv a).toNat ≠ none := by
    intro prv
    rw [PsaStores.addKey_self]
    exact Option.some_ne_none _
  cases generate_outcome h with
  | refused e hc =>
    refine iff_of_true ⟨fun _ => ⟨rfl, rfl, rfl⟩, ?_⟩ ?_
    · intro he
      exact absurd he (checkKeyPair_error_ne hc)
    · intro labels prv hc'
      rw [hc] at hc'
      cases hc'
  | @privateFails labels prv hc hp hst =>
    rcases generatePrivateKey_cases publicKey d.psa prv a with
      ⟨hno, st, -, hg⟩ | ⟨hyes, hno, st, point, -, hg⟩ | ⟨-, -, hg⟩
    · rw [hg]
      refine iff_of_true ⟨fun _ => ⟨rfl, rfl, rfl⟩, fun h => by cases h⟩ ?_
      intro labels' prv' hc' hp' hcr
      rw [hc] at hc'
      cases hc'
      rw [hp] at hp'
      cases hp'
      exact absurd hcr hno
    · refine iff_of_false (not_allOrNothing hyes ?_ (by simp)) ?_
      · rw [hg]
        exact hself prv
      · intro h
        obtain ⟨_, _, _, -, -, -, hcomp⟩ := h labels prv hc hp hyes
        exact hno hcomp.exported
    · rw [hg] at hst
      exact absurd rfl hst
  | @publicFails labels prv pub hc hp hst hq hst' =>
    rcases generatePrivateKey_cases publicKey d.psa prv a with
      ⟨-, st, hne, hg⟩ | ⟨-, -, st, point, hne, hg⟩ | ⟨hyes, -, hg⟩
    · rw [hg] at hst
      exact absurd hst hne
    · rw [hg] at hst
      exact absurd hst hne
    · refine iff_of_false (not_allOrNothing hyes ?_ (by simp)) ?_
      · apply importPublicKey_keeps
        rw [hg]
        exact hself prv
      · intro h
        obtain ⟨prvBytes, pub', pubBytes, -, hq', -, hcomp⟩ := h labels prv hc hp hyes
        rw [hq] at hq'
        cases hq'
        rw [hg] at hst'
        rcases importPublicKey_cases ⟨d.psa.addKey (privateKeyId prv a) (.keyPair a.key), psaSuccess,
          privateKeyId prv a, 0⟩ pub (publicKey a.key) a with ⟨hno, -⟩ | ⟨-, hi⟩
        · exact hno hcomp.imports
        · rw [hi] at hst'
          exact hst' rfl
  | @recorded labels prv prvBytes pub pubBytes hc hp hpb hst hq hqb hst' =>
    rcases generatePrivateKey_cases publicKey d.psa prv a with
      ⟨-, st, hne, hg⟩ | ⟨-, -, st, point, hne, hg⟩ | ⟨hyes, hx, hg⟩
    · rw [hg] at hst
      exact absurd hst hne
    · rw [hg] at hst
      exact absurd hst hne
    · rw [recorded_iff _ _ hl (CkAttribute.prefix_string hp hpb) (CkAttribute.prefix_string hq hqb) hx
        hg hyes hst']
      constructor
      · intro hcomp labels' prv' hc' hp' _
        rw [hc] at hc'
        cases hc'
        rw [hp] at hp'
        cases hp'
        exact ⟨prvBytes, pub, pubBytes, hpb, hq, hqb, hcomp⟩
      · intro h
        obtain ⟨prvBytes', pub', pubBytes', hpb', hq', hqb', hcomp⟩ := h labels prv hc hp hyes
        rw [hpb] at hpb'
        cases hpb'
        rw [hq] at hq'
        cases hq'
        rw [hqb] at hqb'
        cases hqb'
        exact hcomp

/-- **`C_GenerateKeyPair`** in a state that the module can reach. It leaves everything or nothing and no
block on the heap exactly when it gets no block. The blocks aside, it leaves everything or nothing
exactly when `psa_generate_key` is not reached, or fails, or all that follows it succeeds. -/
theorem generate_all_or_nothing {mbed : Mbed ρ ε κ} {publicKey : κ → List UInt8} {d : Device κ}
    (hd : d.Reachable mbed publicKey) {args : KeyPairArgs} {a : KeyPairAns κ} {r : KeyPairResult κ}
    (h : cGenerateKeyPair publicKey d args a = some r) :
    (AllOrNothing publicKey d r ∧ Balanced r.heap ↔ a.malloc = false) ∧
    (AllOrNothing publicKey d r ↔ CompletesOnceCreated publicKey d args a) := by
  have hstate := generate_state_iff hd.listed h
  refine ⟨?_, hstate⟩
  rw [generate_heap h]
  constructor
  · rintro ⟨-, hb⟩
    cases hm : a.malloc with
    | false => rfl
    | true =>
      simp [hm, Crypto.Balanced] at hb
  · intro hm
    refine ⟨hstate.2 ?_, ?_⟩
    · intro labels prv hc
      rw [checkKeyPair_malloc hc] at hm
      cases hm
    · rw [hm]
      rfl

/-! ## Two calls -/

/-- A module that is initialized, with one open session and empty stores. -/
def initializedDevice : Device Unit := (cInitialize freshDevice (fun _ => .zero) true).2

theorem initializedDevice_reachable : initializedDevice.Reachable unitMbed unitPublicKey :=
  ⟨freshDevice, _, freshDevice_fresh, fun _ => rfl, .snoc (i := .cInitialize (fun _ => .zero) true)
    .nil rfl⟩

theorem generate_all_or_nothing_pair : ∃ r,
    cGenerateKeyPair unitPublicKey initializedDevice
      (keyPairArgs labelDevicePrivateKeyForTls labelDevicePublicKeyForTls) keyPairAns = some r ∧
    r.rv = .ok ∧
    (AllOrNothing unitPublicKey initializedDevice r ∧ Balanced r.heap ↔
      keyPairAns.malloc = false) ∧
    (AllOrNothing unitPublicKey initializedDevice r ↔
      CompletesOnceCreated unitPublicKey initializedDevice
        (keyPairArgs labelDevicePrivateKeyForTls labelDevicePublicKeyForTls) keyPairAns) := by
  have hrun : (cGenerateKeyPair unitPublicKey initializedDevice
      (keyPairArgs labelDevicePrivateKeyForTls labelDevicePublicKeyForTls) keyPairAns).map (·.rv) =
        some .ok := by
    decide +kernel
  obtain ⟨r, hr, hrv⟩ := Option.map_eq_some_iff.1 hrun
  exact ⟨r, hr, hrv, generate_all_or_nothing initializedDevice_reachable hr⟩

/-- A private label that the module has no slot for: the call fails, the key stays, and so does the
block. -/
theorem generate_leaves_key : initializedDevice.Reachable unitMbed unitPublicKey ∧ ∃ r,
    cGenerateKeyPair unitPublicKey initializedDevice
      (keyPairArgs (ascii "my_key") labelDevicePublicKeyForTls) keyPairAns = some r ∧
    ¬AllOrNothing unitPublicKey initializedDevice r ∧ ¬Balanced r.heap := by
  have hrun : (cGenerateKeyPair unitPublicKey initializedDevice
      (keyPairArgs (ascii "my_key") labelDevicePublicKeyForTls) keyPairAns).map
        (fun r => (r.rv, (r.post.psa.keys 0x40000000).isSome, r.heap)) =
          some (.attributeValueInvalid, true, [.malloc]) := by
    decide +kernel
  obtain ⟨r, hr, hd⟩ := Option.map_eq_some_iff.1 hrun
  simp only [Prod.mk.injEq] at hd
  obtain ⟨hrv, hkeys, hheap⟩ := hd
  refine ⟨initializedDevice_reachable, r, hr, ?_, ?_⟩
  · intro h
    have hne : r.rv ≠ .ok := by
      rw [hrv]
      decide
    rw [(h.failed hne).1] at hkeys
    exact absurd hkeys (by decide)
  · rw [hheap]
    simp [Crypto.Balanced]

end Pkcs11
