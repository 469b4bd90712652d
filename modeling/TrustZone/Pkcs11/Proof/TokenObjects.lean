import TrustZone.Pkcs11.Proof.ListedObjects

/-!
# The six objects of the token

An object of the token can be in three places: in the list, marked in `P11KeyConfig`, and stored in PSA
under its fixed id or uid. `Gone d o`: it is in none of them.

* `remove_key`, `remove_certificate`, `remove_unknown`: removing by a label and its NUL.
* `NoneNew S d d'`: no object comes to a place, unless its label is in `S`.
* `tokenStep_noneNew`: a call brings only what it creates, and a search only what is marked or stored.
* `Gone.run`, `Gone.find`: what is gone stays gone, and is not found, until it is created again.
-/

namespace Pkcs11

open Lib Psa Crypto Machine

variable {κ ρ ε : Type}

/-! ## Objects -/

/-- The certificates that `P11KeyConfig` has a mark for. -/
inductive DeviceCertificate
  | device | jitp | root
  deriving DecidableEq

namespace DeviceCertificate

def label : DeviceCertificate → List UInt8
  | device => labelDeviceCertificateForTls
  | jitp => labelJitpCertificate
  | root => labelRootCertificate

def uid : DeviceCertificate → Nat
  | device => psaDeviceCertificateUid
  | jitp => psaJitpCertificateUid
  | root => psaRootCertificateUid

/-- The mark of a certificate. -/
def marked (c : P11KeyConfig) : DeviceCertificate → Bool
  | device => c.xDeviceCertificateMark
  | jitp => c.xJitpCertificateMark
  | root => c.xRootCertificateMark

/-- The configuration without the mark. -/
def clear (c : P11KeyConfig) : DeviceCertificate → P11KeyConfig
  | device => { c with xDeviceCertificateMark := false }
  | jitp => { c with xJitpCertificateMark := false }
  | root => { c with xRootCertificateMark := false }

end DeviceCertificate

/-- An object of the token. -/
inductive TokenObject
  | key (k : DeviceKey)
  | certificate (c : DeviceCertificate)
  deriving DecidableEq

namespace TokenObject

def label : TokenObject → List UInt8
  | key k => k.label
  | certificate c => c.label

/-- The PAL handle. -/
def pal : TokenObject → ObjectHandle
  | key .devicePrivate => eAwsDevicePrivateKey
  | key .devicePublic => eAwsDevicePublicKey
  | key .codeVerify => eAwsCodeVerifyingKey
  | certificate .device => eAwsDeviceCertificate
  | certificate .jitp => eAwsJitpCertificate
  | certificate .root => eAwsRootCertificate

/-- The mark in `P11KeyConfig`. -/
def marked (c : P11KeyConfig) : TokenObject → Bool
  | key k => c.mark k
  | certificate x => x.marked c

/-- PSA has the object under its fixed id or uid. -/
def Stored (p : PsaStores κ) : TokenObject → Prop
  | key k => p.keys k.keyId.toNat ≠ none
  | certificate c => p.objects c.uid ≠ none

theorem label_inj {o o' : TokenObject} : o.label = o'.label → o = o' := by
  rcases o with k | c <;> rcases o' with k' | c'
  · cases k <;> cases k' <;> decide
  · cases k <;> cases c' <;> decide
  · cases c <;> cases k' <;> decide
  · cases c <;> cases c' <;> decide

theorem pal_inj {o o' : TokenObject} : o.pal = o'.pal → o = o' := by
  rcases o with k | c <;> rcases o' with k' | c'
  · cases k <;> cases k' <;> decide
  · cases k <;> cases c' <;> decide
  · cases c <;> cases k' <;> decide
  · cases c <;> cases c' <;> decide

/-- No label of an object begins with that of another. -/
theorem label_prefix_inj {o o' : TokenObject} : o.label <+: o'.label → o = o' := by
  rcases o with k | c <;> rcases o' with k' | c'
  · cases k <;> cases k' <;> decide
  · cases k <;> cases c' <;> decide
  · cases c <;> cases k' <;> decide
  · cases c <;> cases c' <;> decide

theorem label_notMem (o : TokenObject) : 0 ∉ o.label := by
  rcases o with k | c
  · cases k <;> decide
  · cases c <;> decide

theorem label_ne_nil (o : TokenObject) : o.label ≠ [] := by
  rcases o with k | c
  · cases k <;> decide
  · cases c <;> decide

theorem pal_ne (o : TokenObject) : o.pal ≠ ckInvalidHandle := by
  rcases o with k | c
  · cases k <;> decide
  · cases c <;> decide

end TokenObject

/-- The objects of the search table. -/
theorem exists_tokenObject {p : PersistentObject} (h : p ∈ persistentObjects) :
    ∃ o : TokenObject, p.label = o.label ∧ p.xPalHandle = o.pal := by
  simp only [persistentObjects, List.mem_cons, List.not_mem_nil, or_false] at h
  rcases h with rfl | rfl | rfl | rfl | rfl | rfl
  · exact ⟨.key .devicePrivate, rfl, rfl⟩
  · exact ⟨.key .devicePublic, rfl, rfl⟩
  · exact ⟨.key .codeVerify, rfl, rfl⟩
  · exact ⟨.certificate .device, rfl, rfl⟩
  · exact ⟨.certificate .root, rfl, rfl⟩
  · exact ⟨.certificate .jitp, rfl, rfl⟩

/-- An entry stands for an object of the token. -/
theorem P11Object.Stands.object {x : P11Object} (h : x.Stands) :
    ∃ o : TokenObject, x.xHandle = o.pal ∧ x.label <+: o.label := by
  obtain ⟨p, hp, hx, hl⟩ := h
  obtain ⟨o, ho, hpal⟩ := exists_tokenObject hp
  exact ⟨o, hx.trans hpal, ho ▸ hl⟩

/-! ## Removing by a label -/

theorem label_nul_prefix (label : List UInt8) (o : TokenObject) :
    (label ++ [0]).isPrefixOf (o.label ++ [0]) = true ↔ label = o.label := by
  rw [List.isPrefixOf_iff_prefix, prefix_nul_iff o.label_notMem]

section
variable (p : PsaStores κ) (c : P11KeyConfig) (permanent : Bool) (a : RemoveAns) (label : List UInt8)

/-- `PKCS11PSARemoveObject` with the comparisons as equations. -/
theorem remove_nul : pkcs11PsaRemoveObject p c (label ++ [0]) permanent a =
    if label = labelDevicePrivateKeyForTls then removeKey p c permanent a .devicePrivate
    else if label = labelDevicePublicKeyForTls then removeKey p c permanent a .devicePublic
    else if label = labelCodeVerificationKey then removeKey p c permanent a .codeVerify
    else if label = labelRootCertificate then
      removeCertificate p c (DeviceCertificate.root.marked c) DeviceCertificate.root.uid
        (DeviceCertificate.root.clear c) a
    else if label = labelJitpCertificate then
      removeCertificate p c (DeviceCertificate.jitp.marked c) DeviceCertificate.jitp.uid
        (DeviceCertificate.jitp.clear c) a
    else if label = labelDeviceCertificateForTls then
      removeCertificate p c (DeviceCertificate.device.marked c) DeviceCertificate.device.uid
        (DeviceCertificate.device.clear c) a
    else (.attributeValueInvalid, c, p) := by
  have h1 := label_nul_prefix label (.key .devicePrivate)
  have h2 := label_nul_prefix label (.key .devicePublic)
  have h3 := label_nul_prefix label (.key .codeVerify)
  have h4 := label_nul_prefix label (.certificate .root)
  have h5 := label_nul_prefix label (.certificate .jitp)
  have h6 := label_nul_prefix label (.certificate .device)
  simp only [TokenObject.label, DeviceKey.label, DeviceCertificate.label] at h1 h2 h3 h4 h5 h6
  unfold pkcs11PsaRemoveObject
  simp only [h1, h2, h3, h4, h5, h6]
  rfl

theorem remove_key (k : DeviceKey) :
    pkcs11PsaRemoveObject p c (k.label ++ [0]) permanent a = removeKey p c permanent a k := by
  rw [remove_nul]
  cases k with
  | devicePrivate => exact if_pos rfl
  | devicePublic => rw [if_neg (by decide), if_pos (by rfl)]
  | codeVerify => rw [if_neg (by decide), if_neg (by decide), if_pos (by rfl)]

theorem remove_certificate (x : DeviceCertificate) :
    pkcs11PsaRemoveObject p c (x.label ++ [0]) permanent a =
      removeCertificate p c (x.marked c) x.uid (x.clear c) a := by
  rw [remove_nul]
  cases x with
  | root =>
    rw [if_neg (by decide), if_neg (by decide), if_neg (by decide), if_pos (by rfl)]
  | jitp =>
    rw [if_neg (by decide), if_neg (by decide), if_neg (by decide), if_neg (by decide),
      if_pos (by rfl)]
  | device =>
    rw [if_neg (by decide), if_neg (by decide), if_neg (by decide), if_neg (by decide),
      if_neg (by decide), if_pos (by rfl)]

theorem remove_unknown (h : ∀ o : TokenObject, label ≠ o.label) :
    pkcs11PsaRemoveObject p c (label ++ [0]) permanent a = (.attributeValueInvalid, c, p) := by
  have h1 : label ≠ labelDevicePrivateKeyForTls := h (.key .devicePrivate)
  have h2 : label ≠ labelDevicePublicKeyForTls := h (.key .devicePublic)
  have h3 : label ≠ labelCodeVerificationKey := h (.key .codeVerify)
  have h4 : label ≠ labelRootCertificate := h (.certificate .root)
  have h5 : label ≠ labelJitpCertificate := h (.certificate .jitp)
  have h6 : label ≠ labelDeviceCertificateForTls := h (.certificate .device)
  rw [remove_nul, if_neg h1, if_neg h2, if_neg h3, if_neg h4, if_neg h5, if_neg h6]

end

/-! ## Nothing new -/

/-- An entry of the list has the PAL handle. -/
def Lists (l : P11ObjectList) (pal : ObjectHandle) : Prop := ∃ i, (l.xObjects i).xHandle = pal

/-- No object comes to a place where it was not before, but for those whose label is in `S`. -/
structure NoneNew (S : List UInt8 → Prop) (d d' : Device κ) : Prop where
  list : ∀ o : TokenObject, ¬S o.label → Lists d'.p11.xObjectList o.pal → Lists d.p11.xObjectList o.pal
  mark : ∀ o : TokenObject, ¬S o.label → o.marked d'.p11.p11KeyConfig = true →
    o.marked d.p11.p11KeyConfig = true
  stored : ∀ o : TokenObject, ¬S o.label → o.Stored d'.psa → o.Stored d.psa

namespace NoneNew

variable {S S' : List UInt8 → Prop} {d d' d'' : Device κ}

theorem refl (S : List UInt8 → Prop) (d : Device κ) : NoneNew S d d :=
  ⟨fun _ _ h => h, fun _ _ h => h, fun _ _ h => h⟩

theorem trans (h : NoneNew S d d') (h' : NoneNew S d' d'') : NoneNew S d d'' :=
  ⟨fun o ho hl => h.list o ho (h'.list o ho hl), fun o ho hm => h.mark o ho (h'.mark o ho hm),
    fun o ho hs => h.stored o ho (h'.stored o ho hs)⟩

theorem imp (hS : ∀ l, S l → S' l) (h : NoneNew S d d') : NoneNew S' d d' :=
  ⟨fun o ho => h.list o fun hl => ho (hS _ hl), fun o ho => h.mark o fun hl => ho (hS _ hl),
    fun o ho => h.stored o fun hl => ho (hS _ hl)⟩

end NoneNew

/-! ### The parts -/

theorem lists_add {lock : Bool} {l : P11ObjectList} {pal pal' : ObjectHandle} {bytes : List UInt8}
    (h : Lists (prvAddObjectToList lock l pal' bytes).2.2 pal) : Lists l pal ∨ pal = pal' := by
  have ho := prvAddObjectToList_outcome lock l pal' bytes
  generalize prvAddObjectToList lock l pal' bytes = r at ho h
  cases ho with
  | locked | present | full | long => exact .inl h
  | inserted i habsent hfree hlen =>
    obtain ⟨j, hj⟩ := h
    by_cases hji : j = i
    · subst hji
      simp only [Function.update_self] at hj
      exact .inr hj.symm
    · simp only [Function.update_of_ne hji] at hj
      exact .inl ⟨j, hj⟩

theorem lists_delete {lock : Bool} {l : P11ObjectList} {pal xAppHandle : ObjectHandle}
    (hpal : pal ≠ ckInvalidHandle) (h : Lists (prvDeleteObjectFromList lock l xAppHandle).2 pal) :
    Lists l pal := by
  obtain ⟨j, hj⟩ := h
  rcases prvDeleteObjectFromList_slots lock l xAppHandle with hs | ⟨i, hs⟩
  · rw [hs] at hj
    exact ⟨j, hj⟩
  · rw [hs] at hj
    by_cases hji : j = i
    · subst hji
      rw [Function.update_self] at hj
      exact absurd hj.symm hpal
    · rw [Function.update_of_ne hji] at hj
      exact ⟨j, hj⟩

theorem import_marked (c : P11KeyConfig) {label : List UInt8} {o : TokenObject} (hl : label ≠ o.label)
    (h : KeyHandle) : o.marked (pkcs11PsaContextImportObject c label h) = o.marked c := by
  unfold pkcs11PsaContextImportObject
  split_ifs with h1 h2 h3 h4 h5 h6 <;> rcases o with k | x
  · cases k <;> first | rfl | exact absurd h1 hl
  · cases x <;> rfl
  · cases k <;> first | rfl | exact absurd h2 hl
  · cases x <;> rfl
  · cases k <;> first | rfl | exact absurd h3 hl
  · cases x <;> rfl
  · rfl
  · cases x <;> first | rfl | exact absurd h4 hl
  · rfl
  · cases x <;> first | rfl | exact absurd h5 hl
  · rfl
  · cases x <;> first | rfl | exact absurd h6 hl
  · rfl
  · rfl

/-- A created key is none of the stored ones unless it has the fixed id. -/
theorem newKey_stored (p : PsaStores κ) (id : KeyHandle) (key : StoredKey κ) (a : PsaStores.NewKeyAns)
    {o : TokenObject} (ho : ∀ k, o = .key k → id ≠ k.keyId)
    (h : o.Stored (p.newKey id key a).1) : o.Stored p := by
  rcases newKey_cases p id key a with ⟨st, -, hn⟩ | ⟨kh, hkh, -, -, hk⟩
  · rwa [hn] at h
  · rw [hk] at h
    rcases o with k | x
    · have hne : k.keyId.toNat ≠ kh.toNat := by
        intro he
        have hid := ho k rfl
        rw [hkh] at he
        split at he
        · have := (keyId_bounds k).2
          have := a.volatileId.2.1
          omega
        · exact hid (BitVec.eq_of_toNat_eq he.symm)
      simpa only [TokenObject.Stored, PsaStores.addKey_keys hne] using h
    · exact h

theorem closeKey_stored (p : PsaStores κ) (h : KeyHandle) (fault : Option PsaError) {o : TokenObject}
    (ho : o.Stored (p.closeKey h fault).1) : o.Stored p := by
  by_cases h0 : h = 0
  · simpa only [PsaStores.closeKey, if_pos h0] using ho
  rcases closeKey_cases p h0 fault with ⟨st, -, hc⟩ | hc
  · rwa [hc] at ho
  · rw [hc] at ho
    rcases o with k | x
    · intro hnone
      apply ho
      show (if ¬h.toNat ≤ psaKeyIdUserMax then Function.update p.keys h.toNat none else p.keys)
        k.keyId.toNat = none
      split
      · by_cases he : k.keyId.toNat = h.toNat
        · rw [he, Function.update_self]
        · rwa [Function.update_of_ne he]
      · exact hnone
    · exact ho

theorem update_none {κ : Type} {keys : KeyStore κ} {id n : Nat}
    (h : Function.update keys n none id ≠ none) : keys id ≠ none := by
  by_cases he : id = n
  · subst he
    exact absurd (Function.update_self _ _ _) h
  · rwa [Function.update_of_ne he] at h

theorem destroyKey_stored (p : PsaStores κ) (h : KeyHandle) (fault : Option (PsaError × Bool))
    {o : TokenObject} (ho : o.Stored (p.destroyKey h fault).1) : o.Stored p := by
  by_cases h0 : h = 0
  · simpa only [PsaStores.destroyKey, if_pos h0] using ho
  rcases destroyKey_cases p h0 fault with ⟨st, -, hc⟩ | ⟨st, e, -, -, hc⟩ | hc
  · rwa [hc] at ho
  · rw [hc] at ho
    rcases o with k | x
    · exact update_none ho
    · exact ho
  · rw [hc] at ho
    rcases o with k | x
    · exact update_none (by simpa [TokenObject.Stored, PsaStores.dropKey] using ho)
    · exact ho

/-! ### The calls -/

theorem removeKey_noneNew (S : List UInt8 → Prop) (d : Device κ) (permanent : Bool) (a : RemoveAns)
    (k : DeviceKey) :
    NoneNew S d ⟨{ d.p11 with p11KeyConfig :=
      (removeKey d.psa d.p11.p11KeyConfig permanent a k).2.1 },
      (removeKey d.psa d.p11.p11KeyConfig permanent a k).2.2⟩ := by
  have hmark : ∀ o : TokenObject, o.marked (d.p11.p11KeyConfig.setKey 0 false k) = true →
      o.marked d.p11.p11KeyConfig = true := by
    intro o ho
    rcases o with j | x
    · by_cases hj : j = k
      · subst hj
        simp [TokenObject.marked] at ho
      · simpa [TokenObject.marked, P11KeyConfig.mark_setKey_of_ne _ _ _ hj] using ho
    · cases k <;> cases x <;> exact ho
  have hpsa : ∀ o : TokenObject, o.Stored (if permanent then
      d.psa.destroyKey (d.p11.p11KeyConfig.handle k) a.destroyKey
      else d.psa.closeKey (d.p11.p11KeyConfig.handle k) a.closeKey).1 → o.Stored d.psa := by
    intro o ho
    cases permanent with
    | true => exact destroyKey_stored d.psa _ _ ho
    | false => exact closeKey_stored d.psa _ _ ho
  unfold removeKey
  generalize (if permanent then d.psa.destroyKey (d.p11.p11KeyConfig.handle k) a.destroyKey
    else d.psa.closeKey (d.p11.p11KeyConfig.handle k) a.closeKey) = q at hpsa ⊢
  obtain ⟨p, uxStatus⟩ := q
  dsimp only
  split
  · split
    · exact ⟨fun _ _ h => h, fun _ _ h => h, fun o _ h => hpsa o h⟩
    · exact ⟨fun _ _ h => h, fun o _ h => hmark o h, fun o _ h => hpsa o h⟩
  · exact .refl S d

theorem removeCertificate_noneNew (S : List UInt8 → Prop) (d : Device κ) (x : DeviceCertificate)
    (a : RemoveAns) :
    NoneNew S d ⟨{ d.p11 with p11KeyConfig := (removeCertificate d.psa d.p11.p11KeyConfig
      (x.marked d.p11.p11KeyConfig) x.uid (x.clear d.p11.p11KeyConfig) a).2.1 },
      (removeCertificate d.psa d.p11.p11KeyConfig (x.marked d.p11.p11KeyConfig) x.uid
        (x.clear d.p11.p11KeyConfig) a).2.2⟩ := by
  have hmark : ∀ o : TokenObject, o.marked (x.clear d.p11.p11KeyConfig) = true →
      o.marked d.p11.p11KeyConfig = true := by
    intro o ho
    rcases o with k | y
    · cases x <;> cases k <;> exact ho
    · cases x <;> cases y <;> first | exact ho | cases ho
  have hpsa : ∀ o : TokenObject, o.Stored (d.psa.psRemove x.uid a.psRemove).1 → o.Stored d.psa := by
    intro o ho
    unfold PsaStores.psRemove at ho
    split at ho
    · exact ho
    · split at ho
      · exact ho
      · rcases o with k | y
        · exact ho
        · intro hnone
          apply ho
          show Function.update d.psa.objects x.uid none y.uid = none
          by_cases he : y.uid = x.uid
          · rw [he, Function.update_self]
          · rwa [Function.update_of_ne he]
  unfold removeCertificate
  split
  · dsimp only
    split
    · exact ⟨fun _ _ h => h, fun _ _ h => h, fun o _ h => hpsa o h⟩
    · exact ⟨fun _ _ h => h, fun o _ h => hmark o h, fun o _ h => hpsa o h⟩
  · exact .refl S d

/-- Removing brings nothing. -/
theorem removeObject_noneNew (S : List UInt8 → Prop) (d : Device κ) (pcLabel : List UInt8)
    (permanent : Bool) (a : RemoveAns) : NoneNew S d (removeObject d pcLabel permanent a).2 := by
  unfold removeObject pkcs11PsaRemoveObject
  split_ifs
  · exact removeKey_noneNew S d permanent a .devicePrivate
  · exact removeKey_noneNew S d permanent a .devicePublic
  · exact removeKey_noneNew S d permanent a .codeVerify
  · exact removeCertificate_noneNew S d .root a
  · exact removeCertificate_noneNew S d .jitp a
  · exact removeCertificate_noneNew S d .device a
  · exact .refl S d

theorem destroy_noneNew (S : List UInt8 → Prop) (d : Device κ) (xSession : SessionHandle)
    (xObject : ObjectHandle) (a : RemoveAns) (lock : Bool) :
    NoneNew S d (cDestroyObject d xSession xObject a lock).2 := by
  unfold cDestroyObject
  split
  · exact .refl S d
  split
  · rename_i pcLabel _
    have hr := removeObject_noneNew S d pcLabel true a
    split
    · rename_i d' hd
      rw [hd] at hr
      refine hr.trans ⟨?_, fun _ _ h => h, fun _ _ h => h⟩
      intro o _ h
      exact lists_delete o.pal_ne h
    · rename_i rv d' _ hd
      rw [hd] at hr
      exact hr
  · exact .refl S d

/-- The zeroed list has no object. -/
theorem zeroed_noneNew (S : List UInt8 → Prop) (d : Device κ) (before : Int → P11Object)
    (xIsInitialized : Bool) :
    NoneNew S d ⟨{ d.p11 with
      xObjectList := ⟨fun _ => .zero, before⟩
      xIsInitialized := xIsInitialized }, d.psa⟩ := by
  refine ⟨?_, fun _ _ h => h, fun _ _ h => h⟩
  rintro o - ⟨i, hi⟩
  exact absurd hi.symm o.pal_ne

theorem finalize_noneNew (S : List UInt8 → Prop) (d : Device κ) (pvReserved : Bool)
    (before : Int → P11Object) (aPrivate aPublic : RemoveAns) :
    NoneNew S d (cFinalize d pvReserved before aPrivate aPublic).2 := by
  unfold cFinalize
  split
  · exact .refl S d
  split
  · have hz := zeroed_noneNew S d before false
    have h1 := hz.trans (removeObject_noneNew S _ (labelDevicePrivateKeyForTls ++ [0]) false aPrivate)
    dsimp only
    split
    · rename_i d' hd
      rw [hd] at h1
      exact h1.trans (removeObject_noneNew S d' _ false aPublic)
    · rename_i rv d' _ hd
      rw [hd] at h1
      exact h1
  · exact .refl S d

theorem saveObject_uid {mbed : Mbed ρ ε κ} {xClass : Nat} {label data : List UInt8}
    {pk : Option (PkContext ρ ε)} {uid : Nat} {pal : ObjectHandle}
    (h : saveObject mbed xClass label data pk = some (.certificate uid pal)) :
    ∃ x : DeviceCertificate, label = x.label ∧ uid = x.uid := by
  unfold saveObject at h
  split_ifs at h with h1 h2 h3
  · cases h
    exact ⟨.device, h1.2, rfl⟩
  · cases h
    exact ⟨.jitp, h2.2, rfl⟩
  · cases h
    exact ⟨.root, h3.2, rfl⟩
  all_goals
    obtain ⟨_, -, h⟩ := Option.map_eq_some_iff.1 h
    cases h

/-- Saving marks and stores the object of the label. -/
theorem save_noneNew {mbed : Mbed ρ ε κ} {c c' : P11KeyConfig} {p p' : PsaStores κ} {xClass : Nat}
    {pxLabel : Option (List UInt8)} {data : List UInt8} {size : Nat} {pk : Option (PkContext ρ ε)}
    {a : SaveAns} {pal : ObjectHandle}
    (h : pkcs11PsaSaveObject mbed p c xClass pxLabel data size pk a = some (pal, c', p'))
    {o : TokenObject} (ho : pxLabel ≠ some o.label) :
    (o.marked c' = true → o.marked c = true) ∧ (o.Stored p' → o.Stored p) := by
  unfold pkcs11PsaSaveObject at h
  split at h
  swap
  · cases h
    exact ⟨id, id⟩
  split at h
  · split at h
    · cases h
    · cases h
      exact ⟨id, id⟩
  rename_i label
  have hl : label ≠ o.label := fun he => ho (congrArg some he)
  split at h
  · cases h
    exact ⟨id, id⟩
  · rename_i uid pal' hso
    obtain ⟨x, rfl, rfl⟩ := saveObject_uid hso
    have hpsa : o.Stored (p.psSet x.uid data a.psSet).1 → o.Stored p := by
      unfold PsaStores.psSet
      split
      · exact id
      · rcases o with k | y
        · exact id
        · have hne : y.uid ≠ x.uid := by
            intro he
            apply hl
            revert he
            cases x <;> cases y <;> decide
          simp [TokenObject.Stored, Function.update_of_ne hne]
    dsimp only at h
    split at h
    · cases h
      exact ⟨fun hm => import_marked c hl _ ▸ hm, hpsa⟩
    · cases h
      exact ⟨id, hpsa⟩
  · rename_i k id' key pal' hso
    obtain ⟨rfl, hid⟩ := saveObject_key hso
    have hpsa : o.Stored (p.newKey id' key a.importKey).1 → o.Stored p := by
      apply newKey_stored
      rintro j rfl
      rcases hid with ⟨-, rfl⟩ | ⟨-, rfl⟩
      · intro he
        exact hl (congrArg DeviceKey.label (keyId_inj (congrArg BitVec.toNat he)))
      · exact (keyId_bounds j).1.symm
    dsimp only at h
    split at h
    · cases h
      exact ⟨fun hm => import_marked c hl _ ▸ hm, hpsa⟩
    · cases h
      exact ⟨id, hpsa⟩

/-- What a call may create, by its label. -/
def CreatesLabel (mbed : Mbed ρ ε κ) (d : Device κ) (label : List UInt8) : TokenCall κ → Prop
  | .cCreateObject _ pxTemplate _ a => ∃ template plan heap, pxTemplate = some template ∧
      createPlan mbed template a = some ⟨.ok plan, heap⟩ ∧
      plan.pxLabel.bind (·.string) = some label
  | .cGenerateKeyPair args a => ∃ labels, checkKeyPair d.p11 args a.malloc = some (.ok labels) ∧
      (labels.privateLabel.string = some label ∨ labels.publicLabel.string = some label)
  | _ => False

theorem create_noneNew {mbed : Mbed ρ ε κ} {d : Device κ} {xSession : SessionHandle}
    {pxTemplate : Option (List CkAttribute)} {pxObject : Option ObjectHandle} {a : CreateAns}
    {r : CreateResult κ} (h : cCreateObject mbed d xSession pxTemplate pxObject a = some r) :
    NoneNew (fun l => CreatesLabel mbed d l (.cCreateObject xSession pxTemplate pxObject a)) d
      r.post := by
  unfold cCreateObject at h
  split at h
  swap
  · cases h
    exact .refl _ d
  rename_i template hObject
  split at h
  · cases h
    exact .refl _ d
  split at h
  · cases h
  · cases h
    exact .refl _ d
  · rename_i plan heap hplan
    split at h
    · cases h
    · rename_i hsave
      cases h
      have hother : ∀ {o : TokenObject}, ¬CreatesLabel mbed d o.label
          (.cCreateObject xSession (some template) (some hObject) a) →
          plan.pxLabel.bind (·.string) ≠ some o.label :=
        fun ho hl => ho ⟨template, plan, heap, rfl, hplan, hl⟩
      unfold saveAndAdd at hsave
      split at hsave
      · cases hsave
      split at hsave
      · cases hsave
      rename_i pal cfg psa hso
      dsimp only at hsave
      split at hsave
      · cases hsave
        exact ⟨fun _ _ h => h, fun o ho => (save_noneNew hso (hother ho)).1,
          fun o ho => (save_noneNew hso (hother ho)).2⟩
      · rename_i hpal
        split at hsave
        · cases hsave
        · cases hsave
          refine ⟨?_, fun o ho => (save_noneNew hso (hother ho)).1,
            fun o ho => (save_noneNew hso (hother ho)).2⟩
          intro o ho hl
          rcases lists_add hl with hl | hl
          · exact hl
          · obtain ⟨p, hp, hlabel, hpal'⟩ := save_persistent hso hpal
            obtain ⟨o', ho', hpal''⟩ := exists_tokenObject hp
            have heq : o = o' := TokenObject.pal_inj (hl.trans (hpal'.symm.trans hpal''))
            exact absurd (hlabel.trans (congrArg some (ho'.trans (congrArg _ heq.symm)))) (hother ho)

theorem keyIdOf_ne {k j : DeviceKey} {label : List UInt8} (h : label ≠ j.label) :
    keyIdOf k label ≠ j.keyId := by
  unfold keyIdOf
  split
  · rename_i hl
    intro he
    exact h (hl.trans (congrArg _ (keyId_inj (congrArg BitVec.toNat he))))
  · exact (keyId_bounds j).1.symm

theorem generatePrivateKey_stored (publicKey : κ → List UInt8) (p : PsaStores κ) (prv : List UInt8)
    (a : KeyPairAns κ) {o : TokenObject} (ho : prv ≠ o.label)
    (h : o.Stored (generatePrivateKey publicKey p prv a).1.psa) : o.Stored p := by
  apply newKey_stored p (keyIdOf .devicePrivate prv) (.keyPair a.key) a.generateKey
  · rintro k rfl
    exact keyIdOf_ne ho
  · unfold generatePrivateKey at h
    dsimp only at h
    split at h
    · exact h
    · exact h

theorem importPublicKey_stored (g : GeneratedKeys κ) (pub point : List UInt8) (a : KeyPairAns κ)
    {o : TokenObject} (ho : pub ≠ o.label) (h : o.Stored (importPublicKey g pub point a).psa) :
    o.Stored g.psa := by
  apply newKey_stored g.psa (keyIdOf .devicePublic pub) (.publicKey point) a.importKey
  · rintro k rfl
    exact keyIdOf_ne ho
  · exact h

theorem recordKey_noneNew (d : Device κ) (k : DeviceKey) (label bytes : List UInt8) (h : KeyHandle)
    (lock : Bool) : NoneNew (· = label) d
      (recordKey d k (TokenObject.key k).pal label bytes h lock).2.2 := by
  unfold recordKey
  split
  · rename_i hl
    refine ⟨?_, ?_, fun _ _ h => h⟩
    · intro o ho hlist
      rcases lists_add hlist with hlist | hpal
      · exact hlist
      · exact absurd ((congrArg _ (TokenObject.pal_inj hpal)).trans hl.symm) ho
    · intro o ho hm
      have hm' : o.marked (pkcs11PsaContextImportObject d.p11.p11KeyConfig label h) = true := hm
      rwa [import_marked _ (fun he => ho he.symm)] at hm'
  · exact .refl _ d

theorem generate_noneNew {mbed : Mbed ρ ε κ} {publicKey : κ → List UInt8} {d : Device κ}
    {args : KeyPairArgs} {a : KeyPairAns κ} {r : KeyPairResult κ}
    (h : cGenerateKeyPair publicKey d args a = some r) :
    NoneNew (fun l => CreatesLabel mbed d l (.cGenerateKeyPair args a)) d r.post := by
  have hprv : ∀ {labels : KeyPairLabels} {prv : List UInt8},
      checkKeyPair d.p11 args a.malloc = some (.ok labels) → labels.privateLabel.string = some prv →
      NoneNew (fun l => CreatesLabel mbed d l (.cGenerateKeyPair args a)) d
        ⟨d.p11, (generatePrivateKey publicKey d.psa prv a).1.psa⟩ := by
    intro labels prv hc hp
    refine ⟨fun _ _ h => h, fun _ _ h => h, ?_⟩
    intro o ho
    apply generatePrivateKey_stored
    rintro rfl
    exact ho ⟨labels, hc, .inl hp⟩
  have hpub : ∀ {labels : KeyPairLabels} {pub : List UInt8} (g : GeneratedKeys κ)
      (point : List UInt8), checkKeyPair d.p11 args a.malloc = some (.ok labels) →
      labels.publicLabel.string = some pub →
      NoneNew (fun l => CreatesLabel mbed d l (.cGenerateKeyPair args a)) ⟨d.p11, g.psa⟩
        ⟨d.p11, (importPublicKey g pub point a).psa⟩ := by
    intro labels pub g point hc hq
    refine ⟨fun _ _ h => h, fun _ _ h => h, ?_⟩
    intro o ho
    apply importPublicKey_stored
    rintro rfl
    exact ho ⟨labels, hc, .inr hq⟩
  cases generate_outcome h with
  | refused => exact .refl _ d
  | privateFails hc hp => exact hprv hc hp
  | publicFails hc hp _ hq => exact (hprv hc hp).trans (hpub _ _ hc hq)
  | @recorded labels prv prvBytes pub pubBytes hc hp _ _ hq =>
    have hkeys := (hprv hc hp).trans (hpub (generatePrivateKey publicKey d.psa prv a).1
      (generatePrivateKey publicKey d.psa prv a).2 hc hq)
    generalize importPublicKey (generatePrivateKey publicKey d.psa prv a).1 pub
      (generatePrivateKey publicKey d.psa prv a).2 a = g at hkeys ⊢
    have hprvS : ∀ l, l = prv → CreatesLabel mbed d l (.cGenerateKeyPair args a) := by
      rintro _ rfl
      exact ⟨labels, hc, .inl hp⟩
    have hpubS : ∀ l, l = pub → CreatesLabel mbed d l (.cGenerateKeyPair args a) := by
      rintro _ rfl
      exact ⟨labels, hc, .inr hq⟩
    have h1 := NoneNew.imp hprvS (recordKey_noneNew ⟨d.p11, g.psa⟩ .devicePrivate prv prvBytes
      g.hPrivate a.lockPrivate)
    rw [recordKeys_post]
    split
    · exact (hkeys.trans h1).trans
        (NoneNew.imp hpubS (recordKey_noneNew _ .devicePublic pub pubBytes _ a.lockPublic))
    · exact hkeys.trans h1

/-! ### Searching -/

/-- What a search can bring back: the object is marked, or stored. -/
def Live (d : Device κ) (o : TokenObject) : Prop :=
  o.marked d.p11.p11KeyConfig = true ∨ o.Stored d.psa

/-- A search for the label of an object that no listed label begins with. -/
def findObject (env : FindEnv) (o : TokenObject) (r : Found) : Found :=
  match o with
  | .key k => findKeyObjects env k.label k.keyId o.pal r
  | .certificate c => findCertificate env c.label c.uid o.pal r

/-- `C_FindObjects` past its checks finds a listed object, looks for an object of the token, or does
nothing. -/
theorem findByLabel_cases (env : FindEnv) (s : State) (rv : CkRv) (label : List UInt8) (count : Nat) :
    let px := (prvFindObjectInListByLabel s.xObjectList label).2
    (px ≠ ckInvalidHandle ∧ (findByLabel env s rv label count).post = s) ∨
    px = ckInvalidHandle ∧
      ((∃ o : TokenObject, label = o.label ∧
        findByLabel env s rv label count = findObject env o ⟨rv, px, count, s⟩) ∨
      (∀ o : TokenObject, label ≠ o.label) ∧ (findByLabel env s rv label count).post = s) := by
  dsimp only
  unfold findByLabel
  dsimp only
  split_ifs with h0 h1 h2 h3 h4 h5 h6
  · exact .inl ⟨h0, rfl⟩
  · exact .inr ⟨not_not.1 h0, .inl ⟨.key .devicePrivate, h1, by subst h1; rfl⟩⟩
  · exact .inr ⟨not_not.1 h0, .inl ⟨.key .devicePublic, h2, by subst h2; rfl⟩⟩
  · exact .inr ⟨not_not.1 h0, .inl ⟨.key .codeVerify, h3, by subst h3; rfl⟩⟩
  · exact .inr ⟨not_not.1 h0, .inl ⟨.certificate .device, h4, by subst h4; rfl⟩⟩
  · exact .inr ⟨not_not.1 h0, .inl ⟨.certificate .root, h5, by subst h5; rfl⟩⟩
  · exact .inr ⟨not_not.1 h0, .inl ⟨.certificate .jitp, h6, by subst h6; rfl⟩⟩
  · refine .inr ⟨not_not.1 h0, .inr ⟨?_, rfl⟩⟩
    intro o
    rcases o with k | x
    · cases k
      · exact h1
      · exact h2
      · exact h3
    · cases x
      · exact h4
      · exact h6
      · exact h5

section
variable (d : Device κ) (a : FindAns)

/-- An object that is not live is not found, and nothing changes. -/
theorem findObject_dead {o : TokenObject} (ho : ¬Live d o) (rv : CkRv) (px : ObjectHandle)
    (count : Nat) :
    (findObject (d.findEnv a) o ⟨rv, px, count, d.p11⟩).pxObject = px ∧
      (findObject (d.findEnv a) o ⟨rv, px, count, d.p11⟩).pulObjectCount = count ∧
      (findObject (d.findEnv a) o ⟨rv, px, count, d.p11⟩).post = d.p11 := by
  rcases o with k | x
  · have hmark : (pkcs11PsaGetKeyHandle d.p11.p11KeyConfig k.label).1 ≠ .ok := by
      rw [Ne, getKeyHandle_ok]
      exact fun h => ho (.inl h)
    have hopen : ((d.findEnv a).openKey k.keyId).1 ≠ psaSuccess := by
      show (d.psa.openKey a.openKey k.keyId).1 ≠ psaSuccess
      unfold PsaStores.openKey
      split
      · rename_i e _
        exact e.2
      · rw [if_pos (not_not.1 fun h => ho (.inr h))]
        decide
    generalize d.findEnv a = env at hopen ⊢
    unfold findObject findKeyObjects
    by_cases hd : (env.openKey k.keyId).1 = psaErrorDoesNotExist
    · simp only [hmark, hd, if_false, ne_eq, not_true_eq_false, and_false,
        (by decide : psaErrorDoesNotExist ≠ psaSuccess)]
      exact ⟨trivial, trivial, trivial⟩
    · simp only [hmark, hopen, hd, if_false, ne_eq, not_false_eq_true, if_true, and_false]
      exact ⟨trivial, trivial, trivial⟩
  · have hinfo : (d.findEnv a).psGetInfo x.uid ≠ psaSuccess := by
      show d.psa.psGetInfo a.psGetInfo x.uid ≠ psaSuccess
      unfold PsaStores.psGetInfo
      split
      · rename_i e _
        exact e.2
      · rw [if_pos (not_not.1 fun h => ho (.inr h))]
        decide
    unfold findObject findCertificate
    simp only [hinfo, if_false]
    split
    · simp
    · simp

/-- A search that finds an object lists it, and marks it at most. -/
theorem findObject_post (env : FindEnv) (o : TokenObject) (r : Found) :
    ((findObject env o r).post.xObjectList = r.post.xObjectList ∨
      (findObject env o r).post.xObjectList =
        (prvAddObjectToList env.lock r.post.xObjectList o.pal o.label).2.2) ∧
    ((findObject env o r).post.p11KeyConfig = r.post.p11KeyConfig ∨
      ∃ h, (findObject env o r).post.p11KeyConfig =
        pkcs11PsaContextImportObject r.post.p11KeyConfig o.label h) := by
  cases o with
  | key k => exact findKeyObjects_post env k.label k.keyId (TokenObject.key k).pal r
  | certificate x => exact findCertificate_post env x.label x.uid (TokenObject.certificate x).pal r

/-- The labels of live objects. -/
def LiveLabel (label : List UInt8) : Prop := ∃ o : TokenObject, label = o.label ∧ Live d o

theorem findObject_noneNew (o : TokenObject) (rv : CkRv) (px : ObjectHandle) (count : Nat) :
    NoneNew (LiveLabel d) d ⟨(findObject (d.findEnv a) o ⟨rv, px, count, d.p11⟩).post, d.psa⟩ := by
  by_cases hlive : Live d o
  · obtain ⟨hlist, hcfg⟩ := findObject_post (d.findEnv a) o ⟨rv, px, count, d.p11⟩
    have hne : ∀ {o' : TokenObject}, ¬LiveLabel d o'.label → o ≠ o' := by
      rintro o' ho rfl
      exact ho ⟨o, rfl, hlive⟩
    refine ⟨?_, ?_, fun _ _ h => h⟩
    · intro o' ho hl
      rcases hlist with hlist | hlist
      · rwa [show (findObject (d.findEnv a) o ⟨rv, px, count, d.p11⟩).post.xObjectList =
          d.p11.xObjectList from hlist] at hl
      · rw [hlist] at hl
        rcases lists_add hl with hl | hl
        · exact hl
        · exact absurd (TokenObject.pal_inj hl).symm (hne ho)
    · intro o' ho hm
      rcases hcfg with hcfg | ⟨h, hcfg⟩
      · rwa [show (findObject (d.findEnv a) o ⟨rv, px, count, d.p11⟩).post.p11KeyConfig =
          d.p11.p11KeyConfig from hcfg] at hm
      · rw [hcfg] at hm
        rwa [import_marked _ fun he => hne ho (TokenObject.label_inj he)] at hm
  · rw [(findObject_dead d a hlive rv px count).2.2]
    exact .refl _ d

theorem find_noneNew {xSession : SessionHandle} {pxObject : ObjectHandle} {max count : Nat} {r : Found}
    (h : cFindObjects (d.findEnv a) d.p11 xSession pxObject max count = some r) :
    NoneNew (LiveLabel d) d ⟨r.post, d.psa⟩ := by
  have hlabel : ∀ rv label,
      NoneNew (LiveLabel d) d ⟨(findByLabel (d.findEnv a) d.p11 rv label count).post, d.psa⟩ := by
    intro rv label
    rcases findByLabel_cases (d.findEnv a) d.p11 rv label count with
      ⟨-, hsame⟩ | ⟨-, ⟨o, -, ho⟩ | ⟨-, hsame⟩⟩
    · rw [hsame]
      exact .refl _ d
    · rw [ho]
      exact findObject_noneNew d a o rv _ count
    · rw [hsame]
      exact .refl _ d
  unfold cFindObjects at h
  split at h
  · split at h
    · cases h
    · cases h
      exact hlabel _ _
  · split at h
    · cases h
      exact .refl _ d
    · split at h
      · cases h
        exact .refl _ d
      · cases h
        exact hlabel _ _

end

/-- **One call** brings nothing but what it creates, and what was live before. -/
theorem tokenStep_noneNew {mbed : Mbed ρ ε κ} {publicKey : κ → List UInt8} {d d' : Device κ}
    {c : TokenCall κ} {rv : CkRv} (h : tokenStep mbed publicKey d c = some (d', rv)) :
    NoneNew (fun l => CreatesLabel mbed d l c ∨ LiveLabel d l) d d' := by
  cases c with
  | cInitialize before mutex =>
    have hd : d' = (cInitialize d before mutex).2 := by cases h; rfl
    rw [hd]
    unfold cInitialize
    split
    · exact .refl _ d
    · exact zeroed_noneNew _ d before mutex
  | cFinalize pvReserved before aPrivate aPublic =>
    cases h
    exact finalize_noneNew _ d pvReserved before aPrivate aPublic
  | cCreateObject xSession pxTemplate pxObject a =>
    obtain ⟨r, hr, h⟩ := Option.map_eq_some_iff.1 h
    cases h
    exact NoneNew.imp (fun _ => .inl) (create_noneNew hr)
  | cGenerateKeyPair args a =>
    obtain ⟨r, hr, h⟩ := Option.map_eq_some_iff.1 h
    cases h
    exact NoneNew.imp (fun _ => .inl) (generate_noneNew hr)
  | cFindObjects xSession pxObject max count a =>
    obtain ⟨r, hr, h⟩ := Option.map_eq_some_iff.1 h
    cases h
    exact NoneNew.imp (fun _ => .inr) (find_noneNew d a hr)
  | cDestroyObject xSession xObject a lock =>
    cases h
    exact destroy_noneNew _ d xSession xObject a lock
  | sessions sessions =>
    cases h
    exact ⟨fun _ _ h => h, fun _ _ h => h, fun _ _ h => h⟩

/-! ## What is gone -/

/-- The object is neither listed, nor marked, nor stored. -/
structure Gone (d : Device κ) (o : TokenObject) : Prop where
  unlisted : ¬Lists d.p11.xObjectList o.pal
  unmarked : o.marked d.p11.p11KeyConfig = false
  unstored : ¬o.Stored d.psa

theorem Gone.dead {d : Device κ} {o : TokenObject} (h : Gone d o) : ¬Live d o := by
  rintro (hm | hs)
  · rw [h.unmarked] at hm
    cases hm
  · exact h.unstored hs

theorem Gone.step {mbed : Mbed ρ ε κ} {publicKey : κ → List UInt8} {d d' : Device κ} {c : TokenCall κ}
    {rv : CkRv} {o : TokenObject} (h : Gone d o) (hc : ¬CreatesLabel mbed d o.label c)
    (hstep : tokenStep mbed publicKey d c = some (d', rv)) : Gone d' o := by
  have hn := tokenStep_noneNew hstep
  have ho : ¬(CreatesLabel mbed d o.label c ∨ LiveLabel d o.label) := by
    rintro (hcr | ⟨o', ho', hlive⟩)
    · exact hc hcr
    · exact h.dead (TokenObject.label_inj ho' ▸ hlive)
  refine ⟨fun hl => h.unlisted (hn.list o ho hl), ?_, fun hs => h.unstored (hn.stored o ho hs)⟩
  cases hm : o.marked d'.p11.p11KeyConfig with
  | false => rfl
  | true =>
    have := hn.mark o ho hm
    rw [h.unmarked] at this
    cases this

/-- **What is gone stays gone** until a call creates an object with its label. -/
theorem Gone.run {mbed : Mbed ρ ε κ} {publicKey : κ → List UInt8} {d d' : Device κ}
    {tr : List (Entry (Device κ) (TokenCall κ) CkRv)} {o : TokenObject} (h : Gone d o)
    (hr : Exec (tokenMachine mbed publicKey) d tr d')
    (hc : ∀ e ∈ tr, ¬CreatesLabel mbed e.pre o.label e.inp) : Gone d' o := by
  induction hr with
  | nil => exact h
  | snoc _ hstep ih =>
    have hlast := hc _ (List.mem_append_right _ List.mem_cons_self)
    exact (ih fun e he => hc e (List.mem_append_left _ he)).step hlast hstep

/-- A listed label that begins with that of an object is the object's. -/
theorem Listed.pal_of_prefix {l : P11ObjectList} (h : Listed l) {o : TokenObject}
    {i : Fin pkcs11configMaxNumObjects} (hp : o.label <+: (l.xObjects i).label) :
    (l.xObjects i).xHandle = o.pal := by
  have hne : (l.xObjects i).xHandle ≠ ckInvalidHandle := by
    apply (h.ok i).handle_ne
    intro hnil
    rw [hnil] at hp
    exact o.label_ne_nil (List.prefix_nil.1 hp)
  obtain ⟨o', hpal, hlab⟩ := (h.stands i hne).object
  rw [hpal, TokenObject.label_prefix_inj (hp.trans hlab)]

/-- No listed label begins with that of an object that is not listed. -/
theorem Listed.find_unlisted {l : P11ObjectList} (h : Listed l) {o : TokenObject}
    (ho : ¬Lists l o.pal) : prvFindObjectInListByLabel l o.label = (ckInvalidHandle, ckInvalidHandle) := by
  rcases prvFindObjectInListByLabel_cases l o.label_notMem with ⟨i, hp, -, -⟩ | ⟨-, hnone⟩
  · exact absurd ⟨i, h.pal_of_prefix hp⟩ ho
  · exact hnone

/-- **What is gone is not found.** -/
theorem Gone.find {d : Device κ} {o : TokenObject} (h : Gone d o) (hl : Listed d.p11.xObjectList)
    (a : FindAns) (rv : CkRv) (count : Nat) :
    (findByLabel (d.findEnv a) d.p11 rv o.label count).pxObject = ckInvalidHandle ∧
      (findByLabel (d.findEnv a) d.p11 rv o.label count).pulObjectCount = count := by
  have hfind := hl.find_unlisted h.unlisted
  rcases findByLabel_cases (d.findEnv a) d.p11 rv o.label count with
    ⟨hpx, -⟩ | ⟨hpx, ⟨o', ho', hf⟩ | ⟨hno, -⟩⟩
  · rw [hfind] at hpx
    exact absurd rfl hpx
  · obtain rfl := TokenObject.label_inj ho'
    rw [hf]
    obtain ⟨h1, h2, -⟩ := findObject_dead d a h.dead rv
      (prvFindObjectInListByLabel d.p11.xObjectList o.label).2 count
    exact ⟨h1.trans hpx, h2⟩
  · exact absurd rfl (hno o)

end Pkcs11
