import TrustZone.Pkcs11.Stores

/-!
# Saving and removing the objects of PSA

`PKCS11PSASaveObject` and `PKCS11PSARemoveObject`: a label picks the slot of `P11KeyConfig`, and with
it the fixed id of a key or the uid of a certificate. `Mbed` is what they are linked with from mbedTLS.
-/

namespace Pkcs11

open Lib Psa Crypto

variable {κ ρ ε : Type}

/-! ## The key slots of `P11KeyConfig` -/

/-- The keys that `P11KeyConfig` has a slot for. -/
inductive DeviceKey
  | devicePrivate | devicePublic | codeVerify
  deriving DecidableEq

def DeviceKey.label : DeviceKey → List UInt8
  | .devicePrivate => labelDevicePrivateKeyForTls
  | .devicePublic => labelDevicePublicKeyForTls
  | .codeVerify => labelCodeVerificationKey

/-- The id under which a search opens the key. -/
def DeviceKey.keyId : DeviceKey → KeyHandle
  | .devicePrivate => psaDevicePrivateKeyId
  | .devicePublic => psaDevicePublicKeyId
  | .codeVerify => psaCodeVerificationKeyId

namespace P11KeyConfig

def handle (c : P11KeyConfig) : DeviceKey → KeyHandle
  | .devicePrivate => c.uxDevicePrivateKey
  | .devicePublic => c.uxDevicePublicKey
  | .codeVerify => c.uxCodeVerifyKey

def mark (c : P11KeyConfig) : DeviceKey → Bool
  | .devicePrivate => c.xDevicePrivateKeyMark
  | .devicePublic => c.xDevicePublicKeyMark
  | .codeVerify => c.xCodeVerifyKeyMark

/-- Write the handle and the mark of a slot. -/
def setKey (c : P11KeyConfig) (h : KeyHandle) (m : Bool) : DeviceKey → P11KeyConfig
  | .devicePrivate => { c with uxDevicePrivateKey := h, xDevicePrivateKeyMark := m }
  | .devicePublic => { c with uxDevicePublicKey := h, xDevicePublicKeyMark := m }
  | .codeVerify => { c with uxCodeVerifyKey := h, xCodeVerifyKeyMark := m }

@[simp] theorem handle_setKey_self (c : P11KeyConfig) (h : KeyHandle) (m : Bool) (k : DeviceKey) :
    (c.setKey h m k).handle k = h := by cases k <;> rfl

@[simp] theorem mark_setKey_self (c : P11KeyConfig) (h : KeyHandle) (m : Bool) (k : DeviceKey) :
    (c.setKey h m k).mark k = m := by cases k <;> rfl

theorem handle_setKey_of_ne (c : P11KeyConfig) (h : KeyHandle) (m : Bool) {k j : DeviceKey}
    (hj : j ≠ k) : (c.setKey h m k).handle j = c.handle j := by
  cases k <;> cases j <;> first | rfl | exact absurd rfl hj

theorem mark_setKey_of_ne (c : P11KeyConfig) (h : KeyHandle) (m : Bool) {k j : DeviceKey}
    (hj : j ≠ k) : (c.setKey h m k).mark j = c.mark j := by
  cases k <;> cases j <;> first | rfl | exact absurd rfl hj

/-- The zeroed configuration. -/
def zero : P11KeyConfig := ⟨0, 0, 0, false, false, false, false, false, false⟩

end P11KeyConfig

/-! ## Removing -/

/-- How the calls of one removal answer. -/
structure RemoveAns where
  destroyKey : Option (PsaError × Bool)
  closeKey : Option PsaError
  psRemove : Option PsaError

/-- The branch of `PKCS11PSARemoveObject` for a key. -/
def removeKey (p : PsaStores κ) (c : P11KeyConfig) (permanent : Bool) (a : RemoveAns)
    (k : DeviceKey) : CkRv × P11KeyConfig × PsaStores κ :=
  if c.mark k then
    let (p, uxStatus) :=
      if permanent then p.destroyKey (c.handle k) a.destroyKey
      else p.closeKey (c.handle k) a.closeKey
    if uxStatus ≠ psaSuccess then (.functionFailed, c, p) else (.ok, c.setKey 0 false k, p)
  else (.ok, c, p)

/-- The branch of `PKCS11PSARemoveObject` for a certificate: `cleared` is the configuration without
its mark. -/
def removeCertificate (p : PsaStores κ) (c : P11KeyConfig) (mark : Bool) (uid : Nat)
    (cleared : P11KeyConfig) (a : RemoveAns) : CkRv × P11KeyConfig × PsaStores κ :=
  if mark then
    let (p, uxStatus) := p.psRemove uid a.psRemove
    if uxStatus ≠ psaSuccess then (.functionFailed, c, p) else (.ok, cleared, p)
  else (.ok, c, p)

/-- `PKCS11PSARemoveObject`: `pcLabel` are the `xLabelLength` bytes that `memcmp` looks at. -/
def pkcs11PsaRemoveObject (p : PsaStores κ) (c : P11KeyConfig) (pcLabel : List UInt8)
    (permanent : Bool) (a : RemoveAns) : CkRv × P11KeyConfig × PsaStores κ :=
  if pcLabel.isPrefixOf (labelDevicePrivateKeyForTls ++ [0]) then
    removeKey p c permanent a .devicePrivate
  else if pcLabel.isPrefixOf (labelDevicePublicKeyForTls ++ [0]) then
    removeKey p c permanent a .devicePublic
  else if pcLabel.isPrefixOf (labelCodeVerificationKey ++ [0]) then
    removeKey p c permanent a .codeVerify
  else if pcLabel.isPrefixOf (labelRootCertificate ++ [0]) then
    removeCertificate p c c.xRootCertificateMark psaRootCertificateUid
      { c with xRootCertificateMark := false } a
  else if pcLabel.isPrefixOf (labelJitpCertificate ++ [0]) then
    removeCertificate p c c.xJitpCertificateMark psaJitpCertificateUid
      { c with xJitpCertificateMark := false } a
  else if pcLabel.isPrefixOf (labelDeviceCertificateForTls ++ [0]) then
    removeCertificate p c c.xDeviceCertificateMark psaDeviceCertificateUid
      { c with xDeviceCertificateMark := false } a
  else (.attributeValueInvalid, c, p)

/-! ## Saving -/

/-- A numbered field of an RSA key, as `prvCreateRsaPrivateKey` imports them. -/
inductive RsaField
  | modulus | publicExponent | prime1 | prime2 | privateExponent | exponent1 | exponent2 | coefficient
  deriving DecidableEq

/-- The field is an argument of `mbedtls_rsa_import_raw`, which leaves it out when it is `NULL`. -/
def RsaField.importRaw : RsaField → Bool
  | .exponent1 | .exponent2 | .coefficient => false
  | _ => true

/-- What `mbedtls_pk_context` refers to: an RSA context, an EC key pair, or `NULL`. -/
inductive PkContext (ρ ε : Type)
  | rsa (r : ρ)
  | ec (e : ε)
  | null

/-- The padding mode of an RSA context. -/
inductive RsaPadding
  | pkcsV15 | pkcsV21 | other
  deriving DecidableEq

/-- What the module is linked with: the key contexts of mbedTLS, the point of a public key in DER, and
the key pair that PSA makes of imported bytes. A memory and a length are what a pointer refers to. -/
structure Mbed (ρ ε κ : Type) where
  rsaInit : ρ
  rsaRead : RsaField → (Nat → UInt8) → Nat → ρ → Int × ρ
  rsaPadding : ρ → RsaPadding
  ecpKeypairInit : ε
  mpiReadBinary : (Nat → UInt8) → Nat → ε → Int × ε
  ecpPointReadBinary : (Nat → UInt8) → Nat → ε → Int × ε
  mpiWriteBinary : ε → Except Int (List UInt8)
  pkWriteKeyDer : PkContext ρ ε → Except Int (List UInt8)
  pkWritePubkeyDer : PkContext ρ ε → Except Int (List UInt8)
  getPublicKeyECPoint : List UInt8 → Except Int (List UInt8)
  importKeyPair : KeyType → List UInt8 → κ

def ckoCertificate : Nat := 1
def ckoPublicKey : Nat := 2
def ckoPrivateKey : Nat := 3

def pkcs11ObjectMaxSize : Nat := 1300

/-- `PSA_KEY_TYPE_RSA_KEY_PAIR`. -/
def psaKeyTypeRsaKeyPair : KeyType := 0x7001

/-- How the calls of one save answer. -/
structure SaveAns where
  importKey : PsaStores.NewKeyAns
  psSet : Option PsaError

/-- What is saved: a certificate in protected storage, or a key in the crypto service. -/
inductive SaveObject (κ : Type)
  | certificate (uid : Nat) (pal : ObjectHandle)
  | key (k : DeviceKey) (id : KeyHandle) (key : StoredKey κ) (pal : ObjectHandle)

/-- The private key of a context, as `psa_import_key` takes it, if the context is one that the branch
of the private key takes. -/
def privateKeyData (mbed : Mbed ρ ε κ) (pucData : List UInt8) :
    Option (PkContext ρ ε) → Option (StoredKey κ)
  | some (.rsa r) =>
    if mbed.rsaPadding r = .other then none
    else some (.keyPair (mbed.importKeyPair psaKeyTypeRsaKeyPair pucData))
  | some (.ec e) =>
    match mbed.mpiWriteBinary e with
    | .ok raw => some (.keyPair (mbed.importKeyPair eccKeyPairSecpR1 raw))
    | .error _ => none
  | some .null => none
  | none => none

/-- The public key of a context, likewise. -/
def publicKeyData (mbed : Mbed ρ ε κ) (pucData : List UInt8) :
    Option (PkContext ρ ε) → Option (StoredKey κ)
  | some (.ec _) =>
    match mbed.getPublicKeyECPoint pucData with
    | .ok point => some (.publicKey point)
    | .error _ => none
  | some (.rsa _) => none
  | some .null => none
  | none => none

/-- The branch that `PKCS11PSASaveObject` takes by class and label, and what it saves there. The device
keys are saved under their ids, the code verification key under none. -/
def saveObject (mbed : Mbed ρ ε κ) (xClass : Nat) (label pucData : List UInt8)
    (pvContext : Option (PkContext ρ ε)) : Option (SaveObject κ) :=
  if xClass = ckoCertificate ∧ label = labelDeviceCertificateForTls then
    some (.certificate psaDeviceCertificateUid eAwsDeviceCertificate)
  else if xClass = ckoCertificate ∧ label = labelJitpCertificate then
    some (.certificate psaJitpCertificateUid eAwsJitpCertificate)
  else if xClass = ckoCertificate ∧ label = labelRootCertificate then
    some (.certificate psaRootCertificateUid eAwsRootCertificate)
  else if xClass = ckoPrivateKey ∧ label = labelDevicePrivateKeyForTls then
    (privateKeyData mbed pucData pvContext).map
      (.key .devicePrivate psaDevicePrivateKeyId · eAwsDevicePrivateKey)
  else if xClass = ckoPublicKey ∧ label = labelCodeVerificationKey then
    (publicKeyData mbed pucData pvContext).map (.key .codeVerify 0 · eAwsCodeVerifyingKey)
  else if xClass = ckoPublicKey ∧ label = labelDevicePublicKeyForTls then
    (publicKeyData mbed pucData pvContext).map
      (.key .devicePublic psaDevicePublicKeyId · eAwsDevicePublicKey)
  else none

/-- `PKCS11PSASaveObject`: the PAL handle, zero if the object was not saved. It does not return when it
compares the label and there is none. -/
def pkcs11PsaSaveObject (mbed : Mbed ρ ε κ) (p : PsaStores κ) (c : P11KeyConfig) (xClass : Nat)
    (pxLabel : Option (List UInt8)) (pucData : List UInt8) (ulDataSize : Nat)
    (pvContext : Option (PkContext ρ ε)) (a : SaveAns) :
    Option (ObjectHandle × P11KeyConfig × PsaStores κ) :=
  if ulDataSize ≤ pkcs11ObjectMaxSize then
    match pxLabel with
    | none =>
      if xClass = ckoCertificate ∨ xClass = ckoPublicKey ∨ xClass = ckoPrivateKey then none
      else some (ckInvalidHandle, c, p)
    | some label =>
      match saveObject mbed xClass label pucData pvContext with
      | none => some (ckInvalidHandle, c, p)
      | some (.certificate uid pal) =>
        let (p, uxStatus) := p.psSet uid pucData a.psSet
        if uxStatus = psaSuccess then
          some (pal, pkcs11PsaContextImportObject c label pkcs11ObjectHandleNa, p)
        else some (ckInvalidHandle, c, p)
      | some (.key _ id key pal) =>
        let (p, uxStatus, uxKeyHandle) := p.newKey id key a.importKey
        if uxStatus = psaSuccess then
          some (pal, pkcs11PsaContextImportObject c label uxKeyHandle, p)
        else some (ckInvalidHandle, c, p)
  else some (ckInvalidHandle, c, p)

end Pkcs11
