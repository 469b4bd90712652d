import Mathlib.Logic.Function.Basic
import TrustZone.Lib.Runs
import TrustZone.Crypto.PkiObjectPsa

/-!
# Generating an EC key pair in PSA

`lGenerateKeyPairECPsaCrypto` of `PkiObjectPsa.c` over the key storage of PSA: both slots are
destroyed, a key pair is generated under the private id, its public key is read and imported under the
public id. `κ` are the key pairs, `publicKey` gives the public key that PSA exports for one.
-/

namespace Crypto

open Lib Psa Machine

variable {κ : Type}

/-- What PSA keeps under an id. -/
inductive StoredKey (κ : Type)
  | keyPair (k : κ)
  | publicKey (bytes : List UInt8)
  deriving DecidableEq

/-- The persistent keys of PSA. -/
abbrev KeyStore (κ : Type) := Nat → Option (StoredKey κ)

/-- The status of a PSA call that fails. -/
abbrev PsaError := { s : Status // s ≠ psaSuccess }

/-- `psa_destroy_key`. A call that fails may have erased the key all the same. -/
def psaDestroyKey (store : KeyStore κ) (id : Nat) (fault : Option (PsaError × Bool)) :
    KeyStore κ × Status :=
  match fault with
  | some (e, erased) => (if erased then Function.update store id none else store, e)
  | none =>
    if store id = none then (store, psaErrorInvalidHandle)
    else (Function.update store id none, psaSuccess)

/-- `psa_generate_key` and `psa_import_key` of a persistent key. -/
def psaCreateKey (store : KeyStore κ) (id : Nat) (key : StoredKey κ) (fault : Option PsaError) :
    KeyStore κ × Status :=
  match fault with
  | some e => (store, e)
  | none =>
    if store id = none then (Function.update store id (some key), psaSuccess)
    else (store, psaErrorAlreadyExists)

/-- `PSA_KEY_TYPE_ECC_KEY_PAIR( PSA_ECC_FAMILY_SECP_R1 )`. -/
def eccKeyPairSecpR1 : KeyType := 0x7112

/-- `PSA_KEY_TYPE_ECC_PUBLIC_KEY( PSA_ECC_FAMILY_SECP_R1 )`. -/
def eccPublicKeySecpR1 : KeyType := 0x4112

def StoredKey.attributes : StoredKey κ → KeyAttributes
  | .keyPair _ => ⟨eccKeyPairSecpR1, 256⟩
  | .publicKey _ => ⟨eccPublicKeySecpR1, 256⟩

/-- How the calls of one run answer: the fault of each PSA call, the key pair that is generated, and
which allocations succeed. -/
structure GenerateAns (κ : Type) where
  destroyPrv : Option (PsaError × Bool)
  destroyPub : Option (PsaError × Bool)
  generate : Option PsaError
  key : κ
  getKeyAttributes : Option PsaError
  calloc : Nat → Bool
  exportPublicKey : Option PsaError
  importKey : Option PsaError

/-- What `xReadPublicKeyFromPSACrypto` is linked with when it reads the key under `id`. -/
def readEnv (mbed : PkiEnv) (publicKey : κ → List UInt8) (store : KeyStore κ) (id : Nat)
    (a : GenerateAns κ) : PkiEnv :=
  { mbed with
    getKeyAttributes :=
      match a.getKeyAttributes, store id with
      | some e, _ => (e, ⟨0, 0⟩)
      | none, none => (psaErrorInvalidHandle, ⟨0, 0⟩)
      | none, some key => (psaSuccess, key.attributes)
    exportPublicKey := fun _ =>
      match a.exportPublicKey, store id with
      | some e, _ => (e, [])
      | none, none => (psaErrorInvalidHandle, [])
      | none, some (.keyPair k) => (psaSuccess, publicKey k)
      | none, some (.publicKey p) => (psaSuccess, p)
    calloc := a.calloc }

/-- The blocks that a call takes from the heap and gives back. -/
inductive HeapOp
  | malloc
  | free
  deriving DecidableEq

/-- The heap operations of `xReadPublicKeyFromPSACrypto`: the buffer, given back unless the call
succeeds. -/
def readHeap (env : PkiEnv) : List HeapOp :=
  let (xStatus, attrs) := env.getKeyAttributes
  match pubKeyDerLen env attrs.type with
  | none => []
  | some size =>
    if xStatus = psaSuccess ∧ env.calloc size then
      match xReadPublicKeyFromPSACrypto env with
      | some (xStatus, _, _) => if xStatus = psaSuccess then [.malloc] else [.malloc, .free]
      | none => [.malloc]
    else []

/-- `*ppucPubKeyDer` and `*puxPubKeyDerLen`. -/
structure DerOut where
  ppucPubKeyDer : Option (List UInt8)
  puxPubKeyDerLen : Nat

/-- `mbedtls_psa_err_translate_pk`. -/
def mbedtlsPsaErrTranslatePk (status : Status) : Int :=
  if status = psaSuccess then 0
  else if status = psaErrorNotSupported then -0x3980
  else if status = psaErrorInsufficientMemory then -0x3F80
  else if status = psaErrorInsufficientEntropy then -0x4D00
  else if status = psaErrorBadState then -0x3E80
  else -0x0001

/-- The status with the error of a key that does not exist masked. -/
def maskInvalidHandle (xStatus : Status) : Status :=
  if xStatus = psaErrorInvalidHandle then psaSuccess else xStatus

/-- The two slots are destroyed; each may be empty already. -/
def destroySlots (store : KeyStore κ) (xPrvKeyId xPubKeyId : Nat) (a : GenerateAns κ) :
    KeyStore κ × Status :=
  let (store, xStatus) := psaDestroyKey store xPrvKeyId a.destroyPrv
  let xStatus := maskInvalidHandle xStatus
  let (store, xStatus) :=
    if xStatus = psaSuccess then psaDestroyKey store xPubKeyId a.destroyPub else (store, xStatus)
  (store, maskInvalidHandle xStatus)

/-- What a call returns, and its heap operations. -/
structure GenerateResult where
  ret : Int
  out : DerOut
  heap : List HeapOp

/-- The end of `lGenerateKeyPairECPsaCrypto`: the outputs are cleared on an error. -/
def finish (store : KeyStore κ) (xStatus : Status) (out : DerOut) (heap : List HeapOp) :
    KeyStore κ × GenerateResult :=
  if xStatus ≠ psaSuccess then
    (store, ⟨mbedtlsPsaErrTranslatePk xStatus, ⟨none, 0⟩,
      heap ++ if out.ppucPubKeyDer.isSome then [.free] else []⟩)
  else (store, ⟨mbedtlsPsaErrTranslatePk xStatus, out, heap⟩)

/-- `lGenerateKeyPairECPsaCrypto`, with pointers that are not `NULL` and `out` what they point to. It
does not return when `xReadPublicKeyFromPSACrypto` does not. -/
def lGenerateKeyPairECPsaCrypto (mbed : PkiEnv) (publicKey : κ → List UInt8) (store : KeyStore κ)
    (xPrvKeyId xPubKeyId : Nat) (out : DerOut) (a : GenerateAns κ) :
    Option (KeyStore κ × GenerateResult) :=
  if xPrvKeyId = 0 ∨ xPubKeyId = 0 then some (finish store psaErrorInvalidHandle out [])
  else
    let (store, xStatus) := destroySlots store xPrvKeyId xPubKeyId a
    let (store, xStatus) :=
      if xStatus = psaSuccess then psaCreateKey store xPrvKeyId (.keyPair a.key) a.generate
      else (store, xStatus)
    if xStatus = psaSuccess then
      let env := readEnv mbed publicKey store xPrvKeyId a
      match xReadPublicKeyFromPSACrypto env with
      | none => none
      | some (xStatus, der, derLen) =>
        if xStatus = psaSuccess then
          let uxPubKeyLen := psaExportPublicKeyOutputSize eccKeyPairSecpR1 256
          let pucPubKey := slice (memOf (der.getD [])) (derLen - uxPubKeyLen) uxPubKeyLen
          let (store, xStatus) := psaCreateKey store xPubKeyId (.publicKey pucPubKey) a.importKey
          some (finish store xStatus ⟨der, derLen⟩ (readHeap env))
        else some (finish store xStatus ⟨der, derLen⟩ (readHeap env))
    else some (finish store xStatus ⟨none, 0⟩ [])

/-- The function called again and again on the same two ids, with outputs of any content. -/
def keyGenerator (mbed : PkiEnv) (publicKey : κ → List UInt8) (xPrvKeyId xPubKeyId : Nat) :
    Machine (KeyStore κ) (DerOut × GenerateAns κ) GenerateResult :=
  ⟨fun store c => lGenerateKeyPairECPsaCrypto mbed publicKey store xPrvKeyId xPubKeyId c.1 c.2⟩

end Crypto
