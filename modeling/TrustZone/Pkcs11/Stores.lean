import TrustZone.Crypto.GenerateKeyPair
import TrustZone.Pkcs11.Find

/-!
# The module and the stores of PSA

The keys of the crypto service and the objects of protected storage, with the calls that the module
makes to them. A key handle is a key id: a persistent key has an id below `psaKeyIdUserMax`, chosen by
the application, a volatile key gets one of the ids above from the service. `created` notes the keys
that the module created and has neither destroyed nor closed since; no code reads it.
-/

namespace Pkcs11

open Lib Psa Crypto

variable {κ : Type}

/-- `PSA_KEY_ID_USER_MAX`. -/
def psaKeyIdUserMax : Nat := 0x3fffffff

/-- `PSA_KEY_ID_VENDOR_MAX`. -/
def psaKeyIdVendorMax : Nat := 0x7fffffff

/-- The id of a volatile key. -/
abbrev VolatileId := { h : KeyHandle // psaKeyIdUserMax < h.toNat ∧ h.toNat ≤ psaKeyIdVendorMax }

theorem firstVolatile : psaKeyIdUserMax < (0x40000000 : KeyHandle).toNat ∧
    (0x40000000 : KeyHandle).toNat ≤ psaKeyIdVendorMax := by decide

/-- The stores of PSA. -/
structure PsaStores (κ : Type) where
  keys : KeyStore κ
  created : Nat → Bool
  objects : Nat → Option (List UInt8)

namespace PsaStores

/-- How a call that creates a key answers: its fault, and the id that a volatile key gets. -/
structure NewKeyAns where
  fault : Option PsaError
  volatileId : VolatileId

/-- `psa_generate_key` and `psa_import_key`, with `id` the id in the attributes: zero asks for a
volatile key. -/
def newKey (p : PsaStores κ) (id : KeyHandle) (key : StoredKey κ) (a : NewKeyAns) :
    PsaStores κ × Status × KeyHandle :=
  let h := if id = 0 then a.volatileId.val else id
  let (keys, st) := psaCreateKey p.keys h.toNat key a.fault
  if st = psaSuccess then
    ({ p with keys := keys, created := Function.update p.created h.toNat true }, st, h)
  else (p, st, 0)

/-- `psa_open_key`. -/
def openKey (p : PsaStores κ) (fault : Option PsaError) (id : KeyHandle) : Status × KeyHandle :=
  match fault with
  | some e => (e, 0)
  | none => if p.keys id.toNat = none then (psaErrorDoesNotExist, 0) else (psaSuccess, id)

/-- `psa_close_key`: a volatile key is gone with its handle. -/
def closeKey (p : PsaStores κ) (h : KeyHandle) (fault : Option PsaError) : PsaStores κ × Status :=
  if h = 0 then (p, psaSuccess)
  else
    match fault with
    | some e => (p, e)
    | none =>
      if p.keys h.toNat = none then (p, psaErrorInvalidHandle)
      else
        let keys :=
          if h.toNat ≤ psaKeyIdUserMax then p.keys else Function.update p.keys h.toNat none
        ({ p with keys := keys, created := Function.update p.created h.toNat false }, psaSuccess)

/-- `psa_destroy_key`. A call that fails may have erased the key all the same. -/
def destroyKey (p : PsaStores κ) (h : KeyHandle) (fault : Option (PsaError × Bool)) :
    PsaStores κ × Status :=
  if h = 0 then (p, psaSuccess)
  else
    let (keys, st) := psaDestroyKey p.keys h.toNat fault
    if st = psaSuccess then
      ({ p with keys := keys, created := Function.update p.created h.toNat false }, st)
    else ({ p with keys := keys }, st)

/-- `psa_export_public_key` into a buffer of `size` bytes. -/
def exportPublicKey (p : PsaStores κ) (publicKey : κ → List UInt8) (h : KeyHandle) (size : Nat)
    (fault : Option PsaError) : Status × List UInt8 :=
  match fault, p.keys h.toNat with
  | some e, _ => (e, [])
  | none, none => (psaErrorInvalidHandle, [])
  | none, some (.keyPair k) =>
    if (publicKey k).length ≤ size then (psaSuccess, publicKey k) else (psaErrorBufferTooSmall, [])
  | none, some (.publicKey b) =>
    if b.length ≤ size then (psaSuccess, b) else (psaErrorBufferTooSmall, [])

/-- `psa_ps_set`. -/
def psSet (p : PsaStores κ) (uid : Nat) (data : List UInt8) (fault : Option PsaError) :
    PsaStores κ × Status :=
  match fault with
  | some e => (p, e)
  | none => ({ p with objects := Function.update p.objects uid (some data) }, psaSuccess)

/-- `psa_ps_get_info`. -/
def psGetInfo (p : PsaStores κ) (fault : Option PsaError) (uid : Nat) : Status :=
  match fault with
  | some e => e
  | none => if p.objects uid = none then psaErrorDoesNotExist else psaSuccess

/-- `psa_ps_remove`. -/
def psRemove (p : PsaStores κ) (uid : Nat) (fault : Option PsaError) : PsaStores κ × Status :=
  match fault with
  | some e => (p, e)
  | none =>
    if p.objects uid = none then (p, psaErrorDoesNotExist)
    else ({ p with objects := Function.update p.objects uid none }, psaSuccess)

end PsaStores

/-- The module and what it has stored. -/
structure Device (κ : Type) where
  p11 : State
  psa : PsaStores κ

end Pkcs11
