import TrustZone.Crypto.PkiObjectPkcs11
import TrustZone.Pkcs11.GetAttributeValue

/-!
# PSA under the PKCS#11 module

The services that the module calls, as the stores of the PKI objects make them: what the one writes by
its ids the other finds by its own.
-/

namespace Crypto

open Lib Psa Pkcs11

/-- What a call of the module gets from elsewhere: the algorithms of the keys, the allocator,
`convert_pem_to_der`, what lies on the stack, and the size of an `mbedtls_ecp_point`. -/
structure ValueAns where
  keyAlgorithm : KeyHandle → Algorithm
  malloc : Nat → Bool
  convertPemToDer : List UInt8 → Nat → Option (List UInt8)
  ucGetData : List UInt8
  ecpPointSize : Nat

/-- The services of `C_GetAttributeValue`. -/
def PkiStores.valueEnv (st : PkiStores) (a : ValueAns) : ValueEnv where
  getKeyAttributes h :=
    match st.keys h.toNat with
    | some k => (psaSuccess, k.attributes, a.keyAlgorithm h)
    | none => (psaErrorInvalidHandle, ⟨0, 0⟩, 0)
  exportKey h size :=
    match st.keys h.toNat with
    | some k => exportInto k.material size
    | none => (psaErrorInvalidHandle, [])
  psGetInfo uid :=
    match st.ps uid with
    | some data => (psaSuccess, data.length)
    | none => (psaErrorDoesNotExist, 0)
  psGet uid size :=
    match st.ps uid with
    | some data => (psaSuccess, data.take size)
    | none => (psaErrorDoesNotExist, [])
  malloc := a.malloc
  convertPemToDer := a.convertPemToDer
  ucGetData := a.ucGetData
  ecpPointSize := a.ecpPointSize

/-- The calls of `xPrvExportPubKeyDer` on the module. -/
def moduleExport (env : ValueEnv) (s : State) (xSession : SessionHandle) (pvPortMalloc : Nat → Bool) :
    ExportCalls where
  getFunctionList := ckrOk
  getAttributeValue h a :=
    match cGetAttributeValue env s xSession h (some [a]) with
    | some (rv, some [a]) => some (rv.code, a)
    | _ => none
  pvPortMalloc := pvPortMalloc

end Crypto
