import TrustZone.Pkcs11.CreateObject

/-!
# What the import of a key takes from the heap

`prvCreatePrivateKey` and `prvCreatePublicKey` again, with names for the blocks that they take and give
back.
-/

namespace Pkcs11

open Lib Psa Crypto

variable {κ ρ ε : Type}

/-- A block of an import: the context of the key with the integers in it, or the DER buffer. -/
inductive KeyBlock
  | pkContext | pxDerKey
  deriving DecidableEq

/-- `pvPortMalloc` of a block that is granted, and `vPortFree` or `mbedtls_pk_free` of it. -/
inductive KeyBlockOp
  | malloc (b : KeyBlock)
  | free (b : KeyBlock)
  deriving DecidableEq

namespace KeyBlockOp

def block : KeyBlockOp → KeyBlock
  | malloc b => b
  | free b => b

/-- The operation without the name. -/
def heapOp : KeyBlockOp → HeapOp
  | malloc _ => .malloc
  | free _ => .free

end KeyBlockOp

/-- What an import leaves: its result, `*pxObject`, what it did with its blocks, and the device. -/
structure KeyImport (κ : Type) where
  rv : CkRv
  pxObject : ObjectHandle
  ops : List KeyBlockOp
  post : Device κ

/-- The rest of an import, once the template is read: the DER buffer, the DER, the save and the list.
`mbedtls_pk_free` stands behind the save and nowhere else. -/
def prvStoreKey (mbed : Mbed ρ ε κ) (d : Device κ) (st : TemplateState (PkContext ρ ε))
    (write : Except CkRv (List UInt8 × Nat)) (pxObject : ObjectHandle) (a : CreateAns) :
    Option (KeyImport κ) :=
  let context := if a.mallocContext then [KeyBlockOp.malloc .pkContext] else []
  if st.xResult ≠ .ok then some ⟨st.xResult, pxObject, context, d⟩
  else if ¬a.mallocDer then some ⟨.hostMemory, pxObject, context, d⟩
  else
    let ops := context ++ [.malloc .pxDerKey]
    match write with
    | .error e => some ⟨e, pxObject, ops ++ [.free .pxDerKey], d⟩
    | .ok (der, len) =>
      match saveAndAdd mbed d ⟨st.pxClass, st.pxLabel, der, len, some st.ctx⟩ pxObject a with
      | none => none
      | some (rv, h, d) =>
        let ops := ops ++ if a.mallocContext then [.free .pkContext] else []
        some ⟨rv, h, ops ++ [.free .pxDerKey], d⟩

/-- `prvCreatePrivateKey`. -/
def prvCreatePrivateKey (mbed : Mbed ρ ε κ) (d : Device κ) (template : List CkAttribute)
    (pxObject : ObjectHandle) (a : CreateAns) : Option (KeyImport κ) :=
  match prvGetKeyType template with
  | none => none
  | some xKeyType =>
    if xKeyType = some ckkRsa then
      if a.mallocContext then
        match prvCreateRsaPrivateKey mbed template ⟨none, none, .ok, ⟨mbed.rsaInit, a.xBool⟩⟩ with
        | none => none
        | some st =>
          let pk := .rsa st.ctx.rsa
          prvStoreKey mbed d ⟨st.pxLabel, st.pxClass, st.xResult, pk⟩ (writePrivateKey mbed pk)
            pxObject a
      else some ⟨.hostMemory, pxObject, [], d⟩
    else if xKeyType = some ckkEc then
      let pk := if a.mallocContext then .ec mbed.ecpKeypairInit else .null
      match template.foldlM (ecPrivateKeyAttribute mbed a.stack) ⟨none, none, .ok, pk⟩ with
      | none => none
      | some st => prvStoreKey mbed d st (writePrivateKey mbed st.ctx) pxObject a
    else some ⟨.mechanismInvalid, pxObject, [], d⟩

/-- `prvCreatePublicKey`. -/
def prvCreatePublicKey (mbed : Mbed ρ ε κ) (d : Device κ) (template : List CkAttribute)
    (pxObject : ObjectHandle) (a : CreateAns) : Option (KeyImport κ) :=
  match prvGetKeyType template with
  | none => none
  | some xKeyType =>
    if xKeyType = some ckkRsa then some ⟨.attributeTypeInvalid, pxObject, [], d⟩
    else if xKeyType = some ckkEc then
      let pk := if a.mallocContext then .ec mbed.ecpKeypairInit else .null
      match template.foldlM (ecPublicKeyAttribute mbed a.stack)
          ⟨none, none, .ok, ⟨pk, a.xBool⟩⟩ with
      | none => none
      | some st =>
        prvStoreKey mbed d ⟨st.pxLabel, st.pxClass, st.xResult, st.ctx.pk⟩
          (writePublicKey mbed st.ctx.pk) pxObject a
    else some ⟨.mechanismInvalid, pxObject, [], d⟩

end Pkcs11
