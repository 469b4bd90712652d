import TrustZone.Pkcs11.CreateObject

/-!
# The helpers of corePKCS11

`xFindObjectWithLabelAndClass` over any module: its calls are parameters, and `CK_RV` is any value.
`CkRv.code` are the values of the results that the PSA module returns.
`vAppendSHA256AlgorithmIdentifierSequence` copies with bounds.
-/

namespace Pkcs11

open Lib

/-- `CK_RV`, any value. -/
abbrev Rv := BitVec 32

def ckrOk : Rv := 0x00000000
def ckrHostMemory : Rv := 0x00000002
def ckrFunctionFailed : Rv := 0x00000006
def ckrFunctionNotSupported : Rv := 0x00000054
def ckrObjectHandleInvalid : Rv := 0x00000082

def CkRv.code : CkRv → Rv
  | .ok => 0x00000000
  | .hostMemory => 0x00000002
  | .functionFailed => 0x00000006
  | .argumentsBad => 0x00000007
  | .cantLock => 0x0000000A
  | .attributeSensitive => 0x00000011
  | .attributeTypeInvalid => 0x00000012
  | .attributeValueInvalid => 0x00000013
  | .dataLenRange => 0x00000021
  | .deviceMemory => 0x00000031
  | .keyHandleInvalid => 0x00000060
  | .keyTypeInconsistent => 0x00000063
  | .mechanismInvalid => 0x00000070
  | .mechanismParamInvalid => 0x00000071
  | .objectHandleInvalid => 0x00000082
  | .operationActive => 0x00000090
  | .operationNotInitialized => 0x00000091
  | .sessionClosed => 0x000000B0
  | .sessionHandleInvalid => 0x000000B3
  | .sessionParallelNotSupported => 0x000000B4
  | .signatureInvalid => 0x000000C0
  | .signatureLenRange => 0x000000C1
  | .templateIncomplete => 0x000000D0
  | .templateInconsistent => 0x000000D1
  | .bufferTooSmall => 0x00000150
  | .cryptokiNotInitialized => 0x00000190
  | .cryptokiAlreadyInitialized => 0x00000191

theorem CkRv.code_eq_ok {rv : CkRv} : rv.code = ckrOk ↔ rv = .ok := by
  cases rv <;> decide

/-- The calls of one search, on a module with states `σ`: `C_FindObjects` gets what `*pxHandle` holds, and
leaves its result, `*pxHandle` and `ulCount`. A failed `C_GetFunctionList` leaves `NULL`. -/
structure FindCalls (σ : Type) where
  getFunctionList : Rv
  findObjectsInit : σ → Option (Rv × σ)
  findObjects : σ → ObjectHandle → Option (Rv × ObjectHandle × Nat × σ)
  findObjectsFinal : σ → Option (Rv × σ)

variable {σ : Type}

/-- `xFindObjectWithLabelAndClass`, with pointers that are not `NULL`: its result and `*pxHandle`. -/
def xFindObjectWithLabelAndClass (m : FindCalls σ) (s : σ) (pxHandle : ObjectHandle) :
    Option (Rv × ObjectHandle × σ) :=
  if m.getFunctionList ≠ ckrOk then some (ckrFunctionFailed, ckInvalidHandle, s)
  else
    match m.findObjectsInit s with
    | none => none
    | some (xResult, s) =>
      if xResult ≠ ckrOk then some (xResult, ckInvalidHandle, s)
      else
        match m.findObjects s pxHandle with
        | none => none
        | some (xResult, pxHandle, ulCount, s) =>
          let pxHandle := if ulCount = 0 then ckInvalidHandle else pxHandle
          if xResult ≠ ckrOk then some (xResult, pxHandle, s)
          else (m.findObjectsFinal s).map fun (xResult, s) => (xResult, pxHandle, s)

/-- A search that succeeds: every call does, and the handle is the one that was found, or zero. -/
theorem xFindObjectWithLabelAndClass_ok {m : FindCalls σ} {s s' : σ} {h₀ h : ObjectHandle} :
    xFindObjectWithLabelAndClass m s h₀ = some (ckrOk, h, s') ↔
      m.getFunctionList = ckrOk ∧ ∃ s₁ s₂ pxHandle ulCount,
        m.findObjectsInit s = some (ckrOk, s₁) ∧
        m.findObjects s₁ h₀ = some (ckrOk, pxHandle, ulCount, s₂) ∧
        m.findObjectsFinal s₂ = some (ckrOk, s') ∧
        h = if ulCount = 0 then ckInvalidHandle else pxHandle := by
  unfold xFindObjectWithLabelAndClass
  by_cases hlist : m.getFunctionList = ckrOk
  · rw [if_neg (not_not.2 hlist)]
    constructor
    · intro h'
      split at h'
      · cases h'
      · rename_i xResult s₁ hinit
        split at h'
        · rename_i hne
          exact absurd (Prod.mk.inj (Option.some.inj h')).1 hne
        · rename_i hok
          obtain rfl := not_not.1 hok
          split at h'
          · cases h'
          · rename_i xResult pxHandle ulCount s₂ hfind
            dsimp only at h'
            split at h'
            · rename_i hne
              exact absurd (Prod.mk.inj (Option.some.inj h')).1 hne
            · rename_i hok
              obtain rfl := not_not.1 hok
              obtain ⟨⟨xResult, s₃⟩, hfinal, heq⟩ := Option.map_eq_some_iff.1 h'
              obtain ⟨rfl, heq⟩ := Prod.mk.inj heq
              obtain ⟨rfl, rfl⟩ := Prod.mk.inj heq
              exact ⟨hlist, s₁, s₂, pxHandle, ulCount, hinit, hfind, hfinal, rfl⟩
    · intro ⟨_, s₁, s₂, pxHandle, ulCount, hinit, hfind, hfinal, hh⟩
      simp [hinit, hfind, hfinal, hh]
  · rw [if_pos hlist]
    constructor
    · intro h'
      exact absurd (Prod.mk.inj (Option.some.inj h')).1 (by decide)
    · intro ⟨h', _⟩
      exact absurd h' hlist

/-- `pkcs11STUFF_APPENDED_TO_RSA_SIG`. -/
def pkcs11StuffAppendedToRsaSig : List UInt8 :=
  [0x30, 0x31, 0x30, 0x0d, 0x06, 0x09, 0x60, 0x86, 0x48, 0x01, 0x65, 0x03, 0x04, 0x02, 0x01, 0x05,
    0x00, 0x04, 0x20]

/-- `vAppendSHA256AlgorithmIdentifierSequence`, with pointers that are not `NULL`. It reads 32 bytes. -/
def vAppendSha256AlgorithmIdentifierSequence (puc32ByteHashedMessage puc51ByteHashOidBuffer : List UInt8) :
    Except MemFault (List UInt8) := do
  let pucOidSequence := pkcs11StuffAppendedToRsaSig
  let buf ← memcpy puc51ByteHashOidBuffer 0 pucOidSequence pucOidSequence.length
  memcpy buf pucOidSequence.length puc32ByteHashedMessage 32

end Pkcs11
