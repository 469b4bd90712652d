import TrustZone.Lib.Bytes

/-!
# `convert_pem_to_der`

The body of a PEM text, decoded. The text is looked for in the C string that the input begins with, which
may run on into what lies behind the input (`beyond`).
-/

namespace Pkcs11

open Lib

/-- `strstr`: where the first occurrence of a string begins. -/
def strstr (needle : List UInt8) : List UInt8 → Option Nat
  | [] => if needle = [] then some 0 else none
  | c :: s => if needle.isPrefixOf (c :: s) then some 0 else (strstr needle s).map (· + 1)

def pemBegin : List UInt8 := ascii "-----BEGIN"
def pemEnd : List UInt8 := ascii "-----END"
def charMinus : UInt8 := 0x2d
def charCr : UInt8 := 0x0d
def charLf : UInt8 := 0x0a

/-- Step over the bytes at `p`, before `pucEnd`, that satisfy a test. -/
def skipWhile (mem : List UInt8) (pucEnd : Nat) (test : UInt8 → Bool) (p : Nat) : Nat :=
  p + (((mem.take pucEnd).drop p).takeWhile test).length

/-- Step over one byte. -/
def skipOne (mem : List UInt8) (c : UInt8) (p : Nat) : Nat :=
  if mem.getD p 0 = c then p + 1 else p

/-- `convert_pem_to_der`. `base64Decode` is `mbedtls_base64_decode`: the length it asks for and what it
writes, or an invalid character. -/
def convertPemToDer (base64Decode : List UInt8 → Option (Nat × List UInt8)) (beyond : List UInt8)
    (pucInput : List UInt8) (olen : Nat) : Option (List UInt8) :=
  let mem := pucInput ++ beyond
  match strstr pemBegin (cstr mem) with
  | none => none
  | some pucS1 =>
    match strstr pemEnd (cstr mem) with
    | none => none
    | some pucS2 =>
      let pucS1 := skipWhile mem pucInput.length (· ≠ charMinus) (pucS1 + 10)
      let pucS1 := skipWhile mem pucInput.length (· = charMinus) pucS1
      let pucS1 := skipOne mem charLf (skipOne mem charCr pucS1)
      if pucS2 ≤ pucS1 ∨ pucInput.length < pucS2 then none
      else
        match base64Decode ((mem.drop pucS1).take (pucS2 - pucS1)) with
        | none => none
        | some (xOtherLen, der) => if olen < xOtherLen then none else some der

end Pkcs11
