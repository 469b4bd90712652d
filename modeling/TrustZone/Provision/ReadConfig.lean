import Mathlib.Data.List.Infix
import TrustZone.Lib.Bytes
import TrustZone.Provision.TargetDevice

/-!
# Reading the configuration (`provision.py`)

`_config_read_from_target` on what the target sends back after `conf get`, up to the prompt. A response is there
before the time is over.
-/

namespace Provision

open Lib

def LF : UInt8 := 0x0A
def QUOTE : UInt8 := 0x22
def EQUALS : UInt8 := 0x3D

/-- `_error_bstr` -/
def errorBstr : List (List UInt8) := [ascii "error", ascii "Error", ascii "ERROR", ascii "<ERR>"]

def prompt : List UInt8 := ascii "> "

/-- What `read_until(b"\n")` returns, call after call: lines, and in the end what has no newline. -/
def readLines : List UInt8 → List (List UInt8)
  | [] => []
  | c :: s =>
    if c = LF then [c] :: readLines s
    else
      match readLines s with
      | [] => [[c]]
      | line :: lines => (c :: line) :: lines

/-- The loop of `_read_response`. -/
def readResponseLoop (errorFlag : Bool) (response : List (List UInt8)) :
    List (List UInt8) → Except PyError (List (List UInt8))
  | [] => .error (if errorFlag then .targetError else .responseTimeout)
  | line :: lines =>
    if line = prompt then if errorFlag then .error .targetError else .ok response
    else readResponseLoop (errorFlag || errorBstr.any fun errStr => errStr <:+: line) (response ++ [line]) lines

def readResponse (received : List UInt8) : Except PyError (List (List UInt8)) :=
  readResponseLoop false [] (readLines received)

/-- `line.replace(b"\r\n", b"")` -/
def removeCrlf : List UInt8 → List UInt8
  | 0x0D :: 0x0A :: s => removeCrlf s
  | c :: s => c :: removeCrlf s
  | [] => []

/-- One line of the loop of `_config_read_from_target`. -/
def configLine (conf : Dict) (line : List UInt8) : Except PyError Dict :=
  let line := (removeCrlf line).filter (· ≠ QUOTE)
  if EQUALS ∈ line then
    match line.splitOn EQUALS with
    | [key, value] => .ok (conf.insert key value)
    | _ => .error .valueError
  else .ok conf

/-- `_config_read_from_target` on what is received. -/
def configReadFromTarget (received : List UInt8) : Except PyError Dict := do
  let resp ← readResponse received
  resp.foldlM configLine ∅

end Provision
