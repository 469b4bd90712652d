import Mathlib.Data.List.AList

/-!
# The configuration of the provisioning script (`provision.py`)

`TargetDevice` keeps the configuration it read from the target beside the one that is staged. A command the target
carries out does what it says; the order in which a dictionary is gone through is left out.
-/

namespace Provision

/-- What is raised. -/
inductive PyError
  | assertionError
  | typeError
  | valueError
  | targetError
  | responseTimeout
  | unicodeEncodeError
  | unicodeDecodeError
deriving DecidableEq

/-- A dictionary of byte strings. -/
abbrev Dict := AList fun _ : List UInt8 => List UInt8

/-- The bytes of a text in UTF-8. -/
def utf8 (s : String) : List UInt8 := s.toByteArray.data.toList

instance decidableAscii (cs : List Char) : Decidable (∀ c ∈ cs, c.toNat < 128) := List.decidableBAll _ _

/-- `bytes(s, "ascii")`; in UTF-8 the bytes of such a text are the same. -/
def encodeAscii (s : String) : Except PyError (List UInt8) :=
  if ∀ c ∈ s.toList, c.toNat < 128 then .ok (utf8 s) else .error .unicodeEncodeError

/-- `b.decode("UTF-8")` -/
def decodeUtf8 (b : List UInt8) : Except PyError String :=
  match String.fromUTF8? ⟨b.toArray⟩ with
  | some s => .ok s
  | none => .error .unicodeDecodeError

/-- The configuration of the target: the values in use, and those in the storage. -/
structure Target where
  value : List UInt8 → Option (List UInt8)
  committed : List UInt8 → Option (List UInt8)

/-- `conf set key value` -/
def Target.confSet (d : Target) (key value : List UInt8) : Target :=
  { d with value := Function.update d.value key (some value) }

/-- `conf commit` -/
def Target.confCommit (d : Target) : Target := { d with committed := d.value }

/-- `_running_config`, which is `None` rather than empty, `_staged_config`, and the target at the other end. -/
structure TargetDevice where
  runningConfig : Dict
  stagedConfig : Dict
  target : Target

/-- `__init__`, when `conf` is what was read: the target has nothing that is not committed. -/
def TargetDevice.init (conf : Dict) : TargetDevice where
  runningConfig := conf
  stagedConfig := ∅
  target := ⟨fun key => conf.lookup key, fun key => conf.lookup key⟩

/-- `assert` -/
def assertion (p : Prop) [Decidable p] : Except PyError Unit :=
  if p then .ok () else .error .assertionError

namespace TargetDevice

variable (t : TargetDevice)

def confSet (key value : String) : Except PyError TargetDevice := do
  assertion (t.runningConfig ≠ ∅)
  let key_b ← encodeAscii key
  let value_b ← encodeAscii value
  if t.runningConfig.lookup key_b ≠ some value_b then
    return { t with stagedConfig := t.stagedConfig.insert key_b value_b }
  else return t

def confGet (key : String) : Except PyError (Option String) := do
  let key ← encodeAscii key
  match t.stagedConfig.lookup key with
  | some value => return some (← decodeUtf8 value)
  | none =>
    if t.runningConfig = ∅ then throw .typeError
    match t.runningConfig.lookup key with
    | some value => return some (← decodeUtf8 value)
    | none => return none

/-- One key of the loop of `conf_get_all`. -/
def confGetKey (cfg : AList fun _ : String => String) (key : List UInt8) :
    Except PyError (AList fun _ : String => String) :=
  match t.stagedConfig.lookup key with
  | some value => do return cfg.insert (← decodeUtf8 key) (← decodeUtf8 value)
  | none =>
    match t.runningConfig.lookup key with
    | some value => do return cfg.insert (← decodeUtf8 key) (← decodeUtf8 value)
    | none => return cfg

def confGetAll : Except PyError (AList fun _ : String => String) := do
  assertion (t.runningConfig ≠ ∅)
  assertion (t.stagedConfig ≠ ∅)
  (t.runningConfig.keys ∪ t.stagedConfig.keys).foldlM t.confGetKey ∅

/-- One key of the loop of `conf_commit`. -/
def commitKey (d : Target) (key value : List UInt8) : Target :=
  match t.runningConfig.lookup key with
  | some running => if value ≠ running then d.confSet key value else d
  | none => d.confSet key value

def confCommit : Except PyError TargetDevice := do
  assertion (t.runningConfig ≠ ∅)
  assertion (t.stagedConfig ≠ ∅)
  let target := t.stagedConfig.entries.foldl (fun d e => t.commitKey d e.1 e.2) t.target
  if t.stagedConfig.entries.length > 0 then return { t with target := target.confCommit }
  else return { t with target := target }

end TargetDevice

/-- A call of the script. -/
inductive Call
  | confSet (key value : String)
  | confGet (key : String)
  | confGetAll
  | confCommit

/-- What it returns. -/
inductive Ret
  | none
  | value (value : Option String)
  | all (cfg : AList fun _ : String => String)

def TargetDevice.call (t : TargetDevice) : Call → Except PyError (Ret × TargetDevice)
  | .confSet key value => do return (.none, ← t.confSet key value)
  | .confGet key => do return (.value (← t.confGet key), t)
  | .confGetAll => do return (.all (← t.confGetAll), t)
  | .confCommit => do return (.none, ← t.confCommit)

end Provision
