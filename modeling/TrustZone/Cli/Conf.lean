import TrustZone.Lib.Strtol
import TrustZone.KvStore.KvStore
import TrustZone.Cli.CommandLine

/-!
# The configuration command (`cli_conf.c`)

`conf get`, `conf set` and `conf commit` work on the key/value store and print through
`pcCliScratchBuffer`. A write outside this buffer is `none`, as are a failed assertion and an `int32_t` that
overflows.
-/

namespace Cli

open Lib KvStore

/-- The key table and `kvStoreKeyMap`. -/
structure Keys where
  cfg : KvStore.Config
  kvStoreKeyMap : Nat → List UInt8

def kvStringToKey (keys : Keys) (pcKey : List UInt8) : Nat :=
  ((List.range keys.cfg.csNumKeys).find? fun i => cstr (keys.kvStoreKeyMap i) = cstr pcKey).getD
    keys.cfg.csNumKeys

/-- `KV_DFLT( KV_TYPE_UINT32, value )` -/
def kvDfltUInt32 (value : BitVec 32) : KVStoreDefaultEntry := ⟨kvTypeUInt32, 4, value, fun _ => 0⟩

/-- `KV_DFLT( KV_TYPE_STRING, "" )`, with the literal at an address. -/
def kvDfltEmpty : KVStoreDefaultEntry := kvDfltString ⟨[], by decide, by decide⟩ 0x08040000

/-- `KV_STORE_STRINGS` and `KV_STORE_DEFAULTS` of `kvstore_config.h`. -/
def kvStoreTable : List (List UInt8 × KVStoreDefaultEntry) :=
  [(ascii "thing_name", kvDfltEmpty),
   (ascii "mqtt_endpoint", kvDfltEmpty),
   (ascii "mqtt_port", kvDfltUInt32 8883),
   (ascii "wifi_ssid", kvDfltEmpty),
   (ascii "wifi_credential", kvDfltEmpty),
   (ascii "time_hwm", kvDfltUInt32 0)]

def kvStoreConfig : Keys where
  cfg := ⟨kvStoreTable.length, fun i => (kvStoreTable.getD i ([], kvDfltEmpty)).2⟩
  kvStoreKeyMap i := (kvStoreTable.getD i ([], kvDfltEmpty)).1

/-- What the command works on. -/
structure Shell where
  con : Console
  pcCliScratchBuffer : List UInt8
  kv : KvStore.State

def Shell.print (sh : Shell) (pcString : List UInt8) : Shell := { sh with con := io_print sh.con pcString }

/-- `snprintf( pcCliScratchBuffer, CLI_OUTPUT_SCRATCH_BUF_LEN, .. )` when `s` is the text that is formatted. -/
def Shell.snprintf (sh : Shell) (s : List UInt8) : Shell :=
  { sh with
    pcCliScratchBuffer :=
      blit sh.pcCliScratchBuffer 0 (s.take (CLI_OUTPUT_SCRATCH_BUF_LEN - 1) ++ [0]) }

def CRLF : List UInt8 := [CR, LF]

/-- `%s=%ld\r\n`, `%s=%lu\r\n` -/
def numberLine (pcKey value : List UInt8) : List UInt8 := pcKey ++ ascii "=" ++ value ++ CRLF

/-- `%s="%s"\r\n` -/
def textLine (pcKey pcValue : List UInt8) : List UInt8 :=
  pcKey ++ ascii "=\"" ++ pcValue ++ ascii "\"" ++ CRLF

def notRecognized (pcKey : List UInt8) : List UInt8 :=
  ascii "Error: key: " ++ pcKey ++ ascii " was not recognized.\r\n"

def notValid (pcKey pcValue : List UInt8) : List UInt8 :=
  ascii "Error: value: " ++ pcValue ++ ascii " is not valid for key: " ++ pcKey ++ ascii "\r\n"

/-- `%ld`, `%lu` of a word. -/
def textLd (v : BitVec 32) : List UInt8 := signedText v.toInt

def textLu (v : BitVec 32) : List UInt8 := decimalText v.toNat

/-! ## `conf get` -/

/-- `pcCliScratchBuffer` while a line is put together: `pcWorkPtr` as an index, and `lResponseLen`. -/
structure Work where
  buf : List UInt8
  pcWorkPtr : Int
  lResponseLen : Int

/-- `*pcWorkPtr = c; pcWorkPtr++;` for each character. -/
def Work.put (w : Work) : List UInt8 → Option Work
  | [] => some w
  | c :: s =>
    if 0 ≤ w.pcWorkPtr ∧ w.pcWorkPtr < w.buf.length then
      Work.put { w with buf := blit w.buf w.pcWorkPtr.toNat [c], pcWorkPtr := w.pcWorkPtr + 1 } s
    else none

/-- `lResponseLen += n` in `int32_t`. -/
def Work.count (w : Work) (n : Nat) : Work := { w with lResponseLen := (w.lResponseLen + n).bmod (2 ^ 32) }

/-- `pcWorkPtr = stpncpy( pcCliScratchBuffer, pcKey, CLI_OUTPUT_SCRATCH_BUF_LEN )`, and what follows up to the
value. -/
def startText (pcCliScratchBuffer pcKey : List UInt8) : Option Work :=
  let n := min (cstr pcKey).length CLI_OUTPUT_SCRATCH_BUF_LEN
  let w : Work := ⟨blit pcCliScratchBuffer 0 (strncpy pcKey CLI_OUTPUT_SCRATCH_BUF_LEN), n, n⟩
  if w.lResponseLen < CLI_OUTPUT_SCRATCH_BUF_LEN then
    match w.put (ascii "=\"") with
    | none => none
    | some w => some (w.count 2)
  else some w

/-- The value at `pcWorkPtr`; `lResponseLen` counts the value there is. -/
def valueText (cfg : KvStore.Config) (kv : KvStore.State) (xKey : Nat) (w : Work) : Option Work :=
  if w.lResponseLen < CLI_OUTPUT_SCRATCH_BUF_LEN then
    let n := w.pcWorkPtr.toNat
    match kvStoreGetString cfg kv xKey (some ((w.buf.drop n).take (CLI_OUTPUT_SCRATCH_BUF_LEN - n))) with
    | some (xLength, some value) =>
      let w := ({ w with buf := blit w.buf n value }).count xLength
      some { w with pcWorkPtr := w.lResponseLen }
    | _ => none
  else some w

/-- The end of the line, where it fits into the buffer. -/
def endText (w : Work) : Option Work :=
  if w.lResponseLen + 3 < 2 ^ 31 then
    let w : Work :=
      if CLI_OUTPUT_SCRATCH_BUF_LEN < w.lResponseLen + 3 then
        ⟨w.buf, CLI_OUTPUT_SCRATCH_BUF_LEN - 3, CLI_OUTPUT_SCRATCH_BUF_LEN - 3⟩
      else w
    match w.put (ascii "\"" ++ CRLF) with
    | none => none
    | some w => some (w.count 3)
  else none

/-- The cases `KV_TYPE_STRING` and `KV_TYPE_BLOB`: the scratch buffer and `lResponseLen`. -/
def getText (keys : Keys) (sh : Shell) (xKey : Nat) (pcKey : List UInt8) : Option (Shell × Int) :=
  (startText sh.pcCliScratchBuffer pcKey).bind fun w =>
    (valueText keys.cfg sh.kv xKey w).bind fun w =>
      (endText w).map fun w => ({ sh with pcCliScratchBuffer := w.buf }, w.lResponseLen)

/-- The case of an integer type, with what its getter returns and its conversion. -/
def getNumber (sh : Shell) (pcKey : List UInt8) (text : BitVec 32 → List UInt8) :
    Option (BitVec 32 × Bool) → Option (Shell × Int)
  | none => none
  | some (xValue, _) =>
    let s := numberLine pcKey (text xValue)
    some (sh.snprintf s, s.length)

/-- The `switch` of `vSubCommand_GetConfig`. -/
def getValue (keys : Keys) (sh : Shell) (xKey : Nat) (pcKey : List UInt8) : Option (Shell × Int) :=
  let xKvType := kvStoreGetType keys.cfg xKey
  if xKvType = kvTypeBaseT then getNumber sh pcKey textLd (kvStoreGetBase keys.cfg sh.kv xKey)
  else if xKvType = kvTypeUBaseT then getNumber sh pcKey textLu (kvStoreGetUBase keys.cfg sh.kv xKey)
  else if xKvType = kvTypeInt32 then getNumber sh pcKey textLd (kvStoreGetInt32 keys.cfg sh.kv xKey)
  else if xKvType = kvTypeUInt32 then getNumber sh pcKey textLu (kvStoreGetUInt32 keys.cfg sh.kv xKey)
  else if xKvType = kvTypeString ∨ xKvType = kvTypeBlob then getText keys sh xKey pcKey
  else some (sh, 0)

def vSubCommand_GetConfig (keys : Keys) (sh : Shell) (pcKey : List UInt8) : Option Shell :=
  let xKey := kvStringToKey keys pcKey
  match getValue keys sh xKey pcKey with
  | none => none
  | some (sh, lResponseLen) =>
    -- ensure null terminated
    let nul := if lResponseLen < CLI_OUTPUT_SCRATCH_BUF_LEN then lResponseLen else CLI_OUTPUT_SCRATCH_BUF_LEN - 1
    match Work.put ⟨sh.pcCliScratchBuffer, nul, lResponseLen⟩ [0] with
    | none => none
    | some w =>
      let sh := { sh with pcCliScratchBuffer := w.buf }
      if 0 < lResponseLen then some (sh.print sh.pcCliScratchBuffer)
      else
        let sh := sh.snprintf
          (if xKey = keys.cfg.csNumKeys ∨ kvStoreGetType keys.cfg xKey = kvTypeNone then notRecognized pcKey
          else ascii "Error: An unknown error occurred.\r\n")
        some (sh.print sh.pcCliScratchBuffer)

/-- The loop of `vSubCommand_GetConfigAll` over the keys below `n`. -/
def getAllLoop (keys : Keys) (sh : Shell) : Nat → Option Shell
  | 0 => some sh
  | n + 1 =>
    match getAllLoop keys sh n with
    | none => none
    | some sh => vSubCommand_GetConfig keys sh (keys.kvStoreKeyMap n)

def vSubCommand_GetConfigAll (keys : Keys) (sh : Shell) : Option Shell :=
  getAllLoop keys sh keys.cfg.csNumKeys

/-! ## `conf set` -/

/-- What a case of `vSubCommand_SetConfig` leaves: `xParseResult` and `lCharsPrinted`. -/
structure SetResult where
  sh : Shell
  xParseResult : Bool
  lCharsPrinted : Nat

/-- A setter ran, and the line `s` was formatted. -/
def setDone (sh : Shell) (s : List UInt8) (parsed : Bool → Bool) :
    Option (Bool × KvStore.State) → Option SetResult
  | none => none
  | some (ok, kv) => some ⟨({ sh with kv := kv }).snprintf s, parsed ok, s.length⟩

/-- The case of an integer type: where its parser stopped, the value, its conversion and its setter. -/
def setNumber (sh : Shell) (pcKey : List UInt8) (text : BitVec 32 → List UInt8) (pcEndPtr : Nat)
    (xValue : BitVec 32) (set : BitVec 32 → Option (Bool × KvStore.State)) : Option SetResult :=
  if pcEndPtr ≠ 0 ∨ xValue = 0 then
    setDone sh (numberLine pcKey (text xValue)) (fun _ => true) (set xValue)
  else some ⟨sh, false, 0⟩

/-- `strtol`, in a variable of 32 bits. -/
def parseLd (pcValue : List UInt8) : Nat × BitVec 32 :=
  ((strtol pcValue).2, BitVec.ofInt 32 (strtol pcValue).1)

/-- `strtoul`, in a variable of 32 bits. -/
def parseLu (pcValue : List UInt8) : Nat × BitVec 32 :=
  ((strtoul pcValue).2, BitVec.ofNat 32 (strtoul pcValue).1)

/-- `pcValue` as the argument of `KVStore_setString`. -/
def stringArg (pcValue : List UInt8) : Option CString :=
  if h : 0 ∉ pcValue ∧ sizeofKVStoreHeader + (pcValue.length + 1) < sizeMax then some ⟨pcValue, h.1, h.2⟩
  else none

/-- `pcValue` as the argument of `KVStore_setBlob`. -/
def blobArg (pcValue : List UInt8) : Option Buffer :=
  if h : sizeofKVStoreHeader + pcValue.length < sizeMax then some ⟨pcValue, h⟩ else none

/-- The `switch` of `vSubCommand_SetConfig`. -/
def setValue (al : Allocator) (keys : Keys) (sh : Shell) (xKey : Nat) (pcKey pcValue : List UInt8) :
    Option SetResult :=
  let xKvType := kvStoreGetType keys.cfg xKey
  let (endLd, valueLd) := parseLd pcValue
  let (endLu, valueLu) := parseLu pcValue
  if xKvType = kvTypeBaseT then
    setNumber sh pcKey textLd endLd valueLd (kvStoreSetBase al keys.cfg sh.kv xKey)
  else if xKvType = kvTypeInt32 then
    setNumber sh pcKey textLd endLd valueLd (kvStoreSetInt32 al keys.cfg sh.kv xKey)
  else if xKvType = kvTypeUBaseT then
    setNumber sh pcKey textLu endLu valueLu (kvStoreSetUBase al keys.cfg sh.kv xKey)
  else if xKvType = kvTypeUInt32 then
    setNumber sh pcKey textLu endLu valueLu (kvStoreSetUInt32 al keys.cfg sh.kv xKey)
  else if xKvType = kvTypeString then
    match stringArg pcValue with
    | none => none
    | some v => setDone sh (textLine pcKey pcValue) id (kvStoreSetString al keys.cfg sh.kv xKey (some v))
  else if xKvType = kvTypeBlob then
    match blobArg pcValue with
    | none => none
    | some v => setDone sh (textLine pcKey pcValue) id (kvStoreSetBlob al keys.cfg sh.kv xKey (some v))
  else some ⟨sh, false, 0⟩

/-- The message of a value that was not accepted, and what is printed. -/
def setPrinted (keys : Keys) (xKey : Nat) (pcKey pcValue : List UInt8) (r : SetResult) : Shell :=
  let error := if xKey = keys.cfg.csNumKeys then notRecognized pcKey else notValid pcKey pcValue
  let (sh, lCharsPrinted) :=
    if r.xParseResult = false then (r.sh.snprintf error, error.length) else (r.sh, r.lCharsPrinted)
  -- truncate output
  let lCharsPrinted := min lCharsPrinted CLI_OUTPUT_SCRATCH_BUF_LEN
  if 0 < lCharsPrinted then { sh with con := io_write sh.con sh.pcCliScratchBuffer lCharsPrinted } else sh

def vSubCommand_SetConfig (al : Allocator) (keys : Keys) (sh : Shell) (ulArgc : Nat) (ppcArgv : Argv) :
    Option Shell :=
  match ppcArgv.pcArgv[2]?, (if 3 < ulArgc then ppcArgv.string 3 else some []) with
  | some none, some _ => some (sh.print (ascii "An unknown error occurred."))
  | some (some p), some pcValue =>
    let pcKey := cstr (ppcArgv.buffer.drop p)
    let xKey := kvStringToKey keys pcKey
    match setValue al keys sh xKey pcKey pcValue with
    | none => none
    | some r => some (setPrinted keys xKey pcKey pcValue r)
  | _, _ => none

/-! ## The command -/

def vSubCommand_CommitConfig (al : Allocator) (keys : Keys) (st : Nat → Psa.Status) (sh : Shell) :
    Option Shell :=
  match kvStoreXCommitChanges al keys.cfg st sh.kv with
  | none => none
  | some c =>
    let sh := { sh with kv := c.post }
    some (sh.print (if c.ok then ascii "Configuration saved to NVM.\r\n"
      else ascii "Error: Could not save configuration to NVM.\r\n"))

def xCommandDef_conf : CLI_Command_Definition_t where
  pcCommand := ascii "conf"
  pcHelpString := ascii "conf:\r\n" ++
    ascii "    Get/ Set/ Commit runtime configuration values\r\n" ++
    ascii "    Usage:\r\n" ++
    ascii "    conf get\r\n" ++
    ascii "        Outputs the value of all runtime config options supported by the system.\r\n\n" ++
    ascii "    conf get <key>\r\n" ++
    ascii "        Outputs the current value of a given runtime config item.\r\n\n" ++
    ascii "    conf set <key> <value>\r\n" ++
    ascii "        Set the value of a given runtime config item. This change is staged\r\n" ++
    ascii "        in volatile memory until a commit operation occurs.\r\n\n" ++
    ascii "    conf commit\r\n" ++
    ascii "        Commit staged config changes to nonvolatile memory.\r\n\n"
  pxCommandInterpreter := .other 0

/-- `vCommand_Configure`; `st i` is what the storage answers when key `i` is committed. -/
def vCommand_Configure (al : Allocator) (keys : Keys) (st : Nat → Psa.Status) (sh : Shell) (ulArgc : Nat)
    (ppcArgv : Argv) : Option Shell :=
  if 1 < ulArgc then
    match ppcArgv.string 1 with
    | none => none
    | some pcMode =>
      if pcMode = ascii "get" then
        if 2 < ulArgc then
          match ppcArgv.string 2 with
          | none => none
          | some pcKey => vSubCommand_GetConfig keys sh pcKey
        else vSubCommand_GetConfigAll keys sh
      else if pcMode = ascii "set" then vSubCommand_SetConfig al keys sh ulArgc ppcArgv
      else if pcMode = ascii "commit" then vSubCommand_CommitConfig al keys st sh
      else some (sh.print xCommandDef_conf.pcHelpString)
  else some (sh.print xCommandDef_conf.pcHelpString)

/-- A line is entered, with the commands `cs` registered after `conf`; `none` when it does not run `conf`. -/
def enterConf (al : Allocator) (keys : Keys) (st : Nat → Psa.Status) (cs : List CLI_Command_Definition_t)
    (sh : Shell) (pcCommandInput : List UInt8) : Option Shell :=
  match FreeRTOS_CLIProcessCommand (xRegisteredCommands (xCommandDef_conf :: cs)) pcCommandInput with
  | some (.call pxCommand ulArgC argv) =>
    if pxCommand.pxCommandInterpreter = xCommandDef_conf.pxCommandInterpreter then
      vCommand_Configure al keys st sh ulArgC argv
    else none
  | _ => none

end Cli
