import TrustZone.Cli.Console

/-!
# The command line (`cli_main.c`)

A command is a line of the console in its buffer: the characters, a NUL and whatever the buffer holds behind
it. Reading outside the buffer is `none`, as is a failed assertion. A pointer into the buffer is the place it
points to; a pointer to an item of the list of commands is the list from that item on, `[]` is `NULL`.
-/

namespace Cli

open Lib

/-- The character between two words of a command. -/
def SPACE : UInt8 := 0x20

/-- `pxCommandInterpreter`: that of `help`, and the others by a number. -/
inductive Interpreter
  | prvHelpCommand
  | other (f : Nat)
deriving DecidableEq, Repr

structure CLI_Command_Definition_t where
  pcCommand : List UInt8
  pcHelpString : List UInt8
  pxCommandInterpreter : Interpreter
deriving DecidableEq, Repr

def xHelpCommand : CLI_Command_Definition_t where
  pcCommand := ascii "help"
  pcHelpString := ascii "help:\r\n" ++
    ascii "    List available commands and their arguments.\r\n" ++
    ascii "    Usage:\r\n\n" ++
    ascii "    help\r\n" ++
    ascii "        Print help for all recognized commands\r\n\n" ++
    ascii "    help <command>\r\n" ++
    ascii "        Print help test for a specific command\r\n\n"
  pxCommandInterpreter := .prvHelpCommand

/-- The new item goes to the end of the list. -/
def FreeRTOS_CLIRegisterCommand (commands : List CLI_Command_Definition_t)
    (pxCommandToRegister : CLI_Command_Definition_t) : List CLI_Command_Definition_t :=
  commands ++ [pxCommandToRegister]

/-- The list when the commands `cs` were registered, in this order. -/
def xRegisteredCommands (cs : List CLI_Command_Definition_t) : List CLI_Command_Definition_t :=
  cs.foldl FreeRTOS_CLIRegisterCommand [xHelpCommand]

/-- The item that the command is for, `[]` when there is none. -/
def prvFindMatchingCommand (pcCommandInput : List UInt8) :
    List CLI_Command_Definition_t → Option (List CLI_Command_Definition_t)
  | [] => some []
  | pxCommand :: pxNext =>
    let xCommandStringLength := (cstr pxCommand.pcCommand).length
    if strncmpEq pcCommandInput pxCommand.pcCommand xCommandStringLength then
      match pcCommandInput[xCommandStringLength]? with
      | none => none
      | some c =>
        if c = SPACE ∨ c = 0 then some (pxCommand :: pxNext)
        else prvFindMatchingCommand pcCommandInput pxNext
    else prvFindMatchingCommand pcCommandInput pxNext

/-! ## Words -/

/-- A place in the buffer, and the bytes from there on. -/
structure CharPtr where
  off : Nat
  bytes : List UInt8

/-- `*p == 0` -/
def CharPtr.atNul (p : CharPtr) : Prop := p.bytes.head? = some 0

instance (p : CharPtr) : Decidable p.atNul := inferInstanceAs (Decidable (_ = _))

/-- A loop that steps over the characters `q` holds of, up to the NUL. -/
def skip (q : UInt8 → Bool) (off : Nat) : List UInt8 → Option CharPtr
  | [] => none
  | c :: s => if c ≠ 0 ∧ q c = true then skip q (off + 1) s else some ⟨off, c :: s⟩

/-- The loop of `prvGetNumberOfArgs`; no string is so long that `luArgCount` wraps. -/
def countLoop (luArgCount : Nat) : List UInt8 → Option Nat
  | [] => none
  | c :: s =>
    if c = 0 then some luArgCount
    else if c ≠ SPACE then
      match s with
      | [] => none
      | d :: s => countLoop (if d = SPACE ∨ d = 0 then luArgCount + 1 else luArgCount) (d :: s)
    else countLoop luArgCount s

def prvGetNumberOfArgs (pcCommandString : List UInt8) : Option Nat := countLoop 0 pcCommandString

/-- What `strtok_r` returns, `*saveptr` and the buffer afterwards. -/
structure Token where
  token : Option Nat
  saveptr : Option Nat
  buffer : List UInt8

/-- `strtok_r( str, delim, saveptr )`: the token behind the delimiters at `str`, or at `*saveptr`, is ended by a
NUL. -/
def strtok_r (buffer : List UInt8) (str : Option Nat) (delim : List UInt8) (saveptr : Option Nat) :
    Option Token :=
  match str.or saveptr with
  | none => some ⟨none, none, buffer⟩
  | some s =>
    match skip (· ∈ delim) s (buffer.drop s) with
    | none => none
    | some p =>
      if p.atNul then some ⟨none, none, buffer⟩
      else
        match skip (· ∉ delim) p.off p.bytes with
        | none => none
        | some e =>
          if e.atNul then some ⟨some p.off, none, buffer⟩
          else some ⟨some p.off, some (e.off + 1), blit buffer e.off [0]⟩

/-! ## Commands -/

/-- `pcArgv` and the command's buffer. -/
structure Argv where
  pcArgv : List (Option Nat)
  buffer : List UInt8

/-- The loop that reads `pcArgv[ 1 ]` and what follows; the last `pcTokenizerCtx`. -/
def readArgs (buffer : List UInt8) (pcTokenizerCtx : Option Nat) : Nat → Option (Argv × Option Nat)
  | 0 => some (⟨[], buffer⟩, pcTokenizerCtx)
  | n + 1 =>
    match strtok_r buffer none [SPACE] pcTokenizerCtx with
    | none => none
    | some t =>
      -- configASSERT( pcArgv[ i ] != NULL )
      if t.token = none then none
      else
        match readArgs t.buffer t.saveptr n with
        | none => none
        | some (argv, ctx) => some (⟨t.token :: argv.pcArgv, argv.buffer⟩, ctx)

/-- `pcArgv` with `ulArgC` entries. -/
def tokenize (pcCommandInput : List UInt8) (ulArgC : Nat) : Option Argv :=
  -- pcArgv[ 0 ] is written
  if ulArgC = 0 then none
  else
    match strtok_r pcCommandInput (some 0) [SPACE] none with
    | none => none
    | some t =>
      match readArgs t.buffer t.saveptr (ulArgC - 1) with
      | none => none
      | some (argv, pcTokenizerCtx) =>
        match strtok_r argv.buffer none [SPACE] pcTokenizerCtx with
        | none => none
        | some last =>
          -- configASSERT( strtok_r( NULL, " ", &pcTokenizerCtx ) == NULL )
          if last.token = none then some ⟨t.token :: argv.pcArgv, last.buffer⟩ else none

/-- What a command leads to: a call of its interpreter, or a message. -/
inductive CliAction
  | call (pxCommand : CLI_Command_Definition_t) (ulArgC : Nat) (argv : Argv)
  | print (pcString : List UInt8)

def FreeRTOS_CLIProcessCommand (commands : List CLI_Command_Definition_t) (pcCommandInput : List UInt8) :
    Option CliAction :=
  match prvFindMatchingCommand pcCommandInput commands with
  | none => none
  | some [] =>
    some (.print (ascii
      "Command not recognized. Enter 'help' to view a list of available commands.\r\n"))
  | some (pxCommand :: _) =>
    match prvGetNumberOfArgs pcCommandInput with
    | none => none
    | some ulArgC =>
      match tokenize pcCommandInput ulArgC with
      | none => none
      | some argv => some (.call pxCommand ulArgC argv)

/-- The string that `pcArgv[ i ]` points to. -/
def Argv.string (argv : Argv) (i : Nat) : Option (List UInt8) :=
  match argv.pcArgv[i]? with
  | some (some p) => some (cstr (argv.buffer.drop p))
  | _ => none

/-! ## Help -/

/-- The loop that looks for the argument of `help`. -/
def findHelp (arg : List UInt8) : List CLI_Command_Definition_t → List CLI_Command_Definition_t
  | [] => []
  | pxCommand :: pxNext =>
    if strncmpEq pxCommand.pcCommand arg (cstr pxCommand.pcCommand).length then pxCommand :: pxNext
    else findHelp arg pxNext

/-- `prvHelpCommand` with its static `pxCommand`: the strings it prints, and `pxCommand` afterwards. -/
def prvHelpCommand (commands pxCommand : List CLI_Command_Definition_t) (ulArgc : Nat) (ppcArgv : Argv) :
    List (List UInt8) × List CLI_Command_Definition_t :=
  let pxCommand :=
    match ppcArgv.string 1 with
    | some arg => if 1 < ulArgc then findHelp arg commands else pxCommand
    | none => pxCommand
  match pxCommand with
  | item :: _ => ([item.pcHelpString], pxCommand)
  -- the loop over all commands ends with pxCommand = NULL
  | [] => (commands.map (·.pcHelpString), [])

/-- A line is entered that runs `help`; `none` when it does not. -/
def enterHelp (commands pxCommand : List CLI_Command_Definition_t) (line : List UInt8) :
    Option (List (List UInt8) × List CLI_Command_Definition_t) :=
  match FreeRTOS_CLIProcessCommand commands (line ++ [0]) with
  | some (.call item ulArgC argv) =>
    match item.pxCommandInterpreter with
    | .prvHelpCommand => some (prvHelpCommand commands pxCommand ulArgC argv)
    | .other _ => none
  | _ => none

/-- `help`, or `help` with an argument. -/
def helpLine : Option (List UInt8) → List UInt8
  | none => ascii "help"
  | some arg => ascii "help" ++ SPACE :: arg

/-- What a history of `help` commands prints, one after the other. -/
def helpRun (commands pxCommand : List CLI_Command_Definition_t) :
    List (Option (List UInt8)) → Option (List (List (List UInt8)))
  | [] => some []
  | arg :: args =>
    match enterHelp commands pxCommand (helpLine arg) with
    | none => none
    | some (printed, pxCommand) =>
      match helpRun commands pxCommand args with
      | none => none
      | some outs => some (printed :: outs)

/-! ## Parameters -/

/-- The loop of `FreeRTOS_CLIGetParameter` at `pcCommandString`: what it returns and
`*pxParameterStringLength`. -/
def getParameterLoop (uxWantedParameter uxParametersFound : Nat) (pcCommandString : CharPtr) :
    Option (Option Nat × Nat) :=
  if uxParametersFound < uxWantedParameter then
    match skip (· ≠ SPACE) pcCommandString.off pcCommandString.bytes with
    | none => none
    | some p =>
      match skip (· = SPACE) p.off p.bytes with
      | none => none
      | some p =>
        if p.atNul then some (none, 0)
        else if uxParametersFound + 1 = uxWantedParameter then
          match skip (· ≠ SPACE) p.off p.bytes with
          | none => none
          | some e => some (if e.off - p.off = 0 then none else some p.off, e.off - p.off)
        else getParameterLoop uxWantedParameter (uxParametersFound + 1) p
  else some (none, 0)
termination_by uxWantedParameter - uxParametersFound

def FreeRTOS_CLIGetParameter (pcCommandString : List UInt8) (uxWantedParameter : Nat) :
    Option (Option Nat × Nat) :=
  getParameterLoop uxWantedParameter 0 ⟨0, pcCommandString⟩

end Cli
