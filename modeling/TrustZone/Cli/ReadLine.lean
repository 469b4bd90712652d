import TrustZone.Cli.Console

/-!
# The line editor in its buffer (`cli_io_drv.c`)

`io_readline` with its count, its write pointer and the echo. `Cli.io_readline` is the same function on the
line alone. A write outside `pcInputBuffer` is `none`.
-/

namespace Cli.Driver

open Lib

def CLI_PROMPT_STR : List UInt8 := ascii "> "
def CLI_OUTPUT_EOL : List UInt8 := ascii "\r\n"

/-- The variables of `io_readline`, the static buffer and what was shown; `line` is an offset in the
buffer. -/
structure Editor where
  eol : Bool
  cnt : Nat
  line : Int
  pcInputBuffer : List UInt8
  out : List UInt8

/-- `*line = c` -/
def store (pcInputBuffer : List UInt8) (line : Int) (c : UInt8) : Option (List UInt8) :=
  if 0 ≤ line ∧ line < pcInputBuffer.length then some (blit pcInputBuffer line.toNat [c]) else none

/-- The `switch` on one character. -/
def Editor.getchar (e : Editor) (c : UInt8) : Option Editor :=
  if c = CNTLC then some { e with out := e.out ++ CLI_OUTPUT_EOL ++ CLI_PROMPT_STR }
  else if c = BACKSPACE ∨ c = DEL then
    if e.cnt = 0 then some e
    else some { e with
      cnt := e.cnt - 1
      line := e.line - 1
      out := e.out ++ [BACKSPACE, 0x20, BACKSPACE] }
  else if c = LF ∨ c = CR then
    if e.cnt = 0 then some e else some { e with out := e.out ++ CLI_OUTPUT_EOL, eol := true }
  else
    match store e.pcInputBuffer e.line c with
    | none => none
    | some buf => some { e with
        pcInputBuffer := buf
        line := e.line + 1
        cnt := e.cnt + 1
        out := e.out ++ [c] }

/-- `io_readline` waits for a character, or returns `cnt` with the characters after the line left. -/
inductive ReadLine
  | waits (e : Editor)
  | returns (cnt : Nat) (pcInputBuffer out rest : List UInt8)

/-- The loop of `io_readline`, and the NUL behind the line. -/
def readlineLoop (e : Editor) : List UInt8 → Option ReadLine
  | [] => some (.waits e)
  | c :: cs =>
    match e.getchar c with
    | none => none
    | some e =>
      if e.cnt < CLI_INPUT_LINE_LEN_MAX - 1 ∧ e.eol = false then readlineLoop e cs
      else
        match store e.pcInputBuffer e.line 0 with
        | none => none
        | some buf => some (.returns e.cnt buf e.out cs)

def io_readline (pcInputBuffer cs : List UInt8) : Option ReadLine :=
  readlineLoop ⟨false, 0, 0, pcInputBuffer, CLI_PROMPT_STR⟩ cs

end Cli.Driver
