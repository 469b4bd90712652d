import TrustZone.Lib.Bytes

/-!
# The console driver and the string functions of the command line (`cli_io_drv.c`, `strnstr.c`)

A `char *` is the bytes from the pointer on; past the end of the list there are NULs. The driver
shows text with `io_print` and `io_write` and hands out the typed characters line by line with
`io_readline`.
-/

namespace Cli

open Lib

/-! ## Strings -/

/-- `strncmp( a, b, n ) == 0`. -/
def strncmpEq : List UInt8 → List UInt8 → Nat → Bool
  | _, _, 0 => true
  | a, b, n + 1 =>
    let ca := a.headD 0
    let cb := b.headD 0
    if ca ≠ cb then false
    else if ca = 0 then true
    else strncmpEq a.tail b.tail n

/-- `strncpy( dst, src, n )`: the `n` bytes it writes. -/
def strncpy (src : List UInt8) (n : Nat) : List UInt8 :=
  let s := cstr (src.take n)
  s ++ List.replicate (n - s.length) 0

/-- The two loops of `strnstr` for a string that starts with `c` and goes on with `find`. -/
def strnstrLoop (c : UInt8) (find : List UInt8) : List UInt8 → Nat → Option (List UInt8)
  | _, 0 => none
  | [], _ + 1 => none
  | sc :: s, slen + 1 =>
    if sc = 0 then none
    else if sc ≠ c then strnstrLoop c find s slen
    else if slen < find.length then none
    else if strncmpEq s find find.length then some (sc :: s)
    else strnstrLoop c find s slen

/-- `strnstr( s, find, slen )`. -/
def strnstr (s find : List UInt8) (slen : Nat) : Option (List UInt8) :=
  match cstr find with
  | [] => some s
  | c :: find => strnstrLoop c find s slen

/-! ## Output -/

def CLI_OUTPUT_SCRATCH_BUF_LEN : Nat := 512

/-- The driver's output buffer and everything shown so far. -/
structure Console where
  pcOutputBuffer : List UInt8
  out : List UInt8

def io_write (con : Console) (pvOutputBuffer : List UInt8) (xOutputBufferLen : Nat) : Console :=
  let copied := blit con.pcOutputBuffer 0 (strncpy pvOutputBuffer xOutputBufferLen)
  let buf :=
    if xOutputBufferLen < CLI_OUTPUT_SCRATCH_BUF_LEN then blit copied xOutputBufferLen [0]
    else copied
  { pcOutputBuffer := buf, out := con.out ++ cstr buf }

def io_print (con : Console) (pcString : List UInt8) : Console :=
  { con with out := con.out ++ cstr pcString }

/-! ## Input -/

def CLI_INPUT_LINE_LEN_MAX : Nat := 128

def CNTLC : UInt8 := 0x03
def BACKSPACE : UInt8 := 0x08
def LF : UInt8 := 0x0A
def CR : UInt8 := 0x0D
def DEL : UInt8 := 0x7F

/-- One character typed after `line`: the line then, and whether it is complete (`eol`). -/
def io_getchar (line : List UInt8) (c : UInt8) : List UInt8 × Bool :=
  if c = CNTLC then (line, false)
  else if c = BACKSPACE ∨ c = DEL then (line.dropLast, false)
  else if c = LF ∨ c = CR then (line, line ≠ [])
  else (line ++ [c], false)

/-- The loop of `io_readline` with `line` typed so far: the line and the characters after it, or
`none` while it waits for more. -/
def io_readline (line : List UInt8) : List UInt8 → Option (List UInt8 × List UInt8)
  | [] => none
  | c :: cs =>
    let (line, eol) := io_getchar line c
    if line.length < CLI_INPUT_LINE_LEN_MAX - 1 ∧ eol = false then io_readline line cs
    else some (line, cs)

/-- The lines that `io_readline` hands out, one after the other, as the characters are typed. -/
def lines (line : List UInt8) : List UInt8 → List (List UInt8)
  | [] => []
  | c :: cs =>
    let (line, eol) := io_getchar line c
    if line.length < CLI_INPUT_LINE_LEN_MAX - 1 ∧ eol = false then lines line cs
    else line :: lines [] cs

/-- `lines` is `io_readline` called again and again. -/
theorem lines_eq (line cs : List UInt8) : lines line cs =
    match io_readline line cs with
    | none => []
    | some (l, rest) => l :: lines [] rest := by
  induction cs generalizing line with
  | nil => rfl
  | cons c cs ih =>
    simp only [lines, io_readline]
    split
    · exact ih _
    · rfl

end Cli
