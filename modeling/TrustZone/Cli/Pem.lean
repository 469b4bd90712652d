import TrustZone.Lib.Base64
import TrustZone.Lib.Heap
import TrustZone.Cli.Console

/-!
# PEM texts on the console (`cli_pki.c`)

`vPrintDer` shows a DER object as a PEM text, 48 bytes a line; `xReadPemFromCliAsDer` reads such a
text line by line. `mbedtls_base64_encode`, `mbedtls_base64_decode` and `mbedtls_calloc` are not
part of the repository: they are parameters, `MbedtlsBase64.Documented` says what
`mbedtls/base64.h` promises.
-/

namespace Cli

open Lib

/-- `mbedtls_base64_encode` and `mbedtls_base64_decode`: from the `dlen` bytes at `dst` and the
source, the return value, `*olen` and the bytes at `dst` afterwards. -/
structure MbedtlsBase64 where
  mbedtls_base64_encode : List UInt8 → List UInt8 → Int × Nat × List UInt8
  mbedtls_base64_decode : List UInt8 → List UInt8 → Int × Nat × List UInt8

/-- The documented behaviour of the two functions: the text of `n` bytes has four characters of
the alphabet for every three bytes begun, encoding it takes room for one character more, and
decoding it gives the bytes back when there is room for them. -/
structure MbedtlsBase64.Documented (b : MbedtlsBase64) (text : List UInt8 → List UInt8) : Prop where
  text_length : ∀ src, (text src).length = 4 * ((src.length + 2) / 3)
  text_chars : ∀ src, ∀ c ∈ text src, Base64.IsChar c
  encode : ∀ dst src, (text src).length + 1 ≤ dst.length → ∃ dst',
    b.mbedtls_base64_encode dst src = (0, (text src).length, dst') ∧ dst'.length = dst.length ∧
      text src <+: dst'
  decode : ∀ dst src, src.length ≤ dst.length → ∃ dst',
    b.mbedtls_base64_decode dst (text src) = (0, src.length, dst') ∧ dst'.length = dst.length ∧
      src <+: dst'

def PEM_CERT_MAX_LEN : Nat := 2048
def PEM_LINE_ENDING_LEN : Nat := 1
def PEM_LINE_BUFF_LEN : Nat := 64
def DER_BYTES_PER_PEM_LINE : Nat := 3 * PEM_LINE_BUFF_LEN / 4

def PEM_BEGIN : List UInt8 := ascii "-----BEGIN "
def PEM_END : List UInt8 := ascii "-----END "
def PEM_META_SUFFIX : List UInt8 := ascii "-----"

/-- The headers and footers that `vPrintDer` is called with. -/
def pemFrames : List (List UInt8 × List UInt8) :=
  [(ascii "-----BEGIN CERTIFICATE REQUEST-----\r\n", ascii "-----END CERTIFICATE REQUEST-----\r\n"),
   (ascii "-----BEGIN CERTIFICATE-----\r\n", ascii "-----END CERTIFICATE-----\r\n"),
   (ascii "-----BEGIN PUBLIC KEY-----\r\n", ascii "-----END PUBLIC KEY-----\r\n")]

/-! ## Writing -/

/-- The loop of `vPrintDer` from `uxIdx` on: the console and the last `lRslt`. -/
def printLoop (b : MbedtlsBase64) (pucDer : List UInt8) (uxIdx : Nat) (lRslt : Int) (con : Console) :
    Console × Int :=
  if uxIdx < pucDer.length then
    let pcLineBuffer := List.replicate (PEM_LINE_BUFF_LEN + 3) 0xFF
    let uxBytesToConsume :=
      if pucDer.length - uxIdx < DER_BYTES_PER_PEM_LINE then pucDer.length - uxIdx
      else DER_BYTES_PER_PEM_LINE
    let (lRslt, uxBytesWritten, dst) := b.mbedtls_base64_encode
      (pcLineBuffer.take (PEM_LINE_BUFF_LEN + 1)) ((pucDer.drop uxIdx).take uxBytesToConsume)
    let pcLineBuffer := blit pcLineBuffer 0 dst
    if lRslt = 0 then
      let pcLineBuffer := blit pcLineBuffer uxBytesWritten (strncpy (ascii "\r\n") 3)
      printLoop b pucDer (uxIdx + DER_BYTES_PER_PEM_LINE) lRslt
        (io_write con pcLineBuffer (uxBytesWritten + 2))
    else (io_print con (ascii "\r\nERROR\r\n"), lRslt)
  else (con, lRslt)
termination_by pucDer.length - uxIdx
decreasing_by simp only [DER_BYTES_PER_PEM_LINE, PEM_LINE_BUFF_LEN]; omega

def vPrintDer (b : MbedtlsBase64) (con : Console) (pcHeader pcFooter pucDer : List UInt8) : Console :=
  let (con, lRslt) := printLoop b pucDer 0 0 (io_print con pcHeader)
  if lRslt = 0 then io_print con pcFooter else con

/-! ## Reading -/

/-- The variables of `xReadPemFromCliAsDer`, and what it printed. -/
structure PemReader where
  uxDerDataLen : Nat
  xBeginFound : Bool
  xEndFound : Bool
  xErrorFlag : Bool
  pucDerBuffer : List UInt8
  printed : List UInt8

/-- An error message is printed and `xErrorFlag` set. -/
def PemReader.error (r : PemReader) (msg : List UInt8) : PemReader :=
  { r with xErrorFlag := true, printed := r.printed ++ msg }

/-- What `readline` returns: `lDataRead` and the string in `pcInputBuffer`. -/
structure Line where
  lDataRead : Int
  pcInputBuffer : List UInt8

/-- A line of the console driver. -/
def Line.ofConsole (line : List UInt8) : Line := ⟨line.length, line⟩

/-- `a - b` in a `size_t`. -/
def sizeSub (a b : Nat) : Nat := (a + 2 ^ 32 - b) % 2 ^ 32

/-- The last part of the loop body: decode the line to the end of the buffer. -/
def decodeLine (b : MbedtlsBase64) (r : PemReader) (pcInputBuffer : List UInt8) (uxDataRead : Nat) :
    Option PemReader :=
  if r.xBeginFound = true ∧ r.xEndFound = false then
    let (lRslt, uxBytesWritten, dst) := b.mbedtls_base64_decode
      (r.pucDerBuffer.drop r.uxDerDataLen) (pcInputBuffer.take uxDataRead)
    let r := { r with pucDerBuffer := blit r.pucDerBuffer r.uxDerDataLen dst }
    if lRslt = 0 then
      let r := { r with uxDerDataLen := r.uxDerDataLen + uxBytesWritten }
      -- configASSERT( uxDerDataLen < PEM_CERT_MAX_LEN )
      if r.uxDerDataLen < PEM_CERT_MAX_LEN then some r else none
    else some { r with xErrorFlag := true }
  else some r

/-- The check of a footer line, once the header is found. -/
def checkFooter (r : PemReader) (pcInputBuffer : List UInt8) (uxDataRead : Nat) : PemReader :=
  if strncmpEq PEM_END pcInputBuffer PEM_END.length then
    match strnstr (pcInputBuffer.drop PEM_END.length) PEM_META_SUFFIX
        (sizeSub uxDataRead PEM_END.length) with
    | none => r.error (ascii "Error: PEM footer does not contain the expected ending: '" ++
      PEM_META_SUFFIX ++ ascii "'.\r\n")
    | some _ => { r with xEndFound := true }
  else r

/-- One round of the loop of `xReadPemFromCliAsDer`, up to the test of `xErrorFlag`; `none` is a
failed assertion. -/
def readPemLine (b : MbedtlsBase64) (r : PemReader) (l : Line) : Option PemReader :=
  if 0 < l.lDataRead then
    let uxDataRead := l.lDataRead.toNat
    if 64 < l.lDataRead then
      decodeLine b
        (r.error (ascii "Error: Current line exceeds maximum line length for a PEM file.\r\n"))
        l.pcInputBuffer uxDataRead
    else if r.xErrorFlag = false ∧ 0 < uxDataRead ∧
        PEM_CERT_MAX_LEN ≤ r.uxDerDataLen + uxDataRead + PEM_LINE_ENDING_LEN then
      decodeLine b (r.error (ascii "Error: Out of memory to store the given PEM file.\r\n"))
        l.pcInputBuffer uxDataRead
    else if r.xBeginFound = false then
      if strncmpEq PEM_BEGIN l.pcInputBuffer PEM_BEGIN.length then
        match strnstr (l.pcInputBuffer.drop PEM_BEGIN.length) PEM_META_SUFFIX
            (sizeSub uxDataRead PEM_BEGIN.length) with
        | none =>
          decodeLine b
            (r.error (ascii "Error: PEM header does not contain the expected ending: '" ++
              PEM_META_SUFFIX ++ ascii "'.\r\n"))
            l.pcInputBuffer uxDataRead
        | some _ => some { r with xBeginFound := true }
      else
        decodeLine b
          (r.error (ascii "Error: PEM header does not contain the expected text: '" ++
            PEM_BEGIN ++ ascii "'.\r\n"))
          l.pcInputBuffer uxDataRead
    else if r.xEndFound = false then
      decodeLine b (checkFooter r l.pcInputBuffer uxDataRead) l.pcInputBuffer uxDataRead
    else decodeLine b r l.pcInputBuffer uxDataRead
  else some { r with xErrorFlag := true }

/-- What `xReadPemFromCliAsDer` returns: `!xErrorFlag`, `*ppucDerBuffer` and `*puxDerLen` when
they are set, what it printed, and the lines it did not ask for. -/
structure PemResult where
  ret : Bool
  der : Option (List UInt8 × Nat)
  printed : List UInt8
  unread : List Line

/-- The loop of `xReadPemFromCliAsDer` over the lines that `readline` returns; `none` when it
waits for more of them or fails an assertion. -/
def readPemLoop (b : MbedtlsBase64) (r : PemReader) (ls : List Line) : Option PemResult :=
  if r.uxDerDataLen < PEM_CERT_MAX_LEN ∧ r.xEndFound = false then
    match ls with
    | [] => none
    | l :: ls =>
      match readPemLine b r l with
      | none => none
      | some r =>
        if r.xErrorFlag then some ⟨false, none, r.printed, ls⟩ else readPemLoop b r ls
  else some ⟨!r.xErrorFlag, some (r.pucDerBuffer, r.uxDerDataLen), r.printed, ls⟩

def xReadPemFromCliAsDer (b : MbedtlsBase64) (mbedtls_calloc : Nat → Nat → Option (List UInt8))
    (ls : List Line) : Option PemResult :=
  match mbedtls_calloc 1 PEM_CERT_MAX_LEN with
  | none =>
    some ⟨false, none, ascii "Error: Out of memory to store the given PEM file.\r\n", ls⟩
  | some pucDerBuffer =>
    readPemLoop b ⟨0, false, false, false, pucDerBuffer, []⟩ ls

/-- What the caller of `xReadPemFromCliAsDer` has afterwards: `*ppucDerBuffer` and `*puxDerLen` when they
were set, and the heap. -/
structure PemCall where
  ret : Bool
  out : Option (Nat × Nat)
  heap : Heap
  unread : List Line

/-- `xReadPemFromCliAsDer` on the heap that `mbedtls_calloc` and `mbedtls_free` work on: the buffer goes
when `pucDerBuffer` is set to `NULL`. -/
def readPemOnHeap (b : MbedtlsBase64) (al : Allocator) (h : Heap) (ls : List Line) : Option PemCall :=
  match h.malloc al (1 * PEM_CERT_MAX_LEN) with
  | (none, h) =>
    match xReadPemFromCliAsDer b (fun _ _ => none) ls with
    | none => none
    | some r => some ⟨r.ret, none, h, r.unread⟩
  | (some p, h) =>
    match xReadPemFromCliAsDer b (fun n size => some (List.replicate (n * size) 0)) ls with
    | none => none
    | some r =>
      match r.der with
      | none =>
        match h.free p with
        | none => none
        | some h => some ⟨r.ret, none, h, r.unread⟩
      | some (pucDerBuffer, uxDerDataLen) =>
        match h.write p pucDerBuffer with
        | none => none
        | some h => some ⟨r.ret, some (p, uxDerDataLen), h, r.unread⟩

/-- `xReadPemFromCliToX509Crt`: what `mbedtls_x509_crt_parse_der_nocopy` returns for the bytes is a
parameter, a certificate that parses keeps the buffer. `none` is a failed assertion, a read outside the
buffer, or waiting for lines. -/
def xReadPemFromCliToX509Crt (b : MbedtlsBase64) (al : Allocator)
    (mbedtls_x509_crt_parse_der_nocopy : List UInt8 → Int) (h : Heap) (ls : List Line) :
    Option (Bool × Heap) :=
  match readPemOnHeap b al h ls with
  | none => none
  | some c =>
    match c.ret, c.out with
    | false, _ => some (false, c.heap)
    | true, none => none
    | true, some (pucDerBuffer, uxDerDataLen) =>
      -- configASSERT( uxDerDataLen > 0 )
      if 0 < uxDerDataLen then
        match c.heap.read pucDerBuffer uxDerDataLen with
        | none => none
        | some der =>
          if mbedtls_x509_crt_parse_der_nocopy der < 0 then
            match c.heap.free pucDerBuffer with
            | none => none
            | some heap => some (false, heap)
          else some (true, c.heap)
      else none

end Cli
