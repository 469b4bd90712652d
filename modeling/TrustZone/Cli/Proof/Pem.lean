import TrustZone.Cli.Pem

/-!
# The PEM text that is shown reads back

* `printLoop_spec`: `vPrintDer` shows the header, one line for every 48 bytes, and the footer.
* `lines_typed`, `lines_body`: the console driver hands these lines out again.
* `readPemLine_body`: a line of the text is decoded behind what was read so far (`Reading`).
* `readPemLoop_body`: so the loop ends at the footer with all bytes.
* `pem_round_trip`: what `vPrintDer` shows, `xReadPemFromCliAsDer` reads, for up to 2013 bytes.
-/

namespace Cli

open Lib

variable {b : MbedtlsBase64} {text : List UInt8 → List UInt8}

/-! ## The text -/

/-- The lines between header and footer. -/
def pemLines (text : List UInt8 → List UInt8) (der : List UInt8) : List (List UInt8) :=
  if der = [] then []
  else text (der.take DER_BYTES_PER_PEM_LINE) :: pemLines text (der.drop DER_BYTES_PER_PEM_LINE)
termination_by der.length
decreasing_by
  have := List.length_pos_iff.2 ‹_›
  simp only [DER_BYTES_PER_PEM_LINE, PEM_LINE_BUFF_LEN, List.length_drop]
  omega

theorem pemLines_nil : pemLines text [] = [] := by rw [pemLines, if_pos rfl]

theorem pemLines_cons {der : List UInt8} (h : der ≠ []) : pemLines text der =
    text (der.take DER_BYTES_PER_PEM_LINE) :: pemLines text (der.drop DER_BYTES_PER_PEM_LINE) := by
  rw [pemLines, if_neg h]

/-- Lines as they are shown. -/
def shown (ls : List (List UInt8)) : List UInt8 := ls.flatMap fun l => l ++ [CR, LF]

/-- A character that the console driver adds to the line, and no NUL. -/
def Typed (c : UInt8) : Prop :=
  c ≠ CNTLC ∧ c ≠ BACKSPACE ∧ c ≠ DEL ∧ c ≠ LF ∧ c ≠ CR ∧ c ≠ 0

instance (c : UInt8) : Decidable (Typed c) := inferInstanceAs (Decidable (_ ∧ _))

theorem typed_of_isChar {c : UInt8} (h : Base64.IsChar c) : Typed c := by
  refine ⟨?_, ?_, ?_, ?_, ?_, ?_⟩ <;> rintro rfl <;> exact absurd h (by decide)

theorem ne_dash_of_isChar {c : UInt8} (h : Base64.IsChar c) : c ≠ 45 := by
  rintro rfl
  exact absurd h (by decide)

/-- What one line of the text is made from: at most 48 bytes. -/
structure Chunk (l : List UInt8) : Prop where
  pos : 0 < l.length
  le : l.length ≤ 48

theorem Chunk.take {der : List UInt8} (h : der ≠ []) : Chunk (der.take DER_BYTES_PER_PEM_LINE) := by
  have hpos := List.length_pos_iff.2 h
  simp only [DER_BYTES_PER_PEM_LINE, PEM_LINE_BUFF_LEN]
  constructor
  · rw [List.length_take]; omega
  · rw [List.length_take]; omega

theorem Chunk.text_length (hb : b.Documented text) {l : List UInt8} (h : Chunk l) :
    0 < (text l).length ∧ (text l).length ≤ PEM_LINE_BUFF_LEN := by
  have hpos := h.pos
  have hle := h.le
  rw [hb.text_length, PEM_LINE_BUFF_LEN]
  omega

/-! ## Writing -/

theorem io_print_out {con : Console} {s : List UInt8} (h : 0 ∉ s) :
    (io_print con s).out = con.out ++ s := by
  rw [io_print, cstr_of_notMem h]

theorem strncpy_length (s : List UInt8) (n : Nat) : (strncpy s n).length = n := by
  have hle : (cstr (s.take n)).length ≤ n := (cstr_start _).length_le.trans (List.length_take_le n s)
  rw [strncpy, List.length_append, List.length_replicate]
  omega

theorem cstr_strncpy (s : List UInt8) (n : Nat) : cstr (strncpy s n) = cstr (s.take n) := by
  unfold strncpy
  dsimp only
  cases n - (cstr (s.take n)).length with
  | zero => rw [List.replicate_zero, List.append_nil, cstr_of_notMem (cstr_notMem _)]
  | succ k => rw [List.replicate_succ, cstr_append_nul, cstr_of_notMem (cstr_notMem _)]

/-- Writing stops at a NUL. -/
theorem io_write_cstr {n : Nat} (hlt : n < CLI_OUTPUT_SCRATCH_BUF_LEN) (con : Console) (s : List UInt8) :
    (io_write con s n).out = con.out ++ cstr (s.take n) := by
  have hlen := strncpy_length s n
  have hbuf : blit (blit con.pcOutputBuffer 0 (strncpy s n)) n [0] =
      strncpy s n ++ 0 :: con.pcOutputBuffer.drop (n + 1) := by
    rw [blit_zero, hlen, blit, List.take_append_of_le_length (by omega),
      List.take_of_length_le (by omega), List.append_assoc]
    simp [List.drop_append, hlen]
  simp only [io_write, if_pos hlt, hbuf, cstr_append_nul, cstr_strncpy]

theorem io_write_out {con : Console} {pv : List UInt8} {n : Nat} (h : 0 ∉ pv.take n)
    (hlt : n < CLI_OUTPUT_SCRATCH_BUF_LEN) : (io_write con pv n).out = con.out ++ pv.take n := by
  rw [io_write_cstr hlt, cstr_of_notMem h]

/-- A line is encoded, ended with CR and LF and written whole. -/
theorem printLoop_line (hb : b.Documented text) {l : List UInt8} (hl : Chunk l)
    (con : Console) : ∃ dst,
    b.mbedtls_base64_encode
        ((List.replicate (PEM_LINE_BUFF_LEN + 3) 0xFF).take (PEM_LINE_BUFF_LEN + 1)) l =
      (0, (text l).length, dst) ∧
    (io_write con (blit (blit (List.replicate (PEM_LINE_BUFF_LEN + 3) 0xFF) 0 dst)
        (text l).length (strncpy (ascii "\r\n") 3)) ((text l).length + 2)).out =
      con.out ++ (text l ++ [CR, LF]) := by
  have htext := hl.text_length hb
  obtain ⟨dst, henc, hdst, hpre⟩ := hb.encode
    ((List.replicate (PEM_LINE_BUFF_LEN + 3) 0xFF).take (PEM_LINE_BUFF_LEN + 1)) l (by
      rw [List.length_take, List.length_replicate]; omega)
  refine ⟨dst, henc, ?_⟩
  rw [List.length_take, List.length_replicate] at hdst
  have hbuf : (blit (List.replicate (PEM_LINE_BUFF_LEN + 3) 0xFF) 0 dst).length = 67 := by
    rw [blit_length (by rw [List.length_replicate]; omega), List.length_replicate]
    rfl
  simp only [PEM_LINE_BUFF_LEN] at htext hdst
  have hcopy : strncpy (ascii "\r\n") 3 = [CR, LF, 0] := by decide
  have htake : (blit (List.replicate (PEM_LINE_BUFF_LEN + 3) 0xFF) 0 dst).take (text l).length =
      text l := by
    rw [blit_zero, List.take_append_of_le_length (by omega)]
    exact (List.prefix_iff_eq_take.1 hpre).symm
  have hline : (blit (blit (List.replicate (PEM_LINE_BUFF_LEN + 3) 0xFF) 0 dst)
      (text l).length [CR, LF, 0]).take ((text l).length + 2) = text l ++ [CR, LF] := by
    rw [take_blit (by omega) (by simp), htake]
    rfl
  have hnul : 0 ∉ text l ++ [CR, LF] := by
    intro h0
    rcases List.mem_append.1 h0 with h0 | h0
    · exact (typed_of_isChar (hb.text_chars l 0 h0)).2.2.2.2.2 rfl
    · exact absurd h0 (by decide)
  rw [hcopy, io_write_out (hline ▸ hnul), hline]
  rw [CLI_OUTPUT_SCRATCH_BUF_LEN]
  omega

theorem printLoop_spec (hb : b.Documented text) (pucDer : List UInt8) (uxIdx : Nat)
    (con : Console) : (printLoop b pucDer uxIdx 0 con).2 = 0 ∧
      (printLoop b pucDer uxIdx 0 con).1.out =
        con.out ++ shown (pemLines text (pucDer.drop uxIdx)) := by
  induction hn : pucDer.length - uxIdx using Nat.strong_induction_on generalizing uxIdx con with
  | _ n ih =>
    by_cases hlt : uxIdx < pucDer.length
    · -- 48 bytes, or what is left
      have hchunk : (pucDer.drop uxIdx).take
          (if pucDer.length - uxIdx < DER_BYTES_PER_PEM_LINE then pucDer.length - uxIdx
            else DER_BYTES_PER_PEM_LINE) = (pucDer.drop uxIdx).take DER_BYTES_PER_PEM_LINE := by
        split
        · rw [List.take_of_length_le (by simp), List.take_of_length_le (by simp; omega)]
        · rfl
      have hne : pucDer.drop uxIdx ≠ [] := by
        rw [ne_eq, List.drop_eq_nil_iff]; omega
      obtain ⟨dst, henc, hout⟩ := printLoop_line hb (Chunk.take hne) con
      have hrec := fun con => ih (pucDer.length - (uxIdx + DER_BYTES_PER_PEM_LINE))
        (by simp only [DER_BYTES_PER_PEM_LINE, PEM_LINE_BUFF_LEN]; omega)
        (uxIdx + DER_BYTES_PER_PEM_LINE) con rfl
      rw [printLoop, if_pos hlt]
      simp only [hchunk, henc, if_true]
      refine ⟨(hrec _).1, ?_⟩
      rw [(hrec _).2, hout, pemLines_cons hne, List.drop_drop]
      simp [shown]
    · rw [printLoop, if_neg hlt, List.drop_of_length_le (by omega), pemLines_nil]
      simp [shown]

/-! ## The lines of the console -/

theorem lines_typed {l : List UInt8} (hl : ∀ c ∈ l, Typed c) (line rest : List UInt8)
    (hlen : (line ++ l).length < CLI_INPUT_LINE_LEN_MAX - 1) :
    lines line (l ++ rest) = lines (line ++ l) rest := by
  induction l generalizing line with
  | nil => simp
  | cons c l ih =>
    obtain ⟨h1, h2, h3, h4, h5, -⟩ := hl c List.mem_cons_self
    have hkey : io_getchar line c = (line ++ [c], false) := by simp [io_getchar, h1, h2, h3, h4, h5]
    have hlen' : ((line ++ [c]) ++ l).length < CLI_INPUT_LINE_LEN_MAX - 1 := by simpa using hlen
    have hone : (line ++ [c]).length < CLI_INPUT_LINE_LEN_MAX - 1 := by
      simp only [List.length_append] at hlen' ⊢
      omega
    rw [List.cons_append, lines, hkey]
    simp only [hone, and_self, if_true]
    rw [ih (fun d hd => hl d (List.mem_cons_of_mem _ hd)) _ hlen']
    simp

/-- A line that is typed with CR and LF is handed out. -/
theorem lines_line {l : List UInt8} (hl : ∀ c ∈ l, Typed c) (hne : l ≠ [])
    (hlen : l.length < CLI_INPUT_LINE_LEN_MAX - 1) (rest : List UInt8) :
    lines [] (l ++ [CR, LF] ++ rest) = l :: lines [] rest := by
  rw [List.append_assoc, lines_typed hl [] _ (by simpa using hlen), List.nil_append]
  have hcr : io_getchar l CR = (l, true) := by
    have hc : (CR = CNTLC ∨ CR = BACKSPACE ∨ CR = DEL) = False := by decide
    simp_all [io_getchar]
  have hlf : io_getchar [] LF = ([], false) := by decide
  show lines l (CR :: LF :: rest) = _
  rw [lines, hcr]
  simp only [Bool.true_eq_false, and_false, if_false]
  rw [lines, hlf]
  simp [CLI_INPUT_LINE_LEN_MAX]

theorem lines_body (hb : b.Documented text) (der rest : List UInt8) :
    lines [] (shown (pemLines text der) ++ rest) = pemLines text der ++ lines [] rest := by
  induction hn : der.length using Nat.strong_induction_on generalizing der with
  | _ n ih =>
    by_cases hne : der = []
    · rw [hne, pemLines_nil]; rfl
    · have hpos := List.length_pos_iff.2 hne
      have hl := (Chunk.take hne).text_length hb
      have hrec := ih (der.drop DER_BYTES_PER_PEM_LINE).length (by
        rw [List.length_drop, DER_BYTES_PER_PEM_LINE, PEM_LINE_BUFF_LEN]; omega) _ rfl
      rw [pemLines_cons hne, shown, List.flatMap_cons, List.append_assoc]
      rw [lines_line (fun c hc => typed_of_isChar (hb.text_chars _ c hc))
        (List.length_pos_iff.1 hl.1)
        (by rw [PEM_LINE_BUFF_LEN] at hl; rw [CLI_INPUT_LINE_LEN_MAX]; omega)]
      rw [List.cons_append]
      exact congrArg _ hrec

/-! ## Reading -/

/-- The reader between header and footer, with `done` decoded. -/
structure Reading (r : PemReader) (done : List UInt8) : Prop where
  begun : r.xBeginFound = true
  open_ : r.xEndFound = false
  good : r.xErrorFlag = false
  len : r.uxDerDataLen = done.length
  size : r.pucDerBuffer.length = PEM_CERT_MAX_LEN
  data : r.pucDerBuffer.take done.length = done

theorem text_not_footer (hb : b.Documented text) {l : List UInt8} (hl : 0 < (text l).length) :
    strncmpEq PEM_END (text l) PEM_END.length = false := by
  have hchars := hb.text_chars l
  cases ht : text l with
  | nil => simp [ht] at hl
  | cons c cs =>
    have hc : c ≠ 45 := ne_dash_of_isChar (hchars c (by simp [ht]))
    have hend : PEM_END = 45 :: ascii "----END " := by decide
    simp [hend, strncmpEq, hc.symm]

/-- A line of the text is decoded to the end of the buffer. -/
theorem readPemLine_body (hb : b.Documented text) {r : PemReader} {done l : List UInt8}
    (hr : Reading r done) (hl : Chunk l)
    (hroom : done.length + PEM_LINE_BUFF_LEN + PEM_LINE_ENDING_LEN < PEM_CERT_MAX_LEN) :
    ∃ r', readPemLine b r (.ofConsole (text l)) = some r' ∧ Reading r' (done ++ l) ∧
      r'.printed = r.printed := by
  have htext := hl.text_length hb
  have hle := hl.le
  have hsize := hr.size
  simp only [PEM_LINE_BUFF_LEN, PEM_LINE_ENDING_LEN, PEM_CERT_MAX_LEN] at htext hroom hsize
  have hdone : (r.pucDerBuffer.take done.length).length = done.length := by
    rw [List.length_take]; omega
  obtain ⟨dst, hdec, hdst, hpre⟩ := hb.decode (r.pucDerBuffer.drop done.length) l (by
    rw [List.length_drop]; omega)
  rw [List.length_drop] at hdst
  refine ⟨{ r with
    uxDerDataLen := done.length + l.length
    pucDerBuffer := blit r.pucDerBuffer done.length dst }, ?_, ?_, rfl⟩
  · have h1 : ¬(64 : Int) < (text l).length := by omega
    have h2 : ¬PEM_CERT_MAX_LEN ≤ done.length + (text l).length + PEM_LINE_ENDING_LEN := by
      rw [PEM_CERT_MAX_LEN, PEM_LINE_ENDING_LEN]; omega
    have h3 : done.length + l.length < PEM_CERT_MAX_LEN := by rw [PEM_CERT_MAX_LEN]; omega
    have h4 : (0 : Int) < (text l).length := by omega
    simp only [readPemLine, Line.ofConsole, Int.toNat_natCast, h4, h1, h2, if_true, if_false,
      and_false, hr.begun, Bool.true_eq_false, hr.open_, checkFooter, text_not_footer hb htext.1,
      Bool.false_eq_true, decodeLine, and_self, List.take_length, hr.len, hdec, h3]
  · refine ⟨hr.begun, hr.open_, hr.good, by simp, ?_, ?_⟩
    · rw [PEM_CERT_MAX_LEN]
      show (blit r.pucDerBuffer done.length dst).length = 2048
      rw [blit_length (by omega), hsize]
    · show (blit r.pucDerBuffer done.length dst).take (done ++ l).length = done ++ l
      rw [List.length_append, take_blit (by omega) (hpre.length_le), hr.data,
        ← List.prefix_iff_eq_take.1 hpre]

/-- What the reader needs of a header line. -/
structure HeaderOk (l : List UInt8) : Prop where
  typed : ∀ c ∈ l, Typed c
  pos : 0 < l.length
  le : l.length ≤ 35
  found : strncmpEq PEM_BEGIN l PEM_BEGIN.length = true
  suffix : (strnstr (l.drop PEM_BEGIN.length) PEM_META_SUFFIX
    (sizeSub l.length PEM_BEGIN.length)).isSome

/-- What the reader needs of a footer line. -/
structure FooterOk (l : List UInt8) : Prop where
  typed : ∀ c ∈ l, Typed c
  pos : 0 < l.length
  le : l.length ≤ 33
  found : strncmpEq PEM_END l PEM_END.length = true
  suffix : (strnstr (l.drop PEM_END.length) PEM_META_SUFFIX
    (sizeSub l.length PEM_END.length)).isSome

/-- The headers and footers of the command line pass the reader's checks. -/
theorem pemFrames_ok {h f : List UInt8} (hf : (h, f) ∈ pemFrames) : ∃ hl fl,
    h = hl ++ [CR, LF] ∧ f = fl ++ [CR, LF] ∧ HeaderOk hl ∧ FooterOk fl := by
  simp only [pemFrames, List.mem_cons, List.not_mem_nil, or_false, Prod.mk.injEq] at hf
  rcases hf with ⟨rfl, rfl⟩ | ⟨rfl, rfl⟩ | ⟨rfl, rfl⟩
  · exact ⟨ascii "-----BEGIN CERTIFICATE REQUEST-----", ascii "-----END CERTIFICATE REQUEST-----",
      by decide, by decide, ⟨by decide +kernel, by decide, by decide, by decide, by decide⟩,
      ⟨by decide +kernel, by decide, by decide, by decide, by decide⟩⟩
  · exact ⟨ascii "-----BEGIN CERTIFICATE-----", ascii "-----END CERTIFICATE-----",
      by decide, by decide, ⟨by decide +kernel, by decide, by decide, by decide, by decide⟩,
      ⟨by decide +kernel, by decide, by decide, by decide, by decide⟩⟩
  · exact ⟨ascii "-----BEGIN PUBLIC KEY-----", ascii "-----END PUBLIC KEY-----",
      by decide, by decide, ⟨by decide +kernel, by decide, by decide, by decide, by decide⟩,
      ⟨by decide +kernel, by decide, by decide, by decide, by decide⟩⟩

/-- The header line starts the text. -/
theorem readPemLine_header {zeros hl : List UInt8} (hh : HeaderOk hl)
    (hz : zeros.length = PEM_CERT_MAX_LEN) : ∃ r',
    readPemLine b ⟨0, false, false, false, zeros, []⟩ (.ofConsole hl) = some r' ∧
      Reading r' [] ∧ r'.printed = [] := by
  have hpos := hh.pos
  have hle := hh.le
  obtain ⟨pcLabelEnd, hsuffix⟩ := Option.isSome_iff_exists.1 hh.suffix
  refine ⟨⟨0, true, false, false, zeros, []⟩, ?_, ⟨rfl, rfl, rfl, rfl, hz, rfl⟩, rfl⟩
  have h1 : ¬(64 : Int) < hl.length := by omega
  have h2 : ¬PEM_CERT_MAX_LEN ≤ 0 + hl.length + PEM_LINE_ENDING_LEN := by
    rw [PEM_CERT_MAX_LEN, PEM_LINE_ENDING_LEN]; omega
  have h3 : (0 : Int) < hl.length := by omega
  simp only [readPemLine, Line.ofConsole, Int.toNat_natCast, h3, h1, h2, if_true, if_false,
    and_false, hh.found, hsuffix]

/-- The footer line ends it. -/
theorem readPemLine_footer {r : PemReader} {done fl : List UInt8} (hr : Reading r done)
    (hf : FooterOk fl) (hroom : done.length ≤ 2013) :
    readPemLine b r (.ofConsole fl) = some { r with xEndFound := true } := by
  have hpos := hf.pos
  have hle := hf.le
  obtain ⟨pcLabelEnd, hsuffix⟩ := Option.isSome_iff_exists.1 hf.suffix
  have h1 : ¬(64 : Int) < fl.length := by omega
  -- 2013 bytes and the longest footer, of 33 characters, just fit
  have h2 : ¬PEM_CERT_MAX_LEN ≤ r.uxDerDataLen + fl.length + PEM_LINE_ENDING_LEN := by
    rw [hr.len, PEM_CERT_MAX_LEN, PEM_LINE_ENDING_LEN]; omega
  have h3 : (0 : Int) < fl.length := by omega
  simp only [readPemLine, Line.ofConsole, Int.toNat_natCast, h3, h1, h2, if_true, if_false,
    and_false, hr.begun, Bool.true_eq_false, hr.open_, checkFooter, hf.found, hsuffix, decodeLine]

theorem readPemLoop_body (hb : b.Documented text) {fl : List UInt8} (hf : FooterOk fl)
    (der : List UInt8) {r : PemReader} {done : List UInt8} (hr : Reading r done)
    (hlines : der ≠ [] → done.length % DER_BYTES_PER_PEM_LINE = 0)
    (hlen : (done ++ der).length ≤ 2013) : ∃ buf,
    readPemLoop b r ((pemLines text der ++ [fl]).map .ofConsole) =
      some ⟨true, some (buf, (done ++ der).length), r.printed, []⟩ ∧
    buf.take (done ++ der).length = done ++ der := by
  have hloop : r.uxDerDataLen < PEM_CERT_MAX_LEN ∧ r.xEndFound = false := by
    rw [List.length_append] at hlen
    rw [hr.len, PEM_CERT_MAX_LEN]
    exact ⟨by omega, hr.open_⟩
  induction hn : der.length using Nat.strong_induction_on generalizing der r done with
  | _ n ih =>
    by_cases hne : der = []
    · subst hne
      rw [List.append_nil] at hlen ⊢
      refine ⟨r.pucDerBuffer, ?_, hr.data⟩
      rw [pemLines_nil, List.nil_append, List.map_cons, List.map_nil, readPemLoop, if_pos hloop]
      simp only [readPemLine_footer hr hf hlen, hr.good, Bool.false_eq_true, if_false]
      rw [readPemLoop, if_neg (by simp)]
      simp only [hr.len, Bool.not_false]
    · have hchunk := Chunk.take hne
      have hpos := List.length_pos_iff.2 hne
      have hdone := hlines hne
      have hsplit : (done ++ der.take DER_BYTES_PER_PEM_LINE) ++ der.drop DER_BYTES_PER_PEM_LINE =
          done ++ der := by rw [List.append_assoc, List.take_append_drop]
      rw [List.length_append] at hlen
      simp only [DER_BYTES_PER_PEM_LINE, PEM_LINE_BUFF_LEN] at hdone
      obtain ⟨r', hread, hr', hprinted⟩ := readPemLine_body hb hr hchunk (by
        rw [PEM_LINE_BUFF_LEN, PEM_LINE_ENDING_LEN, PEM_CERT_MAX_LEN]; omega)
      have hloop' : r'.uxDerDataLen < PEM_CERT_MAX_LEN ∧ r'.xEndFound = false := by
        refine ⟨?_, hr'.open_⟩
        rw [hr'.len, List.length_append, List.length_take, PEM_CERT_MAX_LEN]
        omega
      obtain ⟨buf, hrest, hbuf⟩ := ih (der.drop DER_BYTES_PER_PEM_LINE).length
        (by rw [List.length_drop, DER_BYTES_PER_PEM_LINE, PEM_LINE_BUFF_LEN]; omega)
        (der.drop DER_BYTES_PER_PEM_LINE) hr'
        (fun hmore => by
          -- there is a next line, so this one is full
          rw [ne_eq, List.drop_eq_nil_iff] at hmore
          simp only [DER_BYTES_PER_PEM_LINE, PEM_LINE_BUFF_LEN] at hmore ⊢
          rw [List.length_append, List.length_take]
          omega)
        (by rw [hsplit, List.length_append]; exact hlen) hloop' rfl
      rw [hsplit, hprinted] at hrest
      rw [hsplit] at hbuf
      refine ⟨buf, ?_, hbuf⟩
      rw [pemLines_cons hne, List.cons_append, List.map_cons, readPemLoop, if_pos hloop]
      simp only [hread, hr'.good, Bool.false_eq_true, if_false]
      exact hrest

/-! ## The round trip -/

theorem vPrintDer_out (hb : b.Documented text) {hl fl : List UInt8} (hh : HeaderOk hl)
    (hf : FooterOk fl) (pucDer : List UInt8) (con : Console) :
    (vPrintDer b con (hl ++ [CR, LF]) (fl ++ [CR, LF]) pucDer).out =
      con.out ++ shown (hl :: (pemLines text pucDer ++ [fl])) := by
  have hnul : ∀ l : List UInt8, (∀ c ∈ l, Typed c) → 0 ∉ l ++ [CR, LF] := by
    intro l hl h0
    rcases List.mem_append.1 h0 with h0 | h0
    · exact (hl 0 h0).2.2.2.2.2 rfl
    · exact absurd h0 (by decide)
  obtain ⟨hrslt, hout⟩ := printLoop_spec hb pucDer 0 (io_print con (hl ++ [CR, LF]))
  rw [vPrintDer]
  simp only [hrslt, if_true]
  rw [io_print_out (hnul fl hf.typed), hout, io_print_out (hnul hl hh.typed), List.drop_zero]
  simp [shown]

theorem lines_pem (hb : b.Documented text) {hl fl : List UInt8} (hh : HeaderOk hl)
    (hf : FooterOk fl) (pucDer : List UInt8) :
    lines [] (shown (hl :: (pemLines text pucDer ++ [fl]))) =
      hl :: (pemLines text pucDer ++ [fl]) := by
  have hhl := hh.le
  have hfl := hf.le
  rw [shown, List.flatMap_cons, List.flatMap_append]
  rw [lines_line hh.typed (List.length_pos_iff.1 hh.pos) (by rw [CLI_INPUT_LINE_LEN_MAX]; omega)]
  have hfooter := lines_line hf.typed (List.length_pos_iff.1 hf.pos)
    (by rw [CLI_INPUT_LINE_LEN_MAX]; omega) []
  have hbody := lines_body hb pucDer (shown [fl])
  rw [show shown [fl] = fl ++ [CR, LF] ++ [] by simp [shown], hfooter] at hbody
  simpa [shown, lines] using hbody

/-- Encoder and decoder over the base64 of `Lib.Base64`, with the error codes of
`mbedtls/base64.h`. -/
def standardBase64 : MbedtlsBase64 where
  mbedtls_base64_encode dst src :=
    let chars := Base64.encode src
    if dst.length < chars.length + 1 then (-0x2A, chars.length + 1, dst)
    else (0, chars.length, blit dst 0 (chars ++ [0]))
  mbedtls_base64_decode dst src :=
    match Base64.decode src with
    | none => (-0x2C, 0, dst)
    | some bytes =>
      if dst.length < bytes.length then (-0x2A, bytes.length, dst)
      else (0, bytes.length, blit dst 0 bytes)

theorem standardBase64_documented : standardBase64.Documented Base64.encode where
  text_length := Base64.encode_length
  text_chars := fun _ _ hc => Base64.encode_mem hc
  encode := by
    intro dst src h
    refine ⟨_, if_neg (by omega), blit_length (by simp; omega), ?_⟩
    rw [blit_zero, List.append_assoc]
    exact List.prefix_append _ _
  decode := by
    intro dst src h
    refine ⟨blit dst 0 src, ?_, blit_length (by omega), ?_⟩
    · show (match Base64.decode (Base64.encode src) with
        | none => ((-0x2C : Int), 0, dst)
        | some bytes =>
          if dst.length < bytes.length then (-0x2A, bytes.length, dst)
          else (0, bytes.length, blit dst 0 bytes)) = _
      rw [Base64.decode_encode]
      exact if_neg (by omega)
    · rw [blit_zero]
      exact List.prefix_append _ _

/-- **A shown object reads back**: the lines that `vPrintDer` shows make `xReadPemFromCliAsDer`
return the object and its length, with no check failing on the way. -/
theorem pem_round_trip (hb : b.Documented text) {mbedtls_calloc : Nat → Nat → Option (List UInt8)}
    {zeros : List UInt8} (hcalloc : mbedtls_calloc 1 PEM_CERT_MAX_LEN = some zeros)
    (hzeros : zeros.length = PEM_CERT_MAX_LEN) {pcHeader pcFooter : List UInt8}
    (hframe : (pcHeader, pcFooter) ∈ pemFrames) (pucDer : List UInt8)
    (hder : pucDer.length ≤ 2013) (con : Console) : ∃ pem buf,
    (vPrintDer b con pcHeader pcFooter pucDer).out = con.out ++ pem ∧
    xReadPemFromCliAsDer b mbedtls_calloc ((lines [] pem).map .ofConsole) =
      some ⟨true, some (buf, pucDer.length), [], []⟩ ∧
    buf.take pucDer.length = pucDer := by
  obtain ⟨hl, fl, rfl, rfl, hh, hf⟩ := pemFrames_ok hframe
  obtain ⟨r, hread, hr, hprinted⟩ := readPemLine_header (b := b) hh hzeros
  obtain ⟨buf, hloop, hbuf⟩ := readPemLoop_body hb hf pucDer hr (fun _ => rfl)
    (by simpa using hder)
  rw [List.nil_append] at hloop hbuf
  refine ⟨_, buf, vPrintDer_out hb hh hf pucDer con, ?_, hbuf⟩
  rw [lines_pem hb hh hf, xReadPemFromCliAsDer, hcalloc, List.map_cons]
  rw [hprinted] at hloop
  dsimp only
  rw [readPemLoop, if_pos ⟨(by decide : 0 < PEM_CERT_MAX_LEN), rfl⟩]
  simp only [hread, hr.good, Bool.false_eq_true, if_false]
  exact hloop

/-- The round trip of a hundred bytes in a certificate frame. -/
theorem pem_round_trip_certificate : ∃ pem buf,
    (vPrintDer standardBase64 ⟨[], []⟩ (ascii "-----BEGIN CERTIFICATE-----\r\n")
      (ascii "-----END CERTIFICATE-----\r\n") (List.replicate 100 7)).out = [] ++ pem ∧
    xReadPemFromCliAsDer standardBase64 (fun n size => some (List.replicate (n * size) 0))
        ((lines [] pem).map .ofConsole) =
      some ⟨true, some (buf, (List.replicate 100 (7 : UInt8)).length), [], []⟩ ∧
    buf.take (List.replicate 100 (7 : UInt8)).length = List.replicate 100 7 :=
  pem_round_trip standardBase64_documented rfl (List.length_replicate ..)
    (by simp [pemFrames]) (List.replicate 100 7) (by rw [List.length_replicate]; omega) ⟨[], []⟩

end Cli
