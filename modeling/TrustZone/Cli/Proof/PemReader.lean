import TrustZone.Cli.Proof.Pem
import TrustZone.Cli.Proof.Strings

/-!
# What `xReadPemFromCliAsDer` accepts

The reader over every stream of lines. What the base64 decoder accepts is a parameter (`dec`).

* `headerLine`, `bodyLine`, `footerLine`, `fullLine`, `badLine`: the five things that one line can do.
* `readPemLoop_lines`: so a body is read line by line.
* `readZeros_outcome`: the reader accepts a text (`PemText`), refuses, waits for more lines (`Waits`) or
  fails its assertion (`Fills`).
-/

namespace Cli

open Lib

/-- What `mbedtls/base64.h` promises of the decoder: for a valid text it needs room for `need src` bytes
and stores the bytes `dec src`, without that room or for an invalid text it returns an error. -/
structure MbedtlsBase64.Decodes (b : MbedtlsBase64) (dec : List UInt8 → Option (List UInt8))
    (need : List UInt8 → Nat) : Prop where
  valid : ∀ dst src d, dec src = some d → need src ≤ dst.length → ∃ dst',
    b.mbedtls_base64_decode dst src = (0, d.length, dst') ∧ dst'.length = dst.length ∧ d <+: dst'
  refused : ∀ dst src, (∀ d, dec src = some d → dst.length < need src) →
    (b.mbedtls_base64_decode dst src).1 ≠ 0
  length_le : ∀ src d, dec src = some d → d.length ≤ need src
  need_le : ∀ src d, dec src = some d → need src ≤ src.length

/-! ## PEM texts -/

/-- The line starts with `start` and has the five dashes behind it, as a C string. -/
def Framed (start l : List UInt8) : Prop :=
  start <+: l ∧ PEM_META_SUFFIX <:+: cstr (l.drop start.length)

/-- A line between header and footer that is read as the bytes `d` when there are `done` bytes. -/
structure BodyLine (dec : List UInt8 → Option (List UInt8)) (done : Nat) (l d : List UInt8) : Prop where
  nonempty : l ≠ []
  short : l.length ≤ 64
  room : done + l.length + 1 < PEM_CERT_MAX_LEN
  notFooter : ¬PEM_END <+: l
  valid : dec l = some d

/-- The lines of a body that is read as `data` when there are `done` bytes. -/
inductive Body (dec : List UInt8 → Option (List UInt8)) : Nat → List (List UInt8) → List UInt8 → Prop
  | nil (done : Nat) : Body dec done [] []
  | cons {done : Nat} {l d : List UInt8} {ls : List (List UInt8)} {data : List UInt8}
    (hl : BodyLine dec done l d) (hls : Body dec (done + d.length) ls data) :
    Body dec done (l :: ls) (d ++ data)

/-- A header, at the start of the text. -/
structure Header (l : List UInt8) : Prop where
  framed : Framed PEM_BEGIN l
  short : l.length ≤ 64

/-- A footer, when there are `done` bytes. -/
structure Footer (done : Nat) (l : List UInt8) : Prop where
  framed : Framed PEM_END l
  short : l.length ≤ 64
  room : done + l.length + 1 < PEM_CERT_MAX_LEN

/-- A line that fills the buffer to its last byte when there are `done` bytes. -/
def FullLine (dec : List UInt8 → Option (List UInt8)) (need : List UInt8 → Nat) (done : Nat)
    (l : List UInt8) : Prop :=
  ∃ d, dec l = some d ∧ done + need l ≤ PEM_CERT_MAX_LEN ∧ done + d.length = PEM_CERT_MAX_LEN

variable {b : MbedtlsBase64} {dec : List UInt8 → Option (List UInt8)} {need : List UInt8 → Nat}
  {r r' : PemReader} {done l d data : List UInt8} {ls : List (List UInt8)} {n : Nat}

/-! ## One line -/

theorem framed_found {start : List UInt8} (h : start <+: l) (hl : l.length ≤ 64) :
    (strnstr (l.drop start.length) PEM_META_SUFFIX (sizeSub l.length start.length)).isSome ↔
      Framed start l := by
  have hle := h.length_le
  have hsub : sizeSub l.length start.length = (l.drop start.length).length := by
    rw [List.length_drop, sizeSub]
    omega
  rw [strnstr_isSome (by decide) (by decide), hsub, List.take_of_length_le (cstr_start _).length_le]
  exact ⟨fun hs => ⟨h, hs⟩, fun hf => hf.2⟩

/-- A decoded line in an accepted state. -/
theorem decodeLine_valid (hb : b.Decodes dec need) (hopen : r.xBeginFound = true ∧ r.xEndFound = false)
    (hsize : r.pucDerBuffer.length = PEM_CERT_MAX_LEN) (hd : dec l = some d)
    (hroom : r.uxDerDataLen + need l ≤ PEM_CERT_MAX_LEN) :
    ∃ dst, dst.length = PEM_CERT_MAX_LEN - r.uxDerDataLen ∧ d <+: dst ∧
      decodeLine b r l l.length =
        if r.uxDerDataLen + d.length < PEM_CERT_MAX_LEN then
          some { r with
            uxDerDataLen := r.uxDerDataLen + d.length
            pucDerBuffer := blit r.pucDerBuffer r.uxDerDataLen dst }
        else none := by
  obtain ⟨dst, hdec, hdst, hstart⟩ := hb.valid (r.pucDerBuffer.drop r.uxDerDataLen) l d hd (by
    rw [List.length_drop, hsize]
    omega)
  refine ⟨dst, by rw [hdst, List.length_drop, hsize], hstart, ?_⟩
  simp only [decodeLine, if_pos hopen, List.take_length, hdec, if_true]

theorem decodeLine_refused (hb : b.Decodes dec need) (hopen : r.xBeginFound = true ∧ r.xEndFound = false)
    (hsize : r.pucDerBuffer.length = PEM_CERT_MAX_LEN) (hlt : r.uxDerDataLen < PEM_CERT_MAX_LEN)
    (hno : ∀ d, dec l = some d → PEM_CERT_MAX_LEN < r.uxDerDataLen + need l) :
    ∃ r', decodeLine b r l l.length = some r' ∧ r'.xErrorFlag = true := by
  have href := hb.refused (r.pucDerBuffer.drop r.uxDerDataLen) l fun d hd => by
    have := hno d hd
    rw [List.length_drop, hsize]
    omega
  simp only [decodeLine, if_pos hopen, List.take_length, if_neg href]
  exact ⟨_, rfl, rfl⟩

/-- A line that comes with an error is decoded all the same. -/
theorem decodeLine_error (hb : b.Decodes dec need) (hopen : r.xBeginFound = true ∧ r.xEndFound = false)
    (hsize : r.pucDerBuffer.length = PEM_CERT_MAX_LEN) (hlt : r.uxDerDataLen < PEM_CERT_MAX_LEN)
    (herror : r.xErrorFlag = true) (hfull : ¬FullLine dec need r.uxDerDataLen l) :
    ∃ r', decodeLine b r l l.length = some r' ∧ r'.xErrorFlag = true := by
  by_cases hfits : ∃ d, dec l = some d ∧ r.uxDerDataLen + need l ≤ PEM_CERT_MAX_LEN
  · obtain ⟨d, hd, hroom⟩ := hfits
    have hle := hb.length_le l d hd
    have hne : r.uxDerDataLen + d.length ≠ PEM_CERT_MAX_LEN := fun h => hfull ⟨d, hd, hroom, h⟩
    obtain ⟨dst, -, -, hdec⟩ := decodeLine_valid hb hopen hsize hd hroom
    rw [hdec, if_pos (by omega)]
    exact ⟨_, rfl, herror⟩
  · refine decodeLine_refused hb hopen hsize hlt fun d hd => ?_
    have hge := not_and.1 (not_exists.1 hfits d) hd
    omega

/-- Before the header nothing is decoded. -/
theorem decodeLine_closed (hclosed : r.xBeginFound = false) :
    decodeLine b r l n = some r := by
  simp [decodeLine, hclosed]

theorem end_noNul : 0 ∉ PEM_END := by decide

/-- **A line of the body** is decoded behind what was read so far. -/
theorem bodyLine (hb : b.Decodes dec need) (hr : Reading r done) (hl : BodyLine dec done.length l d) :
    ∃ r', readPemLine b r (.ofConsole l) = some r' ∧ Reading r' (done ++ d) ∧
      r'.printed = r.printed := by
  have hpos := List.length_pos_iff.2 hl.nonempty
  have hshort := hl.short
  have hroom := hl.room
  have hle := hb.length_le l d hl.valid
  have hneed := hb.need_le l d hl.valid
  have hsize := hr.size
  have hlen := hr.len
  obtain ⟨dst, hdst, hstart, hdec⟩ := decodeLine_valid hb ⟨hr.begun, hr.open_⟩ hr.size hl.valid (by omega)
  rw [if_pos (by omega)] at hdec
  refine ⟨{ r with
    uxDerDataLen := r.uxDerDataLen + d.length
    pucDerBuffer := blit r.pucDerBuffer r.uxDerDataLen dst }, ?_,
    ⟨hr.begun, hr.open_, hr.good, ?_, ?_, ?_⟩, rfl⟩
  rotate_left
  · show r.uxDerDataLen + d.length = (done ++ d).length
    rw [hlen, List.length_append]
  · show (blit r.pucDerBuffer r.uxDerDataLen dst).length = PEM_CERT_MAX_LEN
    rw [blit_length (by omega), hsize]
  · show (blit r.pucDerBuffer r.uxDerDataLen dst).take (done ++ d).length = done ++ d
    rw [List.length_append, hlen, take_blit (by omega) hstart.length_le, hr.data,
      ← List.prefix_iff_eq_take.1 hstart]
  · have h1 : ¬(64 : Int) < l.length := by omega
    have h2 : ¬PEM_CERT_MAX_LEN ≤ r.uxDerDataLen + l.length + PEM_LINE_ENDING_LEN := by
      rw [PEM_LINE_ENDING_LEN]
      omega
    have h3 : (0 : Int) < l.length := by omega
    have h4 : ¬strncmpEq PEM_END l PEM_END.length = true := by
      rw [strncmpEq_iff end_noNul]
      exact hl.notFooter
    simp only [readPemLine, Line.ofConsole, Int.toNat_natCast, h3, h1, h2, if_true, if_false, and_false,
      hr.begun, Bool.true_eq_false, hr.open_, checkFooter, if_neg h4, hdec]

/-- **A footer** ends the text. -/
theorem footerLine (hr : Reading r done) (hl : Footer done.length l) :
    readPemLine b r (.ofConsole l) = some { r with xEndFound := true } := by
  have hshort := hl.short
  have hroom := hl.room
  have hlen := hr.len
  have hpos : PEM_END.length ≤ l.length := hl.framed.1.length_le
  have h9 : PEM_END.length = 9 := by decide
  have h1 : ¬(64 : Int) < l.length := by omega
  have h2 : ¬PEM_CERT_MAX_LEN ≤ r.uxDerDataLen + l.length + PEM_LINE_ENDING_LEN := by
    rw [PEM_LINE_ENDING_LEN]
    omega
  have h3 : (0 : Int) < l.length := by omega
  have h4 : strncmpEq PEM_END l PEM_END.length = true := (strncmpEq_iff end_noNul).2 hl.framed.1
  obtain ⟨pcLabelEnd, h5⟩ := Option.isSome_iff_exists.1
    ((framed_found hl.framed.1 hshort).2 hl.framed)
  simp only [readPemLine, Line.ofConsole, Int.toNat_natCast, h3, h1, h2, if_true, if_false, and_false,
    hr.begun, Bool.true_eq_false, hr.open_, checkFooter, h4, h5, decodeLine]

/-- **A line that fills the buffer** fails the assertion. -/
theorem fullLine (hb : b.Decodes dec need) (hr : Reading r done) (hlt : done.length < PEM_CERT_MAX_LEN)
    (hfull : FullLine dec need done.length l) : readPemLine b r (.ofConsole l) = none := by
  obtain ⟨d, hd, hroom, hfull⟩ := hfull
  have hlen := hr.len
  have hle := hb.length_le l d hd
  have hneed := hb.need_le l d hd
  have hnone : ∀ msg, decodeLine b (r.error msg) l l.length = none := by
    intro msg
    obtain ⟨dst, -, -, hdec⟩ := @decodeLine_valid b dec need (r.error msg) l d hb ⟨hr.begun, hr.open_⟩
      hr.size hd (by show r.uxDerDataLen + need l ≤ _; omega)
    rw [hdec, if_neg (by show ¬r.uxDerDataLen + d.length < _; omega)]
  have h3 : (0 : Int) < l.length := by omega
  by_cases h1 : (64 : Int) < l.length
  · simp only [readPemLine, Line.ofConsole, Int.toNat_natCast, h3, h1, if_true, hnone]
  · have h2 : PEM_CERT_MAX_LEN ≤ r.uxDerDataLen + l.length + PEM_LINE_ENDING_LEN := by omega
    have h4 : 0 < l.length := by omega
    simp only [readPemLine, Line.ofConsole, Int.toNat_natCast, h3, h1, if_true, if_false, hr.good, h2,
      h4, and_self, hnone]

/-- **Every other line** is an error. -/
theorem badLine (hb : b.Decodes dec need) (hr : Reading r done) (hlt : done.length < PEM_CERT_MAX_LEN)
    (hbody : ∀ d, ¬BodyLine dec done.length l d) (hfooter : ¬Footer done.length l)
    (hfull : ¬FullLine dec need done.length l) :
    ∃ r', readPemLine b r (.ofConsole l) = some r' ∧ r'.xErrorFlag = true := by
  have hlen := hr.len
  have herror : ∀ msg, ∃ r', decodeLine b (r.error msg) l l.length = some r' ∧ r'.xErrorFlag = true := by
    intro msg
    exact decodeLine_error hb ⟨hr.begun, hr.open_⟩ hr.size (by show r.uxDerDataLen < _; omega) rfl
      (by rw [← hlen] at hfull; exact hfull)
  by_cases hpos : l = []
  · rw [hpos]
    exact ⟨_, rfl, rfl⟩
  · have h4 := List.length_pos_iff.2 hpos
    have h3 : (0 : Int) < l.length := by omega
    by_cases h1 : (64 : Int) < l.length
    · simp only [readPemLine, Line.ofConsole, Int.toNat_natCast, h3, h1, if_true]
      exact herror _
    · by_cases h2 : PEM_CERT_MAX_LEN ≤ r.uxDerDataLen + l.length + PEM_LINE_ENDING_LEN
      · simp only [readPemLine, Line.ofConsole, Int.toNat_natCast, h3, h1, if_true, if_false, hr.good, h2,
          h4, and_self]
        exact herror _
      · have hshort : l.length ≤ 64 := by omega
        have hroom : done.length + l.length + 1 < PEM_CERT_MAX_LEN := by
          rw [PEM_LINE_ENDING_LEN] at h2
          omega
        simp only [readPemLine, Line.ofConsole, Int.toNat_natCast, h3, h1, h2, if_true, if_false,
          and_false, hr.begun, Bool.true_eq_false, hr.open_, checkFooter]
        by_cases hend : PEM_END <+: l
        · -- a footer without its ending
          rw [if_pos ((strncmpEq_iff end_noNul).2 hend)]
          have hno : ¬(strnstr (l.drop PEM_END.length) PEM_META_SUFFIX
              (sizeSub l.length PEM_END.length)).isSome := fun hs =>
            hfooter ⟨(framed_found hend hshort).1 hs, hshort, hroom⟩
          rw [Option.not_isSome_iff_eq_none] at hno
          simp only [hno]
          exact herror _
        · rw [if_neg (fun hc => hend ((strncmpEq_iff end_noNul).1 hc))]
          refine decodeLine_refused hb ⟨hr.begun, hr.open_⟩ hr.size (by omega) fun d hd => ?_
          exact absurd ⟨hpos, hshort, hroom, hend, hd⟩ (hbody d)

/-! ## The loop -/

theorem Reading.loops (hr : Reading r done) (hlt : done.length < PEM_CERT_MAX_LEN) :
    r.uxDerDataLen < PEM_CERT_MAX_LEN ∧ r.xEndFound = false :=
  ⟨by rw [hr.len]; exact hlt, hr.open_⟩

/-- A body is read line by line. -/
theorem readPemLoop_lines (hb : b.Decodes dec need) (hbody : Body dec n ls data) {done : List UInt8}
    (hn : done.length = n) (hr : Reading r done) (hlt : done.length < PEM_CERT_MAX_LEN)
    (rest : List Line) : ∃ r', Reading r' (done ++ data) ∧ (done ++ data).length < PEM_CERT_MAX_LEN ∧
      readPemLoop b r (ls.map .ofConsole ++ rest) = readPemLoop b r' rest := by
  induction hbody generalizing r done with
  | nil n => exact ⟨r, by rwa [List.append_nil], by rwa [List.append_nil], rfl⟩
  | @cons n l d ls data hl _ ih =>
    subst hn
    obtain ⟨r₁, hstep, hr₁, -⟩ := bodyLine hb hr hl
    have hle := (hb.length_le l d hl.valid).trans (hb.need_le l d hl.valid)
    have hroom := hl.room
    obtain ⟨r', hr', hlt', hrest⟩ := ih (by rw [List.length_append]) hr₁
      (by rw [List.length_append]; omega)
    rw [List.append_assoc] at hr' hlt'
    refine ⟨r', hr', hlt', ?_⟩
    rw [List.map_cons, List.cons_append, readPemLoop, if_pos (hr.loops hlt)]
    simp only [hstep, hr₁.good, Bool.false_eq_true, if_false]
    exact hrest

theorem readPemLoop_footer (hr : Reading r done) (hlt : done.length < PEM_CERT_MAX_LEN)
    (hl : Footer done.length l) (rest : List Line) :
    readPemLoop b r (.ofConsole l :: rest) =
      some ⟨true, some (r.pucDerBuffer, done.length), r.printed, rest⟩ := by
  rw [readPemLoop, if_pos (hr.loops hlt)]
  simp only [footerLine hr hl, hr.good, Bool.false_eq_true, if_false]
  rw [readPemLoop.eq_def, if_neg (by simp)]
  simp only [hr.len, Bool.not_false]

theorem readPemLoop_full (hb : b.Decodes dec need) (hr : Reading r done)
    (hlt : done.length < PEM_CERT_MAX_LEN) (hfull : FullLine dec need done.length l)
    (rest : List Line) : readPemLoop b r (.ofConsole l :: rest) = none := by
  rw [readPemLoop, if_pos (hr.loops hlt)]
  simp only [fullLine hb hr hlt hfull]

theorem readPemLoop_bad (hb : b.Decodes dec need) (hr : Reading r done)
    (hlt : done.length < PEM_CERT_MAX_LEN) (hbody : ∀ d, ¬BodyLine dec done.length l d)
    (hfooter : ¬Footer done.length l) (hfull : ¬FullLine dec need done.length l)
    (rest : List Line) :
    ∃ printed, readPemLoop b r (.ofConsole l :: rest) = some ⟨false, none, printed, rest⟩ := by
  obtain ⟨r', hstep, herror⟩ := badLine hb hr hlt hbody hfooter hfull
  rw [readPemLoop, if_pos (hr.loops hlt)]
  simp only [hstep, herror, if_true]
  exact ⟨_, rfl⟩

theorem readPemLoop_waits (hr : Reading r done) (hlt : done.length < PEM_CERT_MAX_LEN) :
    readPemLoop b r [] = none := by
  rw [readPemLoop, if_pos (hr.loops hlt)]

/-- The longest body at the start of some lines. -/
theorem Body.split (dec : List UInt8 → Option (List UInt8)) (n : Nat) (ls : List (List UInt8)) :
    ∃ body rest data, ls = body ++ rest ∧ Body dec n body data ∧
      ∀ l rest', rest = l :: rest' → ∀ d, ¬BodyLine dec (n + data.length) l d := by
  induction ls generalizing n with
  | nil => exact ⟨[], [], [], rfl, .nil n, nofun⟩
  | cons l ls ih =>
    by_cases hl : ∃ d, BodyLine dec n l d
    · obtain ⟨d, hl⟩ := hl
      obtain ⟨body, rest, data, rfl, hbody, hstop⟩ := ih (n + d.length)
      refine ⟨l :: body, rest, d ++ data, rfl, .cons hl hbody, ?_⟩
      rwa [List.length_append, ← Nat.add_assoc]
    · refine ⟨[], l :: ls, [], rfl, .nil n, ?_⟩
      rintro _ _ heq d hd
      obtain ⟨rfl, -⟩ := List.cons_eq_cons.1 heq
      exact hl ⟨d, hd⟩

/-! ## The header -/

/-- The reader before the first line. -/
def PemReader.start (pucDerBuffer : List UInt8) : PemReader := ⟨0, false, false, false, pucDerBuffer, []⟩

theorem begin_noNul : 0 ∉ PEM_BEGIN := by decide

theorem headerLine {zeros : List UInt8} (hz : zeros.length = PEM_CERT_MAX_LEN) (hl : Header l) :
    ∃ r', readPemLine b (.start zeros) (.ofConsole l) = some r' ∧ Reading r' [] := by
  have hshort := hl.short
  have hpos : PEM_BEGIN.length ≤ l.length := hl.framed.1.length_le
  have h11 : PEM_BEGIN.length = 11 := by decide
  have h1 : ¬(64 : Int) < l.length := by omega
  have h2 : ¬PEM_CERT_MAX_LEN ≤ 0 + l.length + PEM_LINE_ENDING_LEN := by
    rw [PEM_CERT_MAX_LEN, PEM_LINE_ENDING_LEN]
    omega
  have h3 : (0 : Int) < l.length := by omega
  have h4 : strncmpEq PEM_BEGIN l PEM_BEGIN.length = true := (strncmpEq_iff begin_noNul).2 hl.framed.1
  obtain ⟨pcLabelEnd, h5⟩ := Option.isSome_iff_exists.1 ((framed_found hl.framed.1 hshort).2 hl.framed)
  refine ⟨⟨0, true, false, false, zeros, []⟩, ?_, ⟨rfl, rfl, rfl, rfl, hz, rfl⟩⟩
  simp only [readPemLine, PemReader.start, Line.ofConsole, Int.toNat_natCast, h3, h1, h2, if_true,
    if_false, and_false, h4, h5]

/-- Without a header there is an error, and nothing is decoded. -/
theorem noHeader {zeros : List UInt8} (hl : ¬Header l) :
    ∃ r', readPemLine b (.start zeros) (.ofConsole l) = some r' ∧ r'.xErrorFlag = true := by
  have hclosed : ∀ msg, decodeLine b ((PemReader.start zeros).error msg) l l.length =
      some ((PemReader.start zeros).error msg) := fun msg => decodeLine_closed rfl
  by_cases hpos : l = []
  · rw [hpos]
    exact ⟨_, rfl, rfl⟩
  · have h4 := List.length_pos_iff.2 hpos
    have h3 : (0 : Int) < l.length := by omega
    by_cases h1 : (64 : Int) < l.length
    · simp only [readPemLine, Line.ofConsole, Int.toNat_natCast, h3, h1, if_true, hclosed]
      exact ⟨_, rfl, rfl⟩
    · have h2 : ¬PEM_CERT_MAX_LEN ≤ (PemReader.start zeros).uxDerDataLen + l.length +
          PEM_LINE_ENDING_LEN := by
        show ¬PEM_CERT_MAX_LEN ≤ 0 + l.length + PEM_LINE_ENDING_LEN
        rw [PEM_CERT_MAX_LEN, PEM_LINE_ENDING_LEN]
        omega
      simp only [readPemLine, Line.ofConsole, Int.toNat_natCast, h3, h1, h2, if_true, if_false, and_false,
        hclosed]
      rw [if_pos (show (PemReader.start zeros).xBeginFound = false from rfl)]
      by_cases hbegin : PEM_BEGIN <+: l
      · rw [if_pos ((strncmpEq_iff begin_noNul).2 hbegin)]
        have hno : ¬(strnstr (l.drop PEM_BEGIN.length) PEM_META_SUFFIX
            (sizeSub l.length PEM_BEGIN.length)).isSome := fun hs =>
          hl ⟨(framed_found hbegin (by omega)).1 hs, by omega⟩
        rw [Option.not_isSome_iff_eq_none] at hno
        simp only [hno]
        exact ⟨_, rfl, rfl⟩
      · rw [if_neg (fun hc => hbegin ((strncmpEq_iff begin_noNul).1 hc))]
        exact ⟨_, rfl, rfl⟩

/-! ## The whole text -/

/-- The lines are a header and the lines of a body, or there are none. -/
def Waits (dec : List UInt8 → Option (List UInt8)) (ls : List (List UInt8)) : Prop :=
  ls = [] ∨ ∃ hd body data, ls = hd :: body ∧ Header hd ∧ Body dec 0 body data

/-- The lines start with a header, a body that is read as `data`, and a footer. -/
def PemText (dec : List UInt8 → Option (List UInt8)) (ls : List (List UInt8)) (data : List UInt8)
    (rest : List (List UInt8)) : Prop :=
  ∃ hd body ft, ls = hd :: (body ++ ft :: rest) ∧ Header hd ∧ Body dec 0 body data ∧
    Footer data.length ft

/-- Behind a header and a body there is a line that fills the buffer to its last byte. -/
def Fills (dec : List UInt8 → Option (List UInt8)) (need : List UInt8 → Nat)
    (ls : List (List UInt8)) : Prop :=
  ∃ hd body l rest data, ls = hd :: (body ++ l :: rest) ∧ Header hd ∧ Body dec 0 body data ∧
    FullLine dec need data.length l

/-- What the reader does, with a buffer of the right size. -/
inductive PemOutcome (dec : List UInt8 → Option (List UInt8)) (need : List UInt8 → Nat)
    (ls : List (List UInt8)) : Option PemResult → Prop
  | waits (h : Waits dec ls) : PemOutcome dec need ls none
  | fills (h : Fills dec need ls) : PemOutcome dec need ls none
  | refused (printed : List UInt8) (rest : List Line) :
    PemOutcome dec need ls (some ⟨false, none, printed, rest⟩)
  | accepted {data : List UInt8} {rest : List (List UInt8)} (h : PemText dec ls data rest)
    (buf printed : List UInt8) (hbuf : buf.length = PEM_CERT_MAX_LEN) (hdata : data <+: buf) :
    PemOutcome dec need ls (some ⟨true, some (buf, data.length), printed, rest.map .ofConsole⟩)

/-- The buffer that `mbedtls_calloc` gives out. -/
def zeros : List UInt8 := List.replicate (1 * PEM_CERT_MAX_LEN) 0

theorem zeros_length : zeros.length = PEM_CERT_MAX_LEN := by
  rw [zeros, List.length_replicate, Nat.one_mul]

/-- The reader with that buffer. -/
def readZeros (b : MbedtlsBase64) (ls : List (List UInt8)) : Option PemResult :=
  xReadPemFromCliAsDer b (fun n size => some (List.replicate (n * size) 0)) (ls.map .ofConsole)

theorem readZeros_cons (b : MbedtlsBase64) (hd : List UInt8) (ls : List (List UInt8)) :
    readZeros b (hd :: ls) =
      match readPemLine b (.start zeros) (.ofConsole hd) with
      | none => none
      | some r => if r.xErrorFlag then some ⟨false, none, r.printed, ls.map .ofConsole⟩
        else readPemLoop b r (ls.map .ofConsole) := by
  show readPemLoop b (.start zeros) _ = _
  rw [List.map_cons, readPemLoop]
  exact if_pos ⟨show 0 < PEM_CERT_MAX_LEN by decide, rfl⟩

/-- Behind a header the loop goes on with nothing read. -/
theorem readZeros_header (b : MbedtlsBase64) {hd : List UInt8} (hh : Header hd) (ls : List (List UInt8)) :
    ∃ r, Reading r [] ∧ readZeros b (hd :: ls) = readPemLoop b r (ls.map .ofConsole) := by
  obtain ⟨r, hstep, hr⟩ := @headerLine b hd zeros zeros_length hh
  refine ⟨r, hr, ?_⟩
  rw [readZeros_cons]
  simp only [hstep, hr.good, Bool.false_eq_true, if_false]

theorem readZeros_outcome (hb : b.Decodes dec need) (ls : List (List UInt8)) :
    PemOutcome dec need ls (readZeros b ls) := by
  cases ls with
  | nil => exact .waits (.inl rfl)
  | cons hd ls =>
    by_cases hh : Header hd
    · obtain ⟨r, hr, heq⟩ := readZeros_header b hh ls
      obtain ⟨body, rest, data, rfl, hbody, hstop⟩ := Body.split dec 0 ls
      obtain ⟨r', hr', hlt, hloop⟩ := readPemLoop_lines hb hbody rfl hr (by decide) (rest.map .ofConsole)
      rw [List.nil_append] at hr' hlt
      rw [heq, List.map_append, hloop]
      cases rest with
      | nil =>
        rw [List.append_nil, List.map_nil, readPemLoop_waits hr' hlt]
        exact .waits (.inr ⟨hd, body, data, rfl, hh, hbody⟩)
      | cons l rest =>
        rw [List.map_cons]
        have hno := hstop l rest rfl
        rw [Nat.zero_add] at hno
        by_cases hfull : FullLine dec need data.length l
        · rw [readPemLoop_full hb hr' hlt hfull]
          exact .fills ⟨hd, body, l, rest, data, rfl, hh, hbody, hfull⟩
        · by_cases hfooter : Footer data.length l
          · rw [readPemLoop_footer hr' hlt hfooter]
            refine .accepted ⟨hd, body, l, rfl, hh, hbody, hfooter⟩ _ _ hr'.size ?_
            have hdata := hr'.data
            exact hdata ▸ List.take_prefix _ _
          · obtain ⟨printed, hbad⟩ := readPemLoop_bad hb hr' hlt hno hfooter hfull (rest.map .ofConsole)
            rw [hbad]
            exact .refused _ _
    · obtain ⟨r, hstep, herror⟩ := @noHeader b hd zeros hh
      rw [readZeros_cons]
      simp only [hstep, herror, if_true]
      exact .refused _ _

end Cli
