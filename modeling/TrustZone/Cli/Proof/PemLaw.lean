import TrustZone.Cli.Proof.PemReader

/-!
# What the caller of `xReadPemFromCliAsDer` gets

* `readPemOnHeap_none`, `readPemOnHeap_refused`, `readPemOnHeap_accepted`: the buffer is handed out or
  freed.
* `readZeros_text`, `readZeros_fills`: the texts whose outcome is known from their lines.
* `PemLaw`: `pdTRUE` comes with the contents of a PEM text, `pdFALSE` with nothing.
* `pem_reader_iff`: it holds unless a text has no contents, or a line fills the buffer to its last
  byte.
-/

namespace Cli

open Lib

variable {b : MbedtlsBase64} {dec : List UInt8 → Option (List UInt8)} {need : List UInt8 → Nat}
  {al : Allocator} {h : Heap} {l d data : List UInt8} {ls : List (List UInt8)} {n : Nat}

/-! ## The buffer -/

/-- The heap when the buffer is given out. -/
def heapWithBuffer (al : Allocator) (h : Heap) : Heap :=
  ⟨h.next + 1, Function.update h.mem h.next (some (slice (al.junk h.next) 0 (1 * PEM_CERT_MAX_LEN)))⟩

theorem malloc_buffer (hal : al.avail h.next (1 * PEM_CERT_MAX_LEN) = true) :
    h.malloc al (1 * PEM_CERT_MAX_LEN) = (some h.next, heapWithBuffer al h) := by
  simp only [Heap.malloc, hal, if_true, heapWithBuffer]

theorem heapWithBuffer_mem (al : Allocator) (h : Heap) : (heapWithBuffer al h).mem h.next =
    some (slice (al.junk h.next) 0 (1 * PEM_CERT_MAX_LEN)) := Function.update_self ..

theorem readPemOnHeap_none (hal : al.avail h.next (1 * PEM_CERT_MAX_LEN) = true)
    (hr : readZeros b ls = none) : readPemOnHeap b al h (ls.map .ofConsole) = none := by
  rw [readZeros] at hr
  simp only [readPemOnHeap, malloc_buffer hal, hr]

/-- The buffer is freed. -/
theorem readPemOnHeap_refused (hw : h.Wf) (hal : al.avail h.next (1 * PEM_CERT_MAX_LEN) = true)
    {printed : List UInt8} {rest : List Line} (hr : readZeros b ls = some ⟨false, none, printed, rest⟩) :
    ∃ h', readPemOnHeap b al h (ls.map .ofConsole) = some ⟨false, none, h', rest⟩ ∧ h'.mem = h.mem := by
  rw [readZeros] at hr
  have hfree := Heap.free_eq (heapWithBuffer_mem al h)
  refine ⟨⟨h.next + 1, Function.update (heapWithBuffer al h).mem h.next none⟩, ?_, ?_⟩
  · simp only [readPemOnHeap, malloc_buffer hal, hr, hfree]
    rfl
  · show Function.update (Function.update h.mem h.next _) h.next none = h.mem
    rw [Function.update_idem, ← hw h.next (Nat.le_refl _), Function.update_eq_self]

/-- The buffer is handed out. -/
theorem readPemOnHeap_accepted (hal : al.avail h.next (1 * PEM_CERT_MAX_LEN) = true)
    {buf printed : List UInt8} {n : Nat} {rest : List Line} (hbuf : buf.length = PEM_CERT_MAX_LEN)
    (hr : readZeros b ls = some ⟨true, some (buf, n), printed, rest⟩) :
    ∃ h', readPemOnHeap b al h (ls.map .ofConsole) = some ⟨true, some (h.next, n), h', rest⟩ ∧
      h'.mem h.next = some buf := by
  rw [readZeros] at hr
  have hlen : (slice (al.junk h.next) 0 (1 * PEM_CERT_MAX_LEN)).length = buf.length := by
    rw [slice_length, hbuf, Nat.one_mul]
  have hblit : blit (slice (al.junk h.next) 0 (1 * PEM_CERT_MAX_LEN)) 0 buf = buf := by
    rw [blit_zero, List.drop_of_length_le (Nat.le_of_eq hlen), List.append_nil]
  have hwrite := Heap.write_eq (heapWithBuffer_mem al h) (Nat.le_of_eq hlen.symm)
  rw [hblit] at hwrite
  refine ⟨⟨h.next + 1, Function.update (heapWithBuffer al h).mem h.next (some buf)⟩, ?_, ?_⟩
  · simp only [readPemOnHeap, malloc_buffer hal, hr, hwrite]
    rfl
  · exact Function.update_self ..

theorem readPemOnHeap_noMemory (hal : al.avail h.next (1 * PEM_CERT_MAX_LEN) = false) (ls : List Line) :
    readPemOnHeap b al h ls = some ⟨false, none, ⟨h.next + 1, h.mem⟩, ls⟩ := by
  simp only [readPemOnHeap, Heap.malloc_refused h hal, xReadPemFromCliAsDer]

/-! ## Bodies -/

/-- The bytes of some lines, one after the other. -/
def decodeAll (dec : List UInt8 → Option (List UInt8)) (ls : List (List UInt8)) : List UInt8 :=
  ls.flatMap fun l => (dec l).getD []

/-- A body is made of short valid lines, and its data is theirs. -/
theorem Body.lines (hbody : Body dec n ls data) :
    (∀ l ∈ ls, l.length ≤ 64 ∧ (dec l).isSome) ∧ data = decodeAll dec ls := by
  induction hbody with
  | nil n => exact ⟨nofun, rfl⟩
  | @cons n l d ls data hl _ ih =>
    obtain ⟨hmem, hdata⟩ := ih
    have hd := hl.valid
    refine ⟨fun l' hl' => ?_, ?_⟩
    · rcases List.mem_cons.1 hl' with rfl | hl'
      · exact ⟨hl.short, by rw [hd]; rfl⟩
      · exact hmem l' hl'
    · rw [decodeAll, List.flatMap_cons, hd, hdata]
      rfl

/-- The line behind the first lines of a body is a line of the body. -/
theorem Body.next {body rest : List (List UInt8)} {data' : List UInt8} (hbody : Body dec n body data)
    (hall : Body dec n (body ++ l :: rest) data') : ∃ d, BodyLine dec (n + data.length) l d := by
  induction hbody generalizing data' with
  | nil n =>
    cases hall with
    | cons hl _ => exact ⟨_, hl⟩
  | @cons n l₁ d ls data hl _ ih =>
    cases hall with
    | @cons _ _ d' _ data' hl' hls' =>
      obtain rfl : d = d' := Option.some.inj (hl.valid.symm.trans hl'.valid)
      obtain ⟨d₂, h₂⟩ := ih hls'
      exact ⟨d₂, by rwa [List.length_append, ← Nat.add_assoc]⟩

/-- The reader does not wait behind a line that fills the buffer. -/
theorem Fills.not_waits (hb : b.Decodes dec need) (hf : Fills dec need ls) : ¬Waits dec ls := by
  obtain ⟨hd, body, l, rest, data, rfl, -, hbody, d, hdec, -, hfull⟩ := hf
  intro hw
  rcases hw with hnil | ⟨hd', body', data', heq, -, hbody'⟩
  · cases hnil
  · obtain ⟨-, rfl⟩ := List.cons_eq_cons.1 heq
    obtain ⟨d', hl⟩ := hbody.next hbody'
    obtain rfl : d = d' := Option.some.inj (hdec.symm.trans hl.valid)
    have hle := (hb.length_le l d hdec).trans (hb.need_le l d hdec)
    have hroom := hl.room
    omega

/-! ## Texts whose outcome is known -/

theorem readZeros_text (hb : b.Decodes dec need) {rest : List (List UInt8)}
    (ht : PemText dec ls data rest) : ∃ buf printed, buf.length = PEM_CERT_MAX_LEN ∧ data <+: buf ∧
      readZeros b ls = some ⟨true, some (buf, data.length), printed, rest.map .ofConsole⟩ := by
  obtain ⟨hd, body, ft, rfl, hh, hbody, hfooter⟩ := ht
  obtain ⟨r, hr, heq⟩ := readZeros_header b hh (body ++ ft :: rest)
  obtain ⟨r', hr', hlt, hloop⟩ := readPemLoop_lines hb hbody rfl hr (by decide)
    ((ft :: rest).map .ofConsole)
  rw [List.nil_append] at hr' hlt
  have hdata := hr'.data
  refine ⟨r'.pucDerBuffer, r'.printed, hr'.size, hdata ▸ List.take_prefix _ _, ?_⟩
  rw [heq, List.map_append, hloop]
  exact readPemLoop_footer hr' hlt hfooter _

theorem readZeros_fills (hb : b.Decodes dec need) (hf : Fills dec need ls) : readZeros b ls = none := by
  obtain ⟨hd, body, l, rest, data, rfl, hh, hbody, hfull⟩ := hf
  obtain ⟨r, hr, heq⟩ := readZeros_header b hh (body ++ l :: rest)
  obtain ⟨r', hr', hlt, hloop⟩ := readPemLoop_lines hb hbody rfl hr (by decide)
    ((l :: rest).map .ofConsole)
  rw [List.nil_append] at hr' hlt
  rw [heq, List.map_append, hloop]
  exact readPemLoop_full hb hr' hlt hfull _

/-! ## The contract -/

/-- The call read a PEM text with contents, and these are in the buffer that it hands out. -/
structure PemAccepted (dec : List UInt8 → Option (List UInt8)) (ls : List (List UInt8)) (c : PemCall)
    (hd : List UInt8) (body : List (List UInt8)) (ft : List UInt8) (rest : List (List UInt8)) :
    Prop where
  text : ls = hd :: (body ++ ft :: rest)
  header : Framed PEM_BEGIN hd ∧ hd.length ≤ 64
  someLine : body ≠ []
  valid : ∀ l ∈ body, l.length ≤ 64 ∧ (dec l).isSome
  footer : Framed PEM_END ft ∧ ft.length ≤ 64
  unread : c.unread = rest.map .ofConsole
  der : ∃ p blk, c.out = some (p, (decodeAll dec body).length) ∧
    0 < (decodeAll dec body).length ∧
    c.heap.mem p = some blk ∧ decodeAll dec body <+: blk

/-- The contract of `xReadPemFromCliAsDer` with its caller: `pdTRUE` comes with the contents of a PEM text,
so that the caller's assertion holds, `pdFALSE` with nothing, the buffer freed; it fails no assertion
itself, and asks for lines only as long as a text may still follow. -/
structure PemLaw (b : MbedtlsBase64) (al : Allocator) (dec : List UInt8 → Option (List UInt8)) (h : Heap)
    (ls : List (List UInt8)) : Prop where
  accepted : ∀ c, readPemOnHeap b al h (ls.map .ofConsole) = some c → c.ret = true →
    ∃ hd body ft rest, PemAccepted dec ls c hd body ft rest
  refused : ∀ c, readPemOnHeap b al h (ls.map .ofConsole) = some c → c.ret = false →
    c.out = none ∧ c.heap.mem = h.mem
  caller : ∀ c mbedtls_x509_crt_parse_der_nocopy, readPemOnHeap b al h (ls.map .ofConsole) = some c →
    xReadPemFromCliToX509Crt b al mbedtls_x509_crt_parse_der_nocopy h (ls.map .ofConsole) ≠ none
  returns : readPemOnHeap b al h (ls.map .ofConsole) = none → Waits dec ls

/-- An accepted text with contents is all that the law asks for. -/
theorem PemText.accepted {rest : List (List UInt8)} {buf : List UInt8} {p : Nat} {h' : Heap}
    (ht : PemText dec ls data rest) (hpos : data ≠ []) (hbuf : data <+: buf) (hp : h'.mem p = some buf) :
    ∃ hd body ft, PemAccepted dec ls ⟨true, some (p, data.length), h', rest.map .ofConsole⟩
      hd body ft rest := by
  obtain ⟨hd, body, ft, rfl, hh, hbody, hfooter⟩ := ht
  obtain ⟨hmem, hdata⟩ := hbody.lines
  have hsome : body ≠ [] := by
    intro hnil
    rw [hnil] at hdata
    exact hpos hdata
  refine ⟨hd, body, ft, rfl, ⟨hh.framed, hh.short⟩, hsome, hmem, ⟨hfooter.framed, hfooter.short⟩, rfl, ?_⟩
  rw [← hdata]
  exact ⟨p, buf, rfl, List.length_pos_iff.2 hpos, hp, hbuf⟩

/-- The caller goes on with what was read. -/
theorem crt_isSome {c : PemCall} {ls : List Line} (parse : List UInt8 → Int)
    (hc : readPemOnHeap b al h ls = some c) (hret : c.ret = true) {p n : Nat} {blk : List UInt8}
    (hout : c.out = some (p, n)) (hpos : 0 < n) (hp : c.heap.mem p = some blk) (hn : n ≤ blk.length) :
    xReadPemFromCliToX509Crt b al parse h ls ≠ none := by
  simp only [xReadPemFromCliToX509Crt, hc, hret, hout, hpos, if_true, Heap.read_eq hp hn,
    Heap.free_eq hp]
  split_ifs <;> nofun

theorem crt_refused {c : PemCall} {ls : List Line} (parse : List UInt8 → Int)
    (hc : readPemOnHeap b al h ls = some c) (hret : c.ret = false) :
    xReadPemFromCliToX509Crt b al parse h ls = some (false, c.heap) := by
  simp only [xReadPemFromCliToX509Crt, hc, hret]

/-- The law of a call that is refused. -/
theorem PemLaw.of_refused {h' : Heap} {rest : List Line}
    (hc : readPemOnHeap b al h (ls.map .ofConsole) = some ⟨false, none, h', rest⟩)
    (hmem : h'.mem = h.mem) : PemLaw b al dec h ls := by
  refine ⟨fun c hc' hret => ?_, fun c hc' _ => ?_, fun c parse _ => ?_, fun hnone => ?_⟩
  · obtain rfl := Option.some.inj (hc.symm.trans hc')
    cases hret
  · obtain rfl := Option.some.inj (hc.symm.trans hc')
    exact ⟨rfl, hmem⟩
  · rw [crt_refused parse hc rfl]
    nofun
  · rw [hc] at hnone
    cases hnone

/-- A text without contents is accepted with none. -/
theorem PemLaw.contents (hb : b.Decodes dec need) (hal : al.avail h.next (1 * PEM_CERT_MAX_LEN) = true)
    (hlaw : PemLaw b al dec h ls) (rest : List (List UInt8)) : ¬PemText dec ls [] rest := by
  intro ht
  obtain ⟨buf, printed, hbuf, -, hread⟩ := readZeros_text hb ht
  obtain ⟨h', hc, -⟩ := readPemOnHeap_accepted hal hbuf hread
  obtain ⟨_, body, _, _, hacc⟩ := hlaw.accepted _ hc rfl
  obtain ⟨p, blk, hout, hpos, -⟩ := hacc.der
  have hlen : 0 = (decodeAll dec body).length := congrArg Prod.snd (Option.some.inj hout)
  omega

/-- A line that fills the buffer fails the reader's assertion. -/
theorem PemLaw.not_fills (hb : b.Decodes dec need) (hal : al.avail h.next (1 * PEM_CERT_MAX_LEN) = true)
    (hlaw : PemLaw b al dec h ls) : ¬Fills dec need ls := fun hf =>
  hf.not_waits hb (hlaw.returns (readPemOnHeap_none hal (readZeros_fills hb hf)))

/-- On every other stream of lines the law holds. -/
theorem PemLaw.of_condition (hb : b.Decodes dec need) (hw : h.Wf)
    (hal : al.avail h.next (1 * PEM_CERT_MAX_LEN) = true) (hsome : ∀ rest, ¬PemText dec ls [] rest)
    (hfills : ¬Fills dec need ls) : PemLaw b al dec h ls := by
  have hout := readZeros_outcome hb ls
  generalize hread : readZeros b ls = out at hout
  cases hout with
  | waits hwaits =>
    have hnone := readPemOnHeap_none hal hread
    refine ⟨fun c hc => ?_, fun c hc => ?_, fun c _ hc => ?_, fun _ => hwaits⟩
    all_goals rw [hnone] at hc; cases hc
  | fills hf => exact absurd hf hfills
  | refused printed rest =>
    obtain ⟨h', hc, hmem⟩ := readPemOnHeap_refused hw hal hread
    exact .of_refused hc hmem
  | @accepted data rest ht buf printed hbuf hdata =>
    have hpos : data ≠ [] := by
      rintro rfl
      exact hsome rest ht
    obtain ⟨h', hc, hp⟩ := readPemOnHeap_accepted hal hbuf hread
    refine ⟨fun c hc' _ => ?_, fun c hc' hret => ?_, fun c parse _ => ?_, fun hnone => ?_⟩
    · obtain rfl := Option.some.inj (hc.symm.trans hc')
      obtain ⟨hd, body, ft, hacc⟩ := ht.accepted hpos hdata hp
      exact ⟨hd, body, ft, rest, hacc⟩
    · obtain rfl := Option.some.inj (hc.symm.trans hc')
      cases hret
    · exact crt_isSome parse hc rfl rfl (List.length_pos_iff.2 hpos) hp hdata.length_le
    · rw [hc] at hnone
      cases hnone

/-- **What the reader accepts**: the law holds unless there is a buffer and the lines are a text without
contents, or one of them makes the contents fill the buffer to its last byte. -/
theorem pem_reader_iff (hb : b.Decodes dec need) (hw : h.Wf) (ls : List (List UInt8)) :
    PemLaw b al dec h ls ↔ (al.avail h.next PEM_CERT_MAX_LEN = true →
      (∀ rest, ¬PemText dec ls [] rest) ∧ ¬Fills dec need ls) := by
  rw [← Nat.one_mul PEM_CERT_MAX_LEN]
  refine ⟨fun hlaw hal => ⟨hlaw.contents hb hal, hlaw.not_fills hb hal⟩, fun hcond => ?_⟩
  by_cases hal : al.avail h.next (1 * PEM_CERT_MAX_LEN) = true
  · exact .of_condition hb hw hal (hcond hal).1 (hcond hal).2
  · exact .of_refused (readPemOnHeap_noMemory (Bool.eq_false_iff.2 hal) _) rfl

/-! ## Texts that break the law -/

/-- The bytes that a valid text needs room for. -/
def standardNeed (src : List UInt8) : Nat := ((Base64.decode src).getD []).length

theorem standardBase64_decodes : standardBase64.Decodes Base64.decode standardNeed where
  valid := by
    intro dst src d hd hroom
    rw [standardNeed, hd, Option.getD_some] at hroom
    refine ⟨blit dst 0 d, ?_, blit_length (by omega), ?_⟩
    · simp only [standardBase64, hd, if_neg (Nat.not_lt.2 hroom)]
    · rw [blit_zero]
      exact List.prefix_append _ _
  refused := by
    intro dst src hno
    simp only [standardBase64]
    cases hd : Base64.decode src with
    | none => simp
    | some d =>
      have hlt := hno d hd
      rw [standardNeed, hd, Option.getD_some] at hlt
      simp [if_pos hlt]
  length_le := by
    intro src d hd
    rw [standardNeed, hd, Option.getD_some]
  need_le := by
    intro src d hd
    rw [standardNeed, hd, Option.getD_some]
    exact Base64.decode_length hd

theorem certificate_header : Header (ascii "-----BEGIN CERTIFICATE-----") :=
  ⟨⟨by decide, ascii "CERTIFICATE", [], by decide⟩, by decide⟩

theorem certificate_footer : Footer 0 (ascii "-----END CERTIFICATE-----") :=
  ⟨⟨by decide, ascii "CERTIFICATE", [], by decide⟩, by decide, by decide⟩

/-- The law for a text of one line. -/
theorem pem_reader_certificate :
    PemLaw standardBase64 .granting Base64.decode .empty
        [ascii "-----BEGIN CERTIFICATE-----", ascii "AQID", ascii "-----END CERTIFICATE-----"] ↔
      (Allocator.granting.avail Heap.empty.next PEM_CERT_MAX_LEN = true →
        (∀ rest, ¬PemText Base64.decode
          [ascii "-----BEGIN CERTIFICATE-----", ascii "AQID", ascii "-----END CERTIFICATE-----"] [] rest) ∧
        ¬Fills Base64.decode standardNeed
          [ascii "-----BEGIN CERTIFICATE-----", ascii "AQID", ascii "-----END CERTIFICATE-----"]) :=
  pem_reader_iff standardBase64_decodes Heap.wf_empty _

/-- A line of a text whose object is longer than it. -/
theorem bodyLine_encode {src : List UInt8} (hpos : src ≠ []) (hle : src.length ≤ 48)
    (hroom : n + 65 < PEM_CERT_MAX_LEN) :
    BodyLine Base64.decode n (Base64.encode src) src := by
  have hlen := Base64.encode_length src
  have hlt := List.length_pos_iff.2 hpos
  refine ⟨?_, by omega, by omega, fun hend => ?_, Base64.decode_encode src⟩
  · rw [← List.length_pos_iff]
    omega
  · have hmem : (45 : UInt8) ∈ Base64.encode src := hend.subset (by decide)
    exact ne_dash_of_isChar (Base64.encode_mem hmem) rfl

/-- Lines of one kind make a body as long as they fit. -/
theorem body_replicate (k : Nat)
    (hl : ∀ i < k, BodyLine dec (n + i * d.length) l d) :
    Body dec n (List.replicate k l) (List.replicate k d).flatten := by
  induction k generalizing n with
  | zero => exact .nil n
  | succ k ih =>
    rw [List.replicate_succ, List.replicate_succ, List.flatten_cons]
    refine .cons ?_ (ih fun i hi => ?_)
    · simpa using hl 0 (Nat.succ_pos k)
    · have h := hl (i + 1) (Nat.succ_lt_succ hi)
      rwa [Nat.succ_mul, Nat.add_comm (i * _), ← Nat.add_assoc] at h

/-- The PEM text of 2048 bytes. -/
def fullText : List (List UInt8) :=
  ascii "-----BEGIN CERTIFICATE-----" ::
    (List.replicate 42 (Base64.encode (List.replicate 48 7)) ++
      Base64.encode (List.replicate 32 7) :: [ascii "-----END CERTIFICATE-----"])

theorem fullText_fills : Fills Base64.decode standardNeed fullText := by
  have hbody : Body Base64.decode 0 (List.replicate 42 (Base64.encode (List.replicate 48 7)))
      (List.replicate 42 (List.replicate 48 7)).flatten := by
    refine body_replicate 42 fun i hi => bodyLine_encode (by decide) (by decide) ?_
    rw [List.length_replicate, PEM_CERT_MAX_LEN]
    omega
  have hlen : (List.replicate 42 (List.replicate 48 (7 : UInt8))).flatten.length = 2016 := by
    rw [List.length_flatten, List.map_replicate, List.length_replicate, List.sum_replicate_nat]
  refine ⟨_, _, _, _, _, rfl, certificate_header, hbody, _, Base64.decode_encode _, ?_, ?_⟩
  · rw [hlen, standardNeed, Base64.decode_encode, Option.getD_some, List.length_replicate,
      PEM_CERT_MAX_LEN]
  · rw [hlen, List.length_replicate, PEM_CERT_MAX_LEN]

theorem noContents_text : PemText Base64.decode
    [ascii "-----BEGIN CERTIFICATE-----", ascii "-----END CERTIFICATE-----"] [] [] :=
  ⟨_, [], _, rfl, certificate_header, .nil 0, certificate_footer⟩

/-- The law is missed by a header with its footer, and by the text of 2048 bytes. -/
theorem pem_reader_missed :
    ¬PemLaw standardBase64 .granting Base64.decode .empty
      [ascii "-----BEGIN CERTIFICATE-----", ascii "-----END CERTIFICATE-----"] ∧
    ¬PemLaw standardBase64 .granting Base64.decode .empty fullText :=
  ⟨fun hlaw => hlaw.contents standardBase64_decodes rfl [] noContents_text,
    fun hlaw => hlaw.not_fills standardBase64_decodes rfl fullText_fills⟩

end Cli
