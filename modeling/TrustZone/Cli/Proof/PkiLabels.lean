import TrustZone.Crypto.Proof.KeypairLabels
import TrustZone.Cli.Proof.PkiConsole

/-!
# The labels on a line of `pki`

`generate key`, `generate cert`, `import cert` and `import key` take labels from fixed places of the line. A
label that is too long is copied to an array without room for a NUL, and the check that follows counts no
further than what is allowed. With one label `generate key` takes both default ones, and it shows the public
label as far as the private one is long.

* `labelArg_isLabel`: the label of a place, or the default one, ends in its buffer.
* `generateKey_law_iff`, `generateCert_law_iff`, `import_law_iff`: the sub-commands.
* `keypair_long`: in the build for PSA a label that is too long is for no key.
* `pki_labels_iff`: the lines whose labels are handled as they should be.
-/

namespace Cli

open Lib Traced
open Crypto (PkiStatus tlsKeyPrvLabel tlsKeyPubLabel tlsCertLabel otaSigningKeyLabel deviceCertificate)

variable {c : PkiCalls} {cs : List CLI_Command_Definition_t} {line junk buffer text block : List UInt8}
  {args : List (List UInt8)} {argv : Argv} {e : PkiEvent} {log : List PkiEvent}

/-! ## Buffers -/

/-- `strtok_r` writes NULs only. -/
theorem strtok_r_nuls {str saveptr : Option Nat} {delim : List UInt8} {t : Token} {k : Nat}
    (h : strtok_r buffer str delim saveptr = some t) (h0 : 0 ∈ buffer.drop k) : 0 ∈ t.buffer.drop k := by
  have hblit : ∀ off, 0 ∈ (blit buffer off [0]).drop k := by
    intro off
    rw [List.mem_iff_getElem?] at h0 ⊢
    obtain ⟨i, hi⟩ := h0
    refine ⟨i, ?_⟩
    rw [List.getElem?_drop] at hi ⊢
    obtain ⟨hlt, -⟩ := List.getElem?_eq_some_iff.1 hi
    rw [blit, List.append_assoc, List.getElem?_append, List.length_take]
    split_ifs with hoff
    · rw [List.getElem?_take_of_lt (by omega), hi]
    · rw [List.singleton_append, List.getElem?_cons]
      split_ifs
      · rfl
      · rw [List.getElem?_drop, List.length_singleton]
        rw [show off + 1 + (k + i - min off buffer.length - 1) = k + i by omega, hi]
  unfold strtok_r at h
  split at h
  · exact Option.some.inj h ▸ h0
  · split at h
    · cases h
    · split_ifs at h
      · exact Option.some.inj h ▸ h0
      · split at h
        · cases h
        · split_ifs at h
          · exact Option.some.inj h ▸ h0
          · exact Option.some.inj h ▸ hblit _

theorem Yields.nuls {str saveptr : Option Nat} {ps : List Nat} {buffer' : List UInt8} {k : Nat}
    (h : Yields buffer str saveptr ps buffer') (h0 : 0 ∈ buffer.drop k) : 0 ∈ buffer'.drop k := by
  induction h with
  | done h _ => exact strtok_r_nuls h h0
  | next h _ _ ih => exact ih (strtok_r_nuls h h0)

/-- The bytes at a pointer are a label that ends in its buffer. -/
structure IsLabel (block text : List UInt8) : Prop where
  text_eq : cstr block = text
  ends : 0 ∈ block

theorem isLabel_literal {s : List UInt8} (h : 0 ∉ s) : IsLabel (literal s) s where
  text_eq := by rw [literal, cstr_append_nul, cstr_of_notMem h]
  ends := by simp [literal]

/-- An argument of the line is a label that ends in its buffer. -/
theorem Tokenized.bytes (h : Tokenized line (line ++ 0 :: junk) argv) {i : Nat}
    (hi : (words SPACE line)[i]? = some text) : ∃ block, argv.bytes i = some block ∧ IsLabel block text := by
  obtain ⟨p, hp, htext⟩ := h.pointer hi
  refine ⟨argv.buffer.drop p, by rw [Argv.bytes, hp], htext, h.yields.nuls ?_⟩
  -- the pointer is to a place in the line
  rw [h.pcArgv, List.getElem?_map] at hp
  obtain ⟨x, hx, hxp⟩ := Option.map_eq_some_iff.1 hp
  obtain ⟨j, hj, hword⟩ := mem_wordsAt (List.mem_of_getElem? hx)
  obtain rfl : p = j := by
    have := Option.some.inj hxp
    omega
  have hmem : x.2 ∈ words SPACE line := List.mem_map_of_mem (List.mem_of_getElem? hx)
  obtain ⟨hnonempty, -, -⟩ := mem_words hmem
  have hlt : p < line.length := by
    by_contra hge
    rw [List.drop_of_length_le (by omega)] at hword
    exact hnonempty (List.prefix_nil.1 hword)
  rw [List.drop_append_of_le_length (by omega)]
  exact List.mem_append_right _ List.mem_cons_self

theorem labelArg_isLabel (h : Tokenized line (line ++ 0 :: junk) argv) (i : Nat) {dflt : List UInt8}
    (hdflt : 0 ∉ dflt) : IsLabel (labelArg (words SPACE line).length argv i dflt)
      (((words SPACE line)[i]?).getD dflt) := by
  unfold labelArg
  split_ifs with hi
  · have hget := List.getElem?_eq_getElem hi
    obtain ⟨block, hblock, hlabel⟩ := h.bytes hget
    rw [hblock, hget]
    exact hlabel
  · rw [List.getElem?_eq_none (by omega)]
    exact isLabel_literal hdflt

/-! ## The law -/

namespace SubCommand

/-- The sub-commands that the law is about. -/
def labelled : List SubCommand := [generateKey, generateCert, importCert, importKey]

/-- Where a label stands among the arguments, and the default one. -/
def label : SubCommand → LabelKind → Option (Nat × List UInt8)
  | generateKey, .pubKey => some (0, tlsKeyPubLabel)
  | generateKey, .prvKey => some (1, tlsKeyPrvLabel)
  | generateCert, .cert => some (0, tlsCertLabel)
  | generateCert, .prvKey => some (1, tlsKeyPrvLabel)
  | importCert, .cert => some (0, tlsCertLabel)
  | importKey, .pubKey => some (0, otaSigningKeyLabel)
  | _, _ => none

/-- The line gives this label. -/
def Given (s : SubCommand) (args : List (List UInt8)) (l : List UInt8) : Prop :=
  ∃ kind x, s.label kind = some x ∧ args[x.1]? = some l

/-- The line gives some labels and leaves one out. -/
def LeavesOut (s : SubCommand) (args : List (List UInt8)) : Prop :=
  (∃ l, s.Given args l) ∧ ∃ kind x, s.label kind = some x ∧ args[x.1]? = none

/-- No label is too long. -/
def AllShort (s : SubCommand) (args : List (List UInt8)) : Prop :=
  ∀ l, s.Given args l → l.length ≤ configTLS_MAX_LABEL_LEN

/-- The label that is meant: that of the line, or the default one. -/
def meant (s : SubCommand) (args : List (List UInt8)) (kind : LabelKind) : Option (List UInt8) :=
  (s.label kind).map fun x => (args[x.1]?).getD x.2

end SubCommand

namespace PkiEvent

/-- The labels that a call is given. -/
def labels : PkiEvent → List (LabelKind × List UInt8)
  | xPkiGenerateECKeypair pcPrvKeyLabel pcPubKeyLabel _ => [(.prvKey, pcPrvKeyLabel), (.pubKey, pcPubKeyLabel)]
  | xPkiReadPrivateKey pcPrvKeyLabel _ => [(.prvKey, pcPrvKeyLabel)]
  | xPkiReadCertificate pcCertLabel _ => [(.cert, pcCertLabel)]
  | xPkiReadPublicKeyDer pcPubKeyLabel _ => [(.pubKey, pcPubKeyLabel)]
  | xPkiWriteCertificate pcCertLabel _ _ => [(.cert, pcCertLabel)]
  | xPkiWritePubKey pcPubKeyLabel _ _ => [(.pubKey, pcPubKeyLabel)]
  | _ => []

/-- It came to an object and creates, destroys or overwrites it. -/
def Stores : PkiEvent → Prop
  | xPkiGenerateECKeypair _ _ touched => touched = true
  | xPkiWriteCertificate _ _ touched => touched = true
  | xPkiWritePubKey _ _ touched => touched = true
  | _ => False

/-- It came to an object. -/
def Acts : PkiEvent → Prop
  | xPkiReadPrivateKey _ touched => touched = true
  | xPkiReadCertificate _ touched => touched = true
  | xPkiReadPublicKeyDer _ touched => touched = true
  | e => e.Stores

/-- Something is read or stored. -/
def Reads : PkiEvent → Prop
  | xReadPemFromCliAsDer _ => True
  | e => e.Acts

end PkiEvent

open SubCommand PkiEvent

/-- **The labels are handled as they should be.** -/
structure LabelLaw (b : MbedtlsBase64) (s : SubCommand) (args : List (List UInt8)) (log : List PkiEvent) :
    Prop where
  /-- What is acted on are the objects under the labels that are meant. -/
  exact : ∀ e ∈ log, e.Acts → ∀ kind block, (kind, block) ∈ e.labels →
    s.meant args kind = some (cstr block)
  /-- A label that is too long is refused with an error line, before anything is read or stored. -/
  refused : ¬s.AllShort args → (∀ e ∈ log, ¬e.Reads) ∧ ∃ e ∈ log, e.ErrorLine b
  /-- A line that leaves a label out stores under labels that it names. -/
  named : s.LeavesOut args → ∀ e ∈ log, e.Stores → ∀ x ∈ e.labels, s.Given args (cstr x.2)
  /-- What a call is given ends in its buffer. -/
  ends : ∀ e ∈ log, ∀ x ∈ e.labels, 0 ∈ x.2
  /-- What is shown as a label is the one that was used. -/
  echoed : ∀ e ∈ log, ∀ kind text, e.echo = some (kind, text) → ∀ e' ∈ log, ∀ block,
    (kind, block) ∈ e'.labels → text = cstr block

/-- What is done with the labels that are meant. -/
structure Fits (s : SubCommand) (args : List (List UInt8)) (e : PkiEvent) : Prop where
  labels : ∀ kind block, (kind, block) ∈ e.labels → s.meant args kind = some (cstr block) ∧ 0 ∈ block
  stores : s.LeavesOut args → e.Stores → ∀ x ∈ e.labels, s.Given args (cstr x.2)
  echo : ∀ kind text, e.echo = some (kind, text) → s.meant args kind = some text

theorem LabelLaw.of_fits {b : MbedtlsBase64} {s : SubCommand} (hfit : ∀ e ∈ log, Fits s args e)
    (hshort : s.AllShort args) : LabelLaw b s args log where
  exact e he _ kind block hmem := ((hfit e he).labels kind block hmem).1
  refused hlong := absurd hshort hlong
  named hout e he hstores := (hfit e he).stores hout hstores
  ends e he x hx := ((hfit e he).labels x.1 x.2 hx).2
  echoed e he kind text hecho e' he' block hmem :=
    Option.some.inj (((hfit e he).echo kind text hecho).symm.trans ((hfit e' he').labels kind block hmem).1)

theorem acts_of_stores (h : e.Stores) : e.Acts := by
  cases e <;> first | exact h | exact h.elim

theorem reads_of_acts (h : e.Acts) : e.Reads := by
  cases e <;> first | exact h | exact h.elim

/-- A line that comes to nothing, and says so. -/
theorem LabelLaw.of_untouched {b : MbedtlsBase64} {s : SubCommand}
    (hquiet : ∀ e ∈ log, ¬e.Reads ∧ e.echo = none ∧ ∀ x ∈ e.labels, 0 ∈ x.2)
    (herror : ∃ e ∈ log, e.ErrorLine b) : LabelLaw b s args log where
  exact e he hacts := absurd (reads_of_acts hacts) (hquiet e he).1
  refused _ := ⟨fun e he => (hquiet e he).1, herror⟩
  named _ e he hstores := absurd (reads_of_acts (acts_of_stores hstores)) (hquiet e he).1
  ends e he := (hquiet e he).2.2
  echoed e he kind text hecho := by
    rw [(hquiet e he).2.1] at hecho
    cases hecho

theorem fits_print (s : SubCommand) (pcString : List UInt8) : Fits s args (.print pcString) :=
  ⟨nofun, nofun, nofun⟩

theorem fits_logged (s : SubCommand) (t : LogText) : Fits s args (.vLoggingPrintfError t) :=
  ⟨nofun, nofun, nofun⟩

theorem fits_vPrintDer (s : SubCommand) (pcHeader pcFooter pucDer : List UInt8) :
    Fits s args (.vPrintDer pcHeader pcFooter pucDer) := ⟨nofun, nofun, nofun⟩

/-! ## The arguments -/

theorem start_length (s : SubCommand) : s.start.length = 3 := rfl

/-- The place of a label on the line. -/
theorem words_label {s : SubCommand} (hw : words SPACE line = s.start ++ args) (i : Nat) :
    (words SPACE line)[3 + i]? = args[i]? := by
  rw [hw, List.getElem?_append_right (by rw [start_length]; omega), start_length, Nat.add_sub_cancel_left]

/-- A label that is passed on as it stands on the line is the one that is meant. -/
theorem meant_labelArg {s : SubCommand} (h : Tokenized line (line ++ 0 :: junk) argv)
    (hw : words SPACE line = s.start ++ args) (kind : LabelKind) {i : Nat} {dflt : List UInt8}
    (hlabel : s.label kind = some (i, dflt)) (hdflt : 0 ∉ dflt) :
    IsLabel (labelArg (words SPACE line).length argv (3 + i) dflt) ((args[i]?).getD dflt) ∧
      s.meant args kind = some ((args[i]?).getD dflt) := by
  have harg := labelArg_isLabel h (3 + i) hdflt
  rw [words_label hw] at harg
  exact ⟨harg, congrArg (Option.map _) hlabel⟩

theorem SubCommand.AllShort.getD {s : SubCommand} (hshort : s.AllShort args) (kind : LabelKind) {i : Nat}
    {dflt : List UInt8} (hlabel : s.label kind = some (i, dflt))
    (hdflt : dflt.length ≤ configTLS_MAX_LABEL_LEN) :
    ((args[i]?).getD dflt).length ≤ configTLS_MAX_LABEL_LEN := by
  cases hi : args[i]? with
  | none => exact hdflt
  | some l => exact hshort l ⟨kind, _, hlabel, hi⟩

/-! ## `generate cert` -/

theorem mem_storeCertificate {pcCertLabel pucCertDer : List UInt8}
    (he : e ∈ (storeCertificate c pcCertLabel pucCertDer).log) :
    e = .xPkiWriteCertificate pcCertLabel pucCertDer c.xPkiWriteCertificate.touched ∨
      (∃ t, e = .vLoggingPrintfError t) ∨ ∃ h f, e = .vPrintDer h f pucCertDer := by
  unfold storeCertificate at he
  dsimp only at he
  by_cases hparse : c.mbedtls_x509_crt_parse_der_nocopy pucCertDer < 0
  · rw [PkiCalls.msgIfError, if_pos hparse, log_act_bind, if_neg (Int.not_le.2 hparse), log_pure,
      List.mem_singleton] at he
    exact .inr (.inl ⟨_, he⟩)
  · rw [PkiCalls.msgIfError, if_neg hparse, log_pure_bind, if_pos (Int.not_lt.1 hparse), log_call_bind,
      log_act] at he
    simp only [List.mem_cons, List.not_mem_nil, or_false] at he
    rcases he with rfl | rfl | rfl
    · exact .inl rfl
    · exact .inr (.inl ⟨_, rfl⟩)
    · exact .inr (.inr ⟨_, _, rfl⟩)

/-- What `generate cert` does: the private key is read first. -/
theorem mem_generateCert {n : Nat}
    (he : e ∈ (vSubCommand_GenerateCertificate c n argv).log) :
    e = .xPkiReadPrivateKey (labelArg n argv LABEL_PRV_IDX tlsKeyPrvLabel) c.xPkiReadPrivateKey.touched ∨
      e = .vLoggingPrintfError c.xPkiReadPrivateKey.logged ∨
      c.xPkiReadPrivateKey.status = .success ∧ ((∃ der, e = .xPkiWriteCertificate
        (labelArg n argv LABEL_IDX tlsCertLabel) der c.xPkiWriteCertificate.touched) ∨
        (∃ t, e = .vLoggingPrintfError t) ∨ ∃ h f der, e = .vPrintDer h f der) := by
  unfold vSubCommand_GenerateCertificate at he
  rw [log_call_bind] at he
  rcases List.mem_cons.1 he with he | he
  · exact .inl he
  rcases List.mem_cons.1 he with he | he
  · exact .inr (.inl he)
  split_ifs at he with hread
  · refine .inr (.inr ⟨hread, ?_⟩)
    rw [log_withDer] at he
    split at he
    · exact .inr (.inl ⟨_, List.mem_singleton.1 he⟩)
    · split_ifs at he
      · rcases mem_storeCertificate he with rfl | ⟨t, rfl⟩ | ⟨h, f, rfl⟩
        · exact .inl ⟨_, rfl⟩
        · exact .inr (.inl ⟨t, rfl⟩)
        · exact .inr (.inr ⟨h, f, _, rfl⟩)
      · cases he
  · cases he

/-- The condition of `generate cert`: the labels fit, or an error line says that there is no such key. -/
def CertLabelsRight (c : PkiCalls) (args : List (List UInt8)) : Prop :=
  SubCommand.generateCert.AllShort args ∨
    c.xPkiReadPrivateKey.touched = false ∧ c.xPkiReadPrivateKey.logged.val ≠ []

theorem generateCert_law_iff (h : Tokenized line (line ++ 0 :: junk) argv)
    (hw : words SPACE line = SubCommand.generateCert.start ++ args) :
    LabelLaw c.base64 .generateCert args
      (vSubCommand_GenerateCertificate c (words SPACE line).length argv).log ↔ CertLabelsRight c args := by
  obtain ⟨hcert, hcertMeant⟩ := meant_labelArg h hw .cert rfl (by decide)
  obtain ⟨hprv, hprvMeant⟩ := meant_labelArg h hw .prvKey rfl (by decide)
  constructor
  · intro hlaw
    by_cases hshort : SubCommand.generateCert.AllShort args
    · exact .inl hshort
    -- the private key is not read, and the call on it has logged the error line
    obtain ⟨hquiet, e, he, herr⟩ := hlaw.refused hshort
    have huntouched : c.xPkiReadPrivateKey.touched = false :=
      Bool.eq_false_of_not_eq_true (hquiet _ List.mem_cons_self)
    refine .inr ⟨huntouched, ?_⟩
    rcases mem_generateCert he with rfl | rfl | ⟨hstatus, -⟩
    · exact herr.elim
    · exact (LogText.hasError _).1 herr
    · exact absurd (c.xPkiReadPrivateKey.touched_of_success hstatus) (by rw [huntouched]; decide)
  · rintro (hshort | ⟨huntouched, hlogged⟩)
    · refine LabelLaw.of_fits (fun e he => ?_) hshort
      rcases mem_generateCert he with rfl | rfl | ⟨-, ⟨der, rfl⟩ | ⟨t, rfl⟩ | ⟨hd, ft, der, rfl⟩⟩
      · refine ⟨fun kind block hmem => ?_, fun _ hstores => hstores.elim, nofun⟩
        obtain ⟨rfl, rfl⟩ := Prod.mk.inj (List.mem_singleton.1 hmem)
        exact ⟨hprvMeant.trans (congrArg some hprv.text_eq.symm), hprv.ends⟩
      · exact fits_logged _ _
      · refine ⟨fun kind block hmem => ?_, fun hout _ x hx => ?_, nofun⟩
        · obtain ⟨rfl, rfl⟩ := Prod.mk.inj (List.mem_singleton.1 hmem)
          exact ⟨hcertMeant.trans (congrArg some hcert.text_eq.symm), hcert.ends⟩
        · obtain rfl := List.mem_singleton.1 hx
          -- the first label is there when one is
          obtain ⟨⟨l, kind, y, hy, hl⟩, -⟩ := hout
          have hpos : 0 < args.length := by
            have := (List.getElem?_eq_some_iff.1 hl).1
            omega
          refine ⟨.cert, (0, tlsCertLabel), rfl, ?_⟩
          show args[0]? = some (cstr (labelArg _ argv LABEL_IDX tlsCertLabel))
          rw [show cstr (labelArg _ argv LABEL_IDX tlsCertLabel) = _ from hcert.text_eq]
          rw [List.getElem?_eq_getElem hpos, Option.getD_some]
      · exact fits_logged _ t
      · exact fits_vPrintDer _ _ _ _
    · have hevents : ∀ e ∈ (vSubCommand_GenerateCertificate c (words SPACE line).length argv).log,
          e = .xPkiReadPrivateKey (labelArg (words SPACE line).length argv LABEL_PRV_IDX tlsKeyPrvLabel) false ∨
            e = .vLoggingPrintfError c.xPkiReadPrivateKey.logged := by
        intro e he
        rcases mem_generateCert he with rfl | rfl | ⟨hstatus, -⟩
        · exact .inl (by rw [huntouched])
        · exact .inr rfl
        · exact absurd (c.xPkiReadPrivateKey.touched_of_success hstatus) (by rw [huntouched]; decide)
      refine LabelLaw.of_untouched (fun e he => ?_)
        ⟨_, List.mem_cons_of_mem _ List.mem_cons_self, (LogText.hasError _).2 hlogged⟩
      rcases hevents e he with rfl | rfl
      · refine ⟨Bool.false_ne_true, rfl, fun x hx => ?_⟩
        obtain rfl := List.mem_singleton.1 hx
        exact hprv.ends
      · exact ⟨id, rfl, nofun⟩

/-! ## `import` -/

/-- A label that is short enough fits into the array. -/
theorem strncpy_isLabel {n : Nat} (h : IsLabel block text) (hlt : text.length < n) :
    IsLabel (strncpy block n) text := by
  have htake : cstr (block.take n) = text := by
    rw [cstr_take, h.text_eq, List.take_of_length_le (Nat.le_of_lt hlt)]
  obtain ⟨k, hk⟩ : ∃ k, n - text.length = k + 1 := ⟨n - text.length - 1, by omega⟩
  have hcopy : strncpy block n = text ++ 0 :: List.replicate k 0 := by
    simp only [strncpy, htake, hk, List.replicate_succ]
  constructor
  · rw [hcopy, cstr_append_nul, ← htake, cstr_of_notMem (cstr_notMem _)]
  · rw [hcopy]
    exact List.mem_append_right _ List.mem_cons_self

/-- What an `import` does with the label in its array, where `write` stores the object. -/
def ImportEvent (kind : LabelKind) (pcLabel : List UInt8) (write : List UInt8 → PkiEvent) (e : PkiEvent) : Prop :=
  (∃ s, e = .print s) ∨ (∃ t, e = .vLoggingPrintfError t) ∨ (∃ s, e = .xReadPemFromCliAsDer s) ∨
    e = .printLabel kind pcLabel ∨ ∃ der, e = write der

theorem mem_printWritten {kind : LabelKind} {xStatus : PkiStatus} {success error pcLabel : List UInt8}
    (he : e ∈ (printWritten kind xStatus success error pcLabel).log) :
    (∃ s, e = .print s) ∨ e = .printLabel kind pcLabel := by
  have hlog : (printWritten kind xStatus success error pcLabel).log =
    [.print (if xStatus = .success then success else error), .printLabel kind pcLabel, .print (ascii "'.\r\n")] :=
    rfl
  rw [hlog] at he
  simp only [List.mem_cons, List.not_mem_nil, or_false] at he
  rcases he with rfl | rfl | rfl
  · exact .inl ⟨_, rfl⟩
  · exact .inr rfl
  · exact .inl ⟨_, rfl⟩

theorem importCert_events (c : PkiCalls) (argv : Argv) (n : Nat) :
    (∃ s, .xReadPemFromCliAsDer s ∈ (vSubCommand_ImportCertificate c n argv).log) ∧
    ∀ e ∈ (vSubCommand_ImportCertificate c n argv).log, ImportEvent .cert (labelArray n argv tlsCertLabel)
      (.xPkiWriteCertificate (labelArray n argv tlsCertLabel) · c.xPkiWriteCertificate.touched) e := by
  rw [importCert_log]
  refine ⟨⟨_, List.mem_cons_self⟩, fun e he => ?_⟩
  rcases List.mem_cons.1 he with rfl | he
  · exact .inr (.inr (.inl ⟨_, rfl⟩))
  split at he
  · cases he
  · split_ifs at he
    · rcases List.mem_cons.1 he with rfl | he
      · exact .inr (.inr (.inr (.inr ⟨_, rfl⟩)))
      rcases List.mem_cons.1 he with rfl | he
      · exact .inr (.inl ⟨_, rfl⟩)
      · exact (mem_printWritten he).imp id fun h => .inr (.inr (.inl h))
    · cases he

theorem importKey_events (c : PkiCalls) (argv : Argv) (n : Nat) :
    (∃ s, .xReadPemFromCliAsDer s ∈ (vSubCommand_ImportPubKey c n argv).log) ∧
    ∀ e ∈ (vSubCommand_ImportPubKey c n argv).log, ImportEvent .pubKey (labelArray n argv otaSigningKeyLabel)
      (.xPkiWritePubKey (labelArray n argv otaSigningKeyLabel) · c.xPkiWritePubKey.touched) e := by
  rw [importKey_log]
  refine ⟨⟨_, List.mem_cons_self⟩, fun e he => ?_⟩
  rcases List.mem_cons.1 he with rfl | he
  · exact .inr (.inr (.inl ⟨_, rfl⟩))
  split at he
  · cases he
  · split_ifs at he
    · exact .inl ⟨_, List.mem_singleton.1 he⟩
    · rcases List.mem_cons.1 he with rfl | he
      · exact .inr (.inr (.inr (.inr ⟨_, rfl⟩)))
      rcases List.mem_cons.1 he with rfl | he
      · exact .inr (.inl ⟨_, rfl⟩)
      · exact (mem_printWritten he).imp id fun h => .inr (.inr (.inl h))

/-- An `import` is right when its label fits. -/
theorem import_law_iff {s : SubCommand} {kind : LabelKind} {dflt : List UInt8} {b : MbedtlsBase64}
    {write : List UInt8 → PkiEvent} (h : Tokenized line (line ++ 0 :: junk) argv)
    (hw : words SPACE line = s.start ++ args) (hlabel : s.label kind = some (0, dflt))
    (honly : ∀ kind' ≠ kind, s.label kind' = none) (hnul : 0 ∉ dflt)
    (hdflt : dflt.length ≤ configTLS_MAX_LABEL_LEN)
    (hlabels : ∀ der, (write der).labels = [(kind, labelArray (words SPACE line).length argv dflt)])
    (hecho : ∀ der, (write der).echo = none) (hread : ∃ s, .xReadPemFromCliAsDer s ∈ log)
    (hlog : ∀ e ∈ log, ImportEvent kind (labelArray (words SPACE line).length argv dflt) write e) :
    LabelLaw b s args log ↔ s.AllShort args := by
  obtain ⟨harg, hmeant⟩ := meant_labelArg h hw kind hlabel hnul
  have hkind : ∀ {kind' x}, s.label kind' = some x → x = (0, dflt) := by
    intro kind' x hx
    by_cases hk : kind' = kind
    · rw [hk, hlabel] at hx
      exact (Option.some.inj hx).symm
    · rw [honly kind' hk] at hx
      cases hx
  constructor
  · intro hlaw
    by_contra hlong
    obtain ⟨printed, hprinted⟩ := hread
    exact (hlaw.refused hlong).1 _ hprinted trivial
  · intro hshort
    have htext := hshort.getD kind hlabel hdflt
    have hblock : IsLabel (labelArray (words SPACE line).length argv dflt) ((args[0]?).getD dflt) :=
      strncpy_isLabel harg (Nat.lt_succ_of_le htext)
    refine LabelLaw.of_fits (fun e he => ?_) hshort
    rcases hlog e he with ⟨s', rfl⟩ | ⟨t, rfl⟩ | ⟨s', rfl⟩ | rfl | ⟨der, rfl⟩
    · exact fits_print s s'
    · exact fits_logged s t
    · exact ⟨nofun, nofun, nofun⟩
    · refine ⟨nofun, nofun, fun kind' text hshown => ?_⟩
      obtain ⟨rfl, rfl⟩ := Prod.mk.inj (Option.some.inj hshown)
      exact hmeant.trans (congrArg some hblock.text_eq.symm)
    · refine ⟨fun kind' block hmem => ?_, fun hout => ?_, fun kind' text hshown => ?_⟩
      · rw [hlabels, List.mem_singleton] at hmem
        obtain ⟨rfl, rfl⟩ := Prod.mk.inj hmem
        exact ⟨hmeant.trans (congrArg some hblock.text_eq.symm), hblock.ends⟩
      · -- there is no other label
        obtain ⟨⟨l, kind', x, hx, hl⟩, kind'', y, hy, hmissing⟩ := hout
        rw [hkind hx] at hl
        rw [hkind hy, hl] at hmissing
        cases hmissing
      · rw [hecho] at hshown
        cases hshown

/-! ## `generate key` -/

theorem keyLabels_dflt {n : Nat} (h : ¬LABEL_PRV_IDX < n) (argv : Argv) :
    keyLabels n argv = (literal tlsKeyPrvLabel, literal tlsKeyPubLabel) := by
  unfold keyLabels
  split
  · exact if_neg h
  · rfl

/-- With one label both default ones are taken. -/
theorem keyLabels_isLabel (h : Tokenized line (line ++ 0 :: junk) argv)
    (hw : words SPACE line = SubCommand.generateKey.start ++ args) :
    IsLabel (keyLabels (words SPACE line).length argv).1 ((args[1]?).getD tlsKeyPrvLabel) ∧
      IsLabel (keyLabels (words SPACE line).length argv).2
        (if args.length = 1 then tlsKeyPubLabel else (args[0]?).getD tlsKeyPubLabel) := by
  have hlen : (words SPACE line).length = 3 + args.length := by
    rw [hw, List.length_append, start_length]
  have hdflt : args.length ≤ 1 → args[1]? = none ∧
      (if args.length = 1 then tlsKeyPubLabel else (args[0]?).getD tlsKeyPubLabel) = tlsKeyPubLabel := by
    intro hle
    refine ⟨List.getElem?_eq_none hle, ?_⟩
    split_ifs with h1
    · rfl
    · rw [List.getElem?_eq_none (by omega), Option.getD_none]
  by_cases htwo : 1 < args.length
  · have hprv := List.getElem?_eq_getElem htwo
    have hpub := List.getElem?_eq_getElem (Nat.lt_trans Nat.zero_lt_one htwo)
    obtain ⟨prv, hprvBytes, hprvLabel⟩ := h.bytes ((words_label hw 1).trans hprv)
    obtain ⟨pub, hpubBytes, hpubLabel⟩ := h.bytes ((words_label hw 0).trans hpub)
    have hargc : LABEL_PRV_IDX < (words SPACE line).length := by
      rw [hlen, LABEL_PRV_IDX]
      omega
    rw [keyLabels, show argv.bytes LABEL_PRV_IDX = some prv from hprvBytes,
      show argv.bytes LABEL_PUB_IDX = some pub from hpubBytes]
    simp only [if_pos hargc, if_neg (show ¬args.length = 1 by omega), hprv, hpub, Option.getD_some]
    exact ⟨hprvLabel, hpubLabel⟩
  · have hargc : ¬LABEL_PRV_IDX < (words SPACE line).length := by
      rw [hlen, LABEL_PRV_IDX]
      omega
    obtain ⟨hnone, hpub⟩ := hdflt (by omega)
    rw [hnone, hpub, Option.getD_none, keyLabels_dflt hargc]
    exact ⟨isLabel_literal (by decide), isLabel_literal (by decide)⟩

theorem mem_generateKey {n : Nat} {prv pub : List UInt8} (hlabels : keyLabels n argv = (prv, pub))
    (he : e ∈ (vSubCommand_GenerateKey c n argv).log) :
    e = .xPkiGenerateECKeypair prv pub c.xPkiGenerateECKeypair.touched ∨ (∃ s, e = .print s) ∨
      (∃ h f der, e = .vPrintDer h f der) ∨ (∃ t, e = .vLoggingPrintfError t) ∨ c.xPkiGenerateECKeypair.status = .success ∧
        (e = .writeLabel .prvKey prv (strnlen prv configTLS_MAX_LABEL_LEN) ∨
          e = .writeLabel .pubKey pub (strnlen prv configTLS_MAX_LABEL_LEN)) := by
  rw [generateKey_log hlabels, List.mem_cons, List.mem_cons, List.mem_append] at he
  rcases he with rfl | rfl | he | he
  · exact .inl rfl
  · exact .inr (.inr (.inr (.inl ⟨_, rfl⟩)))
  · by_cases hstatus : c.xPkiGenerateECKeypair.status = .success
    · rw [hstatus, printKeyLabels_success] at he
      simp only [List.mem_cons, List.not_mem_nil, or_false] at he
      rcases he with rfl | rfl | rfl | rfl | rfl | rfl
      · exact .inr (.inl ⟨_, rfl⟩)
      · exact .inr (.inl ⟨_, rfl⟩)
      · exact .inr (.inr (.inr (.inr ⟨hstatus, .inl rfl⟩)))
      · exact .inr (.inl ⟨_, rfl⟩)
      · exact .inr (.inr (.inr (.inr ⟨hstatus, .inr rfl⟩)))
      · exact .inr (.inl ⟨_, rfl⟩)
    · rw [printKeyLabels_error hstatus] at he
      exact .inr (.inl ⟨_, List.mem_singleton.1 he⟩)
  · exact .inr (.inr (.inl (mem_printPublicKey he)))

theorem error_generateKey {n : Nat} (hstatus : c.xPkiGenerateECKeypair.status ≠ .success) :
    .print (ascii "ERROR: Failed to generate public/private key pair.\r\n") ∈
      (vSubCommand_GenerateKey c n argv).log := by
  rw [generateKey_log rfl, printKeyLabels_error hstatus]
  simp

/-- What is shown of the public label: no more than the private one is long. -/
theorem publicEcho {prv pub : List UInt8} {tprv tpub : List UInt8} (hprv : IsLabel prv tprv)
    (hpub : IsLabel pub tpub) : cstr (pub.take (strnlen prv configTLS_MAX_LABEL_LEN)) =
      tpub.take (min configTLS_MAX_LABEL_LEN tprv.length) := by
  rw [strnlen, cstr_take, cstr_take, hprv.text_eq, hpub.text_eq, List.length_take]

/-- The condition of `generate key`: the call came to no object, or the labels are there, and the public one
is no longer than the private one. -/
def KeyLabelsRight (c : PkiCalls) (args : List (List UInt8)) : Prop :=
  c.xPkiGenerateECKeypair.touched = false ∨
    args.length ≠ 1 ∧ SubCommand.generateKey.AllShort args ∧
      (c.xPkiGenerateECKeypair.status = .success → ∀ pub prv, args[0]? = some pub → args[1]? = some prv →
        pub.length ≤ prv.length)

theorem given_one {l : List UInt8} (h1 : args.length = 1) (h : SubCommand.generateKey.Given args l) :
    args[0]? = some l := by
  obtain ⟨kind, x, hx, hl⟩ := h
  cases kind with
  | pubKey =>
    obtain rfl := Option.some.inj hx
    exact hl
  | prvKey =>
    obtain rfl := Option.some.inj hx
    rw [List.getElem?_eq_none (show args.length ≤ 1 by omega)] at hl
    cases hl
  | cert => cases hx

/-- There are two labels or none. -/
theorem not_leavesOut (hone : args.length ≠ 1) : ¬SubCommand.generateKey.LeavesOut args := by
  rintro ⟨⟨l, kind, x, hx, hl⟩, kind', y, hy, hmissing⟩
  have hpos := (List.getElem?_eq_some_iff.1 hl).1
  have hmissing := List.getElem?_eq_none_iff.1 hmissing
  have hplace : y.1 ≤ 1 := by
    cases kind' with
    | pubKey => exact Option.some.inj hy ▸ Nat.zero_le 1
    | prvKey => exact Option.some.inj hy ▸ Nat.le_refl 1
    | cert => cases hy
  omega

/-- What is needed. -/
theorem KeyLabelsRight.of_law (h : Tokenized line (line ++ 0 :: junk) argv)
    (hw : words SPACE line = SubCommand.generateKey.start ++ args)
    (hlaw : LabelLaw c.base64 .generateKey args
      (vSubCommand_GenerateKey c (words SPACE line).length argv).log) : KeyLabelsRight c args := by
  obtain ⟨hprv, hpub⟩ := keyLabels_isLabel h hw
  obtain ⟨⟨prv, pub⟩, hlabels⟩ : ∃ l, keyLabels (words SPACE line).length argv = l := ⟨_, rfl⟩
  rw [hlabels] at hprv hpub
  rw [generateKey_log hlabels] at hlaw
  by_cases htouched : c.xPkiGenerateECKeypair.touched = true
  · refine .inr ⟨fun h1 => ?_, ?_, fun hstatus p q hp hq => ?_⟩
    · -- both default labels are stored under, and one at most is named
      have hget : args[0]? = some args[0] := List.getElem?_eq_getElem _
      have hout : SubCommand.generateKey.LeavesOut args :=
        ⟨⟨args[0], .pubKey, (0, tlsKeyPubLabel), rfl, hget⟩, .prvKey, (1, tlsKeyPrvLabel), rfl,
          List.getElem?_eq_none (by omega)⟩
      have hnamed := hlaw.named hout _ List.mem_cons_self htouched
      have hprvNamed := given_one h1 (hnamed (.prvKey, prv) List.mem_cons_self)
      have hpubNamed := given_one h1 (hnamed (.pubKey, pub) (List.mem_cons_of_mem _ List.mem_cons_self))
      rw [List.getElem?_eq_none (show args.length ≤ 1 by omega)] at hprv
      rw [if_pos h1] at hpub
      have heq := hprv.text_eq.symm.trans (Option.some.inj (hprvNamed.symm.trans hpubNamed))
      exact absurd (heq.trans hpub.text_eq) (by decide)
    · by_contra hlong
      exact (hlaw.refused hlong).1 _ List.mem_cons_self htouched
    · have hne : args.length ≠ 1 := by
        have := (List.getElem?_eq_some_iff.1 hq).1
        omega
      rw [hq, Option.getD_some] at hprv
      rw [if_neg hne, hp, Option.getD_some] at hpub
      rw [hstatus, printKeyLabels_success] at hlaw
      have hecho := hlaw.echoed (.writeLabel .pubKey pub (strnlen prv configTLS_MAX_LABEL_LEN)) (by simp)
        .pubKey _ rfl _ List.mem_cons_self pub (List.mem_cons_of_mem _ List.mem_cons_self)
      rw [publicEcho hprv hpub, hpub.text_eq, List.take_eq_self_iff] at hecho
      omega
  · exact .inl (Bool.eq_false_of_not_eq_true htouched)

/-- What is enough. -/
theorem KeyLabelsRight.law (h : Tokenized line (line ++ 0 :: junk) argv)
    (hw : words SPACE line = SubCommand.generateKey.start ++ args) (hright : KeyLabelsRight c args) :
    LabelLaw c.base64 .generateKey args
      (vSubCommand_GenerateKey c (words SPACE line).length argv).log := by
  obtain ⟨hprv, hpub⟩ := keyLabels_isLabel h hw
  obtain ⟨⟨prv, pub⟩, hlabels⟩ : ∃ l, keyLabels (words SPACE line).length argv = l := ⟨_, rfl⟩
  rw [hlabels] at hprv hpub
  rcases hright with huntouched | ⟨hone, hshort, hle⟩
  · have hstatus : c.xPkiGenerateECKeypair.status ≠ .success := fun h =>
      absurd (c.xPkiGenerateECKeypair.touched_of_success h) (by rw [huntouched]; decide)
    refine LabelLaw.of_untouched (fun e he => ?_)
      ⟨_, error_generateKey hstatus, ascii "ERROR", by decide, by decide⟩
    rcases mem_generateKey hlabels he with rfl | ⟨s, rfl⟩ | ⟨hd, ft, der, rfl⟩ | ⟨t, rfl⟩ | ⟨hsuccess, -⟩
    · refine ⟨?_, rfl, fun x hx => ?_⟩
      · show ¬(c.xPkiGenerateECKeypair.touched = true)
        rw [huntouched]
        exact Bool.false_ne_true
      · rcases List.mem_cons.1 hx with rfl | hx
        · exact hprv.ends
        · obtain rfl := List.mem_singleton.1 hx
          exact hpub.ends
    · exact ⟨id, rfl, nofun⟩
    · exact ⟨id, rfl, nofun⟩
    · exact ⟨id, rfl, nofun⟩
    · exact absurd hsuccess hstatus
  · rw [if_neg hone] at hpub
    have hprvShort : ((args[1]?).getD tlsKeyPrvLabel).length ≤ configTLS_MAX_LABEL_LEN :=
      hshort.getD .prvKey rfl (by decide)
    have hpubShort : ((args[0]?).getD tlsKeyPubLabel).length ≤ configTLS_MAX_LABEL_LEN :=
      hshort.getD .pubKey rfl (by decide)
    have hprvMeant : SubCommand.generateKey.meant args .prvKey = some (cstr prv) :=
      congrArg some hprv.text_eq.symm
    have hpubMeant : SubCommand.generateKey.meant args .pubKey = some (cstr pub) :=
      congrArg some hpub.text_eq.symm
    refine LabelLaw.of_fits (fun e he => ?_) hshort
    rcases mem_generateKey hlabels he with rfl | ⟨s, rfl⟩ | ⟨hd, ft, der, rfl⟩ | ⟨t, rfl⟩ |
      ⟨hstatus, rfl | rfl⟩
    · refine ⟨fun kind block hmem => ?_, fun hout => ?_, nofun⟩
      · rcases List.mem_cons.1 hmem with hmem | hmem
        · obtain ⟨rfl, rfl⟩ := Prod.mk.inj hmem
          exact ⟨hprvMeant, hprv.ends⟩
        · obtain ⟨rfl, rfl⟩ := Prod.mk.inj (List.mem_singleton.1 hmem)
          exact ⟨hpubMeant, hpub.ends⟩
      · exact absurd hout (not_leavesOut hone)
    · exact fits_print _ s
    · exact fits_vPrintDer _ hd ft der
    · exact fits_logged _ t
    · refine ⟨nofun, nofun, fun kind text hshown => ?_⟩
      obtain ⟨rfl, rfl⟩ := Prod.mk.inj (Option.some.inj hshown)
      rw [hprvMeant, publicEcho hprv hprv, hprv.text_eq, List.take_of_length_le (by omega)]
    · refine ⟨nofun, nofun, fun kind text hshown => ?_⟩
      obtain ⟨rfl, rfl⟩ := Prod.mk.inj (Option.some.inj hshown)
      have hshown : ((args[0]?).getD tlsKeyPubLabel).length ≤ ((args[1]?).getD tlsKeyPrvLabel).length := by
        match args, hone, hle hstatus with
        | [], _, _ => decide
        | [_], hone, _ => exact absurd rfl hone
        | p :: q :: _, _, hle => exact hle p q rfl rfl
      rw [hpubMeant, publicEcho hprv hpub, hpub.text_eq, List.take_of_length_le (by omega)]

/-- A label that is too long is for no key of PSA: the call stores nothing and fails. -/
theorem keypair_long {prv pub : List UInt8}
    (hlong : configTLS_MAX_LABEL_LEN < prv.length ∨ configTLS_MAX_LABEL_LEN < pub.length)
    (link : Crypto.PkiLink) (st : Crypto.PkiStores) (out : Crypto.DerOut)
    (a : Crypto.GenerateAns Crypto.PkiKey) :
    ∃ status ≠ .success, Crypto.xPkiGenerateECKeypair link st prv pub out a = some (st, status) := by
  have hnone : ∀ {l : List UInt8}, configTLS_MAX_LABEL_LEN < l.length → Crypto.xPkiObjectFromLabel l = .none := by
    intro l hl
    have hne : ∀ s : List UInt8, s.length ≤ configTLS_MAX_LABEL_LEN → l ≠ s := by
      rintro s hs rfl
      omega
    simp only [Crypto.xPkiObjectFromLabel, if_neg (hne tlsKeyPrvLabel (by decide)),
      if_neg (hne tlsKeyPubLabel (by decide)), if_neg (hne tlsCertLabel (by decide)),
      if_neg (hne Crypto.tlsRootCaCertLabel (by decide)), if_neg (hne otaSigningKeyLabel (by decide))]
  unfold Crypto.xPkiGenerateECKeypair
  cases hpub : Crypto.xPkiObjectFromLabel pub with
  | psaCrypto id =>
    have hprv : configTLS_MAX_LABEL_LEN < prv.length := by
      refine hlong.resolve_right fun h => ?_
      rw [hnone h] at hpub
      cases hpub
    obtain ⟨r, hgen, hne⟩ := Crypto.generate_zero link.pki Crypto.PkiKey.publicKey st.keyStore id out a
      (show (Crypto.xPkiObjectFromLabel prv).cryptoId = 0 by rw [hnone hprv]; rfl)
    have hkeys : (fun id => (st.keyStore id).map Crypto.StoredKey.pkiKey) = st.keys := by
      funext id
      show ((st.keys id).map .keyPair).map Crypto.StoredKey.pkiKey = st.keys id
      cases st.keys id <;> rfl
    refine ⟨_, hne, ?_⟩
    simp only [hgen, Option.map_some, hkeys]
  | _ => exact ⟨.argInvalid, by decide, rfl⟩

/-! ## Every line -/

/-- When the labels on a line are handled as they should be. -/
def LabelsRight (c : PkiCalls) (args : List (List UInt8)) : SubCommand → Prop
  | .generateKey => KeyLabelsRight c args
  | .generateCert => CertLabelsRight c args
  | s => s.AllShort args

/-- **The labels of `pki`** are handled as they should be exactly when they fit and, for `generate key`, come
in pairs with the public one no longer than the private one. Otherwise the call has to come to no key. -/
theorem pki_labels_iff (hcs : ∀ cmd ∈ cs, Word cmd.pcCommand) (hline : 0 ∉ line)
    (hhead : line.head? ≠ some SPACE) {s : SubCommand} (hs : s ∈ labelled)
    (hw : words SPACE line = s.start ++ args) (c : PkiCalls) (junk : List UInt8) :
    ∃ m, enterPki c cs (line ++ 0 :: junk) = some m ∧
      (LabelLaw c.base64 s args m.log ↔ LabelsRight c args s) := by
  obtain ⟨argv, hargv, hrun⟩ := enterPki_run hcs hline hhead hw c junk
  refine ⟨_, hrun, ?_⟩
  simp only [labelled, List.mem_cons, List.not_mem_nil, or_false] at hs
  rcases hs with rfl | rfl | rfl | rfl
  · exact ⟨KeyLabelsRight.of_law hargv hw, KeyLabelsRight.law hargv hw⟩
  · exact generateCert_law_iff hargv hw
  · obtain ⟨hread, hlog⟩ := importCert_events c argv (words SPACE line).length
    refine import_law_iff hargv hw rfl (fun kind hk => ?_) (by decide) (by decide) (fun _ => rfl)
      (fun _ => rfl) hread hlog
    cases kind <;> first | rfl | exact absurd rfl hk
  · obtain ⟨hread, hlog⟩ := importKey_events c argv (words SPACE line).length
    refine import_law_iff hargv hw rfl (fun kind hk => ?_) (by decide) (by decide) (fun _ => rfl)
      (fun _ => rfl) hread hlog
    cases kind <;> first | rfl | exact absurd rfl hk

/-- The certificate as PEM. -/
def certificateText : List (List UInt8) :=
  [ascii "-----BEGIN CERTIFICATE-----"] ++
  (List.range 6).map (fun i => Base64.encode ((deviceCertificate.drop (48 * i)).take 48)) ++
  [ascii "-----END CERTIFICATE-----"]

/-- The text is read as the certificate. -/
theorem certificateText_read : ∃ buf, readPem standardBase64 (fun n size => some (List.replicate (n * size) 0))
    (certificateText.map .ofConsole) = some (.ok ⟨true, some (buf, deviceCertificate.length), [], []⟩) ∧
    buf.take deviceCertificate.length = deviceCertificate := by
  have hread : (xReadPemFromCliAsDer standardBase64 (fun n size => some (List.replicate (n * size) 0))
      (certificateText.map .ofConsole)).map
        (fun p => (p.ret, p.der.map (fun d => (d.1.take d.2, d.2)), p.printed, p.unread.length)) =
      some (true, some (deviceCertificate, deviceCertificate.length), [], 0) := by decide +kernel
  obtain ⟨⟨ret, der, printed, unread⟩, h, hp⟩ := Option.map_eq_some_iff.1 hread
  simp only [Prod.mk.injEq, Option.map_eq_some_iff, List.length_eq_zero_iff] at hp
  obtain ⟨rfl, ⟨⟨buf, n⟩, rfl, htake, hn⟩, rfl, rfl⟩ := hp
  dsimp only at htake hn
  rw [← hn]
  exact ⟨buf, by rw [readPem, h], htake⟩

/-- The certificate is typed, and taken. -/
def typing : PkiCalls := { succeeding with
  mbedtls_calloc := fun n size => some (List.replicate (n * size) 0)
  lines := certificateText.map .ofConsole
  ended := by
    obtain ⟨buf, h, -⟩ := certificateText_read
    exact Option.isSome_of_eq_some h
  mbedtls_x509_crt_parse_der_nocopy := fun der =>
    if der = deviceCertificate then 0 else Crypto.mbedtlsErrX509BadInputData }

theorem typing_derRead : typing.derRead = some deviceCertificate := by
  obtain ⟨buf, h, hbuf⟩ := certificateText_read
  have hread : typing.read = .ok ⟨true, some (buf, deviceCertificate.length), [], []⟩ :=
    Option.get_of_eq_some _ h
  rw [PkiCalls.derRead, hread]
  exact congrArg some hbuf

/-- `pki import cert root_ca_cert` stores the certificate that is typed, under the label. -/
theorem pki_labels_root_ca_cert : ∃ m pcCertLabel,
    enterPki typing [] (ascii "pki import cert root_ca_cert" ++ 0 :: []) = some m ∧
      .xPkiWriteCertificate pcCertLabel deviceCertificate true ∈ m.log ∧
      cstr pcCertLabel = ascii "root_ca_cert" ∧
      LabelLaw standardBase64 .importCert [ascii "root_ca_cert"] m.log := by
  have hw : words SPACE (ascii "pki import cert root_ca_cert") =
      SubCommand.importCert.start ++ [ascii "root_ca_cert"] := by decide +kernel
  obtain ⟨m, hm, hiff⟩ := pki_labels_iff noCommands (by decide) (by decide) (by decide) hw typing []
  have hlaw := hiff.2 fun l ⟨kind, x, hx, hl⟩ => by
    obtain rfl : l = ascii "root_ca_cert" := List.mem_singleton.1 (List.mem_of_getElem? hl)
    decide
  obtain ⟨argv, -, hrun⟩ := enterPki_run noCommands (by decide) (by decide) hw typing []
  obtain rfl := Option.some.inj (hm.symm.trans hrun)
  have hstored : .xPkiWriteCertificate (labelArray (words SPACE (ascii "pki import cert root_ca_cert")).length
      argv tlsCertLabel) deviceCertificate true ∈ (vSubCommand_ImportCertificate typing
        (words SPACE (ascii "pki import cert root_ca_cert")).length argv).log := by
    have hparsed : 0 < deviceCertificate.length ∧
        0 ≤ typing.mbedtls_x509_crt_parse_der_nocopy deviceCertificate := by decide +kernel
    rw [importCert_log, typing_derRead]
    dsimp only
    rw [if_pos hparsed]
    exact List.mem_cons_of_mem _ List.mem_cons_self
  have hmeant := hlaw.exact _ hstored rfl .cert _ List.mem_cons_self
  exact ⟨_, _, hm, hstored, (Option.some.inj hmeant).symm, hlaw⟩

/-- With one label the default keys are made anew. -/
theorem pki_labels_missed : ∃ m, enterPki succeeding [] (ascii "pki generate key mylabel" ++ 0 :: []) = some m ∧
    .xPkiGenerateECKeypair (literal tlsKeyPrvLabel) (literal tlsKeyPubLabel) true ∈ m.log ∧
    ¬LabelLaw standardBase64 .generateKey [ascii "mylabel"] m.log := by
  have hw : words SPACE (ascii "pki generate key mylabel") =
      SubCommand.generateKey.start ++ [ascii "mylabel"] := by decide +kernel
  obtain ⟨argv, hargv, hrun⟩ := enterPki_run noCommands (by decide) (by decide) hw succeeding []
  refine ⟨_, hrun, ?_, fun hlaw => ?_⟩
  · have hdflt := keyLabels_dflt (n := (words SPACE (ascii "pki generate key mylabel")).length)
      (by rw [hw]; decide) argv
    rw [show SubCommand.run succeeding _ argv .generateKey = vSubCommand_GenerateKey succeeding _ argv from rfl,
      generateKey_log hdflt]
    exact List.mem_cons_self
  · rcases KeyLabelsRight.of_law (c := succeeding) hargv hw hlaw with h | ⟨hone, -⟩
    · cases h
    · exact hone rfl

end Cli
