import TrustZone.Cli.Proof.PkiConsole

/-!
# What `pki` says about its outcome

A host takes a PEM text or a success line for a success, and a line with `error` for a failure. `generate cert`
shows the certificate whether it was stored or not, and several failures end without a word.

* `reader_printed`: the reader of a PEM text prints nothing or an error line.
* `Outcome.of_log`: the law of a sub-command from what it shows.
* `pki_outcome_iff`: when what is shown is right.
-/

namespace Cli

open Lib
open Crypto (PkiStatus)

variable {b : MbedtlsBase64} {c : PkiCalls} {cs : List CLI_Command_Definition_t} {line junk : List UInt8}
  {args : List (List UInt8)} {argv : Argv} {e : PkiEvent} {log log' : List PkiEvent} {n : Nat}

/-! ## The reader -/

/-- Nothing was printed, or an error line. -/
def Reports (printed : List UInt8) : Prop := printed = [] ∨ ascii "Error" <+: printed

theorem Reports.hasError {printed : List UInt8} (h : Reports printed) : HasError printed ↔ printed ≠ [] := by
  constructor
  · rintro ⟨w, hw, hin⟩ rfl
    obtain rfl := List.infix_nil.1 hin
    exact absurd hw (by decide)
  · exact fun hne => .of_start (h.resolve_left hne)

theorem Reports.error {r : PemReader} (h : Reports r.printed) {msg : List UInt8}
    (hmsg : ascii "Error" <+: msg) : Reports (r.error msg).printed := by
  rcases h with h | h
  · refine .inr ?_
    show ascii "Error" <+: r.printed ++ msg
    rwa [h]
  · exact .inr (h.trans (List.prefix_append _ _))

/-- Decoding prints nothing. -/
theorem decodeLine_printed {r r' : PemReader} {l : List UInt8} {k : Nat} (h : decodeLine b r l k = some r') :
    r'.printed = r.printed := by
  unfold decodeLine at h
  split_ifs at h
  · dsimp only at h
    split_ifs at h
    · exact Option.some.inj h ▸ rfl
    · exact Option.some.inj h ▸ rfl
  · exact Option.some.inj h ▸ rfl

theorem checkFooter_reports {r : PemReader} (hr : Reports r.printed) (l : List UInt8) (k : Nat) :
    Reports (checkFooter r l k).printed := by
  unfold checkFooter
  split_ifs
  · split
    · exact hr.error (by decide +kernel)
    · exact hr
  · exact hr

/-- A line is read. -/
theorem readPemLine_reports {r r' : PemReader} {l : Line} (hr : Reports r.printed)
    (h : readPemLine b r l = some r') : Reports r'.printed := by
  have hdecode : ∀ {r₀ : PemReader} {k : Nat}, Reports r₀.printed →
      decodeLine b r₀ l.pcInputBuffer k = some r' → Reports r'.printed := fun hr₀ hd =>
    decodeLine_printed hd ▸ hr₀
  unfold readPemLine at h
  dsimp only at h
  split_ifs at h
  · exact hdecode (hr.error (by decide +kernel)) h
  · exact hdecode (hr.error (by decide +kernel)) h
  · split at h
    · exact hdecode (hr.error (by decide +kernel)) h
    · exact Option.some.inj h ▸ hr
  · exact hdecode (hr.error (by decide +kernel)) h
  · exact hdecode (checkFooter_reports hr _ _) h
  · exact hdecode hr h
  · exact Option.some.inj h ▸ hr

theorem readPemLoop_reports {r : PemReader} {ls : List Line} {res : PemResult} (hr : Reports r.printed)
    (h : readPemLoop b r ls = some res) : Reports res.printed := by
  induction ls generalizing r with
  | nil =>
    unfold readPemLoop at h
    split_ifs at h
    exact Option.some.inj h ▸ hr
  | cons l ls ih =>
    unfold readPemLoop at h
    split_ifs at h
    · dsimp only at h
      split at h
      · cases h
      · rename_i r' hline
        have hr' := readPemLine_reports hr hline
        split_ifs at h
        · exact Option.some.inj h ▸ hr'
        · exact ih hr' h
    · exact Option.some.inj h ▸ hr

theorem Reports.append {s t : List UInt8} (hs : Reports s) (ht : Reports t) : Reports (s ++ t) := by
  rcases hs with rfl | hs
  · exact ht
  · exact .inr (hs.trans (List.prefix_append _ _))

theorem lineMessage_reports (r : PemReader) (l : Line) : Reports (lineMessage r l) := by
  unfold lineMessage
  split_ifs
  · exact .inr (by decide +kernel)
  · exact .inr (by decide +kernel)
  · exact checkFooter_reports (.inl rfl) _ _

theorem assertLoop_reports {r : PemReader} {ls : List Line} {printed : List UInt8} (hr : Reports r.printed)
    (h : assertLoop b r ls = some printed) : Reports printed := by
  induction ls generalizing r with
  | nil => cases h
  | cons l ls ih =>
    unfold assertLoop at h
    split at h
    · exact Option.some.inj h ▸ hr.append (lineMessage_reports r l)
    · rename_i r' hline
      exact ih (readPemLine_reports hr hline) h

/-- **The reader says what it refuses**, or nothing. -/
theorem reader_printed (c : PkiCalls) : Reports c.printed := by
  have hread : readPem c.base64 c.mbedtls_calloc c.lines = some c.read := (Option.some_get c.ended).symm
  unfold PkiCalls.printed
  unfold readPem at hread
  split at hread
  · rename_i res hres
    rw [← Option.some.inj hread]
    unfold xReadPemFromCliAsDer at hres
    split at hres
    · rw [← Option.some.inj hres]
      show Reports (ascii "Error: Out of memory to store the given PEM file.\r\n")
      exact .inr (by decide +kernel)
    · exact readPemLoop_reports (.inl rfl) hres
  · split at hread
    · cases hread
    · obtain ⟨printed, hprinted, hread⟩ := Option.map_eq_some_iff.1 hread
      rw [← hread]
      exact assertLoop_reports (.inl rfl) hprinted

/-! ## The law -/

def HasSuccess (s : List UInt8) : Prop := ∃ w ∈ [ascii "SUCCESS", ascii "Success"], w <:+: cstr s

instance (s : List UInt8) : Decidable (HasSuccess s) := inferInstanceAs (Decidable (∃ w ∈ _, _))

instance (s : List UInt8) : Decidable (HasError s) := inferInstanceAs (Decidable (∃ w ∈ _, _))

/-- A success line, or a PEM text from its header to its footer. -/
def PkiEvent.Success (b : MbedtlsBase64) : PkiEvent → Prop
  | print pcString => HasSuccess pcString
  | vPrintDer _ _ pucDer => Encodes b pucDer
  | _ => False

def ShowsSuccess (b : MbedtlsBase64) (log : List PkiEvent) : Prop := ∃ e ∈ log, e.Success b

def ShowsError (b : MbedtlsBase64) (log : List PkiEvent) : Prop := ∃ e ∈ log, e.ErrorLine b

/-- **What is shown is right**: a success is one, and there is an error line when none is shown. -/
structure OutcomeLaw (b : MbedtlsBase64) (done : Prop) (log : List PkiEvent) : Prop where
  success : ShowsSuccess b log → done
  error : ¬ShowsSuccess b log → ShowsError b log

@[simp] theorem showsSuccess_nil : ¬ShowsSuccess b [] := by simp [ShowsSuccess]

@[simp] theorem showsSuccess_cons : ShowsSuccess b (e :: log) ↔ e.Success b ∨ ShowsSuccess b log := by
  simp [ShowsSuccess]

@[simp] theorem showsSuccess_append :
    ShowsSuccess b (log ++ log') ↔ ShowsSuccess b log ∨ ShowsSuccess b log' := by
  simp [ShowsSuccess, or_and_right, exists_or]

@[simp] theorem showsError_nil : ¬ShowsError b [] := by simp [ShowsError]

@[simp] theorem showsError_cons : ShowsError b (e :: log) ↔ e.ErrorLine b ∨ ShowsError b log := by
  simp [ShowsError]

@[simp] theorem showsError_append : ShowsError b (log ++ log') ↔ ShowsError b log ∨ ShowsError b log' := by
  simp [ShowsError, or_and_right, exists_or]

/-- Where nothing was done, there is an error line and neither a PEM text nor a success line. -/
theorem OutcomeLaw.of_not_done {done : Prop} (h : OutcomeLaw b done log) (hnot : ¬done) :
    ShowsError b log ∧ ¬ShowsSuccess b log :=
  ⟨h.error fun hs => hnot (h.success hs), fun hs => hnot (h.success hs)⟩

/-- The law where what is shown is known. -/
theorem outcomeLaw_iff {done : Prop} : OutcomeLaw b done log ↔
    (ShowsSuccess b log → done) ∧ (ShowsSuccess b log ∨ ShowsError b log) := by
  constructor
  · intro h
    exact ⟨h.success, or_iff_not_imp_left.2 h.error⟩
  · intro h
    exact ⟨h.1, or_iff_not_imp_left.1 h.2⟩

/-! ## Public keys -/

/-- There is a public key, and its text is shown. -/
def ShowsKey (b : MbedtlsBase64) (der : Option (List UInt8)) : Prop :=
  ∃ d, der = some d ∧ 0 < d.length ∧ Encodes b d

theorem printPublicKey_success (b : MbedtlsBase64) (der : Option (List UInt8)) :
    ShowsSuccess b (printPublicKey der).log ↔ ShowsKey b der := by
  unfold printPublicKey ShowsKey
  cases der with
  | none => simp
  | some d =>
    by_cases h : 0 < d.length
    · simp [h, PkiEvent.Success]
    · simp [h]

/-- A key that is there is shown, or an error line. -/
theorem printPublicKey_error (b : MbedtlsBase64) (der : Option (List UInt8)) :
    ShowsSuccess b (printPublicKey der).log ∨ ShowsError b (printPublicKey der).log ↔
      ∃ d, der = some d ∧ 0 < d.length := by
  unfold printPublicKey
  cases der with
  | none => simp
  | some d =>
    by_cases h : 0 < d.length
    · simp [h, PkiEvent.Success, PkiEvent.ErrorLine, em]
    · simp [h]

theorem generateKey_outcome_iff (c : PkiCalls) (n : Nat) (argv : Argv) :
    OutcomeLaw c.base64 (c.xPkiGenerateECKeypair.status = .success) (vSubCommand_GenerateKey c n argv).log ↔
      c.xPkiGenerateECKeypair.status = .success ∨ ¬ShowsKey c.base64 c.generatedDer := by
  have hlabels : keyLabels n argv = ((keyLabels n argv).1, (keyLabels n argv).2) := rfl
  rw [generateKey_log hlabels, outcomeLaw_iff]
  by_cases hstatus : c.xPkiGenerateECKeypair.status = .success
  · have hline : HasSuccess (ascii "SUCCESS: Key pair generated and stored in\r\n") := by decide +kernel
    rw [hstatus, printKeyLabels_success]
    simp [PkiEvent.Success, hline]
  · have hline : ¬HasSuccess (ascii "ERROR: Failed to generate public/private key pair.\r\n") := by decide +kernel
    have herror : HasError (ascii "ERROR: Failed to generate public/private key pair.\r\n") := by decide +kernel
    rw [printKeyLabels_error hstatus]
    simp [PkiEvent.Success, PkiEvent.ErrorLine, hline, herror, hstatus, printPublicKey_success]

theorem exportKey_outcome_iff (c : PkiCalls) (n : Nat) (argv : Argv) :
    OutcomeLaw c.base64 (c.xPkiReadPublicKeyDer.status = .success ∧ ∃ d, c.publicKeyDer = some d ∧ 0 < d.length)
      (vSubCommand_ExportKey c n argv).log ↔
      if c.xPkiReadPublicKeyDer.status = .success then
        c.xPkiReadPublicKeyDer.logged.val ≠ [] ∨ ∃ d, c.publicKeyDer = some d ∧ 0 < d.length
      else ¬ShowsKey c.base64 c.publicKeyDer := by
  have hend : ¬HasSuccess (ascii "\r\n") ∧ ¬HasError (ascii "\r\n") := by decide +kernel
  unfold vSubCommand_ExportKey
  simp only [log_call_bind, log_say_bind, log_act_bind]
  rw [outcomeLaw_iff, ← printPublicKey_error c.base64]
  split_ifs with hstatus
  · have hline : ¬HasSuccess (ascii "Public Key Label: ") ∧ ¬HasError (ascii "Public Key Label: ") := by
      decide +kernel
    simp only [showsSuccess_cons, showsError_cons, PkiEvent.Success, PkiEvent.ErrorLine, hline, hend,
      LogText.hasError, false_or, true_and, hstatus]
    tauto
  · have hline : ¬HasSuccess (ascii "ERROR: Failed to locate public key with label: ") ∧
      HasError (ascii "ERROR: Failed to locate public key with label: ") := by decide +kernel
    simp [PkiEvent.Success, PkiEvent.ErrorLine, hline, hend, hstatus, printPublicKey_success]

theorem exportCert_outcome_iff (c : PkiCalls) (n : Nat) (argv : Argv) :
    OutcomeLaw c.base64 (c.xPkiReadCertificate.status = .success) (vSubCommand_ExportCertificate c n argv).log ↔
      c.xPkiReadCertificate.status = .success ∨ c.xPkiReadCertificate.logged.val ≠ [] := by
  unfold vSubCommand_ExportCertificate
  simp only [log_call_bind]
  rw [outcomeLaw_iff]
  by_cases hstatus : c.xPkiReadCertificate.status = .success
  · by_cases henc : Encodes c.base64 c.certificateDer <;>
      simp [PkiEvent.Success, PkiEvent.ErrorLine, hstatus, henc]
  · simp [PkiEvent.Success, PkiEvent.ErrorLine, hstatus, LogText.hasError]

/-! ## `import` -/

theorem printWritten_log (kind : LabelKind) (xStatus : PkiStatus) (success error pcLabel : List UInt8) :
    (printWritten kind xStatus success error pcLabel).log =
      [.print (if xStatus = .success then success else error), .printLabel kind pcLabel,
        .print (ascii "'.\r\n")] := rfl

/-- The line about an object that was written tells how it went. -/
theorem printWritten_outcome (b : MbedtlsBase64) (kind : LabelKind) (xStatus : PkiStatus)
    {success error : List UInt8} (pcLabel : List UInt8) (hsuccess : HasSuccess success)
    (herror : HasError error) (hno : ¬HasSuccess error) :
    (ShowsSuccess b (printWritten kind xStatus success error pcLabel).log ↔ xStatus = .success) ∧
      (xStatus = .success ∨ ShowsError b (printWritten kind xStatus success error pcLabel).log) := by
  have hend : ¬HasSuccess (ascii "'.\r\n") := by decide +kernel
  rw [printWritten_log]
  by_cases hstatus : xStatus = .success
  · simp [PkiEvent.Success, PkiEvent.ErrorLine, hstatus, hsuccess]
  · simp [PkiEvent.Success, PkiEvent.ErrorLine, hstatus, herror, hno, hend]

theorem importCert_outcome_iff (c : PkiCalls) (n : Nat) (argv : Argv) :
    OutcomeLaw c.base64 ((∃ der, c.derRead = some der ∧ 0 < der.length ∧
        0 ≤ c.mbedtls_x509_crt_parse_der_nocopy der) ∧ c.xPkiWriteCertificate.status = .success)
      (vSubCommand_ImportCertificate c n argv).log ↔
      c.printed ≠ [] ∨ ∃ der, c.derRead = some der ∧ 0 < der.length ∧
        0 ≤ c.mbedtls_x509_crt_parse_der_nocopy der := by
  have hreader := (reader_printed c).hasError
  obtain ⟨hshown, herror⟩ := printWritten_outcome c.base64 .cert c.xPkiWriteCertificate.status
    (labelArray n argv Crypto.tlsCertLabel)
    (show HasSuccess (ascii "Success: Certificate loaded to label: '") by decide +kernel)
    (show HasError (ascii "Error: failed to save certificate to label: '") by decide +kernel) (by decide +kernel)
  rw [importCert_log, outcomeLaw_iff]
  cases hder : c.derRead with
  | none => simp [PkiEvent.Success, PkiEvent.ErrorLine, hreader]
  | some der =>
    by_cases hparse : 0 < der.length ∧ 0 ≤ c.mbedtls_x509_crt_parse_der_nocopy der
    · -- the certificate is stored, or an error line shown
      simp only [if_pos hparse, showsSuccess_cons, showsError_cons, PkiEvent.Success, PkiEvent.ErrorLine,
        false_or, hshown]
      refine iff_of_true ⟨fun h => ⟨⟨der, rfl, hparse⟩, h⟩, ?_⟩ (.inr ⟨der, rfl, hparse⟩)
      exact herror.imp id fun h => .inr (.inr h)
    · simp [PkiEvent.Success, PkiEvent.ErrorLine, hreader, hparse]

theorem importKey_outcome_iff (c : PkiCalls) (n : Nat) (argv : Argv) :
    OutcomeLaw c.base64 ((∃ der, c.derRead = some der ∧ c.mbedtls_pk_parse_public_key der = 0) ∧
        c.xPkiWritePubKey.status = .success) (vSubCommand_ImportPubKey c n argv).log ↔
      c.printed ≠ [] ∨ c.derRead ≠ none := by
  have hreader := (reader_printed c).hasError
  obtain ⟨hshown, herror⟩ := printWritten_outcome c.base64 .pubKey c.xPkiWritePubKey.status
    (labelArray n argv Crypto.otaSigningKeyLabel)
    (show HasSuccess (ascii "Success: Public Key loaded to label: '") by decide +kernel)
    (show HasError (ascii "Error: failed to save public key to label: '") by decide +kernel) (by decide +kernel)
  rw [importKey_log, outcomeLaw_iff]
  cases hder : c.derRead with
  | none => simp [PkiEvent.Success, PkiEvent.ErrorLine, hreader]
  | some der =>
    refine iff_of_true ?_ (.inr (Option.some_ne_none der))
    by_cases hparse : c.mbedtls_pk_parse_public_key der = 0
    · simp only [if_neg (not_not_intro hparse), showsSuccess_cons, showsError_cons,
        PkiEvent.Success, PkiEvent.ErrorLine, false_or, hshown]
      exact ⟨fun h => ⟨⟨der, rfl, hparse⟩, h⟩, herror.imp id fun h => .inr (.inr h)⟩
    · have hline : ¬HasSuccess (ascii "ERROR: Failed to parse public key.") ∧
        HasError (ascii "ERROR: Failed to parse public key.") := by decide +kernel
      simp [PkiEvent.Success, PkiEvent.ErrorLine, hline, hparse]

/-! ## `generate` with DER -/

/-- An error line about the step that fails. -/
def StepLogged (c : PkiCalls) (l : List (Int × List UInt8)) (a : DerAns) (pMessage : List UInt8) : Prop :=
  ∃ x, firstError l a pMessage = some x ∧ (c.vLoggingPrintfError x.2).val ≠ []

/-- All steps succeed, and the DER is there. -/
def Made (l : List (Int × List UInt8)) (granted : Bool) (a : DerAns) (pMessage : List UInt8) : Prop :=
  firstError l a pMessage = none ∧ a.Fits granted

theorem withDer_success {l : List (Int × List UInt8)} {granted : Bool} {a : DerAns} {pMessage : List UInt8}
    {k : List UInt8 → PkiM Unit} : ShowsSuccess b (c.withDer l granted a pMessage k).log ↔
      Made l granted a pMessage ∧ ShowsSuccess b (k a.der).log := by
  rw [log_withDer, Made]
  cases firstError l a pMessage with
  | some x => simp [PkiEvent.Success]
  | none =>
    by_cases hfits : a.Fits granted
    · simp [hfits]
    · simp [hfits]

theorem withDer_error {l : List (Int × List UInt8)} {granted : Bool} {a : DerAns} {pMessage : List UInt8}
    {k : List UInt8 → PkiM Unit} : ShowsError b (c.withDer l granted a pMessage k).log ↔
      StepLogged c l a pMessage ∨ Made l granted a pMessage ∧ ShowsError b (k a.der).log := by
  rw [log_withDer, Made, StepLogged]
  cases firstError l a pMessage with
  | some x => simp [PkiEvent.ErrorLine, LogText.hasError]
  | none =>
    by_cases hfits : a.Fits granted
    · simp [hfits]
    · simp [hfits]

/-- The request is made. -/
def CsrMade (c : PkiCalls) : Prop :=
  c.xPkiReadPrivateKey.status = .success ∧
    Made (csrSteps c.csr c.thingName) c.csr.pucCsrDer c.csr.csr_der (ascii "Failed to create CSR:")

/-- An error line about the request is logged. -/
def CsrLogged (c : PkiCalls) : Prop :=
  c.xPkiReadPrivateKey.logged.val ≠ [] ∨ c.xPkiReadPrivateKey.status = .success ∧
    StepLogged c (csrSteps c.csr c.thingName) c.csr.csr_der (ascii "Failed to create CSR:")

theorem generateCsr_outcome_iff (c : PkiCalls) (n : Nat) (argv : Argv) :
    OutcomeLaw c.base64 (CsrMade c) (vSubCommand_GenerateCsr c n argv).log ↔ CsrMade c ∨ CsrLogged c := by
  unfold vSubCommand_GenerateCsr CsrMade CsrLogged
  simp only [log_call_bind]
  rw [outcomeLaw_iff]
  by_cases hread : c.xPkiReadPrivateKey.status = .success
  · simp only [if_true, showsSuccess_cons, showsError_cons, PkiEvent.Success, PkiEvent.ErrorLine,
      LogText.hasError, withDer_success, withDer_error, log_act, showsSuccess_nil, showsError_nil, or_false,
      false_or, hread, true_and]
    tauto
  · simp [PkiEvent.Success, PkiEvent.ErrorLine, hread, LogText.hasError]

/-- The certificate is made, and it parses. -/
def CrtMade (c : PkiCalls) : Prop :=
  c.xPkiReadPrivateKey.status = .success ∧
    Made (crtSteps c.crt c.thingName) c.crt.pucCertDer c.crt.crt_der (ascii "Failed to create certificate:") ∧
    0 ≤ c.mbedtls_x509_crt_parse_der_nocopy c.crt.crt_der.der

/-- An error line about the certificate is logged before it is stored. -/
def CrtLogged (c : PkiCalls) : Prop :=
  c.xPkiReadPrivateKey.logged.val ≠ [] ∨ c.xPkiReadPrivateKey.status = .success ∧
    (StepLogged c (crtSteps c.crt c.thingName) c.crt.crt_der (ascii "Failed to create certificate:") ∨
      Made (crtSteps c.crt c.thingName) c.crt.pucCertDer c.crt.crt_der (ascii "Failed to create certificate:") ∧
        c.mbedtls_x509_crt_parse_der_nocopy c.crt.crt_der.der < 0 ∧
        (c.vLoggingPrintfError (ascii "Failed to validate resulting certificate.")).val ≠ [])

theorem storeCertificate_success (label der : List UInt8) :
    ShowsSuccess c.base64 (storeCertificate c label der).log ↔
      0 ≤ c.mbedtls_x509_crt_parse_der_nocopy der ∧ Encodes c.base64 der := by
  unfold storeCertificate PkiCalls.msgIfError
  dsimp only
  by_cases hparse : c.mbedtls_x509_crt_parse_der_nocopy der < 0
  · rw [if_pos hparse, log_act_bind, if_neg (Int.not_le.2 hparse)]
    simp [PkiEvent.Success, Int.not_le.2 hparse]
  · rw [if_neg hparse, log_pure_bind, if_pos (Int.not_lt.1 hparse), log_call_bind]
    simp [PkiEvent.Success, Int.not_lt.1 hparse]

theorem storeCertificate_error (label der : List UInt8) :
    ShowsError c.base64 (storeCertificate c label der).log ↔
      if 0 ≤ c.mbedtls_x509_crt_parse_der_nocopy der then
        c.xPkiWriteCertificate.logged.val ≠ [] ∨ ¬Encodes c.base64 der
      else (c.vLoggingPrintfError (ascii "Failed to validate resulting certificate.")).val ≠ [] := by
  unfold storeCertificate PkiCalls.msgIfError
  dsimp only
  by_cases hparse : c.mbedtls_x509_crt_parse_der_nocopy der < 0
  · rw [if_pos hparse, log_act_bind, if_neg (Int.not_le.2 hparse), if_neg (Int.not_le.2 hparse)]
    simp [PkiEvent.ErrorLine, LogText.hasError]
  · rw [if_neg hparse, log_pure_bind, if_pos (Int.not_lt.1 hparse), if_pos (Int.not_lt.1 hparse), log_call_bind]
    simp [PkiEvent.ErrorLine, LogText.hasError]

/-- The certificate is shown whether it was stored or not. -/
theorem generateCert_success (c : PkiCalls) (n : Nat) (argv : Argv) :
    ShowsSuccess c.base64 (vSubCommand_GenerateCertificate c n argv).log ↔
      CrtMade c ∧ Encodes c.base64 c.crt.crt_der.der := by
  unfold vSubCommand_GenerateCertificate CrtMade
  simp only [log_call_bind, showsSuccess_cons, PkiEvent.Success, false_or]
  split_ifs with hread
  · rw [withDer_success, storeCertificate_success]
    tauto
  · simp [hread]

theorem generateCert_error (c : PkiCalls) (n : Nat) (argv : Argv) :
    ShowsError c.base64 (vSubCommand_GenerateCertificate c n argv).log ↔ CrtLogged c ∨
      CrtMade c ∧ (c.xPkiWriteCertificate.logged.val ≠ [] ∨ ¬Encodes c.base64 c.crt.crt_der.der) := by
  unfold vSubCommand_GenerateCertificate CrtMade CrtLogged
  simp only [log_call_bind, showsError_cons, PkiEvent.ErrorLine, LogText.hasError, false_or]
  split_ifs with hread
  · rw [withDer_error, storeCertificate_error]
    by_cases hparse : 0 ≤ c.mbedtls_x509_crt_parse_der_nocopy c.crt.crt_der.der
    · simp only [hparse, Int.not_lt.2 hparse, if_true, hread, true_and, and_true, false_and, and_false, or_false]
      tauto
    · simp only [hparse, Int.not_le.1 hparse, if_false, hread, true_and, false_and, and_false, or_false]
  · simp [hread]

theorem generateCert_outcome_iff (c : PkiCalls) (n : Nat) (argv : Argv) :
    OutcomeLaw c.base64 (CrtMade c ∧ c.xPkiWriteCertificate.status = .success)
      (vSubCommand_GenerateCertificate c n argv).log ↔
      CrtMade c ∧ (c.xPkiWriteCertificate.status = .success ∨ ¬Encodes c.base64 c.crt.crt_der.der) ∨
        ¬CrtMade c ∧ CrtLogged c := by
  rw [outcomeLaw_iff, generateCert_success, generateCert_error]
  tauto

/-! ## Every line -/

/-- The object is there, and stored where it is to be stored. -/
def PkiCalls.Done (c : PkiCalls) : SubCommand → Prop
  | .generateKey => c.xPkiGenerateECKeypair.status = .success
  | .generateCsr => CsrMade c
  | .generateCert => CrtMade c ∧ c.xPkiWriteCertificate.status = .success
  | .importCert => (∃ der, c.derRead = some der ∧ 0 < der.length ∧
      0 ≤ c.mbedtls_x509_crt_parse_der_nocopy der) ∧ c.xPkiWriteCertificate.status = .success
  | .importKey => (∃ der, c.derRead = some der ∧ c.mbedtls_pk_parse_public_key der = 0) ∧
      c.xPkiWritePubKey.status = .success
  | .exportCert => c.xPkiReadCertificate.status = .success
  | .exportKey => c.xPkiReadPublicKeyDer.status = .success ∧ ∃ d, c.publicKeyDer = some d ∧ 0 < d.length

/-- When what a sub-command shows is right. -/
def OutcomeRight (c : PkiCalls) : SubCommand → Prop
  | .generateKey => c.xPkiGenerateECKeypair.status = .success ∨ ¬ShowsKey c.base64 c.generatedDer
  | .generateCsr => CsrMade c ∨ CsrLogged c
  | .generateCert =>
      CrtMade c ∧ (c.xPkiWriteCertificate.status = .success ∨ ¬Encodes c.base64 c.crt.crt_der.der) ∨
        ¬CrtMade c ∧ CrtLogged c
  | .importCert => c.printed ≠ [] ∨ ∃ der, c.derRead = some der ∧ 0 < der.length ∧
      0 ≤ c.mbedtls_x509_crt_parse_der_nocopy der
  | .importKey => c.printed ≠ [] ∨ c.derRead ≠ none
  | .exportCert => c.xPkiReadCertificate.status = .success ∨ c.xPkiReadCertificate.logged.val ≠ []
  | .exportKey =>
      if c.xPkiReadPublicKeyDer.status = .success then
        c.xPkiReadPublicKeyDer.logged.val ≠ [] ∨ ∃ d, c.publicKeyDer = some d ∧ 0 < d.length
      else ¬ShowsKey c.base64 c.publicKeyDer

/-- **What `pki` says about its outcome**, whatever the calls answer: when a success is shown for what is done
only, and an error line otherwise. -/
theorem pki_outcome_iff (hcs : ∀ cmd ∈ cs, Word cmd.pcCommand) (hline : 0 ∉ line)
    (hhead : line.head? ≠ some SPACE) {s : SubCommand} (hw : words SPACE line = s.start ++ args)
    (c : PkiCalls) (junk : List UInt8) : ∃ m, enterPki c cs (line ++ 0 :: junk) = some m ∧
      (OutcomeLaw c.base64 (c.Done s) m.log ↔ OutcomeRight c s) := by
  obtain ⟨argv, -, hrun⟩ := enterPki_run hcs hline hhead hw c junk
  refine ⟨_, hrun, ?_⟩
  cases s with
  | generateKey => exact generateKey_outcome_iff c _ argv
  | generateCsr => exact generateCsr_outcome_iff c _ argv
  | generateCert => exact generateCert_outcome_iff c _ argv
  | importCert => exact importCert_outcome_iff c _ argv
  | importKey => exact importKey_outcome_iff c _ argv
  | exportCert => exact exportCert_outcome_iff c _ argv
  | exportKey => exact exportKey_outcome_iff c _ argv

/-- `pki export cert` -/
theorem pki_outcome_export : ∃ m, enterPki succeeding [] (ascii "pki export cert" ++ 0 :: []) = some m ∧
    (OutcomeLaw standardBase64 (succeeding.Done .exportCert) m.log ↔ OutcomeRight succeeding .exportCert) := by
  have hw : words SPACE (ascii "pki export cert") = SubCommand.exportCert.start ++ [] := by decide +kernel
  exact pki_outcome_iff noCommands (by decide) (by decide) hw succeeding []

/-- As documented, every DER object is encoded. -/
theorem encodes_documented {text : List UInt8 → List UInt8} (hb : b.Documented text) (der : List UInt8) :
    Encodes b der := (printLoop_spec hb der 0 ⟨[], []⟩).1

/-- The certificate cannot be stored. -/
def storeFails : PkiCalls := { succeeding with xPkiWriteCertificate := .failed }

/-- It is shown nevertheless. -/
theorem pki_outcome_missed : ∃ m, enterPki storeFails [] (ascii "pki generate cert" ++ 0 :: []) = some m ∧
    ShowsSuccess standardBase64 m.log ∧ ¬storeFails.Done .generateCert ∧
    ¬OutcomeLaw standardBase64 (storeFails.Done .generateCert) m.log := by
  have hw : words SPACE (ascii "pki generate cert") = SubCommand.generateCert.start ++ [] := by decide +kernel
  obtain ⟨argv, -, hrun⟩ := enterPki_run noCommands (by decide) (by decide) hw storeFails []
  have hshown : ShowsSuccess standardBase64
      (vSubCommand_GenerateCertificate storeFails (words SPACE (ascii "pki generate cert")).length argv).log :=
    (generateCert_success storeFails _ argv).2
      ⟨⟨rfl, ⟨rfl, by decide⟩, by decide⟩, encodes_documented standardBase64_documented _⟩
  have hnot : ¬storeFails.Done .generateCert := fun h => by cases h.2
  exact ⟨_, hrun, hshown, hnot, fun h => hnot (h.success hshown)⟩

end Cli
