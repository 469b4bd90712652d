import Mathlib.Data.List.Infix
import TrustZone.Cli.Pki
import TrustZone.Cli.Proof.Dispatch
import TrustZone.Cli.Proof.Pem

/-!
# What `pki` shows

A host that drives the console has its text only.

* `enterPki_run`: a line runs the sub-command that it starts with.
* `printLoop_shows`: the lines of a DER object, and the error line where one is not encoded.
* `errorLine_shown`: an error line is found in what a sub-command shows.
* `echo_shown`: the text of a label that is shown.
-/

namespace Cli

open Lib
open Crypto (PkiStatus tlsCertLabel otaSigningKeyLabel)

variable {b : MbedtlsBase64} {con : Console} {e : PkiEvent} {log : List PkiEvent} {s t : List UInt8}
  {pucDer : List UInt8} {c : PkiCalls} {α β : Type}

/-! ## What is done -/

@[simp] theorem log_pure (a : α) : (pure a : PkiM α).log = [] := rfl

@[simp] theorem log_fail : (Traced.fail : PkiM α).log = [] := rfl

@[simp] theorem log_act (e : PkiEvent) : (act e).log = [e] := rfl

@[simp] theorem log_say (pcString : List UInt8) : (say pcString).log = [.print pcString] := rfl

@[simp] theorem log_pure_bind (a : α) (f : α → PkiM β) : (pure a >>= f).log = (f a).log := rfl

@[simp] theorem log_act_bind (e : PkiEvent) (f : Unit → PkiM β) : (act e >>= f).log = e :: (f ()).log := rfl

@[simp] theorem log_say_bind (pcString : List UInt8) (f : Unit → PkiM β) :
    (say pcString >>= f).log = .print pcString :: (f ()).log := rfl

@[simp] theorem log_call_bind (a : ObjectAns) (call : Bool → PkiEvent) (f : PkiStatus → PkiM β) :
    (a.call call >>= f).log = call a.touched :: .vLoggingPrintfError a.logged :: (f a.status).log := rfl

theorem log_act_bind_bind (e : PkiEvent) (g : Unit → PkiM α) (f : α → PkiM β) :
    (act e >>= g >>= f).log = e :: (g () >>= f).log := by
  rw [Traced.bind_assoc, log_act_bind]

/-- A text is read, and nothing follows where none was. -/
theorem log_readDer_bind (c : PkiCalls) {f : Option (List UInt8) → PkiM β} (hnone : (f none).log = []) :
    (c.readDer >>= f).log = .xReadPemFromCliAsDer c.printed ::
      match c.derRead with
      | none => []
      | some der => (f (some der)).log := by
  rw [PkiCalls.readDer, log_act_bind_bind]
  cases hread : c.read with
  | error printed =>
    have hder : c.derRead = none := by rw [PkiCalls.derRead, hread]
    rw [hder]
    rfl
  | ok res =>
    dsimp only
    rw [log_pure_bind]
    cases hder : c.derRead with
    | none => rw [hnone]
    | some der => rfl

/-- The certificate is parsed, and one that is empty fails an assertion. -/
theorem log_readX509Crt_bind (c : PkiCalls) {f : Option (List UInt8) → PkiM β} (hnone : (f none).log = []) :
    (c.readX509Crt >>= f).log = .xReadPemFromCliAsDer c.printed ::
      match c.derRead with
      | none => []
      | some der =>
        if 0 < der.length ∧ 0 ≤ c.mbedtls_x509_crt_parse_der_nocopy der then (f (some der)).log else [] := by
  rw [PkiCalls.readX509Crt, Traced.bind_assoc, log_readDer_bind c (by exact hnone)]
  cases c.derRead with
  | none => rfl
  | some der =>
    dsimp only
    by_cases hlen : 0 < der.length
    · by_cases hparse : c.mbedtls_x509_crt_parse_der_nocopy der < 0
      · rw [if_pos hlen, if_pos hparse, log_pure_bind, hnone, if_neg fun h => absurd h.2 (Int.not_le.2 hparse)]
      · rw [if_pos hlen, if_neg hparse, log_pure_bind, if_pos ⟨hlen, Int.not_lt.1 hparse⟩]
    · rw [if_neg hlen, if_neg fun h => hlen h.1]
      rfl

/-- The steps up to the first that fails, and its message. -/
theorem steps_eq (c : PkiCalls) (l : List (Int × List UInt8)) :
    match l.find? (·.1 < 0) with
    | none => ∃ lError, 0 ≤ lError ∧ c.steps l = ⟨[], some lError⟩
    | some (lError, pMessage) => lError < 0 ∧
        c.steps l = ⟨[.vLoggingPrintfError (c.vLoggingPrintfError pMessage)], some lError⟩ := by
  induction l with
  | nil => exact ⟨0, Int.le_refl 0, rfl⟩
  | cons x l ih =>
    obtain ⟨lError, pMessage⟩ := x
    by_cases h : lError < 0
    · rw [List.find?_cons_of_pos (by simpa using h)]
      refine ⟨h, ?_⟩
      simp only [PkiCalls.steps, PkiCalls.msgIfError, if_pos h, if_neg (Int.not_le.2 h)]
      rfl
    · have hstep : c.steps ((lError, pMessage) :: l) = c.steps l := by
        simp only [PkiCalls.steps, PkiCalls.msgIfError, if_neg h, if_pos (Int.not_lt.1 h)]
        rfl
      rw [List.find?_cons_of_neg (by simpa using h), hstep]
      exact ih

/-- The DER that was written. -/
def DerAns.der (a : DerAns) : List UInt8 := a.buffer.val.drop (CSR_BUFFER_LEN - a.ret.toNat)

/-- What fails first on the way to the DER. -/
def firstError (l : List (Int × List UInt8)) (a : DerAns) (pMessage : List UInt8) :
    Option (Int × List UInt8) :=
  (l ++ [(a.ret, pMessage)]).find? (·.1 < 0)

/-- There is a DER, and the buffer that it is in. -/
def DerAns.Fits (a : DerAns) (granted : Bool) : Prop :=
  0 < a.ret ∧ a.ret < CSR_BUFFER_LEN ∧ granted = true

instance (a : DerAns) (granted : Bool) : Decidable (a.Fits granted) := inferInstanceAs (Decidable (_ ∧ _ ∧ _))

/-- Nothing but the first error is logged, and nothing is done with a DER that does not fit. -/
theorem log_withDer (c : PkiCalls) (l : List (Int × List UInt8)) (granted : Bool) (a : DerAns)
    (pMessage : List UInt8) (k : List UInt8 → PkiM Unit) : (c.withDer l granted a pMessage k).log =
      match firstError l a pMessage with
      | some x => [.vLoggingPrintfError (c.vLoggingPrintfError x.2)]
      | none => if a.Fits granted then (k a.der).log else [] := by
  have hsteps := steps_eq c l
  unfold PkiCalls.withDer firstError
  rw [List.find?_append]
  cases hl : l.find? (·.1 < 0) with
  | some x =>
    rw [hl] at hsteps
    obtain ⟨hneg, hsteps⟩ := hsteps
    rw [Traced.log_bind_of_some (a := x.1) (by rw [hsteps]), hsteps, if_neg (Int.not_le.2 hneg)]
    rfl
  | none =>
    rw [hl] at hsteps
    obtain ⟨lError, hle, hsteps⟩ := hsteps
    rw [Traced.log_bind_of_some (a := lError) (by rw [hsteps]), hsteps, if_pos hle, List.nil_append,
      Option.none_or]
    by_cases hneg : a.ret < 0
    · -- the last step fails
      rw [List.find?_cons_of_pos (by simpa using hneg), PkiCalls.moveDer, if_neg (by omega),
        PkiCalls.msgIfError, if_pos hneg, log_act_bind_bind, log_pure_bind]
      dsimp only
      rw [if_neg fun h => absurd h.1 (Int.not_le.2 hneg)]
      rfl
    rw [List.find?_cons_of_neg (by simpa using hneg), List.find?_nil]
    by_cases hpos : 0 < a.ret
    · rw [PkiCalls.moveDer, if_pos hpos]
      by_cases hfits : a.ret < CSR_BUFFER_LEN ∧ granted = true
      · have hlen : 0 < a.der.length := by
          rw [DerAns.der, List.length_drop, a.buffer.property]
          omega
        rw [if_pos hfits, log_pure_bind, if_pos (show a.Fits granted from ⟨hpos, hfits⟩)]
        dsimp only
        rw [if_pos ⟨Int.le_refl 0, hlen, hfits.2⟩]
        rfl
      · rw [if_neg hfits, if_neg fun h : a.Fits granted => hfits h.2]
        rfl
    · rw [PkiCalls.moveDer, if_neg hpos, PkiCalls.msgIfError, if_neg hneg,
        if_neg fun h : a.Fits granted => hpos h.1]
      have hpure : ((pure () >>= fun _ => pure (a.ret, [])) : PkiM (Int × List UInt8)) = pure (a.ret, []) := rfl
      rw [hpure, log_pure_bind]
      dsimp only
      rw [if_neg fun h => absurd h.2.1 (Nat.lt_irrefl 0)]
      rfl

/-- The lines about a generated pair. -/
theorem printKeyLabels_success (prv pub : List UInt8) : (printKeyLabels .success prv pub).log =
    [.print (ascii "SUCCESS: Key pair generated and stored in\r\n"), .print (ascii "Private Key Label: "),
      .writeLabel .prvKey prv (strnlen prv configTLS_MAX_LABEL_LEN), .print (ascii "\r\nPublic Key Label: "),
      .writeLabel .pubKey pub (strnlen prv configTLS_MAX_LABEL_LEN), .print (ascii "\r\n")] := rfl

theorem printKeyLabels_error {xStatus : PkiStatus} (h : xStatus ≠ .success) (prv pub : List UInt8) :
    (printKeyLabels xStatus prv pub).log =
      [.print (ascii "ERROR: Failed to generate public/private key pair.\r\n")] := by
  rw [printKeyLabels, if_neg h, log_say]

theorem mem_printPublicKey {der : Option (List UInt8)} (he : e ∈ (printPublicKey der).log) :
    ∃ h f d, e = .vPrintDer h f d := by
  unfold printPublicKey at he
  split at he
  · split_ifs at he
    · exact ⟨_, _, _, List.mem_singleton.1 he⟩
    · cases he
  · cases he

theorem generateKey_log {n : Nat} {argv : Argv} {prv pub : List UInt8}
    (hlabels : keyLabels n argv = (prv, pub)) :
    (vSubCommand_GenerateKey c n argv).log =
      .xPkiGenerateECKeypair prv pub c.xPkiGenerateECKeypair.touched ::
        .vLoggingPrintfError c.xPkiGenerateECKeypair.logged ::
        ((printKeyLabels c.xPkiGenerateECKeypair.status prv pub).log ++ (printPublicKey c.generatedDer).log) := by
  have hresult : (printKeyLabels c.xPkiGenerateECKeypair.status prv pub).result = some () := by
    unfold printKeyLabels
    split_ifs <;> rfl
  unfold vSubCommand_GenerateKey
  simp only [hlabels, log_call_bind]
  rw [Traced.log_bind_of_some hresult]

theorem strnlen_le (s : List UInt8) (maxlen : Nat) : strnlen s maxlen ≤ maxlen :=
  (List.takeWhile_prefix _).length_le.trans (List.length_take_le maxlen s)

/-- The check never fails. -/
theorem checkLabel_eq (kind : LabelKind) (msg pcLabel : List UInt8) :
    checkLabel kind msg pcLabel = pure true := if_neg (Nat.not_lt.2 (strnlen_le _ _))

theorem importCert_log (c : PkiCalls) (argv : Argv) (n : Nat) : (vSubCommand_ImportCertificate c n argv).log =
    .xReadPemFromCliAsDer c.printed ::
      match c.derRead with
      | none => []
      | some der =>
        if 0 < der.length ∧ 0 ≤ c.mbedtls_x509_crt_parse_der_nocopy der then
          .xPkiWriteCertificate (labelArray n argv tlsCertLabel) der c.xPkiWriteCertificate.touched ::
            .vLoggingPrintfError c.xPkiWriteCertificate.logged ::
            (printWritten .cert c.xPkiWriteCertificate.status (ascii "Success: Certificate loaded to label: '")
              (ascii "Error: failed to save certificate to label: '") (labelArray n argv tlsCertLabel)).log
        else [] := by
  unfold vSubCommand_ImportCertificate
  simp only [checkLabel_eq, log_pure_bind, if_true]
  rw [log_readX509Crt_bind]
  · rfl
  · rfl

theorem importKey_log (c : PkiCalls) (argv : Argv) (n : Nat) : (vSubCommand_ImportPubKey c n argv).log =
    .xReadPemFromCliAsDer c.printed ::
      match c.derRead with
      | none => []
      | some der =>
        if c.mbedtls_pk_parse_public_key der ≠ 0 then [.print (ascii "ERROR: Failed to parse public key.")]
        else
          .xPkiWritePubKey (labelArray n argv otaSigningKeyLabel) der c.xPkiWritePubKey.touched ::
            .vLoggingPrintfError c.xPkiWritePubKey.logged ::
            (printWritten .pubKey c.xPkiWritePubKey.status (ascii "Success: Public Key loaded to label: '")
              (ascii "Error: failed to save public key to label: '") (labelArray n argv otaSigningKeyLabel)).log := by
  unfold vSubCommand_ImportPubKey
  simp only [checkLabel_eq, log_pure_bind, if_true]
  rw [log_readDer_bind c rfl]
  cases c.derRead with
  | none => rfl
  | some der =>
    dsimp only
    split_ifs <;> rfl

/-! ## The console -/

/-- The console when all of a log was on it. -/
def showAll (b : MbedtlsBase64) (con : Console) (log : List PkiEvent) : Console :=
  log.foldl (PkiEvent.shown b) con

/-- What the provisioning script looks for. -/
def errorSpellings : List (List UInt8) := [ascii "error", ascii "Error", ascii "ERROR"]

def HasError (s : List UInt8) : Prop := ∃ w ∈ errorSpellings, w <:+: cstr s

theorem HasError.of_start (h : ascii "Error" <+: s) : HasError s :=
  ⟨ascii "Error", by simp [errorSpellings], ((prefix_cstr (by decide)).1 h).isInfix⟩

/-- What the logging task shows is an error line. -/
theorem LogText.hasError (t : LogText) : HasError t.val ↔ t.val ≠ [] := by
  constructor
  · rintro ⟨w, hw, hin⟩ hnil
    rw [hnil] at hin
    obtain rfl := List.infix_nil.1 hin
    exact absurd hw (by decide)
  · intro hne
    have hin := t.property.resolve_left hne
    exact ⟨ascii "ERROR", by simp [errorSpellings], List.IsInfix.trans ⟨ascii "[", ascii "] ", rfl⟩ hin⟩

/-- Every line of the DER object is encoded. -/
def Encodes (b : MbedtlsBase64) (pucDer : List UInt8) : Prop := (printLoop b pucDer 0 0 ⟨[], []⟩).2 = 0

instance (b : MbedtlsBase64) (pucDer : List UInt8) : Decidable (Encodes b pucDer) :=
  inferInstanceAs (Decidable (_ = _))

/-- What the loop adds to the console; whether all is encoded does not depend on the console. -/
theorem printLoop_shows (b : MbedtlsBase64) (pucDer : List UInt8) (uxIdx : Nat) (lRslt : Int) :
    ∃ r : Int, ∀ con, (printLoop b pucDer uxIdx lRslt con).2 = r ∧
      ∃ t, (printLoop b pucDer uxIdx lRslt con).1.out = con.out ++ t ∧
        (lRslt = 0 → r ≠ 0 → ascii "ERROR" <:+: t) := by
  induction hn : pucDer.length - uxIdx using Nat.strong_induction_on generalizing uxIdx lRslt with
  | _ n ih =>
    by_cases hlt : uxIdx < pucDer.length
    · -- the next line
      generalize henc : b.mbedtls_base64_encode
        ((List.replicate (PEM_LINE_BUFF_LEN + 3) 0xFF).take (PEM_LINE_BUFF_LEN + 1))
        ((pucDer.drop uxIdx).take
          (if pucDer.length - uxIdx < DER_BYTES_PER_PEM_LINE then pucDer.length - uxIdx
            else DER_BYTES_PER_PEM_LINE)) = answer
      obtain ⟨l, uxBytesWritten, dst⟩ := answer
      by_cases hl : l = 0
      · obtain ⟨r, hr⟩ := ih (pucDer.length - (uxIdx + DER_BYTES_PER_PEM_LINE))
          (by simp only [DER_BYTES_PER_PEM_LINE, PEM_LINE_BUFF_LEN]; omega)
          (uxIdx + DER_BYTES_PER_PEM_LINE) l rfl
        refine ⟨r, fun con => ?_⟩
        rw [printLoop, if_pos hlt]
        simp only [henc, if_pos hl]
        obtain ⟨hres, t, ht, herr⟩ := hr (io_write con (blit (blit
          (List.replicate (PEM_LINE_BUFF_LEN + 3) 0xFF) 0 dst) uxBytesWritten
          (strncpy (ascii "\r\n") 3)) (uxBytesWritten + 2))
        refine ⟨hres, _ ++ t, ht.trans (List.append_assoc _ _ _), fun _ hne => ?_⟩
        exact (herr hl hne).trans (List.suffix_append _ _).isInfix
      · refine ⟨l, fun con => ?_⟩
        rw [printLoop, if_pos hlt]
        simp only [henc, if_neg hl]
        exact ⟨trivial, _, rfl, fun _ _ => ⟨ascii "\r\n", ascii "\r\n", rfl⟩⟩
    · refine ⟨lRslt, fun con => ?_⟩
      rw [printLoop, if_neg hlt]
      exact ⟨rfl, [], (List.append_nil _).symm, fun h0 hne => absurd h0 hne⟩

/-- A DER object that is encoded is shown with its footer, and another one with an error line. -/
theorem vPrintDer_shows (b : MbedtlsBase64) (con : Console) (pcHeader pcFooter pucDer : List UInt8) :
    ∃ t, (vPrintDer b con pcHeader pcFooter pucDer).out = con.out ++ (cstr pcHeader ++ t) ∧
      if Encodes b pucDer then cstr pcFooter <:+ t else ascii "ERROR" <:+: t := by
  obtain ⟨r, hr⟩ := printLoop_shows b pucDer 0 0
  obtain ⟨hres, t, ht, herr⟩ := hr (io_print con pcHeader)
  have hout : (printLoop b pucDer 0 0 (io_print con pcHeader)).1.out = con.out ++ (cstr pcHeader ++ t) :=
    ht.trans (List.append_assoc _ _ _)
  have henc : Encodes b pucDer ↔ r = 0 := by
    rw [← (hr ⟨[], []⟩).1]
    rfl
  simp only [vPrintDer, hres]
  by_cases h0 : r = 0
  · refine ⟨t ++ cstr pcFooter, ?_, ?_⟩
    · rw [if_pos h0, io_print, hout]
      simp only [List.append_assoc]
    · rw [if_pos (henc.2 h0)]
      exact List.suffix_append _ _
  · refine ⟨t, ?_, ?_⟩
    · rw [if_neg h0, hout]
    · rw [if_neg (mt henc.1 h0)]
      exact herr rfl h0

/-! ## Error lines -/

/-- A line with `error`, or `Error`, or `ERROR`. A label does not count. -/
def PkiEvent.ErrorLine (b : MbedtlsBase64) : PkiEvent → Prop
  | print pcString => HasError pcString
  | vLoggingPrintfError printed => HasError printed.val
  | xReadPemFromCliAsDer printed => HasError printed
  | vPrintDer _ _ pucDer => ¬Encodes b pucDer
  | _ => False

/-- Nothing that was shown goes away. -/
theorem shown_grows (b : MbedtlsBase64) (con : Console) (e : PkiEvent) :
    ∃ t, (e.shown b con).out = con.out ++ t ∧ (e.ErrorLine b → ∃ w ∈ errorSpellings, w <:+: t) := by
  cases e with
  | print pcString => exact ⟨_, rfl, id⟩
  | xReadPemFromCliAsDer printed => exact ⟨_, rfl, id⟩
  | vLoggingPrintfError printed => exact ⟨_, rfl, id⟩
  | vPrintDer pcHeader pcFooter pucDer =>
    obtain ⟨t, ht, hlast⟩ := vPrintDer_shows b con pcHeader pcFooter pucDer
    refine ⟨_, ht, fun herr => ⟨ascii "ERROR", by simp [errorSpellings], ?_⟩⟩
    rw [if_neg herr] at hlast
    exact hlast.trans (List.suffix_append _ _).isInfix
  | printLabel _ _ => exact ⟨_, rfl, False.elim⟩
  | writeLabel _ _ _ => exact ⟨_, rfl, False.elim⟩
  | _ => exact ⟨[], (List.append_nil _).symm, False.elim⟩

theorem showAll_grows (b : MbedtlsBase64) (con : Console) (log : List PkiEvent) :
    ∃ t, (showAll b con log).out = con.out ++ t := by
  induction log generalizing con with
  | nil => exact ⟨[], (List.append_nil _).symm⟩
  | cons e log ih =>
    obtain ⟨t, ht, -⟩ := shown_grows b con e
    obtain ⟨t', ht'⟩ := ih (e.shown b con)
    refine ⟨t ++ t', ht'.trans ?_⟩
    rw [ht, List.append_assoc]

/-- **An error line is seen**: it is in what was shown. -/
theorem errorLine_shown (he : e ∈ log) (herr : e.ErrorLine b) (con : Console) :
    ∃ t, (showAll b con log).out = con.out ++ t ∧ ∃ w ∈ errorSpellings, w <:+: t := by
  induction log generalizing con with
  | nil => cases he
  | cons e' log ih =>
    obtain ⟨t, ht, hseen⟩ := shown_grows b con e'
    rcases List.mem_cons.1 he with rfl | he
    · obtain ⟨t', ht'⟩ := showAll_grows b (e.shown b con) log
      obtain ⟨w, hw, hin⟩ := hseen herr
      refine ⟨t ++ t', ht'.trans ?_, w, hw, hin.trans (List.prefix_append _ _).isInfix⟩
      rw [ht, List.append_assoc]
    · obtain ⟨t', ht', w, hw, hin⟩ := ih he (e'.shown b con)
      refine ⟨t ++ t', ht'.trans ?_, w, hw, hin.trans (List.suffix_append _ _).isInfix⟩
      rw [ht, List.append_assoc]

/-! ## Labels -/

/-- The text of a label that is shown. -/
def PkiEvent.echo : PkiEvent → Option (LabelKind × List UInt8)
  | printLabel kind pcLabel => some (kind, cstr pcLabel)
  | writeLabel kind pcLabel xLength => some (kind, cstr (pcLabel.take xLength))
  | _ => none

/-- No label is written from more bytes than it may have. -/
theorem echo_shown {kind : LabelKind}
    (hshort : ∀ pcLabel xLength, e = .writeLabel kind pcLabel xLength → xLength ≤ configTLS_MAX_LABEL_LEN)
    (h : e.echo = some (kind, t)) (con : Console) : (e.shown b con).out = con.out ++ t := by
  cases e with
  | printLabel k pcLabel =>
    obtain rfl : cstr pcLabel = t := (Prod.mk.inj (Option.some.inj h)).2
    rfl
  | writeLabel k pcLabel xLength =>
    obtain ⟨rfl, rfl⟩ := Prod.mk.inj (Option.some.inj h)
    have hle := hshort pcLabel xLength rfl
    refine io_write_cstr ?_ con pcLabel
    rw [CLI_OUTPUT_SCRATCH_BUF_LEN]
    rw [configTLS_MAX_LABEL_LEN] at hle
    omega
  | _ => cases h

/-! ## The line -/

/-- The sub-commands of `pki`. -/
inductive SubCommand
  | generateKey | generateCsr | generateCert | importCert | importKey | exportCert | exportKey
deriving DecidableEq

namespace SubCommand

def verb : SubCommand → List UInt8
  | generateKey | generateCsr | generateCert => ascii "generate"
  | importCert | importKey => ascii "import"
  | exportCert | exportKey => ascii "export"

def object : SubCommand → List UInt8
  | generateKey | importKey | exportKey => ascii "key"
  | generateCsr => ascii "csr"
  | generateCert | importCert | exportCert => ascii "cert"

/-- How the line starts. -/
def start (s : SubCommand) : List (List UInt8) := [ascii "pki", s.verb, s.object]

def run (c : PkiCalls) (ulArgc : Nat) (ppcArgv : Argv) : SubCommand → PkiM Unit
  | generateKey => vSubCommand_GenerateKey c ulArgc ppcArgv
  | generateCsr => vSubCommand_GenerateCsr c ulArgc ppcArgv
  | generateCert => vSubCommand_GenerateCertificate c ulArgc ppcArgv
  | importCert => vSubCommand_ImportCertificate c ulArgc ppcArgv
  | importKey => vSubCommand_ImportPubKey c ulArgc ppcArgv
  | exportCert => vSubCommand_ExportCertificate c ulArgc ppcArgv
  | exportKey => vSubCommand_ExportKey c ulArgc ppcArgv

end SubCommand

variable {s : SubCommand} {cs : List CLI_Command_Definition_t} {line : List UInt8} {args : List (List UInt8)}

theorem vCommand_PKI_run {n : Nat} {argv : Argv} (hn : 2 < n) (hverb : argv.string 1 = some s.verb)
    (hobject : argv.string 2 = some s.object) : vCommand_PKI c n argv = s.run c n argv := by
  have hargc : VERB_ARG_INDEX < n := Nat.lt_of_succ_lt hn
  have hobjects : OBJECT_TYPE_INDEX < n := hn
  simp only [vCommand_PKI, if_pos hargc, if_pos hobjects,
    show argv.string VERB_ARG_INDEX = some s.verb from hverb,
    show argv.string OBJECT_TYPE_INDEX = some s.object from hobject]
  cases s <;> rfl

/-- The CLI calls `pki` with the words of its line. -/
theorem registered_pki (hcs : ∀ cmd ∈ cs, Word cmd.pcCommand) (hline : 0 ∉ line)
    (hhead : line.head? ≠ some SPACE) (hw : words SPACE line = s.start ++ args) (junk : List UInt8) : ∃ argv,
    FreeRTOS_CLIProcessCommand (xRegisteredCommands (xCommandDef_conf :: xCommandDef_pki :: cs))
      (line ++ 0 :: junk) = some (.call xCommandDef_pki (words SPACE line).length argv) ∧
    Tokenized line (line ++ 0 :: junk) argv := by
  have hconf : Word xCommandDef_conf.pcCommand := ⟨by decide, by decide, by decide⟩
  have hpki : Word xCommandDef_pki.pcCommand := ⟨by decide, by decide, by decide⟩
  have hbefore : ∀ cmd ∈ [xCommandDef_conf], Word cmd.pcCommand ∧ cmd.pcCommand ≠ xCommandDef_pki.pcCommand := by
    intro cmd hcmd
    obtain rfl := List.mem_singleton.1 hcmd
    exact ⟨hconf, by decide⟩
  have hm : Matches xCommandDef_pki.pcCommand line := matches_of_words hw hhead
  exact registered_call [xCommandDef_conf] hbefore hpki hcs (by decide) hline hm junk

/-- **A line runs its sub-command**, and no assertion fails before. -/
theorem enterPki_run (hcs : ∀ cmd ∈ cs, Word cmd.pcCommand) (hline : 0 ∉ line)
    (hhead : line.head? ≠ some SPACE) (hw : words SPACE line = s.start ++ args) (c : PkiCalls)
    (junk : List UInt8) : ∃ argv, Tokenized line (line ++ 0 :: junk) argv ∧
      enterPki c cs (line ++ 0 :: junk) = some (s.run c (words SPACE line).length argv) := by
  obtain ⟨argv, hcall, hargv⟩ := registered_pki hcs hline hhead hw junk
  refine ⟨argv, hargv, ?_⟩
  have hrun := vCommand_PKI_run (c := c) (n := (words SPACE line).length) (s := s)
    (by rw [hw]; simp [SubCommand.start]) (by rw [hargv.string, hw]; rfl) (by rw [hargv.string, hw]; rfl)
  unfold enterPki
  rw [hcall]
  exact (if_pos rfl).trans (congrArg some hrun)

/-- No further command is registered. -/
theorem noCommands : ∀ cmd ∈ ([] : List CLI_Command_Definition_t), Word cmd.pcCommand := by simp

/-! ## Answers -/

/-- Nothing comes to the console of what is logged. -/
def LogText.none : LogText := ⟨[], .inl rfl⟩

def ObjectAns.success : ObjectAns := ⟨.success, true, .none, fun _ => rfl⟩

/-- A call that fails at its object. -/
def ObjectAns.failed : ObjectAns := ⟨.err, true, .none, fun h => by cases h⟩

/-- One byte is written. -/
def DerAns.byte : DerAns := ⟨1, ⟨List.replicate CSR_BUFFER_LEN 0, List.length_replicate ..⟩⟩

/-- Everything is granted and succeeds; there is no memory for a text that is typed. -/
def succeeding : PkiCalls where
  base64 := standardBase64
  mbedtls_calloc _ _ := none
  lines := []
  ended := rfl
  vLoggingPrintfError _ := .none
  thingName := some (ascii "thing")
  csr := ⟨true, true, fun _ => 0, 0, 0, .byte⟩
  crt := ⟨true, true, 0, 0, 0, 0, fun _ => 0, fun _ => 0, 0, 0, 0, 0, .byte⟩
  mbedtls_x509_crt_parse_der_nocopy _ := 0
  mbedtls_pk_parse_public_key _ := 0
  xPkiGenerateECKeypair := .success
  generatedDer := some [0]
  xPkiReadPrivateKey := .success
  xPkiReadCertificate := .success
  certificateDer := [0]
  xPkiReadPublicKeyDer := .success
  publicKeyDer := some [0]
  xPkiWriteCertificate := .success
  xPkiWritePubKey := .success

end Cli
