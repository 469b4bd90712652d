import TrustZone.Lib.Traced
import TrustZone.Crypto.PkiObject
import TrustZone.Cli.Conf
import TrustZone.Cli.Pem

/-!
# The command for keys and certificates (`cli_pki.c`)

The sub-commands of `pki`, with what they do in order: what goes to the console, and the calls that read and
store keys and certificates. What these calls answer, and mbedTLS and the allocators, are parameters, and so
is what the logging task makes of a message. A `char *` to a label is the bytes from there on to the end of
its block.
-/

namespace Cli

open Lib
open Crypto (PkiStatus tlsKeyPrvLabel tlsKeyPubLabel tlsCertLabel otaSigningKeyLabel)

def configTLS_MAX_LABEL_LEN : Nat := 32
def LABEL_PUB_IDX : Nat := 3
def LABEL_PRV_IDX : Nat := 4
def LABEL_IDX : Nat := LABEL_PUB_IDX
def CSR_BUFFER_LEN : Nat := 2048

/-- A string literal with its terminator. -/
def literal (s : List UInt8) : List UInt8 := s ++ [0]

/-- `strnlen( s, maxlen )` -/
def strnlen (s : List UInt8) (maxlen : Nat) : Nat := (cstr (s.take maxlen)).length

/-- What a label is for. -/
inductive LabelKind
  | prvKey | pubKey | cert
deriving DecidableEq

/-- What a message that is logged comes to on the console: a line, or nothing when there is no memory for it or
no room in the queue of the logging task. -/
def LogText : Type := {s : List UInt8 // s = [] ∨ ascii "[ERROR] " <:+: cstr s}

/-- What a sub-command does. A call on objects comes with whether it `touched` one of them. -/
inductive PkiEvent
  | print (pcString : List UInt8)
  | printLabel (kind : LabelKind) (pcLabel : List UInt8)
  | writeLabel (kind : LabelKind) (pcLabel : List UInt8) (xLength : Nat)
  | vPrintDer (pcHeader pcFooter pucDer : List UInt8)
  | vLoggingPrintfError (printed : LogText)
  /-- The lines of a PEM text are asked for; messages are printed. -/
  | xReadPemFromCliAsDer (printed : List UInt8)
  | xPkiGenerateECKeypair (pcPrvKeyLabel pcPubKeyLabel : List UInt8) (touched : Bool)
  | xPkiReadPrivateKey (pcPrvKeyLabel : List UInt8) (touched : Bool)
  | xPkiReadCertificate (pcCertLabel : List UInt8) (touched : Bool)
  | xPkiReadPublicKeyDer (pcPubKeyLabel : List UInt8) (touched : Bool)
  | xPkiWriteCertificate (pcCertLabel pucCertDer : List UInt8) (touched : Bool)
  | xPkiWritePubKey (pcPubKeyLabel pucPubKeyDer : List UInt8) (touched : Bool)

/-- The console when an event was on it. -/
def PkiEvent.shown (b : MbedtlsBase64) (con : Console) : PkiEvent → Console
  | print pcString => io_print con pcString
  | printLabel _ pcLabel => io_print con pcLabel
  | writeLabel _ pcLabel xLength => io_write con pcLabel xLength
  | vPrintDer pcHeader pcFooter pucDer => Cli.vPrintDer b con pcHeader pcFooter pucDer
  | vLoggingPrintfError printed => io_print con printed.val
  | xReadPemFromCliAsDer printed => io_print con printed
  | _ => con

/-! ## Reading a text -/

/-- The message about a line, before it is decoded. -/
def lineMessage (r : PemReader) (l : Line) : List UInt8 :=
  if 64 < l.lDataRead then ascii "Error: Current line exceeds maximum line length for a PEM file.\r\n"
  else if PEM_CERT_MAX_LEN ≤ r.uxDerDataLen + l.lDataRead.toNat + PEM_LINE_ENDING_LEN then
    ascii "Error: Out of memory to store the given PEM file.\r\n"
  else (checkFooter ⟨0, false, false, false, [], []⟩ l.pcInputBuffer l.lDataRead.toNat).printed

/-- What was printed when the assertion on a decoded line fails; `none` when there is no such line. -/
def assertLoop (b : MbedtlsBase64) (r : PemReader) : List Line → Option (List UInt8)
  | [] => none
  | l :: ls =>
    match readPemLine b r l with
    | none => some (r.printed ++ lineMessage r l)
    | some r => assertLoop b r ls

/-- How `xReadPemFromCliAsDer` ends: it returns, or it has printed something and an assertion fails. `none` is
waiting for lines. -/
def readPem (b : MbedtlsBase64) (mbedtls_calloc : Nat → Nat → Option (List UInt8)) (ls : List Line) :
    Option (Except (List UInt8) PemResult) :=
  match xReadPemFromCliAsDer b mbedtls_calloc ls with
  | some res => some (.ok res)
  | none =>
    match mbedtls_calloc 1 PEM_CERT_MAX_LEN with
    | none => none
    | some pucDerBuffer => (assertLoop b ⟨0, false, false, false, pucDerBuffer, []⟩ ls).map .error

/-! ## What is called -/

/-- The answer of a call on objects, and what it logs. One that succeeds has come to its object. -/
structure ObjectAns where
  status : PkiStatus
  touched : Bool
  logged : LogText
  touched_of_success : status = .success → touched = true

/-- The answer of a function that writes to the end of a buffer and returns the length, and the buffer. -/
structure DerAns where
  ret : Int
  buffer : {l : List UInt8 // l.length = CSR_BUFFER_LEN}

/-- What `vSubCommand_GenerateCsr` gets. -/
structure CsrAns where
  pucCsrDer : Bool
  pcSubjectName : Bool
  set_subject_name : Option (List UInt8) → Int
  set_key_usage : Int
  set_ns_cert_type : Int
  csr_der : DerAns

/-- What `vSubCommand_GenerateCertificate` gets. -/
structure CrtAns where
  pucCertDer : Bool
  pcSubjectName : Bool
  set_ns_cert_type : Int
  mpi_fill_random : Int
  set_serial : Int
  set_validity : Int
  set_subject_name : List UInt8 → Int
  set_issuer_name : List UInt8 → Int
  set_basic_constraints : Int
  set_subject_key_identifier : Int
  set_authority_key_identifier : Int
  set_key_usage : Int
  crt_der : DerAns

/-- What the sub-commands get: mbedTLS, the lines that are typed until the reader of a PEM text does not wait for
more, the thing's name if one is stored, and the answers of the calls on objects. -/
structure PkiCalls where
  base64 : MbedtlsBase64
  mbedtls_calloc : Nat → Nat → Option (List UInt8)
  lines : List Line
  ended : (readPem base64 mbedtls_calloc lines).isSome = true
  vLoggingPrintfError : List UInt8 → LogText
  thingName : Option (List UInt8)
  csr : CsrAns
  crt : CrtAns
  mbedtls_x509_crt_parse_der_nocopy : List UInt8 → Int
  mbedtls_pk_parse_public_key : List UInt8 → Int
  xPkiGenerateECKeypair : ObjectAns
  generatedDer : Option (List UInt8)
  xPkiReadPrivateKey : ObjectAns
  xPkiReadCertificate : ObjectAns
  certificateDer : List UInt8
  xPkiReadPublicKeyDer : ObjectAns
  publicKeyDer : Option (List UInt8)
  xPkiWriteCertificate : ObjectAns
  xPkiWritePubKey : ObjectAns

/-- A sub-command. -/
abbrev PkiM := Traced PkiEvent

/-- It is done. -/
def act (e : PkiEvent) : PkiM Unit := ⟨[e], some ()⟩

def say (pcString : List UInt8) : PkiM Unit := act (.print pcString)

/-- A call on objects: its status. -/
def ObjectAns.call (a : ObjectAns) (e : Bool → PkiEvent) : PkiM PkiStatus :=
  ⟨[e a.touched, .vLoggingPrintfError a.logged], some a.status⟩

/-- `MBEDTLS_MSG_IF_ERROR( lError, pMessage )` -/
def PkiCalls.msgIfError (c : PkiCalls) (lError : Int) (pMessage : List UInt8) : PkiM Unit :=
  if lError < 0 then act (.vLoggingPrintfError (c.vLoggingPrintfError pMessage)) else pure ()

/-- Steps with what they return and their messages; the next one is taken when `lError >= 0`. -/
def PkiCalls.steps (c : PkiCalls) : List (Int × List UInt8) → PkiM Int
  | [] => pure 0
  | (lError, pMessage) :: rest => do
    c.msgIfError lError pMessage
    if 0 ≤ lError then c.steps rest else pure lError

/-- What the reader of the PEM text comes to. -/
def PkiCalls.read (c : PkiCalls) : Except (List UInt8) PemResult :=
  (readPem c.base64 c.mbedtls_calloc c.lines).get c.ended

/-- What it has printed. -/
def PkiCalls.printed (c : PkiCalls) : List UInt8 :=
  match c.read with
  | .ok res => res.printed
  | .error printed => printed

/-! ## Labels -/

/-- The bytes that `ppcArgv[ i ]` points to. -/
def Argv.bytes (argv : Argv) (i : Nat) : Option (List UInt8) :=
  match argv.pcArgv[i]? with
  | some (some p) => some (argv.buffer.drop p)
  | _ => none

/-- The label at a place of the line, or the default one. -/
def labelArg (ulArgc : Nat) (ppcArgv : Argv) (i : Nat) (dflt : List UInt8) : List UInt8 :=
  if i < ulArgc then (ppcArgv.bytes i).getD (literal dflt) else literal dflt

/-! ## `generate` -/

/-- The name that is put together in a buffer of `xSubjectNameLen` bytes. With no thing's name the prefix does
not fit. -/
def subjectName : Option (List UInt8) → List UInt8
  | none => ascii "CN"
  | some thingName => ascii "CN=" ++ thingName

/-- `lError` and the DER, which is moved to the start of the buffer. A failed assertion does not return, and
neither does a move in a buffer that was not granted. -/
def PkiCalls.moveDer (c : PkiCalls) (granted : Bool) (a : DerAns) (pMessage : List UInt8) :
    PkiM (Int × List UInt8) :=
  if 0 < a.ret then
    if a.ret < CSR_BUFFER_LEN ∧ granted = true then
      pure (0, a.buffer.val.drop (CSR_BUFFER_LEN - a.ret.toNat))
    else .fail
  else do
    c.msgIfError a.ret pMessage
    pure (a.ret, [])

/-- The body of both `generate` functions for DER: the steps, the DER in its buffer, and what is done with it. -/
def PkiCalls.withDer (c : PkiCalls) (steps : List (Int × List UInt8)) (granted : Bool) (a : DerAns)
    (pMessage : List UInt8) (k : List UInt8 → PkiM Unit) : PkiM Unit := do
  let lError ← c.steps steps
  if 0 ≤ lError then
    let (lError, der) ← c.moveDer granted a pMessage
    if 0 ≤ lError ∧ 0 < der.length ∧ granted = true then k der

def csrSteps (a : CsrAns) (thingName : Option (List UInt8)) : List (Int × List UInt8) :=
  let pcSubjectName := if a.pcSubjectName then some (subjectName thingName) else none
  [(a.set_subject_name pcSubjectName, ascii "Failed to set CSR Subject Name: "),
   (a.set_key_usage, ascii "Failed to set CSR Key Usage: "),
   (a.set_ns_cert_type, ascii "Failed to set CSR NS Certificate Type: ")]

def vSubCommand_GenerateCsr (c : PkiCalls) (ulArgc : Nat) (ppcArgv : Argv) : PkiM Unit := do
  let pcPrvKeyLabel := labelArg ulArgc ppcArgv LABEL_IDX tlsKeyPrvLabel
  let xStatus ← c.xPkiReadPrivateKey.call (.xPkiReadPrivateKey pcPrvKeyLabel)
  if xStatus = .success then
    c.withDer (csrSteps c.csr c.thingName) c.csr.pucCsrDer c.csr.csr_der (ascii "Failed to create CSR:")
      fun pucCsrDer =>
        act (.vPrintDer (ascii "-----BEGIN CERTIFICATE REQUEST-----\r\n")
          (ascii "-----END CERTIFICATE REQUEST-----\r\n") pucCsrDer)

def MBEDTLS_ERR_X509_ALLOC_FAILED : Int := -0x2880

/-- The two names of the certificate. -/
def crtNames (a : CrtAns) (thingName : Option (List UInt8)) : List (Int × List UInt8) :=
  if thingName.isSome = true ∧ a.pcSubjectName = true then
    [(a.set_subject_name (subjectName thingName), ascii "Failed to set Certificate Subject Name: "),
     (a.set_issuer_name (subjectName thingName), ascii "Failed to set Certificate Issuer Name: ")]
  else [(MBEDTLS_ERR_X509_ALLOC_FAILED, ascii "Failed to allocate memory to store subject name.")]

def crtSteps (a : CrtAns) (thingName : Option (List UInt8)) : List (Int × List UInt8) :=
  [(a.set_ns_cert_type, ascii "Failed to set Certificate NS Cert Type: "),
   (a.mpi_fill_random, ascii "Failed to generate a random certificate serial number: "),
   (a.set_serial, ascii "Failed to set Certificate Serial Number"),
   (a.set_validity, ascii "Failed to set Certificate validity range: ")] ++
  crtNames a thingName ++
  [(a.set_basic_constraints, ascii "Failed to set Certificate Basic Constraints: "),
   (a.set_subject_key_identifier, ascii "Failed to set Certificate Subject Key Identifier: "),
   (a.set_authority_key_identifier, ascii "Failed to set Certificate Authority Key Identifier: "),
   (a.set_key_usage, ascii "Failed to set Certificate Key Usage: ")]

/-- The certificate is stored and shown. -/
def storeCertificate (c : PkiCalls) (pcCertLabel pucCertDer : List UInt8) : PkiM Unit := do
  let lError := c.mbedtls_x509_crt_parse_der_nocopy pucCertDer
  c.msgIfError lError (ascii "Failed to validate resulting certificate.")
  if 0 ≤ lError then
    let _xResult ← c.xPkiWriteCertificate.call (.xPkiWriteCertificate pcCertLabel pucCertDer)
    act (.vPrintDer (ascii "-----BEGIN CERTIFICATE-----\r\n") (ascii "-----END CERTIFICATE-----\r\n")
      pucCertDer)

def vSubCommand_GenerateCertificate (c : PkiCalls) (ulArgc : Nat) (ppcArgv : Argv) : PkiM Unit := do
  let pcCertLabel := labelArg ulArgc ppcArgv LABEL_IDX tlsCertLabel
  let pcPrvKeyLabel := labelArg ulArgc ppcArgv LABEL_PRV_IDX tlsKeyPrvLabel
  -- PKI_ERR_NOMEM, for a buffer that was not granted, is overwritten
  let xResult ← c.xPkiReadPrivateKey.call (.xPkiReadPrivateKey pcPrvKeyLabel)
  if xResult = .success then
    c.withDer (crtSteps c.crt c.thingName) c.crt.pucCertDer c.crt.crt_der
      (ascii "Failed to create certificate:") (storeCertificate c pcCertLabel)

/-- The two labels, `pcPrvKeyLabel` first. -/
def keyLabels (ulArgc : Nat) (ppcArgv : Argv) : List UInt8 × List UInt8 :=
  match ppcArgv.bytes LABEL_PRV_IDX, ppcArgv.bytes LABEL_PUB_IDX with
  | some prv, some pub =>
    if LABEL_PRV_IDX < ulArgc then (prv, pub) else (literal tlsKeyPrvLabel, literal tlsKeyPubLabel)
  | _, _ => (literal tlsKeyPrvLabel, literal tlsKeyPubLabel)

/-- The public key is shown, if there is one. -/
def printPublicKey (pucPublicKeyDer : Option (List UInt8)) : PkiM Unit :=
  match pucPublicKeyDer with
  | some der =>
    if 0 < der.length then
      act (.vPrintDer (ascii "-----BEGIN PUBLIC KEY-----\r\n") (ascii "-----END PUBLIC KEY-----\r\n") der)
    else pure ()
  | none => pure ()

/-- The lines about a generated pair. -/
def printKeyLabels (xStatus : PkiStatus) (pcPrvKeyLabel pcPubKeyLabel : List UInt8) : PkiM Unit :=
  if xStatus = .success then do
    say (ascii "SUCCESS: Key pair generated and stored in\r\n")
    say (ascii "Private Key Label: ")
    act (.writeLabel .prvKey pcPrvKeyLabel (strnlen pcPrvKeyLabel configTLS_MAX_LABEL_LEN))
    say (ascii "\r\nPublic Key Label: ")
    act (.writeLabel .pubKey pcPubKeyLabel (strnlen pcPrvKeyLabel configTLS_MAX_LABEL_LEN))
    say (ascii "\r\n")
  else say (ascii "ERROR: Failed to generate public/private key pair.\r\n")

def vSubCommand_GenerateKey (c : PkiCalls) (ulArgc : Nat) (ppcArgv : Argv) : PkiM Unit := do
  let (pcPrvKeyLabel, pcPubKeyLabel) := keyLabels ulArgc ppcArgv
  let xStatus ← c.xPkiGenerateECKeypair.call (.xPkiGenerateECKeypair pcPrvKeyLabel pcPubKeyLabel)
  printKeyLabels xStatus pcPrvKeyLabel pcPubKeyLabel
  printPublicKey c.generatedDer

/-! ## `import` -/

/-- The array that the label is copied to. -/
def labelArray (ulArgc : Nat) (ppcArgv : Argv) (dflt : List UInt8) : List UInt8 :=
  strncpy (labelArg ulArgc ppcArgv LABEL_IDX dflt) (configTLS_MAX_LABEL_LEN + 1)

/-- The check of the label's length. -/
def checkLabel (kind : LabelKind) (msg pcLabel : List UInt8) : PkiM Bool :=
  if configTLS_MAX_LABEL_LEN < strnlen pcLabel configTLS_MAX_LABEL_LEN then do
    say msg
    act (.printLabel kind pcLabel)
    say (ascii "' is longer than the configured maximum length.\r\n")
    pure false
  else pure true

/-- The DER that the reader comes to, when there was no error. -/
def PkiCalls.derRead (c : PkiCalls) : Option (List UInt8) :=
  match c.read with
  | .ok ⟨true, some (pucDerBuffer, uxDerLen), _, _⟩ => some (pucDerBuffer.take uxDerLen)
  | _ => none

/-- `xReadPemFromCliAsDer` -/
def PkiCalls.readDer (c : PkiCalls) : PkiM (Option (List UInt8)) := do
  act (.xReadPemFromCliAsDer c.printed)
  match c.read with
  | .ok _ => pure c.derRead
  | .error _ => .fail

/-- `xReadPemFromCliToX509Crt`, with the DER of the certificate. -/
def PkiCalls.readX509Crt (c : PkiCalls) : PkiM (Option (List UInt8)) := do
  match ← c.readDer with
  | none => pure none
  | some der =>
    -- configASSERT( uxDerDataLen > 0 )
    if 0 < der.length then
      pure (if c.mbedtls_x509_crt_parse_der_nocopy der < 0 then none else some der)
    else .fail

/-- The line about a label that was written to. -/
def printWritten (kind : LabelKind) (xStatus : PkiStatus) (success error pcLabel : List UInt8) : PkiM Unit := do
  say (if xStatus = .success then success else error)
  act (.printLabel kind pcLabel)
  say (ascii "'.\r\n")

def vSubCommand_ImportCertificate (c : PkiCalls) (ulArgc : Nat) (ppcArgv : Argv) : PkiM Unit := do
  let pcCertLabel := labelArray ulArgc ppcArgv tlsCertLabel
  let xResult ← checkLabel .cert (ascii "Error: Certificate label: '") pcCertLabel
  if xResult = true then
    match ← c.readX509Crt with
    | none => pure ()
    | some der =>
      let xStatus ← c.xPkiWriteCertificate.call (.xPkiWriteCertificate pcCertLabel der)
      printWritten .cert xStatus (ascii "Success: Certificate loaded to label: '")
        (ascii "Error: failed to save certificate to label: '") pcCertLabel

def vSubCommand_ImportPubKey (c : PkiCalls) (ulArgc : Nat) (ppcArgv : Argv) : PkiM Unit := do
  let pcPubKeyLabel := labelArray ulArgc ppcArgv otaSigningKeyLabel
  let xResult ← checkLabel .pubKey (ascii "Error: Public Key label: '") pcPubKeyLabel
  if xResult = true then
    match ← c.readDer with
    | none => pure ()
    | some der =>
      if c.mbedtls_pk_parse_public_key der ≠ 0 then say (ascii "ERROR: Failed to parse public key.")
      else
        let xStatus ← c.xPkiWritePubKey.call (.xPkiWritePubKey pcPubKeyLabel der)
        printWritten .pubKey xStatus (ascii "Success: Public Key loaded to label: '")
          (ascii "Error: failed to save public key to label: '") pcPubKeyLabel

/-! ## `export` -/

def vSubCommand_ExportCertificate (c : PkiCalls) (ulArgc : Nat) (ppcArgv : Argv) : PkiM Unit := do
  let pcCertLabel := labelArg ulArgc ppcArgv LABEL_IDX tlsCertLabel
  let xStatus ← c.xPkiReadCertificate.call (.xPkiReadCertificate pcCertLabel)
  if xStatus = .success then
    act (.vPrintDer (ascii "-----BEGIN CERTIFICATE-----\r\n") (ascii "-----END CERTIFICATE-----\r\n")
      c.certificateDer)

def vSubCommand_ExportKey (c : PkiCalls) (ulArgc : Nat) (ppcArgv : Argv) : PkiM Unit := do
  let pcPubKeyLabel := labelArg ulArgc ppcArgv LABEL_IDX tlsKeyPubLabel
  let xStatus ← c.xPkiReadPublicKeyDer.call (.xPkiReadPublicKeyDer pcPubKeyLabel)
  say (if xStatus = .success then ascii "Public Key Label: "
    else ascii "ERROR: Failed to locate public key with label: ")
  act (.writeLabel .pubKey pcPubKeyLabel (strnlen pcPubKeyLabel configTLS_MAX_LABEL_LEN))
  say (ascii "\r\n")
  printPublicKey c.publicKeyDer

/-! ## The command -/

def VERB_ARG_INDEX : Nat := 1
def OBJECT_TYPE_INDEX : Nat := 2

def xCommandDef_pki : CLI_Command_Definition_t where
  pcCommand := ascii "pki"
  pcHelpString := ascii "pki:\r\n" ++
    ascii "    Perform public/private key operations.\r\n" ++
    ascii "    Usage:\r\n" ++
    ascii "    pki <verb> <object> <args>\r\n" ++
    ascii "        Valid verbs are \x7b generate, import, export, list \x7d\r\n" ++
    ascii "        Valid object types are \x7b key, csr, cert \x7d\r\n" ++
    ascii "        Arguments should be specified in --<arg_name> <value>\r\n\n" ++
    ascii "    pki generate key <label_public> <label_private> <algorithm> <algorithm_param>\r\n" ++
    ascii "        Generates a new private key to be stored in the specified labels\r\n\n" ++
    ascii "    pki generate csr <label>\r\n" ++
    ascii "        Generates a new Certificate Signing Request using the private key\r\n" ++
    ascii "        with the specified label.\r\n" ++
    ascii "        If no label is specified, the default tls private key is used.\r\n\n" ++
    ascii "    pki generate cert <cert_label> <private_key_label>\r\n" ++
    ascii "        Generate a new self-signed certificate\r\n\n" ++
    ascii "    pki import cert <label>\r\n" ++
    ascii "        Import a certificate into the given slot. The certificate should be \r\n" ++
    ascii "        copied into the terminal in PEM format, ending with two blank lines.\r\n\n" ++
    ascii "    pki export cert <label>\r\n" ++
    ascii "        Export the certificate with the given label in pem format.\r\n" ++
    ascii "        When no label is specified, the default certificate is exported.\r\n\n" ++
    ascii "    pki import key <label>\r\n" ++
    ascii "        Import a public key into the given slot. The key should be \r\n" ++
    ascii "        copied into the terminal in PEM format, ending with two blank lines.\r\n\n" ++
    ascii "    pki export key <label>\r\n" ++
    ascii "        Export the public portion of the key with the specified label.\r\n\n"
  pxCommandInterpreter := .other 1

def pkiHelp : PkiM Unit := say xCommandDef_pki.pcHelpString

/-- An object that a verb is not for. -/
def invalidObject (pcObject msg : List UInt8) : PkiM Unit := do
  say (ascii "Error: Invalid object type: '")
  say pcObject
  say msg
  pkiHelp

/-- `vCommand_PKI`. A `char *` that is not there is not compared. -/
def vCommand_PKI (c : PkiCalls) (ulArgc : Nat) (ppcArgv : Argv) : PkiM Unit :=
  if VERB_ARG_INDEX < ulArgc then
    match ppcArgv.string VERB_ARG_INDEX with
    | none => .fail
    | some pcVerb =>
      if pcVerb = ascii "generate" then
        if OBJECT_TYPE_INDEX < ulArgc then
          match ppcArgv.string OBJECT_TYPE_INDEX with
          | none => .fail
          | some pcObject =>
            if pcObject = ascii "key" then vSubCommand_GenerateKey c ulArgc ppcArgv
            else if pcObject = ascii "csr" then vSubCommand_GenerateCsr c ulArgc ppcArgv
            else if pcObject = ascii "cert" then vSubCommand_GenerateCertificate c ulArgc ppcArgv
            else invalidObject pcObject (ascii "' specified for generate command.\r\n")
        else do
          say (ascii "Error: Not enough arguments to 'pki generate' command.\r\n")
          pkiHelp
      else if pcVerb = ascii "import" then
        if OBJECT_TYPE_INDEX < ulArgc then
          match ppcArgv.string OBJECT_TYPE_INDEX with
          | none => .fail
          | some pcObject =>
            if pcObject = ascii "key" then vSubCommand_ImportPubKey c ulArgc ppcArgv
            else if pcObject = ascii "cert" then vSubCommand_ImportCertificate c ulArgc ppcArgv
            else invalidObject pcObject (ascii "' specified for import command.\r\n")
        else pkiHelp
      else if pcVerb = ascii "export" then
        if OBJECT_TYPE_INDEX < ulArgc then
          match ppcArgv.string OBJECT_TYPE_INDEX with
          | none => .fail
          | some pcObject =>
            if pcObject = ascii "key" then vSubCommand_ExportKey c ulArgc ppcArgv
            else if pcObject = ascii "cert" then vSubCommand_ExportCertificate c ulArgc ppcArgv
            else invalidObject pcObject (ascii "' specified for import command.\r\n")
        else pkiHelp
      -- `list` is not implemented
      else pkiHelp
  else pkiHelp

/-- A line is entered, with the commands `cs` registered after `pki`; `none` when it does not run `pki`. -/
def enterPki (c : PkiCalls) (cs : List CLI_Command_Definition_t) (pcCommandInput : List UInt8) :
    Option (PkiM Unit) :=
  match FreeRTOS_CLIProcessCommand (xRegisteredCommands (xCommandDef_conf :: xCommandDef_pki :: cs))
    pcCommandInput with
  | some (.call pxCommand ulArgC argv) =>
    if pxCommand.pxCommandInterpreter = xCommandDef_pki.pxCommandInterpreter then
      some (vCommand_PKI c ulArgC argv)
    else none
  | _ => none

end Cli
