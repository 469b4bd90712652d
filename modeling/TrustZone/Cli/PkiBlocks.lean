import TrustZone.Cli.Pki
import TrustZone.Crypto.PkiBlocks

/-!
# The blocks of the command for keys and certificates

The sub-commands of `cli_pki.c` once more, with every block that is allocated for them and freed. What is
printed is left out. The reader of a PEM text, the thing's name and the buffers of the sub-commands answer as
in `PkiCalls`, PSA and mbedTLS as in `HeapCalls`.
-/

namespace Cli.Blocks

open Lib
open Crypto (PkiObject PkiStatus tlsKeyPrvLabel tlsKeyPubLabel tlsCertLabel otaSigningKeyLabel
  xPkiObjectFromLabel)
open Crypto.Blocks

/-- The functions of mbedTLS that fill a context which is written. -/
inductive Setter
  | set_subject_name | set_issuer_name | set_key_usage | set_ns_cert_type | set_serial | set_validity
  | set_basic_constraints | set_subject_key_identifier | set_authority_key_identifier

/-- What the sub-commands get: their calls, and how many blocks a call leaves to the context that it is
for. -/
structure BlockCalls where
  calls : PkiCalls
  heap : HeapCalls
  entropy : Nat
  serial : Nat
  owns : Setter → Nat

/-- A `char *` label and the object that it names. -/
def object (pcLabel : List UInt8) : PkiObject := xPkiObjectFromLabel (cstr pcLabel)

/-! ## Filling a context -/

/-- `lError`, and how many blocks the context owns. -/
abbrev Filled := Int × Nat

/-- `if( lError >= 0 ) lError = …`, a call for the context `b`. -/
def BlockCalls.set (c : BlockCalls) (b : Block) (f : Setter) (lError : Int) (r : Filled) :
    HeapM Filled :=
  if 0 ≤ r.1 then do
    take b (c.owns f)
    pure (lError, r.2 + c.owns f)
  else pure r

/-- `lError` and the DER, which is moved to the start of its buffer. -/
def moveDer (granted : Bool) (a : DerAns) : HeapM (Int × List UInt8) :=
  if 0 < a.ret then
    if a.ret < CSR_BUFFER_LEN ∧ granted = true then
      pure (0, a.buffer.val.drop (CSR_BUFFER_LEN - a.ret.toNat))
    else .fail
  else pure (a.ret, [])

/-- `if( lError >= 0 )`, the DER is written. -/
def writeDer (granted : Bool) (a : DerAns) (lError : Int) : HeapM (Int × List UInt8) :=
  if 0 ≤ lError then moveDer granted a else pure (lError, [])

/-- `if( xStatus == PKI_SUCCESS )`, DER is written. -/
def ifRead (xStatus : PkiStatus) (write : HeapM (Int × List UInt8)) (lError : Int) :
    HeapM (Int × List UInt8) :=
  if xStatus = .success then write else pure (lError, [])

/-! ## `generate` -/

/-- The request in `vSubCommand_GenerateCsr`. -/
def writeCsr (c : BlockCalls) : HeapM (Int × List UInt8) := do
  let a := c.calls.csr
  let pcSubjectName := if a.pcSubjectName then some (subjectName c.calls.thingName) else none
  let granted ← malloc .pcSubjectName a.pcSubjectName
  let r ← c.set .xCsr .set_subject_name (a.set_subject_name pcSubjectName) (0, 0)
  let r ← c.set .xCsr .set_key_usage a.set_key_usage r
  let r ← c.set .xCsr .set_ns_cert_type a.set_ns_cert_type r
  let der ← writeDer a.pucCsrDer a.csr_der r.1
  give .xCsr r.2
  free .pcSubjectName granted
  pure der

def vSubCommand_GenerateCsr (c : BlockCalls) (ulArgc : Nat) (ppcArgv : Argv) : HeapM Unit := do
  let pcPrvKeyLabel := labelArg ulArgc ppcArgv LABEL_IDX tlsKeyPrvLabel
  let granted ← malloc .pucCsrDer c.calls.csr.pucCsrDer
  take .xEntropyCtx c.entropy
  let xStatus ← xPkiReadPrivateKey c.heap (object pcPrvKeyLabel)
  let _ ← ifRead xStatus (writeCsr c) (-1)
  free .pucCsrDer granted
  give .xEntropyCtx c.entropy

/-- The serial number, whose integer is not released. -/
def setSerial (c : BlockCalls) (r : Filled) : HeapM Filled :=
  if 0 ≤ r.1 then do
    take .xCertSerialNumber c.serial
    c.set .xWriteCertCtx .set_serial c.calls.crt.set_serial (c.calls.crt.mpi_fill_random, r.2)
  else pure r

/-- The name of the subject, in its buffer. -/
def setSubject (c : BlockCalls) (granted : Bool) (r : Filled) : HeapM Filled :=
  if granted then
    c.set .xWriteCertCtx .set_subject_name
      (c.calls.crt.set_subject_name (subjectName c.calls.thingName)) r
  else pure (MBEDTLS_ERR_X509_ALLOC_FAILED, r.2)

/-- The two names. -/
def setNames (c : BlockCalls) (r : Filled) : HeapM Filled :=
  if 0 ≤ r.1 then do
    let a := c.calls.crt
    let granted ← malloc .pcSubjectName (c.calls.thingName.isSome && a.pcSubjectName)
    let r ← setSubject c granted r
    let r ← c.set .xWriteCertCtx .set_issuer_name (a.set_issuer_name (subjectName c.calls.thingName)) r
    free .pcSubjectName granted
    pure r
  else pure r

/-- The certificate in `vSubCommand_GenerateCertificate`. -/
def writeCrt (c : BlockCalls) : HeapM (Int × List UInt8) := do
  let a := c.calls.crt
  let set := c.set .xWriteCertCtx
  let r ← set .set_ns_cert_type a.set_ns_cert_type (0, 0)
  let r ← setSerial c r
  let r ← set .set_validity a.set_validity r
  let r ← setNames c r
  let r ← set .set_basic_constraints a.set_basic_constraints r
  let r ← set .set_subject_key_identifier a.set_subject_key_identifier r
  let r ← set .set_authority_key_identifier a.set_authority_key_identifier r
  let r ← set .set_key_usage a.set_key_usage r
  let der ← writeDer a.pucCertDer a.crt_der r.1
  give .xWriteCertCtx r.2
  pure der

/-- The certificate is parsed from its buffer, which the context gets after a success, and released; to write
and to print it takes nothing. `pucCertDer` is forgotten. -/
def parseWritten (c : BlockCalls) (pucCertDer : List UInt8) : HeapM Unit := do
  let a := c.heap.x509CrtParseDerNocopy (some pucCertDer)
  let lError ← a.parse
  -- own_buffer is set
  free .pucCertDer (0 ≤ lError)
  give .xCertContext a.owns

/-- What becomes of `pucCertDer`. -/
def finishCrt (c : BlockCalls) (granted : Bool) (lError : Int) (der : List UInt8) : HeapM Unit :=
  if 0 ≤ lError ∧ 0 < der.length ∧ granted = true then parseWritten c der else free .pucCertDer granted

def vSubCommand_GenerateCertificate (c : BlockCalls) (ulArgc : Nat) (ppcArgv : Argv) : HeapM Unit := do
  let pcPrvKeyLabel := labelArg ulArgc ppcArgv LABEL_PRV_IDX tlsKeyPrvLabel
  let granted ← malloc .pucCertDer c.calls.crt.pucCertDer
  take .xEntropyCtx c.entropy
  let xResult ← xPkiReadPrivateKey c.heap (object pcPrvKeyLabel)
  let (lError, der) ← ifRead xResult (writeCrt c) 0
  finishCrt c granted lError der
  give .xEntropyCtx c.entropy

def vSubCommand_GenerateKey (c : BlockCalls) (ulArgc : Nat) (ppcArgv : Argv) : HeapM Unit := do
  let (pcPrvKeyLabel, pcPubKeyLabel) := keyLabels ulArgc ppcArgv
  let (_, pucPublicKeyDer, _) ←
    xPkiGenerateECKeypair .pucPublicKeyDer c.heap (cstr pcPrvKeyLabel) (cstr pcPubKeyLabel)
  free .pucPublicKeyDer pucPublicKeyDer.isSome

/-! ## `import` -/

/-- `xReadPemFromCliAsDer`: the DER in its buffer, which is freed after an error. -/
def xReadPemFromCliAsDer (c : PkiCalls) : HeapM (Option (List UInt8)) := do
  if ← malloc .pucDerBuffer (c.mbedtls_calloc 1 PEM_CERT_MAX_LEN).isSome then
    match c.read with
    | .error _ => .fail
    | .ok _ =>
      free .pucDerBuffer c.derRead.isNone
      pure c.derRead
  else pure none

/-- `xReadPemFromCliToX509Crt`: whether the context has the certificate. -/
def xReadPemFromCliToX509Crt (c : BlockCalls) : HeapM Bool := do
  match ← xReadPemFromCliAsDer c.calls with
  | none => pure false
  | some der =>
    -- configASSERT( uxDerDataLen > 0 )
    if 0 < der.length then
      let lRslt ← (c.heap.x509CrtParseDerNocopy (some der)).parse
      free .pucDerBuffer (lRslt < 0)
      pure (0 ≤ lRslt)
    else .fail

/-- The check of a label's length. -/
def labelFits (pcLabel : List UInt8) : Bool :=
  strnlen pcLabel configTLS_MAX_LABEL_LEN ≤ configTLS_MAX_LABEL_LEN

/-- `vSubCommand_ImportCertificate`: to write the certificate takes nothing, and nothing is released
after it. -/
def vSubCommand_ImportCertificate (c : BlockCalls) (ulArgc : Nat) (ppcArgv : Argv) : HeapM Unit := do
  if labelFits (labelArray ulArgc ppcArgv tlsCertLabel) then
    let _xResult ← xReadPemFromCliToX509Crt c
    pure ()
  else pure ()

/-- A key that was parsed is written. -/
def writeParsed (c : BlockCalls) (pcPubKeyLabel : List UInt8) (a : PkAns) : HeapM PkiStatus :=
  if a.ret ≠ 0 then pure .objParsingFailed else xPkiWritePubKey c.heap (cstr pcPubKeyLabel) a.pk

/-- The key of `vSubCommand_ImportPubKey` is parsed and written, and its context is released at the end. -/
def importKey (c : BlockCalls) (pcPubKeyLabel der : List UInt8) : HeapM Unit := do
  let a := c.heap.pkParsePublicKey der
  let _lRslt ← a.parse
  let _xStatus ← writeParsed c pcPubKeyLabel a
  free .pucDerBuffer true
  a.pkFree

def vSubCommand_ImportPubKey (c : BlockCalls) (ulArgc : Nat) (ppcArgv : Argv) : HeapM Unit := do
  let pcPubKeyLabel := labelArray ulArgc ppcArgv otaSigningKeyLabel
  if labelFits pcPubKeyLabel then
    match ← xReadPemFromCliAsDer c.calls with
    | none => pure ()
    | some der => importKey c pcPubKeyLabel der
  else pure ()

/-! ## `export` -/

def vSubCommand_ExportCertificate (c : BlockCalls) (ulArgc : Nat) (ppcArgv : Argv) : HeapM Unit := do
  let (xStatus, owns) ←
    xPkiReadCertificate c.heap (object (labelArg ulArgc ppcArgv LABEL_IDX tlsCertLabel))
  if xStatus = .success then give .xCertContext owns else pure ()

def vSubCommand_ExportKey (c : BlockCalls) (ulArgc : Nat) (ppcArgv : Argv) : HeapM Unit := do
  let (_, pucPublicKeyDer, uxPublicKeyDerLen) ←
    xPkiReadPublicKeyDer .pucPublicKeyDer c.heap (object (labelArg ulArgc ppcArgv LABEL_IDX tlsKeyPubLabel))
  free .pucPublicKeyDer (pucPublicKeyDer.isSome && 0 < uxPublicKeyDerLen)

/-! ## The sub-commands -/

inductive SubCommand
  | generateKey | generateCsr | generateCertificate | importPubKey | importCertificate
  | exportKey | exportCertificate

/-- A sub-command with its arguments. -/
def SubCommand.run (c : BlockCalls) (ulArgc : Nat) (ppcArgv : Argv) : SubCommand → HeapM Unit
  | generateKey => vSubCommand_GenerateKey c ulArgc ppcArgv
  | generateCsr => vSubCommand_GenerateCsr c ulArgc ppcArgv
  | generateCertificate => vSubCommand_GenerateCertificate c ulArgc ppcArgv
  | importPubKey => vSubCommand_ImportPubKey c ulArgc ppcArgv
  | importCertificate => vSubCommand_ImportCertificate c ulArgc ppcArgv
  | exportKey => vSubCommand_ExportKey c ulArgc ppcArgv
  | exportCertificate => vSubCommand_ExportCertificate c ulArgc ppcArgv

/-- When a sub-command takes nothing for good. It always does so when it generates a key; a private key must
leave no context, a public one must not be copied for PSA, a certificate that is imported must not be
parsed, and what is exported must give its buffer back. -/
def SubCommand.Fine (c : BlockCalls) (ulArgc : Nat) (ppcArgv : Argv) : SubCommand → Prop
  | generateKey => True
  | generateCsr => c.heap.PrivateKeyFine (object (labelArg ulArgc ppcArgv LABEL_IDX tlsKeyPrvLabel))
  | generateCertificate =>
    c.heap.PrivateKeyFine (object (labelArg ulArgc ppcArgv LABEL_PRV_IDX tlsKeyPrvLabel))
  | importPubKey => ∀ der, c.calls.derRead = some der → (c.heap.pkParsePublicKey der).ret = 0 →
      c.heap.WritePubKeyFine (c.heap.pkParsePublicKey der).pk
        (object (labelArray ulArgc ppcArgv otaSigningKeyLabel))
  | importCertificate => ∀ der, c.calls.derRead = some der →
      (c.heap.x509CrtParseDerNocopy (some der)).owns = 0
  | exportKey => c.heap.PublicKeyFine (object (labelArg ulArgc ppcArgv LABEL_IDX tlsKeyPubLabel))
  | exportCertificate => c.heap.CertificateFine (object (labelArg ulArgc ppcArgv LABEL_IDX tlsCertLabel))

end Cli.Blocks
