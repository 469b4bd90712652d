import TrustZone.Cli.PkiBlocks
import TrustZone.Cli.Proof.PkiConsole
import TrustZone.Crypto.Proof.PkiBlocks
import TrustZone.Crypto.Proof.PkiObject

/-!
# What the command for keys and certificates leaves on the heap

Each part of a sub-command has a lemma `…_leaves`: what it holds when it returns, besides what it has lost,
and when nothing is lost. `blocks_freed_iff` puts them together. A private key is the case that is not
compositional: once one was read its context is lost, whatever the rest does.
-/

namespace Cli.Blocks

open Lib
open Psa (psaSuccess psaErrorInvalidHandle)
open Crypto (PkiStatus p256Link deviceCertificate devicePrivateKey devicePublicKey deviceContext tlsKeyPrvLabel
  tlsKeyPubLabel tlsCertLabel otaSigningKeyLabel)
open Crypto.Blocks

variable {c : BlockCalls} {b : Block} {held held' : Multiset Block}

/-! ## Filling a context -/

theorem set_leaves (f : Setter) (lError : Int) {r : Filled} (h : held' = .replicate r.2 b + held) :
    (c.set b f lError r).Leaves one held' (fun r => .replicate r.2 b + held) fun _ => True := by
  unfold BlockCalls.set
  split_ifs
  · refine (take_leaves b (c.owns f)).bind fun _ _ => ?_
    refine Traced.leaves_pure _ ?_ trivial
    rw [h, Multiset.replicate_add, add_assoc, add_left_comm]
  · exact Traced.leaves_pure r h.symm trivial

theorem writeDer_leaves (granted : Bool) (a : DerAns) (lError : Int) :
    (writeDer granted a lError).Leaves one held (fun _ => held) fun _ => True := by
  unfold writeDer moveDer
  split_ifs
  · exact Traced.leaves_pure _ rfl trivial
  · exact Traced.leaves_fail
  · exact Traced.leaves_pure _ rfl trivial
  · exact Traced.leaves_pure _ rfl trivial

theorem writeCsr_leaves (c : BlockCalls) : (writeCsr c).Leaves one 0 (fun _ => 0) fun _ => True := by
  unfold writeCsr
  refine (malloc_leaves .pcSubjectName _).bind fun granted _ => ?_
  refine (set_leaves _ _ (zero_add _).symm).bind fun r _ => ?_
  refine (set_leaves _ _ rfl).bind fun r _ => ?_
  refine (set_leaves _ _ rfl).bind fun r _ => ?_
  refine (writeDer_leaves _ _ _).bind fun der _ => ?_
  refine (give_leaves .xCsr r.2).bind fun _ _ => ?_
  exact free_pure der rfl trivial

theorem vSubCommand_GenerateCsr_leaves (c : BlockCalls) (ulArgc : Nat) (ppcArgv : Argv) :
    (vSubCommand_GenerateCsr c ulArgc ppcArgv).Leaves one 0 (fun _ => 0) fun _ =>
      SubCommand.generateCsr.Fine c ulArgc ppcArgv := by
  unfold vSubCommand_GenerateCsr
  refine (malloc_leaves .pucCsrDer _).bind fun granted _ => ?_
  refine (take_leaves .xEntropyCtx _).bind fun _ _ => ?_
  refine Traced.leaves_bind (fun _ _ => True) ((xPkiReadPrivateKey_leaves _ _).inside _) ?_ ?_
  · intro xStatus _
    have hwrite : (ifRead xStatus (writeCsr c) (-1)).Leaves one 0 (fun _ => 0) fun _ => True := by
      unfold ifRead
      split_ifs
      · exact writeCsr_leaves c
      · exact Traced.leaves_pure _ rfl trivial
    refine (hwrite.inside _).bind fun _ _ => ?_
    refine (free_leaves (add_left_comm _ _ _)).bind fun _ _ => ?_
    exact give_leaves .xEntropyCtx _
  · intro xStatus _ _ _
    exact (iff_of_eq (and_true _)).symm

/-! ## The certificate -/

theorem setSerial_leaves (c : BlockCalls) (r : Filled) :
    (setSerial c r).Leaves one (.replicate r.2 .xWriteCertCtx + held)
      (fun r => .replicate r.2 .xWriteCertCtx + held) fun _ => 0 ≤ r.1 → c.serial = 0 := by
  unfold setSerial
  by_cases h : 0 ≤ r.1
  · rw [if_pos h]
    have hserial : (take .xCertSerialNumber c.serial).Leaves one (.replicate r.2 .xWriteCertCtx + held)
        (fun _ => .replicate r.2 .xWriteCertCtx + held) fun _ => c.serial = 0 :=
      (take_leaves .xCertSerialNumber c.serial).drop.imp (fun _ _ => rfl) fun _ _ => by
        rw [true_and, replicate_eq_zero]
    refine Traced.leaves_bind (fun _ _ => True) hserial (fun _ _ => set_leaves _ _ rfl) ?_
    intro _ _ _ _
    simp [h]
  · rw [if_neg h]
    exact Traced.leaves_pure r rfl fun hr => absurd hr h

theorem setSubject_leaves (c : BlockCalls) (granted : Bool) (r : Filled) :
    (setSubject c granted r).Leaves one (.replicate r.2 .xWriteCertCtx + held)
      (fun r => .replicate r.2 .xWriteCertCtx + held) fun _ => True := by
  unfold setSubject
  split_ifs
  · exact set_leaves _ _ rfl
  · exact Traced.leaves_pure _ rfl trivial

theorem setNames_leaves (c : BlockCalls) (r : Filled) :
    (setNames c r).Leaves one (.replicate r.2 .xWriteCertCtx + held)
      (fun r => .replicate r.2 .xWriteCertCtx + held) fun _ => True := by
  unfold setNames
  by_cases h : 0 ≤ r.1
  · rw [if_pos h]
    refine (malloc_leaves .pcSubjectName _).bind fun granted _ => ?_
    rw [add_left_comm]
    refine (setSubject_leaves c granted r).bind fun r _ => ?_
    refine (set_leaves _ _ rfl).bind fun r _ => ?_
    exact free_pure r (add_left_comm _ _ _) trivial
  · rw [if_neg h]
    exact Traced.leaves_pure r rfl trivial

theorem writeCrt_leaves (c : BlockCalls) : (writeCrt c).Leaves one 0 (fun _ => 0) fun _ =>
    0 ≤ c.calls.crt.set_ns_cert_type → c.serial = 0 := by
  unfold writeCrt
  refine (set_leaves _ _ (zero_add _).symm).bind fun r hr => ?_
  have hret : r.1 = c.calls.crt.set_ns_cert_type := by
    unfold BlockCalls.set at hr
    rw [if_pos (le_refl _)] at hr
    obtain rfl := Option.some.inj hr
    rfl
  rw [← hret]
  refine Traced.leaves_bind (fun _ _ => True) (setSerial_leaves c r) ?_ ?_
  · intro r _
    refine (set_leaves _ _ rfl).bind fun r _ => ?_
    refine (setNames_leaves c r).bind fun r _ => ?_
    refine (set_leaves _ _ rfl).bind fun r _ => ?_
    refine (set_leaves _ _ rfl).bind fun r _ => ?_
    refine (set_leaves _ _ rfl).bind fun r _ => ?_
    refine (set_leaves _ _ rfl).bind fun r _ => ?_
    refine (writeDer_leaves _ _ _).bind fun der _ => ?_
    refine (give_leaves .xWriteCertCtx r.2).bind fun _ _ => ?_
    exact Traced.leaves_pure der rfl trivial
  · intro _ _ _ _
    exact (iff_of_eq (and_true _)).symm

theorem parseWritten_leaves (c : BlockCalls) (der : List UInt8) :
    (parseWritten c der).Leaves one (blockIf .pucCertDer true + held) (fun _ => held) fun _ =>
      0 ≤ (c.heap.x509CrtParseDerNocopy (some der)).ret := by
  unfold parseWritten
  refine (CrtAns.parse_leaves _).bind fun lError hret => ?_
  obtain rfl := Option.some.inj hret
  refine Traced.leaves_bind (fun _ _ => True) (free_or_lose (add_left_comm _ _ _)) ?_ ?_
  · intro _ _
    exact give_leaves .xCertContext _
  · simp

theorem finishCrt_leaves (c : BlockCalls) (granted : Bool) (lError : Int) (der : List UInt8) :
    (finishCrt c granted lError der).Leaves one (blockIf .pucCertDer granted + held) (fun _ => held)
      fun _ => 0 ≤ lError ∧ 0 < der.length ∧ granted = true →
        0 ≤ (c.heap.x509CrtParseDerNocopy (some der)).ret := by
  unfold finishCrt
  split_ifs with h
  · obtain ⟨hError, hder, rfl⟩ := h
    exact (parseWritten_leaves c der).imp (fun _ _ => rfl) fun _ _ => by simp [hError, hder]
  · exact (free_leaves rfl).imp (fun _ _ => rfl) fun _ _ => by simp [h]

/-- What follows the private key. -/
def afterRead (c : BlockCalls) (granted : Bool) (xResult : PkiStatus) : HeapM Unit := do
  let r ← ifRead xResult (writeCrt c) 0
  finishCrt c granted r.1 r.2
  give .xEntropyCtx c.entropy

theorem finish_leaves (c : BlockCalls) (granted : Bool) (r : Int × List UInt8) :
    (do finishCrt c granted r.1 r.2; give .xEntropyCtx c.entropy : HeapM Unit).Leaves one
      (.replicate c.entropy .xEntropyCtx + (blockIf .pucCertDer granted + 0)) (fun _ => 0) fun _ =>
        0 ≤ r.1 ∧ 0 < r.2.length ∧ granted = true → 0 ≤ (c.heap.x509CrtParseDerNocopy (some r.2)).ret := by
  rw [add_left_comm]
  refine Traced.leaves_bind (fun _ _ => True) (finishCrt_leaves c granted r.1 r.2)
    (fun _ _ => give_leaves .xEntropyCtx _) ?_
  intro _ _ _ _
  exact (iff_of_eq (and_true _)).symm

/-- Without a private key `pucCertDer` is freed. -/
theorem afterRead_of_error (c : BlockCalls) (granted : Bool) {xResult : PkiStatus} (h : xResult ≠ .success) :
    (afterRead c granted xResult).Leaves one
      (.replicate c.entropy .xEntropyCtx + (blockIf .pucCertDer granted + 0)) (fun _ => 0) fun _ => True := by
  unfold afterRead ifRead
  rw [if_neg h]
  exact (finish_leaves c granted (0, [])).imp (fun _ _ => rfl) fun _ _ => by simp

/-- After a private key the serial number is lost, and `pucCertDer` when the certificate cannot be parsed. -/
theorem afterRead_success (c : BlockCalls) (granted : Bool) :
    (afterRead c granted .success).Leaves one
      (.replicate c.entropy .xEntropyCtx + (blockIf .pucCertDer granted + 0)) (fun _ => 0) fun _ =>
        ∀ r, (writeCrt c).result = some r → (0 ≤ c.calls.crt.set_ns_cert_type → c.serial = 0) ∧
          (0 ≤ r.1 ∧ 0 < r.2.length ∧ granted = true →
            0 ≤ (c.heap.x509CrtParseDerNocopy (some r.2)).ret) := by
  unfold afterRead ifRead
  rw [if_pos rfl]
  refine Traced.leaves_bind _ ((writeCrt_leaves c).inside _) (fun r _ => finish_leaves c granted r) ?_
  intro r _ hr _
  constructor
  · exact fun h => h r hr
  · intro h r' hr'
    obtain rfl := Option.some.inj (hr.symm.trans hr')
    exact h

theorem vSubCommand_GenerateCertificate_leaves (c : BlockCalls) (ulArgc : Nat) (ppcArgv : Argv) :
    (vSubCommand_GenerateCertificate c ulArgc ppcArgv).Leaves one 0 (fun _ => 0) fun _ =>
      SubCommand.generateCertificate.Fine c ulArgc ppcArgv := by
  unfold vSubCommand_GenerateCertificate
  refine (malloc_leaves .pucCertDer _).bind fun granted _ => ?_
  refine (take_leaves .xEntropyCtx _).bind fun _ _ => ?_
  have hread := xPkiReadPrivateKey_leaves c.heap (object (labelArg ulArgc ppcArgv LABEL_PRV_IDX tlsKeyPrvLabel))
  by_cases hs : (xPkiReadPrivateKey c.heap
      (object (labelArg ulArgc ppcArgv LABEL_PRV_IDX tlsKeyPrvLabel))).result = some .success
  · -- the key that was read is left already, whatever comes after it
    refine Traced.leaves_bind (fun _ _ => ∀ r, (writeCrt c).result = some r →
      (0 ≤ c.calls.crt.set_ns_cert_type → c.serial = 0) ∧ (0 ≤ r.1 ∧ 0 < r.2.length ∧ granted = true →
        0 ≤ (c.heap.x509CrtParseDerNocopy (some r.2)).ret)) (hread.inside _) ?_ ?_
    · intro xResult hr
      obtain rfl := Option.some.inj (hs.symm.trans hr)
      exact afterRead_success c granted
    · intro _ _ _ _
      exact iff_of_false (xPkiReadPrivateKey_success hs) fun h => xPkiReadPrivateKey_success hs h.1
  · refine Traced.leaves_bind (fun _ _ => True) (hread.inside _) ?_ ?_
    · intro xResult hr
      exact afterRead_of_error c granted fun h => hs (h ▸ hr)
    · intro _ _ _ _
      exact (iff_of_eq (and_true _)).symm

/-! ## Keys -/

theorem vSubCommand_GenerateKey_leaves (c : BlockCalls) (ulArgc : Nat) (ppcArgv : Argv) :
    (vSubCommand_GenerateKey c ulArgc ppcArgv).Leaves one 0 (fun _ => 0) fun _ =>
      SubCommand.generateKey.Fine c ulArgc ppcArgv := by
  unfold vSubCommand_GenerateKey
  exact (xPkiGenerateECKeypair_leaves .pucPublicKeyDer c.heap _ _).bind fun _ _ =>
    free_leaves (add_zero _).symm

theorem vSubCommand_ExportKey_leaves (c : BlockCalls) (ulArgc : Nat) (ppcArgv : Argv) :
    (vSubCommand_ExportKey c ulArgc ppcArgv).Leaves one 0 (fun _ => 0) fun _ =>
      SubCommand.exportKey.Fine c ulArgc ppcArgv :=
  xPkiReadPublicKeyDer_leaves .pucPublicKeyDer c.heap _

theorem vSubCommand_ExportCertificate_leaves (c : BlockCalls) (ulArgc : Nat) (ppcArgv : Argv) :
    (vSubCommand_ExportCertificate c ulArgc ppcArgv).Leaves one 0 (fun _ => 0) fun _ =>
      SubCommand.exportCertificate.Fine c ulArgc ppcArgv :=
  xPkiReadCertificate_leaves c.heap _

/-! ## Importing -/

theorem derRead_refused {c : PkiCalls} (h : c.mbedtls_calloc 1 PEM_CERT_MAX_LEN = none) : c.derRead = none := by
  have hread : ∃ printed ls, readPem c.base64 c.mbedtls_calloc c.lines = some (.ok ⟨false, none, printed, ls⟩) := by
    unfold readPem Cli.xReadPemFromCliAsDer
    rw [h]
    exact ⟨_, _, rfl⟩
  obtain ⟨printed, ls, hread⟩ := hread
  have hok : c.read = .ok ⟨false, none, printed, ls⟩ := by
    unfold PkiCalls.read
    simp only [hread, Option.get_some]
  unfold PkiCalls.derRead
  rw [hok]

/-- The reader of a PEM text hands its buffer over with the DER. -/
theorem xReadPemFromCliAsDer_leaves (c : PkiCalls) :
    (xReadPemFromCliAsDer c).Leaves one 0 (fun der => blockIf .pucDerBuffer der.isSome) fun _ => True := by
  unfold xReadPemFromCliAsDer
  refine (malloc_leaves .pucDerBuffer _).bind fun granted _ => ?_
  cases granted with
  | false => exact Traced.leaves_pure _ (add_zero _).symm trivial
  | true =>
    rw [if_pos rfl]
    cases c.read with
    | error printed => exact Traced.leaves_fail
    | ok res =>
      cases hder : c.derRead with
      | none => exact free_pure _ rfl trivial
      | some der => exact free_pure _ (add_comm _ _) trivial

theorem xReadPemFromCliAsDer_result {c : PkiCalls} {der : Option (List UInt8)}
    (h : (xReadPemFromCliAsDer c).result = some der) : c.derRead = der := by
  unfold xReadPemFromCliAsDer at h
  cases hc : c.mbedtls_calloc 1 PEM_CERT_MAX_LEN with
  | none =>
    rw [hc] at h
    exact (derRead_refused hc).trans (Option.some.inj h)
  | some pucDerBuffer =>
    rw [hc, Traced.result_bind] at h
    obtain ⟨granted, hg, h⟩ := Option.bind_eq_some_iff.1 h
    obtain rfl : true = granted := Option.some.inj hg
    rw [if_pos rfl] at h
    cases hread : c.read with
    | error printed =>
      rw [hread] at h
      cases h
    | ok res =>
      rw [hread] at h
      exact Option.some.inj h

/-- What is read into the context of a certificate is not released, and neither is its buffer. -/
theorem xReadPemFromCliToX509Crt_leaves (c : BlockCalls) :
    (xReadPemFromCliToX509Crt c).Leaves one 0 (fun _ => 0) fun _ =>
      ∀ der, c.calls.derRead = some der → (c.heap.x509CrtParseDerNocopy (some der)).owns = 0 := by
  unfold xReadPemFromCliToX509Crt
  refine (xReadPemFromCliAsDer_leaves c.calls).bind fun read hr => ?_
  rw [xReadPemFromCliAsDer_result hr]
  cases read with
  | none => exact Traced.leaves_pure false rfl nofun
  | some der =>
    dsimp only
    split_ifs
    · generalize hx : c.heap.x509CrtParseDerNocopy (some der) = a
      have hlost : a.parse.Leaves one (blockIf .pucDerBuffer true) (fun _ => blockIf .pucDerBuffer true)
          fun _ => a.owns = 0 := a.parse_leaves.drop.imp (fun _ _ => rfl) fun _ _ => by
        rw [true_and, replicate_eq_zero]
      refine Traced.leaves_bind (fun lError _ => lError < 0) hlost ?_ ?_
      · intro lError _
        refine Traced.leaves_bind (fun _ _ => True) (free_or_lose (add_zero _).symm)
          (fun _ _ => Traced.leaves_pure _ rfl trivial) ?_
        simp
      · intro lError _ hret _
        obtain rfl := Option.some.inj hret
        simp only [Option.some.injEq, forall_eq', hx]
        constructor
        · intro hzero
          refine ⟨hzero, ?_⟩
          by_contra hpos
          have := a.owns_of_ret (not_lt.1 hpos)
          omega
        · exact fun h => h.1
    · exact Traced.leaves_fail

theorem labelFits_eq (pcLabel : List UInt8) : labelFits pcLabel = true := decide_eq_true (strnlen_le _ _)

theorem vSubCommand_ImportCertificate_leaves (c : BlockCalls) (ulArgc : Nat) (ppcArgv : Argv) :
    (vSubCommand_ImportCertificate c ulArgc ppcArgv).Leaves one 0 (fun _ => 0) fun _ =>
      SubCommand.importCertificate.Fine c ulArgc ppcArgv := by
  unfold vSubCommand_ImportCertificate
  rw [if_pos (labelFits_eq _)]
  exact (xReadPemFromCliToX509Crt_leaves c).map

theorem writeParsed_leaves (c : BlockCalls) (pcPubKeyLabel : List UInt8) (a : PkAns) :
    (writeParsed c pcPubKeyLabel a).Leaves one 0 (fun _ => 0) fun _ =>
      a.ret = 0 → c.heap.WritePubKeyFine a.pk (object pcPubKeyLabel) := by
  unfold writeParsed
  by_cases h : a.ret = 0
  · rw [if_neg (not_not.2 h)]
    exact (xPkiWritePubKey_leaves c.heap (cstr pcPubKeyLabel) a.pk).imp (fun _ _ => rfl) fun _ _ => by
      simp [h, object]
  · rw [if_pos h]
    exact Traced.leaves_pure _ rfl fun hret => absurd hret h

theorem importKey_leaves (c : BlockCalls) (pcPubKeyLabel der : List UInt8) :
    (importKey c pcPubKeyLabel der).Leaves one (blockIf .pucDerBuffer true) (fun _ => 0) fun _ =>
      (c.heap.pkParsePublicKey der).ret = 0 →
        c.heap.WritePubKeyFine (c.heap.pkParsePublicKey der).pk (object pcPubKeyLabel) := by
  unfold importKey
  refine (PkAns.parse_leaves _).bind fun _ _ => ?_
  refine Traced.leaves_bind (fun _ _ => True) ((writeParsed_leaves c pcPubKeyLabel _).inside _) ?_ ?_
  · intro _ _
    refine (free_leaves (add_comm _ _)).bind fun _ _ => ?_
    refine (free_leaves (add_comm _ _)).bind fun _ _ => ?_
    have hgive : (give .pkNumbers (c.heap.pkParsePublicKey der).numbers).Leaves one
        (.replicate (c.heap.pkParsePublicKey der).numbers .pkNumbers + 0) (fun _ => 0) fun _ => True :=
      give_leaves .pkNumbers _
    rwa [add_zero] at hgive
  · intro _ _ _ _
    exact (iff_of_eq (and_true _)).symm

theorem vSubCommand_ImportPubKey_leaves (c : BlockCalls) (ulArgc : Nat) (ppcArgv : Argv) :
    (vSubCommand_ImportPubKey c ulArgc ppcArgv).Leaves one 0 (fun _ => 0) fun _ =>
      SubCommand.importPubKey.Fine c ulArgc ppcArgv := by
  unfold vSubCommand_ImportPubKey
  rw [if_pos (labelFits_eq _)]
  refine (xReadPemFromCliAsDer_leaves c.calls).bind fun read hr => ?_
  have hread := xReadPemFromCliAsDer_result hr
  cases read with
  | none =>
    refine Traced.leaves_pure () rfl ?_
    intro der hder
    rw [hread] at hder
    cases hder
  | some der =>
    refine (importKey_leaves c _ der).imp (fun _ _ => rfl) fun _ _ => ?_
    simp only [SubCommand.Fine, hread, Option.some.injEq, forall_eq']

/-! ## Every sub-command -/

theorem SubCommand.run_leaves (c : BlockCalls) (ulArgc : Nat) (ppcArgv : Argv) (cmd : SubCommand) :
    (cmd.run c ulArgc ppcArgv).Leaves one 0 (fun _ => 0) fun _ => cmd.Fine c ulArgc ppcArgv := by
  cases cmd with
  | generateKey => exact vSubCommand_GenerateKey_leaves c ulArgc ppcArgv
  | generateCsr => exact vSubCommand_GenerateCsr_leaves c ulArgc ppcArgv
  | generateCertificate => exact vSubCommand_GenerateCertificate_leaves c ulArgc ppcArgv
  | importPubKey => exact vSubCommand_ImportPubKey_leaves c ulArgc ppcArgv
  | importCertificate => exact vSubCommand_ImportCertificate_leaves c ulArgc ppcArgv
  | exportKey => exact vSubCommand_ExportKey_leaves c ulArgc ppcArgv
  | exportCertificate => exact vSubCommand_ExportCertificate_leaves c ulArgc ppcArgv

theorem flatMap_one (l : List (Deed Block)) : l.flatMap one = l := List.flatMap_singleton' l

/-- **Blocks.** No sub-command frees a block twice, and one that returns has freed every block exactly when
it is `Fine`. -/
theorem blocks_freed_iff (c : BlockCalls) (ulArgc : Nat) (ppcArgv : Argv) (cmd : SubCommand) :
    (∃ held, settle 0 (cmd.run c ulArgc ppcArgv).log = some held) ∧
      ∀ u, (cmd.run c ulArgc ppcArgv).result = some u →
        (settle 0 (cmd.run c ulArgc ppcArgv).log = some 0 ↔ cmd.Fine c ulArgc ppcArgv) := by
  have h := cmd.run_leaves c ulArgc ppcArgv
  refine ⟨?_, ?_⟩
  · obtain ⟨held, hs, -⟩ := h
    rw [flatMap_one] at hs
    exact ⟨held, hs⟩
  · intro u hu
    have hiff := h.settle_iff hu
    rwa [flatMap_one] at hiff

/-- The certificate is taken, and nothing else. -/
def certificateAns (raw : Option (List UInt8)) : Crypto.Blocks.CrtAns :=
  if raw = some deviceCertificate then ⟨0, 1, fun _ => Nat.one_pos⟩
  else ⟨Crypto.mbedtlsErrX509BadInputData, 0, fun h => absurd h (by decide)⟩

/-- A key is taken, or not. -/
def keyAns (taken : Bool) : PkAns :=
  if taken then ⟨0, true, 0, deviceContext, fun _ => rfl⟩
  else ⟨-0x3D00, false, 0, deviceContext, fun h => absurd h (by decide)⟩

/-- A certificate is in protected storage, and everything is granted. -/
def storedDer : HeapCalls where
  object := ⟨fun _ => (psaErrorInvalidHandle, ⟨0, 0⟩), fun _ _ => (psaErrorInvalidHandle, []),
    ⟨fun _ => (psaErrorInvalidHandle, 0), fun _ _ _ => (psaErrorInvalidHandle, [])⟩,
    ⟨fun _ => (psaSuccess, deviceCertificate.length), fun _ _ _ => (psaSuccess, deviceCertificate)⟩⟩
  calloc _ := true
  publicKey _ := p256Link.pki
  psaPkCtxAlloc := true
  pvPortMalloc _ := true
  pkParseKey raw := keyAns (raw = some devicePrivateKey)
  pkParsePublicKey der := keyAns (der = devicePublicKey)
  x509CrtParse := certificateAns
  x509CrtParseDer := certificateAns
  x509CrtParseDerNocopy := certificateAns
  pubKeyBuffer _ := true
  importKey := psaSuccess
  storageSet := psaSuccess
  destroyPrv := psaSuccess
  destroyPub := psaSuccess
  generateKey := psaSuccess

/-- `pki export cert` with these calls. -/
def exportedDer (ulArgc : Nat) (ppcArgv : Argv) : HeapM Unit :=
  SubCommand.exportCertificate.run ⟨succeeding, storedDer, 1, 1, fun _ => 1⟩ ulArgc ppcArgv

/-- The line `pki export cert` exports the certificate in protected storage, and its buffer stays allocated. -/
theorem exported_certificate_leaks : ∃ ulArgc argv,
    FreeRTOS_CLIProcessCommand (xRegisteredCommands [xCommandDef_conf, xCommandDef_pki])
      (ascii "pki export cert" ++ 0 :: []) = some (.call xCommandDef_pki ulArgc argv) ∧
    argv.string VERB_ARG_INDEX = some (ascii "export") ∧ argv.string OBJECT_TYPE_INDEX = some (ascii "cert") ∧
    (exportedDer ulArgc argv).result = some () ∧
    settle 0 (exportedDer ulArgc argv).log = some {.pucCertBuffer} := by
  have hw : words SPACE (ascii "pki export cert") = Cli.SubCommand.exportCert.start ++ [] := by decide +kernel
  obtain ⟨argv, hcall, hargv⟩ := registered_pki noCommands (by decide) (by decide) hw []
  have hargc : (words SPACE (ascii "pki export cert")).length = 3 := by rw [hw]; rfl
  rw [hargc] at hcall
  have hobj : object (labelArg 3 argv LABEL_IDX tlsCertLabel) = .psaPs 5 := by
    rw [labelArg, if_neg (by decide)]
    decide +kernel
  have hrun : exportedDer 3 argv = (xPkiReadCertificate storedDer (.psaPs 5) >>= fun r =>
      if r.1 = .success then give .xCertContext r.2 else pure ()) := by
    show vSubCommand_ExportCertificate _ _ _ = _
    unfold vSubCommand_ExportCertificate
    rw [hobj]
  refine ⟨3, argv, hcall, ?_, ?_, ?_, ?_⟩
  · rw [hargv.string, hw]
    rfl
  · rw [hargv.string, hw]
    rfl
  · rw [hrun]
    decide +kernel
  · rw [hrun]
    decide +kernel

end Cli.Blocks
