import TrustZone.Crypto.PkiObjectPkcs11
import TrustZone.Crypto.Proof.PkiObject

/-!
# What a success of the PKCS#11 functions means

The two functions that write and the one that generates succeed only when every stage did. Of those
that read, `xPkcs11ReadCertificate` takes the positive codes of the module for counts of certificates,
and `xPkcs11ReadPublicKey` returns what the close of the session returns (`pkcs11_status`).

* `Cleared`, `Exported`, `WriteCalls.Begins`, `CertificateRead`, `PublicKeyRead`: what the stages are to
  do.
* `destroyFound_ok`, `exportPubKeyDer_ok`, `writeObject_success`: what a stage that succeeds did.
-/

namespace Crypto

open Lib Pkcs11

/-! ## Status -/

theorem ckRvStatus_success {rv : Rv} : xPrvCkRvToPkiStatus rv = .success ↔ rv = ckrOk := by
  unfold xPrvCkRvToPkiStatus
  split_ifs with h
  · exact iff_of_true rfl h
  all_goals exact iff_of_false nofun h

/-- Every count reads as success. -/
theorem mbedtlsStatus_success {n : Int} : xPrvMbedtlsErrToPkiStatus n = .success ↔ 0 ≤ n := by
  unfold xPrvMbedtlsErrToPkiStatus mbedtlsErrX509AllocFailed mbedtlsErrErrorCorruptionDetected
    mbedtlsErrX509CertUnknownFormat mbedtlsErrX509BadInputData mbedtlsErrPemBadInputData
    mbedtlsErrPemNoHeaderFooterPresent
  split_ifs with h h h h h
  · exact iff_of_true rfl h.ge
  · exact iff_of_false nofun (by omega)
  · exact iff_of_false nofun (by omega)
  · exact iff_of_false nofun (by omega)
  · exact iff_of_false nofun (by omega)
  · exact iff_of_true rfl (by omega)

theorem zeroIfOk_success {rv : Rv} :
    xPrvMbedtlsErrToPkiStatus (zeroIfOk rv) = .success ↔ rv = ckrOk := by
  rw [mbedtlsStatus_success, zeroIfOk]
  split_ifs with h
  · exact iff_of_true (le_refl 0) h
  · exact iff_of_false (by decide) h

/-! ## Stages -/

/-- An object that was there is destroyed. -/
def Cleared (getFunctionList : Rv) (find : FindCalls Unit) (destroyObject : ObjectHandle → Rv) : Prop :=
  getFunctionList = ckrOk ∧ ∃ h, findObject find = some (ckrOk, h) ∧
    (h ≠ ckInvalidHandle → destroyObject h = ckrOk)

theorem destroyFound_ok {l : Rv} {find : FindCalls Unit} {d : ObjectHandle → Rv}
    (h : destroyFound l find d = some ckrOk) : Cleared l find d := by
  unfold destroyFound at h
  split_ifs at h with hl
  · exact absurd (Option.some.inj h) hl
  · obtain ⟨⟨rv, o⟩, hfind, hrv⟩ := Option.map_eq_some_iff.1 h
    dsimp only at hrv
    split_ifs at hrv with ho
    · obtain ⟨rfl, _⟩ := ho
      exact ⟨not_not.1 hl, o, hfind, fun _ => hrv⟩
    · subst hrv
      exact ⟨not_not.1 hl, o, hfind, fun hne => absurd ⟨rfl, hne⟩ ho⟩

def DestroyCalls.Cleared (c : DestroyCalls) : Prop :=
  Crypto.Cleared c.getFunctionList c.find c.destroyObject

def WriteCertCalls.Cleared (c : WriteCertCalls) : Prop :=
  Crypto.Cleared c.getFunctionList c.find c.destroyObject

theorem xPrvDestoryObject_ok {c : DestroyCalls} {xSession : SessionHandle} {label : List UInt8}
    (h : xPrvDestoryObject c xSession label = some ckrOk) : c.Cleared := by
  unfold xPrvDestoryObject at h
  split_ifs at h
  exact destroyFound_ok h

/-- The point of the object is exported: its size and its value are read into memory that was granted,
and `out` is the value behind the header. -/
structure Exported (c : ExportCalls) (h : ObjectHandle) (out : DerOut) : Prop where
  getFunctionList : c.getFunctionList = ckrOk
  read : ∃ t t' : CkAttribute,
    c.getAttributeValue h ⟨.ckaEcPoint, none, 0⟩ = some (ckrOk, t) ∧
    out.puxPubKeyDerLen = (t.ulValueLen + 25) % 2 ^ 32 ∧
    c.pvPortMalloc out.puxPubKeyDerLen = true ∧
    c.getAttributeValue h
      { t with pValue := some ((List.replicate out.puxPubKeyDerLen 0).drop 24) } = some (ckrOk, t') ∧
    out.ppucPubKeyDer = some (pucEcP256AsnAndOid ++ (t'.pValue.getD []).drop 2)

/-- Every stage of an export that succeeds did. -/
theorem exportPubKeyDer_ok {c : ExportCalls} {h : ObjectHandle} {out : DerOut}
    (hok : xPrvExportPubKeyDer c h = some (ckrOk, out)) : Exported c h out := by
  have hlen : ∀ n, n + pucEcP256AsnAndOid.length - pucUnusedKeyTag.length + 1 = n + 25 := fun n => rfl
  unfold xPrvExportPubKeyDer at hok
  split_ifs at hok with hlist
  · exact absurd (Prod.mk.inj (Option.some.inj hok)).1 (by decide)
  · split at hok
    · cases hok
    · rename_i rv t hsize
      simp only [hlen] at hok
      split_ifs at hok with hmem hshort
      · obtain ⟨rfl, hmalloc⟩ := hmem
        split at hok
        · cases hok
        · rename_i rv' t' hvalue
          split_ifs at hok with hrv
          · exact absurd (Prod.mk.inj (Option.some.inj hok)).1 hrv
          · obtain ⟨rfl, rfl⟩ := Prod.mk.inj (Option.some.inj hok)
            refine ⟨not_not.1 hlist, t, t', hsize, rfl, hmalloc, hvalue, ?_⟩
            -- the header takes the place of what is before the value, and of its first two bytes
            have h24 : ((List.replicate ((t.ulValueLen + 25) % 2 ^ 32) (0 : UInt8)).take 24).length =
                24 := by
              rw [List.length_take, List.length_replicate]
              exact Nat.min_eq_left (by
                have : pucEcP256AsnAndOid.length = 26 := rfl
                omega)
            show some (blit (List.take 24 _ ++ _) 0 pucEcP256AsnAndOid) = _
            rw [blit_zero, show pucEcP256AsnAndOid.length = 24 + 2 from rfl, ← List.drop_drop,
              List.drop_left' h24]
      · exact absurd (Prod.mk.inj (Option.some.inj hok)).1 (by decide)

/-- And an export whose stages succeed does, if it does not write out of bounds. -/
theorem Exported.ok {c : ExportCalls} {h : ObjectHandle} {out : DerOut} {r : Rv × DerOut}
    (hex : Exported c h out) (hr : xPrvExportPubKeyDer c h = some r) : r.1 = ckrOk := by
  obtain ⟨hlist, t, t', hsize, hlen, hmalloc, hvalue, _⟩ := hex
  have hlen' : t.ulValueLen + pucEcP256AsnAndOid.length - pucUnusedKeyTag.length + 1 =
      t.ulValueLen + 25 := rfl
  unfold xPrvExportPubKeyDer at hr
  rw [if_neg (not_not.2 hlist), hsize] at hr
  dsimp only at hr
  rw [hlen', ← hlen, if_pos ⟨rfl, hmalloc⟩] at hr
  split_ifs at hr
  rw [show pucEcP256AsnAndOid.length - pucUnusedKeyTag.length = 24 from rfl, hvalue] at hr
  dsimp only at hr
  rw [if_neg (not_not.2 rfl)] at hr
  rw [← Option.some.inj hr]

/-! ## Writing and generating -/

/-- What comes before the function that writes: the session, and an object in the place is destroyed. -/
structure WriteCalls.Begins (c : WriteCalls) : Prop where
  getFunctionList : c.getFunctionList = ckrOk
  session : c.initializePkcs11Session.1 = ckrOk
  destroy : c.destroy.Cleared

/-- A write that succeeds. -/
theorem writeObject_success {c : WriteCalls} {pcLabel : Option (List UInt8)} {context : Bool}
    {write : SessionHandle → List UInt8 → Option Int}
    (h : writeObject c pcLabel context write = some .success) :
    c.Begins ∧ context = true ∧ ∃ label lRslt, pcLabel = some label ∧
      write c.initializePkcs11Session.2 (labelBuffer label) = some lRslt ∧ 0 ≤ lRslt := by
  unfold writeObject at h
  cases pcLabel with
  | none => cases h
  | some label =>
    dsimp only at h
    split_ifs at h with hargs hlist hsession
    · cases Option.some.inj h
    · exact absurd (ckRvStatus_success.1 (Option.some.inj h)) hlist
    · exact absurd (ckRvStatus_success.1 (Option.some.inj h)) hsession
    · split at h
      · cases h
      · rename_i rv hdestroy
        split_ifs at h with hrv
        · exact absurd (ckRvStatus_success.1 (Option.some.inj h)) hrv
        · obtain rfl := not_not.1 hrv
          obtain ⟨lRslt, hwrite, hstatus⟩ := Option.map_eq_some_iff.1 h
          have hbegins : c.Begins :=
            ⟨not_not.1 hlist, not_not.1 hsession, xPrvDestoryObject_ok hdestroy⟩
          have hcontext : context = true := by
            cases context with
            | false => exact absurd (.inl rfl) hargs
            | true => rfl
          exact ⟨hbegins, hcontext, label, lRslt, rfl, hwrite, mbedtlsStatus_success.1 hstatus⟩

/-- The object is created once the place is free. -/
theorem destroyThen_ok {c : WriteCertCalls} {k : Rv} {lRslt : Int}
    (h : (destroyFound c.getFunctionList c.find c.destroyObject).map
      (fun xResult => zeroIfOk (if xResult = ckrOk then k else xResult)) = some lRslt)
    (hpos : 0 ≤ lRslt) : c.Cleared ∧ k = ckrOk := by
  obtain ⟨rv, hdestroy, rfl⟩ := Option.map_eq_some_iff.1 h
  have hok := zeroIfOk_success.1 (mbedtlsStatus_success.2 hpos)
  by_cases hrv : rv = ckrOk
  · rw [hrv] at hdestroy
    rw [if_pos hrv] at hok
    exact ⟨destroyFound_ok hdestroy, hok⟩
  · rw [if_neg hrv] at hok
    exact absurd hok hrv

/-- **A certificate is written** when every stage succeeded, and with it the call that creates the
object. -/
theorem writeCertificate_success {c : WriteCalls} {pcLabel raw : Option (List UInt8)}
    (h : xPkcs11WriteCertificate c pcLabel raw = some .success) :
    c.Begins ∧ c.write.Cleared ∧ ∃ label der, pcLabel = some label ∧ raw = some der ∧
      c.write.createObject (certificateTemplate (labelBuffer label) der) = ckrOk := by
  obtain ⟨hbegins, hraw, label, lRslt, hlabel, hwrite, hpos⟩ := writeObject_success h
  obtain ⟨der, rfl⟩ := Option.isSome_iff_exists.1 hraw
  unfold lWriteCertificateToPKCS11 at hwrite
  split_ifs at hwrite
  obtain ⟨hcleared, hcreate⟩ := destroyThen_ok hwrite hpos
  exact ⟨hbegins, hcleared, label, der, hlabel, rfl, hcreate⟩

/-- The point of a key is written into memory that was granted. -/
structure PointExported (calloc : Nat → Bool) (pk : EcPublicKey) (point : List UInt8) (len : Nat) :
    Prop where
  eckey : pk.isEckey = true
  calloc : calloc ((pk.pointWriteBinary 0).2.1 + 2) = true
  written : (pk.pointWriteBinary (pk.pointWriteBinary 0).2.1).1 = 0
  point : point = 0x04 :: UInt8.ofNat (pk.pointWriteBinary 0).2.1 ::
    blit (List.replicate (pk.pointWriteBinary 0).2.1 0) 0
      (pk.pointWriteBinary (pk.pointWriteBinary 0).2.1).2.2
  length : len = (pk.pointWriteBinary (pk.pointWriteBinary 0).2.1).2.1 + 2

theorem exportEcPoint_ok {calloc : Nat → Bool} {pk : EcPublicKey} {point : List UInt8} {len : Nat}
    (h : exportEcPoint calloc pk = .ok (point, len)) : PointExported calloc pk point len := by
  unfold exportEcPoint at h
  dsimp only at h
  split_ifs at h with hec hsize hcalloc hle hwrite
  obtain ⟨rfl, rfl⟩ := Prod.mk.inj (Except.ok.inj h)
  exact ⟨hec, hcalloc, not_not.1 hwrite, rfl, rfl⟩

theorem exportEcPoint_error {calloc : Nat → Bool} {pk : EcPublicKey} {e : Rv}
    (h : exportEcPoint calloc pk = .error e) : e ≠ ckrOk := by
  unfold exportEcPoint at h
  dsimp only at h
  split_ifs at h
  all_goals
    obtain rfl := Except.error.inj h
    decide

/-- **A public key is written** when every stage succeeded. -/
theorem writePubKey_success {c : WriteCalls} {pcLabel : Option (List UInt8)} {pk : Option EcPublicKey}
    (h : xPkcs11WritePubKey c pcLabel pk = some .success) :
    c.Begins ∧ c.write.Cleared ∧ ∃ label key point len, pcLabel = some label ∧ pk = some key ∧
      PointExported c.calloc key point len ∧
      c.write.createObject (ecPublicKeyTemplate (labelBuffer label) point len) = ckrOk := by
  obtain ⟨hbegins, hpk, label, lRslt, hlabel, hwrite, hpos⟩ := writeObject_success h
  obtain ⟨key, rfl⟩ := Option.isSome_iff_exists.1 hpk
  unfold lWriteEcPublicKeyToPKCS11 at hwrite
  split_ifs at hwrite
  obtain ⟨hcleared, hcreate⟩ := destroyThen_ok hwrite hpos
  split at hcreate
  · rename_i e hexport
    exact absurd hcreate (exportEcPoint_error hexport)
  · rename_i point len hexport
    exact ⟨hbegins, hcleared, label, key, point, len, hlabel, rfl, exportEcPoint_ok hexport, hcreate⟩

/-- **A key pair is generated** when every stage succeeded, and the outputs are the exported public key
with its length. -/
theorem generate_success {c : GenerateCalls} {prv pub : List UInt8} {out out' : DerOut}
    (h : xPkcs11GenerateKeyPairEC c prv pub out = some (.success, out')) :
    c.getFunctionList = ckrOk ∧ c.initializePkcs11Session.1 = ckrOk ∧ c.destroyPrv.Cleared ∧
      c.destroyPub.Cleared ∧ ∃ hPub hPrv,
        c.generateKeyPair (xPublicKeyTemplate (labelBuffer pub))
          (xPrivateKeyTemplate (labelBuffer prv)) = (ckrOk, hPub, hPrv) ∧
        hPub ≠ ckInvalidHandle ∧ Exported c.exporter hPub out' := by
  unfold xPkcs11GenerateKeyPairEC at h
  dsimp only at h
  split_ifs at h with hlabels hlist hsession
  · exact absurd (ckRvStatus_success.1 (Prod.mk.inj (Option.some.inj h)).1) hlist
  · exact absurd (ckRvStatus_success.1 (Prod.mk.inj (Option.some.inj h)).1) hsession
  · obtain ⟨⟨rv, o⟩, hgen, heq⟩ := Option.map_eq_some_iff.1 h
    obtain ⟨hstatus, rfl⟩ := Prod.mk.inj heq
    obtain rfl := ckRvStatus_success.1 hstatus
    unfold generateKeyPair at hgen
    split at hgen
    · cases hgen
    · rename_i rv₁ hprv
      split_ifs at hgen with h₁
      · exact absurd (Prod.mk.inj (Option.some.inj hgen)).1 h₁
      · obtain rfl := not_not.1 h₁
        split at hgen
        · cases hgen
        · rename_i rv₂ hpub
          split_ifs at hgen with h₂
          · exact absurd (Prod.mk.inj (Option.some.inj hgen)).1 h₂
          · obtain rfl := not_not.1 h₂
            dsimp only at hgen
            split_ifs at hgen with h₃ h₄
            · exact absurd (Prod.mk.inj (Option.some.inj hgen)).1 h₃
            · obtain ⟨⟨rv₄, der⟩, hexport, heq⟩ := Option.map_eq_some_iff.1 hgen
              obtain ⟨rfl, hder⟩ := Prod.mk.inj heq
              rw [if_pos rfl] at hder
              obtain rfl := hder
              refine ⟨not_not.1 hlist, not_not.1 hsession, xPrvDestoryObject_ok hprv,
                xPrvDestoryObject_ok hpub, _, _, Prod.ext (not_not.1 h₃) rfl, h₄, ?_⟩
              exact exportPubKeyDer_ok hexport

/-! ## Reading a public key -/

/-- The stages of a read: the session, the search, and the export. -/
structure ReadPublicKeyCalls.Stages (c : ReadPublicKeyCalls) (h : ObjectHandle) (out : DerOut) :
    Prop where
  getFunctionList : c.getFunctionList = ckrOk
  session : c.initializePkcs11Session.1 = ckrOk
  found : findObject c.find = some (ckrOk, h)
  exported : Exported c.exporter h out

/-- A public key is read: there is one, and every stage succeeds. -/
def PublicKeyRead (c : ReadPublicKeyCalls) (out : DerOut) : Prop :=
  ∃ h, c.Stages h out ∧ h ≠ ckInvalidHandle

/-- **The condition** for the read of a public key: where a session is closed with success, every stage
succeeded; where there is none, the stages do not all succeed on no object. -/
structure ReadPublicKeyCalls.Told (c : ReadPublicKeyCalls) : Prop where
  closed : c.getFunctionList = ckrOk → c.initializePkcs11Session.2 ≠ none →
    c.closeSession = ckrOk → ∃ out, PublicKeyRead c out
  unopened : c.initializePkcs11Session.2 = none → ∀ h out, c.Stages h out → h ≠ ckInvalidHandle

/-- A label that is not refused. -/
def KeyLabel (label : List UInt8) : Prop := label ≠ [] ∧ label.length ≤ pkcs11configMaxLabelLength

theorem readPublicKey_success {c : ReadPublicKeyCalls} {out out' : DerOut}
    (h : readPublicKey c out = some (.success, out')) :
    ∃ o, findObject c.find = some (ckrOk, o) ∧ Exported c.exporter o out' := by
  unfold readPublicKey at h
  split at h
  · cases h
  · rename_i rv o hfind
    split_ifs at h with hrv
    · obtain rfl := ckRvStatus_success.1 hrv
      obtain ⟨⟨rv', der⟩, hexport, heq⟩ := Option.map_eq_some_iff.1 h
      obtain ⟨hstatus, hder⟩ := Prod.mk.inj heq
      rw [if_pos hstatus] at hder
      obtain rfl := hder
      obtain rfl := ckRvStatus_success.1 hstatus
      exact ⟨o, hfind, exportPubKeyDer_ok hexport⟩
    · exact absurd (Prod.mk.inj (Option.some.inj h)).1 hrv

/-- What the function does once its arguments are right and the list is there. -/
theorem xPkcs11ReadPublicKey_session {c : ReadPublicKeyCalls} {out : DerOut} {label : List UInt8}
    (hlabel : KeyLabel label) (hlist : c.getFunctionList = ckrOk) :
    xPkcs11ReadPublicKey c out (some label) =
      (if c.initializePkcs11Session.1 = ckrOk then readPublicKey c out
        else some (xPrvCkRvToPkiStatus c.initializePkcs11Session.1, out)).map
      fun r => (if c.initializePkcs11Session.2 = none then r.1
        else xPrvCkRvToPkiStatus c.closeSession, r.2) := by
  have hargs : ¬(label = [] ∨ pkcs11configMaxLabelLength < label.length) := by
    obtain ⟨hne, hle⟩ := hlabel
    exact fun h => h.elim hne (Nat.not_lt.2 hle)
  unfold xPkcs11ReadPublicKey
  dsimp only
  rw [if_neg hargs, if_neg (not_not.2 (ckRvStatus_success.2 hlist))]
  simp only [ckRvStatus_success]

/-- The stages end in success. -/
theorem ReadPublicKeyCalls.Stages.success {c : ReadPublicKeyCalls} {h : ObjectHandle}
    {out out₁ : DerOut} {r : PkiStatus × DerOut} (hst : c.Stages h out₁)
    (hr : readPublicKey c out = some r) : r.1 = .success := by
  unfold readPublicKey at hr
  rw [hst.found] at hr
  dsimp only at hr
  rw [if_pos (ckRvStatus_success.2 rfl)] at hr
  obtain ⟨x, hexport, rfl⟩ := Option.map_eq_some_iff.1 hr
  exact ckRvStatus_success.2 (hst.exported.ok hexport)

/-- Stages that end in success are the stages of a read. -/
theorem stages_of_success {c : ReadPublicKeyCalls} {out : DerOut} {r : PkiStatus × DerOut}
    (hlist : c.getFunctionList = ckrOk)
    (hr : (if c.initializePkcs11Session.1 = ckrOk then readPublicKey c out
      else some (xPrvCkRvToPkiStatus c.initializePkcs11Session.1, out)) = some r)
    (hs : r.1 = .success) : ∃ h, c.Stages h r.2 := by
  split_ifs at hr with hsession
  · obtain ⟨o, hfind, hexport⟩ := readPublicKey_success (hr.trans (congrArg some (Prod.ext hs rfl)))
    exact ⟨o, hlist, hsession, hfind, hexport⟩
  · rw [← Option.some.inj hr] at hs
    exact absurd (ckRvStatus_success.1 hs) hsession

/-- **A public key is read**: a success means that every stage succeeded, exactly under the condition. -/
theorem readPublicKey_iff {c : ReadPublicKeyCalls} {out out' : DerOut} {label : List UInt8}
    {xStatus : PkiStatus} (hlabel : KeyLabel label)
    (hr : xPkcs11ReadPublicKey c out (some label) = some (xStatus, out')) :
    (xStatus = .success → PublicKeyRead c out') ↔ c.Told := by
  by_cases hlist : c.getFunctionList = ckrOk
  · rw [xPkcs11ReadPublicKey_session hlabel hlist] at hr
    obtain ⟨r, hstages, heq⟩ := Option.map_eq_some_iff.1 hr
    obtain ⟨hstatus, rfl⟩ := Prod.mk.inj heq
    -- the stages succeed if any stages do
    have hsuccess : ∀ h out₁, c.Stages h out₁ → r.1 = .success := by
      intro h out₁ hst
      rw [if_pos hst.session] at hstages
      exact hst.success hstages
    by_cases hsession : c.initializePkcs11Session.2 = none
    · rw [if_pos hsession] at hstatus
      subst hstatus
      constructor
      · intro hread
        refine ⟨fun _ hne => absurd hsession hne, fun _ h out₁ hst => ?_⟩
        obtain ⟨h', hst', hne⟩ := hread (hsuccess h out₁ hst)
        have heq := Option.some.inj (hst.found.symm.trans hst'.found)
        rw [(Prod.mk.inj heq).2]
        exact hne
      · intro htold hs
        obtain ⟨h, hst⟩ := stages_of_success hlist hstages hs
        exact ⟨h, hst, htold.unopened hsession h _ hst⟩
    · rw [if_neg hsession] at hstatus
      subst hstatus
      rw [ckRvStatus_success]
      constructor
      · intro hread
        exact ⟨fun _ _ hclose => ⟨r.2, hread hclose⟩, fun hnone => absurd hnone hsession⟩
      · intro htold hclose
        obtain ⟨out₁, h, hst, hne⟩ := htold.closed hlist hsession hclose
        obtain ⟨h', hst'⟩ := stages_of_success hlist hstages (hsuccess h out₁ hst)
        have heq := Option.some.inj (hst.found.symm.trans hst'.found)
        exact ⟨h', hst', (Prod.mk.inj heq).2 ▸ hne⟩
  · have hargs : ¬(label = [] ∨ pkcs11configMaxLabelLength < label.length) := by
      obtain ⟨hne, hle⟩ := hlabel
      exact fun h => h.elim hne (Nat.not_lt.2 hle)
    have hne : xPrvCkRvToPkiStatus c.getFunctionList ≠ .success := fun h =>
      hlist (ckRvStatus_success.1 h)
    unfold xPkcs11ReadPublicKey at hr
    dsimp only at hr
    rw [if_neg hargs, if_pos hne] at hr
    obtain ⟨rfl, -⟩ := Prod.mk.inj (Option.some.inj hr)
    refine iff_of_true (fun h => absurd h hne) ⟨fun h => absurd h hlist, fun _ h out₁ hst => ?_⟩
    exact absurd hst.getFunctionList hlist

/-! ## Reading a certificate -/

/-- The size of a certificate is read. -/
def ReadCertCalls.Sized {χ : Type} (c : ReadCertCalls χ) (h : ObjectHandle) (t : CkAttribute) : Prop :=
  findObject c.find = some (ckrOk, h) ∧ c.getAttributeValue h ⟨.ckaValue, none, 0⟩ = some (ckrOk, t)

/-- And its value. -/
def ReadCertCalls.Valued {χ : Type} (c : ReadCertCalls χ) (h : ObjectHandle) (t t' : CkAttribute) :
    Prop :=
  c.Sized h t ∧ c.calloc t.ulValueLen = true ∧
    c.getAttributeValue h { t with pValue := some (List.replicate t.ulValueLen 0) } = some (ckrOk, t')

/-- A certificate is read: there is one, every stage succeeds, and the whole of its value is parsed to
the context. -/
structure CertificateRead {χ : Type} (c : ReadCertificateCalls χ) (crt : Option χ) : Prop where
  getFunctionList : c.getFunctionList = ckrOk
  session : c.initializePkcs11Session.1 = ckrOk
  list : c.read.getFunctionList = ckrOk
  read : ∃ h t t' der crt', c.read.Valued h t t' ∧ h ≠ ckInvalidHandle ∧ t'.bytes = some der ∧
    c.read.x509CrtParse der = (0, crt') ∧ crt = some crt'

/-- **The condition** for the read of a certificate: a call of the module that fails does so with a
code from `2 ^ 31` on, memory is granted, and the parser counts no certificate that failed, and parses
none where there is no object. -/
structure ReadCertCalls.Told {χ : Type} (c : ReadCertCalls χ) : Prop where
  find : ∀ rv h, findObject c.find = some (rv, h) → rv ≠ ckrOk → 2 ^ 31 ≤ rv.toNat
  size : ∀ h rv t, findObject c.find = some (ckrOk, h) →
    c.getAttributeValue h ⟨.ckaValue, none, 0⟩ = some (rv, t) → rv ≠ ckrOk → 2 ^ 31 ≤ rv.toNat
  calloc : ∀ h t, c.Sized h t → c.calloc t.ulValueLen = true
  value : ∀ h t rv t', c.Sized h t →
    c.getAttributeValue h { t with pValue := some (List.replicate t.ulValueLen 0) } = some (rv, t') →
    rv ≠ ckrOk → 2 ^ 31 ≤ rv.toNat
  parse : ∀ h t t' der, c.Valued h t t' → t'.bytes = some der →
    (c.x509CrtParse der).1 ≤ 0 ∧ ((c.x509CrtParse der).1 = 0 → h ≠ ckInvalidHandle)

/-- What `xPkcs11ReadCertificate` needs to come to read. -/
structure ReadCertificateCalls.Reads {χ : Type} (c : ReadCertificateCalls χ) : Prop where
  getFunctionList : c.getFunctionList = ckrOk
  session : c.initializePkcs11Session.1 = ckrOk

/-- A failed call is no success only with a code from `2 ^ 31` on. -/
theorem toInt_status {rv : Rv} :
    xPrvMbedtlsErrToPkiStatus rv.toInt ≠ .success ↔ 2 ^ 31 ≤ rv.toNat := by
  rw [Ne, mbedtlsStatus_success, BitVec.toInt_eq_toNat_cond]
  split <;> omega

/-- How `lReadCertificateFromPKCS11` ends: a failed stage gives its code, a parse its result. -/
inductive ReadCertCalls.Outcome {χ : Type} (c : ReadCertCalls χ) (crt : χ) : Int → χ → Prop
  | find {rv : Rv} {h : ObjectHandle} : findObject c.find = some (rv, h) → rv ≠ ckrOk →
    c.Outcome crt rv.toInt crt
  | size {h : ObjectHandle} {rv : Rv} {t : CkAttribute} : findObject c.find = some (ckrOk, h) →
    c.getAttributeValue h ⟨.ckaValue, none, 0⟩ = some (rv, t) → rv ≠ ckrOk →
    c.Outcome crt rv.toInt crt
  | calloc {h : ObjectHandle} {t : CkAttribute} : c.Sized h t → c.calloc t.ulValueLen = false →
    c.Outcome crt ckrHostMemory.toInt crt
  | value {h : ObjectHandle} {t : CkAttribute} {rv : Rv} {t' : CkAttribute} : c.Sized h t →
    c.calloc t.ulValueLen = true →
    c.getAttributeValue h { t with pValue := some (List.replicate t.ulValueLen 0) } = some (rv, t') →
    rv ≠ ckrOk → c.Outcome crt rv.toInt crt
  | parse {h : ObjectHandle} {t t' : CkAttribute} {der : List UInt8} : c.getFunctionList = ckrOk →
    c.Valued h t t' → t'.bytes = some der →
    c.Outcome crt (c.x509CrtParse der).1 (c.x509CrtParse der).2

theorem lReadCertificate_outcome {χ : Type} {c : ReadCertCalls χ} {crt crt' : χ}
    {xSession : SessionHandle} {n : Int}
    (h : lReadCertificateFromPKCS11 c crt xSession = some (n, crt')) : c.Outcome crt n crt' := by
  unfold lReadCertificateFromPKCS11 at h
  split at h
  · cases h
  split at h
  · cases h
  · rename_i rv o hfind
    split_ifs at h with hrv hlist
    · obtain ⟨rfl, rfl⟩ := Prod.mk.inj (Option.some.inj h)
      exact .find hfind hrv
    · obtain rfl := not_not.1 hrv
      split at h
      · cases h
      · rename_i rv₁ t hsize
        split_ifs at h with hrv₁ hmem
        · obtain ⟨rfl, rfl⟩ := Prod.mk.inj (Option.some.inj h)
          exact .size hfind hsize hrv₁
        · obtain rfl := not_not.1 hrv₁
          split at h
          · cases h
          · rename_i rv₂ t' hvalue
            split_ifs at h with hrv₂
            · obtain ⟨rfl, rfl⟩ := Prod.mk.inj (Option.some.inj h)
              exact .value ⟨hfind, hsize⟩ hmem hvalue hrv₂
            · obtain rfl := not_not.1 hrv₂
              obtain ⟨der, hbytes, hparse⟩ := Option.map_eq_some_iff.1 h
              obtain ⟨rfl, rfl⟩ := Prod.ext_iff.1 hparse
              exact .parse (not_not.1 hlist) ⟨⟨hfind, hsize⟩, hmem, hvalue⟩ hbytes
        · obtain rfl := not_not.1 hrv₁
          obtain ⟨rfl, rfl⟩ := Prod.mk.inj (Option.some.inj h)
          exact .calloc ⟨hfind, hsize⟩ (Bool.eq_false_of_not_eq_true hmem)

/-- What a read that ends so is to have done. -/
def ReadCertCalls.Read {χ : Type} (c : ReadCertCalls χ) (crt : χ) : Prop :=
  c.getFunctionList = ckrOk ∧ ∃ h t t' der, c.Valued h t t' ∧ h ≠ ckInvalidHandle ∧
    t'.bytes = some der ∧ c.x509CrtParse der = (0, crt)

/-! ### What a stage has seen, all stages see -/

section
variable {χ : Type} {c : ReadCertCalls χ} {h h' : ObjectHandle} {t t' t₁ t₁' : CkAttribute}

theorem findObject_unique {find : FindCalls Unit} {rv rv' : Rv} (h₁ : findObject find = some (rv, h))
    (h₂ : findObject find = some (rv', h')) : rv = rv' ∧ h = h' :=
  Prod.mk.inj (Option.some.inj (h₁.symm.trans h₂))

theorem ReadCertCalls.Sized.unique (hs : c.Sized h t) (hs' : c.Sized h' t') : h = h' ∧ t = t' := by
  obtain ⟨-, rfl⟩ := findObject_unique hs.1 hs'.1
  exact ⟨rfl, (Prod.mk.inj (Option.some.inj (hs.2.symm.trans hs'.2))).2⟩

theorem ReadCertCalls.Valued.unique (hv : c.Valued h t t₁) (hv' : c.Valued h' t' t₁') :
    h = h' ∧ t₁ = t₁' := by
  obtain ⟨rfl, rfl⟩ := hv.1.unique hv'.1
  exact ⟨rfl, (Prod.mk.inj (Option.some.inj (hv.2.2.symm.trans hv'.2.2))).2⟩

/-- Once there is a size, the stages before it are no failures. -/
theorem ReadCertCalls.Sized.before (hs : c.Sized h t) :
    (∀ rv h, findObject c.find = some (rv, h) → rv ≠ ckrOk → 2 ^ 31 ≤ rv.toNat) ∧
      ∀ h rv t, findObject c.find = some (ckrOk, h) →
        c.getAttributeValue h ⟨.ckaValue, none, 0⟩ = some (rv, t) → rv ≠ ckrOk →
        2 ^ 31 ≤ rv.toNat := by
  refine ⟨fun rv h hf hrv => absurd (findObject_unique hs.1 hf).1.symm hrv,
    fun h rv t hf hsz hrv => ?_⟩
  obtain ⟨-, rfl⟩ := findObject_unique hs.1 hf
  exact absurd (Prod.mk.inj (Option.some.inj (hsz.symm.trans hs.2))).1 hrv

end

/-- The result of a read reads as success only after all stages, exactly under the condition. -/
theorem ReadCertCalls.Outcome.told_iff {χ : Type} {c : ReadCertCalls χ} {crt crt' : χ} {n : Int}
    (ho : c.Outcome crt n crt') :
    (xPrvMbedtlsErrToPkiStatus n = .success → c.Read crt') ↔ c.Told := by
  cases ho with
  | find hfind hne =>
    constructor
    · intro hread
      have hcode := toInt_status.1 fun hs => by
        obtain ⟨-, h, t, t', der, hval, -⟩ := hread hs
        exact hne (findObject_unique hfind hval.1.1).1
      refine ⟨fun rv h hf _ => ?_, fun h rv t hf => ?_, fun h t hs => ?_, fun h t rv t' hs => ?_,
        fun h t t' der hv => ?_⟩
      · rw [← (findObject_unique hfind hf).1]
        exact hcode
      · exact absurd (findObject_unique hfind hf).1 hne
      · exact absurd (findObject_unique hfind hs.1).1 hne
      · exact absurd (findObject_unique hfind hs.1).1 hne
      · exact absurd (findObject_unique hfind hv.1.1).1 hne
    · intro htold hs
      exact absurd hs (toInt_status.2 (htold.find _ _ hfind hne))
  | @size h₀ rv₀ t₀ hfind hsize hne =>
    have hnot : ∀ {h t}, ¬c.Sized h t := by
      intro h t hs
      obtain ⟨-, rfl⟩ := findObject_unique hfind hs.1
      exact hne (Prod.mk.inj (Option.some.inj (hsize.symm.trans hs.2))).1
    constructor
    · intro hread
      have hcode := toInt_status.1 fun hs => by
        obtain ⟨-, h, t, t', der, hval, -⟩ := hread hs
        exact hnot hval.1
      refine ⟨fun rv h hf hrv => ?_, fun h rv t hf hsz _ => ?_, fun h t hs => absurd hs hnot,
        fun h t rv t' hs => absurd hs hnot, fun h t t' der hv => absurd hv.1 hnot⟩
      · exact absurd (findObject_unique hfind hf).1.symm hrv
      · obtain ⟨-, rfl⟩ := findObject_unique hfind hf
        rw [← (Prod.mk.inj (Option.some.inj (hsize.symm.trans hsz))).1]
        exact hcode
    · intro htold hs
      exact absurd hs (toInt_status.2 (htold.size _ _ _ hfind hsize hne))
  | @calloc h₀ t₀ hs₀ hfalse =>
    constructor
    · intro hread
      obtain ⟨-, h, t, t', der, hval, -⟩ := hread (by decide)
      obtain ⟨rfl, rfl⟩ := hs₀.unique hval.1
      exact absurd hval.2.1 (by rw [hfalse]; exact Bool.false_ne_true)
    · intro htold
      exact absurd (htold.calloc _ _ hs₀) (by rw [hfalse]; exact Bool.false_ne_true)
  | @value h₀ t₀ rv₀ t₁ hs₀ hmem hvalue hne =>
    have hvalued : ∀ {h t rv t'}, c.Sized h t → c.getAttributeValue h
        { t with pValue := some (List.replicate t.ulValueLen 0) } = some (rv, t') → rv = rv₀ := by
      intro h t rv t' hs hv
      obtain ⟨rfl, rfl⟩ := hs₀.unique hs
      exact (Prod.mk.inj (Option.some.inj (hv.symm.trans hvalue))).1
    constructor
    · intro hread
      have hcode := toInt_status.1 fun hs => by
        obtain ⟨-, h, t, t', der, hval, -⟩ := hread hs
        exact hne (hvalued hval.1 hval.2.2).symm
      obtain ⟨hfind, hsize⟩ := hs₀.before
      refine ⟨hfind, hsize, fun h t hs => ?_, fun h t rv t' hs hv _ => ?_, fun h t t' der hv => ?_⟩
      · obtain ⟨rfl, rfl⟩ := hs₀.unique hs
        exact hmem
      · rw [hvalued hs hv]
        exact hcode
      · exact absurd (hvalued hv.1 hv.2.2).symm hne
    · intro htold hs
      exact absurd hs (toInt_status.2 (htold.value _ _ _ _ hs₀ hvalue hne))
  | @parse h₀ t₀ t₁ der₀ hlist hv₀ hbytes =>
    constructor
    · intro hread
      obtain ⟨hfind, hsize⟩ := hv₀.1.before
      refine ⟨hfind, hsize, fun h t hs => ?_, fun h t rv t' hs hv hrv => ?_,
        fun h t t' der hv hder => ?_⟩
      · obtain ⟨rfl, rfl⟩ := hv₀.1.unique hs
        exact hv₀.2.1
      · obtain ⟨rfl, rfl⟩ := hv₀.1.unique hs
        exact absurd (Prod.mk.inj (Option.some.inj (hv.symm.trans hv₀.2.2))).1 hrv
      · obtain ⟨rfl, rfl⟩ := hv₀.unique hv
        obtain rfl := Option.some.inj (hbytes.symm.trans hder)
        rcases lt_or_ge (c.x509CrtParse der₀).1 0 with hneg | hpos
        · exact ⟨hneg.le, fun h => absurd h hneg.ne⟩
        · -- the result reads as success, so the certificate is read
          obtain ⟨-, h', t, t', der, hval, hne, hder', hparse⟩ :=
            hread (mbedtlsStatus_success.2 hpos)
          obtain ⟨rfl, rfl⟩ := hv₀.unique hval
          obtain rfl := Option.some.inj (hbytes.symm.trans hder')
          rw [hparse]
          exact ⟨le_refl 0, fun _ => hne⟩
    · intro htold hs
      obtain ⟨hle, hfound⟩ := htold.parse _ _ _ _ hv₀ hbytes
      have hzero : (c.x509CrtParse der₀).1 = 0 := le_antisymm hle (mbedtlsStatus_success.1 hs)
      exact ⟨hlist, h₀, t₀, t₁, der₀, hv₀, hfound hzero, hbytes, Prod.ext hzero rfl⟩

/-- **A certificate is read**: a success means that every stage succeeded, exactly under the condition. -/
theorem readCertificate_iff {χ : Type} {c : ReadCertificateCalls χ} {crt₀ : χ} {crt' : Option χ}
    {label : List UInt8} {xStatus : PkiStatus} (hlabel : labelBuffer label ≠ [])
    (hr : xPkcs11ReadCertificate c (some crt₀) (some label) = some (xStatus, crt')) :
    (xStatus = .success → CertificateRead c crt') ↔ (c.Reads → c.read.Told) := by
  unfold xPkcs11ReadCertificate at hr
  dsimp only at hr
  rw [if_neg hlabel] at hr
  split_ifs at hr with hlist hsession
  · obtain ⟨rfl, rfl⟩ := Prod.mk.inj (Option.some.inj hr)
    exact iff_of_true (fun hs => absurd (ckRvStatus_success.1 hs) hlist)
      fun hreads => absurd hreads.getFunctionList hlist
  · obtain ⟨rfl, rfl⟩ := Prod.mk.inj (Option.some.inj hr)
    exact iff_of_true (fun hs => absurd (ckRvStatus_success.1 hs) hsession)
      fun hreads => absurd hreads.session hsession
  · obtain ⟨⟨n, crt₁⟩, hread, heq⟩ := Option.map_eq_some_iff.1 hr
    obtain ⟨rfl, rfl⟩ := Prod.mk.inj heq
    have hreads : c.Reads := ⟨not_not.1 hlist, not_not.1 hsession⟩
    have hiff := (lReadCertificate_outcome hread).told_iff
    constructor
    · intro h _
      apply hiff.1
      intro hs
      obtain ⟨_, _, hinner, o, t, t', der, crt₂, hval, hne, hder, hparse, heq⟩ := h hs
      obtain rfl := Option.some.inj heq
      exact ⟨hinner, o, t, t', der, hval, hne, hder, hparse⟩
    · intro h hs
      obtain ⟨hinner, o, t, t', der, hval, hne, hder, hparse⟩ := hiff.2 (h hreads) hs
      exact ⟨hreads.getFunctionList, hreads.session, hinner, o, t, t', der, crt₁, hval, hne, hder,
        hparse, rfl⟩

/-- The read of a certificate, with arguments of any kind. -/
theorem readCertificate_told {χ : Type} {c : ReadCertificateCalls χ} {crt crt' : Option χ}
    {pcLabel : Option (List UInt8)} {xStatus : PkiStatus}
    (hr : xPkcs11ReadCertificate c crt pcLabel = some (xStatus, crt')) :
    (xStatus = .success → CertificateRead c crt') ↔
      ∀ label, pcLabel = some label → crt ≠ none → labelBuffer label ≠ [] → c.Reads →
        c.read.Told := by
  have hinvalid : xStatus = .argInvalid → xStatus = .success → CertificateRead c crt' := by
    rintro rfl hs
    cases hs
  cases pcLabel with
  | none =>
    obtain ⟨hs, -⟩ := Prod.mk.inj (Option.some.inj hr)
    exact iff_of_true (hinvalid hs.symm) fun label hlabel => nomatch hlabel
  | some label =>
    cases crt with
    | none =>
      obtain ⟨hs, -⟩ := Prod.mk.inj (Option.some.inj hr)
      exact iff_of_true (hinvalid hs.symm) fun _ _ hcrt => absurd rfl hcrt
    | some crt₀ =>
      by_cases hempty : labelBuffer label = []
      · unfold xPkcs11ReadCertificate at hr
        dsimp only at hr
        rw [if_pos hempty] at hr
        obtain ⟨hs, -⟩ := Prod.mk.inj (Option.some.inj hr)
        refine iff_of_true (hinvalid hs.symm) fun label' hlabel _ hne => ?_
        obtain rfl := Option.some.inj hlabel
        exact absurd hempty hne
      · rw [readCertificate_iff hempty hr]
        constructor
        · intro h _ _ _ _
          exact h
        · intro h
          exact h label rfl (Option.some_ne_none _) hempty

/-- The read of a public key, with a label of any kind. -/
theorem readPublicKey_told {c : ReadPublicKeyCalls} {out out' : DerOut}
    {pcLabel : Option (List UInt8)} {xStatus : PkiStatus}
    (hr : xPkcs11ReadPublicKey c out pcLabel = some (xStatus, out')) :
    (xStatus = .success → PublicKeyRead c out') ↔
      ∀ label, pcLabel = some label → KeyLabel label → c.Told := by
  have hinvalid : xStatus = .argInvalid → xStatus = .success → PublicKeyRead c out' := by
    rintro rfl hs
    cases hs
  cases pcLabel with
  | none =>
    obtain ⟨hs, -⟩ := Prod.mk.inj (Option.some.inj hr)
    exact iff_of_true (hinvalid hs.symm) fun label hlabel => nomatch hlabel
  | some label =>
    by_cases hargs : label = [] ∨ pkcs11configMaxLabelLength < label.length
    · unfold xPkcs11ReadPublicKey at hr
      dsimp only at hr
      rw [if_pos hargs] at hr
      obtain ⟨hs, -⟩ := Prod.mk.inj (Option.some.inj hr)
      refine iff_of_true (hinvalid hs.symm) fun label' hlabel hkey => ?_
      obtain rfl := Option.some.inj hlabel
      obtain ⟨hne, hle⟩ := hkey
      exact absurd hargs (not_or.2 ⟨hne, Nat.not_lt.2 hle⟩)
    · rw [not_or, Nat.not_lt] at hargs
      rw [readPublicKey_iff hargs hr]
      constructor
      · intro h _ _ _
        exact h
      · intro h
        exact h label rfl hargs

/-! ## The five functions -/

/-- **The status of the PKCS#11 functions**: a write and a generation succeed only when every stage
did; a read does exactly under the conditions. -/
theorem pkcs11_status {χ : Type} :
    (∀ (c : WriteCalls) (pcLabel raw : Option (List UInt8)),
      xPkcs11WriteCertificate c pcLabel raw = some .success →
      c.Begins ∧ c.write.Cleared ∧ ∃ label der, pcLabel = some label ∧ raw = some der ∧
        c.write.createObject (certificateTemplate (labelBuffer label) der) = ckrOk) ∧
    (∀ (c : WriteCalls) (pcLabel : Option (List UInt8)) (pk : Option EcPublicKey),
      xPkcs11WritePubKey c pcLabel pk = some .success →
      c.Begins ∧ c.write.Cleared ∧ ∃ label key point len, pcLabel = some label ∧ pk = some key ∧
        PointExported c.calloc key point len ∧
        c.write.createObject (ecPublicKeyTemplate (labelBuffer label) point len) = ckrOk) ∧
    (∀ (c : GenerateCalls) (prv pub : List UInt8) (out out' : DerOut),
      xPkcs11GenerateKeyPairEC c prv pub out = some (.success, out') →
      c.getFunctionList = ckrOk ∧ c.initializePkcs11Session.1 = ckrOk ∧ c.destroyPrv.Cleared ∧
        c.destroyPub.Cleared ∧ ∃ hPub hPrv,
          c.generateKeyPair (xPublicKeyTemplate (labelBuffer pub))
            (xPrivateKeyTemplate (labelBuffer prv)) = (ckrOk, hPub, hPrv) ∧
          hPub ≠ ckInvalidHandle ∧ Exported c.exporter hPub out') ∧
    (∀ (c : ReadCertificateCalls χ) (crt : Option χ) (pcLabel : Option (List UInt8))
        (xStatus : PkiStatus) (crt' : Option χ),
      xPkcs11ReadCertificate c crt pcLabel = some (xStatus, crt') →
      ((xStatus = .success → CertificateRead c crt') ↔
        ∀ label, pcLabel = some label → crt ≠ none → labelBuffer label ≠ [] → c.Reads →
          c.read.Told)) ∧
    ∀ (c : ReadPublicKeyCalls) (out : DerOut) (pcLabel : Option (List UInt8)) (xStatus : PkiStatus)
        (out' : DerOut),
      xPkcs11ReadPublicKey c out pcLabel = some (xStatus, out') →
      ((xStatus = .success → PublicKeyRead c out') ↔
        ∀ label, pcLabel = some label → KeyLabel label → c.Told) := by
  refine ⟨fun c pcLabel raw h => writeCertificate_success h,
    fun c pcLabel pk h => writePubKey_success h,
    fun c prv pub out out' h => generate_success h, ?_, ?_⟩
  · intro c crt pcLabel xStatus crt' hr
    exact readCertificate_told hr
  · intro c out pcLabel xStatus out' hr
    exact readPublicKey_told hr

/-- A search that fails with `CKR_FUNCTION_FAILED`. -/
def failedSearch : FindCalls Unit :=
  ⟨ckrOk, fun _ => some (ckrFunctionFailed, ()), fun _ h => some (ckrOk, h, 0, ()),
    fun _ => some (ckrOk, ())⟩

/-- A search that finds nothing. -/
def emptySearch : FindCalls Unit :=
  ⟨ckrOk, fun _ => some (ckrOk, ()), fun _ h => some (ckrOk, h, 0, ()), fun _ => some (ckrOk, ())⟩

/-- A certificate whose search fails: the code 6 reads as a count. -/
def certSearchFails : ReadCertificateCalls Unit :=
  ⟨ckrOk, (ckrOk, some 1), (), ⟨ckrOk, failedSearch, fun _ t => some (ckrOk, t), fun _ => true,
    fun _ => (0, ())⟩, ckrOk⟩

/-- A public key that is not there: its attribute is not read, and the session is closed. -/
def keyMissing : ReadPublicKeyCalls :=
  ⟨ckrOk, (ckrOk, some 1), emptySearch,
    ⟨ckrOk, fun _ t => some (ckrObjectHandleInvalid, t), fun _ => true⟩, ckrOk⟩

/-- Both reads succeed with nothing read. -/
theorem pkcs11_reads_untold :
    xPkcs11ReadCertificate certSearchFails (some ()) (some [0x63]) = some (.success, some ()) ∧
      findObject certSearchFails.read.find = some (ckrFunctionFailed, ckInvalidHandle) ∧
      xPkcs11ReadPublicKey keyMissing ⟨none, 0⟩ (some [0x6B]) = some (.success, ⟨none, 0⟩) ∧
      findObject keyMissing.find = some (ckrOk, ckInvalidHandle) :=
  ⟨rfl, rfl, rfl, rfl⟩

end Crypto
