import TrustZone.Crypto.Proof.PkiObjectPkcs11
import TrustZone.Crypto.Proof.Provisioning
import TrustZone.Crypto.Proof.Searches
import TrustZone.Lib.Base64

/-!
# What is provisioned is found

The CLI writes, the device reboots, and the application searches and reads (`provisioned_found`). A
certificate is read as it was written unless `convert_pem_to_der`, which is meant for certificates that
were stored as PEM, finds such a text in it (`certificate_value_iff`).
-/

namespace Crypto

open Lib Psa Pkcs11 Machine

/-- `C_GetAttributeValue` tells the size of a value, and copies it into a buffer that is large enough. -/
structure GivesValue (env : ValueEnv) (s : State) (xSession : SessionHandle) (xObject : ObjectHandle)
    (v : List UInt8) : Prop where
  size : ∀ n, cGetAttributeValue env s xSession xObject (some [⟨.ckaValue, none, n⟩]) =
    some (.ok, some [⟨.ckaValue, none, v.length⟩])
  value : ∀ (buf : List UInt8) n, v.length ≤ n → v.length ≤ buf.length →
    cGetAttributeValue env s xSession xObject (some [⟨.ckaValue, some buf, n⟩]) =
      some (.ok, some [⟨.ckaValue, some (blit buf 0 v), n⟩])

variable {env : ValueEnv} {s : State} {xSession : SessionHandle} {px : ObjectHandle} {o : TokenObject}
  {h : Nat} {v v' : List UInt8}

/-- An object has one value. -/
theorem GivesValue.unique (h : GivesValue env s xSession px v) (h' : GivesValue env s xSession px v') :
    v = v' := by
  have hlen : v.length = v'.length := by
    have hsize := (h.size 0).symm.trans (h'.size 0)
    simpa using hsize
  have hvalue := (h.value v v.length le_rfl le_rfl).symm.trans
    (h'.value v v.length (by omega) (by omega))
  have hblit : blit v 0 v = blit v 0 v' := by simpa using hvalue
  rw [blit_zero, blit_zero, ← hlen, List.drop_length, List.append_nil, List.append_nil] at hblit
  exact hblit

theorem Names.find {l : P11ObjectList} (h : Names l px o) : ∃ label,
    prvFindObjectInListByHandle l px = (o.pal, some label) := by
  obtain ⟨i, rfl, hi⟩ := h
  refine ⟨(l.xObjects i).label ++ [0], ?_⟩
  rw [prvFindObjectInListByHandle_appHandle, hi, if_pos o.pal_ne]

/-- The value of an object that may be read. -/
theorem givesValue (hs : sessionCheck s xSession = .ok h) (hnames : Names s.xObjectList px o)
    (hv : pkcs11PsaGetObjectValue env s.p11KeyConfig o.pal = some (.ok ⟨v, false⟩)) :
    GivesValue env s xSession px v := by
  obtain ⟨label, hfind⟩ := hnames.find
  have hpal : (prvFindObjectInListByHandle s.xObjectList px).1 ≠ ckInvalidHandle := by
    rw [hfind]
    exact o.pal_ne
  have hvalue : pkcs11PsaGetObjectValue env s.p11KeyConfig
      (prvFindObjectInListByHandle s.xObjectList px).1 = some (.ok ⟨v, false⟩) := by
    rw [hfind]
    exact hv
  refine ⟨fun n => cGetAttributeValue_one hs hpal hvalue rfl, fun buf n hn hbuf => ?_⟩
  refine cGetAttributeValue_one hs hpal hvalue ?_
  unfold getAttribute
  dsimp only
  rw [if_neg Bool.false_ne_true, if_neg (Option.some_ne_none _), if_neg (Nat.not_lt.2 hn),
    CkAttribute.store_fits hbuf]
  rfl

/-! ## Certificates and public keys -/

theorem objectValue_certificate (c : P11KeyConfig) (x : DeviceCertificate) :
    pkcs11PsaGetObjectValue env c (TokenObject.certificate x).pal =
      ifMarked (x.marked c) (psaGetCertificateValue env x.uid) := by
  cases x <;> rfl

theorem objectValue_key (c : P11KeyConfig) (k : DeviceKey) :
    pkcs11PsaGetObjectValue env c (TokenObject.key k).pal =
      ifMarked (c.mark k) (psaGetKeyValue env (c.handle k)) := by
  cases k <;> rfl

variable {st : PkiStores} {a : ValueAns} {raw : List UInt8} {uid : Nat}

/-- A certificate that is stored, unless a PEM text is found in it. -/
theorem certificateValue (hraw : st.ps uid = some raw) (hlen : raw.length ≤ pkcs11ObjectMaxSize)
    (hmalloc : a.malloc raw.length = true) : psaGetCertificateValue (st.valueEnv a) uid =
      some (.ok ⟨(a.convertPemToDer raw pkcs11ObjectMaxSize).getD raw, false⟩) := by
  have hget : (st.valueEnv a).psGetInfo uid = (psaSuccess, raw.length) := by
    simp only [PkiStores.valueEnv, hraw]
  have hread : (st.valueEnv a).psGet uid raw.length = (psaSuccess, raw) := by
    simp only [PkiStores.valueEnv, hraw, List.take_length]
  have hgrant : (st.valueEnv a).malloc raw.length = true := hmalloc
  unfold psaGetCertificateValue
  simp only [hget, hread, hgrant, if_true]
  have hpem : (st.valueEnv a).convertPemToDer raw pkcs11ObjectMaxSize =
      a.convertPemToDer raw pkcs11ObjectMaxSize := rfl
  rw [hpem]
  cases a.convertPemToDer raw pkcs11ObjectMaxSize with
  | none => exact if_pos hlen
  | some der => rfl

theorem exportableValue {id : KeyHandle} {k : PkiKey} (hk : st.keys id.toNat = some k)
    (hexp : k.Exportable) : psaGetKeyValue (st.valueEnv a) id = some (.ok ⟨k.publicKey, false⟩) := by
  have hexport : exportInto k.material (psaExportKeyOutputSize k.attributes.type
      k.attributes.bits.toNat) = (psaSuccess, k.material) := if_pos hexp.size
  have hnot : psaSuccess ≠ psaErrorNotPermitted := by decide
  unfold psaGetKeyValue PkiStores.valueEnv
  simp only [hk, hexport, if_true, if_neg hnot, if_pos hexp.fits, ← hexp.same]

theorem Tracks.marked_of_names (h : Tracks st s) (hnames : Names s.xObjectList px o) :
    o.marked s.p11KeyConfig = true := by
  obtain ⟨i, -, hi⟩ := hnames
  exact (h.entry o i hi).2

/-- A certificate is read as `convert_pem_to_der` leaves it. -/
theorem certificate_value {x : DeviceCertificate} (htracks : Tracks st s)
    (hnames : Names s.xObjectList px (.certificate x)) (hs : sessionCheck s xSession = .ok h)
    (hraw : st.ps x.uid = some raw) (hlen : raw.length ≤ pkcs11ObjectMaxSize)
    (hmalloc : a.malloc raw.length = true) : GivesValue (st.valueEnv a) s xSession px
      ((a.convertPemToDer raw pkcs11ObjectMaxSize).getD raw) := by
  have hmark : x.marked s.p11KeyConfig = true := htracks.marked_of_names hnames
  refine givesValue hs hnames ?_
  rw [objectValue_certificate, hmark, ← certificateValue hraw hlen hmalloc]
  rfl

/-- **A certificate is read as it was written** unless `convert_pem_to_der` makes something else of it. -/
theorem certificate_value_iff {x : DeviceCertificate} (htracks : Tracks st s)
    (hnames : Names s.xObjectList px (.certificate x)) (hs : sessionCheck s xSession = .ok h)
    (hraw : st.ps x.uid = some raw) (hlen : raw.length ≤ pkcs11ObjectMaxSize)
    (hmalloc : a.malloc raw.length = true) :
    GivesValue (st.valueEnv a) s xSession px raw ↔
      ∀ der, a.convertPemToDer raw pkcs11ObjectMaxSize = some der → der = raw := by
  have hgives := certificate_value htracks hnames hs hraw hlen hmalloc
  constructor
  · intro hgot der hder
    have hsame := hgives.unique hgot
    rwa [hder] at hsame
  · intro hder
    cases hc : a.convertPemToDer raw pkcs11ObjectMaxSize with
    | none => rwa [hc] at hgives
    | some der =>
      rw [hc] at hgives
      obtain rfl := hder der hc
      exact hgives

/-- A public key is read as PSA exports it. -/
theorem publicKey_value {k : DeviceKey} {key : PkiKey} (htracks : Tracks st s)
    (hnames : Names s.xObjectList px (.key k)) (hs : sessionCheck s xSession = .ok h)
    (hkey : st.keys k.keyId.toNat = some key) (hexp : key.Exportable) :
    GivesValue (st.valueEnv a) s xSession px key.publicKey := by
  have hmark : s.p11KeyConfig.mark k = true := htracks.marked_of_names hnames
  refine givesValue hs hnames ?_
  rw [objectValue_key, hmark, htracks.handle k hmark]
  exact exportableValue hkey hexp

/-! ## From the CLI to the application -/

/-- What the application finds of what was provisioned, in a state `s` that `run` leads to. -/
structure Finds (st : PkiStores) (hist : List (Entry PkiStores ProvisionCall PkiStatus))
    (run : List (Entry State AppCall AppAns)) (s : State)
    (base64Decode : List UInt8 → Option (Nat × List UInt8)) : Prop where
  /-- A search finds an object just when PSA holds it. -/
  search : ∀ label ∈ pkiLabels, ∀ xSession h a, sessionCheck s xSession = .ok h → a.Granted →
    ∃ r, searchRun (st.findEnv a) s xSession label ckInvalidHandle 0 = some r ∧ r.Ok ∧
      (r.Found ↔ st.Holds label)
  /-- The certificate that was found is read as the last one written. -/
  certificate : ∀ label px e, label = tlsCertLabel ∨ label = tlsRootCaCertLabel → e ∈ run →
    FindsHandle label px e → ∃ raw, LastCertificate label raw hist ∧
      ∀ xSession h a beyond, sessionCheck s xSession = .ok h → a.malloc raw.length = true →
        (GivesValue (st.valueEnv (valueAns a base64Decode beyond)) s xSession px raw ↔
          ∀ der, convertPemToDer base64Decode beyond raw pkcs11ObjectMaxSize = some der → der = raw)
  /-- The public key that was found is read as PSA exports it. -/
  publicKey : ∀ label px e, label = otaSigningKeyLabel ∨ label = tlsKeyPubLabel → e ∈ run →
    FindsHandle label px e → ∃ id k, xPkiObjectFromLabel label = .psaCrypto id ∧ st.keys id = some k ∧
      ∀ xSession h a, sessionCheck s xSession = .ok h →
        GivesValue (st.valueEnv a) s xSession px k.publicKey
  /-- `FindPKCS11Keys` tells whether PSA holds what the build needs. -/
  keys : ∀ ota a, a.Granted → ∃ ret s', findPkcs11Keys st ota s a = some (ret, s') ∧
    (ret = 1 ↔ st.Holds tlsKeyPrvLabel ∧ st.Holds tlsKeyPubLabel ∧ st.Holds tlsCertLabel ∧
      (ota = true → st.Holds otaSigningKeyLabel))

variable {link : PkiLink} {st₀ : PkiStores} {hist : List (Entry PkiStores ProvisionCall PkiStatus)}
  {s₀ : State} {run : List (Entry State AppCall AppAns)}

/-- **What is provisioned is found** after a reboot: in every state that the application leads to, a search
finds what PSA holds, the certificate that it finds is the one last written where no PEM text is in it, and
the public key the one that PSA exports. -/
theorem provisioned_found (h₀ : st₀.Unprovisioned) (hhist : Exec (provisioner link) st₀ hist st)
    (hknown : ∀ e ∈ hist, e.inp.Known) (hboot : Rebooted s₀) (hrun : Exec (application st) s₀ run s)
    (base64Decode : List UInt8 → Option (Nat × List UInt8)) : Finds st hist run s base64Decode := by
  have happ := application_state hboot hrun
  have hnames : ∀ {o : TokenObject} {e px}, e ∈ run → FindsHandle o.label px e →
      Names s.xObjectList px o ∧ st.HasObject o := by
    intro o e px he hfind
    have hn := application_names hboot hrun he hfind
    exact ⟨hn, happ.tracks.held o (happ.tracks.marked_of_names hn)⟩
  refine ⟨?_, ?_, ?_, ?_⟩
  · intro label hlabel xSession h a hs ha
    obtain ⟨o, rfl, hholds⟩ := pkiLabel_object hlabel
    rw [hholds st]
    exact search_object happ hs ha.malloc ha.lock o
  · intro label px e hlabel he hfind
    obtain ⟨x, rfl, hobj⟩ : ∃ x : DeviceCertificate, label = (TokenObject.certificate x).label ∧
        xPkiObjectFromLabel label = .psaPs x.uid := by
      obtain rfl | rfl := hlabel
      · exact ⟨.device, rfl, by decide⟩
      · exact ⟨.root, rfl, by decide⟩
    obtain ⟨hn, hheld⟩ := hnames he hfind
    obtain ⟨raw, hraw⟩ := Option.ne_none_iff_exists'.1 hheld
    obtain ⟨hlast, hlen⟩ := provision_certificate h₀ hhist hknown hlabel hobj raw
    refine ⟨raw, hlast.1 hraw, fun xSession h a beyond hs hmalloc => ?_⟩
    exact certificate_value_iff happ.tracks hn hs hraw (hlen hraw) hmalloc
  · intro label px e hlabel he hfind
    obtain ⟨k, rfl, hobj, hid⟩ : ∃ k : DeviceKey, label = (TokenObject.key k).label ∧
        xPkiObjectFromLabel label = .psaCrypto k.keyId.toNat ∧ k.keyId.toNat ≠ psaTlsPrvKeyId := by
      obtain rfl | rfl := hlabel
      · exact ⟨.codeVerify, rfl, by decide, by decide⟩
      · exact ⟨.devicePublic, rfl, by decide, by decide⟩
    obtain ⟨hn, hheld⟩ := hnames he hfind
    obtain ⟨key, hkey⟩ := Option.ne_none_iff_exists'.1 hheld
    refine ⟨_, key, hobj, hkey, fun xSession h a hs => ?_⟩
    exact publicKey_value happ.tracks hn hs hkey (provision_exportable h₀ hhist hknown hid hkey)
  · intro ota a ha
    obtain ⟨ret, s', hret, hiff⟩ := findPkcs11Keys_object happ ha ota
    have hprv : st.Holds tlsKeyPrvLabel ↔ st.HasObject (.key .devicePrivate) :=
      holds_label (o := .key .devicePrivate) (by decide) st
    have hpub : st.Holds tlsKeyPubLabel ↔ st.HasObject (.key .devicePublic) :=
      holds_label (o := .key .devicePublic) (by decide) st
    have hcert : st.Holds tlsCertLabel ↔ st.HasObject (.certificate .device) :=
      holds_label (o := .certificate .device) (by decide) st
    have hcode : st.Holds otaSigningKeyLabel ↔ st.HasObject (.key .codeVerify) :=
      holds_label (o := .key .codeVerify) (by decide) st
    refine ⟨ret, s', hret, hiff.trans ?_⟩
    rw [hprv, hpub, hcert, hcode]
    cases ota <;> simp [neededObjects]

/-- The module after a reboot. -/
def rebootedState : State where
  xIsInitialized := false
  xObjectList := ⟨fun _ => .zero, fun _ => .zero⟩
  p11KeyConfig := .zero
  sessions _ := ⟨false, none, 0, 0, 0, 0, 0, 0⟩

theorem rebootedState_rebooted : Rebooted rebootedState := ⟨rfl, fun _ => rfl, rfl, fun _ => ⟨rfl, rfl⟩⟩

/-- Everything that a session needs, at the address 0. -/
def servedSession : SessionAns := ⟨fun _ => .zero, true, true, some 0, true⟩

/-- Everything that a search needs. -/
def servedSearch : SearchAns := ⟨true, true⟩

/-- `mbedtls_base64_decode` of what has no spaces in it. -/
def decodeBase64 (s : List UInt8) : Option (Nat × List UInt8) :=
  (Base64.decode s).map fun der => (der.length, der)

/-- The CLI writes a certificate. -/
def writesCertificate (raw : List UInt8) :
    List (Entry PkiStores ProvisionCall PkiStatus) × PkiStores :=
  ((provisioner p256Link).exec? emptyStores [.xPkiWriteCertificate tlsCertLabel raw none]).getD
    ([], emptyStores)

/-- The application opens a session and searches for the certificate. -/
def searchesCertificate (st : PkiStores) : List (Entry State AppCall AppAns) × State :=
  ((application st).exec? rebootedState [.xInitializePkcs11Session servedSession,
    .search (some 0) tlsCertLabel servedSearch]).getD ([], rebootedState)

theorem emptyStores_unprovisioned : emptyStores.Unprovisioned := ⟨fun _ => rfl, fun _ => rfl⟩

/-- A certificate that is written and found. -/
theorem provisioned_found_certificate :
    Finds (writesCertificate deviceCertificate).2 (writesCertificate deviceCertificate).1
      (searchesCertificate (writesCertificate deviceCertificate).2).1
      (searchesCertificate (writesCertificate deviceCertificate).2).2 decodeBase64 := by
  refine provisioned_found emptyStores_unprovisioned (exec?_getD (by decide +kernel)) ?_
    rebootedState_rebooted (exec?_getD (by decide +kernel)) decodeBase64
  intro e he
  obtain ⟨r, hr⟩ := Option.isSome_iff_exists.1 (show ((provisioner p256Link).exec? emptyStores
    [.xPkiWriteCertificate tlsCertLabel deviceCertificate none]).isSome = true by decide +kernel)
  have hinp : e.inp ∈ (writesCertificate deviceCertificate).1.map (·.inp) := List.mem_map_of_mem he
  rw [writesCertificate, hr, Option.getD_some, exec?_inp hr, List.mem_singleton] at hinp
  rw [hinp]
  exact ⟨.inl rfl, by decide +kernel⟩

/-- The stores with a device certificate. -/
def certificateStored (raw : List UInt8) : PkiStores :=
  { emptyStores with ps := Function.update emptyStores.ps psaTlsCertId (some raw) }

theorem certificateStored_step {raw : List UInt8} (hraw : raw.length ≠ 0) :
    provisionStep p256Link emptyStores (.xPkiWriteCertificate tlsCertLabel raw none) =
      some (certificateStored raw, .success) := by
  have hobj : xPkiObjectFromLabel tlsCertLabel = .psaPs psaTlsCertId := by decide
  show writeCertificate emptyStores (xPkiObjectFromLabel tlsCertLabel) raw none = _
  rw [hobj]
  exact writeCertificate_ps hraw

/-- A certificate that `convert_pem_to_der` decodes is not read as it was written. -/
theorem certificate_decoded {raw der : List UInt8} (hne : raw.length ≠ 0)
    (hlen : raw.length ≤ pkcs11ObjectMaxSize)
    (hdec : convertPemToDer decodeBase64 [] raw pkcs11ObjectMaxSize = some der) (hdiff : der ≠ raw) :
    ∃ hist st run s px, Exec (provisioner p256Link) emptyStores hist st ∧
      (∀ e ∈ hist, e.inp.Known) ∧ LastCertificate tlsCertLabel raw hist ∧
      Exec (application st) rebootedState run s ∧ (∃ e ∈ run, FindsHandle tlsCertLabel px e) ∧
      sessionCheck s (some 0) = .ok 0 ∧
      GivesValue (st.valueEnv (valueAns plentyAns decodeBase64 [])) s (some 0) px der ∧
      ¬GivesValue (st.valueEnv (valueAns plentyAns decodeBase64 [])) s (some 0) px raw := by
  have happ₀ : AppState (certificateStored raw) rebootedState :=
    rebootedState_rebooted.appState
  -- the session
  obtain ⟨s₁, hopen, hs₁⟩ : ∃ s₁, xInitializePkcs11Session rebootedState servedSession =
      (.ok, some 0, s₁) ∧ sessionCheck s₁ (some 0) = .ok 0 := ⟨_, rfl, rfl⟩
  have hstep₁ : appStep (certificateStored raw) rebootedState
      (.xInitializePkcs11Session servedSession) = some (s₁, .session .ok (some 0)) := by
    simp only [appStep, hopen]
  have hrun₁ : Exec (application (certificateStored raw)) rebootedState
      ([] ++ [⟨rebootedState, .xInitializePkcs11Session servedSession, .session .ok (some 0), s₁⟩]) s₁ :=
    .snoc .nil hstep₁
  have happ₁ := application_state rebootedState_rebooted hrun₁
  -- the search
  obtain ⟨r, hr, hok, hfound⟩ := search_object happ₁ hs₁ (a := servedSearch) rfl rfl (.certificate .device)
  have hheld : (certificateStored raw).HasObject (.certificate .device) := nofun
  have hstep₂ : (application (certificateStored raw)).step s₁
      (.search (some 0) tlsCertLabel servedSearch) = some (r.post, .searched r) := by
    show (searchRun ((certificateStored raw).findEnv servedSearch) s₁ (some 0)
      (TokenObject.certificate .device).label ckInvalidHandle 0).map
        (fun r => (r.post, AppAns.searched r)) = _
    rw [hr]
    rfl
  have hrun := hrun₁.snoc hstep₂
  have happ := application_state rebootedState_rebooted hrun
  have hnames := (search_names happ₁ hr hok (hfound.2 hheld)).1
  obtain ⟨-, hinit, hsess⟩ := searchRun_learns happ₁ hr
  have hs : sessionCheck r.post (some 0) = .ok 0 := (sessionCheck_congr hinit hsess).trans hs₁
  have hraw : (certificateStored raw).ps DeviceCertificate.device.uid = some raw := by
    show Function.update emptyStores.ps psaTlsCertId (some raw) psaTlsCertId = some raw
    exact Function.update_self ..
  have hwritten : Exec (provisioner p256Link) emptyStores ([] ++ [⟨emptyStores,
      .xPkiWriteCertificate tlsCertLabel raw none, .success,
      certificateStored raw⟩]) (certificateStored raw) :=
    .snoc .nil (certificateStored_step hne)
  have hlast : LastCertificate tlsCertLabel raw ([] ++ [⟨emptyStores,
      .xPkiWriteCertificate tlsCertLabel raw none, .success, certificateStored raw⟩]) :=
    Since.now ⟨⟨none, rfl⟩, rfl⟩
  refine ⟨_, _, _, _, r.pxObject, hwritten, ?_, hlast, hrun, ⟨_, List.mem_append_right _
    (List.mem_singleton.2 rfl), some 0, servedSearch, r, rfl, rfl, hok, hfound.2 hheld, rfl⟩, hs, ?_, ?_⟩
  · intro e he
    obtain rfl := List.mem_singleton.1 he
    exact ⟨.inl rfl, hlen⟩
  · have hvalue := certificate_value (a := valueAns plentyAns decodeBase64 []) happ.tracks hnames hs hraw
      hlen rfl
    rwa [show (valueAns plentyAns decodeBase64 []).convertPemToDer raw pkcs11ObjectMaxSize = some der
      from hdec] at hvalue
  · rw [certificate_value_iff happ.tracks hnames hs hraw hlen rfl]
    intro hder
    exact hdiff (hder _ hdec)

/-- A certificate of a P-256 key whose subject is called `-----BEGIN A-----AAAA-----END A-----`. -/
def pemCertificate : List UInt8 :=
  [0x30, 0x82, 0x01, 0x45, 0x30, 0x81, 0xec, 0x02, 0x01, 0x01, 0x30, 0x0a, 0x06, 0x08, 0x2a, 0x86,
    0x48, 0xce, 0x3d, 0x04, 0x03, 0x02, 0x30, 0x2f, 0x31, 0x2d, 0x30, 0x2b, 0x06, 0x03, 0x55,
    0x04, 0x03, 0x0c, 0x24, 0x2d, 0x2d, 0x2d, 0x2d, 0x2d, 0x42, 0x45, 0x47, 0x49, 0x4e, 0x20,
    0x41, 0x2d, 0x2d, 0x2d, 0x2d, 0x2d, 0x41, 0x41, 0x41, 0x41, 0x2d, 0x2d, 0x2d, 0x2d, 0x2d,
    0x45, 0x4e, 0x44, 0x20, 0x41, 0x2d, 0x2d, 0x2d, 0x2d, 0x2d, 0x30, 0x1e, 0x17, 0x0d, 0x32,
    0x36, 0x31, 0x31, 0x31, 0x39, 0x30, 0x39, 0x32, 0x38, 0x31, 0x30, 0x5a, 0x17, 0x0d, 0x33,
    0x36, 0x31, 0x31, 0x31, 0x36, 0x30, 0x39, 0x32, 0x38, 0x31, 0x30, 0x5a, 0x30, 0x2f, 0x31,
    0x2d, 0x30, 0x2b, 0x06, 0x03, 0x55, 0x04, 0x03, 0x0c, 0x24, 0x2d, 0x2d, 0x2d, 0x2d, 0x2d,
    0x42, 0x45, 0x47, 0x49, 0x4e, 0x20, 0x41, 0x2d, 0x2d, 0x2d, 0x2d, 0x2d, 0x41, 0x41, 0x41,
    0x41, 0x2d, 0x2d, 0x2d, 0x2d, 0x2d, 0x45, 0x4e, 0x44, 0x20, 0x41, 0x2d, 0x2d, 0x2d, 0x2d,
    0x2d, 0x30, 0x59, 0x30, 0x13, 0x06, 0x07, 0x2a, 0x86, 0x48, 0xce, 0x3d, 0x02, 0x01, 0x06,
    0x08, 0x2a, 0x86, 0x48, 0xce, 0x3d, 0x03, 0x01, 0x07, 0x03, 0x42, 0x00, 0x04, 0xe3, 0x30,
    0x1f, 0x08, 0x06, 0x6b, 0x6e, 0xc6, 0xa9, 0xfb, 0x52, 0xa4, 0x9a, 0x4b, 0x06, 0xf6, 0x8d,
    0xdb, 0x5e, 0xd7, 0x50, 0x20, 0x22, 0x59, 0xde, 0x5b, 0xef, 0x3a, 0xa4, 0x1f, 0xec, 0x15,
    0xbd, 0x8c, 0x31, 0x43, 0x2d, 0xbb, 0xb0, 0xef, 0xa6, 0x6f, 0xad, 0xec, 0x85, 0x60, 0x52,
    0xfa, 0xb1, 0xc8, 0xcb, 0x56, 0xec, 0x38, 0x95, 0xdf, 0x94, 0x2b, 0xee, 0x05, 0x41, 0xba,
    0xef, 0x9c, 0x30, 0x0a, 0x06, 0x08, 0x2a, 0x86, 0x48, 0xce, 0x3d, 0x04, 0x03, 0x02, 0x03,
    0x48, 0x00, 0x30, 0x45, 0x02, 0x20, 0x32, 0xae, 0x3e, 0xd2, 0x6d, 0x4b, 0xbe, 0x55, 0xcd,
    0xec, 0xf6, 0x35, 0xa8, 0x64, 0xc1, 0x8a, 0xbe, 0xfb, 0x55, 0xfb, 0x7f, 0xad, 0xf4, 0xe1,
    0xb5, 0xd5, 0x23, 0xbd, 0xc4, 0xa5, 0x66, 0x38, 0x02, 0x21, 0x00, 0xf9, 0x26, 0xf0, 0x52,
    0xd3, 0x4c, 0xc8, 0xeb, 0xc9, 0x06, 0x8f, 0xcc, 0xa8, 0x70, 0x71, 0x12, 0xe4, 0xa3, 0x88,
    0x03, 0x7f, 0x36, 0xda, 0x39, 0x49, 0x23, 0x28, 0x66, 0x9d, 0x79, 0x06, 0x47]

/-- **The certificate is not read as it was written**: the application gets three zero bytes. -/
theorem provisioned_certificate_decoded :
    ∃ hist st run s px, Exec (provisioner p256Link) emptyStores hist st ∧
      (∀ e ∈ hist, e.inp.Known) ∧ LastCertificate tlsCertLabel pemCertificate hist ∧
      Exec (application st) rebootedState run s ∧ (∃ e ∈ run, FindsHandle tlsCertLabel px e) ∧
      sessionCheck s (some 0) = .ok 0 ∧
      GivesValue (st.valueEnv (valueAns plentyAns decodeBase64 [])) s (some 0) px [0, 0, 0] ∧
      ¬GivesValue (st.valueEnv (valueAns plentyAns decodeBase64 [])) s (some 0) px pemCertificate :=
  certificate_decoded (by decide +kernel) (by decide +kernel) (by decide +kernel) (by decide +kernel)

end Crypto
