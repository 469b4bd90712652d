import TrustZone.Crypto.Proof.EcdsaSig
import TrustZone.Pkcs11.Proof.SignProtocol
import TrustZone.Sockets.SigningCallback

/-!
# What the signing callback signs

The digest algorithm is dropped on the way, and of the length only what `C_Sign` checks on the data that
it gets is left. With an ECDSA key that is the length of the digest; with an RSA key the data always has
the length it should.

* `SigningReady`: nothing but `psa_sign_hash` can fail any more.
* `cSignInit_loads`, `signData_signed`: what the two calls do when they succeed.
* `signing_callback_iff`: the callback signs what it is given exactly when `SigningFine`.
-/

namespace Sockets

open Lib Pkcs11 Psa

/-! ## What is to hold -/

/-- The key that `C_SignInit` loads for a handle, which is to be that of the device private key. -/
def deviceKey (s : State) (xKey : ObjectHandle) : Option KeyHandle :=
  let (xPalHandle, pcLabel) := prvFindObjectInListByHandle s.xObjectList xKey
  if xPalHandle = eAwsDevicePrivateKey then
    match pkcs11PsaGetKeyHandle s.p11KeyConfig (pcLabel.getD []) with
    | (.ok, key) => some key
    | _ => none
  else none

/-- The DER form of the signature `r‖s`. -/
def DerForm (sig out : List UInt8) : Prop :=
  ∃ r w, r < 256 ^ 32 ∧ w < 256 ^ 32 ∧ sig = bigEndian 32 r ++ bigEndian 32 w ∧
    out = Crypto.derSignature r w

/-- `out` is what `psa_sign_hash` made of the hash, with the device key and its algorithm, whose digest
is `hashAlg`. -/
def Signed (env : SigningEnv) (ctx : SigningContext) (s : State) (hashAlg : Algorithm)
    (pucHash out : List UInt8) : Prop :=
  ∃ key alg sig, deviceKey s ctx.xP11PrivateKey = some key ∧
    env.signInit.getKeyAttributes key = (psaSuccess, alg) ∧
    env.sign.signHash key alg pucHash toBeSignedSize = (psaSuccess, sig) ∧
    psaAlgSignGetHash alg = hashAlg ∧ if ctx.xKeyType = ckkEc then DerForm sig out else out = sig

/-- **The law of the callback**: no access is out of bounds, and it fails or signs the hash. -/
def SigningSafe {μ : Type} (translateMd : μ → Algorithm) (toMbedTls : List UInt8 → List UInt8)
    (env : SigningEnv) (stack : Fin toBeSignedSize → UInt8) (ctx : SigningContext) (s : State)
    (xMdAlg : μ) (pucHash : List UInt8) : Prop :=
  ∃ lFinalResult pucSig s', prvPrivateKeySigningCallback toMbedTls env stack ctx s xMdAlg pucHash =
      .ok ((lFinalResult, pucSig), s') ∧
    (lFinalResult ≠ 0 ∨ ∃ out, pucSig = some out ∧
      Signed env ctx s (translateMd xMdAlg) pucHash out)

/-- The mechanism of a key type. -/
def mechanismOf (xKeyType : Nat) : Option MechanismType :=
  if xKeyType = ckkRsa then some ckmRsaPkcs else if xKeyType = ckkEc then some ckmEcdsa else none

/-- `C_SignInit` has all that it needs. -/
structure Loads (env : SignEnv) (ctx : SigningContext) (s : State) (mechanism : MechanismType)
    (h : Nat) (key : KeyHandle) (alg : Algorithm) : Prop where
  session : sessionCheck s ctx.xP11Session = .ok h
  device : deviceKey s ctx.xP11PrivateKey = some key
  lock : env.lock = true
  attributes : env.getKeyAttributes key = (psaSuccess, alg)
  mechanism : checkMechanism ckmRsaPkcs mechanism alg = .ok

/-- All is there for a signature: the key is loaded, its algorithm suits the key type, and what is to be
signed with an ECDSA key has the length of a SHA-256 digest. -/
def SigningReady (signInit : SignEnv) (lock : Bool) (ctx : SigningContext) (s : State)
    (pucHash : List UInt8) (key : KeyHandle) (alg : Algorithm) : Prop :=
  ∃ h mechanism, mechanismOf ctx.xKeyType = some mechanism ∧
    Loads signInit ctx s mechanism h key alg ∧ lock = true ∧ key ≠ 0 ∧
    (ctx.xKeyType = ckkEc → pucHash.length = pkcs11Sha256DigestLength)

/-- **The condition**: there are 32 bytes to read for an RSA key, and no more than the local buffer holds
for an ECDSA key; and where all is there for a signature, the hash is of 32 bytes and its algorithm is
that of the key. -/
structure SigningFine (hashAlg : Algorithm) (env : SigningEnv) (ctx : SigningContext) (s : State)
    (pucHash : List UInt8) : Prop where
  rsa : ctx.xKeyType = ckkRsa → 32 ≤ pucHash.length
  ec : ctx.xKeyType = ckkEc → pucHash.length ≤ toBeSignedSize
  digest : ∀ key alg, SigningReady env.signInit env.sign.lock ctx s pucHash key alg →
    pucHash.length = 32 ∧ psaAlgSignGetHash alg = hashAlg

/-! ## The data -/

theorem append_ok {msg buf : List UInt8} (hmsg : 32 ≤ msg.length) (hbuf : buf.length = 256) :
    ∃ rest, vAppendSha256AlgorithmIdentifierSequence msg buf =
      .ok (pkcs11StuffAppendedToRsaSig ++ msg.take 32 ++ rest) := by
  have hoid : pkcs11StuffAppendedToRsaSig.length = 19 := rfl
  have hhead : memcpy buf 0 pkcs11StuffAppendedToRsaSig pkcs11StuffAppendedToRsaSig.length =
      .ok (pkcs11StuffAppendedToRsaSig ++ buf.drop 19) := by
    apply memcpy_ok.2
    refine ⟨le_refl _, by omega, ?_⟩
    rw [List.take_length, blit_zero, hoid]
  refine ⟨(buf.drop 19).drop 32, ?_⟩
  unfold vAppendSha256AlgorithmIdentifierSequence
  dsimp only
  rw [hhead]
  apply memcpy_ok.2
  refine ⟨hmsg, by simp only [List.length_append, List.length_drop]; omega, ?_⟩
  rw [blit_append_right (le_refl _), Nat.sub_self, blit_zero, List.length_take,
    Nat.min_eq_left hmsg, List.append_assoc]

theorem append_short {msg buf : List UInt8} (hmsg : msg.length < 32) (hbuf : buf.length = 256) :
    vAppendSha256AlgorithmIdentifierSequence msg buf = .error .read := by
  have hoid : pkcs11StuffAppendedToRsaSig.length = 19 := rfl
  have hhead : memcpy buf 0 pkcs11StuffAppendedToRsaSig pkcs11StuffAppendedToRsaSig.length =
      .ok (blit buf 0 (pkcs11StuffAppendedToRsaSig.take pkcs11StuffAppendedToRsaSig.length)) := by
    apply memcpy_ok.2
    exact ⟨le_refl _, by omega, rfl⟩
  unfold vAppendSha256AlgorithmIdentifierSequence
  dsimp only
  rw [hhead]
  exact if_pos hmsg

/-- An RSA digest: the first 32 bytes of the hash, behind the `AlgorithmIdentifier` of SHA-256. -/
theorem formatHash_rsa {buf pucHash : List UInt8} (hlen : 32 ≤ pucHash.length)
    (hbuf : buf.length = 256) : formatHash ckkRsa buf pucHash =
      .ok (.ok, ckmRsaPkcs, pkcs11StuffAppendedToRsaSig ++ pucHash.take 32) := by
  obtain ⟨rest, hrest⟩ := append_ok hlen hbuf
  have htake : (pkcs11StuffAppendedToRsaSig ++ pucHash.take 32 ++ rest).take
      pkcs11RsaSignatureInputLength = pkcs11StuffAppendedToRsaSig ++ pucHash.take 32 := by
    apply List.take_left'
    rw [List.length_append, List.length_take, Nat.min_eq_left hlen]
    rfl
  unfold formatHash
  rw [if_pos rfl, hrest]
  show Except.ok _ = _
  rw [htake]

theorem formatHash_rsa_short {buf pucHash : List UInt8} (hlen : pucHash.length < 32)
    (hbuf : buf.length = 256) : formatHash ckkRsa buf pucHash = .error .read := by
  unfold formatHash
  rw [if_pos rfl, append_short hlen hbuf]
  rfl

theorem formatHash_ec {buf pucHash : List UInt8} (hlen : pucHash.length ≤ toBeSignedSize)
    (hbuf : buf.length = 256) : formatHash ckkEc buf pucHash = .ok (.ok, ckmEcdsa, pucHash) := by
  have hcopy : memcpy buf 0 pucHash pucHash.length = .ok (pucHash ++ buf.drop pucHash.length) := by
    apply memcpy_ok.2
    refine ⟨le_refl _, (Nat.zero_add _).symm ▸ hbuf.symm ▸ hlen, ?_⟩
    rw [List.take_length, blit_zero]
  have htake : (pucHash ++ buf.drop pucHash.length).take pucHash.length = pucHash :=
    List.take_left' rfl
  unfold formatHash
  rw [if_neg (by decide), if_pos rfl, hcopy, if_neg (Nat.not_lt.2 hlen)]
  show Except.ok _ = _
  rw [htake]

/-- The length is checked, and the hash copied all the same. -/
theorem formatHash_ec_long {buf pucHash : List UInt8} (hlen : toBeSignedSize < pucHash.length)
    (hbuf : buf.length = 256) : formatHash ckkEc buf pucHash = .error .write := by
  have hcopy : memcpy buf 0 pucHash pucHash.length = .error .write := by
    unfold memcpy
    rw [if_neg (lt_irrefl _), hbuf, Nat.zero_add, if_pos hlen]
  unfold formatHash
  rw [if_neg (by decide), if_pos rfl, hcopy]
  rfl

theorem formatHash_other {xKeyType : Nat} {buf pucHash : List UInt8}
    (htype : mechanismOf xKeyType = none) :
    formatHash xKeyType buf pucHash = .ok (.argumentsBad, 0, buf) := by
  unfold mechanismOf at htype
  split_ifs at htype with hrsa hec
  unfold formatHash
  rw [if_neg hrsa, if_neg hec]
  rfl

/-! ## The calls -/

/-- The session that `C_SignInit` sets up. -/
def loaded (s : State) (h : Nat) (mechanism : MechanismType) (key : KeyHandle) (alg : Algorithm) :
    P11Session :=
  { s.sessions h with uxSignKey := key, xSignAlgorithm := alg, xSignMechanism := mechanism }

theorem loadSignKey_ok {env : SignEnv} {cfg : P11KeyConfig} {xPalHandle : ObjectHandle}
    {pcLabel : List UInt8} {x y : P11Session}
    (hload : loadSignKey env cfg xPalHandle pcLabel x = (.ok, y)) :
    xPalHandle = eAwsDevicePrivateKey ∧ ∃ key alg, pkcs11PsaGetKeyHandle cfg pcLabel = (.ok, key) ∧
      env.getKeyAttributes key = (psaSuccess, alg) ∧
      y = { x with uxSignKey := key, xSignAlgorithm := alg } := by
  unfold loadSignKey at hload
  split_ifs at hload with hpal
  · split at hload
    · rename_i key hkey
      dsimp only at hload
      split_ifs at hload with hstatus
      · obtain ⟨-, rfl⟩ := Prod.mk.inj hload
        exact ⟨hpal, key, _, hkey, Prod.ext hstatus rfl, rfl⟩
      · cases hload
    · cases hload
  · cases hload

/-- **`C_SignInit`** that succeeds has loaded the device key. -/
theorem cSignInit_loads {env : SignEnv} {ctx : SigningContext} {s s' : State}
    {mechanism : MechanismType}
    (hinit : cSignInit env s ctx.xP11Session (some mechanism) ctx.xP11PrivateKey = (.ok, s')) :
    ∃ h key alg, Loads env ctx s mechanism h key alg ∧
      s' = s.setSession h (loaded s h mechanism key alg) := by
  unfold cSignInit at hinit
  split at hinit
  · rename_i e he
    exact absurd (Prod.mk.inj hinit).1 (sessionCheck_error_ne he)
  · rename_i h hsession
    dsimp only at hinit
    split_ifs at hinit with hpal hlock
    · cases hinit
    · split at hinit
      · rename_i x hload
        obtain ⟨hdevice, key, alg, hkey, hattr, rfl⟩ := loadSignKey_ok hload
        split at hinit
        · rename_i hmech
          obtain ⟨-, rfl⟩ := Prod.mk.inj hinit
          refine ⟨h, key, alg, ⟨hsession, ?_, hlock, hattr, hmech⟩, rfl⟩
          unfold deviceKey
          dsimp only
          rw [if_pos hdevice, hkey]
        · rename_i hne
          exact absurd (Prod.mk.inj hinit).1 hne
      · rename_i hne hload
        obtain ⟨rfl, -⟩ := Prod.mk.inj hinit
        exact (hne rfl).elim
    · cases hinit

/-- And with all that it needs it succeeds. -/
theorem Loads.cSignInit {env : SignEnv} {ctx : SigningContext} {s : State}
    {mechanism : MechanismType} {h : Nat} {key : KeyHandle} {alg : Algorithm}
    (hl : Loads env ctx s mechanism h key alg) :
    cSignInit env s ctx.xP11Session (some mechanism) ctx.xP11PrivateKey =
      (.ok, s.setSession h (loaded s h mechanism key alg)) := by
  have hkey := hl.device
  unfold deviceKey at hkey
  dsimp only at hkey
  split_ifs at hkey with hdevice
  split at hkey
  · rename_i k hget
    obtain rfl := Option.some.inj hkey
    have hvalid : eAwsDevicePrivateKey ≠ ckInvalidHandle := by decide
    simp only [Pkcs11.cSignInit, loadSignKey, hl.session, hdevice, hvalid, hl.lock, hget, hl.attributes,
      hl.mechanism, if_true, if_false, loaded]
  · cases hkey

/-- The session stays open. -/
theorem Loads.still_open {env : SignEnv} {ctx : SigningContext} {s : State}
    {mechanism : MechanismType} {h : Nat} {key : KeyHandle} {alg : Algorithm}
    (hl : Loads env ctx s mechanism h key alg) :
    sessionCheck (s.setSession h (loaded s h mechanism key alg)) ctx.xP11Session = .ok h := by
  obtain ⟨hsession, hinit, hopened⟩ := sessionCheck_ok hl.session
  simp [sessionCheck, hsession, State.setSession, loaded, hinit, hopened]

/-- **`C_Sign`** that succeeds has the data signed. -/
theorem signData_signed {env : SignEnv} {x : P11Session} {data : List UInt8} {sig : Option (List UInt8)}
    (hsign : signData env x (some data) true (some toBeSignedSize) = (.ok, sig)) :
    ∃ required expected toBeSigned out,
      signLengths x.xSignMechanism data = some (required, expected, toBeSigned) ∧
      data.length = expected ∧ env.lock = true ∧ x.uxSignKey ≠ 0 ∧ sig = some out ∧
      env.signHash x.uxSignKey x.xSignAlgorithm toBeSigned toBeSignedSize = (psaSuccess, out) := by
  unfold signData at hsign
  dsimp only at hsign
  split at hsign
  · cases hsign
  · rename_i required expected toBeSigned hlen
    rw [if_pos rfl] at hsign
    split_ifs at hsign with hshort hdata hlock hkey
    · cases hsign
    · cases hsign
    · cases hsign
    · cases hsign
    · rename_i hstatus
      obtain ⟨-, rfl⟩ := Prod.mk.inj hsign
      exact ⟨required, expected, toBeSigned, _, hlen, (not_not.1 hdata).symm, hlock, hkey, rfl,
        Prod.ext (not_not.1 hstatus) rfl⟩
    · cases hsign

/-- The two calls succeed only with a loaded key, data of the right length and a signature. -/
theorem signFormatted_ok {env : SigningEnv} {ctx : SigningContext} {s s' : State}
    {mechanism : MechanismType} {data toBeSigned : List UInt8} {required expected : Nat}
    {sig : Option (List UInt8)}
    (hlen : signLengths mechanism data = some (required, expected, toBeSigned))
    (hsign : signFormatted env ctx s mechanism data = some ((.ok, sig), s')) :
    ∃ h key alg out, Loads env.signInit ctx s mechanism h key alg ∧ env.sign.lock = true ∧ key ≠ 0 ∧
      data.length = expected ∧ sig = some out ∧
      env.sign.signHash key alg toBeSigned toBeSignedSize = (psaSuccess, out) := by
  unfold signFormatted at hsign
  split at hsign
  · rename_i s₁ hinit
    obtain ⟨h, key, alg, hl, rfl⟩ := cSignInit_loads hinit
    rw [cSign_open hl.still_open] at hsign
    obtain ⟨hr, -⟩ := Prod.mk.inj (Option.some.inj hsign)
    obtain ⟨_, _, _, out, hlen', hdata, hlock, hkey, hsig, hhash⟩ := signData_signed hr
    simp only [State.setSession, Function.update_self, loaded] at hlen' hkey hhash
    obtain ⟨rfl, rfl, rfl⟩ := Option.some.inj (hlen.symm.trans hlen')
    exact ⟨h, key, alg, out, hl, hlock, hkey, hdata, hsig, hhash⟩
  · rename_i hne hinit
    obtain ⟨hr, -⟩ := Prod.mk.inj (Option.some.inj hsign)
    obtain ⟨rfl, -⟩ := Prod.mk.inj hr
    exact (hne rfl).elim

/-- And with all of these they do. -/
theorem Loads.signFormatted {env : SigningEnv} {ctx : SigningContext} {s : State}
    {mechanism : MechanismType} {h : Nat} {key : KeyHandle} {alg : Algorithm}
    {data toBeSigned out : List UInt8} {required expected : Nat}
    (hl : Loads env.signInit ctx s mechanism h key alg)
    (hlen : signLengths mechanism data = some (required, expected, toBeSigned))
    (hroom : required ≤ toBeSignedSize) (hdata : data.length = expected)
    (hlock : env.sign.lock = true) (hkey : key ≠ 0)
    (hhash : env.sign.signHash key alg toBeSigned toBeSignedSize = (psaSuccess, out)) :
    ∃ s', signFormatted env ctx s mechanism data = some ((.ok, some out), s') := by
  have hsign : signData env.sign (loaded s h mechanism key alg) (some data) true
      (some toBeSignedSize) = (.ok, some out) := by
    rw [signData_signs hlen hroom hdata hlock hkey (congrArg Prod.fst hhash)]
    exact congrArg (fun r => (CkRv.ok, some r.2)) hhash
  unfold Sockets.signFormatted
  rw [hl.cSignInit]
  dsimp only
  rw [cSign_open hl.still_open]
  simp only [State.setSession, Function.update_self, hsign]
  exact ⟨_, rfl⟩

/-- The two calls return: the session is one when it has been looked at. -/
theorem signFormatted_returns (env : SigningEnv) (ctx : SigningContext) (s : State)
    (mechanism : MechanismType) (data : List UInt8) :
    ∃ r, signFormatted env ctx s mechanism data = some r := by
  unfold signFormatted
  split
  · rename_i s₁ hinit
    obtain ⟨h, key, alg, hl, rfl⟩ := cSignInit_loads hinit
    exact ⟨_, cSign_open hl.still_open _ _ _ _⟩
  · exact ⟨_, rfl⟩

/-! ## The callback -/

section
variable {μ : Type} {toMbedTls : List UInt8 → List UInt8} {env : SigningEnv}
  {stack : Fin toBeSignedSize → UInt8} {ctx : SigningContext} {s s' : State} {xMdAlg : μ}
  {pucHash : List UInt8}

/-- What a known key type makes of a hash that is in bounds: data with the first 32 bytes of it, and for
an ECDSA key just the hash. -/
theorem formatHash_known {mechanism : MechanismType} {buf : List UInt8}
    (htype : mechanismOf ctx.xKeyType = some mechanism) (hbuf : buf.length = 256)
    (hrsa : ctx.xKeyType = ckkRsa → 32 ≤ pucHash.length)
    (hec : ctx.xKeyType = ckkEc → pucHash.length ≤ toBeSignedSize) :
    ∃ data required expected toBeSigned,
      formatHash ctx.xKeyType buf pucHash = .ok (.ok, mechanism, data) ∧
      signLengths mechanism data = some (required, expected, toBeSigned) ∧
      required ≤ toBeSignedSize ∧
      (data.length = expected ↔ (ctx.xKeyType = ckkEc → pucHash.length = pkcs11Sha256DigestLength)) ∧
      (data.length = expected → toBeSigned = pucHash.take 32) := by
  have hne : ckkRsa ≠ ckkEc := by decide
  unfold mechanismOf at htype
  split_ifs at htype with h h'
  · obtain rfl := Option.some.inj htype
    have hdrop : (pkcs11StuffAppendedToRsaSig ++ pucHash.take 32).drop pkcs11DerEncodedOidP256Length =
        pucHash.take 32 := List.drop_left' rfl
    refine ⟨_, _, _, _, h ▸ formatHash_rsa (hrsa h) hbuf, rfl, le_refl _, ?_, fun _ => hdrop⟩
    refine iff_of_true ?_ fun hec => absurd (h.symm.trans hec) hne
    rw [List.length_append, List.length_take, Nat.min_eq_left (hrsa h)]
    rfl
  · obtain rfl := Option.some.inj htype
    refine ⟨_, _, _, _, h' ▸ formatHash_ec (hec h') hbuf, rfl, by decide, ?_, ?_⟩
    · exact ⟨fun hlen _ => hlen, fun hlen => hlen h'⟩
    · intro hlen
      exact (List.take_of_length_le (le_of_eq hlen)).symm

/-- What goes back for a signature. -/
def returned (xKeyType : Nat) (toMbedTls : List UInt8 → List UInt8) (sig : List UInt8) : List UInt8 :=
  if xKeyType = ckkEc then toMbedTls sig else sig

theorem finishSignature_ok {xKeyType : Nat} {sig : List UInt8} {r : CkRv × Option (List UInt8)}
    (hr : finishSignature xKeyType toMbedTls (.ok, some sig) = r) (hok : r.1 = .ok) :
    (xKeyType = ckkEc → sig.length = pkcs11EcdsaP256SignatureLength) ∧
      r.2 = some (returned xKeyType toMbedTls sig) := by
  unfold finishSignature at hr
  dsimp only at hr
  unfold returned
  split_ifs at hr with hec hlen
  · rw [← hr] at hok
    cases hok
  · rw [← hr, if_pos hec]
    exact ⟨fun _ => not_not.1 hlen, rfl⟩
  · rw [← hr, if_neg hec]
    exact ⟨fun h => absurd h hec, rfl⟩

theorem finishSignature_error {xKeyType : Nat} {e : CkRv} {sig : Option (List UInt8)} (he : e ≠ .ok) :
    (finishSignature xKeyType toMbedTls (e, sig)).1 ≠ .ok := by
  unfold finishSignature
  split
  · rename_i heq
    exact absurd (Prod.mk.inj heq).1 he
  · exact he

/-- A hash out of bounds is read or written so. -/
theorem callback_bounds {r : (Int × Option (List UInt8)) × State}
    (hr : prvPrivateKeySigningCallback toMbedTls env stack ctx s xMdAlg pucHash = .ok r) :
    (ctx.xKeyType = ckkRsa → 32 ≤ pucHash.length) ∧
      (ctx.xKeyType = ckkEc → pucHash.length ≤ toBeSignedSize) := by
  have hbuf : (List.ofFn stack).length = 256 := List.length_ofFn
  unfold prvPrivateKeySigningCallback at hr
  constructor
  · intro hrsa
    apply Nat.le_of_not_lt
    intro hlen
    rw [hrsa, formatHash_rsa_short hlen hbuf] at hr
    cases hr
  · intro hec
    apply Nat.le_of_not_lt
    intro hlen
    rw [hec, formatHash_ec_long hlen hbuf] at hr
    cases hr

/-- In bounds it returns. -/
theorem callback_returns (hrsa : ctx.xKeyType = ckkRsa → 32 ≤ pucHash.length)
    (hec : ctx.xKeyType = ckkEc → pucHash.length ≤ toBeSignedSize) :
    ∃ r, prvPrivateKeySigningCallback toMbedTls env stack ctx s xMdAlg pucHash = .ok r := by
  have hbuf : (List.ofFn stack).length = 256 := List.length_ofFn
  unfold prvPrivateKeySigningCallback
  cases htype : mechanismOf ctx.xKeyType with
  | none =>
    rw [formatHash_other htype]
    exact ⟨_, rfl⟩
  | some mechanism =>
    obtain ⟨data, _, _, _, hformat, -⟩ := formatHash_known htype hbuf hrsa hec
    obtain ⟨r, hr⟩ := signFormatted_returns env ctx s mechanism data
    rw [hformat]
    dsimp only
    rw [hr]
    exact ⟨_, rfl⟩

/-- **A success**: all was there, and `psa_sign_hash` signed the first 32 bytes of the hash. -/
theorem callback_success {pucSig : Option (List UInt8)}
    (hr : prvPrivateKeySigningCallback toMbedTls env stack ctx s xMdAlg pucHash =
      .ok ((0, pucSig), s')) :
    ∃ key alg sig, SigningReady env.signInit env.sign.lock ctx s pucHash key alg ∧
      env.sign.signHash key alg (pucHash.take 32) toBeSignedSize = (psaSuccess, sig) ∧
      (ctx.xKeyType = ckkEc → sig.length = pkcs11EcdsaP256SignatureLength) ∧
      pucSig = some (returned ctx.xKeyType toMbedTls sig) := by
  have hbuf : (List.ofFn stack).length = 256 := List.length_ofFn
  have herror : (TLS_ERROR_SIGN : Int) ≠ 0 := by decide
  obtain ⟨hrsa, hec⟩ := callback_bounds hr
  unfold prvPrivateKeySigningCallback at hr
  cases htype : mechanismOf ctx.xKeyType with
  | none =>
    rw [formatHash_other htype] at hr
    exact absurd (Prod.mk.inj (Prod.mk.inj (Except.ok.inj hr)).1).1 herror
  | some mechanism =>
    obtain ⟨data, required, expected, toBeSigned, hformat, hlen, -, hdata, htake⟩ :=
      formatHash_known htype hbuf hrsa hec
    rw [hformat] at hr
    dsimp only at hr
    split at hr
    · cases hr
    · rename_i r s₁ hsign
      obtain ⟨hresult, -⟩ := Prod.mk.inj (Except.ok.inj hr)
      obtain ⟨hzero, hout⟩ := Prod.mk.inj hresult
      have hfinished : (finishSignature ctx.xKeyType toMbedTls r).1 = .ok := by
        by_contra hne
        rw [if_pos hne] at hzero
        exact herror hzero
      obtain ⟨rv, sig⟩ := r
      by_cases hrv : rv = .ok
      · subst hrv
        obtain ⟨h, key, alg, out, hl, hlock, hkey, hexpected, rfl, hhash⟩ :=
          signFormatted_ok hlen hsign
        obtain ⟨hlength, hsig⟩ := finishSignature_ok rfl hfinished
        rw [htake hexpected] at hhash
        exact ⟨key, alg, out, ⟨h, mechanism, htype, hl, hlock, hkey, hdata.1 hexpected⟩, hhash,
          hlength, hout.symm.trans hsig⟩
      · exact absurd hfinished (finishSignature_error hrv)

/-- And when all is there and the signature is made, it succeeds. -/
theorem callback_signs {key : KeyHandle} {alg : Algorithm} {sig : List UInt8}
    (hrsa : ctx.xKeyType = ckkRsa → 32 ≤ pucHash.length)
    (hec : ctx.xKeyType = ckkEc → pucHash.length ≤ toBeSignedSize)
    (hready : SigningReady env.signInit env.sign.lock ctx s pucHash key alg)
    (hhash : env.sign.signHash key alg (pucHash.take 32) toBeSignedSize = (psaSuccess, sig))
    (hsig : ctx.xKeyType = ckkEc → sig.length = pkcs11EcdsaP256SignatureLength) :
    ∃ s', prvPrivateKeySigningCallback toMbedTls env stack ctx s xMdAlg pucHash =
      .ok ((0, some (returned ctx.xKeyType toMbedTls sig)), s') := by
  have hbuf : (List.ofFn stack).length = 256 := List.length_ofFn
  obtain ⟨h, mechanism, htype, hl, hlock, hkey, hlen⟩ := hready
  obtain ⟨data, required, expected, toBeSigned, hformat, hlengths, hroom, hdata, htake⟩ :=
    formatHash_known htype hbuf hrsa hec
  have hexpected := hdata.2 hlen
  rw [← htake hexpected] at hhash
  obtain ⟨s', hsign⟩ := hl.signFormatted hlengths hroom hexpected hlock hkey hhash
  have hfinish : finishSignature ctx.xKeyType toMbedTls (.ok, some sig) =
      (.ok, some (returned ctx.xKeyType toMbedTls sig)) := by
    unfold finishSignature returned
    dsimp only
    split_ifs with h h'
    · exact absurd (hsig h) h'
    · rfl
    · rfl
  refine ⟨s', ?_⟩
  unfold prvPrivateKeySigningCallback
  rw [hformat]
  dsimp only
  rw [hsign]
  dsimp only
  rw [hfinish]
  rfl

end

/-! ## The law -/

/-- The services, with `psa_sign_hash` answering so. -/
def SigningEnv.signing (env : SigningEnv)
    (signHash : KeyHandle → Algorithm → List UInt8 → Nat → Status × List UInt8) : SigningEnv :=
  { env with sign := { env.sign with signHash := signHash } }

theorem bigEndian_leVal (l : List UInt8) : bigEndian l.length (leVal l.reverse) = l := by
  have h := leBytes_leVal l.reverse
  rw [List.length_reverse] at h
  rw [bigEndian, h, List.reverse_reverse]

/-- The two halves of a raw signature are numbers. -/
theorem exists_components {sig : List UInt8} (hlen : sig.length = pkcs11EcdsaP256SignatureLength) :
    ∃ r w, r < 256 ^ 32 ∧ w < 256 ^ 32 ∧ sig = bigEndian 32 r ++ bigEndian 32 w := by
  have hsig : sig.length = 64 := hlen
  have hr : (sig.take 32).length = 32 := by rw [List.length_take]; omega
  have hw : (sig.drop 32).length = 32 := by rw [List.length_drop]; omega
  refine ⟨leVal (sig.take 32).reverse, leVal (sig.drop 32).reverse, ?_, ?_, ?_⟩
  · simpa [hr] using leVal_lt (sig.take 32).reverse
  · simpa [hw] using leVal_lt (sig.drop 32).reverse
  · have hr' := bigEndian_leVal (sig.take 32)
    have hw' := bigEndian_leVal (sig.drop 32)
    rw [hr] at hr'
    rw [hw] at hw'
    rw [hr', hw', List.take_append_drop]

/-- Signs 32 bytes, and nothing else. -/
def signs32 (_key : KeyHandle) (_alg : Algorithm) (data : List UInt8) (_size : Nat) :
    Status × List UInt8 :=
  if data.length = 32 then (psaSuccess, List.replicate 64 0) else (psaErrorInvalidArgument, [])

/-- **The signing callback**: whatever `psa_sign_hash` answers, it stays in bounds, and fails or gives back
the signature of the hash it was given under the algorithm it was given, exactly when it is fine. -/
theorem signing_callback_iff {μ : Type} {translateMd : μ → Algorithm}
    {toMbedTls : List UInt8 → List UInt8}
    (hder : ∀ r w, r < 256 ^ 32 → w < 256 ^ 32 →
      toMbedTls (bigEndian 32 r ++ bigEndian 32 w) = Crypto.derSignature r w)
    (env : SigningEnv) (stack : Fin toBeSignedSize → UInt8) (ctx : SigningContext) (s : State)
    (xMdAlg : μ) (pucHash : List UInt8) :
    (∀ signHash, SigningSafe translateMd toMbedTls (env.signing signHash) stack ctx s xMdAlg pucHash) ↔
      SigningFine (translateMd xMdAlg) env ctx s pucHash := by
  constructor
  · intro hsafe
    obtain ⟨lFinalResult, pucSig, s', hr, hsigned⟩ := hsafe signs32
    obtain ⟨hrsa, hec⟩ := callback_bounds hr
    refine ⟨hrsa, hec, fun key alg hready => ?_⟩
    -- there are 32 bytes, so they are signed
    have hlen : 32 ≤ pucHash.length := by
      obtain ⟨_, _, htype, _, _, _, hlen⟩ := hready
      unfold mechanismOf at htype
      split_ifs at htype with h h'
      · exact hrsa h
      · exact le_of_eq (hlen h').symm
    have htake : (pucHash.take 32).length = 32 := by
      rw [List.length_take]
      omega
    have hsigns : ∃ s', prvPrivateKeySigningCallback toMbedTls (env.signing signs32) stack ctx s xMdAlg
        pucHash = .ok ((0, some (returned ctx.xKeyType toMbedTls (List.replicate 64 0))), s') :=
      callback_signs hrsa hec hready (if_pos htake) fun _ => rfl
    obtain ⟨s'', hsign⟩ := hsigns
    obtain ⟨rfl, -⟩ := Prod.mk.inj (Prod.mk.inj (Except.ok.inj (hsign.symm.trans hr))).1
    obtain hne | ⟨out, -, key', alg', sig, hkey, hattr, hhash, hdigest, -⟩ := hsigned
    · exact absurd rfl hne
    · obtain ⟨h, mechanism, -, hl, -⟩ := hready
      obtain rfl := Option.some.inj (hkey.symm.trans hl.device)
      have halg : alg' = alg := (Prod.mk.inj (hattr.symm.trans hl.attributes)).2
      subst halg
      refine ⟨?_, hdigest⟩
      by_contra hne
      have hfail : signs32 key' alg' pucHash toBeSignedSize = (psaErrorInvalidArgument, []) :=
        if_neg hne
      have hstatus := (Prod.mk.inj (hfail.symm.trans hhash)).1
      exact absurd hstatus (by decide)
  · intro hfine signHash
    have hreturns : ∃ r, prvPrivateKeySigningCallback toMbedTls (env.signing signHash) stack ctx s
        xMdAlg pucHash = .ok r := callback_returns hfine.rsa hfine.ec
    obtain ⟨⟨⟨lFinalResult, pucSig⟩, s'⟩, hr⟩ := hreturns
    refine ⟨lFinalResult, pucSig, s', hr, ?_⟩
    by_cases hzero : lFinalResult = 0
    · subst hzero
      obtain ⟨key, alg, sig, hready, hhash, hlength, hout⟩ := callback_success hr
      obtain ⟨hlen, hdigest⟩ := hfine.digest key alg hready
      obtain ⟨h, mechanism, -, hl, -⟩ := hready
      rw [List.take_of_length_le (le_of_eq hlen)] at hhash
      refine .inr ⟨_, hout, key, alg, sig, hl.device, hl.attributes, hhash, hdigest, ?_⟩
      unfold returned
      split_ifs with hec
      · obtain ⟨r, w, hr, hw, rfl⟩ := exists_components (hlength hec)
        exact ⟨r, w, hr, hw, rfl, hder r w hr hw⟩
      · rfl
    · exact .inl hzero

/-- DER of `r‖s`, by the values of the halves. -/
def toDer (sig : List UInt8) : List UInt8 :=
  Crypto.derSignature (leVal (sig.take 32).reverse) (leVal (sig.drop 32).reverse)

theorem toDer_components {r w : Nat} (hr : r < 256 ^ 32) (hw : w < 256 ^ 32) :
    toDer (bigEndian 32 r ++ bigEndian 32 w) = Crypto.derSignature r w := by
  have hlen : (bigEndian 32 r).length = 32 := bigEndian_length 32 r
  unfold toDer
  rw [List.take_left' hlen, List.drop_left' hlen, bigEndian, bigEndian, List.reverse_reverse,
    List.reverse_reverse, leVal_leBytes hr, leVal_leBytes hw]

/-- Every key is an ECDSA key, and every signature the same. -/
def ecSigning : SignEnv :=
  { ecdsaKeys with signHash := fun _ _ _ _ => (psaSuccess, List.replicate 64 1) }

/-- Every key is an RSA key for SHA-256, and a signature tells what is signed. -/
def rsaSigning : SignEnv :=
  { ecdsaKeys with
    getKeyAttributes := fun _ => (psaSuccess, psaAlgRsaPkcs1v15SignBase ||| 0x09#32)
    signHash := fun _ _ data _ => (psaSuccess, data) }

def ecContext : SigningContext := ⟨ckkEc, some 0, 1⟩
def rsaContext : SigningContext := ⟨ckkRsa, some 0, 1⟩

/-- A SHA-256 digest is signed with an ECDSA key. -/
theorem signing_callback_sha256 :
    SigningSafe id toDer ⟨ecSigning, ecSigning⟩ (fun _ => 0) ecContext twoKeys psaAlgSha256
      (List.replicate 32 0xAB) := by
  have hfine : SigningFine (id psaAlgSha256) ⟨ecSigning, ecSigning⟩ ecContext twoKeys
      (List.replicate 32 0xAB) := by
    refine ⟨fun _ => le_refl 32, fun _ => by decide, fun key alg hready => ⟨rfl, ?_⟩⟩
    obtain ⟨h, mechanism, -, hl, -⟩ := hready
    rw [← (Prod.mk.inj hl.attributes).2]
    rfl
  exact (signing_callback_iff (fun _ _ hr hw => toDer_components hr hw) ⟨ecSigning, ecSigning⟩
    (fun _ => 0) ecContext twoKeys psaAlgSha256 _).2 hfine ecSigning.signHash

/-- With an RSA key two thirds of a SHA-384 digest are signed, and a SHA-1 digest is read out of bounds;
with an ECDSA key 257 bytes are copied into the local buffer. -/
theorem signing_callback_unsafe :
    (prvPrivateKeySigningCallback toDer ⟨rsaSigning, rsaSigning⟩ (fun _ => 0) rsaContext twoKeys
      psaAlgSha384 (List.replicate 48 0xAB)).map (·.1) = .ok (0, some (List.replicate 32 0xAB)) ∧
    ¬SigningSafe id toDer ⟨rsaSigning, rsaSigning⟩ (fun _ => 0) rsaContext twoKeys psaAlgSha384
      (List.replicate 48 0xAB) ∧
    (prvPrivateKeySigningCallback toDer ⟨rsaSigning, rsaSigning⟩ (fun _ => 0) rsaContext twoKeys
      psaAlgSha256 (List.replicate 20 0xAB)).map (·.1) = .error .read ∧
    (prvPrivateKeySigningCallback toDer ⟨ecSigning, ecSigning⟩ (fun _ => 0) ecContext twoKeys
      psaAlgSha384 (List.replicate 257 0xAB)).map (·.1) = .error .write := by
  have hrsa : (prvPrivateKeySigningCallback toDer ⟨rsaSigning, rsaSigning⟩ (fun _ => 0) rsaContext
      twoKeys psaAlgSha384 (List.replicate 48 0xAB)).map (·.1) =
        .ok (0, some (List.replicate 32 0xAB)) := by
    decide +kernel
  refine ⟨hrsa, ?_, by decide +kernel, by decide +kernel⟩
  intro ⟨lFinalResult, pucSig, s', hr, hsafe⟩
  rw [hr] at hrsa
  obtain ⟨rfl, rfl⟩ := Prod.mk.inj (Except.ok.inj hrsa)
  obtain hne | ⟨out, hout, key, alg, sig, -, -, hhash, -, hsig⟩ := hsafe
  · exact hne rfl
  · obtain rfl := Option.some.inj hout
    obtain ⟨-, rfl⟩ := Prod.mk.inj hhash
    rw [if_neg (by decide)] at hsig
    exact absurd (congrArg List.length hsig) (by decide)

end Sockets
