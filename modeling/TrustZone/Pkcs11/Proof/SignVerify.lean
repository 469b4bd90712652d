import TrustZone.Pkcs11.SignVerify

/-!
# Signing does not reach verifying

`C_VerifyInit` should read the algorithm of the verification key and leave the signing fields of the
session alone (`verifyInitSpec`). It does so exactly in the calls of `VerifyInitSafe`
(`cVerifyInit_correct_iff`). In runs whose `C_VerifyInit` calls are all such, the calls that sign
are invisible to the others (`verify_noninterference`).

* `forgetSigning`: a state without the signing fields of its sessions.
* `signing_forget`: the calls that sign keep it; `verifyInitSpec_forget`: the others act on it.
-/

namespace Pkcs11

open Lib Psa Machine

/-! ## What `C_VerifyInit` should do -/

/-- `C_VerifyInit`, where `alg` is the algorithm that the mechanism is checked against, and `invalid`
what becomes of the session when the handle names no object. -/
def verifyInitWith (alg : P11Session → Algorithm) (invalid : P11Session → P11Session)
    (env : SignEnv) (s : State) (xSession : SessionHandle) (pxMechanism : Option MechanismType)
    (xKey : ObjectHandle) : CkRv × State :=
  match sessionCheck s xSession with
  | .error e => (e, s)
  | .ok h =>
    match pxMechanism with
    | none => (.argumentsBad, s)
    | some mechanism =>
      let (xPalHandle, pcLabel) := prvFindObjectInListByHandle s.xObjectList xKey
      if xPalHandle = ckInvalidHandle then
        (.keyHandleInvalid, s.setSession h (invalid (s.sessions h)))
      else if env.lock then
        match loadVerifyKey env s.p11KeyConfig (pcLabel.getD []) (s.sessions h) with
        | (.ok, x) =>
          match checkMechanism ckmRsaX509 mechanism (alg x) with
          | .ok => (.ok, s.setSession h { x with xVerifyMechanism := mechanism })
          | e => (e, s.setSession h x)
        | (e, x) => (e, s.setSession h x)
      else (.cantLock, s)

/-- What `C_VerifyInit` should do: check the algorithm of the verification key, and leave the signing
fields alone. -/
def verifyInitSpec : SignEnv → State → SessionHandle → Option MechanismType → ObjectHandle →
    CkRv × State :=
  verifyInitWith (·.xVerifyAlgorithm) id

theorem cVerifyInit_eq : cVerifyInit =
    verifyInitWith (·.xSignAlgorithm) (fun x => { x with uxSignKey := 0 }) := rfl

/-- An RSA signature algorithm: PKCS #1 v1.5 or PSS. -/
def IsRsa (alg : Algorithm) : Prop := psaAlgIsRsaPkcs1v15Sign alg ∨ psaAlgIsRsaPss alg

/-- The algorithm of the key that a handle names, when the key can be loaded. -/
def keyAlgorithm (env : SignEnv) (s : State) (xKey : ObjectHandle) : Option Algorithm :=
  let (xPalHandle, pcLabel) := prvFindObjectInListByHandle s.xObjectList xKey
  if xPalHandle = ckInvalidHandle then none
  else if env.lock then
    match pkcs11PsaGetKeyHandle s.p11KeyConfig (pcLabel.getD []) with
    | (.ok, k) =>
      if (env.getKeyAttributes k).1 ≠ psaSuccess then none else some (env.getKeyAttributes k).2
    | _ => none
  else none

/-- The mechanism suits an algorithm. -/
def Suits (mechanism : MechanismType) (alg : Algorithm) : Prop :=
  mechanism = ckmRsaX509 ∧ IsRsa alg ∨ mechanism = ckmEcdsa ∧ psaAlgIsEcdsa alg

/-- `C_VerifyInit` should accept: the session is open, and the mechanism suits the algorithm of the
key. -/
def Accepts (env : SignEnv) (s : State) (xSession : SessionHandle)
    (pxMechanism : Option MechanismType) (xKey : ObjectHandle) : Prop :=
  ∃ h mechanism alg, sessionCheck s xSession = .ok h ∧ pxMechanism = some mechanism ∧
    keyAlgorithm env s xKey = some alg ∧ Suits mechanism alg

/-- **The condition**: past the argument checks, a handle that names no object finds the signing key
zero already, and a key that can be loaded finds a signing algorithm that the mechanism suits
just when it suits the key. -/
structure VerifyInitSafe (env : SignEnv) (s : State) (xSession : SessionHandle)
    (pxMechanism : Option MechanismType) (xKey : ObjectHandle) : Prop where
  handle : ∀ h, sessionCheck s xSession = .ok h → pxMechanism ≠ none →
    (prvFindObjectInListByHandle s.xObjectList xKey).1 = ckInvalidHandle →
    (s.sessions h).uxSignKey = 0
  algorithm : ∀ h mechanism alg, sessionCheck s xSession = .ok h → pxMechanism = some mechanism →
    keyAlgorithm env s xKey = some alg →
    (Suits mechanism (s.sessions h).xSignAlgorithm ↔ Suits mechanism alg)

/-! ## The signing fields -/

/-- The signing fields of a session. -/
def P11Session.signing (x : P11Session) : KeyHandle × MechanismType × Algorithm :=
  (x.uxSignKey, x.xSignMechanism, x.xSignAlgorithm)

/-- A session without them. -/
def P11Session.forgetSigning (x : P11Session) : P11Session :=
  { x with uxSignKey := 0, xSignMechanism := pkcs11NoOperation, xSignAlgorithm := 0 }

/-- A state without them. -/
def State.forgetSigning (s : State) : State :=
  { s with sessions := fun h => (s.sessions h).forgetSigning }

theorem setSession_eq_self (s : State) (h : Nat) : s.setSession h (s.sessions h) = s := by
  unfold State.setSession
  rw [Function.update_eq_self]

theorem forgetSigning_setSession (s : State) (h : Nat) (x : P11Session) :
    (s.setSession h x).forgetSigning = s.forgetSigning.setSession h x.forgetSigning := by
  unfold State.forgetSigning State.setSession
  congr 1
  funext k
  by_cases hk : k = h
  · subst hk
    simp
  · simp [Function.update_of_ne hk]

/-- Writing back what differs in the signing fields only. -/
theorem forgetSigning_setSession_eq {s : State} {h : Nat} {x : P11Session}
    (hx : x.forgetSigning = (s.sessions h).forgetSigning) :
    (s.setSession h x).forgetSigning = s.forgetSigning := by
  rw [forgetSigning_setSession, hx]
  exact setSession_eq_self _ h

/-- Writing back what `f` does not tell apart. -/
theorem setSession_congr {α : Type} (f : P11Session → α) {s : State} {h : Nat} {x : P11Session}
    (hx : f x = f (s.sessions h)) (k : Nat) : f ((s.setSession h x).sessions k) = f (s.sessions k) := by
  unfold State.setSession
  by_cases hk : k = h
  · subst hk
    simpa using hx
  · simp [Function.update_of_ne hk]

theorem signing_setSession {s : State} {h : Nat} {x : P11Session}
    (hx : x.signing = (s.sessions h).signing) (k : Nat) :
    ((s.setSession h x).sessions k).signing = (s.sessions k).signing :=
  setSession_congr P11Session.signing hx k

theorem sessionCheck_forget (s : State) (xSession : SessionHandle) :
    sessionCheck s.forgetSigning xSession = sessionCheck s xSession := rfl

/-! ## Calls that sign -/

theorem loadSignKey_forget {env : SignEnv} {cfg : P11KeyConfig} {xPalHandle : ObjectHandle}
    {pcLabel : List UInt8} {x y : P11Session} {rv : CkRv}
    (h : loadSignKey env cfg xPalHandle pcLabel x = (rv, y)) :
    y.forgetSigning = x.forgetSigning := by
  unfold loadSignKey at h
  split_ifs at h
  · split at h
    · dsimp only at h
      split_ifs at h <;> obtain ⟨-, rfl⟩ := Prod.mk.inj h <;> rfl
    · obtain ⟨-, rfl⟩ := Prod.mk.inj h
      rfl
  · obtain ⟨-, rfl⟩ := Prod.mk.inj h
    rfl

theorem cSignInit_forget (env : SignEnv) (s : State) (xSession : SessionHandle)
    (pxMechanism : Option MechanismType) (xKey : ObjectHandle) :
    (cSignInit env s xSession pxMechanism xKey).2.forgetSigning = s.forgetSigning := by
  unfold cSignInit
  cases sessionCheck s xSession with
  | error e => rfl
  | ok h =>
    cases pxMechanism with
    | none => rfl
    | some mechanism =>
      obtain ⟨xPalHandle, pcLabel⟩ := prvFindObjectInListByHandle s.xObjectList xKey
      dsimp only
      split_ifs
      · rfl
      · split
        · rename_i hload
          have hx := loadSignKey_forget hload
          split
          · exact forgetSigning_setSession_eq hx
          · exact forgetSigning_setSession_eq hx
        · rename_i hload
          exact forgetSigning_setSession_eq (loadSignKey_forget hload)
      · rfl

theorem cSign_forget {env : SignEnv} {s s' : State} {xSession : SessionHandle}
    {pucData : Option (List UInt8)} {pucSignature : Bool} {pulSignatureLen : Option Nat}
    {r : Answer} (h : cSign env s xSession pucData pucSignature pulSignatureLen = some (r, s')) :
    s'.forgetSigning = s.forgetSigning := by
  have hend : ∀ (k : Nat) (r' : Answer),
      (if r'.1 ≠ .bufferTooSmall then
        some (r', s.setSession k { s.sessions k with xSignMechanism := pkcs11NoOperation })
      else some (r', s)) = some (r, s') → s'.forgetSigning = s.forgetSigning := by
    intro k r' h
    split at h
    · obtain ⟨-, rfl⟩ := Prod.mk.inj (Option.some.inj h)
      exact forgetSigning_setSession_eq rfl
    · obtain ⟨-, rfl⟩ := Prod.mk.inj (Option.some.inj h)
      rfl
  cases xSession with
  | none => cases h
  | some k => exact hend k _ h

/-- **Calls that sign** change the signing fields only. -/
theorem signing_forget {s s' : State} {c : Call} {a : Answer} (hc : c.signs = true)
    (h : step s c = some (s', a)) : s'.forgetSigning = s.forgetSigning := by
  cases c with
  | signInit env xSession pxMechanism xKey =>
    obtain ⟨rfl, -⟩ := Prod.mk.inj (Option.some.inj h)
    exact cSignInit_forget ..
  | sign env xSession pucData pucSignature pulSignatureLen =>
    obtain ⟨⟨r, s1⟩, hs, h1⟩ := Option.map_eq_some_iff.1 h
    obtain ⟨rfl, -⟩ := Prod.mk.inj h1
    exact cSign_forget hs
  | verifyInit => cases hc
  | verify => cases hc
  | other => cases hc

/-! ## `C_VerifyInit` -/

/-- Loading the verification key, when it succeeds. -/
theorem loadVerifyKey_ok {env : SignEnv} {cfg : P11KeyConfig} {pcLabel : List UInt8}
    {x y : P11Session} (h : loadVerifyKey env cfg pcLabel x = (.ok, y)) :
    ∃ k, pkcs11PsaGetKeyHandle cfg pcLabel = (.ok, k) ∧ (env.getKeyAttributes k).1 = psaSuccess ∧
      y = { x with uxVerifyKey := k, xVerifyAlgorithm := (env.getKeyAttributes k).2 } := by
  unfold loadVerifyKey at h
  split at h
  · rename_i k hk
    dsimp only at h
    split_ifs at h with hs
    · cases h
    · obtain ⟨-, rfl⟩ := Prod.mk.inj h
      exact ⟨k, hk, not_not.1 hs, rfl⟩
  · cases h

/-- Loading the verification key, when it fails. -/
theorem loadVerifyKey_fails {env : SignEnv} {cfg : P11KeyConfig} {pcLabel : List UInt8}
    {x y : P11Session} {rv : CkRv} (h : loadVerifyKey env cfg pcLabel x = (rv, y))
    (hrv : rv ≠ .ok) (k : KeyHandle) (hk : pkcs11PsaGetKeyHandle cfg pcLabel = (.ok, k)) :
    (env.getKeyAttributes k).1 ≠ psaSuccess := by
  intro hs
  unfold loadVerifyKey at h
  simp only [hk, hs, ne_eq, not_true_eq_false, if_false, Prod.mk.injEq] at h
  exact hrv h.1.symm

theorem loadVerifyKey_signing {env : SignEnv} {cfg : P11KeyConfig} {pcLabel : List UInt8}
    {x y : P11Session} {rv : CkRv} (h : loadVerifyKey env cfg pcLabel x = (rv, y)) :
    y.signing = x.signing := by
  unfold loadVerifyKey at h
  split at h
  · dsimp only at h
    split_ifs at h <;> obtain ⟨-, rfl⟩ := Prod.mk.inj h <;> rfl
  · obtain ⟨-, rfl⟩ := Prod.mk.inj h
    rfl

theorem loadVerifyKey_forget (env : SignEnv) (cfg : P11KeyConfig) (pcLabel : List UInt8)
    (x : P11Session) : loadVerifyKey env cfg pcLabel x.forgetSigning =
      ((loadVerifyKey env cfg pcLabel x).1, (loadVerifyKey env cfg pcLabel x).2.forgetSigning) := by
  unfold loadVerifyKey
  split
  · dsimp only
    split <;> rfl
  · rfl

/-- The mechanism check tells whether the mechanism suits the algorithm. -/
theorem checkMechanism_ok (mechanism : MechanismType) (alg : Algorithm) :
    checkMechanism ckmRsaX509 mechanism alg = .ok ↔ Suits mechanism alg := by
  have hne : ckmEcdsa ≠ ckmRsaX509 := by decide
  unfold checkMechanism Suits IsRsa
  by_cases hr : mechanism = ckmRsaX509
  · subst hr
    cases psaAlgIsRsaPkcs1v15Sign alg <;> cases psaAlgIsRsaPss alg <;> simp [hne.symm]
  · by_cases he : mechanism = ckmEcdsa
    · subst he
      cases psaAlgIsEcdsa alg <;> simp [hne]
    · simp [hr, he]

/-- The mechanism check depends on the algorithm only through that. -/
theorem checkMechanism_congr {mechanism : MechanismType} {alg alg' : Algorithm}
    (h : Suits mechanism alg ↔ Suits mechanism alg') :
    checkMechanism ckmRsaX509 mechanism alg = checkMechanism ckmRsaX509 mechanism alg' := by
  rw [← checkMechanism_ok, ← checkMechanism_ok] at h
  unfold checkMechanism at h ⊢
  split_ifs at h ⊢ <;> simp_all

/-- `C_VerifyInit` past the mechanism check. -/
def endVerifyInit (s : State) (h : Nat) (mechanism : MechanismType) (x : P11Session) :
    CkRv → CkRv × State
  | .ok => (.ok, s.setSession h { x with xVerifyMechanism := mechanism })
  | e => (e, s.setSession h x)

theorem endVerifyInit_rv (s : State) (h : Nat) (mechanism : MechanismType) (x : P11Session)
    (rv : CkRv) : (endVerifyInit s h mechanism x rv).1 = rv := by
  cases rv <;> rfl

theorem endVerifyInit_signing {s : State} {h : Nat} {x : P11Session}
    (hx : x.signing = (s.sessions h).signing) (mechanism : MechanismType) (rv : CkRv) (k : Nat) :
    ((endVerifyInit s h mechanism x rv).2.sessions k).signing = (s.sessions k).signing := by
  unfold endVerifyInit
  split
  · exact signing_setSession (x := { x with xVerifyMechanism := mechanism }) hx k
  · exact signing_setSession hx k

/-- How far a call of `C_VerifyInit` gets: it fails early, finds no object, cannot load the key, or
checks the mechanism. -/
inductive VerifyInitCase (env : SignEnv) (s : State) (xSession : SessionHandle)
    (pxMechanism : Option MechanismType) (xKey : ObjectHandle) : Prop
  | refused (rv : CkRv) (fails : rv ≠ .ok)
      (early : ∀ h, sessionCheck s xSession = .ok h → pxMechanism ≠ none →
        keyAlgorithm env s xKey = none ∧
          (prvFindObjectInListByHandle s.xObjectList xKey).1 ≠ ckInvalidHandle)
      (out : ∀ alg invalid, verifyInitWith alg invalid env s xSession pxMechanism xKey = (rv, s))
  | noObject (h : Nat) (check : sessionCheck s xSession = .ok h) (mechanism : pxMechanism ≠ none)
      (handle : (prvFindObjectInListByHandle s.xObjectList xKey).1 = ckInvalidHandle)
      (key : keyAlgorithm env s xKey = none)
      (out : ∀ alg invalid, verifyInitWith alg invalid env s xSession pxMechanism xKey =
        (.keyHandleInvalid, s.setSession h (invalid (s.sessions h))))
  | noKey (h : Nat) (rv : CkRv) (x : P11Session) (fails : rv ≠ .ok)
      (signing : x.signing = (s.sessions h).signing)
      (handle : (prvFindObjectInListByHandle s.xObjectList xKey).1 ≠ ckInvalidHandle)
      (key : keyAlgorithm env s xKey = none)
      (out : ∀ alg invalid, verifyInitWith alg invalid env s xSession pxMechanism xKey =
        (rv, s.setSession h x))
  | checked (h : Nat) (mechanism : MechanismType) (x : P11Session)
      (check : sessionCheck s xSession = .ok h) (mech : pxMechanism = some mechanism)
      (signing : x.signing = (s.sessions h).signing)
      (handle : (prvFindObjectInListByHandle s.xObjectList xKey).1 ≠ ckInvalidHandle)
      (key : keyAlgorithm env s xKey = some x.xVerifyAlgorithm)
      (out : ∀ alg invalid, verifyInitWith alg invalid env s xSession pxMechanism xKey =
        endVerifyInit s h mechanism x (checkMechanism ckmRsaX509 mechanism (alg x)))

theorem cVerifyInit_cases (env : SignEnv) (s : State) (xSession : SessionHandle)
    (pxMechanism : Option MechanismType) (xKey : ObjectHandle) :
    VerifyInitCase env s xSession pxMechanism xKey := by
  cases hs : sessionCheck s xSession with
  | error e =>
    refine .refused e (sessionCheck_error_ne hs) (fun h hk => ?_) fun alg invalid => ?_
    · rw [hs] at hk
      cases hk
    · simp only [verifyInitWith, hs]
  | ok h =>
    cases pxMechanism with
    | none =>
      refine .refused .argumentsBad (by decide) (fun _ _ hk => absurd rfl hk) fun alg invalid => ?_
      simp only [verifyInitWith, hs]
    | some mechanism =>
      by_cases hv : (prvFindObjectInListByHandle s.xObjectList xKey).1 = ckInvalidHandle
      · refine .noObject h hs (by simp) hv ?_ fun alg invalid => ?_
        · simp only [keyAlgorithm, hv, if_true]
        · simp only [verifyInitWith, hs, hv, if_true]
      · cases hl : env.lock with
        | false =>
          refine .refused .cantLock (by decide) (fun _ _ _ => ⟨?_, hv⟩) fun alg invalid => ?_
          · simp [keyAlgorithm, hl]
          · simp [verifyInitWith, hs, hv, hl]
        | true =>
          cases hload : loadVerifyKey env s.p11KeyConfig
              ((prvFindObjectInListByHandle s.xObjectList xKey).2.getD []) (s.sessions h) with
          | mk rv x =>
            have hsig := loadVerifyKey_signing hload
            by_cases hrv : rv = .ok
            · subst hrv
              obtain ⟨k, hk, hattr, rfl⟩ := loadVerifyKey_ok hload
              refine .checked h mechanism _ hs rfl hsig hv ?_ fun alg invalid => ?_
              · simp [keyAlgorithm, hv, hl, hk, hattr]
              · simp only [verifyInitWith, hs, if_neg hv, hl, hload, if_true]
                rfl
            · refine .noKey h rv x hrv hsig hv ?_ fun alg invalid => ?_
              · have hfail := loadVerifyKey_fails hload hrv
                simp only [keyAlgorithm, if_neg hv, hl, if_true]
                split
                · rename_i k hk
                  exact if_pos (hfail k hk)
                · rfl
              · simp only [verifyInitWith, hs, if_neg hv, hl, hload, if_true]

/-- **The specification** accepts when it should, and leaves the signing fields alone. -/
theorem verifyInitSpec_correct (env : SignEnv) (s : State) (xSession : SessionHandle)
    (pxMechanism : Option MechanismType) (xKey : ObjectHandle) :
    ((verifyInitSpec env s xSession pxMechanism xKey).1 = .ok ↔
      Accepts env s xSession pxMechanism xKey) ∧
    ∀ k, ((verifyInitSpec env s xSession pxMechanism xKey).2.sessions k).signing =
      (s.sessions k).signing := by
  unfold verifyInitSpec Accepts
  rcases cVerifyInit_cases env s xSession pxMechanism xKey with
    ⟨rv, hrv, hearly, hout⟩ | ⟨h, hs, hm, -, hkey, hout⟩ | ⟨h, rv, x, hrv, hsig, -, hkey, hout⟩ |
    ⟨h, mechanism, x, hs, rfl, hsig, -, hkey, hout⟩ <;> rw [hout]
  · refine ⟨⟨fun hok => absurd hok hrv, ?_⟩, fun k => rfl⟩
    rintro ⟨h, mechanism, alg, hs, rfl, hk, -⟩
    rw [(hearly h hs (by simp)).1] at hk
    cases hk
  · refine ⟨⟨fun hok => (by cases hok), ?_⟩, fun k => ?_⟩
    · rintro ⟨_, _, alg, -, -, hk, -⟩
      rw [hkey] at hk
      cases hk
    · rw [id, setSession_eq_self]
  · refine ⟨⟨fun hok => absurd hok hrv, ?_⟩, signing_setSession hsig⟩
    rintro ⟨_, _, alg, -, -, hk, -⟩
    rw [hkey] at hk
    cases hk
  · refine ⟨?_, endVerifyInit_signing hsig _ _⟩
    rw [endVerifyInit_rv, checkMechanism_ok]
    constructor
    · exact fun hsuits => ⟨h, mechanism, _, hs, rfl, hkey, hsuits⟩
    · rintro ⟨_, _, alg, -, hm, hk, hsuits⟩
      obtain rfl := Option.some.inj hm
      obtain rfl := Option.some.inj (hkey.symm.trans hk)
      exact hsuits

/-- A safe call does what it should. -/
theorem cVerifyInit_safe {env : SignEnv} {s : State} {xSession : SessionHandle}
    {pxMechanism : Option MechanismType} {xKey : ObjectHandle}
    (hsafe : VerifyInitSafe env s xSession pxMechanism xKey) :
    cVerifyInit env s xSession pxMechanism xKey = verifyInitSpec env s xSession pxMechanism xKey := by
  rw [cVerifyInit_eq, verifyInitSpec]
  rcases cVerifyInit_cases env s xSession pxMechanism xKey with
    ⟨rv, -, -, hout⟩ | ⟨h, hs, hm, hinv, -, hout⟩ | ⟨h, rv, x, -, -, -, -, hout⟩ |
    ⟨h, mechanism, x, hs, rfl, hsig, -, hkey, hout⟩ <;> rw [hout, hout]
  · have h0 := hsafe.handle h hs hm hinv
    have hx : ({ s.sessions h with uxSignKey := 0 } : P11Session) = s.sessions h := by
      cases hx : s.sessions h with
      | mk _ _ _ _ _ _ _ _ => rw [hx] at h0; cases h0; rfl
    rw [hx, id]
  · have halg : x.xSignAlgorithm = (s.sessions h).xSignAlgorithm := congrArg (·.2.2) hsig
    rw [halg, checkMechanism_congr (hsafe.algorithm h mechanism _ hs rfl hkey)]

/-- **One call**: it accepts when it should and leaves the signing fields alone exactly when it is
safe. -/
theorem cVerifyInit_correct_iff (env : SignEnv) (s : State) (xSession : SessionHandle)
    (pxMechanism : Option MechanismType) (xKey : ObjectHandle) :
    (((cVerifyInit env s xSession pxMechanism xKey).1 = .ok ↔
        Accepts env s xSession pxMechanism xKey) ∧
      ∀ k, ((cVerifyInit env s xSession pxMechanism xKey).2.sessions k).signing =
        (s.sessions k).signing) ↔ VerifyInitSafe env s xSession pxMechanism xKey := by
  constructor
  · rintro ⟨hacc, hkeep⟩
    rw [cVerifyInit_eq] at hacc hkeep
    rcases cVerifyInit_cases env s xSession pxMechanism xKey with
      ⟨rv, -, hearly, -⟩ | ⟨h, hs, hm, hinv, hkey, hout⟩ | ⟨h, rv, x, -, -, hval, hkey, -⟩ |
      ⟨h, mechanism, x, hs, rfl, hsig, hval, hkey, hout⟩
    · refine ⟨fun h hs hm hinv => absurd hinv (hearly h hs hm).2, fun h mechanism alg hs hm hk => ?_⟩
      rw [(hearly h hs (by simp [hm])).1] at hk
      cases hk
    · refine ⟨fun h' hs' _ _ => ?_, fun _ _ alg _ _ hk => by rw [hkey] at hk; cases hk⟩
      obtain rfl : h = h' := Except.ok.inj (hs.symm.trans hs')
      have hk := hkeep h
      rw [hout] at hk
      simpa [State.setSession, P11Session.signing] using (congrArg (·.1) hk).symm
    · exact ⟨fun _ _ _ hinv => absurd hinv hval, fun _ _ alg _ _ hk => by rw [hkey] at hk; cases hk⟩
    · refine ⟨fun _ _ _ hinv => absurd hinv hval, fun h' mechanism' alg hs' hm hk => ?_⟩
      obtain rfl : h = h' := Except.ok.inj (hs.symm.trans hs')
      obtain rfl := Option.some.inj hm
      have halg : x.xSignAlgorithm = (s.sessions h).xSignAlgorithm := congrArg (·.2.2) hsig
      rw [hout, endVerifyInit_rv, checkMechanism_ok, halg] at hacc
      refine ⟨fun hsuits => ?_, fun hsuits => hacc.2 ⟨h, mechanism, alg, hs, rfl, hk, hsuits⟩⟩
      obtain ⟨_, _, alg', -, hm', hk', hsuits'⟩ := hacc.1 hsuits
      obtain rfl := Option.some.inj hm'
      obtain rfl := Option.some.inj (hk.symm.trans hk')
      exact hsuits'
  · intro hsafe
    rw [cVerifyInit_safe hsafe]
    exact verifyInitSpec_correct env s xSession pxMechanism xKey

/-! ## Runs -/

theorem endVerifyInit_forget (s : State) (h : Nat) (mechanism : MechanismType) (x : P11Session)
    (rv : CkRv) : endVerifyInit s.forgetSigning h mechanism x.forgetSigning rv =
      ((endVerifyInit s h mechanism x rv).1, (endVerifyInit s h mechanism x rv).2.forgetSigning) := by
  unfold endVerifyInit
  split
  · have hx := forgetSigning_setSession s h { x with xVerifyMechanism := mechanism }
    exact congrArg (Prod.mk _) hx.symm
  · exact congrArg (Prod.mk _) (forgetSigning_setSession s h x).symm

/-- The specification does not look at the signing fields. -/
theorem verifyInitSpec_forget (env : SignEnv) (s : State) (xSession : SessionHandle)
    (pxMechanism : Option MechanismType) (xKey : ObjectHandle) :
    verifyInitSpec env s.forgetSigning xSession pxMechanism xKey =
      ((verifyInitSpec env s xSession pxMechanism xKey).1,
        (verifyInitSpec env s xSession pxMechanism xKey).2.forgetSigning) := by
  unfold verifyInitSpec verifyInitWith
  rw [sessionCheck_forget]
  cases sessionCheck s xSession with
  | error e => rfl
  | ok h =>
    cases pxMechanism with
    | none => rfl
    | some mechanism =>
      have hsess : s.forgetSigning.sessions h = (s.sessions h).forgetSigning := rfl
      have hlist : s.forgetSigning.xObjectList = s.xObjectList := rfl
      have hcfg : s.forgetSigning.p11KeyConfig = s.p11KeyConfig := rfl
      simp only [hsess, hlist, hcfg, id, ← forgetSigning_setSession]
      split_ifs
      · rfl
      · rw [loadVerifyKey_forget]
        generalize loadVerifyKey env s.p11KeyConfig
          ((prvFindObjectInListByHandle s.xObjectList xKey).2.getD []) (s.sessions h) = r
        obtain ⟨rv, x⟩ := r
        cases rv with
        | ok => exact endVerifyInit_forget s h mechanism x _
        | _ => exact congrArg (Prod.mk _) (forgetSigning_setSession s h x).symm
      · rfl

theorem cVerify_forget (env : SignEnv) (s : State) (xSession : SessionHandle)
    (pucData pucSignature : Option (List UInt8)) :
    cVerify env s.forgetSigning xSession pucData pucSignature =
      cVerify env s xSession pucData pucSignature := by
  unfold cVerify
  rw [sessionCheck_forget]
  cases sessionCheck s xSession with
  | error e => rfl
  | ok h => rfl

/-- What the calls that do not sign do to a state without signing fields. -/
def lowStep (s : State) : Call → State × Answer
  | .verifyInit env xSession pxMechanism xKey =>
    let (rv, s') := verifyInitSpec env s xSession pxMechanism xKey
    (s', rv, none)
  | .verify env xSession pucData pucSignature =>
    (s, cVerify env s xSession pucData pucSignature, none)
  | .other xObjectList p11KeyConfig =>
    ({ s with xObjectList := xObjectList, p11KeyConfig := p11KeyConfig }, .ok, none)
  | _ => (s, .ok, none)

theorem step_verifyInit (env : SignEnv) (s : State) (xSession : SessionHandle)
    (pxMechanism : Option MechanismType) (xKey : ObjectHandle) :
    step s (.verifyInit env xSession pxMechanism xKey) =
      some ((cVerifyInit env s xSession pxMechanism xKey).2,
        (cVerifyInit env s xSession pxMechanism xKey).1, none) := rfl

/-- The calls of `C_VerifyInit` that are safe, and every other call. -/
def Call.Safe (s : State) : Call → Prop
  | .verifyInit env xSession pxMechanism xKey => VerifyInitSafe env s xSession pxMechanism xKey
  | _ => True

/-- **Calls that do not sign**, when they are safe. -/
theorem low_step {s s' : State} {c : Call} {a : Answer} (hc : c.signs = false) (hsafe : c.Safe s)
    (h : step s c = some (s', a)) :
    (s'.forgetSigning, a) = lowStep s.forgetSigning c ∧
      ∀ k, (s'.sessions k).signing = (s.sessions k).signing := by
  cases c with
  | signInit => cases hc
  | sign => cases hc
  | verifyInit env xSession pxMechanism xKey =>
    rw [step_verifyInit, cVerifyInit_safe hsafe] at h
    obtain ⟨rfl, rfl⟩ := Prod.mk.inj (Option.some.inj h)
    refine ⟨?_, (verifyInitSpec_correct env s xSession pxMechanism xKey).2⟩
    rw [lowStep, verifyInitSpec_forget]
  | verify env xSession pucData pucSignature =>
    obtain ⟨rfl, rfl⟩ := Prod.mk.inj (Option.some.inj h)
    refine ⟨?_, fun k => rfl⟩
    rw [lowStep, cVerify_forget]
  | other xObjectList p11KeyConfig =>
    obtain ⟨rfl, rfl⟩ := Prod.mk.inj (Option.some.inj h)
    exact ⟨rfl, fun k => rfl⟩

/-- **Noninterference**: two runs whose states agree but for the signing fields, whose calls agree but
for those that sign, and whose `C_VerifyInit` calls are all safe, answer the calls that do not sign
alike; each `C_VerifyInit` accepts when it should; and no call but those that sign changes the
signing fields. -/
theorem verify_noninterference {s₀ s t₀ t : State} {tr tr' : List (Entry State Call Answer)}
    (h : Exec signVerifyMachine s₀ tr s) (h' : Exec signVerifyMachine t₀ tr' t)
    (h₀ : s₀.forgetSigning = t₀.forgetSigning)
    (hcalls : lowInputs (fun c => !c.signs) tr = lowInputs (fun c => !c.signs) tr')
    (hsafe : ∀ e ∈ tr ++ tr', e.inp.Safe e.pre) :
    lowOutputs (fun c => !c.signs) tr = lowOutputs (fun c => !c.signs) tr' ∧
    ∀ e ∈ tr ++ tr', e.inp.signs = false →
      (∀ k, (e.post.sessions k).signing = (e.pre.sessions k).signing) ∧
      ∀ env xSession pxMechanism xKey, e.inp = .verifyInit env xSession pxMechanism xKey →
        (e.out.1 = .ok ↔ Accepts env e.pre xSession pxMechanism xKey) := by
  have hstep : ∀ e ∈ tr ++ tr', step e.pre e.inp = some (e.post, e.out) := by
    intro e he
    rcases List.mem_append.1 he with he | he
    · exact h.mem he
    · exact h'.mem he
  constructor
  · refine Exec.proj_eq (π := State.forgetSigning) (f := lowStep) h h' h₀ hcalls ?_ ?_
    · intro e he hl
      exact signing_forget (by simpa using hl) (hstep e he)
    · intro e he hl
      exact (low_step (by simpa using hl) (hsafe e he) (hstep e he)).1
  · intro e he hl
    refine ⟨(low_step hl (hsafe e he) (hstep e he)).2, fun env xSession pxMechanism xKey hi => ?_⟩
    have hs := hstep e he
    have hsf := hsafe e he
    rw [hi] at hs hsf
    rw [step_verifyInit, cVerifyInit_safe hsf] at hs
    rw [← (Prod.mk.inj (Option.some.inj hs)).2]
    exact (verifyInitSpec_correct env e.pre xSession pxMechanism xKey).1

/-- Every key is an ECDSA key, and every service succeeds. -/
def ecdsaKeys : SignEnv where
  lock := true
  getKeyAttributes _ := (psaSuccess, psaAlgEcdsa psaAlgSha256)
  signHash _ _ _ _ := (psaSuccess, List.replicate 64 0)
  verifyHash _ _ _ _ := psaSuccess

/-- The device private key and the code verification key are listed, under the handles 1 and 2. -/
def twoKeys : State where
  xIsInitialized := true
  xObjectList :=
    let l := (prvAddObjectToList true ⟨fun _ => .zero, fun _ => .zero⟩ eAwsDevicePrivateKey
      labelDevicePrivateKeyForTls).2.2
    (prvAddObjectToList true l eAwsCodeVerifyingKey labelCodeVerificationKey).2.2
  p11KeyConfig := ⟨0x21, 0, 0x22, false, true, false, true, false, false⟩
  sessions _ := ⟨true, none, 0, pkcs11NoOperation, 0, 0, pkcs11NoOperation, 0⟩

def signInitEcdsa : Call := .signInit ecdsaKeys (some 0) (some ckmEcdsa) 1

def verifyInitEcdsa (xKey : ObjectHandle) : Call :=
  .verifyInit ecdsaKeys (some 0) (some ckmEcdsa) xKey

/-- A session that is set up for signing, and set up once more. -/
def signing : State := (cSignInit ecdsaKeys twoKeys (some 0) (some ckmEcdsa) 1).2
def signingAgain : State := (cSignInit ecdsaKeys signing (some 0) (some ckmEcdsa) 1).2

/-- A call is safe when the algorithm of the key is that of the last signing key. -/
theorem VerifyInitSafe.of_eq {env : SignEnv} {s : State} {h : Nat}
    {pxMechanism : Option MechanismType} {xKey : ObjectHandle}
    (hv : (prvFindObjectInListByHandle s.xObjectList xKey).1 ≠ ckInvalidHandle)
    (hk : keyAlgorithm env s xKey = some (s.sessions h).xSignAlgorithm) :
    VerifyInitSafe env s (some h) pxMechanism xKey := by
  refine ⟨fun _ _ _ hinv => absurd hinv hv, fun h' mechanism alg hs _ hk' => ?_⟩
  obtain rfl := Option.some.inj (hk.symm.trans hk')
  obtain rfl := Option.some.inj (sessionCheck_ok hs).1
  rfl

/-- Two runs that sign once and twice before a key is verified with. -/
theorem verify_noninterference_ecdsa :
    ∃ tr tr' : List (Entry State Call Answer), tr.length = 2 ∧ tr'.length = 3 ∧
      lowOutputs (fun c => !c.signs) tr = lowOutputs (fun c => !c.signs) tr' := by
  have h : Exec signVerifyMachine twoKeys [⟨twoKeys, signInitEcdsa, _, signing⟩,
      ⟨signing, verifyInitEcdsa 2, _, _⟩] _ := .snoc (.snoc .nil rfl) rfl
  have h' : Exec signVerifyMachine twoKeys [⟨twoKeys, signInitEcdsa, _, signing⟩,
      ⟨signing, signInitEcdsa, _, signingAgain⟩, ⟨signingAgain, verifyInitEcdsa 2, _, _⟩] _ :=
    .snoc (.snoc (.snoc .nil rfl) rfl) rfl
  refine ⟨_, _, rfl, rfl, (verify_noninterference h h' rfl rfl fun e he => ?_).1⟩
  simp only [List.mem_append, List.mem_cons, List.not_mem_nil, or_false] at he
  rcases he with (rfl | rfl) | rfl | rfl | rfl
  · trivial
  · exact .of_eq (by decide +kernel) (by decide +kernel)
  · trivial
  · trivial
  · exact .of_eq (by decide +kernel) (by decide +kernel)

/-- Two runs that differ in a `C_SignInit` answer `C_VerifyInit` differently for one ECDSA key; and an
invalid key handle takes the signing key away. -/
theorem verify_reads_signing :
    (∃ tr tr' : List (Entry State Call Answer), ∃ s s', Exec signVerifyMachine twoKeys tr s ∧
      Exec signVerifyMachine twoKeys tr' s' ∧
      lowInputs (fun c => !c.signs) tr = lowInputs (fun c => !c.signs) tr' ∧
      lowOutputs (fun c => !c.signs) tr = [(.keyTypeInconsistent, none)] ∧
      lowOutputs (fun c => !c.signs) tr' = [(.ok, none)]) ∧
    (signing.sessions 0).uxSignKey = 0x21 ∧
    ((cVerifyInit ecdsaKeys signing (some 0) (some ckmEcdsa) 3).2.sessions 0).uxSignKey = 0 := by
  have h : Exec signVerifyMachine twoKeys [⟨twoKeys, verifyInitEcdsa 2, _, _⟩] _ := .snoc .nil rfl
  have h' : Exec signVerifyMachine twoKeys [⟨twoKeys, signInitEcdsa, _, signing⟩,
      ⟨signing, verifyInitEcdsa 2, _, _⟩] _ := .snoc (.snoc .nil rfl) rfl
  refine ⟨⟨_, _, _, _, h, h', rfl, ?_, ?_⟩, by decide +kernel, by decide +kernel⟩
  · have hrv : (cVerifyInit ecdsaKeys twoKeys (some 0) (some ckmEcdsa) 2).1 =
        .keyTypeInconsistent := by decide +kernel
    exact congrArg (fun rv => [(rv, none)]) hrv
  · have hrv : (cVerifyInit ecdsaKeys signing (some 0) (some ckmEcdsa) 2).1 = .ok := by
      decide +kernel
    exact congrArg (fun rv => [(rv, none)]) hrv

end Pkcs11
