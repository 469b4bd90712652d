import TrustZone.Pkcs11.Proof.SignVerify

/-!
# The protocol of `C_Sign`

The documentation of `C_Sign` lets a caller ask for the length of the signature first: a call without
a buffer tells the length and keeps the operation, as a call with a buffer that is too small does;
every other call ends it (`SignCall.next`). `SignLaw` is this protocol for one call, and
`protocolMechanism` for a run.

The code never answers a length query and ends the operation there, and a call whose session check
fails writes to the session all the same. `cSign_obeys_iff`: a call follows the protocol exactly
when it is neither (`SignFine`). `SignFine.run`: a run of such calls is where the protocol says.
-/

namespace Pkcs11

open Lib Psa Machine

/-! ## What the documentation says -/

/-- The signature length that the mechanism of an operation requires. -/
def requiredLength (m : MechanismType) : Option Nat := (signLengths m []).map (·.1)

/-- A call of `C_Sign` on a session: it asks for the length, has too small a buffer, or is the last
call of the operation. -/
inductive SignCall
  | query (required : Nat)
  | short
  | last
  deriving DecidableEq

/-- The kind of a call, where `m` is the mechanism of the session. Without data or without a length
pointer it is no query. -/
def signCall (m : MechanismType) (pucData : Option (List UInt8)) (pucSignature : Bool)
    (pulSignatureLen : Option Nat) : SignCall :=
  match requiredLength m, pucData, pulSignatureLen with
  | some required, some _, some len =>
    if pucSignature then if len < required then .short else .last else .query required
  | _, _, _ => .last

/-- The mechanism that a call should leave. -/
def SignCall.next (m : MechanismType) : SignCall → MechanismType
  | .last => pkcs11NoOperation
  | _ => m

/-- **The protocol of one call** that answered `r` and moved from `s` to `s'`. -/
structure SignLaw (env : SignEnv) (s : State) (xSession : SessionHandle)
    (pucData : Option (List UInt8)) (pucSignature : Bool) (pulSignatureLen : Option Nat)
    (r : Answer) (s' : State) : Prop where
  invalid : ∀ e, sessionCheck s xSession = .error e → r.1 ≠ .ok ∧ s' = s
  mechanism : ∀ h, sessionCheck s xSession = .ok h → s' = s.setSession h { s.sessions h with
    xSignMechanism := (signCall (s.sessions h).xSignMechanism pucData pucSignature
      pulSignatureLen).next (s.sessions h).xSignMechanism }
  query : ∀ h required, sessionCheck s xSession = .ok h →
    signCall (s.sessions h).xSignMechanism pucData pucSignature pulSignatureLen = .query required →
    r.1 = .ok ∧ signatureLen pulSignatureLen r.2 = some required
  short : ∀ h, sessionCheck s xSession = .ok h →
    signCall (s.sessions h).xSignMechanism pucData pucSignature pulSignatureLen = .short →
    r = (.bufferTooSmall, none)
  signs : ∀ h data len required expected toBeSigned, sessionCheck s xSession = .ok h →
    pucData = some data → pucSignature = true → pulSignatureLen = some len →
    signLengths (s.sessions h).xSignMechanism data = some (required, expected, toBeSigned) →
    required ≤ len → data.length = expected → env.lock = true → (s.sessions h).uxSignKey ≠ 0 →
    (env.signHash (s.sessions h).uxSignKey (s.sessions h).xSignAlgorithm toBeSigned len).1 =
      psaSuccess →
    r = (.ok, some (env.signHash (s.sessions h).uxSignKey (s.sessions h).xSignAlgorithm
      toBeSigned len).2)

/-- A call returns, and follows the protocol. -/
def SignObeys (env : SignEnv) (s : State) (xSession : SessionHandle)
    (pucData : Option (List UInt8)) (pucSignature : Bool) (pulSignatureLen : Option Nat) : Prop :=
  ∃ r s', cSign env s xSession pucData pucSignature pulSignatureLen = some (r, s') ∧
    SignLaw env s xSession pucData pucSignature pulSignatureLen r s'

/-- **The condition**: on a session that is not open no operation is in progress, and a call on an open
one is no length query. -/
structure SignFine (s : State) (xSession : SessionHandle) (pucData : Option (List UInt8))
    (pucSignature : Bool) (pulSignatureLen : Option Nat) : Prop where
  invalid : ∀ e, sessionCheck s xSession = .error e →
    ∃ h, xSession = some h ∧ (s.sessions h).xSignMechanism = pkcs11NoOperation
  query : ∀ h required, sessionCheck s xSession = .ok h →
    signCall (s.sessions h).xSignMechanism pucData pucSignature pulSignatureLen ≠ .query required

/-! ## One call -/

/-- Only the two signing mechanisms are an operation, and their lengths do not depend on the data. -/
theorem signLengths_cases (m : MechanismType) :
    (m ≠ pkcs11NoOperation ∧ ∃ required expected, requiredLength m = some required ∧
      ∀ data, ∃ toBeSigned, signLengths m data = some (required, expected, toBeSigned)) ∨
    requiredLength m = none ∧ ∀ data, signLengths m data = none := by
  have hne : ckmEcdsa ≠ ckmRsaPkcs := by decide
  by_cases hr : m = ckmRsaPkcs
  · subst hr
    exact .inl ⟨by decide, _, pkcs11RsaSignatureInputLength, rfl, fun data => ⟨_, rfl⟩⟩
  · by_cases he : m = ckmEcdsa
    · subst he
      exact .inl ⟨by decide, _, pkcs11Sha256DigestLength, rfl, fun data => ⟨_, rfl⟩⟩
    · exact .inr (by simp [requiredLength, signLengths, hr, he])

/-- The end of `C_Sign`. -/
def endSign (s : State) (h : Nat) (r : Answer) : State :=
  if r.1 ≠ .bufferTooSmall then
    s.setSession h { s.sessions h with xSignMechanism := pkcs11NoOperation }
  else s

theorem cSign_open {s : State} {xSession : SessionHandle} {h : Nat}
    (hs : sessionCheck s xSession = .ok h) (env : SignEnv) (pucData : Option (List UInt8))
    (pucSignature : Bool) (pulSignatureLen : Option Nat) :
    cSign env s xSession pucData pucSignature pulSignatureLen =
      some (signData env (s.sessions h) pucData pucSignature pulSignatureLen,
        endSign s h (signData env (s.sessions h) pucData pucSignature pulSignatureLen)) := by
  obtain ⟨rfl, -, -⟩ := sessionCheck_ok hs
  unfold cSign endSign
  simp only [hs]
  split_ifs <;> rfl

theorem cSign_invalid {s : State} {h : Nat} {e : CkRv} (hs : sessionCheck s (some h) = .error e)
    (env : SignEnv) (pucData : Option (List UInt8)) (pucSignature : Bool)
    (pulSignatureLen : Option Nat) :
    cSign env s (some h) pucData pucSignature pulSignatureLen =
      some ((e, none), endSign s h (e, none)) := by
  unfold cSign endSign
  simp only [hs]
  split_ifs <;> rfl

/-- A query is a call on an operation. -/
theorem signCall_query {m : MechanismType} {pucData : Option (List UInt8)} {pucSignature : Bool}
    {pulSignatureLen : Option Nat} {required : Nat}
    (hk : signCall m pucData pucSignature pulSignatureLen = .query required) :
    m ≠ pkcs11NoOperation := by
  obtain ⟨hm, -⟩ | ⟨hreq, -⟩ := signLengths_cases m
  · exact hm
  · simp [signCall, hreq] at hk

/-- With a buffer a call is no query. -/
theorem signCall_buffer (m : MechanismType) (pucData : Option (List UInt8))
    (pulSignatureLen : Option Nat) (required : Nat) :
    signCall m pucData true pulSignatureLen ≠ .query required := by
  unfold signCall
  split
  · simp only [if_true]
    split_ifs <;> simp
  · simp

theorem signCall_nobuffer (m : MechanismType) (pucData : Option (List UInt8))
    (pulSignatureLen : Option Nat) : signCall m pucData false pulSignatureLen ≠ .short := by
  unfold signCall
  split <;> simp

/-- What a call answers past its session check, by its kind. -/
theorem signData_call (env : SignEnv) (x : P11Session) (pucData : Option (List UInt8))
    (pucSignature : Bool) (pulSignatureLen : Option Nat) :
    match signCall x.xSignMechanism pucData pucSignature pulSignatureLen with
    | .query _ => signData env x pucData pucSignature pulSignatureLen = (.ok, none)
    | .short => signData env x pucData pucSignature pulSignatureLen = (.bufferTooSmall, none)
    | .last => (signData env x pucData pucSignature pulSignatureLen).1 ≠ .bufferTooSmall := by
  cases pulSignatureLen with
  | none => cases pucData <;> simp [signCall, signData]
  | some len =>
    cases pucData with
    | none => simp [signCall, signData]
    | some data =>
      obtain ⟨-, required, expected, hreq, hlen⟩ | ⟨hreq, hlen⟩ :=
        signLengths_cases x.xSignMechanism
      · obtain ⟨toBeSigned, hlen⟩ := hlen data
        simp only [signCall, signData, hreq, hlen]
        cases pucSignature with
        | false => simp
        | true =>
          by_cases hs : len < required
          · simp [hs]
          · simp only [hs, if_true, if_false]
            split_ifs <;> simp
      · simp [signCall, signData, hreq, hlen data]

/-- A call on an open session leaves the mechanism that it should, unless it asks for the length. -/
theorem endSign_next {env : SignEnv} {s : State} {h : Nat} {pucData : Option (List UInt8)}
    {pucSignature : Bool} {pulSignatureLen : Option Nat} (hq : ∀ required,
      signCall (s.sessions h).xSignMechanism pucData pucSignature pulSignatureLen ≠
        .query required) :
    endSign s h (signData env (s.sessions h) pucData pucSignature pulSignatureLen) =
      s.setSession h { s.sessions h with
        xSignMechanism := (signCall (s.sessions h).xSignMechanism pucData pucSignature
          pulSignatureLen).next (s.sessions h).xSignMechanism } := by
  have hcall := signData_call env (s.sessions h) pucData pucSignature pulSignatureLen
  cases hk : signCall (s.sessions h).xSignMechanism pucData pucSignature pulSignatureLen with
  | query required => exact absurd hk (hq required)
  | short =>
    rw [hk] at hcall
    simp only at hcall
    rw [hcall]
    exact (setSession_eq_self s h).symm
  | last =>
    rw [hk] at hcall
    simp only at hcall
    unfold endSign
    rw [if_pos hcall]
    rfl

/-- The last call of an operation signs, when nothing stands in the way. -/
theorem signData_signs {env : SignEnv} {x : P11Session} {data : List UInt8} {len required expected : Nat}
    {toBeSigned : List UInt8}
    (hlen : signLengths x.xSignMechanism data = some (required, expected, toBeSigned))
    (hroom : required ≤ len) (hdata : data.length = expected) (hlock : env.lock = true)
    (hkey : x.uxSignKey ≠ 0)
    (hpsa : (env.signHash x.uxSignKey x.xSignAlgorithm toBeSigned len).1 = psaSuccess) :
    signData env x (some data) true (some len) =
      (.ok, some (env.signHash x.uxSignKey x.xSignAlgorithm toBeSigned len).2) := by
  have hroom : ¬len < required := by omega
  have hkey : ¬x.uxSignKey = 0#32 := hkey
  simp [signData, hlen, hroom, hdata.symm, hlock, hkey, hpsa]

/-- Ending an operation on a session changes nothing exactly when none is in progress. -/
theorem endSign_eq_self {s : State} {h : Nat} {r : Answer} (hr : r.1 ≠ .bufferTooSmall) :
    endSign s h r = s ↔ (s.sessions h).xSignMechanism = pkcs11NoOperation := by
  unfold endSign
  rw [if_pos hr]
  constructor
  · intro heq
    have hm := congrArg (fun s => (s.sessions h).xSignMechanism) heq
    simpa [State.setSession] using hm.symm
  · intro hm
    rw [← hm]
    exact setSession_eq_self s h

/-- **One call**: it returns and follows the protocol exactly when it is no length query, and finds no
operation in progress when its session is invalid. -/
theorem cSign_obeys_iff (env : SignEnv) (s : State) (xSession : SessionHandle)
    (pucData : Option (List UInt8)) (pucSignature : Bool) (pulSignatureLen : Option Nat) :
    SignObeys env s xSession pucData pucSignature pulSignatureLen ↔
      SignFine s xSession pucData pucSignature pulSignatureLen := by
  cases hs : sessionCheck s xSession with
  | error e =>
    have hinv : ∀ h, sessionCheck s xSession ≠ .ok h := by simp [hs]
    have hshort : e ≠ .bufferTooSmall := by
      obtain rfl | rfl | rfl := sessionCheck_error hs <;> simp
    constructor
    · intro ⟨r, s', hc, hlaw⟩
      refine ⟨fun e' he' => ?_, fun h _ hok => absurd hok (hinv h)⟩
      cases xSession with
      | none => simp [cSign] at hc
      | some h =>
        rw [cSign_invalid hs] at hc
        obtain ⟨rfl, rfl⟩ := Prod.mk.inj (Option.some.inj hc)
        exact ⟨h, rfl, (endSign_eq_self hshort).1 (hlaw.invalid e hs).2⟩
    · intro hfine
      obtain ⟨h, rfl, hno⟩ := hfine.invalid e hs
      refine ⟨_, _, cSign_invalid hs .., ?_⟩
      rw [(endSign_eq_self hshort).2 hno]
      exact {
        invalid := fun e' _ => ⟨sessionCheck_error_ne hs, rfl⟩
        mechanism := fun h' hok => absurd hok (hinv h')
        query := fun h' _ hok => absurd hok (hinv h')
        short := fun h' hok => absurd hok (hinv h')
        signs := fun h' _ _ _ _ _ hok => absurd hok (hinv h') }
  | ok h =>
    have hone : ∀ {h'}, sessionCheck s xSession = .ok h' → h = h' := by
      intro h' hok
      exact Except.ok.inj (hs.symm.trans hok)
    have hcall := signData_call env (s.sessions h) pucData pucSignature pulSignatureLen
    constructor
    · intro ⟨r, s', hc, hlaw⟩
      refine ⟨by simp [hs], fun h' required hok hk => ?_⟩
      obtain rfl := hone hok
      rw [cSign_open hs] at hc
      obtain ⟨rfl, rfl⟩ := Prod.mk.inj (Option.some.inj hc)
      rw [hk] at hcall
      simp only at hcall
      have hkeep := hlaw.mechanism h hs
      rw [hk, hcall] at hkeep
      -- the protocol keeps the operation, and the code ends it
      have hno := (endSign_eq_self (by simp)).1 (hkeep.trans (setSession_eq_self s h))
      exact signCall_query hk hno
    · intro hfine
      refine ⟨_, _, cSign_open hs .., ?_⟩
      exact {
        invalid := by simp [hs]
        mechanism := fun h' hok => by
          obtain rfl := hone hok
          exact endSign_next fun required => hfine.query h required hs
        query := fun h' required hok hk => absurd hk (hfine.query h' required hok)
        short := fun h' hok hk => by
          obtain rfl := hone hok
          rw [hk] at hcall
          exact hcall
        signs := fun h' data len required expected toBeSigned hok hd hsig hl hlen hroom hdata hlock
            hkey hpsa => by
          obtain rfl := hone hok
          subst hd hsig hl
          exact signData_signs hlen hroom hdata hlock hkey hpsa }

/-! ## Runs -/

/-- What a step should make of the mechanism of a session: an accepted `C_SignInit` starts an
operation. -/
def protocolStep (h : Nat) (m : MechanismType) (e : Entry State Call Answer) : MechanismType :=
  match e.inp with
  | .signInit _ xSession pxMechanism _ =>
    if xSession = some h ∧ e.out.1 = .ok then pxMechanism.getD m else m
  | .sign _ xSession pucData pucSignature pulSignatureLen =>
    if xSession = some h ∧ sessionCheck e.pre xSession matches .ok _ then
      (signCall m pucData pucSignature pulSignatureLen).next m
    else m
  | _ => m

/-- The mechanism of a session that the protocol says after a run. -/
def protocolMechanism (h : Nat) (m : MechanismType) (tr : List (Entry State Call Answer)) :
    MechanismType :=
  tr.foldl (protocolStep h) m

/-- A call of the module that is fine where it is made. -/
def Call.SignFine (s : State) : Call → Prop
  | .sign _ xSession pucData pucSignature pulSignatureLen =>
    Pkcs11.SignFine s xSession pucData pucSignature pulSignatureLen
  | _ => True

theorem loadSignKey_mechanism {env : SignEnv} {cfg : P11KeyConfig} {xPalHandle : ObjectHandle}
    {pcLabel : List UInt8} {x y : P11Session} {rv : CkRv}
    (h : loadSignKey env cfg xPalHandle pcLabel x = (rv, y)) :
    y.xSignMechanism = x.xSignMechanism := by
  unfold loadSignKey at h
  split_ifs at h
  · split at h
    · dsimp only at h
      split_ifs at h <;> obtain ⟨-, rfl⟩ := Prod.mk.inj h <;> rfl
    · obtain ⟨-, rfl⟩ := Prod.mk.inj h
      rfl
  · obtain ⟨-, rfl⟩ := Prod.mk.inj h
    rfl

/-- The end of `C_SignInit` past the mechanism check. -/
theorem endSignInit_mechanism {s s' : State} {h : Nat} {mechanism : MechanismType} {x : P11Session}
    {e rv : CkRv} (hx : x.xSignMechanism = (s.sessions h).xSignMechanism)
    (hend : (match e with
      | .ok => (CkRv.ok, s.setSession h { x with xSignMechanism := mechanism })
      | e => (e, s.setSession h x)) = (rv, s')) (k : Nat) :
    (s'.sessions k).xSignMechanism =
      if h = k ∧ rv = .ok then mechanism else (s.sessions k).xSignMechanism := by
  split at hend
  · obtain ⟨rfl, rfl⟩ := Prod.mk.inj hend
    by_cases hk : k = h
    · subst hk
      simp [State.setSession]
    · simp [State.setSession, Function.update_of_ne hk, Ne.symm hk]
  · rename_i hne
    obtain ⟨rfl, rfl⟩ := Prod.mk.inj hend
    rw [if_neg (by simpa using fun _ => hne)]
    exact setSession_congr (·.xSignMechanism) hx k

/-- **`C_SignInit`** starts an operation exactly when it answers `CKR_OK`. -/
theorem cSignInit_mechanism {env : SignEnv} {s s' : State} {xSession : SessionHandle}
    {pxMechanism : Option MechanismType} {xKey : ObjectHandle} {rv : CkRv}
    (h : cSignInit env s xSession pxMechanism xKey = (rv, s')) (k : Nat) :
    (s'.sessions k).xSignMechanism = if xSession = some k ∧ rv = .ok then
      pxMechanism.getD (s.sessions k).xSignMechanism else (s.sessions k).xSignMechanism := by
  unfold cSignInit at h
  cases hs : sessionCheck s xSession with
  | error e =>
    simp only [hs, Prod.mk.injEq] at h
    obtain ⟨rfl, rfl⟩ := h
    simp [sessionCheck_error_ne hs]
  | ok i =>
    obtain ⟨rfl, -⟩ := sessionCheck_ok hs
    cases pxMechanism with
    | none =>
      simp only [hs, Prod.mk.injEq] at h
      obtain ⟨rfl, rfl⟩ := h
      simp
    | some mechanism =>
      obtain ⟨xPalHandle, pcLabel⟩ := prvFindObjectInListByHandle s.xObjectList xKey
      simp only [hs] at h
      split_ifs at h
      · obtain ⟨rfl, rfl⟩ := Prod.mk.inj h
        simp
      · split at h
        · rename_i x hload
          simpa using endSignInit_mechanism (loadSignKey_mechanism hload) h k
        · rename_i e x hne hload
          obtain ⟨rfl, rfl⟩ := Prod.mk.inj h
          have he : e ≠ .ok := fun he => hne he
          rw [if_neg (by simp [he])]
          exact setSession_congr (·.xSignMechanism) (loadSignKey_mechanism hload) k
      · obtain ⟨rfl, rfl⟩ := Prod.mk.inj h
        simp

theorem cVerifyInit_mechanism (env : SignEnv) (s : State) (xSession : SessionHandle)
    (pxMechanism : Option MechanismType) (xKey : ObjectHandle) (k : Nat) :
    ((cVerifyInit env s xSession pxMechanism xKey).2.sessions k).xSignMechanism =
      (s.sessions k).xSignMechanism := by
  rw [cVerifyInit_eq]
  obtain ⟨rv, -, -, hout⟩ | ⟨h, -, -, -, -, hout⟩ | ⟨h, rv, x, -, hsig, -, -, hout⟩ |
    ⟨h, mechanism, x, -, -, hsig, -, -, hout⟩ :=
    cVerifyInit_cases env s xSession pxMechanism xKey
  · rw [hout]
  · rw [hout]
    exact setSession_congr (x := { s.sessions h with uxSignKey := 0 }) (·.xSignMechanism) rfl k
  · rw [hout]
    exact congrArg (·.2.1) (signing_setSession hsig k)
  · rw [hout]
    exact congrArg (·.2.1) (endVerifyInit_signing hsig mechanism _ k)

/-- A call that follows the protocol leaves the mechanism that it says. -/
theorem SignLaw.next {env : SignEnv} {s s' : State} {xSession : SessionHandle}
    {pucData : Option (List UInt8)} {pucSignature : Bool} {pulSignatureLen : Option Nat} {r : Answer}
    (h : SignLaw env s xSession pucData pucSignature pulSignatureLen r s') (k : Nat) :
    (s'.sessions k).xSignMechanism = protocolStep k (s.sessions k).xSignMechanism
      ⟨s, .sign env xSession pucData pucSignature pulSignatureLen, r, s'⟩ := by
  unfold protocolStep
  cases hs : sessionCheck s xSession with
  | error e => simp [(h.invalid e hs).2, hs]
  | ok i =>
    obtain ⟨rfl, -⟩ := sessionCheck_ok hs
    rw [h.mechanism i hs]
    by_cases hk : k = i
    · subst hk
      simp [State.setSession, hs]
    · simp [State.setSession, Function.update_of_ne hk, Ne.symm hk]

/-- **One step** of calls that are fine. -/
theorem step_protocol {s s' : State} {c : Call} {a : Answer} (h : step s c = some (s', a))
    (hfine : c.SignFine s) (k : Nat) :
    (s'.sessions k).xSignMechanism =
      protocolStep k (s.sessions k).xSignMechanism ⟨s, c, a, s'⟩ := by
  cases c with
  | signInit env xSession pxMechanism xKey =>
    obtain ⟨rfl, rfl⟩ := Prod.mk.inj (Option.some.inj h)
    exact cSignInit_mechanism rfl k
  | sign env xSession pucData pucSignature pulSignatureLen =>
    obtain ⟨r, s1, hc, hlaw⟩ := (cSign_obeys_iff env ..).2 hfine
    simp only [step, hc, Option.map_some, Option.some.injEq, Prod.mk.injEq] at h
    obtain ⟨rfl, rfl⟩ := h
    exact hlaw.next k
  | verifyInit env xSession pxMechanism xKey =>
    obtain ⟨rfl, -⟩ := Prod.mk.inj (Option.some.inj h)
    exact cVerifyInit_mechanism env s xSession pxMechanism xKey k
  | verify =>
    obtain ⟨rfl, -⟩ := Prod.mk.inj (Option.some.inj h)
    rfl
  | other =>
    obtain ⟨rfl, -⟩ := Prod.mk.inj (Option.some.inj h)
    rfl

/-- **Runs** of calls that are fine are where the protocol says. -/
theorem SignFine.run {s₀ s : State} {tr : List (Entry State Call Answer)}
    (h : Exec signVerifyMachine s₀ tr s) (hfine : ∀ e ∈ tr, e.inp.SignFine e.pre) (k : Nat) :
    (s.sessions k).xSignMechanism = protocolMechanism k (s₀.sessions k).xSignMechanism tr := by
  induction h with
  | nil => rfl
  | @snoc tr s s' c a _ hs ih =>
    have ih := ih fun e he => hfine e (List.mem_append_left _ he)
    have hc := hfine ⟨s, c, a, s'⟩ (by simp)
    rw [step_protocol hs hc k, ih]
    simp [protocolMechanism]

/-- `C_Sign` on a session handle that is not `NULL`. -/
theorem cSign_cases {env : SignEnv} {s s' : State} {h : Nat} {pucData : Option (List UInt8)}
    {pucSignature : Bool} {pulSignatureLen : Option Nat} {r : Answer}
    (hc : cSign env s (some h) pucData pucSignature pulSignatureLen = some (r, s')) :
    s' = endSign s h r ∧ ((∃ e, e ≠ .ok ∧ e ≠ .bufferTooSmall ∧ r = (e, none)) ∨
      r = signData env (s.sessions h) pucData pucSignature pulSignatureLen) := by
  cases hs : sessionCheck s (some h) with
  | error e =>
    rw [cSign_invalid hs] at hc
    obtain ⟨rfl, rfl⟩ := Prod.mk.inj (Option.some.inj hc)
    refine ⟨rfl, .inl ⟨e, sessionCheck_error_ne hs, ?_, rfl⟩⟩
    obtain rfl | rfl | rfl := sessionCheck_error hs <;> simp
  | ok i =>
    obtain rfl := Option.some.inj (sessionCheck_ok hs).1
    rw [cSign_open hs] at hc
    obtain ⟨rfl, rfl⟩ := Prod.mk.inj (Option.some.inj hc)
    exact ⟨rfl, .inr rfl⟩

/-- Without an operation nothing is signed. -/
theorem cSign_idle {env : SignEnv} {s s' : State} {h : Nat} {pucData : Option (List UInt8)}
    {pucSignature : Bool} {pulSignatureLen : Option Nat} {r : Answer}
    (hno : (s.sessions h).xSignMechanism = pkcs11NoOperation)
    (hc : cSign env s (some h) pucData pucSignature pulSignatureLen = some (r, s')) :
    r.1 ≠ .ok ∧ r.2 = none := by
  have hnone : ∀ data, signLengths pkcs11NoOperation data = none := fun _ => rfl
  obtain ⟨-, ⟨e, he, -, rfl⟩ | rfl⟩ := cSign_cases hc
  · exact ⟨he, rfl⟩
  · unfold signData
    rw [hno]
    split <;> simp [hnone]

/-- After a length query `C_Sign` signs nothing until the next `C_SignInit`. -/
theorem cSign_query_idle {env : SignEnv} {s s' : State} {h : Nat} {data : List UInt8} {len : Nat}
    {r : Answer} (hq : cSign env s (some h) (some data) false (some len) = some (r, s')) :
    (s'.sessions h).xSignMechanism = pkcs11NoOperation := by
  have hr : r.1 ≠ .bufferTooSmall := by
    obtain ⟨-, ⟨e, -, he, rfl⟩ | rfl⟩ := cSign_cases hq
    · exact he
    · have hcall := signData_call env (s.sessions h) (some data) false (some len)
      split at hcall
      · rw [hcall]
        simp
      · rename_i hk
        exact absurd hk (signCall_nobuffer _ _ _)
      · exact hcall
  rw [(cSign_cases hq).1, endSign, if_pos hr]
  simp [State.setSession]

/-- **The protocol of `C_Sign`.** A call follows it exactly when it is no length query, and finds no
operation in progress when its session is invalid. Runs of such calls go where the protocol
says; after a length query nothing is signed without another `C_SignInit`. -/
theorem sign_protocol (s : State) :
    (∀ env xSession pucData pucSignature pulSignatureLen,
      SignObeys env s xSession pucData pucSignature pulSignatureLen ↔
        SignFine s xSession pucData pucSignature pulSignatureLen) ∧
    (∀ s' (tr : List (Entry State Call Answer)), Exec signVerifyMachine s tr s' →
      (∀ e ∈ tr, e.inp.SignFine e.pre) → ∀ k,
        (s'.sessions k).xSignMechanism = protocolMechanism k (s.sessions k).xSignMechanism tr) ∧
    ∀ env h data len r s', cSign env s (some h) (some data) false (some len) = some (r, s') →
      ∀ env' pucData pucSignature pulSignatureLen r' s'',
        cSign env' s' (some h) pucData pucSignature pulSignatureLen = some (r', s'') →
          r'.1 ≠ .ok ∧ r'.2 = none := by
  refine ⟨fun env => cSign_obeys_iff env s, fun s' tr h hfine k => SignFine.run h hfine k, ?_⟩
  intro env h data len r s' hq env' pucData pucSignature pulSignatureLen r' s'' hc
  exact cSign_idle (cSign_query_idle hq) hc

/-- A digest to sign. -/
def digest : List UInt8 := List.replicate 32 0xAB

theorem SignFine.of_buffer {s : State} {xSession : SessionHandle} {h : Nat}
    (hs : sessionCheck s xSession = .ok h) (pucData : Option (List UInt8))
    (pulSignatureLen : Option Nat) : SignFine s xSession pucData true pulSignatureLen :=
  ⟨by simp [hs], fun _ _ _ => signCall_buffer _ _ _ _⟩

/-- The buffer is too small first: the operation stays, and the second call signs and ends it. -/
theorem sign_protocol_retry : ∃ (tr : List (Entry State Call Answer)) (s : State),
    Exec signVerifyMachine twoKeys tr s ∧
    tr.map (·.out) = [(.ok, none), (.bufferTooSmall, none), (.ok, some (List.replicate 64 0))] ∧
    (s.sessions 0).xSignMechanism = pkcs11NoOperation := by
  have h : Exec signVerifyMachine twoKeys [⟨twoKeys, signInitEcdsa, _, signing⟩,
      ⟨signing, .sign ecdsaKeys (some 0) (some digest) true (some 10), _, _⟩,
      ⟨signing, .sign ecdsaKeys (some 0) (some digest) true (some 64), _, _⟩] _ :=
    .snoc (.snoc (.snoc .nil rfl) rfl) rfl
  refine ⟨_, _, h, ?_, ((sign_protocol twoKeys).2.1 _ _ h ?_ 0).trans ?_⟩
  · decide +kernel
  · intro e he
    simp only [List.mem_cons, List.not_mem_nil, or_false] at he
    obtain rfl | rfl | rfl := he
    · trivial
    · exact .of_buffer (h := 0) (by decide +kernel) _ _
    · exact .of_buffer (h := 0) (by decide +kernel) _ _
  · decide +kernel

/-- The session is closed while an operation is in progress. -/
def signingClosed : State := signing.setSession 0 { signing.sessions 0 with xOpened := false }

/-- A length query tells no length and ends the operation, so that the call with the buffer fails; a
call on a closed session ends its operation; a call with a `NULL` session does not return. -/
theorem sign_query_unanswered :
    (∃ r s' r' s'', cSign ecdsaKeys signing (some 0) (some digest) false (some 0) = some (r, s') ∧
      cSign ecdsaKeys s' (some 0) (some digest) true (some 64) = some (r', s'') ∧
      requiredLength (signing.sessions 0).xSignMechanism = some 64 ∧
      signatureLen (some 0) r.2 = some 0 ∧ r' = (.operationNotInitialized, none)) ∧
    (∃ r s', cSign ecdsaKeys signingClosed (some 0) (some digest) true (some 64) = some (r, s') ∧
      r.1 = .sessionClosed ∧ (signingClosed.sessions 0).xSignMechanism = ckmEcdsa ∧
      (s'.sessions 0).xSignMechanism = pkcs11NoOperation) ∧
    cSign ecdsaKeys signing none (some digest) true (some 64) = none ∧
    ¬SignObeys ecdsaKeys signing (some 0) (some digest) false (some 0) := by
  refine ⟨⟨_, _, _, _, rfl, rfl, ?_, ?_, ?_⟩, ⟨_, _, rfl, ?_, ?_, ?_⟩, rfl, ?_⟩
  · decide +kernel
  · decide +kernel
  · decide +kernel
  · decide +kernel
  · decide +kernel
  · decide +kernel
  · intro h
    have hfine := (cSign_obeys_iff ..).1 h
    exact hfine.query 0 64 (by decide +kernel) (by decide +kernel)

end Pkcs11
