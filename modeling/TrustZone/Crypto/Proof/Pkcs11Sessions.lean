import TrustZone.Crypto.Pkcs11Sessions

/-!
# PKCS#11 sessions are closed

`xInitializePkcs11Session_cases` says once what the opening of a session can do. From it,
`right_inSession_iff`: a function that starts with a handle that is zero closes its session, and one that
starts with what lies on the stack does so when a session is opened. A private key is read into a context
that keeps its session exactly when every call succeeds and the key is an EC one (`initRight_iff`).
-/

namespace Crypto.Sessions

open Lib Pkcs11

variable {α β : Type} {o : OpenCalls} {v : SessionVar}

theorem xPrvCkRvToPkiStatus_eq_success {rv : Rv} : xPrvCkRvToPkiStatus rv = .success ↔ rv = ckrOk := by
  unfold xPrvCkRvToPkiStatus
  split_ifs <;> simp_all

/-! ## Opening a session -/

/-- What `xInitializePkcs11Session` may do: open a session and log in, log in without one, or stop before. -/
inductive Opening (o : OpenCalls) (v : SessionVar) : Recorded (Rv × SessionVar) → Prop
  | opened (ho : o.Opens) : Opening o v ⟨[.opened o.openSession.2, .used ⟨some o.openSession.2, true⟩],
      some (o.login, ⟨some o.openSession.2, true⟩)⟩
  | noSlot (ho : ¬o.Opens) (hs : o.NoSlot) : Opening o v ⟨[.used v], some (o.login, v)⟩
  | stopped {rv : Rv} (ho : ¬o.Opens) (hs : ¬o.NoSlot) (hrv : rv ≠ ckrOk) :
      Opening o v ⟨[], some (rv, v)⟩

theorem xInitializePkcs11Session_cases (o : OpenCalls) (v : SessionVar) :
    Opening o v (xInitializePkcs11Session o v) := by
  unfold xInitializePkcs11Session
  by_cases hlist : o.getFunctionList = ckrOk
  · rw [if_neg (not_not.2 hlist)]
    by_cases hinit : xInitializePKCS11 o = ckrOk ∨
        xInitializePKCS11 o = CkRv.cryptokiAlreadyInitialized.code
    · rw [if_neg (by tauto)]
      by_cases hslots : (xGetSlotList o.slots).1 = ckrOk
      · have hl : o.Listed := ⟨hlist, hinit, hslots⟩
        dsimp only
        rw [if_neg (not_not.2 hslots)]
        by_cases hone : 1 ≤ (xGetSlotList o.slots).2
        · have hsome : ¬o.NoSlot := fun h => by have := h.slot; omega
          rw [if_pos hone]
          unfold prvOpenSession
          by_cases hopen : o.openFunctionList = ckrOk
          · rw [if_neg (not_not.2 hopen)]
            dsimp only
            by_cases hsession : o.openSession.1 = ckrOk
            · rw [if_neg (not_not.2 hsession), hsession]
              exact .opened ⟨hl, hone, hopen, hsession⟩
            · rw [if_pos hsession]
              simp only [Traced.pure_bind_eq, if_pos hsession]
              exact .stopped (fun h => hsession h.openSession) hsome hsession
          · rw [if_pos hopen]
            simp only [Traced.pure_bind_eq, if_pos hopen]
            exact .stopped (fun h => hopen h.openFunctionList) hsome hopen
        · rw [if_neg hone, hslots]
          exact .noSlot (fun h => hone h.slot) ⟨hl, by omega⟩
      · dsimp only
        rw [if_pos hslots]
        exact .stopped (fun h => hslots h.slots) (fun h => hslots h.slots) hslots
    · rw [if_pos (by tauto)]
      exact .stopped (fun h => hinit h.cInitialize) (fun h => hinit h.cInitialize) (by tauto)
  · rw [if_pos hlist]
    exact .stopped (fun h => hlist h.getFunctionList) (fun h => hlist h.getFunctionList) hlist

/-! ## A session around stages -/

/-- Only the handle `v` is passed on. -/
def OnlyUses (v : SessionVar) (x : Recorded α) : Prop := x.All (· = .used v)

theorem SessionVar.use_onlyUses (v : SessionVar) (stage : SessionHandle → Option α) :
    OnlyUses v (v.use stage) :=
  (Traced.all_single _ _).2 rfl

theorem OnlyUses.assigned {x : Recorded α} (hx : OnlyUses v x) (hv : v.assigned = true) :
    x.All SessionEvent.Assigned := by
  intro e he
  rw [hx e he]
  exact hv

theorem OnlyUses.holds {x : Recorded α} {held : Multiset Nat} (hx : OnlyUses v x) :
    x.Holds SessionEvent.deeds held fun _ => held := by
  apply Traced.holds_of_all
  intro e he
  rw [hx e he]
  rfl

theorem closeIfSet_all {P : SessionEvent → Prop} :
    (closeIfSet v).All P ↔ (v.value ≠ none → P (.closed v)) := by
  unfold closeIfSet record
  split_ifs with h <;> simp [h]

/-- The session of a handle. -/
def sessionOf : SessionHandle → Multiset Nat
  | some h => {h}
  | none => 0

theorem closeIfSet_holds (v : SessionVar) :
    (closeIfSet v).Holds SessionEvent.deeds (sessionOf v.value) fun _ => 0 := by
  obtain ⟨h, b⟩ := v
  cases h with
  | none => exact Traced.holds_pure () rfl
  | some h => exact Traced.holds_record (by simp [SessionEvent.deeds, sessionOf])

variable {stages : Rv → SessionVar → Recorded α} {finish : SessionVar → α → β}

/-- What is recorded in a session is right when its parts are. -/
theorem inSession_all {P : SessionEvent → Prop} {l : List SessionEvent} {rv : Rv} {w : SessionVar}
    (hx : xInitializePkcs11Session o v = ⟨l, some (rv, w)⟩) :
    (inSession o v stages finish).All P ↔ (∀ e ∈ l, P e) ∧ (stages rv w).All P ∧
      ((stages rv w).result.isSome → w.value ≠ none → P (.closed w)) := by
  unfold inSession
  rw [hx, Traced.all_bind_iff]
  apply and_congr_right
  intro _
  simp only [Option.some.injEq, forall_eq', Traced.all_bind_iff, closeIfSet_all, Traced.all_pure,
    implies_true, and_true, Option.isSome_iff_exists, forall_exists_index]

/-- The session is closed when what is held at first is the handle. -/
theorem inSession_settled {l : List SessionEvent} {rv : Rv} {w : SessionVar}
    (hx : xInitializePkcs11Session o v = ⟨l, some (rv, w)⟩) (hs : OnlyUses w (stages rv w))
    (hl : settle 0 (l.flatMap SessionEvent.deeds) = some (sessionOf w.value)) :
    (inSession o v stages finish).Settled SessionEvent.deeds := by
  unfold inSession
  rw [hx]
  have hopen : (⟨l, some (rv, w)⟩ : Recorded (Rv × SessionVar)).Holds SessionEvent.deeds 0
      fun _ => sessionOf w.value := ⟨_, hl, fun _ _ => rfl⟩
  refine Traced.holds_bind hopen ?_
  intro r hr
  obtain rfl := Option.some.inj hr
  refine Traced.holds_bind hs.holds ?_
  intro a _
  exact Traced.holds_bind (closeIfSet_holds w) fun _ _ => Traced.holds_pure _ rfl

/-- A function in a session is right when the session is opened, or when its handle is zero and nobody
logs in with what the stack holds. -/
theorem right_inSession_iff (hv : v.assigned = true → v.value = none)
    (hs : ∀ rv w, OnlyUses w (stages rv w))
    (hstop : ∀ rv, rv ≠ ckrOk → ∃ r, stages rv v = pure r) :
    Right (inSession o v stages finish) ↔
      o.Opens ∨ v.value = none ∧ (v.assigned = true ∨ ¬o.NoSlot) := by
  have hcases := xInitializePkcs11Session_cases o v
  generalize hx : xInitializePkcs11Session o v = x at hcases
  cases hcases with
  | opened ho =>
    refine iff_of_true ⟨?_, inSession_settled hx (hs _ _) ?_⟩ (.inl ho)
    · refine (inSession_all hx).2 ⟨?_, (hs _ _).assigned rfl, fun _ _ => rfl⟩
      simp [SessionEvent.Assigned]
    · simp [SessionEvent.deeds, sessionOf]
  | noSlot ho hs' =>
    simp only [ho, hs', not_true, or_false, false_or]
    constructor
    · intro h
      have hused : v.assigned = true := ((inSession_all hx).1 h.assigned).1 _ List.mem_cons_self
      exact ⟨hv hused, hused⟩
    · intro ⟨hnone, hassigned⟩
      refine ⟨(inSession_all hx).2 ⟨?_, (hs _ _).assigned hassigned, fun _ h => absurd hnone h⟩,
        inSession_settled hx (hs _ _) ?_⟩
      · simpa [SessionEvent.Assigned] using hassigned
      · simp [SessionEvent.deeds, sessionOf, hnone]
  | stopped ho hs' hrv =>
    simp only [ho, hs', not_false_eq_true, or_true, and_true, false_or]
    obtain ⟨r, hr⟩ := hstop _ hrv
    constructor
    · intro h
      by_contra hsome
      exact hsome (hv (((inSession_all hx).1 h.assigned).2.2 (by rw [hr]; rfl) hsome))
    · intro hnone
      refine ⟨(inSession_all hx).2 ⟨nofun, ?_, fun _ h => absurd hnone h⟩,
        inSession_settled hx (hs _ _) ?_⟩
      · rw [hr]
        exact Traced.all_pure r
      · simp [sessionOf, hnone]

theorem right_pure (a : α) : Right (pure a : Recorded α) :=
  ⟨Traced.all_pure a, Traced.holds_pure a rfl⟩

/-- A function whose handle is zero at first closes every session. -/
theorem right_inSession (hs : ∀ rv w, OnlyUses w (stages rv w))
    (hstop : ∀ rv, rv ≠ ckrOk → ∃ r, stages rv ⟨none, true⟩ = pure r) :
    Right (inSession o ⟨none, true⟩ stages finish) :=
  (right_inSession_iff (fun _ => rfl) hs hstop).2 (.inr ⟨rfl, .inl rfl⟩)

/-! ## The functions -/

theorem right_writeObject (c : WriteCalls) (pcLabel : Option (List UInt8)) (context : Bool)
    (write : SessionHandle → List UInt8 → Option Int) :
    Right (writeObject o c pcLabel context write) := by
  unfold writeObject
  cases pcLabel with
  | none => exact right_pure _
  | some label =>
    dsimp only
    split_ifs
    · exact right_pure _
    · exact right_pure _
    · refine right_inSession ?_ ?_
      · intro rv w
        split_ifs
        · exact Traced.all_pure _
        · refine (Traced.all_bind_iff _ _).2 ⟨w.use_onlyUses _, ?_⟩
          intro rv' _
          split_ifs
          · exact Traced.all_pure _
          · exact (Traced.all_map_iff _ _).2 (w.use_onlyUses _)
      · intro rv hrv
        exact ⟨_, if_pos hrv⟩

theorem right_generate (c : GenerateCalls) (prv pub : List UInt8) (out : DerOut) :
    Right (xPkcs11GenerateKeyPairEC o c prv pub out) := by
  unfold xPkcs11GenerateKeyPairEC
  dsimp only
  split_ifs
  · exact ⟨Traced.all_fail, Traced.holds_fail⟩
  · exact right_pure _
  · refine right_inSession ?_ ?_
    · intro rv w
      split_ifs
      · exact Traced.all_pure _
      · refine (Traced.all_bind_iff _ _).2 ⟨w.use_onlyUses _, ?_⟩
        intro r _
        exact Traced.all_pure _
    · intro rv hrv
      exact ⟨_, if_pos hrv⟩

theorem right_readPublicKey (c : ReadPublicKeyCalls) (out : DerOut) (label : Option (List UInt8)) :
    Right (xPkcs11ReadPublicKey o c out label) := by
  unfold xPkcs11ReadPublicKey
  cases label with
  | none => exact right_pure _
  | some label =>
    dsimp only
    split_ifs
    · exact right_pure _
    · exact right_pure _
    · refine right_inSession ?_ ?_
      · intro rv w
        split_ifs
        · exact w.use_onlyUses _
        · exact Traced.all_pure _
      · intro rv hrv
        exact ⟨_, if_neg (fun h => hrv (xPrvCkRvToPkiStatus_eq_success.1 h))⟩

/-- `xPkcs11ReadCertificate` closes what it opened; before that, what lies on the stack. -/
theorem right_readCertificate_iff {χ : Type} {stack : SessionHandle} {c : ReadCertificateCalls χ}
    {crt : Option χ} {pcLabel : Option (List UInt8)} :
    Right (xPkcs11ReadCertificate stack o c crt pcLabel) ↔
      labelBuffer (pcLabel.getD []) = [] ∨ crt.isNone ∨ c.getFunctionList ≠ ckrOk ∨ o.Opens ∨
        stack = none ∧ ¬o.NoSlot := by
  unfold xPkcs11ReadCertificate
  cases pcLabel with
  | none => exact iff_of_true (right_pure _) (.inl rfl)
  | some label =>
    cases crt with
    | none => exact iff_of_true (right_pure _) (.inr (.inl rfl))
    | some crt =>
      simp only [Option.getD_some, Option.isNone_some, Bool.false_eq_true, false_or]
      split_ifs with hlabel hlist
      · exact iff_of_true (right_pure _) (.inl hlabel)
      · exact iff_of_true (right_pure _) (.inr (.inl hlist))
      · simp only [hlabel, hlist, false_or]
        refine (right_inSession_iff ?_ ?_ ?_).trans ?_
        · exact nofun
        · intro rv w
          split_ifs
          · exact Traced.all_pure _
          · refine (Traced.all_bind_iff _ _).2 ⟨w.use_onlyUses _, ?_⟩
            intro r _
            exact Traced.all_pure _
        · intro rv hrv
          exact ⟨_, if_pos hrv⟩
        · simp

/-! ## The private key of a pk context -/

theorem p11EcdsaCtxInit_result (c : EcdsaInitCalls) (v : SessionVar) :
    ∃ rv ctx, (p11EcdsaCtxInit c v).result = some (rv, ctx) ∧
      (rv = ckrOk ∧ c.Succeed ∧ ctx = .ecdsa v.value ∨ rv ≠ ckrOk ∧ ¬c.Succeed) := by
  unfold p11EcdsaCtxInit
  by_cases h1 : c.getSizes = ckrOk
  · by_cases h2 : c.getAttributeValue = ckrOk
    · by_cases h3 : c.groupLoad = 0
      · by_cases h4 : c.getTag ≠ 0 ∨ c.pointReadBinary ≠ 0
        · refine ⟨ckrGeneralError, .ecdsa none, ?_, .inr ⟨by decide, ?_⟩⟩
          · simp [SessionVar.use, h1, h2, h3, h4]
          · intro hc
            exact h4.elim (· hc.getTag) (· hc.pointReadBinary)
        · obtain ⟨h4, h5⟩ := not_or.1 h4
          have hc : c.Succeed := ⟨h1, h2, h3, not_not.1 h4, not_not.1 h5⟩
          refine ⟨ckrOk, .ecdsa v.value, ?_, .inl ⟨rfl, hc, rfl⟩⟩
          simp [SessionVar.use, h1, h2, h3, hc.getTag, hc.pointReadBinary]
      · refine ⟨ckrFunctionFailed, .ecdsa none, ?_, .inr ⟨by decide, fun hc => h3 hc.groupLoad⟩⟩
        simp [SessionVar.use, h1, h2, h3]
    · refine ⟨_, .ecdsa none, ?_, .inr ⟨h2, fun hc => h2 hc.getAttributeValue⟩⟩
      simp [SessionVar.use, h1, h2]
  · refine ⟨_, .ecdsa none, ?_, .inr ⟨h1, fun hc => h1 hc.getSizes⟩⟩
    simp [SessionVar.use, h1]

theorem p11EcdsaCtxInit_onlyUses (c : EcdsaInitCalls) (v : SessionVar) :
    OnlyUses v (p11EcdsaCtxInit c v) := by
  unfold p11EcdsaCtxInit OnlyUses
  simp only [Traced.all_bind_iff]
  refine ⟨v.use_onlyUses _, ?_⟩
  intro rv _
  split
  · exact Traced.all_pure _
  · refine (Traced.all_bind_iff _ _).2 ⟨v.use_onlyUses _, ?_⟩
    intro rv' _
    split_ifs <;> exact Traced.all_pure _

/-- What the stages of `xPkcs11InitMbedtlsPkContext` leave in a new context: an ECDSA context with the
session, when every call succeeds with an EC key and there is a session; else nothing, with an error, or an
RSA context. -/
inductive Initialized (c : InitCalls) (v : SessionVar) : PkiStatus → PkContext → Prop
  | ecdsa {h : Nat} (hv : v.value = some h) (hc : c.EcKey) :
      Initialized c v .success ⟨some (.ecdsa (some h))⟩
  | nothing {xStatus : PkiStatus} (hc : ¬c.EcKey ∨ v.value = none) (hs : xStatus ≠ .success) :
      Initialized c v xStatus ⟨none⟩
  | rsa {h : Nat} {xStatus : PkiStatus} (hv : v.value = some h) (hc : ¬c.EcKey) :
      Initialized c v xStatus ⟨some .rsa⟩

theorem not_success {rv : Rv} (h : rv ≠ ckrOk) : xPrvCkRvToPkiStatus rv ≠ .success :=
  fun hs => h (xPrvCkRvToPkiStatus_eq_success.1 hs)

theorem initKeyType_cases {c : InitCalls} {h : Nat} {t : BitVec 32} (hfind : c.find.1 = ckrOk)
    (hfound : c.find.2 ≠ ckInvalidHandle) (hlist : c.pk.getFunctionList = ckrOk)
    (hkey : c.pk.getKeyType = (ckrOk, t)) (hv : v.value = some h) :
    ∃ rv pk, (initKeyType c.pk v t).result = some (rv, pk) ∧
      Initialized c v (xPrvCkRvToPkiStatus rv) pk := by
  unfold initKeyType
  by_cases hec : t = ckkEcdsa
  · rw [if_pos hec]
    cases hcalloc : c.pk.ecdsaCalloc with
    | false =>
      refine ⟨_, _, rfl, .nothing (.inl fun hc => ?_) (not_success (by decide))⟩
      simp [hc.ecdsaCalloc] at hcalloc
    | true =>
      obtain ⟨rv, ctx, hr, hcases⟩ := p11EcdsaCtxInit_result c.pk.ecdsa v
      refine ⟨rv, ⟨if rv = ckrOk then some ctx else none⟩, by simp [hr], ?_⟩
      rcases hcases with ⟨rfl, hsucceed, rfl⟩ | ⟨hrv, hfail⟩
      · rw [if_pos rfl, hv]
        exact .ecdsa hv ⟨hfind, hfound, hlist, by rw [hkey, hec], hcalloc, hsucceed⟩
      · rw [if_neg hrv]
        exact .nothing (.inl fun hc => hfail hc.ecdsa) (not_success hrv)
  · have hno : ¬c.EcKey := fun hc => hec (congrArg Prod.snd (hkey.symm.trans hc.getKeyType))
    rw [if_neg hec]
    split_ifs
    · exact ⟨_, _, rfl, .rsa hv hno⟩
    · exact ⟨_, _, rfl, .nothing (.inl hno) (not_success (by decide))⟩
    · exact ⟨_, _, rfl, .nothing (.inl hno) (not_success (by decide))⟩

theorem xPKCS11InitMbedtlsPkContext_cases {c : InitCalls} (hfind : c.find.1 = ckrOk) (v : SessionVar) :
    ∃ rv pk, (xPKCS11InitMbedtlsPkContext c.pk mbedtlsPkInit v c.find.2).result = some (rv, pk) ∧
      Initialized c v (xPrvCkRvToPkiStatus rv) pk := by
  unfold xPKCS11InitMbedtlsPkContext
  cases hv : v.value with
  | none => exact ⟨_, _, rfl, .nothing (.inr hv) (not_success (by decide))⟩
  | some h =>
    rw [if_neg (Option.some_ne_none h)]
    split_ifs with hfound hlist
    · exact ⟨_, _, rfl, .nothing (.inl fun hc => hc.found hfound) (not_success (by decide))⟩
    · exact ⟨_, _, rfl, .nothing (.inl fun hc => hlist hc.getFunctionList) (not_success (by decide))⟩
    · cases hkey : c.pk.getKeyType with
      | mk rv t =>
        by_cases hrv : rv = ckrOk
        · subst hrv
          simpa [SessionVar.use] using initKeyType_cases hfind hfound (not_not.1 hlist) hkey hv
        · refine ⟨rv, ⟨none⟩, ?_, .nothing (.inl fun hc => hrv ?_) (not_success hrv)⟩
          · simp [SessionVar.use, hrv, mbedtlsPkInit]
          · exact congrArg Prod.fst (hkey.symm.trans hc.getKeyType)

theorem initStages_ok (c : InitCalls) (v : SessionVar) :
    ∃ xStatus pk, (initStages c mbedtlsPkInit ckrOk v).result = some (xStatus, pk) ∧
      Initialized c v xStatus pk := by
  unfold initStages
  rw [if_neg (not_not.2 (xPrvCkRvToPkiStatus_eq_success.2 rfl))]
  by_cases hfind : c.find.1 = ckrOk
  · obtain ⟨rv, pk, hr, hi⟩ := xPKCS11InitMbedtlsPkContext_cases hfind v
    refine ⟨_, pk, ?_, hi⟩
    simp [SessionVar.use, xPrvCkRvToPkiStatus_eq_success, hfind, hr]
  · refine ⟨_, _, ?_, .nothing (.inl fun hc => hfind hc.find) (not_success hfind)⟩
    simp [SessionVar.use, xPrvCkRvToPkiStatus_eq_success, hfind, mbedtlsPkInit]

theorem initStages_error (c : InitCalls) {rv : Rv} (hrv : rv ≠ ckrOk) (v : SessionVar) :
    initStages c mbedtlsPkInit rv v = pure (xPrvCkRvToPkiStatus rv, ⟨none⟩) :=
  if_pos (not_success hrv)

theorem initKeyType_onlyUses (c : PkCalls) (v : SessionVar) (t : BitVec 32) :
    OnlyUses v (initKeyType c v t) := by
  unfold initKeyType
  split_ifs
  · refine (Traced.all_bind_iff _ _).2 ⟨p11EcdsaCtxInit_onlyUses _ v, ?_⟩
    intro r _
    exact Traced.all_pure _
  all_goals exact Traced.all_pure _

theorem initStages_onlyUses (c : InitCalls) (pk : PkContext) (rv : Rv) (v : SessionVar) :
    OnlyUses v (initStages c pk rv v) := by
  unfold initStages
  split
  · exact Traced.all_pure _
  · refine (Traced.all_bind_iff _ _).2 ⟨v.use_onlyUses _, ?_⟩
    intro r _
    dsimp only
    split
    · exact Traced.all_pure _
    · refine (Traced.all_bind_iff _ _).2 ⟨?_, fun _ _ => Traced.all_pure _⟩
      unfold xPKCS11InitMbedtlsPkContext
      split_ifs
      · exact Traced.all_pure _
      · exact Traced.all_pure _
      · exact Traced.all_pure _
      · refine (Traced.all_bind_iff _ _).2 ⟨v.use_onlyUses _, ?_⟩
        intro r _
        dsimp only
        split_ifs
        · exact Traced.all_pure _
        · exact initKeyType_onlyUses _ v _

/-- The whole function, from what its two parts do. -/
theorem xPkcs11InitMbedtlsPkContext_eq {c : InitCalls} {pcLabel : Option (List UInt8)}
    {l : List SessionEvent} {rv : Rv} {w : SessionVar} {xStatus : PkiStatus} {pk : PkContext}
    (hl : labelBuffer (pcLabel.getD []) ≠ [])
    (hx : xInitializePkcs11Session o ⟨none, true⟩ = ⟨l, some (rv, w)⟩)
    (hr : (initStages c mbedtlsPkInit rv w).result = some (xStatus, pk)) :
    ∃ l', (∀ e ∈ l', e = .used w) ∧ xPkcs11InitMbedtlsPkContext o c pcLabel mbedtlsPkInit =
      ⟨l ++ l', some (xStatus, pk, if xStatus = .success then some w else none)⟩ := by
  refine ⟨(initStages c mbedtlsPkInit rv w).log ++ [], ?_, ?_⟩
  · rw [List.append_nil]
    exact initStages_onlyUses c mbedtlsPkInit rv w
  · unfold xPkcs11InitMbedtlsPkContext
    rw [if_neg hl, hx, Traced.bind_of_some rfl]
    dsimp only
    rw [Traced.bind_of_some hr]
    rfl

/-- What `xPkcs11InitMbedtlsPkContext` does with a new context: nothing is opened, and it fails; a session
is opened, and kept in an ECDSA context; or a session is opened, and no context has it. -/
inductive InitRun (o : OpenCalls) (c : InitCalls) (label : List UInt8) :
    Recorded (PkiStatus × PkContext × Option SessionVar) → Prop
  | unopened {l : List SessionEvent} {xStatus : PkiStatus} {out : Option SessionVar}
      (ho : label = [] ∨ ¬o.Opens) (hx : ∀ e ∈ l, e = .used ⟨none, true⟩) (hs : xStatus ≠ .success) :
      InitRun o c label ⟨l, some (xStatus, ⟨none⟩, out)⟩
  | kept {l : List SessionEvent} {h : Nat} {out : Option SessionVar} (hl : label ≠ []) (ho : o.Opens)
      (hc : o.login = ckrOk ∧ c.EcKey) (hx : ∀ e ∈ l, e = .used ⟨some h, true⟩) :
      InitRun o c label ⟨.opened h :: l, some (.success, ⟨some (.ecdsa (some h))⟩, out)⟩
  | lost {l : List SessionEvent} {h : Nat} {r : PkiStatus × PkContext × Option SessionVar}
      (hl : label ≠ []) (ho : o.Opens) (hc : ¬(o.login = ckrOk ∧ c.EcKey))
      (hx : ∀ e ∈ l, e = .used ⟨some h, true⟩) (hk : kept r = 0) : InitRun o c label ⟨.opened h :: l, some r⟩

theorem xPkcs11InitMbedtlsPkContext_cases (o : OpenCalls) (c : InitCalls)
    (pcLabel : Option (List UInt8)) : InitRun o c (labelBuffer (pcLabel.getD []))
      (xPkcs11InitMbedtlsPkContext o c pcLabel mbedtlsPkInit) := by
  by_cases hl : labelBuffer (pcLabel.getD []) = []
  · unfold xPkcs11InitMbedtlsPkContext
    rw [if_pos hl]
    exact .unopened (.inl hl) nofun (by decide)
  · have hcases := xInitializePkcs11Session_cases o ⟨none, true⟩
    generalize hx : xInitializePkcs11Session o ⟨none, true⟩ = x at hcases
    cases hcases with
    | opened ho =>
      generalize o.openSession.2 = h at hx
      by_cases hlogin : o.login = ckrOk
      · rw [hlogin] at hx
        obtain ⟨xStatus, pk, hr, hi⟩ := initStages_ok c ⟨some h, true⟩
        obtain ⟨l, hused, heq⟩ := xPkcs11InitMbedtlsPkContext_eq hl hx hr
        rw [heq]
        have hused' : ∀ e ∈ SessionEvent.used ⟨some h, true⟩ :: l, e = .used ⟨some h, true⟩ :=
          List.forall_mem_cons.2 ⟨rfl, hused⟩
        cases hi with
        | ecdsa hv hc =>
          obtain rfl := Option.some.inj hv
          exact .kept hl ho ⟨hlogin, hc⟩ hused'
        | nothing hc hs =>
          exact .lost hl ho (fun h => hc.elim (· h.2) nofun) hused' (if_neg hs)
        | rsa hv hc =>
          refine .lost hl ho (fun h => hc h.2) hused' ?_
          unfold kept
          split_ifs <;> rfl
      · have hr := congrArg Traced.result (initStages_error c hlogin ⟨some h, true⟩)
        obtain ⟨l, hused, heq⟩ := xPkcs11InitMbedtlsPkContext_eq hl hx hr
        rw [heq]
        exact .lost hl ho (fun h => hlogin h.1) (List.forall_mem_cons.2 ⟨rfl, hused⟩)
          (if_neg (not_success hlogin))
    | noSlot ho hs =>
      by_cases hlogin : o.login = ckrOk
      · rw [hlogin] at hx
        obtain ⟨xStatus, pk, hr, hi⟩ := initStages_ok c ⟨none, true⟩
        obtain ⟨l, hused, heq⟩ := xPkcs11InitMbedtlsPkContext_eq hl hx hr
        rw [heq]
        cases hi with
        | ecdsa hv hc => cases hv
        | nothing hc hs => exact .unopened (.inr ho) (List.forall_mem_cons.2 ⟨rfl, hused⟩) hs
        | rsa hv hc => cases hv
      · have hr := congrArg Traced.result (initStages_error c hlogin ⟨none, true⟩)
        obtain ⟨l, hused, heq⟩ := xPkcs11InitMbedtlsPkContext_eq hl hx hr
        rw [heq]
        exact .unopened (.inr ho) (List.forall_mem_cons.2 ⟨rfl, hused⟩) (not_success hlogin)
    | stopped ho hs hrv =>
      have hr := congrArg Traced.result (initStages_error c hrv ⟨none, true⟩)
      obtain ⟨l, hl', heq⟩ := xPkcs11InitMbedtlsPkContext_eq hl hx hr
      rw [heq]
      exact .unopened (.inr ho) hl' (not_success hrv)

/-- What `lPKCS11PkMbedtlsCloseSessionAndFree` does after it. -/
theorem initAndClose_eq {c : InitCalls} (close : CloseCalls) {pcLabel : Option (List UInt8)}
    {l : List SessionEvent} {xStatus : PkiStatus} {pk : PkContext} {out : Option SessionVar}
    (hx : xPkcs11InitMbedtlsPkContext o c pcLabel mbedtlsPkInit = ⟨l, some (xStatus, pk, out)⟩) :
    ∃ lError, initAndClose o c close pcLabel = ⟨l ++ if close.getFunctionList = ckrOk then
      [.closed (pk.session close.beyond)] else [], some lError⟩ := by
  unfold initAndClose lPKCS11PkMbedtlsCloseSessionAndFree
  rw [hx, Traced.bind_of_some rfl]
  by_cases hlist : close.getFunctionList = ckrOk
  · by_cases hclose : close.closeSession = ckrOk
    · simp only [hlist, hclose, ne_eq, not_true, if_false, if_true]
      exact ⟨0, rfl⟩
    · simp only [hlist, hclose, ne_eq, not_true, if_false, if_true]
      exact ⟨-1, rfl⟩
  · simp only [hlist, ne_eq, not_false_eq_true, if_false, if_true]
    exact ⟨-1, rfl⟩

theorem deeds_of_used {l : List SessionEvent} (h : ∀ e ∈ l, e = .used v) :
    l.flatMap SessionEvent.deeds = [] := by
  apply List.flatMap_eq_nil_iff.2
  intro e he
  rw [h e he]
  rfl

theorem assigned_of_used {l : List SessionEvent} (h : ∀ e ∈ l, e = .used v) (hv : v.assigned = true) :
    ∀ e ∈ l, e.Assigned := by
  intro e he
  rw [h e he]
  exact hv

theorem deeds_opened {l : List SessionEvent} {h : Nat} (hl : ∀ e ∈ l, e = .used ⟨some h, true⟩) :
    (SessionEvent.opened h :: l).flatMap SessionEvent.deeds = [.take h] := by
  rw [List.flatMap_cons, deeds_of_used hl]
  rfl

theorem assigned_opened {l : List SessionEvent} {h : Nat} (hl : ∀ e ∈ l, e = .used ⟨some h, true⟩) :
    ∀ e ∈ SessionEvent.opened h :: l, e.Assigned :=
  List.forall_mem_cons.2 ⟨trivial, assigned_of_used hl rfl⟩

/-- A private key is right in two cases: it is an EC key that can be read, and the function list is there to
close its session, or no session is opened, and the list is not there. -/
theorem initRight_iff {c : InitCalls} {close : CloseCalls} {pcLabel : Option (List UInt8)} :
    InitRight o c close pcLabel ↔
      if close.getFunctionList = ckrOk then
        labelBuffer (pcLabel.getD []) ≠ [] ∧ o.Opens ∧ o.login = ckrOk ∧ c.EcKey
      else labelBuffer (pcLabel.getD []) = [] ∨ ¬o.Opens := by
  have hcases := xPkcs11InitMbedtlsPkContext_cases o c pcLabel
  generalize hx : xPkcs11InitMbedtlsPkContext o c pcLabel mbedtlsPkInit = x at hcases
  cases hcases with
  | unopened ho hused hs =>
    obtain ⟨lError, heq⟩ := initAndClose_eq close hx
    split_ifs at heq ⊢ with hlist
    · refine iff_of_false ?_ (fun h => ho.elim h.1 fun hno => hno h.2.1)
      intro h
      have hclosed := h.closed.assigned
      rw [heq] at hclosed
      exact absurd (hclosed _ (List.mem_append_right _ List.mem_cons_self)) Bool.false_ne_true
    · refine iff_of_true ⟨?_, ?_, ?_⟩ ho
      · rw [hx]
        exact .of_log (deeds_of_used hused) (congrArg some (if_neg hs).symm)
      · rw [heq, List.append_nil]
        exact assigned_of_used hused rfl
      · rw [heq, List.append_nil]
        exact .of_log (deeds_of_used hused) rfl
  | kept hl ho hc hused =>
    obtain ⟨lError, heq⟩ := initAndClose_eq close hx
    have hdeeds := deeds_opened hused
    have hassigned := assigned_opened hused
    split_ifs at heq ⊢ with hlist
    · refine iff_of_true ⟨?_, ?_, ?_⟩ ⟨hl, ho, hc⟩
      · rw [hx]
        exact .of_log hdeeds rfl
      · rw [heq]
        intro e he
        rcases List.mem_append.1 he with he | he
        · exact hassigned e he
        · obtain rfl := List.mem_singleton.1 he
          rfl
      · rw [heq]
        refine .of_log (by rw [List.flatMap_append, hdeeds]) ?_
        simp [SessionEvent.deeds, PkContext.session]
    · refine iff_of_false ?_ (fun h => h.elim hl fun hno => hno ho)
      intro h
      have hclosed := h.closed.settled
      rw [heq, List.append_nil] at hclosed
      have hheld := hclosed.settle_eq rfl
      rw [hdeeds] at hheld
      simp at hheld
  | lost hl ho hc hused hk =>
    refine iff_of_false ?_ ?_
    · intro h
      have hkept := h.kept
      rw [hx] at hkept
      have hheld := hkept.settle_eq rfl
      rw [deeds_opened hused, hk] at hheld
      simp at hheld
    · split_ifs
      · exact fun h => hc h.2.2
      · exact fun h => h.elim hl fun hno => hno ho

/-! ## Every call -/

/-- **Sessions.** The sessions of a call are right exactly when it is `Fine`: those that write, generate and
read public keys always are. -/
theorem sessionsRight_iff {χ : Type} (c : SessionCall χ) : c.SessionsRight ↔ c.Fine := by
  cases c with
  | initMbedtlsPkContext o c close pcLabel => exact initRight_iff
  | writeCertificate o c pcLabel raw => exact iff_of_true (right_writeObject c pcLabel _ _) trivial
  | readCertificate stack o c crt pcLabel => exact right_readCertificate_iff
  | generateKeyPairEC o c prv pub out => exact iff_of_true (right_generate c prv pub out) trivial
  | readPublicKey o c out pcPubKeyLabel =>
    exact iff_of_true (right_readPublicKey c out pcPubKeyLabel) trivial
  | writePubKey o c pcLabel pk => exact iff_of_true (right_writeObject c pcLabel _ _) trivial

/-- A module that opens session 1. -/
def openingModule : OpenCalls where
  getFunctionList := ckrOk
  initFunctionList := ckrOk
  cInitialize := ckrOk
  slots := ⟨ckrOk, (ckrOk, 1), fun _ => true, (ckrOk, 1)⟩
  openFunctionList := ckrOk
  openSession := (ckrOk, 1)
  login := ckrOk

/-- A module that finds no key. -/
def keylessModule : InitCalls where
  find := (ckrOk, ckInvalidHandle)
  pk := ⟨ckrOk, (ckrOk, ckkEcdsa), true, ⟨ckrOk, ckrOk, 0, 0, 0⟩, true⟩

/-- Without the key session 1 stays open, and what is closed is no handle. -/
theorem missing_key_leaks :
    (initAndClose openingModule keylessModule ⟨ckrOk, some 7, ckrOk⟩ (some labelDevicePrivateKeyForTls)).log
      = [.opened 1, .used ⟨some 1, true⟩, .used ⟨some 1, true⟩, .closed ⟨some 7, false⟩] ∧
    ¬(SessionCall.initMbedtlsPkContext openingModule keylessModule ⟨ckrOk, some 7, ckrOk⟩
      (some labelDevicePrivateKeyForTls) : SessionCall Unit).SessionsRight := by
  refine ⟨rfl, ?_⟩
  intro h
  obtain ⟨-, -, -, hc⟩ := initRight_iff.1 h
  exact hc.found rfl

/-! ## The results -/

theorem inSession_result {rv : Rv} {w : SessionVar}
    (hx : (xInitializePkcs11Session o v).result = some (rv, w)) :
    (inSession o v stages finish).result = (stages rv w).result.map (finish w) := by
  have hclose : (closeIfSet w).result = some () := by
    unfold closeIfSet
    split_ifs <;> rfl
  unfold inSession
  rw [Traced.result_bind, hx]
  simp only [Option.bind_some, Traced.result_bind, hclose, Traced.result_pure]
  cases (stages rv w).result <;> rfl

section Results

variable {rv : Rv} {w : SessionVar}

/-- The functions return what those of `PkiObjectPkcs11` do, for what the opening of the session leaves. -/
theorem writeObject_result (c : WriteCalls) (pcLabel : Option (List UInt8)) (context : Bool)
    (write : SessionHandle → List UInt8 → Option Int)
    (hx : (xInitializePkcs11Session o ⟨none, true⟩).result = some (rv, w)) :
    (writeObject o c pcLabel context write).result =
      Crypto.writeObject { c with initializePkcs11Session := (rv, w.value) } pcLabel context write := by
  unfold writeObject Crypto.writeObject
  cases pcLabel with
  | none => rfl
  | some label =>
    by_cases harg : context = false ∨ labelBuffer label = []
    · simp [harg]
    · by_cases hlist : c.getFunctionList = ckrOk
      · simp only [harg, hlist, inSession_result hx, Option.map_id', ne_eq, not_true, if_false]
        by_cases hrv : rv = ckrOk
        · simp only [hrv, SessionVar.use, not_true, if_false, Traced.result_bind]
          cases xPrvDestoryObject c.destroy w.value (labelBuffer label) with
          | none => rfl
          | some xResult =>
            by_cases hr : xResult = ckrOk <;> simp [hr]
        · simp [hrv]
      · simp [harg, hlist]

theorem readCertificate_result {χ : Type} (c : ReadCertificateCalls χ) (stack : SessionHandle)
    (crt : Option χ) (pcLabel : Option (List UInt8))
    (hx : (xInitializePkcs11Session o ⟨stack, false⟩).result = some (rv, w)) :
    (xPkcs11ReadCertificate stack o c crt pcLabel).result =
      Crypto.xPkcs11ReadCertificate { c with initializePkcs11Session := (rv, w.value) } crt pcLabel := by
  unfold xPkcs11ReadCertificate Crypto.xPkcs11ReadCertificate
  cases pcLabel with
  | none => rfl
  | some label =>
    cases crt with
    | none => rfl
    | some crt =>
      by_cases harg : labelBuffer label = []
      · simp [harg]
      · by_cases hlist : c.getFunctionList = ckrOk
        · simp only [harg, hlist, inSession_result hx, Option.map_id', ne_eq, not_true, if_false]
          by_cases hrv : rv = ckrOk
          · simp only [hrv, SessionVar.use, not_true, if_false, Traced.result_bind]
            cases lReadCertificateFromPKCS11 c.read c.crtInit w.value <;> rfl
          · simp [hrv]
        · simp [harg, hlist]

theorem generate_result (c : GenerateCalls) (prv pub : List UInt8) (out : DerOut)
    (hx : (xInitializePkcs11Session o ⟨none, true⟩).result = some (rv, w)) :
    (xPkcs11GenerateKeyPairEC o c prv pub out).result =
      Crypto.xPkcs11GenerateKeyPairEC { c with initializePkcs11Session := (rv, w.value) } prv pub out := by
  unfold xPkcs11GenerateKeyPairEC Crypto.xPkcs11GenerateKeyPairEC
  by_cases harg : labelBuffer prv = [] ∨ labelBuffer pub = []
  · simp [harg]
  · by_cases hlist : c.getFunctionList = ckrOk
    · simp only [harg, hlist, inSession_result hx, Option.map_id', ne_eq, not_true, if_false]
      by_cases hrv : rv = ckrOk
      · simp only [hrv, SessionVar.use, not_true, if_false, Traced.result_bind]
        change (generateKeyPair c (labelBuffer prv) (labelBuffer pub) w.value out).bind _ =
          (generateKeyPair c (labelBuffer prv) (labelBuffer pub) w.value out).map _
        cases generateKeyPair c (labelBuffer prv) (labelBuffer pub) w.value out <;> rfl
      · simp [hrv]
    · simp [harg, hlist]

theorem readPublicKey_result (c : ReadPublicKeyCalls) (out : DerOut) (pcPubKeyLabel : Option (List UInt8))
    (hx : (xInitializePkcs11Session o ⟨none, true⟩).result = some (rv, w)) :
    (xPkcs11ReadPublicKey o c out pcPubKeyLabel).result =
      Crypto.xPkcs11ReadPublicKey { c with initializePkcs11Session := (rv, w.value) } out
        pcPubKeyLabel := by
  unfold xPkcs11ReadPublicKey Crypto.xPkcs11ReadPublicKey
  cases pcPubKeyLabel with
  | none => rfl
  | some label =>
    by_cases harg : label = [] ∨ pkcs11configMaxLabelLength < label.length
    · simp [harg]
    · by_cases hlist : xPrvCkRvToPkiStatus c.getFunctionList = .success
      · simp only [harg, hlist, inSession_result hx, ne_eq, not_true, if_false]
        by_cases hrv : xPrvCkRvToPkiStatus rv = .success
        · simp only [hrv, SessionVar.use, if_true]
          rfl
        · simp [hrv]
      · simp [harg, hlist]

end Results

end Crypto.Sessions
