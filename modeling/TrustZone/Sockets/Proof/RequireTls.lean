import TrustZone.Sockets.SecureSockets

/-!
# A socket that requires TLS sends through TLS only

* `Guarded`: in a list of events, bytes are given to the TLS library only while its context has a
  successful handshake (`established`) behind it.
* `negotiate_guarded`, `readLoop_guarded`, `writeLoop_guarded`, `step_guarded`: so do the calls,
  as long as a context that claims success is established (`Good`).
* `step_useTls`: the requirement is never taken back, and no call then sends plain bytes.
* `Dead`, `step_dead`: a context that failed stays failed, and transfers on it are errors.
* `require_tls`: the three over every run of a socket.
-/

namespace Sockets

open Lib Machine

/-! ## Events -/

/-- Whether the TLS context has a successful handshake behind it after an event. -/
def Event.establishes (b : Bool) : Event → Bool
  | .tlsInit _ => false
  | .sslHandshake xResult => b || xResult == 0
  | .sslFree => false
  | _ => b

/-- Whether the TLS context has a successful handshake behind it after these events. -/
def established (b : Bool) (evs : List Event) : Bool := evs.foldl Event.establishes b

/-- Bytes are given to the TLS library only while a handshake is behind it. -/
def Guarded : Bool → List Event → Prop
  | _, [] => True
  | b, e :: es => (∀ d, e = .sslWrite d → b = true) ∧ Guarded (e.establishes b) es

theorem established_append (b : Bool) (xs ys : List Event) :
    established b (xs ++ ys) = established (established b xs) ys :=
  List.foldl_append

theorem Guarded.append {b : Bool} {xs ys : List Event} (h : Guarded b xs)
    (h' : Guarded (established b xs) ys) : Guarded b (xs ++ ys) := by
  induction xs generalizing b with
  | nil => exact h'
  | cons e es ih => exact ⟨h.1, ih h.2 h'⟩

/-- What is written is written after a handshake. -/
theorem Guarded.established {b : Bool} {pre post : List Event} {d : List UInt8}
    (h : Guarded b (pre ++ .sslWrite d :: post)) : established b pre = true := by
  induction pre generalizing b with
  | nil => exact h.1 d rfl
  | cons e es ih => exact ih h.2

/-- The records that the TLS library sends change nothing. -/
theorem established_records (b : Bool) (rs : List (List UInt8)) :
    established b (rs.map .bioSend) = b := by
  induction rs with
  | nil => rfl
  | cons r rs ih => exact ih

theorem guarded_records (b : Bool) (rs : List (List UInt8)) : Guarded b (rs.map .bioSend) := by
  induction rs with
  | nil => trivial
  | cons r rs ih => exact ⟨fun _ h => Event.noConfusion h, ih⟩

theorem established_events (b : Bool) (a : SslAns) (call : Event) :
    established b (a.events call) = call.establishes b :=
  established_records _ _

theorem guarded_events {b : Bool} {a : SslAns} {call : Event}
    (h : ∀ d, call = .sslWrite d → b = true) : Guarded b (a.events call) :=
  ⟨h, guarded_records _ _⟩

/-- An event inside the TLS layer. -/
def Event.inner : Event → Bool
  | .socketSend _ | .socketRecv | .tlsInit _ | .tlsConnect _ => false
  | _ => true

/-- Nothing among the events but what the TLS layer does. -/
def Inner (evs : List Event) : Prop := ∀ e ∈ evs, e.inner = true

theorem Inner.append {xs ys : List Event} (h : Inner xs) (h' : Inner ys) : Inner (xs ++ ys) := by
  intro e he
  rcases List.mem_append.1 he with he | he
  · exact h e he
  · exact h' e he

theorem inner_records (rs : List (List UInt8)) : Inner (rs.map .bioSend) := by
  intro e he
  obtain ⟨r, -, rfl⟩ := List.mem_map.1 he
  rfl

theorem inner_events {a : SslAns} {call : Event} (h : call.inner = true) :
    Inner (a.events call) := by
  intro e he
  rcases List.mem_cons.1 he with rfl | he
  · exact h
  · exact inner_records _ e he

/-! ## The TLS layer -/

/-- A context that claims success is established. -/
def Vouched (b : Bool) (ctx : TLSContext) : Prop :=
  ctx.xTLSHandshakeState = .successful → b = true

/-- What a part of the TLS layer does to a context: its events are guarded, and the context is
vouched for afterwards. -/
structure Kept (b : Bool) (evs : List Event) (ctx : TLSContext) : Prop where
  guarded : Guarded b evs
  inner : Inner evs
  vouched : Vouched (established b evs) ctx

/-- Events of the TLS library before others. -/
theorem Kept.after {b : Bool} {a : SslAns} {call : Event} {evs : List Event} {ctx : TLSContext}
    (hw : ∀ d, call = .sslWrite d → b = true) (hi : call.inner = true)
    (h : Kept (call.establishes b) evs ctx) : Kept b (a.events call ++ evs) ctx where
  guarded := (guarded_events hw).append (by rw [established_events]; exact h.guarded)
  inner := (inner_events hi).append h.inner
  vouched := by rw [established_append, established_events]; exact h.vouched

/-- A call of the TLS library that leaves the context alone. -/
theorem Kept.one {b : Bool} {a : SslAns} {call : Event} {ctx : TLSContext}
    (hw : ∀ d, call = .sslWrite d → b = true) (hi : call.inner = true)
    (hv : Vouched (call.establishes b) ctx) : Kept b (a.events call) ctx where
  guarded := guarded_events hw
  inner := inner_events hi
  vouched := by rw [established_events]; exact hv

theorem prvFreeContext_kept (b : Bool) (ctx : TLSContext) (cn : List (List UInt8)) :
    Kept b (prvFreeContext ctx cn).2 (prvFreeContext ctx cn).1 := by
  refine ⟨(guarded_records b cn).append ⟨fun _ h => Event.noConfusion h, ?_⟩, ?_, ?_⟩
  · split
    · exact ⟨fun _ h => Event.noConfusion h, trivial⟩
    · trivial
  · apply (inner_records cn).append
    intro e he
    rcases List.mem_cons.1 he with rfl | he
    · rfl
    · split at he
      · rw [List.mem_singleton.1 he]; rfl
      · cases he
  · intro hs
    cases hs

theorem negotiate_kept {as : List SslAns} {b : Bool} {ctx ctx' : TLSContext}
    {cn : List (List UInt8)} {r : Int} {evs : List Event}
    (hctx : ctx.xTLSHandshakeState ≠ .successful)
    (h : negotiate ctx cn as = some (ctx', r, evs)) :
    Kept b evs ctx' ∧ (r = 0 → established b evs = true) ∧
      ctx'.xTLSHandshakeState ≠ .successful := by
  induction as generalizing b r evs with
  | nil => cases h
  | cons a as ih =>
    rw [negotiate] at h
    split at h
    · rename_i ha
      simp only [Option.some.injEq, Prod.mk.injEq] at h
      obtain ⟨rfl, rfl, rfl⟩ := h
      refine ⟨.one (fun _ h => Event.noConfusion h) rfl fun hs => absurd hs hctx, fun _ => ?_, hctx⟩
      rw [established_events, Event.establishes, ha]
      simp
    · rename_i ha
      split at h
      · simp only [Option.some.injEq, Prod.mk.injEq] at h
        obtain ⟨rfl, rfl, rfl⟩ := h
        exact ⟨.after (fun _ h => Event.noConfusion h) rfl (prvFreeContext_kept _ _ _),
          fun h0 => absurd h0 ha, nofun⟩
      · split at h
        · cases h
        · rename_i hn
          simp only [Option.some.injEq, Prod.mk.injEq] at h
          obtain ⟨rfl, rfl, rfl⟩ := h
          obtain ⟨hk, he, hs⟩ := ih (b := Event.establishes b (.sslHandshake a.rc)) hn
          refine ⟨.after (fun _ h => Event.noConfusion h) rfl hk, fun h0 => ?_, hs⟩
          rw [established_append, established_events]
          exact he h0

theorem prvInitializeClientCredential_state {ctx : TLSContext}
    (hctx : ctx.xTLSHandshakeState ≠ .successful) (p : Prop) [Decidable p] :
    (if p then prvInitializeClientCredential ctx else ctx).xTLSHandshakeState ≠ .successful := by
  split
  · rw [prvInitializeClientCredential]
    split
    · exact hctx
    · exact HandshakeState.noConfusion
  · exact hctx

/-- A fresh context is connected with a successful handshake, or is not marked successful. -/
theorem TLS_Connect_kept {b : Bool} {ctx ctx' : TLSContext} {a : ConnectAns} {r : Int}
    {evs : List Event} (hctx : ctx.xTLSHandshakeState ≠ .successful)
    (h : TLS_Connect ctx a = some (ctx', r, evs)) :
    Kept b evs ctx' ∧ (r ≠ 0 → ctx'.xTLSHandshakeState ≠ .successful) := by
  -- the stages before the handshake decide a result and may mark the handshake started
  have hstages : ∃ ctx₁ x ctx₂ y evs₂, ctx₁.xTLSHandshakeState ≠ .successful ∧
      (if x = 0 then negotiate ctx₁ a.closeNotify a.handshake else some (ctx₁, x, [])) =
        some (ctx₂, y, evs₂) ∧
      (if y = 0 then some ({ ctx₂ with xTLSHandshakeState := .successful }, 0, evs₂)
        else if 0 < y then some (ctx₂, TLS_ERROR_HANDSHAKE_FAILED, evs₂)
        else some (ctx₂, y, evs₂)) = some (ctx', r, evs) := by
    unfold TLS_Connect at h
    extract_lets x₀ x₁ ctx₁ x₂ x₃ negotiated at h
    rcases hn : negotiated with - | ⟨ctx₂, y, evs₂⟩
    · rw [hn] at h
      cases h
    · rw [hn] at h
      exact ⟨ctx₁, x₃, ctx₂, y, evs₂, prvInitializeClientCredential_state hctx _, hn, h⟩
  obtain ⟨ctx₁, x, ctx₂, y, evs₂, hctx₁, hn, h⟩ := hstages
  have hneg : ∀ {ctx₂ : TLSContext} {y : Int} {evs₂ : List Event},
      (if x = 0 then negotiate ctx₁ a.closeNotify a.handshake else some (ctx₁, x, [])) =
        some (ctx₂, y, evs₂) →
      Kept b evs₂ ctx₂ ∧ (y = 0 → established b evs₂ = true) ∧
        ctx₂.xTLSHandshakeState ≠ .successful := by
    intro ctx₂ y evs₂ h
    split at h
    · exact negotiate_kept hctx₁ h
    · rename_i hx
      simp only [Option.some.injEq, Prod.mk.injEq] at h
      obtain ⟨rfl, rfl, rfl⟩ := h
      exact ⟨⟨trivial, nofun, fun hs => absurd hs hctx₁⟩, fun h0 => absurd h0 hx, hctx₁⟩
  obtain ⟨hk, he, hs⟩ := hneg hn
  split at h
  · rename_i hy
    simp only [Option.some.injEq, Prod.mk.injEq] at h
    obtain ⟨rfl, rfl, rfl⟩ := h
    exact ⟨⟨hk.guarded, hk.inner, fun _ => he hy⟩, fun h0 => absurd rfl h0⟩
  · split at h
    · simp only [Option.some.injEq, Prod.mk.injEq] at h
      obtain ⟨rfl, rfl, rfl⟩ := h
      exact ⟨hk, fun _ => hs⟩
    · simp only [Option.some.injEq, Prod.mk.injEq] at h
      obtain ⟨rfl, rfl, rfl⟩ := h
      exact ⟨hk, fun _ => hs⟩

theorem TLS_Init_context {d c : Option (List UInt8)} {a : InitAns} {ctx : TLSContext}
    (h : (TLS_Init none d c a).1 = some ctx) : ctx.xTLSHandshakeState = .notStarted := by
  unfold TLS_Init at h
  split at h
  · simp only [Option.some.injEq] at h
    subst h
    split <;> rfl
  · cases h

/-- What a transfer does to the context of a socket. -/
def Transfer.Kept (b : Bool) (t : Transfer) : Prop :=
  Guarded b t.events ∧ Inner t.events ∧
    ∀ ctx, t.pxCtx = some ctx → Vouched (established b t.events) ctx

theorem Kept.transfer {b : Bool} {evs : List Event} {ctx : TLSContext} {r : Int}
    {data : List UInt8} (h : Kept b evs ctx) : Transfer.Kept b ⟨some ctx, r, data, evs⟩ :=
  ⟨h.guarded, h.inner, fun _ hc => Option.some.inj hc ▸ h.vouched⟩

theorem Transfer.Kept.after {b : Bool} {a : SslAns} {call : Event} {t : Transfer}
    (hw : ∀ d, call = .sslWrite d → b = true) (hi : call.inner = true)
    (hc : call.establishes b = b) (h : t.Kept b) :
    Transfer.Kept b { t with events := a.events call ++ t.events } := by
  refine ⟨(guarded_events hw).append ?_, (inner_events hi).append h.2.1, fun ctx hctx => ?_⟩
  · rw [established_events, hc]; exact h.1
  · rw [established_append, established_events, hc]; exact h.2.2 ctx hctx

theorem readLoop_kept {as : List SslAns} {b : Bool} {ctx : TLSContext} {cn : List (List UInt8)}
    {t : Transfer} (hv : Vouched b ctx) (h : readLoop ctx cn as = some t) : t.Kept b := by
  induction as generalizing t with
  | nil => cases h
  | cons a as ih =>
    have hw : ∀ d, Event.sslRead = .sslWrite d → b = true := fun _ h => Event.noConfusion h
    rw [readLoop] at h
    split at h
    · split at h
      · cases h
      · rename_i t' ht
        obtain rfl := Option.some.inj h
        exact (ih ht).after hw rfl rfl
    · split at h
      · obtain rfl := Option.some.inj h
        exact (Kept.one hw rfl hv).transfer
      · obtain rfl := Option.some.inj h
        exact (Kept.after hw rfl (prvFreeContext_kept b ctx cn)).transfer

theorem TLS_Recv_kept {b : Bool} {pxCtx : Option TLSContext} {as : List SslAns}
    {cn : List (List UInt8)} {t : Transfer} (hv : ∀ ctx, pxCtx = some ctx → Vouched b ctx)
    (h : TLS_Recv pxCtx as cn = some t) : t.Kept b := by
  cases pxCtx with
  | none =>
    obtain rfl := Option.some.inj h
    exact ⟨trivial, nofun, nofun⟩
  | some ctx =>
    simp only [TLS_Recv] at h
    split at h
    · exact readLoop_kept (hv ctx rfl) h
    · obtain rfl := Option.some.inj h
      exact (prvFreeContext_kept b ctx cn).transfer

theorem writeLoop_kept {as : List SslAns} {ctx : TLSContext} {msg : List UInt8}
    {cn : List (List UInt8)} {w : Nat} {r : Int} {t : Transfer}
    (h : writeLoop ctx msg cn w r as = some t) : t.Kept true := by
  have hdone : ∀ r, Transfer.Kept true ⟨some ctx, r, [], []⟩ := fun _ =>
    ⟨trivial, nofun, fun _ _ _ => rfl⟩
  induction as generalizing w r t with
  | nil =>
    rw [writeLoop] at h
    split at h
    · cases h
    · obtain rfl := Option.some.inj h
      exact hdone _
  | cons a as ih =>
    have hw : ∀ d, Event.sslWrite (msg.drop w) = .sslWrite d → true = true := fun _ _ => rfl
    rw [writeLoop] at h
    split at h
    · dsimp only at h
      split at h
      · split at h
        · cases h
        · rename_i t' ht
          obtain rfl := Option.some.inj h
          exact (ih ht).after hw rfl rfl
      · split at h
        · obtain rfl := Option.some.inj h
          exact (Kept.one hw rfl fun _ => rfl).transfer
        · split at h
          · obtain rfl := Option.some.inj h
            exact (Kept.after hw rfl (prvFreeContext_kept true ctx cn)).transfer
          · split at h
            · cases h
            · rename_i t' ht
              obtain rfl := Option.some.inj h
              exact (ih ht).after hw rfl rfl
    · obtain rfl := Option.some.inj h
      exact hdone _

theorem TLS_Send_kept {b : Bool} {pxCtx : Option TLSContext} {msg : List UInt8}
    {as : List SslAns} {cn : List (List UInt8)} {t : Transfer}
    (hv : ∀ ctx, pxCtx = some ctx → Vouched b ctx) (h : TLS_Send pxCtx msg as cn = some t) :
    t.Kept b := by
  cases pxCtx with
  | none =>
    obtain rfl := Option.some.inj h
    exact ⟨trivial, nofun, nofun⟩
  | some ctx =>
    simp only [TLS_Send] at h
    split at h
    · rename_i hs
      obtain rfl : b = true := hv ctx rfl hs
      exact writeLoop_kept h
    · rename_i hs
      obtain rfl := Option.some.inj h
      exact ⟨trivial, nofun, fun ctx' hc h' => absurd (Option.some.inj hc ▸ h') hs⟩

/-! ## One call -/

/-- A socket of a run: a TLS context is there only after connecting, and is vouched for. -/
structure Good (b : Bool) (s : Socket) : Prop where
  connected : s.TLS_context ≠ none → s.flags.connected = true
  vouched : ∀ ctx, s.TLS_context = some ctx → Vouched b ctx

/-- A socket whose TLS setup failed. -/
structure Dead (s : Socket) : Prop where
  connected : s.flags.connected = true
  useTls : s.flags.useTls = true
  failed : ∀ ctx, s.TLS_context = some ctx → ctx.xTLSHandshakeState ≠ .successful

/-- Among the events `TLS_Init` or `TLS_Connect` failed. -/
def SetupFailed (evs : List Event) : Prop :=
  ∃ r, r ≠ 0 ∧ (.tlsInit r ∈ evs ∨ .tlsConnect r ∈ evs)

theorem Inner.not_setupFailed {evs : List Event} (h : Inner evs) : ¬SetupFailed evs := by
  rintro ⟨r, -, hr | hr⟩
  · exact Bool.noConfusion (h _ hr)
  · exact Bool.noConfusion (h _ hr)

/-- What a call does: its events are guarded, the socket stays good, a requirement of TLS stays
and keeps plain bytes back, and a failed setup leaves a dead socket. -/
structure StepOk (b : Bool) (s s' : Socket) (evs : List Event) : Prop where
  guarded : Guarded b evs
  good : Good (established b evs) s'
  useTls : s.flags.useTls = true → s'.flags.useTls = true ∧ ∀ d, Event.socketSend d ∉ evs
  dead : SetupFailed evs → Dead s'

theorem not_setupFailed_nil : ¬SetupFailed [] := Inner.not_setupFailed nofun

/-- A call that leaves the TLS context alone and does nothing below. -/
theorem StepOk.silent {b : Bool} {s s' : Socket} (hg : Good b s)
    (hctx : s'.TLS_context = s.TLS_context)
    (hc : s.flags.connected = true → s'.flags.connected = true)
    (ht : s.flags.useTls = true → s'.flags.useTls = true) : StepOk b s s' [] where
  guarded := trivial
  good := ⟨fun h => hc (hg.connected (hctx ▸ h)), fun ctx h => hg.vouched ctx (hctx ▸ h)⟩
  useTls := fun h => ⟨ht h, nofun⟩
  dead := fun h => absurd h not_setupFailed_nil

/-- A transfer in the TLS layer. -/
theorem StepOk.transfer {b : Bool} {s : Socket} {t : Transfer} (hg : Good b s)
    (ht : t.Kept b) (hnone : s.TLS_context = none → t.pxCtx = none) :
    StepOk b s { s with TLS_context := t.pxCtx } t.events where
  guarded := ht.1
  good := ⟨fun h => hg.connected fun h0 => h (hnone h0), ht.2.2⟩
  useTls := fun h => ⟨h, fun _ hd => Bool.noConfusion (ht.2.1 _ hd)⟩
  dead := fun h => absurd h ht.2.1.not_setupFailed

/-- A transfer of the socket itself, which TLS does not ask for. -/
theorem StepOk.plain {b : Bool} {s : Socket} {e : Event} (hg : Good b s)
    (hplain : s.flags.useTls = false) (he : ∀ c, e.establishes c = c)
    (hw : ∀ d, e ≠ .sslWrite d) (hi : ∀ r, e ≠ .tlsInit r) (hc : ∀ r, e ≠ .tlsConnect r) :
    StepOk b s s [e] where
  guarded := ⟨fun d h => absurd h (hw d), trivial⟩
  good := by
    show Good (e.establishes b) s
    rw [he]
    exact hg
  useTls := fun h => absurd (hplain.symm.trans h) Bool.noConfusion
  dead := by
    rintro ⟨r, -, hr | hr⟩
    · exact absurd (List.mem_singleton.1 hr).symm (hi r)
    · exact absurd (List.mem_singleton.1 hr).symm (hc r)

theorem step_setSockOpt (s : Socket) (name : Int) (value : List UInt8) (a : SetOptAns) :
    step s (.setSockOpt name value a) = some ((SOCKETS_SetSockOpt s name value a).1,
      ⟨(SOCKETS_SetSockOpt s name value a).2, [], []⟩) := rfl

theorem step_shutdown (s : Socket) (how : Nat) : step s (.shutdown how) =
    some ((SOCKETS_Shutdown s how).1, ⟨(SOCKETS_Shutdown s how).2, [], []⟩) := rfl

theorem setSockOpt_ok {b : Bool} {s : Socket} (hg : Good b s) (name : Int) (value : List UInt8)
    (a : SetOptAns) : StepOk b s (SOCKETS_SetSockOpt s name value a).1 [] := by
  unfold SOCKETS_SetSockOpt
  repeat' split
  all_goals exact .silent hg rfl (fun h => h) (fun h => by first | exact h | rfl)

theorem shutdown_ok {b : Bool} {s : Socket} (hg : Good b s) (how : Nat) :
    StepOk b s (SOCKETS_Shutdown s how).1 [] := by
  unfold SOCKETS_Shutdown
  repeat' split
  all_goals exact .silent hg rfl (fun h => h) (fun h => h)

theorem connectTls_ok {b : Bool} {s s' : Socket} {a : ConnectCallAns} {o : Reply}
    (hctx : s.TLS_context = none) (hc : s.flags.connected = true)
    (ht : s.flags.useTls = true) (h : connectTls s a = some (s', o)) : StepOk b s s' o.events := by
  unfold connectTls at h
  rw [hctx] at h
  have hinit : ∀ ctx, (TLS_Init none s.destination s.server_cert a.init).1 = some ctx →
      ctx.xTLSHandshakeState ≠ .successful := by
    intro ctx hi
    rw [TLS_Init_context hi]
    exact HandshakeState.noConfusion
  generalize TLS_Init none s.destination s.server_cert a.init = i at h hinit
  obtain ⟨pxCtx, r⟩ := i
  dsimp only at h hinit
  split at h
  · rename_i hr0
    split at h
    · cases h
    · rename_i _ ctx
      split at h
      · cases h
      · rename_i ctx' r' evs hconn
        obtain ⟨hk, hfail⟩ := TLS_Connect_kept (b := false) (hinit ctx rfl) hconn
        simp only [Option.some.injEq, Prod.mk.injEq] at h
        obtain ⟨rfl, rfl⟩ := h
        have hest : established b (.tlsInit r :: evs ++ [.tlsConnect r']) =
            established false evs := established_append false evs [.tlsConnect r']
        refine ⟨⟨fun _ h => Event.noConfusion h, hk.guarded.append
          ⟨fun _ h => Event.noConfusion h, trivial⟩⟩, ⟨fun _ => hc, fun c hc' => ?_⟩,
          fun _ => ⟨ht, fun d hd => ?_⟩, fun hf => ⟨hc, ht, fun c hc' => ?_⟩⟩
        · rw [hest]
          obtain rfl := Option.some.inj hc'
          exact hk.vouched
        · simp only [List.cons_append, List.mem_cons, List.mem_append, List.not_mem_nil, or_false,
            reduceCtorEq, false_or] at hd
          exact Bool.noConfusion (hk.inner _ hd)
        · obtain rfl := Option.some.inj hc'
          obtain ⟨q, hq, hf⟩ := hf
          simp only [List.cons_append, List.mem_cons, List.mem_append, List.not_mem_nil, or_false,
            reduceCtorEq, false_or, Event.tlsInit.injEq, Event.tlsConnect.injEq] at hf
          rcases hf with (rfl | hf) | (hf | rfl)
          · exact absurd hr0 hq
          · exact Bool.noConfusion (hk.inner _ hf)
          · exact Bool.noConfusion (hk.inner _ hf)
          · exact hfail hq
  · simp only [Option.some.injEq, Prod.mk.injEq] at h
    obtain ⟨rfl, rfl⟩ := h
    refine ⟨⟨fun _ h => Event.noConfusion h, trivial⟩, ⟨fun _ => hc, fun c hc' hs => ?_⟩,
      fun _ => ⟨ht, fun d hd => ?_⟩, fun _ => ⟨hc, ht, hinit⟩⟩
    · exact absurd hs (hinit c hc')
    · simp at hd

theorem connect_ok {b : Bool} {s s' : Socket} {a : ConnectCallAns} {o : Reply} (hg : Good b s)
    (h : SOCKETS_Connect s a = some (s', o)) : StepOk b s s' o.events := by
  unfold SOCKETS_Connect at h
  by_cases hc : s.flags.connected = false
  · have hctx : s.TLS_context = none := by
      by_contra hne
      exact Bool.noConfusion (hc.symm.trans (hg.connected hne))
    by_cases hrc : a.iotSocketConnect = 0
    · simp only [hc, hrc, if_true, true_and] at h
      split at h
      · rename_i ht
        have hok : StepOk b { s with flags := { s.flags with connected := true } } s' o.events :=
          connectTls_ok hctx rfl ht h
        exact ⟨hok.guarded, hok.good, hok.useTls, hok.dead⟩
      · obtain ⟨rfl, rfl⟩ := Prod.mk.inj (Option.some.inj h)
        exact .silent hg rfl (fun _ => rfl) (fun h => h)
    · simp only [hc, hrc, if_true, if_false] at h
      split at h
      · -- no code of a failed connection is `SOCKETS_ERROR_NONE`
        rename_i hnone
        refine absurd hnone.1 ?_
        unfold connectError
        repeat' split
        all_goals first | exact hrc | decide
      · obtain ⟨rfl, rfl⟩ := Prod.mk.inj (Option.some.inj h)
        exact .silent hg rfl (fun h => h) (fun h => h)
  · rw [if_neg hc] at h
    have hne : ¬(SOCKETS_SOCKET_ERROR = SOCKETS_ERROR_NONE ∧ s.flags.useTls = true) :=
      fun h => absurd h.1 (by decide)
    dsimp only at h
    rw [if_neg hne] at h
    obtain ⟨rfl, rfl⟩ := Prod.mk.inj (Option.some.inj h)
    exact .silent hg rfl (fun h => h) (fun h => h)

theorem TLS_Send_none {pxCtx : Option TLSContext} {msg : List UInt8} {as : List SslAns}
    {cn : List (List UInt8)} {t : Transfer} (h : TLS_Send pxCtx msg as cn = some t)
    (hnone : pxCtx = none) : t.pxCtx = none := by
  subst hnone
  obtain rfl := Option.some.inj h
  rfl

theorem TLS_Recv_none {pxCtx : Option TLSContext} {as : List SslAns} {cn : List (List UInt8)}
    {t : Transfer} (h : TLS_Recv pxCtx as cn = some t) (hnone : pxCtx = none) :
    t.pxCtx = none := by
  subst hnone
  obtain rfl := Option.some.inj h
  rfl

theorem send_ok {b : Bool} {s s' : Socket} {msg : List UInt8} {a : TransferAns} {o : Reply}
    (hg : Good b s) (h : SOCKETS_Send s msg a = some (s', o)) : StepOk b s s' o.events := by
  unfold SOCKETS_Send at h
  split at h
  · split at h
    · rename_i hplain
      obtain ⟨rfl, rfl⟩ := Prod.mk.inj (Option.some.inj h)
      exact .plain hg hplain (fun _ => rfl) nofun nofun nofun
    · split at h
      · cases h
      · rename_i t ht
        obtain ⟨rfl, rfl⟩ := Prod.mk.inj (Option.some.inj h)
        exact .transfer hg (TLS_Send_kept hg.vouched ht) (TLS_Send_none ht)
  · obtain ⟨rfl, rfl⟩ := Prod.mk.inj (Option.some.inj h)
    exact .silent hg rfl (fun h => h) (fun h => h)

theorem recv_ok {b : Bool} {s s' : Socket} {n : Nat} {a : TransferAns} {o : Reply}
    (hg : Good b s) (h : SOCKETS_Recv s n a = some (s', o)) : StepOk b s s' o.events := by
  unfold SOCKETS_Recv at h
  split at h
  · split at h
    · rename_i hplain
      obtain ⟨rfl, rfl⟩ := Prod.mk.inj (Option.some.inj h)
      exact .plain hg hplain (fun _ => rfl) nofun nofun nofun
    · split at h
      · cases h
      · rename_i t ht
        obtain ⟨rfl, rfl⟩ := Prod.mk.inj (Option.some.inj h)
        exact .transfer hg (TLS_Recv_kept hg.vouched ht) (TLS_Recv_none ht)
  · obtain ⟨rfl, rfl⟩ := Prod.mk.inj (Option.some.inj h)
    exact .silent hg rfl (fun h => h) (fun h => h)

theorem step_ok {b : Bool} {s s' : Socket} {c : Call} {o : Reply} (hg : Good b s)
    (h : step s c = some (s', o)) : StepOk b s s' o.events := by
  cases c with
  | setSockOpt name value a =>
    rw [step_setSockOpt, Option.some.injEq, Prod.mk.injEq] at h
    obtain ⟨rfl, rfl⟩ := h
    exact setSockOpt_ok hg name value a
  | connect a => exact connect_ok hg h
  | send pvBuffer a => exact send_ok hg h
  | recv xBufferLength a => exact recv_ok hg h
  | shutdown ulHow =>
    rw [step_shutdown, Option.some.injEq, Prod.mk.injEq] at h
    obtain ⟨rfl, rfl⟩ := h
    exact shutdown_ok hg ulHow

/-! ## A dead socket -/

/-- A transfer that moves no bytes of the application: an error, nothing received, and neither
the TLS library nor the socket below is asked to send or receive. -/
structure Refused (o : Reply) : Prop where
  error : o.rc < 0
  received : o.data = []
  noSend : ∀ d, Event.socketSend d ∉ o.events
  noWrite : ∀ d, Event.sslWrite d ∉ o.events
  noRecv : Event.socketRecv ∉ o.events
  noRead : Event.sslRead ∉ o.events

/-- What a call does to a dead socket. -/
def DeadStep (c : Call) (o : Reply) : Prop :=
  match c with
  | .send _ _ => Refused o
  | .recv _ _ => Refused o
  | _ => True

theorem Refused.closed : Refused ⟨SOCKETS_ECLOSED, [], []⟩ :=
  ⟨by decide, rfl, nofun, nofun, nofun, nofun⟩

theorem Refused.invalidated (pxCtx : Option TLSContext) (cn : List (List UInt8)) {rc : Int}
    (hrc : rc < 0) : Refused ⟨rc, [], (invalidate pxCtx cn rc []).events⟩ := by
  cases pxCtx with
  | none => exact ⟨hrc, rfl, nofun, nofun, nofun, nofun⟩
  | some ctx => constructor <;> simp [invalidate, prvFreeContext, hrc]

theorem step_dead {s s' : Socket} {c : Call} {o : Reply} (hd : Dead s)
    (h : step s c = some (s', o)) : Dead s' ∧ DeadStep c o := by
  obtain ⟨hc, ht, hf⟩ := hd
  cases c with
  | setSockOpt name value a =>
    rw [step_setSockOpt, Option.some.injEq, Prod.mk.injEq] at h
    obtain ⟨rfl, rfl⟩ := h
    refine ⟨?_, trivial⟩
    unfold SOCKETS_SetSockOpt
    simp only [hc, Bool.true_eq_false, if_false]
    repeat' split
    all_goals exact ⟨hc, ht, hf⟩
  | connect a =>
    simp only [step, SOCKETS_Connect, hc, Bool.true_eq_false, if_false] at h
    rw [if_neg fun h => absurd h.1 (by decide)] at h
    obtain ⟨rfl, rfl⟩ := Prod.mk.inj (Option.some.inj h)
    exact ⟨⟨hc, ht, hf⟩, trivial⟩
  | send pvBuffer a =>
    simp only [step, SOCKETS_Send, ht, Bool.true_eq_false, if_false] at h
    split at h
    · -- the context is missing or not successful, so nothing is written
      have hsend : TLS_Send s.TLS_context pvBuffer a.ssl a.closeNotify =
          some ⟨s.TLS_context, MBEDTLS_ERR_SSL_INTERNAL_ERROR, [], []⟩ := by
        cases hctx : s.TLS_context with
        | none => rfl
        | some ctx => simp only [TLS_Send, if_neg (hf ctx hctx)]
      rw [hsend] at h
      obtain ⟨rfl, rfl⟩ := Prod.mk.inj (Option.some.inj h)
      exact ⟨⟨hc, ht, hf⟩, (by decide : SOCKETS_TLS_SEND_ERROR < 0), rfl, nofun, nofun, nofun,
        nofun⟩
    · obtain ⟨rfl, rfl⟩ := Prod.mk.inj (Option.some.inj h)
      exact ⟨⟨hc, ht, hf⟩, .closed⟩
  | recv n a =>
    simp only [step, SOCKETS_Recv, ht, Bool.true_eq_false, if_false] at h
    split at h
    · have hrecv : TLS_Recv s.TLS_context a.ssl a.closeNotify =
          some (invalidate s.TLS_context a.closeNotify MBEDTLS_ERR_SSL_INTERNAL_ERROR []) := by
        cases hctx : s.TLS_context with
        | none => rfl
        | some ctx => simp only [TLS_Recv, if_neg (hf ctx hctx)]
      rw [hrecv] at h
      obtain ⟨rfl, rfl⟩ := Prod.mk.inj (Option.some.inj h)
      have href := Refused.invalidated s.TLS_context a.closeNotify
        (show MBEDTLS_ERR_SSL_INTERNAL_ERROR < 0 by decide)
      refine ⟨⟨hc, ht, fun ctx hctx => ?_⟩, ?_⟩
      · cases hs : s.TLS_context with
        | none => rw [hs] at hctx; cases hctx
        | some c =>
          rw [hs] at hctx
          obtain rfl := Option.some.inj hctx
          exact HandshakeState.noConfusion
      · cases hs : s.TLS_context with
        | none =>
          exact ⟨(by decide : SOCKETS_TLS_RECV_ERROR < 0), List.take_nil, nofun, nofun, nofun, nofun⟩
        | some c =>
          rw [hs] at href
          exact ⟨(by decide : SOCKETS_TLS_RECV_ERROR < 0), List.take_nil, href.noSend, href.noWrite, href.noRecv, href.noRead⟩
    · obtain ⟨rfl, rfl⟩ := Prod.mk.inj (Option.some.inj h)
      exact ⟨⟨hc, ht, hf⟩, .closed⟩
  | shutdown how =>
    rw [step_shutdown, Option.some.injEq, Prod.mk.injEq] at h
    obtain ⟨rfl, rfl⟩ := h
    refine ⟨?_, trivial⟩
    unfold SOCKETS_Shutdown
    repeat' split
    all_goals exact ⟨hc, ht, hf⟩

/-! ## Runs -/

/-- Everything that the calls of a run did below, in order. -/
def eventsOf (tr : List (Entry Socket Call Reply)) : List Event := tr.flatMap fun e => e.out.events

theorem exec_good {id : Int} {tr : List (Entry Socket Call Reply)} {s : Socket}
    (h : Exec socket (Socket.new id) tr s) :
    Guarded false (eventsOf tr) ∧ Good (established false (eventsOf tr)) s := by
  refine h.hist (I := fun tr s => Guarded false (eventsOf tr) ∧
    Good (established false (eventsOf tr)) s) ?_ ⟨trivial, ⟨fun h => absurd rfl h, nofun⟩⟩
  intro tr s c s' o hI hs
  have hok := step_ok hI.2 hs
  have hev : eventsOf (tr ++ [⟨s, c, o, s'⟩]) = eventsOf tr ++ o.events := by simp [eventsOf]
  rw [hev, established_append]
  exact ⟨hI.1.append hok.guarded, hok.good⟩

theorem exec_useTls {s₀ s : Socket} {b : Bool} {tr : List (Entry Socket Call Reply)}
    (h : Exec socket s₀ tr s) (hg : Good b s₀) (ht : s₀.flags.useTls = true) :
    ∀ e ∈ tr, ∀ d, Event.socketSend d ∉ e.out.events := by
  refine (h.hist (I := fun tr s => (∃ b, Good b s) ∧ s.flags.useTls = true ∧
    ∀ e ∈ tr, ∀ d, Event.socketSend d ∉ e.out.events) ?_
    ⟨⟨b, hg⟩, ht, fun e he => absurd he List.not_mem_nil⟩).2.2
  intro tr s c s' o hI hs
  obtain ⟨⟨b, hgood⟩, hrequired, htr⟩ := hI
  have hok := step_ok hgood hs
  obtain ⟨hstill, hno⟩ := hok.useTls hrequired
  refine ⟨⟨_, hok.good⟩, hstill, fun e he => ?_⟩
  rcases List.mem_append.1 he with he | he
  · exact htr e he
  · rw [List.mem_singleton.1 he]
    exact hno

theorem exec_dead {s₀ s : Socket} {tr : List (Entry Socket Call Reply)}
    (h : Exec socket s₀ tr s) (hd : Dead s₀) : ∀ e ∈ tr, DeadStep e.inp e.out := by
  refine (h.hist (I := fun tr s => Dead s ∧ ∀ e ∈ tr, DeadStep e.inp e.out) ?_
    ⟨hd, fun e he => absurd he List.not_mem_nil⟩).2
  intro tr s c s' o hI hs
  obtain ⟨hdead, hstep⟩ := step_dead hI.1 hs
  refine ⟨hdead, fun e he => ?_⟩
  rcases List.mem_append.1 he with he | he
  · exact hI.2 e he
  · rw [List.mem_singleton.1 he]
    exact hstep

/-- The call required TLS and was granted it. -/
def RequiresTls (e : Entry Socket Call Reply) : Prop :=
  (∃ value a, e.inp = .setSockOpt SOCKETS_SO_REQUIRE_TLS value a) ∧
    e.out.rc = SOCKETS_ERROR_NONE

theorem RequiresTls.useTls {e : Entry Socket Call Reply} (h : RequiresTls e)
    (hs : step e.pre e.inp = some (e.post, e.out)) : e.post.flags.useTls = true := by
  obtain ⟨⟨value, a, hinp⟩, hrc⟩ := h
  rw [hinp, step_setSockOpt, Option.some.injEq, Prod.mk.injEq] at hs
  obtain ⟨hpost, hout⟩ := hs
  rw [← hout] at hrc
  rw [← hpost]
  have hopt : SOCKETS_SetSockOpt e.pre SOCKETS_SO_REQUIRE_TLS value a =
      if e.pre.flags.connected = false then
        ({ e.pre with flags := { e.pre.flags with useTls := true } }, SOCKETS_ERROR_NONE)
      else (e.pre, SOCKETS_SOCKET_ERROR) := rfl
  rw [hopt] at hrc ⊢
  split
  · rfl
  · rename_i hc
    rw [if_neg hc] at hrc
    exact absurd hrc (by decide : SOCKETS_SOCKET_ERROR ≠ SOCKETS_ERROR_NONE)

/-- What TLS guarantees over a run. -/
structure ThroughTls (tr : List (Entry Socket Call Reply)) : Prop where
  /-- After TLS was required, no call hands the caller's bytes to `iotSocketSend`. -/
  required : ∀ tr₁ e tr₂, tr = tr₁ ++ e :: tr₂ → RequiresTls e →
    ∀ e' ∈ tr₂, ∀ d, Event.socketSend d ∉ e'.out.events
  /-- Bytes are given to the TLS library only when the handshake of its context has succeeded. -/
  written : ∀ pre d post, eventsOf tr = pre ++ .sslWrite d :: post → established false pre = true
  /-- After `TLS_Init` or the handshake failed, a transfer is an error that moves nothing. -/
  failed : ∀ tr₁ e tr₂, tr = tr₁ ++ e :: tr₂ → SetupFailed e.out.events → ∀ e' ∈ tr₂,
    (∀ pvBuffer a, e'.inp = .send pvBuffer a → pvBuffer ≠ [] → Refused e'.out) ∧
    (∀ n a, e'.inp = .recv n a → 0 < n → Refused e'.out)

/-- **A socket that requires TLS sends through TLS only**, in every run of a new socket. -/
theorem require_tls {id : Int} {tr : List (Entry Socket Call Reply)} {s : Socket}
    (h : Exec socket (Socket.new id) tr s) : ThroughTls tr := by
  refine ⟨?_, ?_, ?_⟩
  · intro tr₁ e tr₂ htr hreq
    rw [htr] at h
    obtain ⟨hpre, hpost⟩ := h.split
    have hstep := h.mem (e := e) (by simp)
    have hok := step_ok (exec_good hpre).2 hstep
    exact exec_useTls hpost hok.good (hreq.useTls hstep)
  · intro pre d post hev
    have hg := (exec_good h).1
    rw [hev] at hg
    exact hg.established
  · intro tr₁ e tr₂ htr hfail e' he'
    rw [htr] at h
    obtain ⟨hpre, hpost⟩ := h.split
    have hok := step_ok (exec_good hpre).2 (h.mem (e := e) (by simp))
    have hdead := exec_dead hpost (hok.dead hfail) e' he'
    refine ⟨fun pvBuffer a hinp _ => ?_, fun n a hinp _ => ?_⟩
    · rw [hinp] at hdead
      exact hdead
    · rw [hinp] at hdead
      exact hdead

/-- TLS is required, the handshake fails, and bytes are sent and received nevertheless. -/
def failedSession : List Call :=
  [.setSockOpt SOCKETS_SO_REQUIRE_TLS [] ⟨0, true⟩,
   .connect ⟨0, ⟨true, 0, (0, 1), 0⟩,
    ⟨0, fun _ => 0, 0, 0, 0, 0, [⟨MBEDTLS_ERR_SSL_WANT_READ, [[22, 3]], []⟩, ⟨-0x7200, [], []⟩], []⟩⟩,
   .send [1, 2, 3] ⟨3, [], [⟨3, [[23, 3]], []⟩], []⟩,
   .recv 16 ⟨2, [1, 2], [⟨2, [], [1, 2]⟩], []⟩]

theorem require_tls_failedSession : ∃ tr s,
    socket.exec? (Socket.new 3) failedSession = some (tr, s) ∧ ThroughTls tr := by
  have hruns : (socket.exec? (Socket.new 3) failedSession).isSome = true := by decide +kernel
  obtain ⟨⟨tr, s⟩, hr⟩ := Option.isSome_iff_exists.1 hruns
  exact ⟨tr, s, hr, require_tls (exec?_exec hr)⟩

end Sockets
