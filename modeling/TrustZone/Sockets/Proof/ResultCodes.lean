import TrustZone.Sockets.SecureSockets

/-!
# What the calls on a socket return

Six calls hand a result code of the layer below on, each through its own translation.

* `Translated`: a success value exactly on success, else an error of this layer and not the code from
  below. `connectCode_iff`, `setOptError_iff`, `transferError_translated`, `closeError_translated`.
* `transfer_right`, `connect_plain_right_iff`, `connect_tls_right_iff`: the calls one by one.
* `socket_codes_iff`: the calls that return what they should.
-/

namespace Sockets

variable {Ok : Int → Prop} {code rc : Int} {s s' : Socket} {a : ConnectCallAns}

/-! ## Translations -/

/-- The error codes of `iot_secure_sockets.h`. -/
def socketsErrors : List Int :=
  [SOCKETS_SOCKET_ERROR, SOCKETS_EWOULDBLOCK, SOCKETS_ENOMEM, SOCKETS_EINVAL, SOCKETS_ENOPROTOOPT,
    SOCKETS_ENOTCONN, SOCKETS_EISCONN, SOCKETS_ECLOSED, SOCKETS_TLS_INIT_ERROR,
    SOCKETS_TLS_HANDSHAKE_ERROR, SOCKETS_TLS_SERVER_UNVERIFIED, SOCKETS_TLS_RECV_ERROR,
    SOCKETS_TLS_SEND_ERROR, SOCKETS_PERIPHERAL_RESET]

theorem socketError_mem : SOCKETS_SOCKET_ERROR ∈ socketsErrors := by decide

theorem enomem_mem : SOCKETS_ENOMEM ∈ socketsErrors := by decide

theorem socketsErrors_neg : ∀ rc ∈ socketsErrors, rc < 0 := by decide

/-- What is returned is a success value exactly if the call below succeeded, then its value, and else an
error of this layer. -/
structure Signals (Ok : Int → Prop) (code rc : Int) : Prop where
  success : 0 ≤ rc ↔ Ok code
  value : Ok code → rc = code
  error : ¬Ok code → rc ∈ socketsErrors

/-- And an error is not the code of the layer below, other than the one that both have. -/
structure Translated (Ok : Int → Prop) (code rc : Int) : Prop extends Signals Ok code rc where
  own : ¬Ok code → rc = code → code = IOT_SOCKET_ERROR

theorem Signals.failed (hno : ¬Ok code) (herr : rc ∈ socketsErrors) : Signals Ok code rc where
  success := iff_of_false (Int.not_le.2 (socketsErrors_neg rc herr)) hno
  value hok := absurd hok hno
  error _ := herr

theorem Translated.failed (hno : ¬Ok code) (herr : rc ∈ socketsErrors)
    (hown : rc = code → code = IOT_SOCKET_ERROR) : Translated Ok code rc where
  toSignals := .failed hno herr
  own _ := hown

theorem Translated.succeeded (hok : Ok code) (hcode : 0 ≤ code) : Translated Ok code code where
  success := iff_of_true hcode hok
  value _ := rfl
  error hno := absurd hok hno
  own hno := absurd hok hno

/-- What `SOCKETS_Connect` returns for a code, without TLS. -/
def connectCode (code : Int) : Int := if code = 0 then SOCKETS_ERROR_NONE else connectError code

/-- The codes that `SOCKETS_Connect` looks for. -/
def connectCodes : List Int :=
  [0, IOT_SOCKET_ESOCK, IOT_SOCKET_EINVAL, IOT_SOCKET_EALREADY, IOT_SOCKET_EINPROGRESS,
    IOT_SOCKET_EISCONN, IOT_SOCKET_ERROR]

/-- The codes that `SOCKETS_SetSockOpt` looks for. -/
def setOptCodes : List Int :=
  [0, IOT_SOCKET_ESOCK, IOT_SOCKET_EINVAL, IOT_SOCKET_ENOTSUP, IOT_SOCKET_ERROR]

/-- What a translation makes of an error. -/
def TranslatesError (tr : Int → Int) (code : Int) : Prop :=
  code ≠ 0 → tr code ∈ socketsErrors ∧ (tr code = code → code = IOT_SOCKET_ERROR)

instance {tr : Int → Int} : DecidablePred (TranslatesError tr) := fun code =>
  inferInstanceAs (Decidable (code ≠ 0 → _))

/-- The translation of a call that succeeds with 0. -/
theorem translated_zero {tr : Int → Int} (hzero : tr 0 = 0) (herr : TranslatesError tr code) :
    Translated (· = 0) code (tr code) := by
  by_cases hcode : code = 0
  · subst hcode
    rw [hzero]
    exact .succeeded rfl (Int.le_refl 0)
  · obtain ⟨hmem, hown⟩ := herr hcode
    exact .failed hcode hmem hown

/-- A translation that does what it should on a list of codes, and hands each other code on. -/
theorem translated_iff_mem {tr : Int → Int} {codes : List Int} (hzero : tr 0 = 0)
    (hin : ∀ code ∈ codes, TranslatesError tr code) (h0 : 0 ∈ codes)
    (hshared : IOT_SOCKET_ERROR ∈ codes) (hout : code ∉ codes → tr code = code) :
    Translated (· = 0) code (tr code) ↔ code ∈ codes := by
  constructor
  · intro h
    by_contra hno
    have hne : code ≠ 0 := fun he => hno (he ▸ h0)
    exact hno (h.own hne (hout hno) ▸ hshared)
  · intro hmem
    exact translated_zero hzero (hin code hmem)

theorem connectCode_iff : Translated (· = 0) code (connectCode code) ↔ code ∈ connectCodes := by
  refine translated_iff_mem rfl (by decide) (by decide) (by decide) fun hno => ?_
  simp only [connectCodes, List.mem_cons, not_or] at hno
  simp [connectCode, connectError, hno]

theorem setOptError_iff : Translated (· = 0) code (setOptError code) ↔ code ∈ setOptCodes := by
  refine translated_iff_mem rfl (by decide) (by decide) (by decide) fun hno => ?_
  simp only [setOptCodes, List.mem_cons, not_or] at hno
  simp [setOptError, hno]

/-- A translation that does what it should on a list of codes, and makes each other code the error that
both layers have. -/
theorem translatesError_of_rest {tr : Int → Int} (codes : List Int)
    (hin : ∀ code ∈ codes, TranslatesError tr code)
    (hout : code ∉ codes → tr code = SOCKETS_SOCKET_ERROR) : TranslatesError tr code := by
  by_cases hmem : code ∈ codes
  · exact hin code hmem
  · intro _
    rw [hout hmem]
    exact ⟨by decide, Eq.symm⟩

theorem transferError_error (code : Int) : TranslatesError transferError code := by
  refine translatesError_of_rest [IOT_SOCKET_ESOCK, IOT_SOCKET_EINVAL, IOT_SOCKET_ENOTCONN,
    IOT_SOCKET_ECONNRESET, IOT_SOCKET_ECONNABORTED, IOT_SOCKET_EAGAIN] (by decide) fun hno => ?_
  simp only [List.mem_cons, not_or] at hno
  simp [transferError, hno]

/-- What `SOCKETS_Recv` and `SOCKETS_Send` return for a code, without TLS. -/
def transferCode (code : Int) : Int := if code < 0 then transferError code else code

theorem transferCode_translated (code : Int) : Translated (0 ≤ ·) code (transferCode code) := by
  unfold transferCode
  split
  · rename_i hneg
    obtain ⟨hmem, hown⟩ := transferError_error code (Int.ne_of_lt hneg)
    exact .failed (Int.not_le.2 hneg) hmem hown
  · rename_i hpos
    exact .succeeded (Int.not_lt.1 hpos) (Int.not_lt.1 hpos)

theorem closeError_translated (code : Int) : Translated (· = 0) code (closeError code) := by
  refine translated_zero rfl (translatesError_of_rest [0] (by decide) fun hno => ?_)
  rw [List.mem_singleton] at hno
  simp [closeError, hno]

/-! ## Calls -/

/-- The six calls on a socket, with what the layer below answers. -/
inductive CodeCall
  | bind (pxAddress : Option SocketsSockaddr) (iotSocketBind : BitVec 32 → BitVec 16 → Int)
  | connect (a : ConnectCallAns)
  | setSockOpt (lOptionName : Int) (pvOptionValue : List UInt8) (a : SetOptAns)
  | recv (xBufferLength : Nat) (a : TransferAns)
  | send (pvBuffer : List UInt8) (a : TransferAns)
  | close (iotSocketClose : Int)

/-- The options that `iotSocketSetOpt` is called for. -/
def passedOptions : List Int := [SOCKETS_SO_RCVTIMEO, SOCKETS_SO_SNDTIMEO, SOCKETS_SO_NONBLOCK]

/-- The options that the socket itself keeps. -/
def keptOptions : List Int :=
  [SOCKETS_SO_REQUIRE_TLS, SOCKETS_SO_TRUSTED_SERVER_CERTIFICATE, SOCKETS_SO_SERVER_NAME_INDICATION]

namespace CodeCall

/-- The socket after the call and what is returned; `none` only for TLS that never ends. -/
def made (s : Socket) : CodeCall → Option (Socket × Int)
  | bind pxAddress iotSocketBind => some (s, SOCKETS_Bind pxAddress iotSocketBind)
  | connect a => (SOCKETS_Connect s a).map fun (s, r) => (s, r.rc)
  | setSockOpt name value a => some (SOCKETS_SetSockOpt s name value a)
  | recv xBufferLength a => (SOCKETS_Recv s xBufferLength a).map fun (s, r) => (s, r.rc)
  | send pvBuffer a => (SOCKETS_Send s pvBuffer a).map fun (s, r) => (s, r.rc)
  | close iotSocketClose => some (s, closeError iotSocketClose)

/-- The result code of the `iotSocket` call that it makes. -/
def iotSocket (s : Socket) : CodeCall → Option Int
  | bind none _ => none
  | bind (some a) iotSocketBind => some (iotSocketBind a.ulAddress (SOCKETS_ntohs a.usPort))
  | connect a => if s.flags.connected = false then some a.iotSocketConnect else none
  | setSockOpt name _ a => if name ∈ passedOptions then some a.iotSocketSetOpt else none
  | recv _ a => if s.flags.shutdownRd = false ∧ s.flags.useTls = false then some a.rc else none
  | send _ a => if s.flags.shutdownWr = false ∧ s.flags.useTls = false then some a.rc else none
  | close iotSocketClose => some iotSocketClose

/-- The result of the TLS transfer that it makes instead. -/
def tls (s : Socket) : CodeCall → Option Int
  | recv _ a =>
    if s.flags.shutdownRd = false then
      (TLS_Recv s.TLS_context a.ssl a.closeNotify).map Transfer.xResult
    else none
  | send pvBuffer a =>
    if s.flags.shutdownWr = false then
      (TLS_Send s.TLS_context pvBuffer a.ssl a.closeNotify).map Transfer.xResult
    else none
  | _ => none

/-- The codes with which the call below says that it succeeded: a transfer returns a count. -/
def Succeeds : CodeCall → Int → Prop
  | recv .. | send .. => (0 ≤ ·)
  | _ => (· = 0)

/-- An option that is set without a call below. -/
def IsKept : CodeCall → Prop
  | setSockOpt name .. => name ∈ keptOptions
  | _ => False

/-- What is returned is right for what the call below returned; where none is made, it is an error or an
option is set. -/
def Reports (s : Socket) (c : CodeCall) (rc : Int) : Prop :=
  match c.iotSocket s with
  | some code => Translated c.Succeeds code rc
  | none =>
    match c.tls s with
    | some code => Signals c.Succeeds code rc
    | none => rc ∈ socketsErrors ∨ c.IsKept ∧ rc = SOCKETS_ERROR_NONE

/-- For `SOCKETS_Connect` this is about sockets without TLS; with or without, the flag is set exactly if
a connection is reported. -/
def Answers (s s' : Socket) (rc : Int) : CodeCall → Prop
  | connect a => (s.flags.useTls = false → (connect a).Reports s rc) ∧
      (s.flags.connected = false ∧ s'.flags.connected = true ↔ rc = SOCKETS_ERROR_NONE)
  | c => c.Reports s rc

/-- The call returns unless TLS never ends, and what it returns is right. -/
def Right (s : Socket) (c : CodeCall) : Prop :=
  (s.flags.useTls = false → (c.made s).isSome = true) ∧
  ∀ s' rc, c.made s = some (s', rc) → c.Answers s s' rc

variable {c : CodeCall}

theorem reports_some (hiot : c.iotSocket s = some code) :
    c.Reports s rc ↔ Translated c.Succeeds code rc := by
  unfold Reports
  rw [hiot]

theorem reports_tls (hiot : c.iotSocket s = none) (htls : c.tls s = some code) :
    c.Reports s rc ↔ Signals c.Succeeds code rc := by
  unfold Reports
  rw [hiot, htls]

theorem reports_none (hiot : c.iotSocket s = none) (htls : c.tls s = none) :
    c.Reports s rc ↔ rc ∈ socketsErrors ∨ c.IsKept ∧ rc = SOCKETS_ERROR_NONE := by
  unfold Reports
  rw [hiot, htls]

theorem right_iff (hmade : c.made s = some (s', rc)) :
    c.Right s ↔ c.Answers s s' rc := by
  constructor
  · intro h
    exact h.2 s' rc hmade
  · intro h
    refine ⟨fun _ => by rw [hmade]; rfl, fun s'' rc' hmade' => ?_⟩
    obtain ⟨rfl, rfl⟩ := Prod.mk.inj (Option.some.inj (hmade.symm.trans hmade'))
    exact h

end CodeCall

/-- The TLS library says that the connection failed. -/
def TlsFails (s : Socket) (a : ConnectCallAns) : Prop :=
  let init := TLS_Init s.TLS_context s.destination s.server_cert a.init
  init.2 ≠ 0 ∨ ∃ ctx ctx' code evs, init.1 = some ctx ∧
    TLS_Connect ctx a.connect = some (ctx', code, evs) ∧ code ≠ 0

/-- A bind does not succeed, the code of a connect or of an option is one that is looked for, and TLS does
not fail after a connect. -/
def CodeCall.Translates (s : Socket) : CodeCall → Prop
  | bind pxAddress iotSocketBind => (bind pxAddress iotSocketBind).iotSocket s ≠ some 0
  | connect a => s.flags.connected = false →
      if s.flags.useTls = true then a.iotSocketConnect = 0 → ¬TlsFails s a
      else a.iotSocketConnect ∈ connectCodes
  | setSockOpt name _ a => name ∈ passedOptions → a.iotSocketSetOpt ∈ setOptCodes
  | _ => True

theorem bind_right_iff (pxAddress : Option SocketsSockaddr) (iotSocketBind : BitVec 32 → BitVec 16 → Int) :
    (CodeCall.bind pxAddress iotSocketBind).Right s ↔
      (CodeCall.bind pxAddress iotSocketBind).Translates s := by
  rw [CodeCall.right_iff rfl]
  cases pxAddress with
  | none => exact iff_of_true (.inl socketError_mem) nofun
  | some addr =>
    show Translated (· = 0) (iotSocketBind _ _) SOCKETS_SOCKET_ERROR ↔ some (iotSocketBind _ _) ≠ some 0
    rw [ne_eq, Option.some.injEq]
    constructor
    · intro h hcode
      exact absurd (h.success.2 hcode) (by decide)
    · intro hcode
      exact .failed hcode (by decide) Eq.symm

theorem close_right (code : Int) : (CodeCall.close code).Right s :=
  (CodeCall.right_iff rfl).2 (closeError_translated code)

/-- A name is passed on, kept, or not known. -/
theorem setSockOpt_cases (s : Socket) (name : Int) (value : List UInt8) (a : SetOptAns) :
    (name ∈ passedOptions ∧ SOCKETS_SetSockOpt s name value a = (s, setOptError a.iotSocketSetOpt)) ∨
    (name ∉ passedOptions ∧ ((SOCKETS_SetSockOpt s name value a).2 ∈ socketsErrors ∨
      name ∈ keptOptions ∧ (SOCKETS_SetSockOpt s name value a).2 = SOCKETS_ERROR_NONE)) := by
  by_cases hpassed : name ∈ passedOptions
  · refine .inl ⟨hpassed, ?_⟩
    simp only [passedOptions, List.mem_cons, List.not_mem_nil, or_false] at hpassed
    rcases hpassed with rfl | rfl | rfl <;> rfl
  · refine .inr ⟨hpassed, ?_⟩
    simp only [passedOptions, List.mem_cons, List.not_mem_nil, or_false, not_or] at hpassed
    obtain ⟨hrcv, hsnd, hnonblock⟩ := hpassed
    unfold SOCKETS_SetSockOpt
    rw [if_neg hrcv, if_neg hsnd, if_neg hnonblock]
    split_ifs with htls _ hcert _ _ hname
    · exact .inr ⟨by rw [htls]; decide, rfl⟩
    · exact .inl socketError_mem
    · exact .inr ⟨by rw [hcert]; decide, rfl⟩
    · exact .inl enomem_mem
    · exact .inl socketError_mem
    · exact .inr ⟨by rw [hname]; decide, rfl⟩
    · exact .inl enomem_mem
    · exact .inl socketError_mem
    · exact .inl socketError_mem

theorem setSockOpt_right_iff (name : Int) (value : List UInt8) (a : SetOptAns) :
    (CodeCall.setSockOpt name value a).Right s ↔ (CodeCall.setSockOpt name value a).Translates s := by
  have hmade : (CodeCall.setSockOpt name value a).made s =
      some ((SOCKETS_SetSockOpt s name value a).1, (SOCKETS_SetSockOpt s name value a).2) := rfl
  rw [CodeCall.right_iff hmade]
  show (CodeCall.setSockOpt name value a).Reports s _ ↔ (name ∈ passedOptions → _)
  rcases setSockOpt_cases s name value a with ⟨hpassed, heq⟩ | ⟨hno, hres⟩
  · have hiot : (CodeCall.setSockOpt name value a).iotSocket s = some a.iotSocketSetOpt := if_pos hpassed
    rw [CodeCall.reports_some hiot, heq, forall_prop_of_true hpassed, ← setOptError_iff]
    rfl
  · have hiot : (CodeCall.setSockOpt name value a).iotSocket s = none := if_neg hno
    rw [CodeCall.reports_none hiot rfl]
    exact iff_of_true hres fun hpassed => absurd hpassed hno

/-! ### Transfer -/

/-- A transfer over TLS: what the TLS library returns, or the error of this layer. -/
theorem tls_signals {err : Int} (herr : err ∈ socketsErrors) :
    Signals (0 ≤ ·) code (if code < 0 then err else code) := by
  split
  · rename_i hneg
    exact .failed (Int.not_le.2 hneg) herr
  · rename_i hpos
    exact (Translated.succeeded (Int.not_lt.1 hpos) (Int.not_lt.1 hpos)).toSignals

/-- What a transfer comes to, where `shut` says that it is not allowed. -/
def transferred (s : Socket) (shut : Bool) (code : Int) (tls : Option Transfer) (err : Int) :
    Option (Socket × Int) :=
  if shut = false then
    if s.flags.useTls = false then some (s, transferCode code)
    else tls.map fun t => ({ s with TLS_context := t.pxCtx }, if t.xResult < 0 then err else t.xResult)
  else some (s, SOCKETS_ECLOSED)

theorem transfer_right {c : CodeCall} {shut : Bool} {t : Option Transfer} {err : Int}
    (hans : ∀ s' rc, c.Reports s rc → c.Answers s s' rc) (hsucc : c.Succeeds = (0 ≤ ·))
    (hiot : c.iotSocket s = if shut = false ∧ s.flags.useTls = false then some code else none)
    (htls : c.tls s = if shut = false then t.map Transfer.xResult else none)
    (herr : err ∈ socketsErrors) (hmade : c.made s = transferred s shut code t err) : c.Right s := by
  unfold transferred at hmade
  by_cases hopen : shut = false
  · by_cases hplain : s.flags.useTls = false
    · rw [if_pos ⟨hopen, hplain⟩] at hiot
      rw [if_pos hopen, if_pos hplain] at hmade
      refine (CodeCall.right_iff hmade).2 (hans _ _ ((CodeCall.reports_some hiot).2 ?_))
      rw [hsucc]
      exact transferCode_translated code
    · rw [if_neg fun h => hplain h.2] at hiot
      rw [if_pos hopen, if_neg hplain] at hmade
      rw [if_pos hopen] at htls
      cases t with
      | none => exact ⟨fun h => absurd h hplain, fun s' rc hret => absurd (hmade.symm.trans hret) nofun⟩
      | some t =>
        refine (CodeCall.right_iff hmade).2 (hans _ _ ((CodeCall.reports_tls hiot htls).2 ?_))
        rw [hsucc]
        exact tls_signals herr
  · rw [if_neg fun h => hopen h.1] at hiot
    rw [if_neg hopen] at hmade htls
    exact (CodeCall.right_iff hmade).2 (hans _ _ ((CodeCall.reports_none hiot htls).2 (.inl (by decide))))

theorem recv_right (xBufferLength : Nat) (a : TransferAns) : (CodeCall.recv xBufferLength a).Right s := by
  have herr : SOCKETS_TLS_RECV_ERROR ∈ socketsErrors := by decide
  refine transfer_right (fun _ _ h => h) rfl rfl rfl herr ?_
  show Option.map _ (SOCKETS_Recv s xBufferLength a) = _
  unfold SOCKETS_Recv transferred
  by_cases hopen : s.flags.shutdownRd = false
  · rw [if_pos hopen, if_pos hopen]
    by_cases hplain : s.flags.useTls = false
    · rw [if_pos hplain, if_pos hplain]
      rfl
    · rw [if_neg hplain, if_neg hplain]
      cases TLS_Recv s.TLS_context a.ssl a.closeNotify with
      | none => rfl
      | some t => rfl
  · rw [if_neg hopen, if_neg hopen]
    rfl

theorem send_right (pvBuffer : List UInt8) (a : TransferAns) : (CodeCall.send pvBuffer a).Right s := by
  have herr : SOCKETS_TLS_SEND_ERROR ∈ socketsErrors := by decide
  refine transfer_right (fun _ _ h => h) rfl rfl rfl herr ?_
  show Option.map _ (SOCKETS_Send s pvBuffer a) = _
  unfold SOCKETS_Send transferred
  by_cases hopen : s.flags.shutdownWr = false
  · rw [if_pos hopen, if_pos hopen]
    by_cases hplain : s.flags.useTls = false
    · rw [if_pos hplain, if_pos hplain]
      rfl
    · rw [if_neg hplain, if_neg hplain]
      cases TLS_Send s.TLS_context pvBuffer a.ssl a.closeNotify with
      | none => rfl
      | some t => rfl
  · rw [if_neg hopen, if_neg hopen]
    rfl

/-! ### Connecting -/

theorem connectError_ne (hcode : code ≠ 0) : connectError code ≠ SOCKETS_ERROR_NONE := by
  unfold connectError
  split_ifs
  all_goals first | exact hcode | decide

theorem connectCode_none : connectCode code = SOCKETS_ERROR_NONE ↔ code = 0 := by
  unfold connectCode
  split
  · rename_i hcode
    exact iff_of_true rfl hcode
  · rename_i hcode
    exact iff_of_false (connectError_ne hcode) hcode

/-- A connect on a socket that is connected. -/
theorem connect_again (hconn : s.flags.connected = true) :
    (CodeCall.connect a).made s = some (s, SOCKETS_SOCKET_ERROR) := by
  have hno : ¬(SOCKETS_SOCKET_ERROR = SOCKETS_ERROR_NONE ∧ s.flags.useTls = true) := by
    rintro ⟨h, -⟩
    exact absurd h (by decide)
  simp [CodeCall.made, SOCKETS_Connect, hconn, hno]

/-- A connect that fails, or without TLS: the flag is set with the report. -/
theorem connect_plain (hconn : s.flags.connected = false)
    (htls : s.flags.useTls = true → a.iotSocketConnect ≠ 0) :
    ∃ s', (CodeCall.connect a).made s = some (s', connectCode a.iotSocketConnect) ∧
      (s.flags.connected = false ∧ s'.flags.connected = true ↔
        connectCode a.iotSocketConnect = SOCKETS_ERROR_NONE) := by
  rw [connectCode_none]
  unfold CodeCall.made SOCKETS_Connect connectCode
  by_cases hcode : a.iotSocketConnect = 0
  · have hplain : ¬s.flags.useTls = true := fun h => htls h hcode
    simp [hconn, hcode, hplain]
  · simp [hconn, hcode, connectError_ne hcode]

/-- A connect with TLS, once the socket below is connected. -/
theorem connect_tls (hconn : s.flags.connected = false) (htls : s.flags.useTls = true)
    (hcode : a.iotSocketConnect = 0) : (CodeCall.connect a).made s =
      (connectTls { s with flags := { s.flags with connected := true } } a).map
        fun (s, r) => (s, r.rc) := by
  simp [CodeCall.made, SOCKETS_Connect, hconn, htls, hcode]

/-- TLS never ends, or the connection is reported exactly if it does not fail. -/
theorem connectTls_cases (s : Socket) (a : ConnectCallAns) :
    (connectTls s a = none ∧ ¬TlsFails s a) ∨ ∃ s' r, connectTls s a = some (s', r) ∧
      s'.flags = s.flags ∧ (r.rc = SOCKETS_ERROR_NONE ↔ ¬TlsFails s a) := by
  unfold connectTls TlsFails
  rcases TLS_Init s.TLS_context s.destination s.server_cert a.init with ⟨ctx, xResult⟩
  dsimp only
  by_cases hx : xResult = 0
  · rw [if_pos hx]
    rcases ctx with - | ctx
    · refine .inl ⟨rfl, not_or.2 ⟨not_not.2 hx, ?_⟩⟩
      rintro ⟨ctx₁, ctx₂, code, evs, hctx, -, -⟩
      cases hctx
    · dsimp only
      rcases hconn : TLS_Connect ctx a.connect with - | ⟨ctx', code, evs⟩
      · refine .inl ⟨rfl, not_or.2 ⟨not_not.2 hx, ?_⟩⟩
        rintro ⟨ctx₁, ctx₂, code, evs, ⟨⟩, hconn', -⟩
        rw [hconn] at hconn'
        cases hconn'
      · refine .inr ⟨_, _, rfl, rfl, ?_⟩
        by_cases hcode : code = 0
        · rw [if_neg (not_not.2 hcode)]
          refine iff_of_true rfl (not_or.2 ⟨not_not.2 hx, ?_⟩)
          rintro ⟨ctx₁, ctx₂, code', evs', ⟨⟩, hconn', hne⟩
          rw [hconn] at hconn'
          cases hconn'
          exact hne hcode
        · rw [if_pos hcode]
          exact iff_of_false (show SOCKETS_TLS_HANDSHAKE_ERROR ≠ SOCKETS_ERROR_NONE by decide)
            (not_not.2 (.inr ⟨ctx, ctx', code, evs, rfl, hconn, hcode⟩))
  · rw [if_neg hx]
    exact .inr ⟨_, _, rfl, rfl, iff_of_false (show SOCKETS_TLS_INIT_ERROR ≠ SOCKETS_ERROR_NONE by decide)
      (not_not.2 (.inl hx))⟩

theorem connect_again_right (hconn : s.flags.connected = true) : (CodeCall.connect a).Right s := by
  have hiot : (CodeCall.connect a).iotSocket s = none := if_neg (by rw [hconn]; decide)
  refine (CodeCall.right_iff (connect_again hconn)).2 ⟨fun _ => ?_, ?_⟩
  · exact (CodeCall.reports_none hiot rfl).2 (.inl socketError_mem)
  · rw [hconn]
    exact iff_of_false (fun h => absurd h.1 nofun) (by decide)

/-- **A connect without TLS**: the code is one that is looked for. -/
theorem connect_plain_right_iff (hconn : s.flags.connected = false) (htls : s.flags.useTls = false) :
    (CodeCall.connect a).Right s ↔ a.iotSocketConnect ∈ connectCodes := by
  obtain ⟨s', hmade, hflag⟩ := connect_plain (a := a) hconn fun h => absurd (htls.symm.trans h) nofun
  have hiot : (CodeCall.connect a).iotSocket s = some a.iotSocketConnect := if_pos hconn
  rw [CodeCall.right_iff hmade, ← connectCode_iff]
  show ((_ → CodeCall.Reports _ _ _) ∧ _) ↔ _
  rw [forall_prop_of_true htls, CodeCall.reports_some hiot]
  exact and_iff_left hflag

/-- **A connect with TLS**: the flag is set before TLS begins, and TLS does not fail. -/
theorem connect_tls_right_iff (hconn : s.flags.connected = false) (htls : s.flags.useTls = true) :
    (CodeCall.connect a).Right s ↔ (a.iotSocketConnect = 0 → ¬TlsFails s a) := by
  have hplain : ¬s.flags.useTls = false := by
    rw [htls]
    decide
  by_cases hcode : a.iotSocketConnect = 0
  · have hmade := connect_tls hconn htls hcode
    rw [forall_prop_of_true hcode]
    rcases connectTls_cases { s with flags := { s.flags with connected := true } } a with
      ⟨hnone, hok⟩ | ⟨s', r, hsome, hflags, hreported⟩
    · rw [hnone] at hmade
      refine iff_of_true ⟨fun h => absurd h hplain, fun s' rc hret => ?_⟩ hok
      exact absurd (hmade.symm.trans hret) nofun
    · rw [hsome] at hmade
      rw [CodeCall.right_iff hmade]
      have hset : s.flags.connected = false ∧ s'.flags.connected = true := ⟨hconn, by rw [hflags]⟩
      constructor
      · intro h
        exact hreported.1 (h.2.1 hset)
      · intro hok
        exact ⟨fun h => absurd h hplain, iff_of_true hset (hreported.2 hok)⟩
  · obtain ⟨s', hmade, hflag⟩ := connect_plain hconn fun _ => hcode
    rw [CodeCall.right_iff hmade]
    exact iff_of_true ⟨fun h => absurd h hplain, hflag⟩ fun h => absurd h hcode

theorem connect_right_iff (a : ConnectCallAns) :
    (CodeCall.connect a).Right s ↔ (CodeCall.connect a).Translates s := by
  show _ ↔ (s.flags.connected = false → if s.flags.useTls = true then _ else _)
  by_cases hconn : s.flags.connected = false
  · rw [forall_prop_of_true hconn]
    by_cases htls : s.flags.useTls = true
    · rw [if_pos htls]
      exact connect_tls_right_iff hconn htls
    · rw [if_neg htls]
      exact connect_plain_right_iff hconn (Bool.not_eq_true _ ▸ htls)
  · exact iff_of_true (connect_again_right (Bool.not_eq_false _ ▸ hconn)) fun h => absurd h hconn

/-- **What the calls return** is right exactly if no bind succeeds, each code of a connect or of an option
is one that is looked for, and TLS does not fail. -/
theorem socket_codes_iff (s : Socket) (c : CodeCall) : c.Right s ↔ c.Translates s := by
  cases c with
  | bind pxAddress iotSocketBind => exact bind_right_iff pxAddress iotSocketBind
  | connect a => exact connect_right_iff a
  | setSockOpt name value a => exact setSockOpt_right_iff name value a
  | recv xBufferLength a => exact iff_of_true (recv_right xBufferLength a) trivial
  | send pvBuffer a => exact iff_of_true (send_right pvBuffer a) trivial
  | close code => exact iff_of_true (close_right code) trivial

/-- The answers of a connect that is refused, `IOT_SOCKET_ECONNREFUSED`. -/
def refused : ConnectCallAns where
  iotSocketConnect := -11
  init := ⟨true, 0, (0, 1), 0⟩
  connect := ⟨0, fun _ => 0, 0, 0, 0, 0, [], []⟩

/-- A bind that succeeds returns an error, and a connect that is refused returns the code from below, which
reads as `SOCKETS_EWOULDBLOCK`. -/
theorem socket_codes_missed :
    SOCKETS_Bind (some ⟨0, 0x901F⟩) (fun _ _ => 0) = SOCKETS_SOCKET_ERROR ∧
    ¬(CodeCall.bind (some ⟨0, 0x901F⟩) fun _ _ => 0).Right (.new 0) ∧
    (∃ s', (CodeCall.connect refused).made (.new 0) = some (s', -11)) ∧
    ¬(CodeCall.connect refused).Right (.new 0) := by
  refine ⟨rfl, fun h => ?_, ⟨_, rfl⟩, fun h => ?_⟩
  · have hbelow : Signals (· = 0) 0 SOCKETS_SOCKET_ERROR := (h.2 _ _ rfl).toSignals
    exact absurd (hbelow.success.2 rfl) (by decide)
  · have hbelow : Translated (· = 0) (-11) (-11) := (h.2 _ _ rfl).1 rfl
    exact absurd (hbelow.own (by decide) rfl) (by decide)

end Sockets
