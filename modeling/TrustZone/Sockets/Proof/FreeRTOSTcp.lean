import TrustZone.Sockets.FreeRTOSTcp

/-!
# What the calls on a FreeRTOS+TCP socket return

Each function makes a result of its API from the answer of FreeRTOS+TCP, and some hand an answer on that
they do not know.

* `Returned`: a value was stored, it is a result or an error of the API, negative exactly if the call failed,
  and not the error of the stack below.
* `status_returned`, `translation_returned`: for a translation that ends in an error, and for one that ends in
  the answer itself.
* `transfer_law`: what the four transfers share.
* `iotCall_iff`: which calls return what they should, function by function.
-/

namespace Sockets.FreeRTOSTcp

/-! ## Results -/

/-- The error codes of `iot_socket.h`. -/
def iotErrors : List Int :=
  [IOT_SOCKET_ERROR, IOT_SOCKET_ESOCK, IOT_SOCKET_EINVAL, IOT_SOCKET_ENOTSUP, IOT_SOCKET_ENOMEM,
    IOT_SOCKET_EAGAIN, IOT_SOCKET_EINPROGRESS, IOT_SOCKET_ETIMEDOUT, IOT_SOCKET_EISCONN,
    IOT_SOCKET_ENOTCONN, IOT_SOCKET_ECONNREFUSED, IOT_SOCKET_ECONNRESET, IOT_SOCKET_ECONNABORTED,
    IOT_SOCKET_EALREADY, IOT_SOCKET_EADDRINUSE, IOT_SOCKET_EHOSTNOTFOUND]

/-- The values of `pdFREERTOS_ERRNO_*`, 0 apart. -/
def errnos : List Int :=
  [2, 4, 5, 6, 9, 11, 12, 13, 14, 16, 17, 18, 19, 20, 21, 22, 28, 29, 30, 42, 50, 79, 89, 90, 91, 95, 97, 105,
    109, 112, 116, 119, 120, 125, 127, 128, 135, 138, 140]

/-- The errors of the API whose values are no errors of FreeRTOS+TCP. -/
def ownErrors : List Int := iotErrors.filter fun v => -v ∉ errnos

/-- What should hold of what a function leaves, where `Failed` are the answers of a call that failed and
`Empty` those of one that waited for data in vain. -/
def Returned (Failed Empty : Int → Prop) (o : Outcome) : Prop :=
  ∃ v, o.stat = some v ∧ (0 ≤ v ∨ v ∈ iotErrors) ∧ (v < 0 ↔ ∀ r, o.answer = some r → Failed r) ∧
    ∀ r, o.answer = some r → (-r ∈ errnos → v ≠ r) ∧ (Empty r → v = IOT_SOCKET_EAGAIN)

variable {Failed Empty : Int → Prop} {v r : Int}

theorem iotErrors_neg : ∀ v ∈ iotErrors, v < 0 := by decide

theorem mem_ownErrors : v ∈ ownErrors ↔ v ∈ iotErrors ∧ -v ∉ errnos := by
  simp [ownErrors]

theorem refused_returned (h : v ∈ iotErrors) : Returned Failed Empty (.refused v) :=
  ⟨v, rfl, .inr h, by simp [Outcome.refused, iotErrors_neg v h], by simp [Outcome.refused]⟩

theorem not_returned_none {a : Option Int} : ¬Returned Failed Empty ⟨none, a⟩ := by
  simp [Returned]

theorem returned_some : Returned Failed Empty ⟨some v, some r⟩ ↔
    (0 ≤ v ∨ v ∈ iotErrors) ∧ (v < 0 ↔ Failed r) ∧ (-r ∈ errnos → v ≠ r) ∧
      (Empty r → v = IOT_SOCKET_EAGAIN) := by
  simp [Returned]

/-- An error of the API for an answer of a call that failed. -/
theorem returned_error (hmem : v ∈ iotErrors) (hfail : Failed r) (hraw : -r ∈ errnos → v ≠ r)
    (hempty : Empty r → v = IOT_SOCKET_EAGAIN) : Returned Failed Empty ⟨some v, some r⟩ :=
  returned_some.2 ⟨.inr hmem, iff_of_true (iotErrors_neg v hmem) hfail, hraw, hempty⟩

theorem errno_neg (hmem : -r ∈ errnos) : r < 0 := by
  simp only [errnos, List.mem_cons, List.not_mem_nil, or_false] at hmem
  omega

/-- A result for an answer of a call that did not fail. -/
theorem returned_result (hv : 0 ≤ v) (hok : ¬Failed r) (hr : 0 ≤ r) (hempty : ¬Empty r) :
    Returned Failed Empty ⟨some v, some r⟩ := by
  refine returned_some.2 ⟨.inl hv, iff_of_false (Int.not_lt.2 hv) hok, fun hmem => ?_, fun h => absurd h hempty⟩
  exact absurd (errno_neg hmem) (Int.not_lt.2 hr)

/-- An answer that is handed on. -/
theorem returned_self : Returned Failed Empty ⟨some r, some r⟩ ↔
    (0 ≤ r ∨ r ∈ ownErrors) ∧ (r < 0 ↔ Failed r) ∧ (Empty r → r = IOT_SOCKET_EAGAIN) := by
  rw [returned_some, mem_ownErrors]
  refine ⟨fun ⟨hv, hsign, hraw, hempty⟩ => ⟨?_, hsign, hempty⟩,
    fun ⟨hv, hsign, hempty⟩ => ⟨hv.imp_right And.left, hsign, fun hmem => ?_, hempty⟩⟩
  · exact hv.imp_right fun hmem => ⟨hmem, fun he => hraw he rfl⟩
  · obtain hv | ⟨-, hno⟩ := hv
    · exact absurd (errno_neg hmem) (Int.not_lt.2 hv)
    · exact absurd hmem hno

/-- Only the answer that there was says what failed. -/
theorem returned_congr {Failed' Empty' : Int → Prop} (hfail : Failed r ↔ Failed' r)
    (hempty : Empty r ↔ Empty' r) :
    Returned Failed Empty ⟨some v, some r⟩ ↔ Returned Failed' Empty' ⟨some v, some r⟩ := by
  rw [returned_some, returned_some, hfail, hempty]

/-- An answer of a call that counts bytes, from which a result of the API is made: a count, an error that the
function knows, or an error of the API that is none of FreeRTOS+TCP. -/
def Countable (known : List Int) (r : Int) : Prop := 0 ≤ r ∨ r ∈ ownErrors ∨ r ∈ known

/-! ## Translations -/

/-- A translation of the answers of a call that succeeds with 0. -/
theorem status_returned {f : Int → Int} (hzero : f 0 = 0) (herr : r ≠ 0 → f r ∈ iotErrors)
    (hraw : ∀ e ∈ errnos, f (-e) ≠ -e) : Returned (· ≠ 0) (fun _ => False) ⟨some (f r), some r⟩ := by
  by_cases hr : r = 0
  · subst hr
    rw [hzero]
    exact returned_result (Int.le_refl 0) (fun h => h rfl) (Int.le_refl 0) id
  · refine returned_error (herr hr) hr (fun hmem => ?_) False.elim
    have := hraw _ hmem
    rwa [Int.neg_neg] at this

def bindCode (rval : Int) : Int :=
  if rval = 0 then 0 else if rval = -pdFREERTOS_ERRNO_EINVAL then IOT_SOCKET_EINVAL else IOT_SOCKET_ERROR

theorem bindCode_returned : Returned (· ≠ 0) (fun _ => False) ⟨some (bindCode r), some r⟩ := by
  refine status_returned rfl (fun hr => ?_) (by decide)
  unfold bindCode
  rw [if_neg hr]
  split
  · decide
  · decide

def connectCode (rval : Int) : Int :=
  if rval = 0 then 0
  else if rval = -pdFREERTOS_ERRNO_EBADF then IOT_SOCKET_ESOCK
  else if rval = -pdFREERTOS_ERRNO_EISCONN then IOT_SOCKET_EISCONN
  else if rval = -pdFREERTOS_ERRNO_EINPROGRESS then IOT_SOCKET_EALREADY
  else if rval = -pdFREERTOS_ERRNO_EAGAIN then IOT_SOCKET_ECONNABORTED
  else if rval = -pdFREERTOS_ERRNO_EWOULDBLOCK then IOT_SOCKET_ECONNABORTED
  else if rval = -pdFREERTOS_ERRNO_ETIMEDOUT then IOT_SOCKET_ETIMEDOUT
  else IOT_SOCKET_EINVAL

theorem connectCode_returned : Returned (· ≠ 0) (fun _ => False) ⟨some (connectCode r), some r⟩ := by
  refine status_returned rfl (fun hr => ?_) (by decide)
  unfold connectCode
  rw [if_neg hr]
  repeat' split
  all_goals decide

/-- An error that a translation makes one of the API. -/
def TranslatesOwn (Empty : Int → Prop) (f : Int → Int) (r : Int) : Prop :=
  r < 0 ∧ f r ∈ iotErrors ∧ f r ≠ r ∧ (Empty r → f r = IOT_SOCKET_EAGAIN)

/-- A translation that makes the errors it knows errors of the API, and hands each other answer on. -/
theorem translation_returned {f : Int → Int} (known : List Int)
    (hknown : ∀ r ∈ known, TranslatesOwn Empty f r) (hrest : r ∉ known → f r = r)
    (hempty : r ∉ known → ¬Empty r) :
    Returned (· < 0) Empty ⟨some (f r), some r⟩ ↔ Countable known r := by
  by_cases hmem : r ∈ known
  · obtain ⟨hneg, herr, hne, hagain⟩ := hknown r hmem
    exact iff_of_true (returned_error herr hneg (fun _ => hne) hagain) (.inr (.inr hmem))
  · rw [hrest hmem, returned_self]
    simp [Countable, hmem, hempty hmem]

/-- What `countReady` returns for an answer. -/
def countCode (rval : Int) : Int := if rval = -pdFREERTOS_ERRNO_EINVAL then IOT_SOCKET_EINVAL else rval

theorem countReady_returned {ready : Int → Int} {socket : Int} :
    Returned (· < 0) (fun _ => False) (countReady ready socket) ↔
      Countable [-pdFREERTOS_ERRNO_EINVAL] (ready socket) := by
  refine @translation_returned _ _ countCode [-pdFREERTOS_ERRNO_EINVAL] ?_ (fun hno => ?_) fun _ => id
  · simp [TranslatesOwn, countCode, pdFREERTOS_ERRNO_EINVAL, IOT_SOCKET_EINVAL, iotErrors]
  · exact if_neg (by simpa using hno)

def recvCode (rval : Int) : Int :=
  if rval = -pdFREERTOS_ERRNO_ENOMEM then IOT_SOCKET_ERROR
  else if rval = -pdFREERTOS_ERRNO_ENOTCONN then IOT_SOCKET_ENOTCONN
  else if rval = -pdFREERTOS_ERRNO_EINTR then IOT_SOCKET_ECONNABORTED
  else if rval = -pdFREERTOS_ERRNO_EINVAL then IOT_SOCKET_ESOCK
  else rval

/-- The errors that `iotSocketRecv` knows. -/
def recvErrors : List Int :=
  [-pdFREERTOS_ERRNO_ENOMEM, -pdFREERTOS_ERRNO_ENOTCONN, -pdFREERTOS_ERRNO_EINTR, -pdFREERTOS_ERRNO_EINVAL]

/-- No data, or an error by 0, handed on as a result. -/
theorem not_returned_zero (hfail : Failed 0) : ¬Returned Failed Empty ⟨some 0, some 0⟩ := fun h =>
  Int.lt_irrefl 0 ((returned_some.1 h).2.1.2 hfail)

/-- A transfer that fails with 0 too. -/
theorem returned_nonzero (h0 : r = 0 → v = 0) (hempty : Empty r → r = 0) :
    Returned (· ≤ 0) Empty ⟨some v, some r⟩ ↔
      r ≠ 0 ∧ Returned (· < 0) (fun _ => False) ⟨some v, some r⟩ := by
  by_cases hr : r = 0
  · subst hr
    rw [h0 rfl]
    exact iff_of_false (not_returned_zero (Int.le_refl 0)) fun h => h.1 rfl
  · refine Iff.trans (returned_congr ?_ (iff_false_intro fun h => hr (hempty h))) (and_iff_right hr).symm
    omega

theorem recvCode_returned : Returned (· ≤ 0) (· = 0) ⟨some (recvCode r), some r⟩ ↔
    r ≠ 0 ∧ Countable recvErrors r := by
  have h0 : r = 0 → recvCode r = 0 := by
    intro hr
    rw [hr]
    rfl
  refine (returned_nonzero h0 id).trans (and_congr_right fun _ => ?_)
  refine translation_returned recvErrors (by simp only [TranslatesOwn]; decide) (fun hno => ?_) fun _ => id
  simp only [recvErrors, List.mem_cons, not_or] at hno
  simp [recvCode, hno]

def recvFromCode (rval : Int) : Int :=
  if rval = -pdFREERTOS_ERRNO_EWOULDBLOCK then IOT_SOCKET_EAGAIN
  else if rval = -pdFREERTOS_ERRNO_EINVAL then IOT_SOCKET_ENOTCONN
  else if rval = -pdFREERTOS_ERRNO_EINTR then IOT_SOCKET_ECONNABORTED
  else rval

/-- The errors that `iotSocketRecvFrom` knows. -/
def recvFromErrors : List Int :=
  [-pdFREERTOS_ERRNO_EWOULDBLOCK, -pdFREERTOS_ERRNO_EINVAL, -pdFREERTOS_ERRNO_EINTR]

theorem recvFromCode_returned :
    Returned (· < 0) (· = -pdFREERTOS_ERRNO_EWOULDBLOCK) ⟨some (recvFromCode r), some r⟩ ↔
      Countable recvFromErrors r := by
  refine translation_returned recvFromErrors ?_ (fun hno => ?_) fun hno => ?_
  · simp only [TranslatesOwn]
    decide
  · simp only [recvFromErrors, List.mem_cons, not_or] at hno
    simp [recvFromCode, hno]
  · simp only [recvFromErrors, List.mem_cons, not_or] at hno
    exact hno.1

def sendCode (rval : Int) : Int :=
  if rval = -pdFREERTOS_ERRNO_ENOTCONN then IOT_SOCKET_ENOTCONN
  else if rval = -pdFREERTOS_ERRNO_ENOMEM then IOT_SOCKET_ERROR
  else if rval = -pdFREERTOS_ERRNO_EINVAL then IOT_SOCKET_ESOCK
  else if rval = -pdFREERTOS_ERRNO_ENOSPC then IOT_SOCKET_ECONNABORTED
  else rval

/-- The errors that `iotSocketSend` knows. -/
def sendErrors : List Int :=
  [-pdFREERTOS_ERRNO_ENOTCONN, -pdFREERTOS_ERRNO_ENOMEM, -pdFREERTOS_ERRNO_EINVAL, -pdFREERTOS_ERRNO_ENOSPC]

theorem sendCode_returned : Returned (· < 0) (fun _ => False) ⟨some (sendCode r), some r⟩ ↔
    Countable sendErrors r := by
  refine translation_returned sendErrors (by simp only [TranslatesOwn]; decide) (fun hno => ?_) fun _ => id
  simp only [sendErrors, List.mem_cons, not_or] at hno
  simp [sendCode, hno]

/-! ## Calls -/

/-- The functions of the API, with what FreeRTOS+TCP answers. -/
inductive Call
  | create (FreeRTOS_socket : Int → Int → Int → BitVec 32) (af type protocol : Int)
  | bind (FreeRTOS_bind : Int → SockAddr → Nat → Int) (socket : Int) (ip : Option (BitVec 32))
    (ip_len : BitVec 32) (port : BitVec 16)
  | listen (FreeRTOS_listen : Int → Int → Int) (socket backlog : Int)
  | accept (FreeRTOS_accept : Int → BitVec 32 × SockAddr) (socket : Int) (n : Name)
  | connect (FreeRTOS_connect : Int → SockAddr → Nat → Int) (socket : Int) (ip : Option (BitVec 32))
    (ip_len : BitVec 32) (port : BitVec 16)
  | recv (FreeRTOS_recvcount : Int → Int) (FreeRTOS_recv : Int → BitVec 32 → Int) (socket : Int)
    (buf : Bool) (len : BitVec 32)
  | recvFrom (FreeRTOS_recvcount : Int → Int) (FreeRTOS_recvfrom : Int → BitVec 32 → SockAddr → Int)
    (socket : Int) (buf : Bool) (len : BitVec 32) (n : Name)
  | send (FreeRTOS_maywrite : Int → Int) (FreeRTOS_send : Int → BitVec 32 → Int) (socket : Int)
    (buf : Bool) (len : BitVec 32)
  | sendTo (FreeRTOS_maywrite : Int → Int) (FreeRTOS_sendto : Int → BitVec 32 → SockAddr → Int)
    (socket : Int) (buf : Bool) (len : BitVec 32) (ip : Option (BitVec 32)) (ip_len : BitVec 32)
    (port : BitVec 16)
  | getSockName (FreeRTOS_GetLocalAddress : Int → SockAddr) (socket : Int) (n : Name)
  | getPeerName (FreeRTOS_GetRemoteAddress : Int → Int × SockAddr) (socket : Int) (n : Name)
  | getOpt (FreeRTOS_issocketconnected : Int → Int) (socket opt_id : Int) (opt_val : Bool)
    (opt_len : Option (BitVec 32))
  | setOpt (FreeRTOS_setsockopt : Int → TimeoutOpt → BitVec 32 → Int) (socket opt_id : Int)
    (opt_val : Option (Nat → BitVec 8)) (opt_len : BitVec 32) (xTimeout : Nat → BitVec 8) (t : Timeouts)
  | close (FreeRTOS_closesocket : Int → Int) (socket : Int)
  | getHostByName (FreeRTOS_gethostbyname : String → BitVec 32) (name : Option String) (af : Int)
    (ip ip_len : Option (BitVec 32))

/-- What the function leaves, if it reads no pointer that is `NULL`. -/
def Call.run : Call → Option Outcome
  | create f af type protocol => some (iotSocketCreate f af type protocol).1
  | bind f socket ip ip_len port => some (iotSocketBind f socket ip ip_len port)
  | listen f socket backlog => some (iotSocketListen f socket backlog)
  | accept f socket n => some (iotSocketAccept f socket n).1
  | connect f socket ip ip_len port => some (iotSocketConnect f socket ip ip_len port)
  | recv f g socket buf len => some (iotSocketRecv f g socket buf len)
  | recvFrom f g socket buf len n => iotSocketRecvFrom f g socket buf len n
  | send f g socket buf len => some (iotSocketSend f g socket buf len)
  | sendTo f g socket buf len ip ip_len port => iotSocketSendTo f g socket buf len ip ip_len port
  | getSockName f socket n => (iotSocketGetSockName f socket n).map Prod.fst
  | getPeerName f socket n => (iotSocketGetPeerName f socket n).map Prod.fst
  | getOpt f socket opt_id opt_val opt_len => some (iotSocketGetOpt f socket opt_id opt_val opt_len)
  | setOpt f socket opt_id opt_val opt_len xTimeout t =>
    some (iotSocketSetOpt f socket opt_id opt_val opt_len xTimeout t).outcome
  | close f socket => some (iotSocketClose f socket)
  | getHostByName f name af ip ip_len => some (iotSocketGetHostByName f name af ip ip_len).1

/-- The answers by which FreeRTOS+TCP says that the operation failed. A transfer to or from a stream, and
`FreeRTOS_sendto`, fail with 0 too; `FreeRTOS_issocketconnected` tells the two kinds of sockets apart by
one of its errors. -/
def Call.Fails : Call → Int → Prop
  | create .., r => r = FREERTOS_INVALID_SOCKET.toNat
  | accept .., r => r = 0 ∨ r = FREERTOS_INVALID_SOCKET.toNat
  | bind .., r | listen .., r | connect .., r | setOpt .., r => r ≠ 0
  | recv _ _ _ _ len, r | sendTo _ _ _ _ len _ _ _, r => if len = 0 then r < 0 else r ≤ 0
  | recvFrom .., r | send .., r | getPeerName .., r => r < 0
  | getSockName .., _ => False
  | getOpt .., r => r < 0 ∧ r ≠ -pdFREERTOS_ERRNO_EINVAL
  | close .., r => r ≤ 0
  | getHostByName .., r => r = 0

/-- The answers by which it says that no data came in time. -/
def Call.NoData : Call → Int → Prop
  | recv _ _ _ _ len, r => len ≠ 0 ∧ r = 0
  | recvFrom _ _ _ _ len _, r => len ≠ 0 ∧ r = -pdFREERTOS_ERRNO_EWOULDBLOCK
  | create .., _ | accept .., _ | bind .., _ | listen .., _ | connect .., _ | send .., _ | sendTo .., _ => False
  | getSockName .., _ | getPeerName .., _ | getOpt .., _ | setOpt .., _ | close .., _ => False
  | getHostByName .., _ => False

/-- What should hold beyond the value: the protocol goes with the type, and a timeout is stored within
its variable, and `IOT_SOCKET_IO_FIONBIO` with 0 makes the socket wait. -/
def Call.Effect : Call → Prop
  | create f af type protocol => ∀ domain xType xProtocol,
    (iotSocketCreate f af type protocol).2 = some (domain, xType, xProtocol) →
      (type = IOT_SOCKET_SOCK_STREAM → xType = FREERTOS_SOCK_STREAM ∧ xProtocol = FREERTOS_IPPROTO_TCP) ∧
      (type = IOT_SOCKET_SOCK_DGRAM → xType = FREERTOS_SOCK_DGRAM ∧ xProtocol = FREERTOS_IPPROTO_UDP)
  | setOpt f socket opt_id opt_val opt_len xTimeout t =>
    let run := iotSocketSetOpt f socket opt_id opt_val opt_len xTimeout t
    run.copied ≤ 4 ∧ ∀ bytes, opt_val = some bytes → opt_id = IOT_SOCKET_IO_FIONBIO →
      run.outcome.stat = some 0 → (run.timeouts.Blocking ↔ wordAt bytes = 0)
  | bind .. | listen .. | accept .. | connect .. | recv .. | recvFrom .. | send .. | sendTo .. => True
  | getSockName .. | getPeerName .. | getOpt .. | close .. | getHostByName .. => True

/-- The law of a call. -/
def CallLaw (c : Call) : Prop := (∃ o, c.run = some o ∧ Returned c.Fails c.NoData o) ∧ c.Effect

/-- A handle that is a number of the API. -/
def SmallHandle (xSocket : BitVec 32) : Prop := xSocket.toNat < 2 ^ 31

/-- The calls that do what they should. -/
def Call.Fine : Call → Prop
  | create f af type _ =>
    let xSocket := f FREERTOS_AF_INET (xType type) (xProtocol type)
    af ≠ IOT_SOCKET_AF_INET ∨ xSocket = FREERTOS_INVALID_SOCKET ∨ SmallHandle xSocket
  | accept f socket _ => (f socket).1 = FREERTOS_INVALID_SOCKET ∨ SmallHandle (f socket).1
  | listen f socket backlog =>
    f socket backlog = 0 ∨ f socket backlog = -pdFREERTOS_ERRNO_EOPNOTSUPP
  | recv f g socket buf len =>
    if len = 0 then Countable [-pdFREERTOS_ERRNO_EINVAL] (f socket)
    else buf = false ∨ g socket len ≠ 0 ∧ Countable recvErrors (g socket len)
  | recvFrom f g socket buf len n =>
    if len = 0 then Countable [-pdFREERTOS_ERRNO_EINVAL] (f socket)
    else buf = false ∨ ∃ sin_addr port, n.ip = some sin_addr ∧ n.port = some port ∧
      Countable recvFromErrors (g socket len ⟨sin_addr, FreeRTOS_htons port⟩)
  | send f g socket buf len =>
    if len = 0 then Countable [-pdFREERTOS_ERRNO_EINVAL] (f socket)
    else buf = false ∨ Countable sendErrors (g socket len)
  | sendTo f g socket buf len ip _ port =>
    if len = 0 then Countable [-pdFREERTOS_ERRNO_EINVAL] (f socket)
    else buf = false ∨ ∃ sin_addr, ip = some sin_addr ∧
      g socket len ⟨sin_addr, FreeRTOS_htons port⟩ ≠ 0 ∧
        Countable [] (g socket len ⟨sin_addr, FreeRTOS_htons port⟩)
  | getSockName _ _ n => n.short = some true ∨ n.short = some false ∧ n.port ≠ none
  | getPeerName f socket n => n.short = some true ∨ n.short = some false ∧
    ((f socket).1 = -pdFREERTOS_ERRNO_EINVAL ∨ 0 ≤ (f socket).1 ∧ n.port ≠ none)
  | getOpt f socket opt_id opt_val opt_len =>
    opt_val = false ∨ opt_len = none ∨ opt_len = some 0 ∨ opt_id ≠ IOT_SOCKET_SO_TYPE ∨
      0 ≤ f socket ∨ f socket = -pdFREERTOS_ERRNO_EINVAL
  | setOpt f socket opt_id opt_val opt_len xTimeout _ =>
    match opt_val with
    | none => True
    | some bytes =>
      let rval := if f socket .rcv 0 = 0 then f socket .snd 0 else f socket .rcv 0
      let set opt := f socket opt (timeoutTicks bytes opt_len xTimeout)
      opt_len = 0 ∨
        (opt_id = IOT_SOCKET_IO_FIONBIO →
          opt_len ≠ 4 ∨ rval = -pdFREERTOS_ERRNO_EINVAL ∨ rval = 0 ∧ wordAt bytes ≠ 0) ∧
        (opt_id = IOT_SOCKET_SO_RCVTIMEO →
          opt_len.toNat ≤ 4 ∧ (set .rcv = 0 ∨ set .rcv = -pdFREERTOS_ERRNO_EINVAL)) ∧
        (opt_id = IOT_SOCKET_SO_SNDTIMEO →
          opt_len.toNat ≤ 4 ∧ (set .snd = 0 ∨ set .snd = -pdFREERTOS_ERRNO_EINVAL))
  | close f socket => -1 ≤ f socket
  | bind .. | connect .. | getHostByName .. => True

/-! ## The functions -/

variable {c : Call} {o : Outcome}

theorem callLaw_iff (hrun : c.run = some o) (heff : c.Effect) :
    CallLaw c ↔ Returned c.Fails c.NoData o := by
  simp [CallLaw, hrun, heff]

/-- A handle is a number of the API if it is small. -/
theorem handle_returned {x : BitVec 32} (hok : ¬Failed x.toNat) (hempty : ¬Empty x.toNat) :
    Returned Failed Empty ⟨some x.toInt, some x.toNat⟩ ↔ SmallHandle x := by
  unfold SmallHandle
  have hpos : 0 ≤ x.toInt ↔ x.toNat < 2 ^ 31 := by
    rw [BitVec.toInt_eq_toNat_cond]
    have := x.isLt
    split <;> omega
  rw [← hpos]
  refine ⟨fun h => ?_, fun h => returned_result h hok (Int.natCast_nonneg _) hempty⟩
  by_contra hneg
  exact hok ((returned_some.1 h).2.1.1 (Int.not_le.1 hneg))

theorem create_law {f : Int → Int → Int → BitVec 32} {af type protocol : Int} :
    CallLaw (.create f af type protocol) ↔ (Call.create f af type protocol).Fine := by
  have heff : (Call.create f af type protocol).Effect := by
    intro domain xT xP h
    simp only [iotSocketCreate] at h
    split at h
    · cases h
    · cases h
      exact ⟨fun h => h ▸ ⟨rfl, rfl⟩, fun h => h ▸ ⟨rfl, rfl⟩⟩
  rw [callLaw_iff rfl heff]
  simp only [Call.Fine, iotSocketCreate]
  by_cases haf : af = IOT_SOCKET_AF_INET
  · by_cases hx : f FREERTOS_AF_INET (xType type) (xProtocol type) = FREERTOS_INVALID_SOCKET
    · simp only [haf, hx, ne_eq, not_true_eq_false, if_false, true_or, or_true, iff_true]
      exact returned_error (by decide) rfl (by decide) False.elim
    · simp only [haf, hx, ne_eq, not_true_eq_false, not_false_eq_true, if_false, if_true, false_or]
      exact handle_returned (fun h => hx (BitVec.eq_of_toNat_eq (Int.ofNat.inj h))) id
  · simp only [ne_eq, haf, not_false_eq_true, if_true, true_or, iff_true]
    exact refused_returned (by decide)

theorem bind_law {f : Int → SockAddr → Nat → Int} {socket : Int} {ip : Option (BitVec 32)}
    {ip_len : BitVec 32} {port : BitVec 16} : CallLaw (.bind f socket ip ip_len port) := by
  refine Iff.mpr (callLaw_iff rfl trivial) ?_
  unfold iotSocketBind
  split
  · exact refused_returned (by decide)
  · split
    · exact refused_returned (by decide)
    · exact bindCode_returned

theorem connect_law {f : Int → SockAddr → Nat → Int} {socket : Int} {ip : Option (BitVec 32)}
    {ip_len : BitVec 32} {port : BitVec 16} : CallLaw (.connect f socket ip ip_len port) := by
  refine Iff.mpr (callLaw_iff rfl trivial) ?_
  unfold iotSocketConnect
  split
  · exact refused_returned (by decide)
  · split
    · exact refused_returned (by decide)
    · exact connectCode_returned

/-- No other answer gives `stat` a value. -/
theorem listen_law {f : Int → Int → Int} {socket backlog : Int} :
    CallLaw (.listen f socket backlog) ↔ (Call.listen f socket backlog).Fine := by
  refine Iff.trans (callLaw_iff rfl trivial) ?_
  simp only [Call.Fine, iotSocketListen]
  by_cases h0 : f socket backlog = 0
  · rw [h0]
    exact iff_of_true (returned_result (Int.le_refl 0) (fun h => h rfl) (Int.le_refl 0) id) (.inl rfl)
  · by_cases hop : f socket backlog = -pdFREERTOS_ERRNO_EOPNOTSUPP
    · rw [hop]
      exact iff_of_true (returned_error (by decide) (by decide : -pdFREERTOS_ERRNO_EOPNOTSUPP ≠ 0)
        (by decide) False.elim) (.inr rfl)
    · rw [if_neg h0, if_neg hop]
      simp [not_returned_none, h0, hop]

theorem accept_law {f : Int → BitVec 32 × SockAddr} {socket : Int} {n : Name} :
    CallLaw (.accept f socket n) ↔ (Call.accept f socket n).Fine := by
  refine Iff.trans (callLaw_iff rfl trivial) ?_
  simp only [Call.Fine, iotSocketAccept]
  by_cases h0 : (f socket).1 = 0
  · simp only [h0, if_true]
    exact iff_of_true (returned_error (by decide) (.inl rfl) (by decide) False.elim)
      (.inr (by simp [SmallHandle]))
  · by_cases hx : (f socket).1 = FREERTOS_INVALID_SOCKET
    · rw [if_neg h0, if_pos hx, hx]
      exact iff_of_true (returned_error (by decide) (.inr rfl) (by decide) False.elim) (.inl rfl)
    · simp only [h0, hx, if_false, false_or]
      refine handle_returned (fun h => ?_) id
      obtain h | h := h
      · exact h0 (BitVec.eq_of_toNat_eq (Int.ofNat.inj h))
      · exact hx (BitVec.eq_of_toNat_eq (Int.ofNat.inj h))

/-- Each transfer asks for a count if the length is 0, and refuses a buffer that is `NULL`. -/
theorem transfer_law {ready : Int → Int} {socket : Int} {buf : Bool} {len : BitVec 32} {P : Prop}
    {x : Option Outcome} (heff : c.Effect)
    (hrun : c.run = if len = 0 then some (countReady ready socket)
      else if !buf then some (.refused IOT_SOCKET_EINVAL) else x)
    (hcount : len = 0 → ∀ r, (c.Fails r ↔ r < 0) ∧ ¬c.NoData r)
    (hcode : len ≠ 0 → ((∃ o, x = some o ∧ Returned c.Fails c.NoData o) ↔ P)) :
    CallLaw c ↔
      if len = 0 then Countable [-pdFREERTOS_ERRNO_EINVAL] (ready socket) else buf = false ∨ P := by
  by_cases hlen : len = 0
  · rw [if_pos hlen] at hrun ⊢
    obtain ⟨hfail, hempty⟩ := hcount hlen (ready socket)
    rw [callLaw_iff hrun heff]
    exact (returned_congr hfail (iff_false_intro hempty)).trans countReady_returned
  · rw [if_neg hlen] at hrun ⊢
    cases buf with
    | false => exact iff_of_true ((callLaw_iff hrun heff).2 (refused_returned (by decide))) (.inl rfl)
    | true =>
      simp only [Bool.not_true, Bool.false_eq_true, if_false] at hrun
      simp [CallLaw, hrun, heff, hcode hlen]

theorem recv_law {f : Int → Int} {g : Int → BitVec 32 → Int} {socket : Int} {buf : Bool} {len : BitVec 32} :
    CallLaw (.recv f g socket buf len) ↔ (Call.recv f g socket buf len).Fine := by
  refine transfer_law trivial (by rw [Call.run, iotSocketRecv, apply_ite some, apply_ite some])
    (fun hlen r => ?_) fun hlen => ?_
  · exact ⟨iff_of_eq (if_pos hlen), fun h => h.1 hlen⟩
  · simp only [Option.some.injEq, exists_eq_left']
    exact (returned_congr (iff_of_eq (if_neg hlen)) (and_iff_right hlen)).trans recvCode_returned

theorem send_law {f : Int → Int} {g : Int → BitVec 32 → Int} {socket : Int} {buf : Bool} {len : BitVec 32} :
    CallLaw (.send f g socket buf len) ↔ (Call.send f g socket buf len).Fine := by
  refine transfer_law trivial (by rw [Call.run, iotSocketSend, apply_ite some, apply_ite some])
    (fun _ r => ?_) fun _ => ?_
  · exact ⟨.rfl, id⟩
  · simp only [Option.some.injEq, exists_eq_left']
    exact sendCode_returned

/-- `ip` and `port` are read, whether the caller wants the address or not. -/
theorem recvFrom_law {f : Int → Int} {g : Int → BitVec 32 → SockAddr → Int} {socket : Int} {buf : Bool}
    {len : BitVec 32} {n : Name} :
    CallLaw (.recvFrom f g socket buf len n) ↔ (Call.recvFrom f g socket buf len n).Fine := by
  refine transfer_law trivial rfl (fun hlen r => ?_) fun hlen => ?_
  · exact ⟨.rfl, fun h => h.1 hlen⟩
  · obtain ⟨ip, ip_len, port⟩ := n
    cases ip with
    | none => cases port <;> simp
    | some sin_addr =>
      cases port with
      | none => simp
      | some port =>
        simp only [Option.some.injEq, exists_eq_left', exists_and_left]
        exact (returned_congr .rfl (and_iff_right hlen)).trans recvFromCode_returned

theorem sendTo_law {f : Int → Int} {g : Int → BitVec 32 → SockAddr → Int} {socket : Int} {buf : Bool}
    {len : BitVec 32} {ip : Option (BitVec 32)} {ip_len : BitVec 32} {port : BitVec 16} :
    CallLaw (.sendTo f g socket buf len ip ip_len port) ↔
      (Call.sendTo f g socket buf len ip ip_len port).Fine := by
  refine transfer_law trivial rfl (fun hlen r => ?_) fun hlen => ?_
  · exact ⟨iff_of_eq (if_pos hlen), id⟩
  · cases ip with
    | none => simp
    | some sin_addr =>
      simp only [Option.some.injEq, exists_eq_left']
      refine Iff.trans (@returned_congr _ _ _ _ (· ≤ 0) (fun _ => False) (iff_of_eq (if_neg hlen)) .rfl)
        (Iff.trans (returned_nonzero id False.elim) (and_congr_right fun _ => ?_))
      rw [returned_self]
      simp [Countable]

@[simp] theorem Name.copyIp_port (n : Name) (sin_addr : BitVec 32) : (n.copyIp sin_addr).port = n.port := by
  unfold Name.copyIp
  split
  · split <;> rfl
  · rfl
  · rfl
  · rfl

/-- The port is copied unless its pointer is `NULL`, and then the function does not come back. -/
theorem Name.copy_isSome (n : Name) (xAddress : SockAddr) :
    ((n.copyIp xAddress.sin_addr).copyPort xAddress.sin_port).isSome ↔ n.port ≠ none := by
  simp [Name.copyPort, Option.isSome_iff_ne_none]

/-- The answer is not looked at, but `*port` is read. -/
theorem getSockName_law {f : Int → SockAddr} {socket : Int} {n : Name} :
    CallLaw (.getSockName f socket n) ↔ (Call.getSockName f socket n).Fine := by
  have hcopy := n.copy_isSome (f socket)
  simp only [CallLaw, Call.Effect, and_true, Call.run, Call.Fine, iotSocketGetSockName]
  cases hs : n.short with
  | none => simp
  | some short =>
    cases short with
    | true =>
      have hret : Returned (Call.getSockName f socket n).Fails (Call.getSockName f socket n).NoData
        (.refused IOT_SOCKET_EINVAL) := refused_returned (by decide)
      simpa using hret
    | false =>
      have hret : Returned (Call.getSockName f socket n).Fails (Call.getSockName f socket n).NoData
        ⟨some 0, some 0⟩ := returned_result (Int.le_refl 0) id (Int.le_refl 0) id
      cases hn : (n.copyIp (f socket).sin_addr).copyPort (f socket).sin_port with
      | none => simpa [hn] using hcopy
      | some n' => simpa [hn, hret] using hcopy

theorem getPeerName_law {f : Int → Int × SockAddr} {socket : Int} {n : Name} :
    CallLaw (.getPeerName f socket n) ↔ (Call.getPeerName f socket n).Fine := by
  have hcopy := n.copy_isSome (f socket).2
  simp only [CallLaw, Call.Effect, and_true, Call.run, Call.Fine, iotSocketGetPeerName]
  cases hs : n.short with
  | none => simp
  | some short =>
    cases short with
    | true =>
      have hret : Returned (Call.getPeerName f socket n).Fails (Call.getPeerName f socket n).NoData
        (.refused IOT_SOCKET_EINVAL) := refused_returned (by decide)
      simpa using hret
    | false =>
      by_cases hinv : (f socket).1 = -pdFREERTOS_ERRNO_EINVAL
      · have hret : Returned (Call.getPeerName f socket n).Fails (Call.getPeerName f socket n).NoData
          ⟨some IOT_SOCKET_ESOCK, some (f socket).1⟩ := by
          rw [hinv]
          exact returned_error (by decide) (by decide : -pdFREERTOS_ERRNO_EINVAL < 0) (by decide) False.elim
        simpa [hinv] using hret
      · have hret : Returned (Call.getPeerName f socket n).Fails (Call.getPeerName f socket n).NoData
            ⟨some 0, some (f socket).1⟩ ↔ 0 ≤ (f socket).1 := by
          refine ⟨fun h => ?_, fun h => returned_result (Int.le_refl 0) (Int.not_lt.2 h) h id⟩
          by_contra hneg
          exact Int.lt_irrefl 0 ((returned_some.1 h).2.1.2 (Int.not_le.1 hneg))
        cases hn : (n.copyIp (f socket).2.sin_addr).copyPort (f socket).2.sin_port with
        | none => simpa [hn, hinv] using fun _ => hcopy
        | some n' =>
          have hport : n.port ≠ none := hcopy.1 (by rw [hn]; rfl)
          simp [hinv, hret, hport]

theorem getOpt_law {f : Int → Int} {socket opt_id : Int} {opt_val : Bool} {opt_len : Option (BitVec 32)} :
    CallLaw (.getOpt f socket opt_id opt_val opt_len) ↔ (Call.getOpt f socket opt_id opt_val opt_len).Fine := by
  refine Iff.trans (callLaw_iff rfl trivial) ?_
  simp only [Call.Fine, iotSocketGetOpt]
  by_cases hlen : !opt_val ∨ opt_len = none ∨ opt_len = some 0
  · rw [if_pos hlen]
    refine iff_of_true (refused_returned (by decide)) ?_
    simpa using hlen.imp_right (Or.imp_right .inl)
  · rw [if_neg hlen]
    by_cases hty : opt_id = IOT_SOCKET_SO_TYPE
    · subst hty
      rw [if_neg (by decide), if_neg (by decide), if_neg (by decide), if_pos rfl, returned_some]
      simp only [Bool.not_eq_true', not_or] at hlen
      simp only [hlen, false_or, ne_eq, not_true_eq_false]
      by_cases hinv : f socket = -pdFREERTOS_ERRNO_EINVAL
      · rw [hinv]
        simp [Call.Fails, Call.NoData]
        decide
      · simp only [hinv, Call.Fails, Call.NoData, if_false, ne_eq, not_false_eq_true, and_true, or_false,
          Bool.true_eq_false, false_or]
        refine ⟨fun ⟨_, hsign, _⟩ => ?_, fun h => ⟨.inl (by decide), ?_, fun hmem => ?_, False.elim⟩⟩
        · exact Int.not_lt.1 fun hneg => absurd (hsign.2 hneg) (by decide)
        · exact iff_of_false (by decide) (Int.not_lt.2 h)
        · exact absurd (errno_neg hmem) (Int.not_lt.2 h)
    · refine iff_of_true ?_ (.inr (.inr (.inr (.inl hty))))
      rw [if_neg hty]
      repeat' split
      all_goals exact refused_returned (by decide)

theorem close_law {f : Int → Int} {socket : Int} :
    CallLaw (.close f socket) ↔ (Call.close f socket).Fine := by
  refine Iff.trans (callLaw_iff rfl trivial) ?_
  simp only [Call.Fine, iotSocketClose]
  generalize f socket = r
  by_cases h0 : r = 0
  · subst h0
    exact iff_of_true (returned_error (by decide) (Int.le_refl 0) (by decide) False.elim) (by decide)
  · by_cases h1 : r = -1
    · subst h1
      exact iff_of_true (returned_error (by decide) (by decide : (-1 : Int) ≤ 0) (by decide) False.elim)
        (by decide)
    · rw [if_neg h0, if_neg h1]
      refine ⟨fun h => ?_, fun h => returned_result (Int.le_refl 0) ?_ (by omega) id⟩
      · have : ¬r ≤ 0 := fun hr => Int.lt_irrefl 0 ((returned_some.1 h).2.1.2 hr)
        omega
      · exact fun hr : r ≤ 0 => by omega

theorem getHostByName_law {f : String → BitVec 32} {name : Option String} {af : Int}
    {ip ip_len : Option (BitVec 32)} : CallLaw (.getHostByName f name af ip ip_len) := by
  refine Iff.mpr (callLaw_iff rfl trivial) ?_
  unfold iotSocketGetHostByName
  split
  · split
    · exact refused_returned (by decide)
    · split
      · exact refused_returned (by decide)
      · rename_i name _ _ _ _
        by_cases haddr : f name = 0
        · simp only [haddr]
          exact returned_error (by decide) rfl (by decide) False.elim
        · rw [if_pos haddr]
          refine returned_result (Int.le_refl 0) (fun h => ?_) (Int.natCast_nonneg _) id
          exact haddr (BitVec.eq_of_toNat_eq (Int.ofNat.inj h))
  all_goals exact refused_returned (by decide)

/-! ### Options that are set -/

/-- What the timeout functions store for an answer. -/
def setCode (rval : Int) : Int := if rval = -pdFREERTOS_ERRNO_EINVAL then IOT_SOCKET_EINVAL else 0

/-- Each answer but one counts as success. -/
theorem setCode_returned : Returned (· ≠ 0) (fun _ => False) ⟨some (setCode r), some r⟩ ↔
    r = 0 ∨ r = -pdFREERTOS_ERRNO_EINVAL := by
  by_cases hinv : r = -pdFREERTOS_ERRNO_EINVAL
  · subst hinv
    exact iff_of_true (returned_error (by decide) (by decide : -pdFREERTOS_ERRNO_EINVAL ≠ 0) (by decide)
      False.elim) (.inr rfl)
  · rw [setCode, if_neg hinv, or_iff_left hinv]
    refine ⟨fun h => ?_, fun h => ?_⟩
    · by_contra hr
      exact Int.lt_irrefl 0 ((returned_some.1 h).2.1.2 hr)
    · exact returned_result (Int.le_refl 0) (fun hne => hne h) (Int.le_of_eq h.symm) id

section SetOpt

variable {f : Int → TimeoutOpt → BitVec 32 → Int} {socket opt_id : Int} {opt_val : Option (Nat → BitVec 8)}
  {bytes xTimeout : Nat → BitVec 8} {opt_len : BitVec 32} {t : Timeouts} {opt : TimeoutOpt} {run : SetOptRun}

/-- The law for what a branch leaves. -/
def SetLaw (run : SetOptRun) (nonblocking : Prop) (value : BitVec 32) : Prop :=
  Returned (· ≠ 0) (fun _ => False) run.outcome ∧ run.copied ≤ 4 ∧
    (nonblocking → run.outcome.stat = some 0 → (run.timeouts.Blocking ↔ value = 0))

theorem setTimeout_law {value : BitVec 32} :
    SetLaw (setTimeout f socket opt bytes opt_len xTimeout t) False value ↔
      opt_len.toNat ≤ 4 ∧ (f socket opt (timeoutTicks bytes opt_len xTimeout) = 0 ∨
        f socket opt (timeoutTicks bytes opt_len xTimeout) = -pdFREERTOS_ERRNO_EINVAL) := by
  rw [SetLaw, and_comm, ← setCode_returned]
  simp [setTimeout, setCode]

/-- Where the timeouts were set, no call waits any more. -/
theorem nonblocking_law {rval : Int} {value : BitVec 32} {copied : Nat} (hcopied : copied ≤ 4)
    (hset : rval = 0 → ¬t.Blocking) :
    SetLaw ⟨⟨some (setCode rval), some rval⟩, copied, t⟩ True value ↔
      rval = -pdFREERTOS_ERRNO_EINVAL ∨ rval = 0 ∧ value ≠ 0 := by
  rw [SetLaw, setCode_returned]
  by_cases h0 : rval = 0
  · subst h0
    simp [hcopied, hset, setCode, pdFREERTOS_ERRNO_EINVAL]
  · by_cases hinv : rval = -pdFREERTOS_ERRNO_EINVAL
    · simp [hinv, hcopied, setCode, IOT_SOCKET_EINVAL]
    · simp [h0, hinv]

theorem setLaw_refused {v : Int} {P : Prop} {value : BitVec 32} (hmem : v ∈ iotErrors) :
    SetLaw ⟨.refused v, 0, t⟩ P value := by
  refine ⟨refused_returned hmem, Nat.zero_le 4, fun _ h => ?_⟩
  exact absurd (Option.some.inj h) (Int.ne_of_lt (iotErrors_neg v hmem))

theorem setNonblocking_law {value : BitVec 32} :
    SetLaw (setNonblocking f socket opt_len t) True value ↔
      opt_len ≠ 4 ∨
        (let rval := if f socket .rcv 0 = 0 then f socket .snd 0 else f socket .rcv 0
         rval = -pdFREERTOS_ERRNO_EINVAL ∨ rval = 0 ∧ value ≠ 0) := by
  unfold setNonblocking
  by_cases hlen : opt_len = 4
  · rw [if_neg (not_not_intro hlen), or_iff_right (not_not_intro hlen)]
    by_cases hrcv : f socket .rcv 0 = 0
    · simp only [if_pos hrcv]
      refine nonblocking_law (Nat.zero_le 4) fun hsnd => ?_
      rw [hsnd, hrcv]
      simp [Timeouts.Blocking, Timeouts.set]
    · simp only [if_neg hrcv]
      exact nonblocking_law (Nat.zero_le 4) fun h => absurd h hrcv
  · rw [if_pos hlen]
    exact iff_of_true (setLaw_refused (by decide)) (.inl hlen)

/-- The option's value counts for one option only. -/
theorem callLaw_setOpt : CallLaw (.setOpt f socket opt_id (some bytes) opt_len xTimeout t) ↔
    SetLaw (iotSocketSetOpt f socket opt_id (some bytes) opt_len xTimeout t)
      (opt_id = IOT_SOCKET_IO_FIONBIO) (wordAt bytes) := by
  refine ⟨fun ⟨⟨o, ho, hret⟩, hcopied, hval⟩ => ?_, fun ⟨hret, hcopied, hval⟩ => ?_⟩
  · cases ho
    exact ⟨hret, hcopied, hval bytes rfl⟩
  · exact ⟨⟨_, rfl, hret⟩, hcopied, fun _ hb => Option.some.inj hb ▸ hval⟩

theorem setLaw_congr {P Q : Prop} {value : BitVec 32} (h : P ↔ Q) : SetLaw run P value ↔ SetLaw run Q value := by
  rw [h]

theorem setOpt_law : CallLaw (.setOpt f socket opt_id opt_val opt_len xTimeout t) ↔
    (Call.setOpt f socket opt_id opt_val opt_len xTimeout t).Fine := by
  cases opt_val with
  | none =>
    refine iff_of_true ⟨⟨_, rfl, refused_returned (by decide)⟩, Nat.zero_le 4, fun _ h => ?_⟩ trivial
    cases h
  | some bytes =>
    rw [callLaw_setOpt]
    simp only [Call.Fine, iotSocketSetOpt]
    by_cases hlen : opt_len = 0
    · rw [if_pos hlen]
      exact iff_of_true (setLaw_refused (by decide)) (.inl hlen)
    rw [if_neg hlen, or_iff_right hlen]
    by_cases hnb : opt_id = IOT_SOCKET_IO_FIONBIO
    · subst hnb
      rw [if_pos rfl, setLaw_congr (iff_true_intro rfl), setNonblocking_law]
      simp [IOT_SOCKET_SO_RCVTIMEO, IOT_SOCKET_SO_SNDTIMEO, IOT_SOCKET_IO_FIONBIO]
    rw [if_neg hnb, setLaw_congr (iff_false_intro hnb)]
    by_cases hrcv : opt_id = IOT_SOCKET_SO_RCVTIMEO
    · subst hrcv
      rw [if_pos rfl, setTimeout_law]
      simp [IOT_SOCKET_SO_RCVTIMEO, IOT_SOCKET_SO_SNDTIMEO, IOT_SOCKET_IO_FIONBIO]
    by_cases hsnd : opt_id = IOT_SOCKET_SO_SNDTIMEO
    · subst hsnd
      rw [if_neg hrcv, if_pos rfl, setTimeout_law]
      simp [IOT_SOCKET_SO_RCVTIMEO, IOT_SOCKET_SO_SNDTIMEO, IOT_SOCKET_IO_FIONBIO]
    rw [if_neg hrcv, if_neg hsnd]
    refine iff_of_true ?_ ⟨fun h => absurd h hnb, fun h => absurd h hrcv, fun h => absurd h hsnd⟩
    split
    · exact setLaw_refused (by decide)
    · exact setLaw_refused (by decide)

end SetOpt

/-! ## All functions -/

/-- The law of the API, function by function. -/
theorem iotCall_iff (c : Call) : CallLaw c ↔ c.Fine := by
  cases c with
  | create => exact create_law
  | bind => exact iff_of_true bind_law trivial
  | listen => exact listen_law
  | accept => exact accept_law
  | connect => exact iff_of_true connect_law trivial
  | recv => exact recv_law
  | recvFrom => exact recvFrom_law
  | send => exact send_law
  | sendTo => exact sendTo_law
  | getSockName => exact getSockName_law
  | getPeerName => exact getPeerName_law
  | getOpt => exact getOpt_law
  | setOpt => exact setOpt_law
  | close => exact close_law
  | getHostByName => exact iff_of_true getHostByName_law trivial

/-- A function that waited in vain for data says that it received none. -/
theorem empty_receive_missed : ¬CallLaw (.recv (fun _ => 0) (fun _ _ => 0) 0 true 1) := by
  rw [recv_law]
  simp [Call.Fine]

end Sockets.FreeRTOSTcp
