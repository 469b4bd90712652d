import TrustZone.Sockets.IotSocket

/-!
# The timeout of a blocking receive

* `recvLoop_spec`: the loop returns the first answer of the device, or runs to its end.
* `recv_setopt`: a receive after the timeout was set polls for the 31 low bits of it.
* `recv_timeout_iff`: the receives that keep to the timeout.
-/

namespace Sockets

variable {len : BitVec 32} {device : Nat → Int} {n m k : Nat} {run : RecvRun} {sock_attr : SockAttrs}

/-! ## Polling -/

/-- What the device says is an answer: not that there is nothing yet, and not an end of data that fits. -/
def isAnswer (len : BitVec 32) (ret_val : Int) : Bool :=
  ret_val ≠ IOT_SOCKET_EAGAIN ∧ ¬(ret_val = 0 ∧ len ≠ 0)

/-- The first of `n` polls, from the `k`-th on, that the device answers. -/
def firstAnswer (len : BitVec 32) (device : Nat → Int) (k n : Nat) : Option Nat :=
  (List.range' k n).find? fun i => isAnswer len (device i)

theorem firstAnswer_succ : firstAnswer len device k (n + 1) =
    if isAnswer len (device k) then some k else firstAnswer len device (k + 1) n := by
  unfold firstAnswer
  rw [List.range'_succ, List.find?_cons]
  cases isAnswer len (device k) with
  | true => rfl
  | false => rfl

/-- More polls keep an answer. -/
theorem firstAnswer_mono {i : Nat} (hnm : n ≤ m) (h : firstAnswer len device k n = some i) :
    firstAnswer len device k m = some i := by
  have hsplit : List.range' k m = List.range' k n ++ List.range' (k + n) (m - n) := by
    rw [List.range'_append_1, Nat.add_sub_cancel' hnm]
  unfold firstAnswer at h ⊢
  rw [hsplit, List.find?_append, h, Option.some_or]

/-- An answer that fewer polls miss comes after them. -/
theorem firstAnswer_late {i : Nat} (hn : firstAnswer len device 0 n = none)
    (h : firstAnswer len device 0 m = some i) : n ≤ i := by
  by_contra hlt
  have hmem : i ∈ List.range' 0 n := List.mem_range'_1.2 ⟨Nat.zero_le i, by omega⟩
  have hans : isAnswer len (device i) = true := List.find?_some (p := fun i => isAnswer len (device i)) h
  exact List.find?_eq_none.1 hn i hmem hans

theorem isAnswer_iff {ret_val : Int} :
    isAnswer len ret_val = true ↔ ret_val ≠ IOT_SOCKET_EAGAIN ∧ ¬(ret_val = 0 ∧ len ≠ 0) :=
  decide_eq_true_iff

/-- A poll that is no answer stores `IOT_SOCKET_EAGAIN`, an answer is stored as it is. -/
theorem stored_answer (len : BitVec 32) (ret_val : Int) :
    (if ret_val = 0 ∧ len ≠ 0 then IOT_SOCKET_EAGAIN else ret_val) =
      if isAnswer len ret_val then ret_val else IOT_SOCKET_EAGAIN := by
  by_cases hzero : ret_val = 0 ∧ len ≠ 0
  · rw [if_pos hzero, if_neg]
    rw [isAnswer_iff]
    exact fun h => h.2 hzero
  · rw [if_neg hzero]
    split
    · rfl
    · rename_i hno
      by_contra heagain
      exact hno (isAnswer_iff.2 ⟨heagain, hzero⟩)

/-- What is returned when the polls are over. -/
def timedOut (n : Nat) (run : RecvRun) : RecvRun :=
  if n = 0 then run else ⟨some IOT_SOCKET_EAGAIN, run.polls + n⟩

/-- The loop, by induction on the polls that are left. -/
theorem recvLoop_spec (n : Nat) (run : RecvRun) : recvLoop len device n run =
    match firstAnswer len device run.polls n with
    | some i => ⟨some (device i), i + 1⟩
    | none => timedOut n run := by
  induction n generalizing run with
  | zero => rfl
  | succ n ih =>
    unfold recvLoop
    dsimp only
    rw [firstAnswer_succ, stored_answer]
    by_cases hans : isAnswer len (device run.polls) = true
    · have hne : device run.polls ≠ IOT_SOCKET_EAGAIN := (isAnswer_iff.1 hans).1
      simp only [if_pos hans, if_pos hne]
    · simp only [if_neg hans, ne_eq, not_true_eq_false, if_false]
      rw [ih]
      cases firstAnswer len device (run.polls + 1) n with
      | some i => rfl
      | none =>
        unfold timedOut
        rcases n with - | n
        · rfl
        · rw [if_neg (Nat.succ_ne_zero _), if_neg (Nat.succ_ne_zero _)]
          show RecvRun.mk (some IOT_SOCKET_EAGAIN) (run.polls + 1 + (n + 1)) =
            RecvRun.mk (some IOT_SOCKET_EAGAIN) (run.polls + (n + 1 + 1))
          congr 1
          omega

/-! ## The timeout -/

/-- How many polls a timeout in milliseconds is. -/
def pollCount (t : Nat) : Nat := (t + 9) / 10

theorem delay_eq (to_msec : BitVec 31) :
    ((to_msec.setWidth 32 + 9#32) / 10#32).toNat = pollCount to_msec.toNat := by
  have hlt := to_msec.isLt
  have hsum : (to_msec.toNat % 2 ^ 32 + 9 % 2 ^ 32) % 2 ^ 32 = to_msec.toNat + 9 := by omega
  unfold pollCount
  rw [BitVec.toNat_udiv, BitVec.toNat_add, BitVec.toNat_setWidth, BitVec.toNat_ofNat, BitVec.toNat_ofNat,
    hsum]

/-- A call of one of the two functions. -/
inductive RecvCall
  | recv (io : RecvIO) (device : RecvIO → Nat → Int)
  | recvFrom (io : RecvFromIO) (device : RecvFromIO → Nat → Int)

namespace RecvCall

def socket : RecvCall → Int
  | recv io _ => io.socket
  | recvFrom io _ => io.socket

def length : RecvCall → BitVec 32
  | recv io _ => io.len
  | recvFrom io _ => io.len

/-- The responses of the device. -/
def responses : RecvCall → Nat → Int
  | recv io device => device io
  | recvFrom io device => device io

def made (sock_attr : SockAttrs) : RecvCall → RecvRun
  | recv io device => iotSocketRecv sock_attr io device
  | recvFrom io device => iotSocketRecvFrom sock_attr io device

end RecvCall

variable {c : RecvCall} {i : Fin NUM_SOCKS}

theorem RecvCall.made_eq (hi : sockIndex c.socket = some i) :
    c.made sock_attr = receive (sock_attr i) c.length c.responses := by
  cases c with
  | recv io device =>
    show iotSocketRecv sock_attr io device = _
    unfold iotSocketRecv
    rw [show sockIndex io.socket = some i from hi]
    rfl
  | recvFrom io device =>
    show iotSocketRecvFrom sock_attr io device = _
    unfold iotSocketRecvFrom
    rw [show sockIndex io.socket = some i from hi]
    rfl

/-- A receive in blocking mode after the timeout was set. -/
theorem recv_setopt (hi : sockIndex c.socket = some i) (hblock : (sock_attr i).ionbio = 0) (t : BitVec 32)
    (opt_len : Nat) (ret : Int) :
    c.made (iotSocketSetOpt sock_attr c.socket IOT_SOCKET_SO_RCVTIMEO t opt_len ret).2 =
      recvLoop c.length c.responses (pollCount (t.toNat % 2 ^ 31)) ⟨none, 0⟩ := by
  have hset : (iotSocketSetOpt sock_attr c.socket IOT_SOCKET_SO_RCVTIMEO t opt_len ret).2 =
      Function.update sock_attr i { sock_attr i with to_msec := t.setWidth 31 } := by
    unfold iotSocketSetOpt
    rw [hi]
    rfl
  rw [hset, RecvCall.made_eq hi, Function.update_self]
  unfold receive
  rw [if_neg (not_not.2 hblock)]
  dsimp only
  rw [delay_eq, BitVec.toNat_setWidth]

/-- The call returns the first answer among the polls of its timeout, or that there was none, and asks the
device until then. -/
def KeepsTimeout (t : BitVec 32) (len : BitVec 32) (device : Nat → Int) (run : RecvRun) : Prop :=
  run = match firstAnswer len device 0 (pollCount t.toNat) with
    | some i => ⟨some (device i), i + 1⟩
    | none => ⟨some IOT_SOCKET_EAGAIN, pollCount t.toNat⟩

/-- The timeout is not 0 and fits in 31 bits, or an answer comes within what its 31 low bits give. -/
def TimeoutOk (t : BitVec 32) (len : BitVec 32) (device : Nat → Int) : Prop :=
  (0 < t.toNat ∧ t.toNat < 2 ^ 31) ∨
    firstAnswer len device 0 (pollCount (t.toNat % 2 ^ 31)) ≠ none

/-- **The timeout**: a receive in blocking mode keeps to the timeout that was set exactly when the timeout
is one from 1 to 2³¹ - 1, or an answer comes before the polls of its 31 low bits are over. -/
theorem recv_timeout_iff (hi : sockIndex c.socket = some i) (hblock : (sock_attr i).ionbio = 0)
    (t : BitVec 32) (opt_len : Nat) (ret : Int) :
    KeepsTimeout t c.length c.responses
        (c.made (iotSocketSetOpt sock_attr c.socket IOT_SOCKET_SO_RCVTIMEO t opt_len ret).2) ↔
      TimeoutOk t c.length c.responses := by
  have hle : pollCount (t.toNat % 2 ^ 31) ≤ pollCount t.toNat :=
    Nat.div_le_div_right (Nat.add_le_add_right (Nat.mod_le ..) 9)
  rw [recv_setopt hi hblock, recvLoop_spec]
  unfold KeepsTimeout TimeoutOk
  rcases hshort : firstAnswer c.length c.responses 0 (pollCount (t.toNat % 2 ^ 31)) with - | j
  · have hend : timedOut (pollCount (t.toNat % 2 ^ 31)) ⟨none, 0⟩ =
        ⟨if t.toNat % 2 ^ 31 = 0 then none else some IOT_SOCKET_EAGAIN, pollCount (t.toNat % 2 ^ 31)⟩ := by
      unfold timedOut pollCount
      split
      · have hpoll : (t.toNat % 2 ^ 31 + 9) / 10 = 0 := ‹_›
        rw [if_pos (by omega), hpoll]
      · rw [if_neg (by omega), Nat.zero_add]
    dsimp only
    rw [hend]
    simp only [ne_eq, not_true_eq_false, or_false]
    rcases hlong : firstAnswer c.length c.responses 0 (pollCount t.toNat) with - | j
    · rw [RecvRun.mk.injEq]
      unfold pollCount
      constructor
      · rintro ⟨hret, hpolls⟩
        by_cases hzero : t.toNat % 2 ^ 31 = 0
        · rw [if_pos hzero] at hret
          cases hret
        · omega
      · intro ⟨hpos, hlt⟩
        rw [Nat.mod_eq_of_lt hlt, if_neg (by omega)]
        exact ⟨rfl, rfl⟩
    · -- the answer comes after the last poll
      have hlate := firstAnswer_late hshort hlong
      refine iff_of_false (fun heq => ?_) fun hlt => ?_
      · have := congrArg RecvRun.polls heq
        dsimp only at this
        omega
      · rw [Nat.mod_eq_of_lt hlt.2, hlong] at hshort
        cases hshort
  · rw [firstAnswer_mono hle hshort]
    exact iff_of_true rfl (.inr (Option.some_ne_none j))

/-- A call of `iotSocketRecv` on the first socket, where the device has a byte at the third time. -/
def thirdPoll : RecvCall :=
  .recv ⟨0, 16⟩ fun _ i => if i = 2 then 1 else IOT_SOCKET_EAGAIN

/-- The attributes after `iotSocketCreate`. -/
def created : SockAttrs := fun _ => ⟨0, 60000⟩

theorem recv_timeout_thirty : KeepsTimeout 30 thirdPoll.length thirdPoll.responses
      (thirdPoll.made (iotSocketSetOpt created thirdPoll.socket IOT_SOCKET_SO_RCVTIMEO 30 4 0).2) ↔
    TimeoutOk 30 thirdPoll.length thirdPoll.responses :=
  recv_timeout_iff (i := 0) rfl rfl 30 4 0

/-- With a timeout of 0, nothing is stored in the value that is returned; with one of 2³¹ + 10, the device
is asked once. -/
theorem recv_timeout_missed :
    thirdPoll.made (iotSocketSetOpt created 0 IOT_SOCKET_SO_RCVTIMEO 0 4 0).2 = ⟨none, 0⟩ ∧
    ¬KeepsTimeout 0 thirdPoll.length thirdPoll.responses
      (thirdPoll.made (iotSocketSetOpt created 0 IOT_SOCKET_SO_RCVTIMEO 0 4 0).2) ∧
    thirdPoll.made (iotSocketSetOpt created 0 IOT_SOCKET_SO_RCVTIMEO 0x8000000A 4 0).2 =
      ⟨some IOT_SOCKET_EAGAIN, 1⟩ ∧
    ¬KeepsTimeout 0x8000000A thirdPoll.length thirdPoll.responses
      (thirdPoll.made (iotSocketSetOpt created 0 IOT_SOCKET_SO_RCVTIMEO 0x8000000A 4 0).2) := by
  have hzero : thirdPoll.made (iotSocketSetOpt created 0 IOT_SOCKET_SO_RCVTIMEO 0 4 0).2 = ⟨none, 0⟩ := by
    decide
  have hcut : thirdPoll.made (iotSocketSetOpt created 0 IOT_SOCKET_SO_RCVTIMEO 0x8000000A 4 0).2 =
      ⟨some IOT_SOCKET_EAGAIN, 1⟩ := by
    decide
  have hthird : firstAnswer thirdPoll.length thirdPoll.responses 0 3 = some 2 := by decide
  have hlong : firstAnswer thirdPoll.length thirdPoll.responses 0
      (pollCount (0x8000000A : BitVec 32).toNat) = some 2 :=
    firstAnswer_mono (by decide) hthird
  refine ⟨hzero, fun h => ?_, hcut, fun h => ?_⟩
  · rw [hzero] at h
    unfold KeepsTimeout at h
    exact absurd h (by decide)
  · rw [hcut] at h
    unfold KeepsTimeout at h
    rw [hlong] at h
    exact absurd h (by decide)

end Sockets
