import TrustZone.Sockets.NetworkInterface

/-!
# Frames and network buffers

`ReadFrame` answers an error with a negative number, which the comparison with `0U` takes for a count: the buffer
goes on as if it was filled, and the frame stays in the driver.

* `frameLaw_iff`: one frame is handled right exactly when its read was no error.
* `ethThread_iff`: **the receive loop** handles every frame, and ends, exactly when no read was one.
-/

namespace Sockets

variable {ans : Nat → FrameAns} {a : FrameAns} {size : BitVec 32} {n fuel : Nat} {frames : List FrameSize}
  {groups : List (List EthEvent)} {wakeups : List (List FrameSize)}

/-! ## One frame -/

/-- The event looks at the buffer, or hands it over. -/
def EthEvent.UsesBuffer (e : EthEvent) : Prop :=
  e = .eConsiderFrameForProcessing ∨ ∃ sent, e = .xSendEventStructToIPTask sent

/-- The event is that of a buffer which is granted. -/
def EthEvent.obtains : EthEvent → Bool
  | .pxGetNetworkBufferWithDescriptor _ granted => granted
  | _ => false

/-- **What should be done with a frame**: a buffer that is granted is handed over or released, once; it is used
only after it was filled; and the frame is taken out of the driver once. -/
structure FrameLaw (events : List EthEvent) : Prop where
  owned : events.count (.xSendEventStructToIPTask true) + events.count .vReleaseNetworkBufferAndDescriptor =
    events.countP EthEvent.obtains
  filled : ∀ pre e post, events = pre ++ e :: post → e.UsesBuffer →
    ∃ size rval, 0 < rval.toInt ∧ .ReadFrame size rval ∈ pre
  taken : events.countP EthEvent.takes = 1

/-- A buffer is granted, and the read answers an error. -/
def FrameAns.ReadError (a : FrameAns) : Prop := a.pxBufferDescriptor = true ∧ a.ReadFrame.toInt < 0

theorem getBuffer_not_used {granted : Bool} :
    ¬(EthEvent.pxGetNetworkBufferWithDescriptor size granted).UsesBuffer := by
  rintro (h | ⟨sent, h⟩) <;> cases h

theorem readFrame_not_used {rval : BitVec 32} : ¬(EthEvent.ReadFrame size rval).UsesBuffer := by
  rintro (h | ⟨sent, h⟩) <;> cases h

/-- What comes after a read with a positive result. -/
theorem filled_of_read {rval : BitVec 32} (hrval : 0 < rval.toInt) {granted : Bool} {rest : List EthEvent} :
    ∀ pre e post, .pxGetNetworkBufferWithDescriptor size granted :: .ReadFrame size rval :: rest =
      pre ++ e :: post → e.UsesBuffer → ∃ size rval, 0 < rval.toInt ∧ .ReadFrame size rval ∈ pre := by
  intro pre e post h he
  match pre, h with
  | [], h =>
    obtain ⟨rfl, -⟩ := List.cons.inj h
    exact absurd he getBuffer_not_used
  | [_], h =>
    obtain ⟨rfl, -⟩ := List.cons.inj (List.cons.inj h).2
    exact absurd he readFrame_not_used
  | _ :: e' :: pre, h =>
    obtain ⟨rfl, -⟩ := List.cons.inj (List.cons.inj h).2
    exact ⟨size, rval, hrval, by simp⟩

/-- A buffer that is never used. -/
theorem filled_of_unused {events : List EthEvent} (h : ∀ e ∈ events, ¬e.UsesBuffer) :
    ∀ pre e post, events = pre ++ e :: post → e.UsesBuffer →
      ∃ size rval, 0 < rval.toInt ∧ .ReadFrame size rval ∈ pre := by
  rintro pre e post rfl he
  exact absurd he (h e (by simp))

theorem rvalPositive_iff (rval : BitVec 32) : rvalPositive rval = true ↔ rval ≠ 0 := by
  rw [rvalPositive, decide_eq_true_iff, Nat.pos_iff_ne_zero, ne_eq, ne_eq, ← BitVec.toNat_inj]
  rfl

/-- No buffer. -/
theorem frameLaw_refused (h : a.pxBufferDescriptor = false) : FrameLaw (rxFrame size a) := by
  have heq : rxFrame size a = [.pxGetNetworkBufferWithDescriptor size false, .dump] := by
    simp [rxFrame, readFrame, h]
  rw [heq]
  refine ⟨rfl, filled_of_unused ?_, rfl⟩
  simp [EthEvent.UsesBuffer]

/-- The driver gave nothing. -/
theorem frameLaw_zero (h : a.pxBufferDescriptor = true) (hrval : a.ReadFrame = 0) :
    FrameLaw (rxFrame size a) := by
  have heq : rxFrame size a = [.pxGetNetworkBufferWithDescriptor size true, .ReadFrame size 0, .dump,
      .vReleaseNetworkBufferAndDescriptor] := by
    simp [rxFrame, readFrame, h, hrval, rvalPositive]
  rw [heq]
  refine ⟨rfl, filled_of_unused ?_, rfl⟩
  simp [EthEvent.UsesBuffer]

/-- A result other than zero goes on. -/
theorem rxFrame_nonzero (h : a.pxBufferDescriptor = true) (hrval : a.ReadFrame ≠ 0) : rxFrame size a =
    .pxGetNetworkBufferWithDescriptor size true :: .ReadFrame size a.ReadFrame ::
      ((handOver a).1 ++ if (handOver a).2 then [.vReleaseNetworkBufferAndDescriptor] else []) := by
  have hpos : rvalPositive a.ReadFrame = true := (rvalPositive_iff _).2 hrval
  simp [rxFrame, readFrame, h, hpos]

/-- A buffer that was filled. -/
theorem frameLaw_positive (h : a.pxBufferDescriptor = true) (hrval : 0 < a.ReadFrame.toInt) :
    FrameLaw (rxFrame size a) := by
  have hne : a.ReadFrame ≠ 0 := by
    intro h0
    rw [h0] at hrval
    exact absurd hrval (by decide)
  rw [rxFrame_nonzero h hne]
  refine ⟨?_, filled_of_read hrval, ?_⟩
  · unfold handOver
    cases a.eProcessBuffer <;> cases a.sent <;> simp [List.countP_cons, EthEvent.obtains]
  · unfold handOver
    cases a.eProcessBuffer <;> cases a.sent <;> simp [List.countP_cons, EthEvent.takes, hrval]

/-- An error: the buffer is looked at. -/
theorem frameLaw_error (h : a.ReadError) : ¬FrameLaw (rxFrame size a) := by
  have hne : a.ReadFrame ≠ 0 := by
    intro h0
    have hneg := h.2
    rw [h0] at hneg
    exact absurd hneg (by decide)
  rw [rxFrame_nonzero h.1 hne]
  intro hlaw
  obtain ⟨post, hpost⟩ : ∃ post, (handOver a).1 = .eConsiderFrameForProcessing :: post := by
    unfold handOver
    split <;> exact ⟨_, rfl⟩
  obtain ⟨_, rval, hrval, hmem⟩ := hlaw.filled
    [.pxGetNetworkBufferWithDescriptor size true, .ReadFrame size a.ReadFrame] _ _
    (by rw [hpost]; rfl) (.inl rfl)
  simp only [List.mem_cons, reduceCtorEq, EthEvent.ReadFrame.injEq, List.not_mem_nil, or_false, false_or] at hmem
  rw [hmem.2] at hrval
  exact absurd h.2 (Int.not_lt.2 (Int.le_of_lt hrval))

/-- **One frame** is handled right exactly when its read was no error. -/
theorem frameLaw_iff : FrameLaw (rxFrame size a) ↔ ¬a.ReadError := by
  constructor
  · exact fun h herr => frameLaw_error herr h
  · intro h
    cases hbuf : a.pxBufferDescriptor with
    | false => exact frameLaw_refused hbuf
    | true =>
      have hnonneg : 0 ≤ a.ReadFrame.toInt := Int.not_lt.1 fun hneg => h ⟨hbuf, hneg⟩
      rcases Int.lt_or_eq_of_le hnonneg with hpos | hzero
      · exact frameLaw_positive hbuf hpos
      · apply frameLaw_zero hbuf
        apply BitVec.eq_of_toInt_eq
        rw [← hzero]
        rfl

/-! ## The loop -/

/-- The groups are what was done on the answers from the `n`-th on. -/
def Answered (ans : Nat → FrameAns) (n : Nat) (groups : List (List EthEvent)) : Prop :=
  ∀ i group, groups[i]? = some group → ∃ size, group = rxFrame size (ans (n + i))

theorem Answered.nil : Answered ans n [] := by
  intro i group h
  simp at h

theorem Answered.cons (h : Answered ans (n + 1) groups) : Answered ans n (rxFrame size (ans n) :: groups) := by
  intro i group hi
  cases i with
  | zero => exact ⟨size, by simpa using hi.symm⟩
  | succ i =>
    obtain ⟨size', rfl⟩ := h i group (by simpa using hi)
    exact ⟨size', by rw [Nat.add_right_comm, Nat.add_assoc]⟩

theorem Answered.append {groups' : List (List EthEvent)} (h : Answered ans n groups)
    (h' : Answered ans (n + groups.length) groups') : Answered ans n (groups ++ groups') := by
  intro i group hi
  rw [List.getElem?_append] at hi
  split at hi
  next => exact h i group hi
  next hge =>
    obtain ⟨size, rfl⟩ := h' _ group hi
    refine ⟨size, ?_⟩
    rw [Nat.add_assoc, Nat.add_sub_cancel' (Nat.le_of_not_lt hge)]

theorem rxLoop_answered (h : rxLoop ans fuel n frames = some groups) : Answered ans n groups := by
  induction fuel generalizing n frames groups with
  | zero => cases h
  | succ fuel ih =>
    cases frames with
    | nil =>
      cases h
      exact .nil
    | cons size frames =>
      obtain ⟨rest, hrest, rfl⟩ := Option.map_eq_some_iff.1 h
      exact (ih hrest).cons

theorem ethThread_answered (h : ETH_Thread ans fuel n wakeups = some groups) : Answered ans n groups := by
  induction wakeups generalizing n groups with
  | nil =>
    cases h
    exact .nil
  | cons frames wakeups ih =>
    simp only [ETH_Thread] at h
    split at h
    next => cases h
    next events hevents =>
      obtain ⟨rest, hrest, rfl⟩ := Option.map_eq_some_iff.1 h
      exact (rxLoop_answered hevents).append (ih hrest)

/-- While no read is an error, every frame takes one iteration. -/
theorem rxLoop_finishes (hans : ∀ i < frames.length, ¬(ans (n + i)).ReadError) (hfuel : frames.length < fuel) :
    ∃ groups, rxLoop ans fuel n frames = some groups ∧ groups.length = frames.length ∧
      ∀ l ∈ groups, FrameLaw l := by
  induction frames generalizing n fuel with
  | nil =>
    obtain ⟨fuel, rfl⟩ := Nat.exists_eq_succ_of_ne_zero (Nat.ne_of_gt hfuel)
    exact ⟨[], rfl, rfl, by simp⟩
  | cons size frames ih =>
    obtain ⟨fuel, rfl⟩ := Nat.exists_eq_succ_of_ne_zero (Nat.ne_of_gt (Nat.zero_lt_of_lt hfuel))
    have hlaw : FrameLaw (rxFrame size.1 (ans n)) := frameLaw_iff.2 (hans 0 (Nat.zero_lt_succ _))
    have hrest : ∀ i < frames.length, ¬(ans (n + 1 + i)).ReadError := by
      intro i hi
      rw [Nat.add_right_comm]
      exact hans (i + 1) (Nat.succ_lt_succ hi)
    obtain ⟨groups, hgroups, hlen, hall⟩ := ih hrest (Nat.lt_of_succ_lt_succ hfuel)
    refine ⟨rxFrame size (ans n) :: groups, ?_, by simp [hlen], ?_⟩
    · simp only [rxLoop, hlaw.taken, List.drop_succ_cons, List.drop_zero, hgroups, Option.map_some]
    · intro l hl
      rcases List.mem_cons.1 hl with rfl | hl
      · exact hlaw
      · exact hall l hl

theorem ethThread_finishes (hans : ∀ i < wakeups.flatten.length, ¬(ans (n + i)).ReadError)
    (hfuel : wakeups.flatten.length < fuel) : ∃ groups, ETH_Thread ans fuel n wakeups = some groups ∧
      groups.length = wakeups.flatten.length ∧ ∀ l ∈ groups, FrameLaw l := by
  induction wakeups generalizing n with
  | nil => exact ⟨[], rfl, rfl, by simp⟩
  | cons frames wakeups ih =>
    rw [List.flatten_cons, List.length_append] at hans hfuel
    obtain ⟨groups, hgroups, hlen, hall⟩ :=
      rxLoop_finishes (fun i hi => hans i (by omega)) (by omega : frames.length < fuel)
    have hrest : ∀ i < wakeups.flatten.length, ¬(ans (n + groups.length + i)).ReadError := by
      intro i hi
      rw [hlen, Nat.add_assoc]
      exact hans (frames.length + i) (Nat.add_lt_add_left hi _)
    obtain ⟨groups', hgroups', hlen', hall'⟩ := ih hrest (by omega)
    refine ⟨groups ++ groups', ?_, ?_, ?_⟩
    · simp only [ETH_Thread, hgroups, hgroups', Option.map_some]
    · rw [List.length_append, List.flatten_cons, List.length_append, hlen, hlen']
    · intro l hl
      rcases List.mem_append.1 hl with hl | hl
      · exact hall l hl
      · exact hall' l hl

/-- **What the receive loop should do**: it ends after every wake-up, and every frame was handled right. -/
def RxLaw (ans : Nat → FrameAns) (wakeups : List (List FrameSize)) : Prop :=
  ∃ fuel groups, ETH_Thread ans fuel 0 wakeups = some groups ∧ groups.length = wakeups.flatten.length ∧
    ∀ l ∈ groups, FrameLaw l

theorem RxLaw.no_error (h : RxLaw ans wakeups) : ∀ n < wakeups.flatten.length, ¬(ans n).ReadError := by
  intro n hn
  obtain ⟨fuel, groups, hrun, hlen, hall⟩ := h
  obtain ⟨group, hgroup⟩ : ∃ group, groups[n]? = some group := ⟨_, List.getElem?_eq_getElem (hlen ▸ hn)⟩
  obtain ⟨size, rfl⟩ := ethThread_answered hrun n group hgroup
  rw [Nat.zero_add] at hgroup
  exact frameLaw_iff.1 (hall _ (List.mem_of_getElem? hgroup))

/-- **The receive loop** does what it should exactly when none of the reads of its frames is an error. -/
theorem ethThread_iff : RxLaw ans wakeups ↔ ∀ n < wakeups.flatten.length, ¬(ans n).ReadError := by
  constructor
  · exact RxLaw.no_error
  · intro h
    obtain ⟨groups, hrun, hlen, hall⟩ := ethThread_finishes (n := 0)
      (fun i hi => by rw [Nat.zero_add]; exact h i hi) (Nat.lt_succ_self _)
    exact ⟨_, groups, hrun, hlen, hall⟩

/-- The driver answers `ARM_DRIVER_ERROR`: nothing was read, and the frame is not dumped. -/
theorem readError_missed : ¬∀ (ans : Nat → FrameAns) (wakeups : List (List FrameSize)), RxLaw ans wakeups := by
  intro h
  have hlaw := h (fun _ => ⟨true, -1, false, false⟩) [[⟨60, by decide⟩]]
  exact hlaw.no_error 0 (by decide) ⟨rfl, by decide⟩

end Sockets
