import TrustZone.OtaDemo.EventBuffers

/-!
# Who holds an event buffer

A buffer that is in use belongs to one event that the OTA agent has accepted and not processed
(`EventLaw`). A refused event keeps its buffer, and a payload of any length is copied:
`event_step_iff` is the exact condition for one step, and `event_buffers_iff` for every run.
-/

namespace OtaDemo

open Lib Machine

variable {n capacity : Nat}

/-! ## What is to hold -/

/-- How many pending events refer to a buffer. -/
def references (s : EventState n capacity) (i : Fin n) : Nat :=
  s.pending.countP fun msg => msg.pEventData = i

/-- **The law**: a buffer is in use just when exactly one pending event refers to it, never more do, and
with no event pending all buffers are free. -/
structure EventLaw (s : EventState n capacity) : Prop where
  used : ∀ i, (s.pxEventBuffer i).bufferUsed = true ↔ references s i = 1
  single : ∀ i, references s i ≤ 1
  drained : s.pending = [] → ∀ i, (s.pxEventBuffer i).bufferUsed = false

/-- **The condition**: a message that gets a buffer fits into it and is accepted, and the semaphore is taken
for the buffer of an event that was processed. -/
def EventFine (s : EventState n capacity) : EventCall n → Prop
  | .message _ pPayload lock accepted =>
    lock = true → (∃ i, (s.pxEventBuffer i).bufferUsed = false) →
      accepted = true ∧ pPayload.length ≤ capacity
  | .processed msg lock => msg ∈ s.pending → lock = true
  | .callback _ _ => True

theorem EventLaw.of_references {s : EventState n capacity}
    (h : ∀ i, references s i = if (s.pxEventBuffer i).bufferUsed then 1 else 0) : EventLaw s := by
  refine ⟨fun i => ?_, fun i => ?_, fun hnil i => ?_⟩
  · rw [h i]
    split_ifs with hused
    · exact iff_of_true hused rfl
    · exact iff_of_false hused (by decide)
  · rw [h i]
    split_ifs
    · exact le_refl 1
    · exact Nat.zero_le 1
  · have hzero : references s i = 0 := by
      unfold references
      rw [hnil]
      rfl
    rw [h i] at hzero
    split_ifs at hzero with hused
    exact Bool.eq_false_of_not_eq_true hused

theorem EventLaw.references_eq {s : EventState n capacity} (h : EventLaw s) (i : Fin n) :
    references s i = if (s.pxEventBuffer i).bufferUsed then 1 else 0 := by
  have hsingle := h.single i
  split_ifs with hused
  · exact (h.used i).1 hused
  · have hne : references s i ≠ 1 := fun h1 => hused ((h.used i).2 h1)
    omega

/-! ## The callbacks -/

theorem bufferGet_none {lock : Bool} {b b' : EventBuffers n capacity}
    (hget : prvOtaEventBufferGet lock b = (none, b')) :
    b' = b ∧ ¬(lock = true ∧ ∃ i, (b i).bufferUsed = false) := by
  unfold prvOtaEventBufferGet at hget
  split_ifs at hget with hlock
  · split at hget
    · rename_i hnone
      obtain ⟨-, rfl⟩ := Prod.mk.inj hget
      refine ⟨rfl, ?_⟩
      intro ⟨_, i, hi⟩
      have hall := List.find?_eq_none.1 hnone i (List.mem_finRange i)
      rw [hi] at hall
      exact hall rfl
    · cases hget
  · obtain ⟨-, rfl⟩ := Prod.mk.inj hget
    exact ⟨rfl, fun h => hlock h.1⟩

theorem bufferGet_some {lock : Bool} {b b' : EventBuffers n capacity} {i : Fin n}
    (hget : prvOtaEventBufferGet lock b = (some i, b')) :
    lock = true ∧ (b i).bufferUsed = false ∧
      b' = Function.update b i { b i with bufferUsed := true } := by
  unfold prvOtaEventBufferGet at hget
  split_ifs at hget with hlock
  · split at hget
    · cases hget
    · rename_i hsome
      obtain ⟨hi, rfl⟩ := Prod.mk.inj hget
      obtain rfl := Option.some.inj hi
      have hfree := List.find?_some hsome
      exact ⟨hlock, by simpa using hfree, rfl⟩
  · cases hget

theorem fill_ok {d d' : OtaEventData capacity} {pPayload : List UInt8}
    (hfill : d.fill pPayload = .ok d') :
    pPayload.length ≤ capacity ∧ d'.bufferUsed = d.bufferUsed := by
  unfold OtaEventData.fill at hfill
  split at hfill
  · cases hfill
  · rename_i data hcopy
    obtain rfl := Except.ok.inj hfill
    obtain ⟨-, hwrite, -⟩ := memcpy_ok.1 hcopy
    rw [d.size, Nat.zero_add] at hwrite
    exact ⟨hwrite, rfl⟩

theorem fill_error {d : OtaEventData capacity} {pPayload : List UInt8} {e : MemFault}
    (hfill : d.fill pPayload = .error e) : capacity < pPayload.length := by
  unfold OtaEventData.fill at hfill
  split at hfill
  · rename_i hcopy
    apply Nat.lt_of_not_le
    intro hle
    have hok := memcpy_ok.2 ⟨le_refl pPayload.length,
      (by rw [d.size, Nat.zero_add]; exact hle : 0 + pPayload.length ≤ d.data.length), rfl⟩
    rw [hok] at hcopy
    cases hcopy
  · cases hfill

/-- Both callbacks for messages take a message the same way. -/
theorem takeMessage_eq (n capacity : Nat) (handled : Handled) : ∃ eventId,
    (takeMessage handled : Bool → EventBuffers n capacity → _) = receivePublish eventId := by
  cases handled with
  | jobDocument => exact ⟨.receivedJobDocument, rfl⟩
  | fileBlock => exact ⟨.receivedFileBlock, rfl⟩

/-! ## One step -/

theorem takeMessage_none {handled : Handled} {lock : Bool} {b b' : EventBuffers n capacity}
    {pPayload : List UInt8} (htake : takeMessage handled lock b pPayload = .ok (none, b')) :
    b' = b ∧ ¬(lock = true ∧ ∃ i, (b i).bufferUsed = false) := by
  obtain ⟨eventId, heq⟩ := takeMessage_eq n capacity handled
  rw [heq] at htake
  unfold receivePublish at htake
  split at htake
  · rename_i hget
    obtain ⟨-, rfl⟩ := Prod.mk.inj (Except.ok.inj htake)
    exact bufferGet_none hget
  · split at htake
    · cases htake
    · cases htake

theorem takeMessage_some {handled : Handled} {lock : Bool} {b b' : EventBuffers n capacity}
    {pPayload : List UInt8} {msg : OtaEventMsg n}
    (htake : takeMessage handled lock b pPayload = .ok (some msg, b')) :
    lock = true ∧ (b msg.pEventData).bufferUsed = false ∧ pPayload.length ≤ capacity ∧
      ∀ i, (b' i).bufferUsed = if i = msg.pEventData then true else (b i).bufferUsed := by
  obtain ⟨eventId, heq⟩ := takeMessage_eq n capacity handled
  rw [heq] at htake
  unfold receivePublish at htake
  split at htake
  · cases htake
  · rename_i i b₁ hget
    obtain ⟨hlock, hfree, rfl⟩ := bufferGet_some hget
    split at htake
    · cases htake
    · rename_i d hfill
      obtain ⟨hmsg, rfl⟩ := Prod.mk.inj (Except.ok.inj htake)
      obtain rfl := Option.some.inj hmsg
      obtain ⟨hlen, hused⟩ := fill_ok hfill
      refine ⟨hlock, hfree, hlen, fun j => ?_⟩
      by_cases hj : j = i
      · subst hj
        rw [if_pos rfl, Function.update_self, hused, Function.update_self]
      · rw [if_neg hj, Function.update_of_ne hj, Function.update_of_ne hj]

/-- A message that does not fit gets a buffer all the same. -/
theorem takeMessage_error {handled : Handled} {lock : Bool} {b : EventBuffers n capacity}
    {pPayload : List UInt8} {e : MemFault} (htake : takeMessage handled lock b pPayload = .error e) :
    lock = true ∧ (∃ i, (b i).bufferUsed = false) ∧ capacity < pPayload.length := by
  obtain ⟨eventId, heq⟩ := takeMessage_eq n capacity handled
  rw [heq] at htake
  unfold receivePublish at htake
  split at htake
  · cases htake
  · rename_i i b₁ hget
    obtain ⟨hlock, hfree, -⟩ := bufferGet_some hget
    split at htake
    · rename_i hfill
      exact ⟨hlock, ⟨i, hfree⟩, fill_error hfill⟩
    · cases htake

theorem message_iff {s : EventState n capacity} (h : EventLaw s) (handled : Handled)
    (pPayload : List UInt8) (lock accepted : Bool) :
    (∃ s' o, eventStep s (.message handled pPayload lock accepted) = some (s', o) ∧ EventLaw s') ↔
      EventFine s (.message handled pPayload lock accepted) := by
  unfold eventStep
  dsimp only
  split
  · rename_i htake
    obtain ⟨hlock, hfree, hlong⟩ := takeMessage_error htake
    refine iff_of_false ?_ fun hfine => ?_
    · intro ⟨s', o, hs', _⟩
      cases hs'
    · exact absurd (hfine hlock hfree).2 (Nat.not_le.2 hlong)
  · rename_i b htake
    obtain ⟨rfl, hnot⟩ := takeMessage_none htake
    refine iff_of_true ⟨s, (), rfl, h⟩ fun hlock hfree => absurd ⟨hlock, hfree⟩ hnot
  · rename_i msg b htake
    obtain ⟨hlock, hfree, hlen, hused⟩ := takeMessage_some htake
    have hzero : references s msg.pEventData = 0 := by
      rw [h.references_eq, hfree]
      rfl
    constructor
    · intro ⟨s', o, hs', hlaw⟩ _ _
      obtain ⟨rfl, -⟩ := Prod.mk.inj (Option.some.inj hs')
      refine ⟨?_, hlen⟩
      -- the buffer is in use, so an event refers to it
      have hone := (hlaw.used msg.pEventData).1 ((hused msg.pEventData).trans (if_pos rfl))
      by_contra haccepted
      rw [Bool.eq_false_of_not_eq_true haccepted] at hone
      have hsame : references s msg.pEventData = 1 := hone
      omega
    · intro hfine
      obtain ⟨rfl, -⟩ := hfine hlock ⟨msg.pEventData, hfree⟩
      refine ⟨_, (), rfl, EventLaw.of_references fun i => ?_⟩
      have hcount : references (⟨b, s.pending ++ [msg]⟩ : EventState n capacity) i =
          references s i + if msg.pEventData = i then 1 else 0 := by
        simp [references, List.countP_append, List.countP_cons]
      show references ⟨b, s.pending ++ [msg]⟩ i = if (b i).bufferUsed then 1 else 0
      rw [hcount, hused i, h.references_eq]
      by_cases hi : msg.pEventData = i
      · subst hi
        simp [hfree]
      · simp [hi, Ne.symm hi]

/-- The events that are left refer to a buffer as often, but for the one that is processed. -/
theorem references_erase {pending : List (OtaEventMsg n)} {msg : OtaEventMsg n}
    (hmem : msg ∈ pending) (i : Fin n) :
    pending.countP (fun m => m.pEventData = i) =
      (pending.erase msg).countP (fun m => m.pEventData = i) +
        if msg.pEventData = i then 1 else 0 := by
  rw [(List.perm_cons_erase hmem).countP_eq, List.countP_cons]
  simp

theorem processed_iff {s : EventState n capacity} (h : EventLaw s) (msg : OtaEventMsg n)
    (lock : Bool) :
    (∃ s' o, eventStep s (.processed msg lock) = some (s', o) ∧ EventLaw s') ↔
      EventFine s (.processed msg lock) := by
  unfold eventStep
  by_cases hmem : msg ∈ s.pending
  · have hcount : ∀ i, references s i =
        (s.pending.erase msg).countP (fun m => m.pEventData = i) +
          if msg.pEventData = i then 1 else 0 := references_erase hmem
    have hone : references s msg.pEventData = 1 := by
      have hpos : 0 < references s msg.pEventData := List.countP_pos_iff.2 ⟨msg, hmem, by simp⟩
      have hsingle := h.single msg.pEventData
      omega
    dsimp only
    rw [if_pos hmem]
    constructor
    · intro ⟨s', o, hs', hlaw⟩ _
      obtain ⟨rfl, -⟩ := Prod.mk.inj (Option.some.inj hs')
      by_contra hlock
      -- the buffer stays in use, and no event refers to it
      rw [Bool.eq_false_of_not_eq_true hlock] at hlaw
      have hused := (hlaw.used msg.pEventData).1 ((h.used msg.pEventData).2 hone)
      have hnone := hcount msg.pEventData
      rw [if_pos rfl, hone] at hnone
      have hused : (s.pending.erase msg).countP (fun m => m.pEventData = msg.pEventData) = 1 := hused
      omega
    · intro hfine
      obtain rfl := hfine hmem
      refine ⟨_, (), rfl, EventLaw.of_references fun i => ?_⟩
      show (s.pending.erase msg).countP (fun m => m.pEventData = i) =
        if (Function.update s.pxEventBuffer msg.pEventData
          { s.pxEventBuffer msg.pEventData with bufferUsed := false } i).bufferUsed then 1 else 0
      have hi := hcount i
      by_cases heq : i = msg.pEventData
      · subst heq
        rw [if_pos rfl, hone] at hi
        rw [Function.update_self]
        exact (Nat.succ.inj hi).symm
      · rw [if_neg (Ne.symm heq), h.references_eq] at hi
        rw [Function.update_of_ne heq]
        exact hi.symm
  · dsimp only
    rw [if_neg hmem]
    exact iff_of_true ⟨s, (), rfl, h⟩ fun hm => absurd hm hmem

/-- **One step** keeps the law just when it is fine. -/
theorem event_step_iff {s : EventState n capacity} (h : EventLaw s) (c : EventCall n) :
    (∃ s' o, eventStep s c = some (s', o) ∧ EventLaw s') ↔ EventFine s c := by
  cases c with
  | message handled pPayload lock accepted => exact message_iff h handled pPayload lock accepted
  | processed msg lock => exact processed_iff h msg lock
  | callback xEvent lock =>
    refine iff_of_true ⟨s, (), ?_, h⟩ trivial
    unfold eventStep prvOtaAppCallback
    cases xEvent <;> rfl

theorem EventLaw.of_free {s : EventState n capacity}
    (hfree : ∀ i, (s.pxEventBuffer i).bufferUsed = false) (hpending : s.pending = []) :
    EventLaw s := by
  apply EventLaw.of_references
  intro i
  rw [hfree i, references, hpending]
  rfl

/-- **The event buffers**: from all buffers free, every callback stays in the bounds of the buffers and
leaves a state with the law, exactly when each of them is fine in the state that it finds. -/
theorem event_buffers_iff {s : EventState n capacity}
    (hfree : ∀ i, (s.pxEventBuffer i).bufferUsed = false) (hpending : s.pending = [])
    (calls : List (EventCall n)) :
    (otaEvents n capacity).Keeps EventLaw s calls ↔
      (otaEvents n capacity).Meets EventFine s calls :=
  keeps_iff (fun _ _ h => event_step_iff h _) (EventLaw.of_free hfree hpending)

/-- Two messages take the two buffers, one without the semaphore is dropped, and a job document takes the
buffer of the one that was processed. -/
def eventRun : List (EventCall 2) :=
  [.message .jobDocument [1, 2] true true, .message .fileBlock [3, 4, 5, 6] true true,
    .message .fileBlock [7, 8, 9, 10, 11] false true, .processed ⟨.receivedJobDocument, 0⟩ true,
    .message .jobDocument [12] true true, .processed ⟨.receivedFileBlock, 1⟩ true, .callback .activate true]

theorem event_buffers_start : (otaEvents 2 4).Keeps EventLaw (eventStart 2 4) eventRun ∧
    ((otaEvents 2 4).exec? (eventStart 2 4) eventRun).map (fun r => r.2.pending) =
      some [⟨.receivedJobDocument, 0⟩] := by
  refine ⟨(event_buffers_iff (fun _ => rfl) rfl _).2 ?_, rfl⟩
  refine ⟨fun _ _ => ⟨rfl, by decide⟩, fun _ _ _ => ?_⟩
  refine ⟨fun _ _ => ⟨rfl, by decide⟩, fun _ _ _ => ?_⟩
  refine ⟨fun hlock => Bool.noConfusion hlock, fun _ _ _ => ?_⟩
  refine ⟨fun _ => rfl, fun _ _ _ => ?_⟩
  refine ⟨fun _ _ => ⟨rfl, by decide⟩, fun _ _ _ => ?_⟩
  refine ⟨fun _ => rfl, fun _ _ _ => ?_⟩
  exact ⟨trivial, fun _ _ _ => trivial⟩

/-- A message that is refused, and one that does not fit. -/
theorem event_buffers_lost :
    ¬(otaEvents 1 4).Keeps EventLaw (eventStart 1 4) [.message .fileBlock [1, 2] true false] ∧
      (otaEvents 1 4).step (eventStart 1 4) (.message .fileBlock [1, 2, 3, 4, 5] true true) = none := by
  constructor
  · intro ⟨s', o, hstep, hlaw, _⟩
    have hpost : ∃ s₁ : EventState 1 4, (otaEvents 1 4).step (eventStart 1 4)
        (.message .fileBlock [1, 2] true false) = some (s₁, ()) ∧ s₁.pending = [] ∧
          (s₁.pxEventBuffer 0).bufferUsed = true := ⟨_, rfl, rfl, rfl⟩
    obtain ⟨s₁, hstep₁, hpending, hused⟩ := hpost
    obtain ⟨rfl, -⟩ := Prod.mk.inj (Option.some.inj (hstep.symm.trans hstep₁))
    rw [hlaw.drained hpending 0] at hused
    cases hused
  · rfl

end OtaDemo
