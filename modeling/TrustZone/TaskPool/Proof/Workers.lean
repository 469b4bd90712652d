import TrustZone.TaskPool.Proof.Steps

/-!
# Workers

* `Crew`: what the counters say of the workers, before and after a shutdown has started.
* `crew_move`: a move keeps that.
* `run_workers`: `activeThreads` counts the workers that go on, there are always enough, and as many signals are
  out as jobs are queued.
* `run_shutdown`: a shutdown wakes them all, and waits for as many as will answer.
-/

namespace TaskPool

open Lib Machine Pool

variable {p q : Pool} {i n : Nat} {j : JobId} {e : EventId}

/-! ## Counting workers -/

namespace Worker

/-- The worker goes on after what it does. -/
def live : Worker → Bool
  | .waiting | .woken _ | .finished => true
  | .dispatched _ _ running | .executing _ running => running
  | .exiting | .exited => false

/-- The worker was woken by a signal. -/
def alert : Worker → Bool
  | .woken jobAvailable => jobAvailable
  | _ => false

/-- The worker has left, and its post is to come. -/
def leaving : Worker → Bool
  | .exiting => true
  | _ => false

/-- The worker has a job that it will count as done. -/
def busy : Worker → Bool
  | .finished => true
  | .dispatched _ _ running | .executing _ running => running
  | _ => false

end Worker

/-- How many workers are so. -/
def Pool.count (p : Pool) (f : Worker → Bool) : Nat := p.workers.countP f

theorem count_set {f : Worker → Bool} {w v : Worker} {l : List Worker} (hw : l[i]? = some w) :
    (l.set i v).countP f + (f w).toNat = l.countP f + (f v).toNat := by
  obtain ⟨hi, hget⟩ := List.getElem?_eq_some_iff.1 hw
  have hpos : (f w).toNat ≤ l.countP f := by
    cases hf : f w with
    | false => exact Nat.zero_le _
    | true => exact List.countP_pos_iff.2 ⟨w, List.mem_of_getElem? hw, hf⟩
  rw [List.countP_set hi, hget]
  generalize l.countP f = n at hpos ⊢
  cases hf : f w with
  | false => cases f v <;> simp
  | true =>
    rw [hf, Bool.toNat_true] at hpos
    cases f v with
    | false => simp [Nat.sub_add_cancel hpos]
    | true => simp [Nat.sub_add_cancel hpos]

/-! ## The counters and the workers -/

/-- The counters of the pool. -/
structure Crew (p : Pool) : Prop where
  live : p.activeThreads = p.count Worker.live
  enough : p.isShutdownStarted = false → p.minThreads ≤ p.activeThreads
  most : p.isShutdownStarted = false → p.minThreads ≤ p.maxThreads
  one : 1 ≤ p.minThreads
  signalled : p.dispatchQueue.length ≤ p.dispatchSignal + p.count Worker.alert + p.lost
  empty : p.isShutdownStarted = true → p.dispatchQueue = [] ∧ p.timerEventsList = [] ∧ p.freeList = []
  before : p.isShutdownStarted = false → p.shutdown = none ∧ p.startStopSignal = 0 ∧ p.count Worker.leaving = 0
  waits : p.isShutdownStarted = true → p.workers.length ≤ TASKPOOL_MAX_SEM_VALUE →
    p.shutdown.elim 0 (·.waits) = p.startStopSignal + p.count Worker.leaving + p.activeThreads
  bound : p.shutdown.elim 0 (·.waits) ≤ p.workers.length
  called : p.isShutdownStarted = true → p.count Worker.live ≤ p.dispatchSignal + p.count Worker.alert + p.lost
  ended : p.destroyed = true → p.isShutdownStarted = true

/-- The parts of the pool that the workers have to do with. -/
structure Counters where
  workers : List Worker
  activeThreads : Nat
  minThreads : Nat
  maxThreads : Nat
  dispatchSignal : Nat
  lost : Nat
  shutdown : Option Shutdown
  startStopSignal : Nat
  destroyed : Bool

def Pool.counters (p : Pool) : Counters :=
  ⟨p.workers, p.activeThreads, p.minThreads, p.maxThreads, p.dispatchSignal, p.lost, p.shutdown, p.startStopSignal,
    p.destroyed⟩

/-- Jobs and events leave the lists, or jobs come to the cache and the timer while no shutdown has started. -/
theorem Crew.congr (h : Crew p) (hs : q.counters = p.counters) (hq : q.dispatchQueue.length ≤ p.dispatchQueue.length)
    (hempty : p.isShutdownStarted = true → q.dispatchQueue = [] ∧ q.timerEventsList = [] ∧ q.freeList = []) :
    Crew q := by
  obtain ⟨hworkers, hactive, hmin, hmax, hsignal, hlost, hshut, hstop, hover⟩ := Counters.mk.inj hs
  have hcount : ∀ f, q.count f = p.count f := fun f => by rw [Pool.count, hworkers, Pool.count]
  have hstart : q.isShutdownStarted = p.isShutdownStarted := by
    rw [isShutdownStarted, hmax, isShutdownStarted]
  refine ⟨?_, ?_, ?_, ?_, ?_, ?_, ?_, ?_, ?_, ?_, ?_⟩
  · rw [hactive, hcount, h.live]
  · rw [hstart, hmin, hactive]
    exact h.enough
  · rw [hstart, hmin, hmax]
    exact h.most
  · rw [hmin]
    exact h.one
  · rw [hsignal, hcount, hlost]
    exact hq.trans h.signalled
  · rw [hstart]
    exact hempty
  · rw [hstart, hshut, hstop, hcount]
    exact h.before
  · rw [hstart, hshut, hstop, hcount, hactive, hworkers]
    exact h.waits
  · rw [hshut, hworkers]
    exact h.bound
  · rw [hstart, hcount, hcount, hsignal, hlost]
    exact h.called
  · rw [hstart, hover]
    exact h.ended

/-- Nothing comes to the lists. -/
theorem Crew.shrink (h : Crew p) (hs : q.counters = p.counters) (hq : q.dispatchQueue.Sublist p.dispatchQueue)
    (ht : q.timerEventsList.Sublist p.timerEventsList) (hf : q.freeList.Sublist p.freeList) : Crew q := by
  refine h.congr hs hq.length_le fun hstart => ?_
  obtain ⟨hq₀, ht₀, hf₀⟩ := h.empty hstart
  rw [hq₀] at hq
  rw [ht₀] at ht
  rw [hf₀] at hf
  exact ⟨List.sublist_nil.1 hq, List.sublist_nil.1 ht, List.sublist_nil.1 hf⟩

/-- A worker goes on from `w` to `v`. -/
structure Turn (p q : Pool) (i : Nat) (w v : Worker) : Prop where
  at_i : p.workers[i]? = some w
  workers : q.workers = p.workers.set i v
  bounds : q.minThreads = p.minThreads ∧ q.maxThreads = p.maxThreads ∧ q.destroyed = p.destroyed
  lists : q.dispatchQueue.Sublist p.dispatchQueue ∧ q.timerEventsList = p.timerEventsList ∧
    q.freeList = p.freeList
  shutdown : q.shutdown = p.shutdown
  live : q.activeThreads + w.live.toNat = p.activeThreads + v.live.toNat
  enough : p.isShutdownStarted = false → p.minThreads ≤ q.activeThreads
  signals : q.dispatchQueue = [] ∨ q.lost = p.lost ∧ q.dispatchQueue.length + p.dispatchSignal + w.alert.toNat ≤
    p.dispatchQueue.length + q.dispatchSignal + v.alert.toNat
  before : p.isShutdownStarted = false → q.startStopSignal = p.startStopSignal ∧ v.leaving = w.leaving
  waits : p.isShutdownStarted = true → p.workers.length ≤ TASKPOOL_MAX_SEM_VALUE →
    q.startStopSignal + v.leaving.toNat + q.activeThreads = p.startStopSignal + w.leaving.toNat + p.activeThreads
  called : p.isShutdownStarted = true → p.dispatchSignal + p.lost + w.alert.toNat + v.live.toNat ≤
    q.dispatchSignal + q.lost + v.alert.toNat + w.live.toNat

theorem Crew.turn (h : Crew p) {w v : Worker} (ht : Turn p q i w v) : Crew q := by
  have hcount : ∀ f : Worker → Bool, q.count f + (f w).toNat = p.count f + (f v).toNat := by
    intro f
    rw [Pool.count, ht.workers, Pool.count]
    exact count_set ht.at_i
  have hlen : q.workers.length = p.workers.length := by rw [ht.workers, List.length_set]
  have hstart : q.isShutdownStarted = p.isShutdownStarted := by
    rw [isShutdownStarted, ht.bounds.2.1, isShutdownStarted]
  refine ⟨?_, ?_, ?_, ?_, ?_, ?_, ?_, ?_, ?_, ?_, ?_⟩
  · have hlive := hcount Worker.live
    have hactive := ht.live
    rw [h.live] at hactive
    omega
  · rw [hstart, ht.bounds.1]
    exact ht.enough
  · rw [hstart, ht.bounds.1, ht.bounds.2.1]
    exact h.most
  · rw [ht.bounds.1]
    exact h.one
  · rcases ht.signals with hnil | ⟨hlost, hsig⟩
    · simp [hnil]
    · have halert := hcount Worker.alert
      have hle := h.signalled
      omega
  · rw [hstart, ht.lists.2.1, ht.lists.2.2]
    intro hs
    have hsub := ht.lists.1
    rw [(h.empty hs).1] at hsub
    exact ⟨List.sublist_nil.1 hsub, (h.empty hs).2⟩
  · rw [hstart, ht.shutdown]
    intro hs
    obtain ⟨hnone, hzero, hleave⟩ := h.before hs
    obtain ⟨hsame, hw⟩ := ht.before hs
    have hleaving := hcount Worker.leaving
    rw [hw] at hleaving
    exact ⟨hnone, hsame.trans hzero, by omega⟩
  · rw [hstart, ht.shutdown, hlen]
    intro hs hmax
    have hleaving := hcount Worker.leaving
    have hwaits := ht.waits hs hmax
    have hold := h.waits hs hmax
    omega
  · rw [ht.shutdown, hlen]
    exact h.bound
  · rw [hstart]
    intro hs
    have hlive := hcount Worker.live
    have halert := hcount Worker.alert
    have hcalled := ht.called hs
    have hold := h.called hs
    omega
  · rw [hstart, ht.bounds.2.2]
    exact h.ended

theorem Crew.queued (h : Crew p) (hs : p.isShutdownStarted = false) (front : Bool) : Crew (p.queued j front) := by
  obtain ⟨s, l, hle, heq⟩ : ∃ s l, p.dispatchSignal + p.lost + 1 = s + l ∧ p.queued j front =
      { (if front then ({ p.setStatus j .scheduled with activeJobs := p.activeJobs + 1 } : Pool).enqueueHead j
        else ({ p.setStatus j .scheduled with activeJobs := p.activeJobs + 1 } : Pool).enqueueTail j) with
        dispatchSignal := s, lost := l } := by
    unfold Pool.queued postDispatch
    cases front with
    | true =>
      by_cases hmax : p.dispatchSignal < TASKPOOL_MAX_SEM_VALUE
      · exact ⟨p.dispatchSignal + 1, p.lost, Nat.add_right_comm .., if_pos hmax⟩
      · exact ⟨p.dispatchSignal, p.lost + 1, Nat.add_assoc .., if_neg hmax⟩
    | false =>
      by_cases hmax : p.dispatchSignal < TASKPOOL_MAX_SEM_VALUE
      · exact ⟨p.dispatchSignal + 1, p.lost, Nat.add_right_comm .., if_pos hmax⟩
      · exact ⟨p.dispatchSignal, p.lost + 1, Nat.add_assoc .., if_neg hmax⟩
  have hsig := h.signalled
  have hnot : ¬p.isShutdownStarted = true := by simp [hs]
  rw [heq]
  cases front with
  | true =>
    refine ⟨h.live, h.enough, h.most, h.one, ?_, fun hs' => absurd hs' hnot, h.before, h.waits, h.bound,
      fun hs' => absurd hs' hnot, h.ended⟩
    show (j :: p.dispatchQueue).length ≤ s + p.count Worker.alert + l
    rw [List.length_cons]
    omega
  | false =>
    refine ⟨h.live, h.enough, h.most, h.one, ?_, fun hs' => absurd hs' hnot, h.before, h.waits, h.bound,
      fun hs' => absurd hs' hnot, h.ended⟩
    show (p.dispatchQueue ++ [j]).length ≤ s + p.count Worker.alert + l
    rw [List.length_append, List.length_singleton]
    omega

/-! ## Moves -/

theorem Crew.pos (h : Crew p) {w : Worker} (hw : p.workers[i]? = some w) (hl : w.live = true) :
    1 ≤ p.activeThreads := by
  rw [h.live]
  exact List.countP_pos_iff.2 ⟨w, List.mem_of_getElem? hw, hl⟩

theorem Crew.startStop_lt (h : Crew p) (hs : p.isShutdownStarted = true) (hw : p.workers[i]? = some .exiting)
    (hmax : p.workers.length ≤ TASKPOOL_MAX_SEM_VALUE) : p.startStopSignal + 1 ≤ TASKPOOL_MAX_SEM_VALUE := by
  have hwaits := h.waits hs hmax
  have hbound := h.bound
  have hpos : 1 ≤ p.count Worker.leaving := List.countP_pos_iff.2 ⟨_, List.mem_of_getElem? hw, rfl⟩
  omega

/-- A worker that retires leaves enough others. -/
theorem retires_enough {b : Bool} (hmost : p.minThreads ≤ p.maxThreads) (hr : p.retires b = true) :
    p.minThreads < p.activeThreads := by
  rw [retires, Bool.or_eq_true, decide_eq_true_eq, Bool.and_eq_true, decide_eq_true_eq] at hr
  rcases hr with hr | ⟨-, hr⟩
  · exact Nat.lt_of_le_of_lt hmost hr
  · exact hr

/-- A worker that had no signal, or found no job, goes back or leaves. -/
theorem Crew.thinned (h : Crew p) {b : Bool} (hw : p.workers[i]? = some (.woken b))
    (hs : p.isShutdownStarted = false) {q : Pool} {v : Worker}
    (hq : q.workers = (p.thinned b).workers.set i v) (hactive : q.activeThreads = (p.thinned b).activeThreads)
    (hbounds : q.minThreads = p.minThreads ∧ q.maxThreads = p.maxThreads ∧ q.destroyed = p.destroyed)
    (hlists : q.dispatchQueue.Sublist p.dispatchQueue ∧ q.timerEventsList = p.timerEventsList ∧
      q.freeList = p.freeList)
    (hshut : q.shutdown = p.shutdown ∧ q.startStopSignal = p.startStopSignal)
    (hlive : v.live = !p.retires b) (hleave : v.leaving = false)
    (hsig : q.dispatchQueue = [] ∨ q.lost = p.lost ∧ q.dispatchQueue.length + p.dispatchSignal + b.toNat ≤
      p.dispatchQueue.length + q.dispatchSignal + v.alert.toNat) : Crew q := by
  have hpos := h.pos hw rfl
  have hnot : ¬p.isShutdownStarted = true := by simp [hs]
  have hwork : (p.thinned b).workers = p.workers := by
    unfold Pool.thinned
    split <;> rfl
  rw [hwork] at hq
  have hcount : q.activeThreads + 1 = p.activeThreads + (!p.retires b).toNat ∧ p.minThreads ≤ q.activeThreads := by
    have hmin := h.enough hs
    rw [hactive]
    unfold Pool.thinned
    cases hr : p.retires b with
    | true =>
      have hlt := retires_enough (h.most hs) hr
      exact ⟨Nat.sub_add_cancel hpos, Nat.le_sub_one_of_lt hlt⟩
    | false => exact ⟨rfl, hmin⟩
  refine h.turn ⟨hw, hq, hbounds, hlists, hshut.1, ?_, fun _ => hcount.2, ?_, fun _ => ⟨hshut.2, hleave⟩,
    fun hs' => absurd hs' hnot, fun hs' => absurd hs' hnot⟩
  · rw [hlive]
    exact hcount.1
  · exact hsig

/-- The shutdown starts: there is a wait and a signal for each worker that is left. -/
theorem Crew.signal (h : Crew p) (hq : p.dispatchQueue = []) (ht : p.timerEventsList = []) (hf : p.freeList = [])
    (hnone : p.shutdown = none) (completeShutdown : Bool) :
    Crew { p.signalShutdown p.activeThreads with shutdown := some ⟨p.activeThreads, completeShutdown⟩ } := by
  obtain ⟨s, l, hle, heq⟩ := postDispatches_rest (p := { p with maxThreads := 0 }) p.activeThreads
  have hstill : p.workers.length ≤ TASKPOOL_MAX_SEM_VALUE → p.startStopSignal + p.count Worker.leaving = 0 := by
    intro hmax
    cases hs : p.isShutdownStarted with
    | true =>
      have hwaits := h.waits hs hmax
      rw [hnone] at hwaits
      exact Nat.eq_zero_of_add_eq_zero_right hwaits.symm
    | false =>
      obtain ⟨-, hzero, hleave⟩ := h.before hs
      rw [hzero, hleave]
  have hstart : ∀ {P : Prop}, isShutdownStarted { p with maxThreads := 0 } = false → P := by
    intro P hs
    simp [isShutdownStarted] at hs
  unfold signalShutdown
  rw [heq]
  refine ⟨h.live, hstart, hstart, h.one, ?_, fun _ => ⟨hq, ht, hf⟩, hstart, ?_, ?_, ?_, fun _ => rfl⟩
  · simp [hq]
  · intro _ hmax
    exact (congrArg (· + p.activeThreads) (hstill hmax)).symm ▸ (Nat.zero_add _).symm
  · show p.activeThreads ≤ p.workers.length
    rw [h.live]
    exact List.countP_le_length
  · intro _
    have hlive := h.live
    change s + l = p.dispatchSignal + p.lost + p.activeThreads at hle
    show p.count Worker.live ≤ s + p.count Worker.alert + l
    omega

theorem destroyJob_crew (h : Crew p) (hq : p.destroyJob j = some q) : Crew q := by
  obtain ⟨x, -, rfl⟩ := destroyJob_left hq
  exact h.shrink rfl (.refl _) (.refl _) (.refl _)

theorem Crew.same (h : Crew p) {w v : Worker} (hw : p.workers[i]? = some w)
    (hv : v.live = w.live ∧ v.alert = w.alert ∧ v.leaving = w.leaving) : Crew (p.setWorker i v) := by
  obtain ⟨hlive, halert, hleaving⟩ := hv
  refine h.turn ⟨hw, rfl, ⟨rfl, rfl, rfl⟩, ⟨.refl _, rfl, rfl⟩, rfl, ?_, h.enough, .inr ⟨rfl, ?_⟩,
    fun _ => ⟨rfl, hleaving⟩, fun _ _ => ?_, fun _ => ?_⟩
  · exact congrArg (p.activeThreads + ·.toNat) hlive.symm
  · rw [halert]
    exact Nat.le_refl _
  · rw [hleaving]
    rfl
  · rw [hlive, halert]
    exact Nat.le_refl _

theorem Crew.grow (h : Crew p) (hs : p.isShutdownStarted = false) : Crew p.grow := by
  have hnot : ¬p.isShutdownStarted = true := by simp [hs]
  have hcount : ∀ f : Worker → Bool, p.grow.count f = p.count f + (f .waiting).toNat := by
    intro f
    unfold Pool.count Pool.grow
    rw [List.countP_append, List.countP_singleton]
    cases f .waiting <;> rfl
  refine ⟨?_, ?_, h.most, h.one, ?_, h.empty, ?_, fun hs' => absurd hs' hnot, ?_, fun hs' => absurd hs' hnot,
    h.ended⟩
  · rw [hcount]
    exact congrArg (· + 1) h.live
  · intro _
    exact (h.enough hs).trans (Nat.le_succ _)
  · rw [hcount]
    exact h.signalled
  · rw [hcount]
    exact h.before
  · refine h.bound.trans ?_
    rw [Pool.grow, List.length_append]
    exact Nat.le_add_right _ _

theorem Crew.defer (h : Crew p) (hs : p.isShutdownStarted = false) (timeMs : BitVec 32) (adv advArm : Nat) :
    Crew ((p.insertDeferred j e timeMs adv advArm).note (.accepted j)) := by
  obtain ⟨timer, now, heq⟩ := insertDeferred_rest (p := p) (j := j) (e := e) timeMs adv advArm
  rw [heq]
  refine h.congr rfl (Nat.le_refl _) fun hs' => ?_
  rw [hs] at hs'
  cases hs'

theorem Crew.setMaxThreads (h : Crew p) (hmin : p.minThreads ≤ n) (hpos : 0 < n)
    (hs : p.isShutdownStarted = false) : Crew (postDispatches (p.maxThreads - n) { p with maxThreads := n }) := by
  obtain ⟨s, l, hle, heq⟩ := postDispatches_rest (p := { p with maxThreads := n }) (p.maxThreads - n)
  have hsig := h.signalled
  have hn : ¬decide (n = 0) = true := by simp [hpos.ne']
  rw [heq]
  refine ⟨h.live, fun _ => h.enough hs, fun _ => hmin, h.one, ?_, fun hs' => absurd hs' hn, fun _ => h.before hs,
    fun hs' => absurd hs' hn, h.bound, fun hs' => absurd hs' hn, fun hd => ?_⟩
  · change s + l = p.dispatchSignal + p.lost + (p.maxThreads - n) at hle
    show p.dispatchQueue.length ≤ s + p.count Worker.alert + l
    omega
  · have hs' := h.ended hd
    rw [hs] at hs'
    cases hs'

theorem Crew.wake (h : Crew p) (hw : p.workers[i]? = some .waiting) (hpos : 0 < p.dispatchSignal) :
    Crew ({ p with dispatchSignal := p.dispatchSignal - 1 }.setWorker i (.woken true)) := by
  refine h.turn (w := .waiting) (v := .woken true) ⟨hw, rfl, ⟨rfl, rfl, rfl⟩, ⟨.refl _, rfl, rfl⟩, rfl, rfl,
    h.enough, .inr ⟨rfl, ?_⟩, fun _ => ⟨rfl, rfl⟩, fun _ _ => rfl, fun _ => ?_⟩
  · show p.dispatchQueue.length + p.dispatchSignal + 0 ≤ p.dispatchQueue.length + (p.dispatchSignal - 1) + 1
    omega
  · show p.dispatchSignal + p.lost + 0 + 1 ≤ p.dispatchSignal - 1 + p.lost + 1 + 1
    omega

theorem Crew.leave (h : Crew p) {b : Bool} (hw : p.workers[i]? = some (.woken b))
    (hs : p.isShutdownStarted = true) :
    Crew ({ p with activeThreads := p.activeThreads - 1 }.setWorker i .exiting) := by
  have hpos := h.pos hw rfl
  have hnot : ¬p.isShutdownStarted = false := by simp [hs]
  refine h.turn (w := .woken b) (v := .exiting) ⟨hw, rfl, ⟨rfl, rfl, rfl⟩, ⟨.refl _, rfl, rfl⟩, rfl, ?_,
    fun hs' => absurd hs' hnot, .inl (h.empty hs).1, fun hs' => absurd hs' hnot, fun _ _ => ?_, fun _ => ?_⟩
  · exact Nat.sub_add_cancel hpos
  · show p.startStopSignal + 1 + (p.activeThreads - 1) = p.startStopSignal + 0 + p.activeThreads
    omega
  · show p.dispatchSignal + p.lost + b.toNat + 0 ≤ p.dispatchSignal + p.lost + 0 + 1
    have hb := Bool.toNat_le b
    omega

theorem Crew.exit (h : Crew p) (hw : p.workers[i]? = some .exiting) :
    Crew ({ p with startStopSignal := min (p.startStopSignal + 1) TASKPOOL_MAX_SEM_VALUE }.setWorker i .exited) := by
  cases hs : p.isShutdownStarted with
  | false =>
    have hleave := (h.before hs).2.2
    have hpos : 1 ≤ p.count Worker.leaving := List.countP_pos_iff.2 ⟨_, List.mem_of_getElem? hw, rfl⟩
    omega
  | true =>
    have hnot : ¬p.isShutdownStarted = false := by simp [hs]
    refine h.turn (w := .exiting) (v := .exited) ⟨hw, rfl, ⟨rfl, rfl, rfl⟩, ⟨.refl _, rfl, rfl⟩, rfl, rfl,
      h.enough, .inr ⟨rfl, Nat.le_refl _⟩, fun hs' => absurd hs' hnot, fun _ hmax => ?_, fun _ => Nat.le_refl _⟩
    show min (p.startStopSignal + 1) TASKPOOL_MAX_SEM_VALUE + 0 + p.activeThreads =
      p.startStopSignal + 1 + p.activeThreads
    rw [Nat.min_eq_left (h.startStop_lt hs hw hmax)]

/-- Where a worker goes that has no job. -/
theorem resting (retires : Bool) : (if retires then Worker.exited else .waiting).live = (!retires) ∧
    (if retires then Worker.exited else .waiting).alert = false ∧
    (if retires then Worker.exited else .waiting).leaving = false := by
  cases retires <;> exact ⟨rfl, rfl, rfl⟩

theorem Crew.rest (h : Crew p) (hw : p.workers[i]? = some (.woken false)) (hs : p.isShutdownStarted = false) :
    Crew ((p.thinned false).setWorker i (if p.retires false then .exited else .waiting)) := by
  obtain ⟨hlive, halert, hleave⟩ := resting (p.retires false)
  obtain ⟨m, heq⟩ := thinned_rest (p := p) false
  refine h.thinned hw hs rfl rfl ?_ ?_ ?_ hlive hleave (.inr ?_)
  all_goals
    rw [heq]
  · exact ⟨rfl, rfl, rfl⟩
  · exact ⟨.refl _, rfl, rfl⟩
  · exact ⟨rfl, rfl⟩
  · rw [halert]
    exact ⟨rfl, Nat.le_refl _⟩

theorem Crew.idle (h : Crew p) (hw : p.workers[i]? = some (.woken true)) (hs : p.isShutdownStarted = false)
    (hq : p.dispatchQueue = []) :
    Crew ((p.thinned true).dequeueHead.2.setWorker i (if p.retires true then .exited else .waiting)) := by
  obtain ⟨hlive, -, hleave⟩ := resting (p.retires true)
  obtain ⟨m, heq⟩ := thinned_rest (p := p) true
  refine h.thinned hw hs rfl rfl ?_ ?_ ?_ hlive hleave (.inl ?_)
  all_goals
    rw [heq]
  · exact ⟨rfl, rfl, rfl⟩
  · exact ⟨List.tail_sublist _, rfl, rfl⟩
  · exact ⟨rfl, rfl⟩
  · exact congrArg List.tail hq

theorem Crew.take (h : Crew p) (hw : p.workers[i]? = some (.woken true)) (hs : p.isShutdownStarted = false)
    {rest : List JobId} (hq : p.dispatchQueue = j :: rest) (userCallback : Option Nat) :
    Crew ((p.thinned true).taken i j userCallback !p.retires true) := by
  obtain ⟨m, heq⟩ := thinned_rest (p := p) true
  refine h.thinned hw hs (v := .dispatched j userCallback !p.retires true) rfl rfl ?_ ?_ ?_ rfl rfl (.inr ?_)
  all_goals
    rw [heq]
  · exact ⟨rfl, rfl, rfl⟩
  · exact ⟨List.tail_sublist _, rfl, rfl⟩
  · exact ⟨rfl, rfl⟩
  · refine ⟨rfl, ?_⟩
    show p.dispatchQueue.tail.length + p.dispatchSignal + 1 ≤ p.dispatchQueue.length + p.dispatchSignal + 0
    rw [hq, List.tail_cons, List.length_cons]
    omega

theorem Crew.nextTake (h : Crew p) (hw : p.workers[i]? = some .finished) {rest : List JobId}
    (hq : p.dispatchQueue = j :: rest) (userCallback : Option Nat) :
    Crew (({ p with activeJobs := p.activeJobs - 1 } : Pool).taken i j userCallback true) := by
  refine h.turn (v := .dispatched j userCallback true) ⟨hw, rfl, ⟨rfl, rfl, rfl⟩, ⟨List.tail_sublist _, rfl, rfl⟩,
    rfl, rfl, h.enough, .inr ⟨rfl, ?_⟩, fun _ => ⟨rfl, rfl⟩, fun _ _ => rfl, fun _ => Nat.le_refl _⟩
  show p.dispatchQueue.tail.length + p.dispatchSignal + 0 ≤ p.dispatchQueue.length + p.dispatchSignal + 0
  rw [hq, List.tail_cons, List.length_cons]
  omega

theorem Crew.started (h : Crew p) {s : Shutdown} (hshut : p.shutdown = some s) : p.isShutdownStarted = true := by
  by_contra hs
  have hnone := (h.before (Bool.eq_false_of_not_eq_true hs)).1
  rw [hshut] at hnone
  cases hnone

/-- The shutdown has waited for one more worker. -/
theorem Crew.destroyWait (h : Crew p) {waits : Nat} {completeShutdown : Bool}
    (hshut : p.shutdown = some ⟨waits + 1, completeShutdown⟩) (hpos : 0 < p.startStopSignal) :
    Crew { p with startStopSignal := p.startStopSignal - 1, shutdown := some ⟨waits, completeShutdown⟩ } := by
  have hstart := h.started hshut
  have hbound := h.bound
  rw [hshut] at hbound
  refine ⟨h.live, h.enough, h.most, h.one, h.signalled, h.empty, fun hs => ?_, fun hs hmax => ?_,
    Nat.le_of_succ_le hbound, h.called, h.ended⟩
  · exact absurd (Eq.trans (Eq.symm hs) hstart) Bool.false_ne_true
  · have hwaits := h.waits hs hmax
    rw [hshut] at hwaits
    change waits + 1 = _ at hwaits
    show waits = p.startStopSignal - 1 + p.count Worker.leaving + p.activeThreads
    omega

/-- **A move keeps the crew.** -/
theorem crew_move (h : Crew p) (hm : Move p q) : Crew q := by
  have hnot : ∀ {P : Prop}, p.isShutdownStarted = false → p.isShutdownStarted = true → P := by
    intro P hs hs'
    rw [hs] at hs'
    cases hs'
  cases hm with
  | grow hs => exact h.grow hs
  | schedule hj hi hs hst => exact (h.queued hs _).shrink rfl (.refl _) (.refl _) (.refl _)
  | @fire j e hw hhead hdue hs ht =>
    have hdrop : Crew (p.removeTimerEvent e) :=
      h.shrink rfl (.refl _) List.erase_sublist (.refl _)
    exact hdrop.queued hs false
  | defer hj hi he hs hst => exact h.defer hs ..
  | recycle hj hown hi hs _ hroom => exact h.congr rfl (Nat.le_refl _) (hnot hs)
  | destroyJob _ _ _ hq => exact destroyJob_crew h hq
  | setMaxThreads hmin hpos hs => exact h.setMaxThreads hmin hpos hs
  | wake hw hpos => exact h.wake hw hpos
  | timeout hw => exact h.same hw ⟨rfl, rfl, rfl⟩
  | leave hw hs => exact h.leave hw hs
  | rest hw hs => exact h.rest hw hs
  | idle hw hs hq => exact h.idle hw hs hq
  | take hw hs hq hj => exact h.take hw hs hq _
  | call hw hl => exact h.same hw ⟨rfl, rfl, rfl⟩
  | @callbackReturns i j running hw =>
    refine h.same hw ?_
    cases running <;> exact ⟨rfl, rfl, rfl⟩
  | nextIdle hw hq =>
    exact h.turn (v := .waiting) ⟨hw, rfl, ⟨rfl, rfl, rfl⟩, ⟨List.tail_sublist _, rfl, rfl⟩, rfl, rfl,
      h.enough, .inl (congrArg List.tail hq), fun _ => ⟨rfl, rfl⟩, fun _ _ => rfl,
      fun _ => Nat.le_refl _⟩
  | nextTake hw hq hj => exact h.nextTake hw hq _
  | exit hw => exact h.exit hw
  | @dropQueued j rest _ hq hd =>
    have hhead : Crew (p.dequeueHead.2.note (.dropped j .scheduled)) :=
      h.shrink rfl (List.tail_sublist _) (.refl _) (.refl _)
    exact destroyJob_crew hhead hd
  | queueEmpty hq => exact h.shrink rfl (List.tail_sublist _) (.refl _) (.refl _)
  | dropEvent hl hd =>
    obtain ⟨ev, x, -, -, rfl⟩ := dropEvent_cases hd
    exact h.shrink rfl (.refl _) (List.tail_sublist _) (.refl _)
  | timerEmpty hl => exact h.shrink rfl (.refl _) (List.tail_sublist _) (.refl _)
  | dropCached hl hd =>
    have hhead : Crew p.fetchHead.2 := h.shrink rfl (.refl _) (.refl _) (List.tail_sublist _)
    exact destroyJob_crew hhead hd
  | signal hq ht hf hnone => exact h.signal hq ht hf hnone _
  | destroyWait hshut hpos => exact h.destroyWait hshut hpos
  | destroyEnd hshut hzero hactive _ =>
    have hstart := h.started hshut
    refine ⟨h.live, h.enough, h.most, h.one, h.signalled, h.empty, fun hs => hnot hs hstart, ?_, Nat.zero_le _,
      h.called, fun _ => hstart⟩
    intro hs hmax
    have hwaits := h.waits hs hmax
    rwa [hshut] at hwaits
  | destroyLeft hshut hzero hactive _ =>
    refine ⟨h.live, h.enough, h.most, h.one, h.signalled, h.empty, fun hs => ⟨rfl, (h.before hs).2⟩, ?_,
      Nat.zero_le _, h.called, h.ended⟩
    intro hs hmax
    have hwaits := h.waits hs hmax
    rwa [hshut] at hwaits
  | timerDestroys ht hs =>
    exact ⟨h.live, h.enough, h.most, h.one, h.signalled, h.empty, h.before, h.waits, h.bound, h.called, fun _ => hs⟩
  | fetch => exact h.shrink rfl (.refl _) (.refl _) (List.tail_sublist _)
  | fetchNone => exact h.shrink rfl (.refl _) (.refl _) (List.tail_sublist _)
  | uncache => exact h.shrink rfl List.erase_sublist (.refl _) List.erase_sublist
  | withdrawQueued => exact h.shrink rfl List.erase_sublist (.refl _) List.erase_sublist
  | withdrawDeferred => exact h.shrink rfl (.refl _) List.erase_sublist (.refl _)
  | _ => exact h.shrink rfl (.refl _) (.refl _) (.refl _)

/-! ## Runs -/

variable {pInfo : TaskPoolInfo} {p₀ : Pool} {tr : List (Entry Pool PoolCall (Option Ret))}

theorem Fresh.crew (h : Fresh pInfo p) : Crew p := by
  have hcount : ∀ f : Worker → Bool, p.count f = if f .waiting then pInfo.minThreads else 0 := by
    intro f
    rw [h.pool]
    exact List.countP_replicate
  have hmin := h.minThreads
  have hmax := h.maxThreads
  have hstart : ∀ {P : Prop}, p.isShutdownStarted = true → P := by
    intro P hs
    rw [h.pool] at hs
    have hzero : pInfo.maxThreads = 0 := of_decide_eq_true hs
    omega
  refine ⟨?_, ?_, ?_, ?_, ?_, hstart, ?_, hstart, ?_, hstart, ?_⟩
  · rw [hcount, h.pool]
    rfl
  · rw [h.pool]
    exact fun _ => Nat.le_refl _
  · rw [h.pool]
    exact fun _ => hmax
  · rw [h.pool]
    exact hmin
  · rw [h.pool]
    exact Nat.zero_le _
  · rw [hcount, h.pool]
    exact fun _ => ⟨rfl, rfl, rfl⟩
  · rw [h.pool]
    exact Nat.zero_le _
  · rw [h.pool]
    exact fun hd => Bool.noConfusion hd

theorem run_crew (hp : Created pInfo p₀) (hrun : Exec taskPool p₀ tr p) : Crew p :=
  (run_inv hp Fresh.crew (fun _ => crew_move) hrun).2

/-- **The workers**: after every run `activeThreads` counts the workers that go on. Until a shutdown starts they
are at least `minThreads`, and as many signals are out as there are jobs in the queue. -/
theorem run_workers (hp : Created pInfo p₀) (hrun : Exec taskPool p₀ tr p) :
    p.activeThreads = p.count Worker.live ∧
      (p.isShutdownStarted = false → 1 ≤ p.minThreads ∧ p.minThreads ≤ p.count Worker.live) ∧
      p.dispatchQueue.length ≤ p.dispatchSignal + p.count Worker.alert + p.lost := by
  have hcrew := run_crew hp hrun
  refine ⟨hcrew.live, ?_, hcrew.signalled⟩
  intro hs
  have henough := hcrew.enough hs
  rw [hcrew.live] at henough
  exact ⟨hcrew.one, henough⟩

/-- A job is scheduled, and the worker is woken for it. -/
theorem run_workers_onePool :
    let p := onePool.after [.createJob (some 7) 0 (some 1), .schedule (some 1) 0 false 0, .workerWake 0 true]
    p.dispatchQueue = [1] ∧ p.count Worker.live = 1 ∧ 1 ≤ p.dispatchSignal + 1 + p.lost := by
  intro p
  have hrun : Exec taskPool onePool _ p := exec?_getD rfl
  have hworkers := run_workers onePool_created hrun
  exact ⟨rfl, hworkers.1.symm, hworkers.2.2⟩

/-- **A shutdown**: once it has started the lists stay empty, every worker that goes on was woken or is woken by a
signal that is out, unless the signal was lost, and, while the semaphore holds a post for each worker, the posts that
the shutdown waits for are those that have come, are to come from workers that leave, and will come from workers that
go on. -/
theorem run_shutdown (hp : Created pInfo p₀) (hrun : Exec taskPool p₀ tr p) (hs : p.isShutdownStarted = true) :
    (p.dispatchQueue = [] ∧ p.timerEventsList = [] ∧ p.freeList = []) ∧
      p.count Worker.live ≤ p.dispatchSignal + p.count Worker.alert + p.lost ∧
      (p.workers.length ≤ TASKPOOL_MAX_SEM_VALUE →
        p.shutdown.elim 0 (·.waits) = p.startStopSignal + p.count Worker.leaving + p.count Worker.live) := by
  have hcrew := run_crew hp hrun
  refine ⟨hcrew.empty hs, hcrew.called hs, ?_⟩
  intro hmax
  rw [hcrew.waits hs hmax, hcrew.live]

/-- The pool is destroyed with a job in the queue, and waits for its one worker. -/
theorem run_shutdown_onePool :
    let p := onePool.after [.createJob (some 7) 0 (some 1), .schedule (some 1) 0 false 0, .destroy 0]
    p.dispatchQueue = [] ∧ p.shutdown.elim 0 (·.waits) = 1 := by
  intro p
  have hrun : Exec taskPool onePool _ p := exec?_getD rfl
  have hshut := run_shutdown onePool_created hrun rfl
  exact ⟨hshut.1.1, hshut.2.2 (show 1 ≤ 0xFFFF by decide)⟩

end TaskPool
