import Mathlib.Logic.Relation
import TrustZone.TaskPool.Proof.Store

/-!
# What a step of the pool is made of

`Move`: the smallest changes after which the pool is in order again, with what holds before each.

* `ok_move`: a move keeps the jobs, the events and the lists in order.
-/

namespace TaskPool

open Lib Machine

/-- The job is neither scheduled nor over. -/
structure Job.Open (job : Job) : Prop where
  scheduled : job.status ≠ .scheduled
  completed : job.status ≠ .completed

namespace Pool

variable {p q : Pool} {i n : Nat} {j : JobId} {e : EventId}

/-- The job is scheduled: its status is set, and it is queued. -/
def queued (p : Pool) (j : JobId) (front : Bool) : Pool :=
  let q := { p.setStatus j .scheduled with activeJobs := p.activeJobs + 1 }
  (if front then q.enqueueHead j else q.enqueueTail j).postDispatch

/-- A worker that leaves after this round is not counted any more. -/
def thinned (p : Pool) (jobAvailable : Bool) : Pool :=
  if p.retires jobAvailable then { p with activeThreads := p.activeThreads - 1 } else p

/-- The worker has taken a job out of the queue. -/
def taken (p : Pool) (i : Nat) (j : JobId) (userCallback : Option Nat) (running : Bool) : Pool :=
  ((p.dequeueHead.2.setStatus j .completed).setWorker i (.dispatched j userCallback running)).note
    (.dispatched j running)

/-- The timer is armed for the first event, or soon. -/
def Armed (p : Pool) : Prop :=
  ∃ d, p.timer = some d ∧
    ∀ e, p.timerEventsList.head? = some e →
      d ≤ max (p.expirationTime e) (p.now + TASKPOOL_JOB_RESCHEDULE_DELAY_MS)

inductive Move (p : Pool) : Pool → Prop
  | linked {j : JobId} : Move p (p.linkIsLinked j).2
  | peek : Move p p.peekHeadEvent.2
  | find {j : JobId} : Move p (p.findEvent j).2
  | create {j : JobId} {userCallback : Option Nat} {pUserContext : Nat} {isStatic : Bool} : p.store.Idle j →
    Move p (p.initializeJob j userCallback pUserContext isStatic)
  | fetch {j : JobId} {rest : List JobId} : p.freeList = j :: rest →
    Move p { p.fetchHead.2 with freeCount := p.freeCount - 1 }
  | fetchNone : p.freeList = [] → Move p p.fetchHead.2
  | uncache {j : JobId} : j ∈ p.freeList → Move p (p.remove j)
  | cancelIdle {j : JobId} {job : Job} : p.jobs j = some job → job.status = .ready ∨ job.status = .canceled →
    Move p (p.setStatus j .canceled)
  | withdrawQueued {j : JobId} : j ∈ p.dispatchQueue →
    Move p (((p.setStatus j .canceled).remove j).note (.withdrawn j .scheduled))
  | withdrawDeferred {j : JobId} {e : EventId} : p.store.Waits e j →
    Move p (((p.setStatus j .canceled).removeTimerEvent e).note (.withdrawn j .deferred))
  | arm {e : EventId} {adv : Nat} : p.timerEventsList.head? = some e →
    Move p (p.rescheduleDeferredJobsTimer e adv)
  | clock {adv : Nat} : Move p (p.readClock adv)
  | grow : p.isShutdownStarted = false → Move p p.grow
  | schedule {j : JobId} {job : Job} {front : Bool} : p.jobs j = some job → p.store.Idle j →
    p.isShutdownStarted = false → job.Open → Move p ((p.queued j front).note (.accepted j))
  | strand {j : JobId} {job : Job} : p.jobs j = some job → p.store.Idle j → p.isShutdownStarted = false →
    job.Open → Move p ((p.setStatus j .scheduled).note (.refused j))
  | fire {j : JobId} {e : EventId} : p.store.Waits e j → p.timerEventsList.head? = some e →
    p.expirationTime e ≤ p.now → p.isShutdownStarted = false → p.timerThread = true →
    Move p ((p.removeTimerEvent e).queued j false)
  | defer {j : JobId} {e : EventId} {job : Job} {timeMs : BitVec 32} {adv advArm : Nat} : p.jobs j = some job →
    p.store.Idle j → p.timerEvents e = none → p.isShutdownStarted = false → job.Open →
    Move p ((p.insertDeferred j e timeMs adv advArm).note (.accepted j))
  | recycle {j : JobId} {job : Job} : p.jobs j = some job → job.isStatic = false → p.store.Idle j →
    p.isShutdownStarted = false → job.status ≠ .scheduled → p.freeCount < IOT_TASKPOOL_JOBS_RECYCLE_LIMIT →
    Move p ((({ p with
      jobs := Function.update p.jobs j (some (wiped job))
      freeCount := p.freeCount + 1 } : Pool).cacheTail j).note (.recycled j))
  | destroyJob {j : JobId} {job : Job} {q : Pool} : p.jobs j = some job → p.store.Idle j →
    job.status ≠ .scheduled → p.destroyJob j = some q → Move p q
  | setMaxThreads {n : Nat} : p.minThreads ≤ n → 0 < n → p.isShutdownStarted = false →
    Move p (postDispatches (p.maxThreads - n) { p with maxThreads := n })
  | wake {i : Nat} : p.workers[i]? = some .waiting → 0 < p.dispatchSignal →
    Move p ({ p with dispatchSignal := p.dispatchSignal - 1 }.setWorker i (.woken true))
  | timeout {i : Nat} : p.workers[i]? = some .waiting → Move p (p.setWorker i (.woken false))
  | leave {i : Nat} {b : Bool} : p.workers[i]? = some (.woken b) → p.isShutdownStarted = true →
    Move p ({ p with activeThreads := p.activeThreads - 1 }.setWorker i .exiting)
  | rest {i : Nat} : p.workers[i]? = some (.woken false) → p.isShutdownStarted = false →
    Move p ((p.thinned false).setWorker i (if p.retires false then .exited else .waiting))
  | idle {i : Nat} : p.workers[i]? = some (.woken true) → p.isShutdownStarted = false → p.dispatchQueue = [] →
    Move p ((p.thinned true).dequeueHead.2.setWorker i (if p.retires true then .exited else .waiting))
  | take {i : Nat} {j : JobId} {job : Job} {rest : List JobId} : p.workers[i]? = some (.woken true) →
    p.isShutdownStarted = false → p.dispatchQueue = j :: rest → p.jobs j = some job →
    Move p ((p.thinned true).taken i j job.userCallback !p.retires true)
  | call {i : Nat} {j : JobId} {userCallback : Option Nat} {running : Bool} :
    p.workers[i]? = some (.dispatched j userCallback running) → p.isLinked j = false →
    Move p (p.setWorker i (.executing j running))
  | callbackReturns {i : Nat} {j : JobId} {running : Bool} : p.workers[i]? = some (.executing j running) →
    Move p (p.setWorker i (if running then .finished else .exited))
  | nextIdle {i : Nat} : p.workers[i]? = some .finished → p.dispatchQueue = [] →
    Move p (({ p with activeJobs := p.activeJobs - 1 } : Pool).dequeueHead.2.setWorker i .waiting)
  | nextTake {i : Nat} {j : JobId} {job : Job} {rest : List JobId} : p.workers[i]? = some .finished →
    p.dispatchQueue = j :: rest → p.jobs j = some job →
    Move p (({ p with activeJobs := p.activeJobs - 1 } : Pool).taken i j job.userCallback true)
  | exit {i : Nat} : p.workers[i]? = some .exiting →
    Move p ({ p with startStopSignal := min (p.startStopSignal + 1) TASKPOOL_MAX_SEM_VALUE }.setWorker i .exited)
  | timerFires : p.timer.isSome = true → p.timerThread = false →
    Move p { p with timer := none, timerThread := true }
  | timerDone : p.timerThread = true → p.isShutdownStarted = false → p.timerEventsList = [] ∨ p.Armed →
    Move p { p with timerThread := false }
  | timerDestroys : p.timerThread = true → p.isShutdownStarted = true →
    Move p { p with destroyed := true, timer := none, timerThread := false }
  | dropQueued {j : JobId} {rest : List JobId} {q : Pool} : p.dispatchQueue = j :: rest →
    (p.dequeueHead.2.note (.dropped j .scheduled)).destroyJob j = some q → Move p q
  | queueEmpty : p.dispatchQueue = [] → Move p p.dequeueHead.2
  | dropEvent {e : EventId} {rest : List EventId} {q : Pool} : p.timerEventsList = e :: rest →
    p.dropEvent e = some q → Move p q
  | timerEmpty : p.timerEventsList = [] → Move p p.removeHeadEvent
  | dropCached {j : JobId} {rest : List JobId} {q : Pool} : p.freeList = j :: rest →
    p.fetchHead.2.destroyJob j = some q → Move p q
  | signal {completeShutdown : Bool} : p.dispatchQueue = [] → p.timerEventsList = [] → p.freeList = [] →
    p.shutdown = none →
    Move p { p.signalShutdown p.activeThreads with shutdown := some ⟨p.activeThreads, completeShutdown⟩ }
  | destroyWait {waits : Nat} {completeShutdown : Bool} : p.shutdown = some ⟨waits + 1, completeShutdown⟩ →
    0 < p.startStopSignal →
    Move p { p with startStopSignal := p.startStopSignal - 1, shutdown := some ⟨waits, completeShutdown⟩ }
  | destroyEnd {completeShutdown : Bool} : p.shutdown = some ⟨0, completeShutdown⟩ → p.startStopSignal = 0 →
    p.activeThreads = 0 → completeShutdown = true →
    Move p { p with destroyed := true, timer := none, shutdown := none }
  | destroyLeft {completeShutdown : Bool} : p.shutdown = some ⟨0, completeShutdown⟩ → p.startStopSignal = 0 →
    p.activeThreads = 0 → completeShutdown = false → Move p { p with shutdown := none }

/-! ## Posts -/

/-- `dispatchSignal` is posted: a signal more, or one more that is lost. -/
theorem postDispatch_signals :
    p.postDispatch.dispatchSignal + p.postDispatch.lost = p.dispatchSignal + p.lost + 1 := by
  unfold postDispatch
  split
  · exact Nat.add_right_comm ..
  · exact (Nat.add_assoc ..).symm

/-- Posts leave the rest alone. -/
theorem postDispatches_rest (n : Nat) : ∃ s l, s + l = p.dispatchSignal + p.lost + n ∧
    postDispatches n p = { p with dispatchSignal := s, lost := l } := by
  induction n generalizing p with
  | zero => exact ⟨p.dispatchSignal, p.lost, rfl, rfl⟩
  | succ n ih =>
    obtain ⟨s, l, hle, heq⟩ := ih (p := p.postDispatch)
    have hsig := postDispatch_signals (p := p)
    refine ⟨s, l, by omega, ?_⟩
    rw [postDispatches, heq]
    unfold postDispatch
    split <;> rfl

/-- Thinning only counts a worker less. -/
theorem thinned_rest (b : Bool) : ∃ n, p.thinned b = { p with activeThreads := n } := by
  unfold thinned
  split
  · exact ⟨_, rfl⟩
  · exact ⟨p.activeThreads, rfl⟩

/-- After a timer event is inserted, at most the timer is set. -/
theorem insertDeferred_rest (timeMs : BitVec 32) (adv advArm : Nat) : ∃ timer now,
    p.insertDeferred j e timeMs adv advArm =
      { (((p.initTimerEvent j e timeMs adv).insertTimerEvent e).setStatus j .deferred).peekHeadEvent.2 with
        timer := timer, now := now } := by
  unfold insertDeferred
  dsimp only [peekHeadEvent]
  split
  · exact ⟨_, _, rfl⟩
  · exact ⟨_, _, rfl⟩

/-! ## The store -/

@[simp] theorem postDispatch_store : p.postDispatch.store = p.store := by
  unfold postDispatch
  split <;> rfl

@[simp] theorem postDispatch_workers : p.postDispatch.workers = p.workers := by
  unfold postDispatch
  split <;> rfl

@[simp] theorem postDispatch_activeJobs : p.postDispatch.activeJobs = p.activeJobs := by
  unfold postDispatch
  split <;> rfl

@[simp] theorem postDispatch_log : p.postDispatch.log = p.log := by
  unfold postDispatch
  split <;> rfl

@[simp] theorem postDispatches_store : (postDispatches n p).store = p.store := by
  obtain ⟨s, l, -, heq⟩ := postDispatches_rest (p := p) n
  rw [heq]
  rfl

@[simp] theorem postDispatches_log : (postDispatches n p).log = p.log := by
  obtain ⟨s, l, -, heq⟩ := postDispatches_rest (p := p) n
  rw [heq]

@[simp] theorem thinned_log (b : Bool) : (p.thinned b).log = p.log := by
  unfold thinned
  split <;> rfl

@[simp] theorem thinned_store (b : Bool) : (p.thinned b).store = p.store := by
  unfold thinned
  split <;> rfl

theorem isLinked_eq_false : p.isLinked j = false ↔ j ∉ p.dispatchQueue ∧ j ∉ p.freeList := by
  simp [isLinked]

theorem status_some {job : Job} (hj : p.jobs j = some job) : p.store.status j = some job.status :=
  congrArg (Option.map Job.status) hj

theorem status_ne_deferred {x : Option Job} {s : JobStatus} (hs : s ≠ .deferred) :
    (x.map ({ · with status := s })).map (·.status) ≠ some .deferred := by
  cases x with
  | none => simp
  | some job => simpa using hs

/-- An idle job is queued. -/
theorem ok_queued (h : p.store.Ok) (hj : p.jobs j ≠ none) (hi : p.store.Idle j) (front : Bool) :
    (p.queued j front).store.Ok := by
  have hput := h.put hi (status_ne_deferred (x := p.jobs j) (s := .scheduled) (by decide))
  have hst : Store.status { p.store with
      jobs := Function.update p.jobs j ((p.jobs j).map ({ · with status := .scheduled })) } j = some .scheduled := by
    rw [Store.status_self (S := p.store) rfl]
    cases hjob : p.jobs j with
    | none => exact absurd hjob hj
    | some job => rfl
  unfold queued
  rw [postDispatch_store]
  cases front with
  | true => exact hput.enqueue hst hi.queue (List.Perm.refl (j :: p.dispatchQueue))
  | false => exact hput.enqueue hst hi.queue (List.perm_append_singleton j p.dispatchQueue)

theorem ok_dequeue (h : p.store.Ok) : p.dequeueHead.2.store.Ok := h.queueSub (List.tail_sublist _)

/-- A job leaves the queue, and its status is set or it is freed. -/
theorem ok_unqueue (h : p.store.Ok) {queue : List JobId} (hsub : queue.Sublist p.dispatchQueue) (hj : j ∉ queue)
    (hmem : j ∈ p.dispatchQueue) {x : Option Job} (hx : x.map (·.status) ≠ some .deferred) :
    Store.Ok { p.store with queue := queue, jobs := Function.update p.jobs j x } := by
  refine (h.queueSub hsub).put ⟨hj, h.not_cached_of_queued hmem, h.not_waits ?_⟩ hx
  rw [h.scheduled j hmem]
  decide

/-- The job at the head of the queue. -/
theorem ok_head (h : p.store.Ok) {rest : List JobId} (hq : p.dispatchQueue = j :: rest) {x : Option Job}
    (hx : x.map (·.status) ≠ some .deferred) :
    Store.Ok { p.store with queue := p.dispatchQueue.tail, jobs := Function.update p.jobs j x } := by
  have hnodup : (j :: rest).Nodup := hq ▸ h.queueNodup
  refine ok_unqueue h (List.tail_sublist _) ?_ (by simp [hq]) hx
  rw [hq]
  exact (List.nodup_cons.1 hnodup).1

theorem ok_taken (h : p.store.Ok) {rest : List JobId} (hq : p.dispatchQueue = j :: rest) {cb : Option Nat}
    {running : Bool} : (p.taken i j cb running).store.Ok :=
  ok_head h hq (status_ne_deferred (by decide))

/-- The first job of the cache is in nothing else. -/
theorem cacheHead_idle (h : p.store.Ok) {rest : List JobId} (hl : p.freeList = j :: rest) :
    j ∉ p.dispatchQueue ∧ j ∉ p.freeList.tail ∧ ∀ e, ¬p.store.Waits e j := by
  have hmem : j ∈ p.store.cache := by simp [store, hl]
  have hst := h.status_cache hmem
  have hnodup : (j :: rest).Nodup := hl ▸ h.cacheNodup
  refine ⟨h.not_queued ?_, ?_, h.not_waits ?_⟩
  · rw [hst]
    decide
  · rw [hl]
    exact (List.nodup_cons.1 hnodup).1
  · rw [hst]
    decide

/-- What is left of a job that is disposed of. -/
def Left (x : Option Job) : Prop := x = none ∨ ∃ job, x = some (wiped job)

theorem Left.not_deferred {x : Option Job} (h : Left x) : x.map (·.status) ≠ some .deferred := by
  obtain rfl | ⟨job, rfl⟩ := h
  · simp
  · simp [wiped]

theorem destroyJob_left {q : Pool} (hq : p.destroyJob j = some q) : ∃ x, Left x ∧
    q = { p with jobs := Function.update p.jobs j x }.note (.recycled j) := by
  obtain ⟨job, hjob, rfl⟩ := Option.map_eq_some_iff.1 hq
  refine ⟨if job.isStatic then some (wiped job) else none, ?_, rfl⟩
  split
  · exact .inr ⟨job, rfl⟩
  · exact .inl rfl

theorem ok_fire (h : p.store.Ok) (hw : p.store.Waits e j) :
    ((p.removeTimerEvent e).queued j false).store.Ok := by
  have hst : p.store.status j = some .deferred := (h.deferred j).2 ⟨e, hw⟩
  have hun := h.unwait hw (List.perm_cons_erase hw.1)
    (status_ne_deferred (x := p.jobs j) (s := .scheduled) (by decide))
  have hqueue : j ∉ p.dispatchQueue := (h.waits_apart hw).1
  unfold queued
  rw [postDispatch_store]
  refine hun.enqueue ?_ hqueue (List.perm_append_singleton j p.dispatchQueue)
  rw [Store.status_self (S := p.store) rfl]
  cases hjob : p.jobs j with
  | none =>
    have hnone : p.store.status j = none := congrArg (Option.map Job.status) hjob
    rw [hst] at hnone
    cases hnone
  | some job => rfl

theorem ok_defer (h : p.store.Ok) {job : Job} (hj : p.jobs j = some job) (hi : p.store.Idle j)
    (he : p.timerEvents e = none) (timeMs : BitVec 32) (adv advArm : Nat) :
    (p.insertDeferred j e timeMs adv advArm).store.Ok := by
  have hperm := List.perm_orderedInsert
    (fun a b => (p.initTimerEvent j e timeMs adv).timerEventCompare a b < 0) e p.timerEventsList
  have hwait := Store.Ok.wait h hi he hperm (show ({ job with status := .deferred } : Job).status = .deferred from rfl)
    (show (⟨p.now + adv + timeMs.toNat, j⟩ : TimerEvent).pJob = j from rfl)
  have hmap : (p.jobs j).map ({ · with status := .deferred }) = some { job with status := .deferred } := by
    rw [hj, Option.map_some]
  rw [← hmap] at hwait
  obtain ⟨timer, now, heq⟩ := insertDeferred_rest (p := p) (j := j) (e := e) timeMs adv advArm
  rw [heq]
  exact hwait

/-- **A move keeps the store in order.** -/
theorem ok_move (h : p.store.Ok) (hm : Move p q) : q.store.Ok := by
  cases hm with
  | create hi => exact h.put hi (by simp)
  | fetch hl =>
    refine h.cacheSub (List.tail_sublist _) ?_ ((Nat.sub_le ..).trans h.limit)
    rw [List.length_tail]
    exact Nat.sub_le_sub_right h.count 1
  | fetchNone hl =>
    refine h.cacheSub (List.tail_sublist _) ?_ h.limit
    rw [List.length_tail]
    exact (Nat.sub_le ..).trans h.count
  | uncache hc =>
    refine (h.queueSub List.erase_sublist).cacheSub List.erase_sublist ?_ h.limit
    exact List.length_erase_le.trans h.count
  | cancelIdle hj hs =>
    refine h.put (h.idle_of_status ?_ ?_ ?_) (status_ne_deferred (by decide))
    all_goals
      rw [status_some hj]
      rcases hs with hs | hs
      · simp [hs]
      · simp [hs]
  | withdrawQueued hmem =>
    refine Store.Ok.cacheSub (ok_unqueue h List.erase_sublist ?_ hmem (status_ne_deferred (by decide)))
      List.erase_sublist ?_ h.limit
    · exact h.queueNodup.not_mem_erase
    · exact List.length_erase_le.trans h.count
  | withdrawDeferred hw => exact h.unwait hw (List.perm_cons_erase hw.1) (status_ne_deferred (by decide))
  | schedule hj hi _ _ => exact ok_queued h (by simp [hj]) hi _
  | strand _ hi _ _ => exact h.put hi (status_ne_deferred (by decide))
  | fire hw _ _ _ _ => exact ok_fire h hw
  | defer hj hi he _ _ => exact ok_defer h hj hi he _ _ _
  | recycle hj hown hi _ _ hroom =>
    refine Store.Ok.cachePut (h.put hi (x := some (wiped _)) (by simp [wiped])) (Function.update_self ..) rfl hown
      hi.cache hroom
  | destroyJob _ hi _ hq =>
    obtain ⟨x, hx, rfl⟩ := destroyJob_left hq
    exact h.put hi hx.not_deferred
  | setMaxThreads => exact postDispatches_store.symm ▸ h
  | idle => exact ok_dequeue ((thinned_store true).symm ▸ h)
  | take _ _ hq _ =>
    have hqueue : (p.thinned true).dispatchQueue = p.dispatchQueue := congrArg Store.queue (thinned_store true)
    exact ok_taken ((thinned_store true).symm ▸ h) (hqueue.trans hq)
  | rest => exact (thinned_store false).symm ▸ h
  | nextIdle => exact ok_dequeue h
  | @nextTake i j job rest _ hq _ =>
    exact ok_taken (i := i) (p := { p with activeJobs := p.activeJobs - 1 }) h hq
  | dropQueued hq hd =>
    obtain ⟨x, hx, rfl⟩ := destroyJob_left hd
    exact ok_head h hq hx.not_deferred
  | queueEmpty => exact ok_dequeue h
  | @dropEvent e rest _ hl hd =>
    unfold dropEvent at hd
    cases hev : p.timerEvents e with
    | none => simp [hev] at hd
    | some ev =>
      cases hdes : (p.removeHeadEvent.note (.dropped ev.pJob .deferred)).destroyJob ev.pJob with
      | none => simp [hev, hdes] at hd
      | some q' =>
        obtain ⟨x, hx, rfl⟩ := destroyJob_left hdes
        obtain rfl : _ = q := by simpa [hev, hdes] using hd
        have hw : p.store.Waits e ev.pJob := ⟨by simp [store, hl], ev, hev, rfl⟩
        refine h.unwait hw (t := p.timerEventsList.tail) ?_ hx.not_deferred
        rw [show p.store.timed = e :: rest from hl, hl, List.tail_cons]
  | timerEmpty hl =>
    have hsame : p.removeHeadEvent.store = p.store := by simp [removeHeadEvent, call, store, hl]
    rwa [hsame]
  | @dropCached j rest _ hl hd =>
    obtain ⟨x, hx, rfl⟩ := destroyJob_left hd
    have hsub : Store.Ok { p.store with cache := p.freeList.tail } := by
      refine h.cacheSub (List.tail_sublist _) ?_ h.limit
      rw [List.length_tail]
      exact (Nat.sub_le ..).trans h.count
    obtain ⟨hqueue, hcache, htimed⟩ := cacheHead_idle h hl
    exact hsub.put ⟨hqueue, hcache, htimed⟩ hx.not_deferred
  | signal => exact postDispatches_store.symm ▸ h
  | _ => exact h

/-- Moves in a row. -/
abbrev Moves : Pool → Pool → Prop := Relation.ReflTransGen Move

theorem Moves.ok (h : p.store.Ok) (hm : Moves p q) : q.store.Ok := by
  induction hm with
  | refl => exact h
  | tail _ hlast ih => exact ok_move ih hlast

end Pool

end TaskPool
