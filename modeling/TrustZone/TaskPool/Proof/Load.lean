import TrustZone.TaskPool.Proof.Workers

/-!
# What the pool takes for its load

`activeJobs`, by which the pool decides whether to grow, counts what is queued or in work, and also what was
canceled or dropped out of the queue, or given to a worker that retired.

* `load_move`: a move keeps that.
* `run_load`: so it holds after every run.
-/

namespace TaskPool

open Lib Machine Pool

/-- The job was counted, and is not counted down. -/
def PoolEvent.leaks : PoolEvent → Bool
  | .dispatched _ running => !running
  | .withdrawn _ status | .dropped _ status => status = .scheduled
  | _ => false

def Pool.leaked (p : Pool) : Nat := p.log.countP PoolEvent.leaks

def Pool.load (p : Pool) : Nat := p.dispatchQueue.length + p.count Worker.busy + p.leaked

def Loaded (p : Pool) : Prop := p.activeJobs = BitVec.ofNat 32 p.load

variable {p q : Pool} {i : Nat} {j : JobId}

theorem Loaded.same (h : Loaded p) (hactive : q.activeJobs = p.activeJobs) (hload : q.load = p.load) :
    Loaded q := by
  rw [Loaded, hactive, hload]
  exact h

theorem Loaded.up (h : Loaded p) (hactive : q.activeJobs = p.activeJobs + 1) (hload : q.load = p.load + 1) :
    Loaded q := by
  rw [Loaded, hactive, hload, BitVec.ofNat_add, ← h]
  rfl

theorem Loaded.down (h : Loaded p) (hactive : q.activeJobs = p.activeJobs - 1) (hload : q.load + 1 = p.load) :
    Loaded q := by
  rw [Loaded, hactive, h, ← hload, BitVec.ofNat_add]
  exact BitVec.add_sub_cancel _ _

theorem leaked_note (e : PoolEvent) : (p.note e).leaked = p.leaked + e.leaks.toNat := by
  unfold Pool.leaked Pool.note
  rw [List.countP_append, List.countP_singleton]
  cases e.leaks <;> rfl

/-- A worker goes on, and nothing is logged. -/
theorem load_turn {w v : Worker} (hw : p.workers[i]? = some w) (hq : q.workers = p.workers.set i v)
    (hqueue : q.dispatchQueue = p.dispatchQueue) (hlog : q.log = p.log) :
    q.load + w.busy.toNat = p.load + v.busy.toNat := by
  have hcount : q.count Worker.busy + w.busy.toNat = p.count Worker.busy + v.busy.toNat := by
    rw [Pool.count, hq, Pool.count]
    exact count_set hw
  unfold Pool.load Pool.leaked
  rw [hqueue, hlog]
  omega

/-- A worker takes the first job. -/
theorem load_taken {w : Worker} {rest : List JobId} {cb : Option Nat} {running : Bool}
    (hw : p.workers[i]? = some w) (hq : p.dispatchQueue = j :: rest) :
    (p.taken i j cb running).load + w.busy.toNat = p.load := by
  have hcount : (p.taken i j cb running).count Worker.busy + w.busy.toNat = p.count Worker.busy + running.toNat :=
    count_set (v := .dispatched j cb running) hw
  have hleak : (p.taken i j cb running).leaked = p.leaked + (!running).toNat := leaked_note _
  have hlen : (p.taken i j cb running).dispatchQueue.length + 1 = p.dispatchQueue.length := by
    show p.dispatchQueue.tail.length + 1 = _
    rw [hq]
    rfl
  unfold Pool.load
  rw [hleak]
  cases running <;> simp at hcount ⊢ <;> omega

theorem count_busy_queued (front : Bool) : (p.queued j front).count Worker.busy = p.count Worker.busy := by
  have hworkers : (p.queued j front).workers = p.workers := by
    cases front <;> exact postDispatch_workers
  rw [Pool.count, hworkers, Pool.count]

theorem Loaded.queued (h : Loaded p) (front : Bool) : Loaded (p.queued j front) := by
  refine h.up ?_ ?_
  · cases front <;> exact postDispatch_activeJobs
  · have hqueue : (p.queued j front).dispatchQueue.length = p.dispatchQueue.length + 1 := by
      have hstore := congrArg (fun S => S.queue.length) (queued_store (p := p) (j := j) front)
      refine Eq.trans hstore ?_
      cases front <;> simp
    have hlog : (p.queued j front).log = p.log := by
      cases front <;> exact postDispatch_log
    unfold Pool.load Pool.leaked
    rw [hqueue, hlog, count_busy_queued]
    omega

theorem thinned_at (b : Bool) : (p.thinned b).workers[i]? = p.workers[i]? := by
  unfold Pool.thinned
  split <;> rfl

theorem destroyJob_loaded (h : Loaded p) (hq : p.destroyJob j = some q) : Loaded q := by
  obtain ⟨x, -, rfl⟩ := destroyJob_left hq
  exact h.same rfl (congrArg (_ + ·) (leaked_note _))

/-- The queue is as empty as it was. -/
theorem Loaded.dequeue (h : Loaded p) (hq : p.dispatchQueue = []) : Loaded p.dequeueHead.2 := by
  refine h.same rfl ?_
  show p.dispatchQueue.tail.length + p.count Worker.busy + p.leaked = p.load
  rw [hq]
  unfold Pool.load
  rw [hq]
  rfl

theorem Loaded.thinned (h : Loaded p) (b : Bool) : Loaded (p.thinned b) := by
  unfold Pool.thinned
  split
  · exact h
  · exact h

theorem Loaded.uncache (h : Loaded p) (hj : j ∉ p.dispatchQueue) : Loaded (p.remove j) := by
  refine h.same rfl ?_
  show (p.dispatchQueue.erase j).length + p.count Worker.busy + p.leaked = p.load
  rw [List.erase_of_not_mem hj]
  rfl

/-- A job that is withdrawn from the queue stays in the count. -/
theorem Loaded.withdraw (h : Loaded p) (hj : j ∈ p.dispatchQueue) :
    Loaded (((p.setStatus j .canceled).remove j).note (.withdrawn j .scheduled)) := by
  refine h.same rfl ?_
  have hleak : (((p.setStatus j .canceled).remove j).note (.withdrawn j .scheduled)).leaked = p.leaked + 1 :=
    leaked_note _
  have hpos := List.length_pos_of_mem hj
  unfold Pool.load
  rw [hleak]
  show (p.dispatchQueue.erase j).length + p.count Worker.busy + (p.leaked + 1) = _
  rw [List.length_erase_of_mem hj]
  omega

/-- So does one that is dropped out of it. -/
theorem Loaded.drop (h : Loaded p) {rest : List JobId} (hq : p.dispatchQueue = j :: rest) :
    Loaded (p.dequeueHead.2.note (.dropped j .scheduled)) := by
  refine h.same rfl ?_
  have hleak : (p.dequeueHead.2.note (.dropped j .scheduled)).leaked = p.leaked + 1 := leaked_note _
  unfold Pool.load
  rw [hleak]
  show p.dispatchQueue.tail.length + p.count Worker.busy + (p.leaked + 1) = _
  rw [hq, List.tail_cons, List.length_cons]
  omega

theorem Loaded.grow (h : Loaded p) : Loaded p.grow := by
  refine h.same rfl ?_
  have hcount : p.grow.count Worker.busy = p.count Worker.busy := by
    unfold Pool.count Pool.grow
    rw [List.countP_append]
    rfl
  unfold Pool.load
  rw [hcount]
  rfl

theorem Loaded.defer (h : Loaded p) (e : EventId) (timeMs : BitVec 32) (adv advArm : Nat) :
    Loaded ((p.insertDeferred j e timeMs adv advArm).note (.accepted j)) := by
  obtain ⟨timer, now, heq⟩ := insertDeferred_rest (p := p) (j := j) (e := e) timeMs adv advArm
  rw [heq]
  exact h.same rfl (congrArg (_ + ·) (leaked_note _))

/-- A worker goes on, with as much to do as before. -/
theorem Loaded.turn (h : Loaded p) {w v : Worker} (hw : p.workers[i]? = some w) (hbusy : v.busy = w.busy) :
    Loaded (p.setWorker i v) := by
  have hturn := load_turn (q := p.setWorker i v) hw rfl rfl rfl
  rw [hbusy] at hturn
  exact h.same rfl (Nat.add_right_cancel hturn)

/-- A worker that had no job goes back or leaves. -/
theorem Loaded.rest (h : Loaded p) {b retires : Bool} (hw : p.workers[i]? = some (.woken b)) :
    Loaded (p.setWorker i (if retires then .exited else .waiting)) := by
  refine h.turn hw ?_
  cases retires <;> rfl

/-- **A move keeps the load.** -/
theorem load_move (hok : p.store.Ok) (h : Loaded p) (hm : Move p q) : Loaded q := by
  cases hm with
  | create => exact h.same rfl (congrArg (_ + ·) (leaked_note _))
  | uncache hc => exact h.uncache fun hq => hok.not_cached_of_queued hq hc
  | withdrawQueued hmem => exact h.withdraw hmem
  | withdrawDeferred => exact h.same rfl (congrArg (_ + ·) (leaked_note _))
  | grow => exact h.grow
  | schedule => exact (h.queued _).same rfl (congrArg (_ + ·) (leaked_note _))
  | strand => exact h.same rfl (congrArg (_ + ·) (leaked_note _))
  | @fire j e =>
    have hdrop : Loaded (p.removeTimerEvent e) := h
    exact hdrop.queued false
  | defer => exact h.defer ..
  | recycle => exact h.same rfl (congrArg (_ + ·) (leaked_note _))
  | destroyJob _ _ _ hq => exact destroyJob_loaded h hq
  | @setMaxThreads n =>
    obtain ⟨s, l, -, heq⟩ := postDispatches_rest (p := { p with maxThreads := n }) (p.maxThreads - n)
    rw [heq]
    exact h
  | @wake i hw _ =>
    have hsignal : Loaded { p with dispatchSignal := p.dispatchSignal - 1 } := h
    exact hsignal.turn hw rfl
  | timeout hw => exact h.turn hw rfl
  | @leave i b hw _ =>
    have hactive : Loaded { p with activeThreads := p.activeThreads - 1 } := h
    exact hactive.turn hw rfl
  | rest hw _ => exact (h.thinned false).rest ((thinned_at false).trans hw)
  | idle hw _ hq =>
    have hempty : (p.thinned true).dispatchQueue = [] := (congrArg Store.queue (thinned_store true)).trans hq
    exact ((h.thinned true).dequeue hempty).rest ((thinned_at true).trans hw)
  | take hw _ hq _ =>
    have hqueue := (congrArg Store.queue (thinned_store (p := p) true)).trans hq
    exact (h.thinned true).same rfl (load_taken ((thinned_at true).trans hw) hqueue)
  | call hw _ => exact h.turn hw rfl
  | @callbackReturns i j running hw =>
    refine h.turn hw ?_
    cases running <;> rfl
  | @nextIdle i hw hq =>
    have hempty : Pool.load p.dequeueHead.2 = p.load := by
      show p.dispatchQueue.tail.length + p.count Worker.busy + p.leaked = p.load
      unfold Pool.load
      rw [hq]
      rfl
    refine h.down rfl (Eq.trans ?_ hempty)
    exact load_turn (p := p.dequeueHead.2) (v := .waiting) hw rfl rfl rfl
  | nextTake hw hq _ => exact h.down rfl (load_taken (p := { p with activeJobs := p.activeJobs - 1 }) hw hq)
  | @exit i hw =>
    have hpost : Loaded { p with startStopSignal := min (p.startStopSignal + 1) TASKPOOL_MAX_SEM_VALUE } := h
    exact hpost.turn hw rfl
  | dropQueued hq hd => exact destroyJob_loaded (h.drop hq) hd
  | queueEmpty hq => exact h.dequeue hq
  | @dropEvent e rest _ hl hd =>
    obtain ⟨ev, x, -, -, rfl⟩ := dropEvent_cases hd
    have hdrop : Loaded (p.removeHeadEvent.note (.dropped ev.pJob .deferred)) :=
      h.same rfl (congrArg (_ + ·) (leaked_note _))
    exact hdrop.same rfl (congrArg (_ + ·) (leaked_note _))
  | dropCached _ hd =>
    have hhead : Loaded p.fetchHead.2 := h
    exact destroyJob_loaded hhead hd
  | signal =>
    obtain ⟨s, l, -, heq⟩ := postDispatches_rest (p := { p with maxThreads := 0 }) p.activeThreads
    unfold signalShutdown
    rw [heq]
    exact h
  | _ => exact h

/-! ## Runs -/

variable {pInfo : TaskPoolInfo} {p₀ : Pool} {tr : List (Entry Pool PoolCall (Option Ret))}

/-- **The load**: after every run `activeJobs` is what is queued or in work, with the jobs that were canceled or
dropped out of the queue, or taken by a worker that retired, which nothing counts down. -/
theorem run_load (hp : Created pInfo p₀) (hrun : Exec taskPool p₀ tr p) :
    p.activeJobs = BitVec.ofNat 32 (p.dispatchQueue.length + p.count Worker.busy + p.leaked) := by
  refine (run_inv (I := Loaded) hp ?_ (fun hok hI hm => load_move hok hI hm) hrun).2
  intro hfresh
  have hbusy : p₀.count Worker.busy = 0 := by
    rw [hfresh.pool]
    exact List.countP_replicate
  unfold Loaded Pool.load
  rw [hbusy, hfresh.pool]
  rfl

/-- A job that was canceled in the queue stays in the count, while another runs. -/
theorem run_load_onePool :
    (onePool.after [.createJob (some 7) 0 (some 1), .createJob (some 7) 0 (some 2), .schedule (some 1) 0 false 0,
      .schedule (some 2) 0 false 0, .tryCancel (some 1) 0, .workerWake 0 true, .workerLock 0]).activeJobs =
      BitVec.ofNat 32 (0 + 1 + 1) := by
  have hrun : Exec taskPool onePool _ (onePool.after [.createJob (some 7) 0 (some 1),
    .createJob (some 7) 0 (some 2), .schedule (some 1) 0 false 0, .schedule (some 2) 0 false 0,
    .tryCancel (some 1) 0, .workerWake 0 true, .workerLock 0]) := exec?_getD rfl
  exact run_load onePool_created hrun

end TaskPool
