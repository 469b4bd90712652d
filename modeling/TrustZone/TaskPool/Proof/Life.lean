import TrustZone.TaskPool.Life
import TrustZone.TaskPool.Proof.Steps

/-!
# The pool and the life of each job

* `life_move`: a move is a step in the life of one job, with the events that it logs, or of none.
* `run_life`: the history of every job in every run is a life that ends in its phase.
* `job_balance`, `job_renewed`: what follows for the job.
* `canceled_rests`: a canceled job is not called, unless it is accepted again.
* `cancel_answers`: what a cancellation reports.
-/

namespace TaskPool

open Lib Machine Pool

namespace Store

variable {S T : Store} {j k : JobId}

/-- Where the job is in its life. -/
def phase (S : Store) (j : JobId) : Phase :=
  match S.status j with
  | none => .absent
  | some .ready => .ready
  | some .scheduled => if j ∈ S.queue then .queued else .refused
  | some .deferred => .deferred
  | some .completed => .called
  | some .canceled => .canceled
  | some .undefined => .wiped

theorem phase_congr (hs : T.status k = S.status k) (hq : k ∈ T.queue ↔ k ∈ S.queue) : T.phase k = S.phase k := by
  unfold phase
  rw [hs]
  simp only [hq]

theorem phase_queued (h : S.Ok) (hj : j ∈ S.queue) : S.phase j = .queued := by
  rw [phase, h.scheduled j hj]
  exact if_pos hj

theorem phase_deferred (h : S.status j = some .deferred) : S.phase j = .deferred := by
  rw [phase, h]

theorem phase_refused (h : S.status j = some .scheduled) (hj : j ∉ S.queue) : S.phase j = .refused := by
  rw [phase, h]
  exact if_neg hj

/-- The phase of a job that is in nothing. -/
theorem phase_idle (h : S.Ok) (hi : S.Idle j) : (S.phase j).pending = false := by
  unfold phase
  cases hst : S.status j with
  | none => rfl
  | some st =>
    cases st with
    | scheduled =>
      dsimp only
      rw [if_neg hi.queue]
      rfl
    | deferred =>
      obtain ⟨e, he⟩ := (h.deferred j).1 hst
      exact absurd he (hi.timed e)
    | _ => rfl

/-- The phase of such a job that can be scheduled, or was called. -/
theorem phase_open (h : S.Ok) (hi : S.Idle j) {job : Job} (hj : S.jobs j = some job) (hst : job.status ≠ .scheduled) :
    (S.phase j).Open ∨ job.status = .completed ∧ S.phase j = .called := by
  have hstatus : S.status j = some job.status := congrArg (Option.map Job.status) hj
  have hnot := h.not_waits (j := j)
  rw [phase, hstatus]
  cases hjob : job.status with
  | ready => exact .inl (.inl rfl)
  | scheduled => exact absurd hjob hst
  | deferred =>
    rw [hjob] at hstatus
    obtain ⟨e, he⟩ := (h.deferred j).1 hstatus
    exact absurd he (hi.timed e)
  | completed => exact .inr ⟨rfl, rfl⟩
  | canceled => exact .inl (.inr (.inl rfl))
  | undefined => exact .inl (.inr (.inr rfl))

theorem phase_update {x : Option Job} (hT : T.jobs = Function.update S.jobs j x) (hk : k ≠ j)
    (hq : k ∈ T.queue ↔ k ∈ S.queue) : T.phase k = S.phase k :=
  phase_congr (status_other hT hk) hq

/-- What a job that is wiped or freed is. -/
theorem phase_left {x : Option Job} (hT : T.jobs = Function.update S.jobs j x)
    (hx : x = none ∨ ∃ job, x = some (wiped job)) : T.phase j = .absent ∨ T.phase j = .wiped := by
  rw [phase, status_self hT]
  obtain rfl | ⟨job, rfl⟩ := hx
  · exact .inl rfl
  · exact .inr rfl

end Store

variable {p q : Pool} {j : JobId}

/-- A step in the life of a job, or none in any. -/
structure Lived (p q : Pool) (es : List PoolEvent) : Prop where
  log : q.log = p.log ++ es
  lives : ∀ k, LifeStep k (p.store.phase k) (es.filter (·.pJob = k)) (q.store.phase k) ∨
    es.filter (·.pJob = k) = [] ∧ q.store.phase k = p.store.phase k

theorem lived_same (hlog : q.log = p.log) (hphase : ∀ k, q.store.phase k = p.store.phase k) : ∃ es, Lived p q es :=
  ⟨[], (hlog.trans (List.append_nil _).symm), fun k => .inr ⟨rfl, hphase k⟩⟩

theorem lived_one {l : List PoolEvent} (hlog : q.log = p.log ++ l) (hes : ∀ e ∈ l, e.pJob = j)
    (hother : ∀ k, k ≠ j → q.store.phase k = p.store.phase k)
    (hstep : LifeStep j (p.store.phase j) l (q.store.phase j)) : ∃ es, Lived p q es := by
  refine ⟨l, hlog, fun k => ?_⟩
  by_cases hk : k = j
  · subst hk
    refine .inl ?_
    rwa [List.filter_eq_self.2 fun e he => decide_eq_true (hes e he)]
  · refine .inr ⟨List.filter_eq_nil_iff.2 fun e he => ?_, hother k hk⟩
    rw [hes e he, decide_eq_true_eq]
    exact fun hjk => hk hjk.symm

theorem dispatched_life (h : p.store.Ok) {rest : List JobId} (hl : p.dispatchQueue = j :: rest) {running : Bool}
    (hlog : q.log = p.log ++ [.dispatched j running]) (hqueue : q.dispatchQueue = p.dispatchQueue.tail)
    (hjobs : q.jobs = Function.update p.jobs j ((p.jobs j).map ({ · with status := .completed }))) :
    ∃ es, Lived p q es := by
  have hmem : j ∈ p.store.queue := by simp [store, hl]
  refine lived_one (j := j) hlog (by simp [PoolEvent.pJob]) (fun k hk => ?_) ?_
  · refine Store.phase_update hjobs hk ?_
    show k ∈ q.dispatchQueue ↔ k ∈ p.dispatchQueue
    rw [hqueue, hl, List.tail_cons, List.mem_cons]
    exact ⟨.inr, fun hor => hor.resolve_left hk⟩
  · obtain ⟨job, hjob, -⟩ := Option.map_eq_some_iff.1 (h.scheduled j hmem)
    have hst : q.store.status j = some .completed := by
      rw [Store.status_self (S := p.store) hjobs, show p.jobs j = some job from hjob]
      rfl
    rw [Store.phase_queued h hmem, show q.store.phase j = .called by rw [Store.phase, hst]]
    exact .take

theorem queued_log (front : Bool) : (p.queued j front).log = p.log := by
  cases front <;> exact postDispatch_log

/-- A job is queued, from a life that is open or deferred. -/
theorem queued_phases (hj : p.jobs j ≠ none) (front : Bool) : (p.queued j front).store.phase j = .queued ∧
    ∀ k, k ≠ j → (p.queued j front).store.phase k = p.store.phase k := by
  have hjobs : (p.queued j front).store.jobs =
      Function.update p.jobs j ((p.jobs j).map ({ · with status := .scheduled })) := by
    rw [queued_store]
  have hmem : ∀ k, k ∈ (p.queued j front).store.queue ↔ k = j ∨ k ∈ p.dispatchQueue := by
    intro k
    rw [queued_store]
    cases front <;> simp [or_comm]
  refine ⟨?_, fun k hk => Store.phase_update hjobs hk ((hmem k).trans ⟨fun hor => hor.resolve_left hk, .inr⟩)⟩
  have hst : (p.queued j front).store.status j = some .scheduled := by
    rw [Store.status_self (S := p.store) hjobs]
    cases hjob : p.jobs j with
    | none => exact absurd hjob hj
    | some job => rfl
  rw [Store.phase, hst]
  exact if_pos ((hmem j).2 (.inl rfl))

/-- The status of a job is set, or it is freed, and no other job enters or leaves the queue. -/
theorem lived_update {l : List PoolEvent} {x : Option Job} (hlog : q.log = p.log ++ l) (hes : ∀ e ∈ l, e.pJob = j)
    (hjobs : q.jobs = Function.update p.jobs j x)
    (hqueue : ∀ k, k ≠ j → (k ∈ q.dispatchQueue ↔ k ∈ p.dispatchQueue))
    (hstep : LifeStep j (p.store.phase j) l (q.store.phase j)) : ∃ es, Lived p q es :=
  lived_one hlog hes (fun k hk => Store.phase_update hjobs hk (hqueue k hk)) hstep

theorem status_set {job : Job} (hj : p.jobs j = some job) {s : JobStatus}
    (hjobs : q.jobs = Function.update p.jobs j ((p.jobs j).map ({ · with status := s }))) :
    q.store.status j = some s := by
  rw [Store.status_self (S := p.store) hjobs, hj]
  rfl

/-- A job that has a status is there. -/
theorem job_some {s : JobStatus} (hst : p.store.status j = some s) : ∃ job, p.jobs j = some job := by
  obtain ⟨job, hjob, -⟩ := Option.map_eq_some_iff.1 hst
  exact ⟨job, hjob⟩

theorem cancelIdle_life {job : Job} (hj : p.jobs j = some job) (hs : job.status = .ready ∨ job.status = .canceled) :
    ∃ es, Lived p (p.setStatus j .canceled) es := by
  refine lived_update (l := []) (List.append_nil _).symm (by simp) rfl (fun _ _ => Iff.rfl) ?_
  have hphase : (p.setStatus j .canceled).store.phase j = .canceled := by
    rw [Store.phase, status_set hj rfl]
  rw [hphase]
  refine .cancel ?_
  rw [Store.phase, status_some hj]
  rcases hs with hs | hs
  · exact .inl (by rw [hs])
  · exact .inr (by rw [hs])

/-- A job that waits is withdrawn. -/
theorem withdraw_life {s st : JobStatus} (hst : p.store.status j = some st) (hpend : (p.store.phase j).pending = true)
    (hlog : q.log = p.log ++ [.withdrawn j s])
    (hjobs : q.jobs = Function.update p.jobs j ((p.jobs j).map ({ · with status := .canceled })))
    (hqueue : ∀ k, k ≠ j → (k ∈ q.dispatchQueue ↔ k ∈ p.dispatchQueue)) : ∃ es, Lived p q es := by
  refine lived_update hlog (by simp [PoolEvent.pJob]) hjobs hqueue ?_
  obtain ⟨job, hjob⟩ := job_some hst
  have hphase : q.store.phase j = .canceled := by
    rw [Store.phase, status_set hjob hjobs]
  rw [hphase]
  exact .withdraw hpend

/-- A job that waits is dropped. -/
theorem drop_life {s : JobStatus} {x : Option Job} (hpend : (p.store.phase j).pending = true) (hx : Left x)
    (hlog : q.log = p.log ++ [.dropped j s] ++ [.recycled j]) (hjobs : q.jobs = Function.update p.jobs j x)
    (hqueue : ∀ k, k ≠ j → (k ∈ q.dispatchQueue ↔ k ∈ p.dispatchQueue)) : ∃ es, Lived p q es := by
  rw [List.append_assoc] at hlog
  refine lived_update hlog ?_ hjobs hqueue (.drop hpend (Store.phase_left (S := p.store) hjobs hx))
  simp [PoolEvent.pJob]

theorem strand_life (h : p.store.Ok) {job : Job} (hj : p.jobs j = some job) (hi : p.store.Idle j)
    (hopen : job.Open) : ∃ es, Lived p ((p.setStatus j .scheduled).note (.refused j)) es := by
  refine lived_update rfl (by simp [PoolEvent.pJob]) rfl (fun _ _ => Iff.rfl) ?_
  have hphase : ((p.setStatus j .scheduled).note (.refused j)).store.phase j = .refused :=
    Store.phase_refused (status_set hj rfl) hi.queue
  rw [hphase]
  exact .refuse ((Store.phase_open h hi hj hopen.scheduled).resolve_right fun hc => hopen.completed hc.1)

theorem schedule_life (h : p.store.Ok) {job : Job} (hj : p.jobs j = some job) (hi : p.store.Idle j)
    (hopen : job.Open) (front : Bool) : ∃ es, Lived p ((p.queued j front).note (.accepted j)) es := by
  obtain ⟨hself, hother⟩ := queued_phases (p := p) (j := j) (by simp [hj]) front
  refine lived_one (congrArg (· ++ _) (queued_log front)) (by simp [PoolEvent.pJob]) hother ?_
  rw [show ((p.queued j front).note (.accepted j)).store.phase j = .queued from hself]
  exact .accept ((Store.phase_open h hi hj hopen.scheduled).resolve_right fun hc => hopen.completed hc.1) rfl

theorem fire_life (h : p.store.Ok) {e : EventId} (hw : p.store.Waits e j) :
    ∃ es, Lived p ((p.removeTimerEvent e).queued j false) es := by
  have hst := (h.deferred j).2 ⟨e, hw⟩
  obtain ⟨job, hjob⟩ := job_some hst
  have hsome : (p.removeTimerEvent e).jobs j ≠ none := by
    rw [show (p.removeTimerEvent e).jobs j = some job from hjob]
    exact Option.some_ne_none job
  obtain ⟨hself, hother⟩ := queued_phases hsome false
  refine lived_one (l := []) ?_ (by simp) hother ?_
  · rw [queued_log, List.append_nil]
    rfl
  · rw [hself, Store.phase_deferred hst]
    exact .fire

theorem defer_life (h : p.store.Ok) {job : Job} (hj : p.jobs j = some job) (hi : p.store.Idle j) (hopen : job.Open)
    (e : EventId) (timeMs : BitVec 32) (adv advArm : Nat) :
    ∃ es, Lived p ((p.insertDeferred j e timeMs adv advArm).note (.accepted j)) es := by
  obtain ⟨timer, now, heq⟩ := insertDeferred_rest (p := p) (j := j) (e := e) timeMs adv advArm
  have hjobs : ((p.insertDeferred j e timeMs adv advArm).note (.accepted j)).jobs =
      Function.update p.jobs j ((p.jobs j).map ({ · with status := .deferred })) := by
    rw [heq]
    rfl
  have hlog : (p.insertDeferred j e timeMs adv advArm).log = p.log := by
    rw [heq]
    rfl
  have hqueue : (p.insertDeferred j e timeMs adv advArm).dispatchQueue = p.dispatchQueue := by
    rw [heq]
    rfl
  refine lived_update (congrArg (· ++ _) hlog) (by simp [PoolEvent.pJob]) hjobs (fun k _ => ?_) ?_
  · exact (congrArg (k ∈ ·) hqueue).to_iff
  rw [Store.phase_deferred (status_set hj hjobs)]
  exact .accept ((Store.phase_open h hi hj hopen.scheduled).resolve_right fun hc => hopen.completed hc.1) rfl

/-- Taking the first job of an empty queue. -/
theorem idle_life (hq : p.dispatchQueue = []) (hlog : q.log = p.log) (hjobs : q.jobs = p.jobs)
    (hqueue : q.dispatchQueue = p.dispatchQueue.tail) : ∃ es, Lived p q es := by
  refine lived_same hlog fun k => Store.phase_congr ?_ ?_
  · exact congrArg (fun jobs => (jobs k).map (·.status)) hjobs
  · show k ∈ q.dispatchQueue ↔ k ∈ p.dispatchQueue
    rw [hqueue, hq, List.tail_nil]

/-- **A move is a step in the life of a job, or of none.** -/
theorem life_move (h : p.store.Ok) (hm : Move p q) : ∃ es, Lived p q es := by
  have hrest : ∀ {l : List JobId} {j k : JobId}, p.dispatchQueue = j :: l → k ≠ j →
      (k ∈ p.dispatchQueue.tail ↔ k ∈ p.dispatchQueue) := by
    intro l j k hq hk
    rw [hq, List.tail_cons, List.mem_cons]
    exact ⟨.inr, fun hor => hor.resolve_left hk⟩
  cases hm with
  | @create j cb ctx st hi =>
    refine lived_update rfl (by simp [PoolEvent.pJob]) rfl (fun _ _ => Iff.rfl) ?_
    have hphase : (p.initializeJob j cb ctx st).store.phase j = .ready := by
      rw [Store.phase, Store.status_self (S := p.store) rfl]
      rfl
    rw [hphase]
    exact .create (Store.phase_idle h hi)
  | uncache hc =>
    refine lived_same rfl fun k => Store.phase_congr rfl ?_
    have hnot : _ ∉ p.dispatchQueue := fun hq => h.not_cached_of_queued hq hc
    show k ∈ p.dispatchQueue.erase _ ↔ k ∈ p.dispatchQueue
    rw [List.erase_of_not_mem hnot]
  | cancelIdle hj hs => exact cancelIdle_life hj hs
  | @withdrawQueued j hmem =>
    refine withdraw_life (h.scheduled j hmem) ?_ rfl rfl fun k hk => List.mem_erase_of_ne hk
    rw [Store.phase_queued h hmem]
    rfl
  | @withdrawDeferred j e hw =>
    have hst := (h.deferred j).2 ⟨e, hw⟩
    refine withdraw_life hst ?_ rfl rfl fun _ _ => Iff.rfl
    rw [Store.phase_deferred hst]
    rfl
  | schedule hj hi _ hopen => exact schedule_life h hj hi hopen _
  | strand hj hi _ hopen => exact strand_life h hj hi hopen
  | fire hw => exact fire_life h hw
  | defer hj hi _ _ hopen => exact defer_life h hj hi hopen ..
  | @recycle j job hj hown hi hs hst hroom =>
    refine lived_update (x := some (wiped job)) rfl (by simp [PoolEvent.pJob]) rfl (fun _ _ => Iff.rfl) ?_
    refine .recycle ?_ (Store.phase_left (S := p.store) (x := some (wiped job)) rfl (.inr ⟨job, rfl⟩))
    exact (Store.phase_open h hi hj hst).imp_right And.right
  | @destroyJob j job _ hj hi hst hq =>
    obtain ⟨x, hx, rfl⟩ := destroyJob_left hq
    refine lived_update (x := x) rfl (by simp [PoolEvent.pJob]) rfl (fun _ _ => Iff.rfl) ?_
    exact .recycle ((Store.phase_open h hi hj hst).imp_right And.right) (Store.phase_left (S := p.store) rfl hx)
  | @setMaxThreads n hmin hpos hs =>
    have hstore := postDispatches_store (p := { p with maxThreads := n }) (n := p.maxThreads - n)
    exact lived_same postDispatches_log fun k => congrArg (Store.phase · k) hstore
  | rest =>
    exact lived_same (thinned_log false) fun k => congrArg (Store.phase · k) (thinned_store false)
  | idle _ _ hq =>
    have hstore := thinned_store (p := p) true
    exact idle_life hq (thinned_log true) (congrArg Store.jobs hstore)
      (congrArg (fun S => S.queue.tail) hstore)
  | take _ _ hq _ =>
    have hstore := thinned_store (p := p) true
    refine dispatched_life h hq (congrArg (· ++ _) (thinned_log true)) ?_ ?_
    · exact congrArg List.tail (congrArg Store.queue hstore)
    · show Function.update (p.thinned true).jobs _ (((p.thinned true).jobs _).map _) = _
      rw [show (p.thinned true).jobs = p.jobs from congrArg Store.jobs hstore]
  | nextIdle _ hq => exact idle_life hq rfl rfl rfl
  | nextTake _ hq _ => exact dispatched_life h hq rfl rfl rfl
  | @dropQueued j rest _ hq hd =>
    obtain ⟨x, hx, rfl⟩ := destroyJob_left hd
    refine drop_life ?_ hx rfl rfl fun k hk => hrest hq hk
    rw [Store.phase_queued h (by simp [store, hq])]
    rfl
  | queueEmpty hq => exact idle_life hq rfl rfl rfl
  | @dropEvent e rest _ hl hd =>
    obtain ⟨ev, x, hev, hx, rfl⟩ := dropEvent_cases hd
    have hw : p.store.Waits e ev.pJob := ⟨by simp [store, hl], ev, hev, rfl⟩
    refine drop_life ?_ hx rfl rfl fun _ _ => Iff.rfl
    rw [Store.phase_deferred ((h.deferred _).2 ⟨e, hw⟩)]
    rfl
  | @dropCached j rest _ hl hd =>
    obtain ⟨x, hx, rfl⟩ := destroyJob_left hd
    refine lived_update (x := x) rfl (by simp [PoolEvent.pJob]) rfl (fun _ _ => Iff.rfl) ?_
    refine .recycle (.inl (.inr (.inr ?_))) (Store.phase_left (S := p.store) rfl hx)
    rw [Store.phase, h.status_cache (by simp [store, hl])]
  | signal =>
    have hstore := postDispatches_store (p := { p with maxThreads := 0 }) (n := p.activeThreads)
    exact lived_same postDispatches_log fun k => congrArg (Store.phase · k) hstore
  | _ => exact lived_same rfl fun k => rfl

/-! ## Runs -/

variable {pInfo : TaskPoolInfo} {p₀ : Pool} {tr : List (Entry Pool PoolCall (Option Ret))}

/-- What was logged of the job. -/
def Pool.history (p : Pool) (j : JobId) : List PoolEvent := p.log.filter (·.pJob = j)

theorem lives_run (hp : Created pInfo p₀) (hrun : Exec taskPool p₀ tr p) (j : JobId) :
    Life j (p.history j) (p.store.phase j) := by
  refine (run_inv (I := fun p => ∀ k, Life k (p.history k) (p.store.phase k)) hp ?_ ?_ hrun).2 j
  · intro hfresh k
    rw [hfresh.pool]
    exact .start
  · intro p q hok hI hm k
    obtain ⟨es, hes⟩ := life_move hok hm
    have hsplit : q.history k = p.history k ++ es.filter (·.pJob = k) := by
      rw [Pool.history, hes.log, List.filter_append, Pool.history]
    rw [hsplit]
    obtain hstep | ⟨hnil, hphase⟩ := hes.lives k
    · exact .step (hI k) hstep
    · rw [hnil, hphase, List.append_nil]
      exact hI k

/-- **The pool refines the life of each job**: what a run logs of a job is a life, which ends in the phase that
the job is in. -/
theorem run_life (hp : Created pInfo p₀) (hrun : Exec taskPool p₀ tr p) (j : JobId) :
    Life j (p.history j) (p.store.phase j) :=
  lives_run hp hrun j

/-- A job that was called. -/
theorem run_life_onePool : Life 1 [.created 1, .accepted 1, .dispatched 1 true] .called := by
  have hrun : Exec taskPool onePool _ (onePool.after [.createJob (some 7) 0 (some 1), .schedule (some 1) 0 false 0,
    .workerWake 0 true, .workerLock 0, .workerCall 0]) := exec?_getD rfl
  exact run_life onePool_created hrun 1

/-- A job waits in the queue or for its time, and only once. -/
theorem pending_count (h : p.store.Ok) (j : JobId) : (p.store.phase j).pending.toNat =
    p.dispatchQueue.count j + p.timerEventsList.countP (p.matchJobByPointer j) := by
  have hmatch : ∀ e ∈ p.timerEventsList, p.matchJobByPointer j e = true → p.store.Waits e j :=
    fun e he hm => ⟨he, matchJob_iff.1 hm⟩
  by_cases hd : p.store.status j = some .deferred
  · obtain ⟨e, he⟩ := (h.deferred j).1 hd
    have hqueue : j ∉ p.dispatchQueue := (h.waits_apart he).1
    have hmem : e ∈ p.timerEventsList := he.1
    have hrest : (p.timerEventsList.erase e).countP (p.matchJobByPointer j) = 0 := by
      rw [List.countP_eq_zero]
      intro e' he' hm
      have hw := hmatch e' (List.mem_of_mem_erase he') hm
      obtain rfl := h.unique hw he
      exact h.timedNodup.not_mem_erase he'
    rw [Store.phase_deferred hd, List.count_eq_zero_of_not_mem hqueue,
      (List.perm_cons_erase hmem).countP_eq, List.countP_cons_of_pos (matchJob_iff.2 he.2), hrest]
    rfl
  · have htimed : p.timerEventsList.countP (p.matchJobByPointer j) = 0 := by
      rw [List.countP_eq_zero]
      intro e he hm
      exact h.not_waits hd e (hmatch e he hm)
    rw [htimed]
    by_cases hq : j ∈ p.dispatchQueue
    · have hone : p.dispatchQueue.count j = 1 := List.count_eq_one_of_mem h.queueNodup hq
      rw [Store.phase_queued h hq, hone]
      rfl
    · rw [List.count_eq_zero_of_not_mem hq]
      unfold Store.phase
      cases hst : p.store.status j with
      | none => rfl
      | some st =>
        cases st with
        | scheduled =>
          dsimp only
          rw [if_neg (show j ∉ p.store.queue from hq)]
          rfl
        | deferred => exact absurd hst hd
        | _ => rfl

/-- **No job is lost and none runs for nothing**: every time that a job was accepted it was called, withdrawn or
dropped since, just once, or it waits in the queue or for its time. -/
theorem job_balance (hp : Created pInfo p₀) (hrun : Exec taskPool p₀ tr p) (j : JobId) :
    (p.history j).countP PoolEvent.accepts = (p.history j).countP PoolEvent.settles +
      (p.dispatchQueue.count j + p.timerEventsList.countP (p.matchJobByPointer j)) := by
  rw [← pending_count (run_ok hp hrun) j]
  exact (lives_run hp hrun j).balance

/-- A job that was withdrawn, and is deferred now. -/
theorem job_balance_onePool :
    let p := onePool.after [.createJob (some 7) 0 (some 1), .schedule (some 1) 0 false 0, .tryCancel (some 1) 0,
      .scheduleDeferred (some 1) 50 false (some 9) ⟨0, 0, 0⟩]
    (p.history 1).countP PoolEvent.accepts = 1 + (0 + 1) := by
  have hrun : Exec taskPool onePool _ (onePool.after [.createJob (some 7) 0 (some 1), .schedule (some 1) 0 false 0,
    .tryCancel (some 1) 0, .scheduleDeferred (some 1) 50 false (some 9) ⟨0, 0, 0⟩]) := exec?_getD rfl
  exact job_balance onePool_created hrun 1

/-- **A job is called once** each time it is made: what follows a call in its history is that it is made again,
recycled or destroyed. -/
theorem job_renewed (hp : Created pInfo p₀) (hrun : Exec taskPool p₀ tr p) (j : JobId) :
    (p.history j).IsChain fun e e' => e.calls = true → e'.renews = true :=
  (lives_run hp hrun j).renewed

/-- A job that was made again after its call. -/
theorem job_renewed_onePool : Renewed [.created 1, .accepted 1, .dispatched 1 true, .created 1] := by
  have hrun : Exec taskPool onePool _ (onePool.after [.createJob (some 7) 0 (some 1), .schedule (some 1) 0 false 0,
    .workerWake 0 true, .workerLock 0, .createJob (some 8) 0 (some 1)]) := exec?_getD rfl
  exact job_renewed onePool_created hrun 1

/-! ## Cancellation -/

variable {p' : Pool} {tr' : List (Entry Pool PoolCall (Option Ret))}

/-- The log only grows. -/
theorem log_run (hp : Created pInfo p₀) (hrun : Exec taskPool p₀ tr p) (hlater : Exec taskPool p tr' p') :
    p.log <+: p'.log := by
  refine (hlater.inv (I := fun q => q.store.Ok ∧ p.log <+: q.log) ?_ ⟨run_ok hp hrun, List.prefix_rfl⟩).2
  intro q c q' r hI hstep
  obtain ⟨hok, hlog⟩ := hI
  have hmoves := step_moves hok hstep
  refine ⟨hmoves.ok hok, ?_⟩
  clear hstep
  induction hmoves with
  | refl => exact hlog
  | tail hms hm ih =>
    obtain ⟨es, hes⟩ := life_move (Moves.ok hok hms) hm
    rw [hes.log]
    exact ih.trans (List.prefix_append _ _)

theorem Pool.Canceled.phase {job : Job} (hc : Canceled p q j job) : q.store.phase j = .canceled := by
  rw [Store.phase, status_some hc.job]

theorem tryCancel_canceled (h : p.store.Ok) {adv : Nat} {r : Ret}
    (hstep : taskPool.step p (.tryCancel (some j) adv) = some (q, some r)) (hr : r.error = .success) :
    q.store.phase j = .canceled := by
  rw [show taskPool.step p (.tryCancel (some j) adv) = poolStep p (.tryCancel (some j) adv) from rfl] at hstep
  unfold poolStep at hstep
  split at hstep
  · cases hstep
  obtain ⟨⟨q', r'⟩, hcancel, heq⟩ := Option.map_eq_some_iff.1 hstep
  obtain ⟨rfl, rfl⟩ : q' = q ∧ r' = r := by simpa using heq
  unfold iotTaskPoolTryCancel at hcancel
  dsimp only at hcancel
  split at hcancel
  · obtain ⟨-, rfl⟩ := Prod.mk.inj (Option.some.inj hcancel)
    cases hr
  obtain ⟨⟨q₁, error, st⟩, hinner, hret⟩ := Option.map_eq_some_iff.1 hcancel
  obtain ⟨rfl, rfl⟩ := Prod.mk.inj hret
  obtain ⟨job, hjob, -, ⟨rfl, -⟩ | ⟨-, -, -, hc⟩⟩ := tryCancel_cases h hinner
  · cases hr
  · exact hc.phase

theorem calls_settle (e : PoolEvent) (h : e.calls = true) : e.settles = true := by
  cases e with
  | dispatched => rfl
  | _ => cases h

/-- **A canceled job rests**: after a cancellation that succeeded, in any run that goes on, the job is called only as
often as it is accepted again. -/
theorem canceled_rests {adv : Nat} {r : Ret} (hp : Created pInfo p₀) (hrun : Exec taskPool p₀ tr p)
    (hcancel : taskPool.step p (.tryCancel (some j) adv) = some (q, some r)) (hr : r.error = .success)
    (hlater : Exec taskPool q tr' p') : ∃ es, p'.history j = q.history j ++ es ∧
      es.countP PoolEvent.calls ≤ es.countP PoolEvent.accepts := by
  have hq := hrun.snoc hcancel
  have hcanceled := tryCancel_canceled (run_ok hp hrun) hcancel hr
  have hbefore := (lives_run hp hq j).balance
  have hafter := (lives_run hp (hq.append hlater) j).balance
  obtain ⟨l, hl⟩ := log_run hp hq hlater
  have hsplit : p'.history j = q.history j ++ l.filter (·.pJob = j) := by
    rw [Pool.history, ← hl, List.filter_append, Pool.history]
  refine ⟨l.filter (·.pJob = j), hsplit, ?_⟩
  rw [hcanceled] at hbefore
  rw [hsplit, List.countP_append, List.countP_append] at hafter
  have hle := List.countP_mono_left (l := l.filter (·.pJob = j)) (fun e _ => calls_settle e)
  have hnone : (Phase.pending .canceled).toNat = 0 := rfl
  omega

/-- A queued job is canceled, and scheduled again later. -/
theorem canceled_rests_onePool :
    let queued := onePool.after [.createJob (some 7) 0 (some 1), .schedule (some 1) 0 false 0]
    let canceled := onePool.after [.createJob (some 7) 0 (some 1), .schedule (some 1) 0 false 0, .tryCancel (some 1) 0]
    let later : List PoolCall := [.schedule (some 1) 0 false 0, .workerWake 0 true, .workerLock 0]
    taskPool.step queued (.tryCancel (some 1) 0) = some (canceled, some ⟨.success, none, some .scheduled⟩) ∧
      ∃ es, ((taskPool.exec? canceled later).getD ([], canceled)).2.history 1 = canceled.history 1 ++ es ∧
        es.countP PoolEvent.calls ≤ es.countP PoolEvent.accepts := by
  intro queued canceled later
  have hcancel : taskPool.step queued (.tryCancel (some 1) 0) =
      some (canceled, some ⟨.success, none, some .scheduled⟩) := rfl
  have hrun : Exec taskPool onePool _ queued := exec?_getD rfl
  have hlater : Exec taskPool canceled _ ((taskPool.exec? canceled later).getD ([], canceled)).2 := exec?_getD rfl
  exact ⟨hcancel, canceled_rests onePool_created hrun hcancel rfl hlater⟩

/-- A deferred job has a timer event, which is found. -/
theorem cancelDeferred_some (h : p.store.Ok) (hst : p.store.status j = some .deferred) (adv : Nat) :
    ∃ q, (p.setStatus j .canceled).cancelDeferred j adv = some q := by
  obtain ⟨e, hmem, hev⟩ := (h.deferred j).1 hst
  unfold cancelDeferred
  split
  · rename_i hpair
    obtain ⟨hnone, -⟩ := Prod.mk.inj hpair
    have hno : ¬p.matchJobByPointer j e = true := List.find?_eq_none.1 hnone e hmem
    exact absurd (matchJob_iff.2 hev) hno
  · dsimp only
    split
    · split
      · exact ⟨_, rfl⟩
      · exact ⟨_, rfl⟩
    · exact ⟨_, rfl⟩

/-- Only the assertion that a scheduled job is linked can fail. -/
theorem tryCancelInternal_some (h : p.store.Ok) {job : Job} (hj : p.jobs j = some job) (adv : Nat) :
    p.store.phase j = .refused ∧ p.tryCancelInternal j adv = none ∨
      ∃ q error st, p.tryCancelInternal j adv = some (q, error, st) := by
  unfold tryCancelInternal
  simp only [hj]
  cases hst : job.status with
  | completed => exact .inr ⟨_, _, _, rfl⟩
  | undefined => exact .inr ⟨_, _, _, rfl⟩
  | ready => exact .inr ⟨_, _, _, rfl⟩
  | canceled => exact .inr ⟨_, _, _, rfl⟩
  | scheduled =>
    dsimp only
    have hstatus : p.store.status j = some .scheduled := by rw [status_some hj, hst]
    split
    · exact .inr ⟨_, _, _, rfl⟩
    · rename_i hlinked
      refine .inl ⟨Store.phase_refused hstatus fun hq => hlinked ?_, rfl⟩
      exact decide_eq_true (.inl hq)
  | deferred =>
    obtain ⟨q, hq⟩ := cancelDeferred_some h (by rw [status_some hj, hst]) adv
    dsimp only
    rw [hq]
    exact .inr ⟨_, _, _, rfl⟩

/-- **What a cancellation answers**: in any pool that a run reaches, `IotTaskPool_TryCancel` of a job returns, unless
the job was stranded by a refused thread. It reports the status that it found, and either it fails, for a job that
was called or is wiped, and changes nothing, or it succeeds, and the job is canceled. -/
theorem cancel_answers (hp : Created pInfo p₀) (hrun : Exec taskPool p₀ tr p) (hd : p.destroyed = false)
    (hs : p.isShutdownStarted = false) {job : Job} (hj : p.jobs j = some job) (adv : Nat) :
    p.store.phase j = .refused ∧ taskPool.step p (.tryCancel (some j) adv) = none ∨
      ∃ q r, taskPool.step p (.tryCancel (some j) adv) = some (q, some r) ∧ r.pStatus = some job.status ∧
        (r.error = .cancelFailed ∧ q = p ∧ (job.status = .completed ∨ job.status = .undefined) ∨
          r.error = .success ∧ q.store.phase j = .canceled ∧ job.status ≠ .completed ∧ job.status ≠ .undefined) := by
  have hok := run_ok hp hrun
  have hstep : taskPool.step p (.tryCancel (some j) adv) = returned (p.iotTaskPoolTryCancel (some j) adv) := by
    show poolStep p (.tryCancel (some j) adv) = _
    simp [poolStep, hd]
  obtain ⟨hph, hnone⟩ | ⟨q, error, st, hq⟩ := tryCancelInternal_some hok hj adv
  · refine .inl ⟨hph, ?_⟩
    simp [hstep, iotTaskPoolTryCancel, hs, hnone, returned]
  · refine .inr ⟨q, ⟨error, none, some st⟩, ?_, ?_⟩
    · simp [hstep, iotTaskPoolTryCancel, hs, hq, returned]
    obtain ⟨job', hj', rfl, hcases⟩ := tryCancel_cases hok hq
    obtain rfl : job' = job := Option.some.inj (hj'.symm.trans hj)
    refine ⟨rfl, ?_⟩
    obtain ⟨herr, rfl, hst⟩ | ⟨herr, hcompleted, hundefined, hc⟩ := hcases
    · exact .inl ⟨herr, rfl, hst⟩
    · exact .inr ⟨herr, hc.phase, hcompleted, hundefined⟩

/-- A job that a worker took cannot be canceled any more. -/
theorem cancel_answers_onePool :
    let p := onePool.after [.createJob (some 7) 0 (some 1), .createJob (some 7) 0 (some 2),
      .schedule (some 2) 0 false 0, .workerWake 0 true, .workerLock 0]
    ∃ q r, taskPool.step p (.tryCancel (some 2) 0) = some (q, some r) ∧ r.pStatus = some .completed ∧ q = p := by
  intro p
  have hrun : Exec taskPool onePool _ p := exec?_getD rfl
  have hjob : p.jobs 2 = some ⟨some 7, 0, true, .completed⟩ := rfl
  obtain ⟨hph, -⟩ | ⟨q, r, hstep, hr, hcase⟩ := cancel_answers onePool_created hrun rfl rfl hjob 0
  · cases hph
  · obtain ⟨-, hq, -⟩ | ⟨-, -, hno, -⟩ := hcase
    · exact ⟨q, r, hstep, hr, hq⟩
    · exact absurd rfl hno

end TaskPool
