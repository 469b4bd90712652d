import TrustZone.TaskPool.Proof.Steps

/-!
# The timer

* `timed_move`: a move keeps the timer events in the order of their times, and the timer armed while there is
  one.
* `run_timed`: so no deferred job is forgotten, after any run.
* `timerThread_takes`: the timer thread takes the events that are due, and queues their jobs in that order.
-/

namespace TaskPool

open Lib Machine Pool

variable {p q : Pool} {j : JobId} {e : EventId}

/-! ## Insertion in order -/

variable {α : Type} {f : α → Nat} {x : α} {l : List α}

theorem sorted_insert [DecidableRel fun a b => f a < f b] (hl : l.Pairwise fun a b => f a ≤ f b) :
    (l.orderedInsert (fun a b => f a < f b) x).Pairwise fun a b => f a ≤ f b := by
  induction l with
  | nil => exact List.pairwise_singleton _ _
  | cons b l ih =>
    obtain ⟨hb, hl'⟩ := List.pairwise_cons.1 hl
    rw [List.orderedInsert_cons]
    split
    · rename_i hlt
      refine List.pairwise_cons.2 ⟨?_, hl⟩
      intro c hc
      obtain rfl | hc := List.mem_cons.1 hc
      · exact hlt.le
      · exact hlt.le.trans (hb c hc)
    · rename_i hge
      refine List.pairwise_cons.2 ⟨?_, ih hl'⟩
      intro c hc
      obtain rfl | hc := (List.mem_orderedInsert _).1 hc
      · exact Nat.le_of_not_lt hge
      · exact hb c hc

theorem head_insert {r : α → α → Prop} [DecidableRel r] :
    (l.orderedInsert r x).head? = some x ∨ l ≠ [] ∧ (l.orderedInsert r x).head? = l.head? := by
  cases l with
  | nil => exact .inl rfl
  | cons b l =>
    rw [List.orderedInsert_cons]
    split
    · exact .inl rfl
    · exact .inr ⟨List.cons_ne_nil b l, rfl⟩

/-! ## The invariant -/

structure Timed (p : Pool) : Prop where
  sorted : p.timerEventsList.Pairwise fun a b => p.expirationTime a ≤ p.expirationTime b
  armed : p.destroyed = false → p.timerEventsList ≠ [] → p.timerThread = true ∨ p.Armed

/-- What the timer has to do with. -/
structure Clock where
  timerEventsList : List EventId
  timerEvents : EventId → Option TimerEvent
  timer : Option Nat
  timerThread : Bool
  now : Nat
  destroyed : Bool

def Pool.clock (p : Pool) : Clock :=
  ⟨p.timerEventsList, p.timerEvents, p.timer, p.timerThread, p.now, p.destroyed⟩

/-- Events go, and time goes on. -/
theorem Timed.shrink (h : Timed p) (hlist : q.timerEventsList.Sublist p.timerEventsList)
    (hexp : ∀ e ∈ q.timerEventsList, q.expirationTime e = p.expirationTime e) (htimer : q.timer = p.timer)
    (hthread : q.timerThread = p.timerThread) (hnow : p.now ≤ q.now) (hd : q.destroyed = p.destroyed) :
    Timed q := by
  refine ⟨(h.sorted.sublist hlist).imp_of_mem ?_, ?_⟩
  · intro a b ha hb hab
    rw [hexp a ha, hexp b hb]
    exact hab
  · intro hq hne
    rw [hthread]
    refine (h.armed (hd.symm.trans hq) ?_).imp_right ?_
    · intro hnil
      rw [hnil] at hlist
      exact hne (List.sublist_nil.1 hlist)
    · rintro ⟨d, hset, hle⟩
      refine ⟨d, htimer.trans hset, ?_⟩
      intro e he
      have hmem : e ∈ q.timerEventsList := List.mem_of_head? he
      -- the first event of before is not later
      obtain ⟨e₀, rest, hl⟩ := List.exists_cons_of_ne_nil (List.ne_nil_of_mem (hlist.subset hmem))
      have hfirst : p.expirationTime e₀ ≤ p.expirationTime e := by
        have hsorted := h.sorted
        have hin := hlist.subset hmem
        rw [hl] at hsorted hin
        obtain rfl | hin := List.mem_cons.1 hin
        · exact Nat.le_refl _
        · exact (List.pairwise_cons.1 hsorted).1 e hin
      have hbound := hle e₀ (by rw [hl]; rfl)
      rw [hexp e hmem]
      omega

theorem Timed.same (h : Timed p) (hs : q.clock = p.clock) : Timed q := by
  obtain ⟨hlist, hevents, htimer, hthread, hnow, hd⟩ := Clock.mk.inj hs
  refine h.shrink (hlist ▸ .refl _) (fun e _ => ?_) htimer hthread hnow.ge hd
  rw [Pool.expirationTime, hevents, Pool.expirationTime]

theorem postDispatch_clock : p.postDispatch.clock = p.clock := by
  unfold postDispatch
  split <;> rfl

theorem postDispatches_clock (n : Nat) : (postDispatches n p).clock = p.clock := by
  obtain ⟨s, l, -, heq⟩ := postDispatches_rest (p := p) n
  rw [heq]
  rfl

theorem queued_clock (front : Bool) : (p.queued j front).clock = p.clock := by
  cases front <;> exact postDispatch_clock

theorem thinned_clock (b : Bool) : (p.thinned b).clock = p.clock := by
  unfold thinned
  split <;> rfl

theorem destroyJob_clock (hq : p.destroyJob j = some q) : q.clock = p.clock := by
  obtain ⟨x, -, rfl⟩ := destroyJob_left hq
  rfl

/-- An event that is taken out is not asked for any more. -/
theorem expirationTime_update {e' : EventId} {x : Option TimerEvent} (hne : e' ≠ e)
    (hq : q.timerEvents = Function.update p.timerEvents e x) : q.expirationTime e' = p.expirationTime e' := by
  rw [Pool.expirationTime, hq, Function.update_of_ne hne, Pool.expirationTime]

theorem Timed.remove (h : Timed p) (hok : p.store.Ok) : Timed (p.removeTimerEvent e) := by
  refine h.shrink List.erase_sublist (fun e' he' => ?_) rfl rfl (Nat.le_refl _) rfl
  refine expirationTime_update (x := none) ?_ rfl
  rintro rfl
  exact hok.timedNodup.not_mem_erase he'

theorem compare_lt {a b : EventId} : p.timerEventCompare a b < 0 ↔ p.expirationTime a < p.expirationTime b := by
  unfold timerEventCompare
  split
  · simp [*]
  · split
    · simp [*]
    · simp [*]

theorem Timed.defer (h : Timed p) (hok : p.store.Ok) (he : p.timerEvents e = none) (timeMs : BitVec 32)
    (adv advArm : Nat) : Timed (p.insertDeferred j e timeMs adv advArm) := by
  have hnew : e ∉ p.timerEventsList := fun hm => (hok.events e).2 hm he
  generalize hp₁ : p.initTimerEvent j e timeMs adv = p₁
  have hlist₁ : p₁.timerEventsList = p.timerEventsList := by rw [← hp₁]; rfl
  have hexp₁ : ∀ e' ∈ p.timerEventsList, p₁.expirationTime e' = p.expirationTime e' := by
    intro e' he'
    rw [← hp₁]
    refine expirationTime_update (x := some ⟨p.now + adv + timeMs.toNat, j⟩) ?_ rfl
    rintro rfl
    exact hnew he'
  have h₁ : Timed p₁ := by
    refine h.shrink (hlist₁ ▸ .refl _) (fun e' he' => hexp₁ e' (hlist₁ ▸ he')) ?_ ?_ ?_ ?_
    · rw [← hp₁]; rfl
    · rw [← hp₁]; rfl
    · rw [← hp₁]; exact Nat.le_add_right _ _
    · rw [← hp₁]; rfl
  have hins : (p₁.insertTimerEvent e).timerEventsList =
      p₁.timerEventsList.orderedInsert (fun a b => p₁.expirationTime a < p₁.expirationTime b) e := by
    show p₁.timerEventsList.orderedInsert (fun a b => p₁.timerEventCompare a b < 0) e = _
    simp only [compare_lt]
  have hsorted := sorted_insert (x := e) h₁.sorted
  have hhead := head_insert (x := e) (l := p₁.timerEventsList)
    (r := fun a b => p₁.expirationTime a < p₁.expirationTime b)
  rw [← hins] at hsorted hhead
  unfold insertDeferred
  rw [hp₁]
  dsimp only [peekHeadEvent]
  split
  · rename_i hfirst
    exact ⟨hsorted, fun _ _ => .inr (armed_reschedule hfirst advArm)⟩
  · rename_i hfirst
    refine ⟨hsorted, fun hd _ => ?_⟩
    obtain hfirst' | ⟨hne, hsame⟩ := hhead
    · exact absurd hfirst' hfirst
    · refine (h₁.armed hd hne).imp_right ?_
      rintro ⟨d, hset, hle⟩
      exact ⟨d, hset, fun e' he' => hle e' (hsame.symm.trans he')⟩

/-- **A move keeps the timer.** -/
theorem timed_move (hok : p.store.Ok) (h : Timed p) (hm : Move p q) : Timed q := by
  cases hm with
  | withdrawDeferred hw => exact (h.remove hok).same rfl
  | arm hl => exact ⟨h.sorted, fun _ _ => .inr (armed_reschedule hl _)⟩
  | clock => exact h.shrink (.refl _) (fun _ _ => rfl) rfl rfl (Nat.le_add_right _ _) rfl
  | schedule => exact h.same (queued_clock _)
  | @fire j e => exact (h.remove hok).same (queued_clock false)
  | defer _ _ he _ _ => exact (h.defer hok he _ _ _).same rfl
  | destroyJob _ _ _ hq => exact h.same (destroyJob_clock hq)
  | setMaxThreads => exact h.same (postDispatches_clock _)
  | rest => exact h.same (thinned_clock false)
  | idle => exact h.same (thinned_clock true)
  | take => exact h.same (thinned_clock true)
  | timerFires => exact ⟨h.sorted, fun _ _ => .inl rfl⟩
  | timerDone _ _ hend => exact ⟨h.sorted, fun _ hne => .inr (hend.resolve_left hne)⟩
  | timerDestroys => exact ⟨h.sorted, fun hd => Bool.noConfusion hd⟩
  | @dropQueued j _ _ _ hd =>
    have hdrop : Timed (p.dequeueHead.2.note (.dropped j .scheduled)) := h.same rfl
    exact hdrop.same (destroyJob_clock hd)
  | @dropEvent e rest _ hl hd =>
    obtain ⟨ev, x, -, -, rfl⟩ := dropEvent_cases hd
    refine h.shrink (List.tail_sublist _) (fun e' he' => ?_) rfl rfl (Nat.le_refl _) rfl
    refine expirationTime_update (x := none) ?_ rfl
    rintro rfl
    have hnodup : (e' :: rest).Nodup := hl ▸ hok.timedNodup
    refine (List.nodup_cons.1 hnodup).1 ?_
    have htail : e' ∈ p.timerEventsList.tail := he'
    rwa [hl] at htail
  | timerEmpty =>
    exact h.shrink (List.tail_sublist _) (fun _ _ => rfl) rfl rfl (Nat.le_refl _) rfl
  | dropCached _ hd =>
    have hdrop : Timed p.fetchHead.2 := h.same rfl
    exact hdrop.same (destroyJob_clock hd)
  | signal => exact h.same (postDispatches_clock _)
  | destroyEnd => exact ⟨h.sorted, fun hd => Bool.noConfusion hd⟩
  | _ => exact h.same rfl

/-! ## Runs -/

variable {pInfo : TaskPoolInfo} {p₀ : Pool} {tr : List (Entry Pool PoolCall (Option Ret))}

theorem timed_run (hp : Created pInfo p₀) (hrun : Exec taskPool p₀ tr p) : Timed p := by
  refine (run_inv hp ?_ (fun hok hI hm => timed_move hok hI hm) hrun).2
  intro hfresh
  rw [hfresh.pool]
  exact ⟨.nil, fun _ hne => absurd rfl hne⟩

/-- **No deferred job is forgotten**: after every run the timer events are in the order of their times, and while
there is one the timer thread is about to look at them, or the timer is armed, at the latest for the time of the
first one, or 10 ms from the last time that the clock was read. -/
theorem run_timed (hp : Created pInfo p₀) (hrun : Exec taskPool p₀ tr p) :
    (p.timerEventsList.Pairwise fun a b => p.expirationTime a ≤ p.expirationTime b) ∧
      (p.destroyed = false → p.timerEventsList ≠ [] → p.timerThread = true ∨ p.Armed) := by
  have htimed := timed_run hp hrun
  exact ⟨htimed.sorted, htimed.armed⟩

/-- Two jobs are deferred, the later one first. -/
theorem run_timed_onePool :
    let p := onePool.after [.createJob (some 7) 0 (some 1), .createJob (some 7) 0 (some 2),
      .scheduleDeferred (some 1) 50 false (some 9) ⟨0, 0, 0⟩,
      .scheduleDeferred (some 2) 20 false (some 8) ⟨0, 5, 0⟩]
    p.timerEventsList = [8, 9] ∧ p.Armed := by
  intro p
  have hrun : Exec taskPool onePool _ p := exec?_getD rfl
  exact ⟨rfl, ((run_timed onePool_created hrun).2 rfl (List.cons_ne_nil 8 [9])).resolve_left Bool.false_ne_true⟩

/-! ## The timer thread -/

variable {n : Nat}

/-- The jobs of timer events. -/
def Pool.jobsOf (p : Pool) (es : List EventId) : List JobId := es.filterMap fun e => (p.timerEvents e).map (·.pJob)

/-- The job of a timer event can be scheduled. -/
theorem fire_some (h : p.store.Ok) (hw : p.store.Waits e j) (thread : Bool) :
    ∃ p', (p' = p.removeTimerEvent e ∨ p' = (p.removeTimerEvent e).grow) ∧
      (p.removeTimerEvent e).scheduleInternal j false thread = some (p'.queued j false, .success) := by
  have hst : p.store.status j = some .deferred := (h.deferred j).2 ⟨e, hw⟩
  have hapart : j ∉ p.dispatchQueue ∧ j ∉ p.freeList := h.waits_apart hw
  obtain ⟨job, hjob, -⟩ := Option.map_eq_some_iff.1 hst
  have hj : (p.removeTimerEvent e).jobs j = some job := hjob
  obtain ⟨⟨q, error⟩, hq⟩ : ∃ x, (p.removeTimerEvent e).scheduleInternal j false thread = some x := by
    unfold scheduleInternal
    rw [hj]
    dsimp only
    split
    · exact ⟨_, rfl⟩
    · split
      · rename_i hlinked
        exact absurd (of_decide_eq_true hlinked) (not_or.2 hapart)
      · exact ⟨_, rfl⟩
  obtain ⟨rfl, p', front, hp, hfront, rfl⟩ | ⟨-, hhigh, -⟩ := schedule_cases hq
  · obtain rfl : front = false := Bool.eq_false_of_not_eq_true fun hf => Bool.false_ne_true (hfront hf)
    exact ⟨p', hp, hq⟩
  · cases hhigh

/-- The first event is due: it is taken out, and its job is queued. -/
theorem fire_first (h : p.store.Ok) (hs : p.isShutdownStarted = false) (ht : p.timerThread = true)
    {rest : List EventId} (hl : p.timerEventsList = e :: rest) {ev : TimerEvent} (hev : p.timerEvents e = some ev)
    (hdue : p.expirationTime e ≤ p.now) (thread : Bool) :
    ∃ q, (p.removeTimerEvent e).scheduleInternal ev.pJob false thread = some (q, .success) ∧ Moves p q ∧
      q.isShutdownStarted = false ∧ q.timerThread = true ∧ q.timerEventsList = rest ∧
      q.dispatchQueue = p.dispatchQueue ++ [ev.pJob] ∧ q.timerEvents = Function.update p.timerEvents e none ∧
      q.now = p.now := by
  have hhead : p.timerEventsList.head? = some e := by
    rw [hl]
    rfl
  have hw : p.store.Waits e ev.pJob := ⟨List.mem_of_head? hhead, ev, hev, rfl⟩
  have herase : p.timerEventsList.erase e = rest := by rw [hl, List.erase_cons_head]
  obtain ⟨p', hp', hsched⟩ := fire_some h hw thread
  have hmoves : Moves p (p'.queued ev.pJob false) := by
    obtain rfl | rfl := hp'
    · exact .single (.fire hw hhead hdue hs ht)
    · exact (Relation.ReflTransGen.single (.grow hs)).tail (.fire (p := p.grow) hw hhead hdue hs ht)
  have hfacts : p'.clock = (p.removeTimerEvent e).clock ∧ p'.dispatchQueue = p.dispatchQueue ∧
      p'.maxThreads = p.maxThreads := by
    obtain rfl | rfl := hp' <;> exact ⟨rfl, rfl, rfl⟩
  obtain ⟨hclock, hqueue, hmax⟩ := hfacts
  obtain ⟨hlist, hevents, -, hthread, hnow, -⟩ := Clock.mk.inj ((queued_clock (j := ev.pJob) false).trans hclock)
  refine ⟨p'.queued ev.pJob false, hsched, hmoves,
    maxThreads_of_shutdown hs ((queued_maxThreads false).trans hmax), hthread.trans ht, hlist.trans herase, ?_,
    hevents, hnow⟩
  rw [← hqueue]
  exact congrArg Store.queue (queued_store (p := p') false)

/-- The loop takes events from the front, as long as they are due. -/
theorem timerLoop_takes (rounds : Nat → Round) (h : p.store.Ok) (hs : p.isShutdownStarted = false)
    (ht : p.timerThread = true) (hn : p.timerEventsList.length ≤ n) : ∃ q k, timerLoop rounds n p = some q ∧
      q.timerEventsList = p.timerEventsList.drop k ∧
      q.dispatchQueue = p.dispatchQueue ++ p.jobsOf (p.timerEventsList.take k) ∧
      (∀ e ∈ p.timerEventsList.take k, p.expirationTime e ≤ q.now) ∧ p.now ≤ q.now ∧
      ∀ e, (p.timerEventsList.drop k).head? = some e → p.now < p.expirationTime e := by
  induction n generalizing p with
  | zero =>
    have hnil := List.length_eq_zero_iff.1 (Nat.le_zero.1 hn)
    refine ⟨p.peekHeadEvent.2, 0, rfl, rfl, (List.append_nil _).symm, fun e he => ?_, Nat.le_refl _, fun e he => ?_⟩
    · cases he
    · rw [hnil] at he
      cases he
  | succ n ih =>
    have hpeek : p.peekHeadEvent = (p.timerEventsList.head?, p.peekHeadEvent.2) := rfl
    rw [timerLoop, hpeek]
    cases hl : p.timerEventsList with
    | nil =>
      refine ⟨p.peekHeadEvent.2, 0, rfl, hl, (List.append_nil _).symm, fun e he => ?_, Nat.le_refl _, fun e he => ?_⟩
      · cases he
      · cases he
    | cons e rest =>
      have hclock : Moves p (p.peekHeadEvent.2.readClock (rounds n).now) :=
        (Relation.ReflTransGen.single .peek).tail .clock
      obtain ⟨p₁, hp₁⟩ : ∃ p₁, p.peekHeadEvent.2.readClock (rounds n).now = p₁ := ⟨_, rfl⟩
      have hok₁ : p₁.store.Ok := hp₁ ▸ hclock.ok h
      have hs₁ : p₁.isShutdownStarted = false := hp₁ ▸ hs
      have ht₁ : p₁.timerThread = true := hp₁ ▸ ht
      have hl₁ : p₁.timerEventsList = e :: rest := hp₁ ▸ hl
      have hevents₁ : p₁.timerEvents = p.timerEvents := hp₁ ▸ rfl
      have hqueue₁ : p₁.dispatchQueue = p.dispatchQueue := hp₁ ▸ rfl
      have hnow : p.now ≤ p₁.now := hp₁ ▸ Nat.le_add_right p.now _
      have hexp₁ : ∀ e, p₁.expirationTime e = p.expirationTime e := by
        intro e
        rw [Pool.expirationTime, hevents₁, Pool.expirationTime]
      dsimp only [List.head?_cons]
      rw [hp₁, ← hqueue₁]
      split
      · rename_i hdue
        have hmem : e ∈ p₁.timerEventsList := by
          rw [hl₁]
          exact List.mem_cons_self
        obtain ⟨ev, hev⟩ := Option.ne_none_iff_exists'.1 ((hok₁.events e).2 hmem)
        have hev₁ : p₁.timerEvents e = some ev := hev
        obtain ⟨p', hsched, hmoves, hs', ht', hlist, hqueue, hevents, hnow'⟩ :=
          fire_first hok₁ hs₁ ht₁ hl₁ hev₁ hdue (rounds n).thread
        simp only [hev₁, hsched]
        rw [hl, List.length_cons] at hn
        obtain ⟨q, k, hq, hdrop, htake, htaken, hle, hrest⟩ :=
          ih (Moves.ok hok₁ hmoves) hs' ht' (hlist ▸ Nat.le_of_succ_le_succ hn)
        rw [hlist] at hdrop htake htaken hrest
        rw [hnow'] at hle hrest
        -- the other events are as they were
        have hnodup : (e :: rest).Nodup := hl ▸ h.timedNodup
        have hother : ∀ e' ∈ rest, p'.timerEvents e' = p.timerEvents e' := by
          intro e' he'
          rw [hevents, Function.update_of_ne, hevents₁]
          rintro rfl
          exact (List.nodup_cons.1 hnodup).1 he'
        have hexp : ∀ e' ∈ rest, p'.expirationTime e' = p.expirationTime e' := by
          intro e' he'
          rw [Pool.expirationTime, hother e' he', Pool.expirationTime]
        refine ⟨q, k + 1, hq, hdrop, ?_, ?_, hnow.trans hle, ?_⟩
        · have hjobs : p'.jobsOf (rest.take k) = p.jobsOf (rest.take k) := by
            refine List.filterMap_congr fun e' he' => ?_
            rw [hother e' (List.mem_of_mem_take he')]
          have hfirst : p.jobsOf ((e :: rest).take (k + 1)) = ev.pJob :: p.jobsOf (rest.take k) := by
            rw [List.take_succ_cons, Pool.jobsOf, List.filterMap_cons, ← hevents₁, hev₁, hevents₁]
            rfl
          rw [htake, hqueue, hjobs, hfirst, List.append_assoc]
          rfl
        · intro e' he'
          obtain rfl | he' := List.mem_cons.1 he'
          · rw [← hexp₁]
            exact Nat.le_trans hdue hle
          · rw [← hexp e' (List.mem_of_mem_take he')]
            exact htaken e' he'
        · intro e' he'
          rw [← hexp e' (List.mem_of_mem_drop (List.mem_of_head? he'))]
          exact Nat.lt_of_le_of_lt hnow (hrest e' he')
      · rename_i hlate
        refine ⟨p₁.rescheduleDeferredJobsTimer e (rounds n).arm, 0, rfl, hl₁, (List.append_nil _).symm,
          fun e' he' => ?_, ?_, fun e' he' => ?_⟩
        · cases he'
        · exact hnow.trans (Nat.le_add_right _ _)
        · obtain rfl : e = e' := Option.some.inj he'
          rw [hexp₁] at hlate
          exact Nat.lt_of_le_of_lt hnow (Nat.lt_of_not_le hlate)

/-- **The timer thread**: in any pool that a run reaches it returns, and has taken timer events from the front: all
that were due when it began, and none before its time. Their jobs are at the end of the queue, in that order. -/
theorem timerThread_takes (hp : Created pInfo p₀) (hrun : Exec taskPool p₀ tr p) (hd : p.destroyed = false)
    (hs : p.isShutdownStarted = false) (ht : p.timerThread = true) (rounds : Nat → Round) :
    ∃ q k, taskPool.step p (.timerThread rounds) = some (q, none) ∧
      q.timerEventsList = p.timerEventsList.drop k ∧
      q.dispatchQueue = p.dispatchQueue ++ p.jobsOf (p.timerEventsList.take k) ∧
      (∀ e ∈ p.timerEventsList.take k, p.expirationTime e ≤ q.now) ∧
      ∀ e ∈ p.timerEventsList.drop k, p.now < p.expirationTime e := by
  have hok := run_ok hp hrun
  have htimed := timed_run hp hrun
  obtain ⟨q, k, hq, hdrop, hqueue, htaken, -, hrest⟩ := timerLoop_takes rounds hok hs ht (Nat.le_refl _)
  refine ⟨{ q with timerThread := false }, k, ?_, hdrop, hqueue, htaken, ?_⟩
  · show poolStep p (.timerThread rounds) = _
    simp [poolStep, hd, timerThreadLock, ht, hs, hq, silent]
  · intro e he
    have hsorted := htimed.sorted.sublist (List.drop_sublist k p.timerEventsList)
    cases hl : p.timerEventsList.drop k with
    | nil =>
      rw [hl] at he
      cases he
    | cons b l =>
      have hfirst := hrest b (by rw [hl]; rfl)
      rw [hl] at he hsorted
      obtain rfl | he := List.mem_cons.1 he
      · exact hfirst
      · exact Nat.lt_of_lt_of_le hfirst ((List.pairwise_cons.1 hsorted).1 e he)

/-- Two jobs are deferred, and one is due. -/
theorem timerThread_takes_onePool :
    let p := onePool.after [.createJob (some 7) 0 (some 1), .createJob (some 7) 0 (some 2),
      .scheduleDeferred (some 1) 50 false (some 9) ⟨0, 0, 0⟩,
      .scheduleDeferred (some 2) 20 false (some 8) ⟨0, 5, 25⟩, .timerFires]
    p.timerEventsList = [8, 9] ∧ ∃ q k, taskPool.step p (.timerThread fun _ => ⟨0, 0, false⟩) = some (q, none) ∧
      q.timerEventsList = [8, 9].drop k ∧ ∀ e ∈ [8, 9].drop k, p.now < p.expirationTime e := by
  intro p
  have hrun : Exec taskPool onePool _ p := exec?_getD rfl
  obtain ⟨q, k, hstep, hdrop, -, -, hrest⟩ := timerThread_takes onePool_created hrun rfl rfl rfl
    (fun _ => ⟨0, 0, false⟩)
  exact ⟨rfl, q, k, hstep, hdrop, hrest⟩

end TaskPool
