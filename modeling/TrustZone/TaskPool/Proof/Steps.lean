import TrustZone.TaskPool.Proof.Moves

/-!
# The steps of the pool

* `tryCancel_cases`, `extraction_cases`, `schedule_cases`: what the functions under the lock do.
* `timerLoop_moves`: the loop of the timer thread, which ends with the timer armed or no event left.
* `step_moves`: every step is made of moves.
* `run_inv`, `run_ok`: what every move keeps holds after every run, and the store is in order.
* `run_store`: what that says of the queue, the cache and the timer events.
-/

namespace TaskPool

open Lib Machine

namespace Pool

variable {p q : Pool} {i n : Nat} {j : JobId} {e : EventId}

/-! ## Cancellation -/

theorem matchJob_iff : p.matchJobByPointer j e = true ↔ ∃ ev, p.timerEvents e = some ev ∧ ev.pJob = j := by
  rw [matchJobByPointer]
  cases p.timerEvents e with
  | none => simp
  | some ev => simp [eq_comm]

theorem setStatus_find (st : JobStatus) : ((p.setStatus j st).findEvent j).2 = (p.findEvent j).2.setStatus j st := rfl

theorem setStatus_peek (st : JobStatus) : (p.setStatus j st).peekHeadEvent.2 = p.peekHeadEvent.2.setStatus j st := rfl

/-- What a successful cancellation does. -/
structure Canceled (p q : Pool) (j : JobId) (job : Job) : Prop where
  moves : Moves p q
  job : q.jobs j = some { job with status := .canceled }
  maxThreads : q.maxThreads = p.maxThreads

theorem cancelDeferred_canceled {job : Job} (hj : p.jobs j = some job) {adv : Nat} {q : Pool}
    (hq : (p.setStatus j .canceled).cancelDeferred j adv = some q) :
    Canceled p (q.note (.withdrawn j .deferred)) j job := by
  have hfound : (p.setStatus j .canceled).findEvent j = ((p.setStatus j .canceled).timerEventsList.find?
      ((p.setStatus j .canceled).matchJobByPointer j), ((p.setStatus j .canceled).findEvent j).2) := rfl
  unfold cancelDeferred at hq
  rw [hfound] at hq
  have hjob : (p.setStatus j .canceled).jobs j = some { job with status := .canceled } := by
    rw [setStatus, hj]
    exact Function.update_self ..
  cases hfind : (p.setStatus j .canceled).timerEventsList.find?
      ((p.setStatus j .canceled).matchJobByPointer j) with
  | none => simp [hfind] at hq
  | some e =>
    have hmem : e ∈ p.timerEventsList := List.mem_of_find?_eq_some hfind
    have hmatch : p.matchJobByPointer j e = true := List.find?_some hfind
    have hw : p.store.Waits e j := ⟨hmem, matchJob_iff.1 hmatch⟩
    have hlooked : Moves p (p.findEvent j).2.peekHeadEvent.2 := (Relation.ReflTransGen.single .find).tail .peek
    have hmove := hlooked.tail (.withdrawDeferred hw)
    rw [hfind, setStatus_find] at hq
    dsimp only at hq
    rw [setStatus_peek] at hq
    have hrest : ((p.findEvent j).2.peekHeadEvent.2.setStatus j .canceled).jobs j =
      some { job with status := .canceled } := hjob
    have hmax : ((p.findEvent j).2.peekHeadEvent.2.setStatus j .canceled).maxThreads = p.maxThreads := rfl
    generalize (p.findEvent j).2.peekHeadEvent.2.setStatus j .canceled = p₁ at hq hmove hrest hmax
    split at hq
    · split at hq
      · -- the next event is first now
        rename_i next q' hpair
        obtain ⟨hnext, rfl⟩ := Prod.mk.inj hpair
        obtain rfl := Option.some.inj hq
        exact ⟨(hmove.tail .peek).tail (.arm hnext), hrest, hmax⟩
      · rename_i q' hpair
        obtain ⟨-, rfl⟩ := Prod.mk.inj hpair
        obtain rfl := Option.some.inj hq
        exact ⟨hmove.tail .peek, hrest, hmax⟩
    · obtain rfl := Option.some.inj hq
      exact ⟨hmove, hrest, hmax⟩

/-- `_tryCancelInternal`, which reports the status that it found. -/
theorem tryCancel_cases (h : p.store.Ok) {adv : Nat} {error : TaskPoolError} {st : JobStatus}
    (hq : p.tryCancelInternal j adv = some (q, error, st)) : ∃ job, p.jobs j = some job ∧ st = job.status ∧
      ((error = .cancelFailed ∧ q = p ∧ (st = .completed ∨ st = .undefined)) ∨
        (error = .success ∧ st ≠ .completed ∧ st ≠ .undefined ∧ Canceled p q j job)) := by
  unfold tryCancelInternal at hq
  cases hj : p.jobs j with
  | none => simp [hj] at hq
  | some job =>
    have hset : (p.setStatus j .canceled).jobs j = some { job with status := .canceled } := by
      rw [setStatus, hj]
      exact Function.update_self ..
    simp only [hj] at hq
    refine ⟨job, rfl, ?_⟩
    cases hst : job.status with
    | completed =>
      simp only [hst, Option.some.injEq, Prod.mk.injEq] at hq
      obtain ⟨rfl, rfl, rfl⟩ := hq
      exact ⟨rfl, .inl ⟨rfl, rfl, .inl rfl⟩⟩
    | undefined =>
      simp only [hst, Option.some.injEq, Prod.mk.injEq] at hq
      obtain ⟨rfl, rfl, rfl⟩ := hq
      exact ⟨rfl, .inl ⟨rfl, rfl, .inr rfl⟩⟩
    | ready =>
      simp only [hst, Option.some.injEq, Prod.mk.injEq] at hq
      obtain ⟨rfl, rfl, rfl⟩ := hq
      exact ⟨rfl, .inr ⟨rfl, by decide, by decide, .single (.cancelIdle hj (.inl hst)), hset, rfl⟩⟩
    | canceled =>
      simp only [hst, Option.some.injEq, Prod.mk.injEq] at hq
      obtain ⟨rfl, rfl, rfl⟩ := hq
      exact ⟨rfl, .inr ⟨rfl, by decide, by decide, .single (.cancelIdle hj (.inr hst)), hset, rfl⟩⟩
    | scheduled =>
      simp only [hst] at hq
      split at hq
      · rename_i hlinked
        change p.isLinked j = true at hlinked
        simp only [Option.some.injEq, Prod.mk.injEq] at hq
        obtain ⟨rfl, rfl, rfl⟩ := hq
        have hmem : j ∈ p.dispatchQueue := by
          obtain hmem | hmem : j ∈ p.dispatchQueue ∨ j ∈ p.freeList := by simpa [isLinked] using hlinked
          · exact hmem
          · have hun := h.status_cache hmem
            rw [status_some hj, hst] at hun
            cases hun
        have hlooked : Moves p (p.linkIsLinked j).2 := .single .linked
        exact ⟨rfl, .inr ⟨rfl, by decide, by decide, hlooked.tail (.withdrawQueued hmem), hset, rfl⟩⟩
      · cases hq
    | deferred =>
      simp only [hst, Option.map_eq_some_iff, Prod.mk.injEq] at hq
      obtain ⟨q', hq', rfl, rfl, rfl⟩ := hq
      exact ⟨rfl, .inr ⟨rfl, by decide, by decide, cancelDeferred_canceled hj hq'⟩⟩

theorem Canceled.idle (h : p.store.Ok) {job : Job} (hc : Canceled p q j job) : q.store.Idle j := by
  have hst := status_some hc.job
  refine (hc.moves.ok h).idle_of_status ?_ ?_ ?_
  · simp [hst]
  · simp [hst]
  · simp [hst]

/-- What a successful extraction leaves. -/
structure Extracted (p q : Pool) (j : JobId) (job : Job) (atCompletion : Bool) : Prop where
  moves : Moves p q
  idle : q.store.Idle j
  maxThreads : q.maxThreads = p.maxThreads
  job : ∃ job', q.jobs j = some job' ∧ job'.isStatic = job.isStatic ∧ job'.status ≠ .scheduled ∧
    (atCompletion = false → job'.status ≠ .completed)

/-- `_trySafeExtraction`. -/
theorem extraction_cases (h : p.store.Ok) {b : Bool} {adv : Nat} {error : TaskPoolError}
    (hq : p.trySafeExtraction j b adv = some (q, error)) : ∃ job, p.jobs j = some job ∧
      ((error = .illegalOperation ∧ q = p ∧ b = false ∧ job.status = .completed) ∨
        (error = .success ∧ Extracted p q j job b)) := by
  unfold trySafeExtraction at hq
  cases hj : p.jobs j with
  | none => simp [hj] at hq
  | some job =>
    simp only [hj] at hq
    refine ⟨job, rfl, ?_⟩
    split at hq
    · rename_i hdone
      simp only [Option.some.injEq, Prod.mk.injEq] at hq
      obtain ⟨rfl, rfl⟩ := hq
      exact .inl ⟨rfl, rfl, hdone⟩
    · rename_i hdone
      have hnot : b = false → job.status ≠ .completed := fun hb hc => hdone ⟨hb, hc⟩
      split at hq
      · -- it is canceled first
        rename_i hpending
        simp only [Option.map_eq_some_iff, Prod.mk.injEq] at hq
        obtain ⟨⟨q', error', st⟩, hcancel, rfl, herror⟩ := hq
        obtain ⟨job', hj', rfl, ⟨-, -, hst⟩ | ⟨rfl, -, -, hc⟩⟩ := tryCancel_cases h hcancel
        · obtain rfl := Option.some.inj (hj.symm.trans hj')
          rcases hpending with hp | hp
          · simp [hp] at hst
          · simp [hp] at hst
        · obtain rfl := Option.some.inj (hj.symm.trans hj')
          obtain rfl : _ = error := herror
          exact .inr ⟨rfl, hc.moves, hc.idle h, hc.maxThreads, _, hc.job, rfl, JobStatus.noConfusion,
            fun _ => JobStatus.noConfusion⟩
      · rename_i hpending
        rw [not_or] at hpending
        have hqueue : j ∉ p.dispatchQueue := by
          intro hmem
          have hst := h.scheduled j hmem
          rw [status_some hj, Option.some.injEq] at hst
          exact hpending.1 hst
        have htimed : ∀ e, ¬p.store.Waits e j := by
          refine h.not_waits ?_
          rw [status_some hj, ne_eq, Option.some.injEq]
          exact hpending.2
        have hlooked : Moves p (p.linkIsLinked j).2 := .single .linked
        split at hq
        · rename_i hlinked
          change p.isLinked j = true at hlinked
          split at hq
          · simp only [Option.some.injEq, Prod.mk.injEq] at hq
            obtain ⟨rfl, rfl⟩ := hq
            have hcache : j ∈ p.freeList := by
              have hor : j ∈ p.dispatchQueue ∨ j ∈ p.freeList := by simpa [isLinked] using hlinked
              exact hor.resolve_left hqueue
            refine .inr ⟨rfl, hlooked.tail (.uncache hcache), ⟨?_, ?_, htimed⟩, rfl, job, hj, rfl, hpending.1, hnot⟩
            · exact fun hmem => hqueue (List.mem_of_mem_erase hmem)
            · exact h.cacheNodup.not_mem_erase
          · cases hq
        · rename_i hlinked
          simp only [Option.some.injEq, Prod.mk.injEq] at hq
          obtain ⟨rfl, rfl⟩ := hq
          have hfree := (isLinked_eq_false.1 (Bool.eq_false_of_not_eq_true hlinked)).2
          exact .inr ⟨rfl, hlooked, ⟨hqueue, hfree, htimed⟩, rfl, job, hj, rfl, hpending.1, hnot⟩

/-! ## Scheduling -/

/-- `_scheduleInternal`: the job is queued, by a pool that may have grown, unless it is urgent and no worker can
be made for it. -/
theorem schedule_cases {highPriority thread : Bool} {error : TaskPoolError}
    (hq : p.scheduleInternal j highPriority thread = some (q, error)) :
    (error = .success ∧ ∃ p' front, (p' = p ∨ p' = p.grow) ∧ (front = true → highPriority = true) ∧
        q = p'.queued j front) ∨
      (error = .noMemory ∧ highPriority = true ∧ thread = false ∧
        q = (p.setStatus j .scheduled).note (.refused j)) := by
  unfold scheduleInternal at hq
  cases hj : p.jobs j with
  | none => simp [hj] at hq
  | some job =>
    simp only [hj] at hq
    split at hq
    · rename_i hfail
      simp only [Option.some.injEq, Prod.mk.injEq] at hq
      obtain ⟨rfl, rfl⟩ := hq
      simp only [Bool.and_eq_true, Bool.not_eq_true'] at hfail
      refine .inr ⟨rfl, hfail.1.2, hfail.2, ?_⟩
      rw [setStatus, BitVec.add_sub_cancel]
    · split at hq
      · cases hq
      · simp only [Option.some.injEq, Prod.mk.injEq] at hq
        obtain ⟨rfl, rfl⟩ := hq
        refine .inl ⟨rfl, ?_⟩
        split
        · rename_i hfront
          rw [Bool.and_eq_true] at hfront
          split
          · exact ⟨p.grow, true, .inr rfl, fun _ => hfront.2, rfl⟩
          · exact ⟨p, true, .inl rfl, fun _ => hfront.2, rfl⟩
        · split
          · exact ⟨p.grow, false, .inr rfl, Bool.noConfusion, rfl⟩
          · exact ⟨p, false, .inl rfl, Bool.noConfusion, rfl⟩

theorem maxThreads_of_shutdown (hs : p.isShutdownStarted = false) (hq : q.maxThreads = p.maxThreads) :
    q.isShutdownStarted = false := by
  rw [isShutdownStarted, hq]
  exact hs

/-- An idle job that is not over yet is scheduled. -/
theorem schedule_moves {job : Job} (hj : p.jobs j = some job) (hi : p.store.Idle j)
    (hs : p.isShutdownStarted = false) (hst : job.Open) {highPriority thread : Bool}
    {error : TaskPoolError} (hq : p.scheduleInternal j highPriority thread = some (q, error)) :
    Moves p (if error = .success then q.note (.accepted j) else q) := by
  obtain ⟨rfl, p', front, hp, -, rfl⟩ | ⟨rfl, -, -, rfl⟩ := schedule_cases hq
  · rw [if_pos rfl]
    obtain rfl | rfl := hp
    · exact .single (.schedule hj hi hs hst)
    · exact (Relation.ReflTransGen.single (.grow hs)).tail (.schedule hj hi hs hst)
  · exact .single (.strand hj hi hs hst)

@[simp] theorem postDispatch_maxThreads : p.postDispatch.maxThreads = p.maxThreads := by
  unfold postDispatch
  split <;> rfl

@[simp] theorem postDispatch_timerThread : p.postDispatch.timerThread = p.timerThread := by
  unfold postDispatch
  split <;> rfl

theorem queued_maxThreads (front : Bool) : (p.queued j front).maxThreads = p.maxThreads := by
  cases front <;> exact postDispatch_maxThreads

theorem queued_timerThread (front : Bool) : (p.queued j front).timerThread = p.timerThread := by
  cases front <;> exact postDispatch_timerThread

theorem queued_store (front : Bool) : (p.queued j front).store =
    { p.store with
      queue := if front then j :: p.dispatchQueue else p.dispatchQueue ++ [j]
      jobs := Function.update p.jobs j ((p.jobs j).map ({ · with status := .scheduled })) } := by
  cases front <;> exact postDispatch_store

/-- The first event is the first in what is left of the clock. -/
theorem armed_reschedule (hl : p.timerEventsList.head? = some e) (adv : Nat) :
    (p.rescheduleDeferredJobsTimer e adv).Armed := by
  refine ⟨_, rfl, ?_⟩
  intro e' he'
  obtain rfl : e = e' := Option.some.inj (hl.symm.trans he')
  have hmod := Nat.mod_le (max (p.expirationTime e - (p.now + adv)) TASKPOOL_JOB_RESCHEDULE_DELAY_MS) (2 ^ 32)
  have hexp : (p.rescheduleDeferredJobsTimer e adv).expirationTime e = p.expirationTime e := rfl
  have hnow : (p.rescheduleDeferredJobsTimer e adv).now = p.now + adv := rfl
  rw [hexp, hnow]
  have hread : (p.readClock adv).expirationTime e = p.expirationTime e := rfl
  show p.now + adv + max (p.expirationTime e - (p.now + adv)) TASKPOOL_JOB_RESCHEDULE_DELAY_MS % 2 ^ 32 ≤ _
  omega

/-- The loop of the timer thread. -/
theorem timerLoop_moves {rounds : Nat → Round} (h : p.store.Ok) (hs : p.isShutdownStarted = false)
    (ht : p.timerThread = true) (hn : p.timerEventsList.length ≤ n) (hq : timerLoop rounds n p = some q) :
    Moves p q ∧ q.isShutdownStarted = false ∧ q.timerThread = true ∧ (q.timerEventsList = [] ∨ q.Armed) := by
  induction n generalizing p with
  | zero =>
    obtain rfl := Option.some.inj hq
    exact ⟨.single .peek, hs, ht, .inl (List.length_eq_zero_iff.1 (Nat.le_zero.1 hn))⟩
  | succ n ih =>
    rw [timerLoop] at hq
    split at hq
    · rename_i p₁ hpair
      obtain ⟨hnil, rfl⟩ := Prod.mk.inj hpair
      obtain rfl := Option.some.inj hq
      exact ⟨.single .peek, hs, ht, .inl (List.head?_eq_none_iff.1 hnil)⟩
    · rename_i e p₁ hpair
      obtain ⟨hhead, hp₁⟩ := Prod.mk.inj hpair
      obtain ⟨rest, hl⟩ := List.head?_eq_some_iff.1 hhead
      have hpeek : Moves p p₁ := hp₁ ▸ .single .peek
      have hl₁ : p₁.timerEventsList = e :: rest := hp₁ ▸ hl
      have hs₁ : p₁.isShutdownStarted = false := hp₁ ▸ hs
      have ht₁ : p₁.timerThread = true := hp₁ ▸ ht
      clear hpair hp₁ hs ht
      have hhead₁ : (p₁.readClock (rounds n).now).timerEventsList.head? = some e := congrArg List.head? hl₁
      have hclock : Moves p (p₁.readClock (rounds n).now) := hpeek.tail .clock
      dsimp only at hq
      split at hq
      · rename_i hdue
        split at hq
        · cases hq
        · rename_i ev hev
          split at hq
          · cases hq
          · rename_i p' error hsched
            have hw : p₁.store.Waits e ev.pJob := ⟨by simp [store, hl₁], ev, hev, rfl⟩
            obtain ⟨rfl, p₂, front, hp, hfront, rfl⟩ | ⟨-, hhigh, -⟩ := schedule_cases hsched
            · obtain rfl : front = false := Bool.eq_false_of_not_eq_true fun hf => Bool.false_ne_true (hfront hf)
              have hfacts : Moves p (p₂.queued ev.pJob false) ∧ p₂.maxThreads = p₁.maxThreads ∧
                  p₂.timerThread = p₁.timerThread ∧ p₂.timerEventsList = p₁.timerEventsList.erase e := by
                obtain rfl | rfl := hp
                · exact ⟨hclock.tail (.fire hw hhead₁ hdue hs₁ ht₁), rfl, rfl, rfl⟩
                · exact ⟨(hclock.tail (.grow hs₁)).tail (.fire hw hhead₁ hdue hs₁ ht₁), rfl, rfl, rfl⟩
              obtain ⟨hmoves, hmax, hthread, hlist⟩ := hfacts
              have hlen : (p₂.queued ev.pJob false).timerEventsList.length ≤ n := by
                have hstore : (p₂.queued ev.pJob false).timerEventsList = p₂.timerEventsList :=
                  congrArg Store.timed (queued_store false)
                rw [hstore, hlist, hl₁, List.erase_cons_head]
                rw [hl, List.length_cons] at hn
                exact Nat.le_of_succ_le_succ hn
              have hrest := ih (Moves.ok h hmoves) (maxThreads_of_shutdown hs₁ ((queued_maxThreads false).trans hmax))
                ((queued_timerThread false).trans (hthread.trans ht₁)) hlen hq
              exact ⟨hmoves.trans hrest.1, hrest.2⟩
            · cases hhigh
      · obtain rfl := Option.some.inj hq
        exact ⟨hclock.tail (.arm hhead₁), hs₁, ht₁, .inr (armed_reschedule hhead₁ _)⟩

/-! ## The functions of the API -/

variable {r : Ret}

theorem moves_refl {r' : Ret} (hq : some (p, r') = some (q, r)) : Moves p q := by
  simp only [Option.some.injEq, Prod.mk.injEq] at hq
  obtain ⟨rfl, -⟩ := hq
  exact .refl

theorem create_moves {userCallback : Option Nat} {pUserContext : Nat} {pJobStorage : Option JobId}
    (hq : p.iotTaskPoolCreateJob userCallback pUserContext pJobStorage = some (q, r)) :
    Moves p q := by
  unfold iotTaskPoolCreateJob at hq
  split at hq
  · split at hq
    · cases hq
    · rename_i j huse
      simp only [Option.some.injEq, Prod.mk.injEq] at hq
      obtain ⟨rfl, -⟩ := hq
      simp only [storageInUse, Bool.or_eq_true, not_or, List.any_eq_true, not_exists, not_and] at huse
      obtain ⟨⟨hlinked, htimed⟩, -⟩ := huse
      obtain ⟨hqueue, hcache⟩ := isLinked_eq_false.1 (Bool.eq_false_of_not_eq_true hlinked)
      refine .single (.create ⟨hqueue, hcache, ?_⟩)
      rintro e ⟨hmem, hev⟩
      exact htimed e hmem (matchJob_iff.2 hev)
  · exact moves_refl hq

theorem createRecyclable_moves {userCallback : Option Nat} {pUserContext : Nat} {malloc : Option JobId}
    (h : p.store.Ok) (hq : p.iotTaskPoolCreateRecyclableJob userCallback pUserContext malloc = some (q, r)) :
    Moves p q := by
  unfold iotTaskPoolCreateRecyclableJob at hq
  split at hq
  · exact moves_refl hq
  split at hq
  · exact moves_refl hq
  unfold fetchOrAllocateJob at hq
  cases hl : p.freeList with
  | nil =>
    have hfetch : p.fetchHead = (none, p.fetchHead.2) := by rw [fetchHead, hl]; rfl
    have hmove := Move.fetchNone hl
    have hsame : p.fetchHead.2.jobs = p.jobs := rfl
    rw [hfetch] at hq
    dsimp only at hq
    cases malloc with
    | none =>
      obtain ⟨rfl, -⟩ : p.fetchHead.2 = q ∧ _ := by simpa using hq
      exact .single hmove
    | some j =>
      by_cases hfresh : p.jobs j = none
      · obtain ⟨rfl, -⟩ : p.fetchHead.2.initializeJob j userCallback pUserContext false = q ∧ _ := by
          simpa [hsame, hfresh] using hq
        have hst : p.fetchHead.2.store.status j = none := congrArg (Option.map Job.status) hfresh
        refine (Relation.ReflTransGen.single hmove).tail (.create ((ok_move h hmove).idle_of_status ?_ ?_ ?_))
        · simp [hst]
        · simp [hst]
        · simp [hst]
      · simp [hsame, hfresh] at hq
  | cons j rest =>
    have hfetch : p.fetchHead = (some j, p.fetchHead.2) := by rw [fetchHead, hl]; rfl
    rw [hfetch] at hq
    by_cases hpos : 0 < p.fetchHead.2.freeCount
    · obtain ⟨rfl, -⟩ : ({ p.fetchHead.2 with freeCount := p.fetchHead.2.freeCount - 1 } : Pool).initializeJob j
          userCallback pUserContext false = q ∧ _ := by
        simpa [hpos] using hq
      have hmove := Move.fetch hl
      obtain ⟨hqueue, hcache, htimed⟩ := cacheHead_idle h hl
      exact (Relation.ReflTransGen.single hmove).tail (.create ⟨hqueue, hcache, htimed⟩)
    · simp [hpos] at hq

/-- A job that is not static leaves what it is in, and is disposed of. -/
theorem disposeOf_moves {pJob : Option JobId} {adv : Nat} {dispose : Pool → JobId → Option Pool} (h : p.store.Ok)
    (hdispose : ∀ {p q : Pool} {j : JobId} {job : Job}, p.store.Idle j → p.jobs j = some job →
      job.isStatic = false → job.status ≠ .scheduled → p.isShutdownStarted = false → dispose p j = some q →
        Moves p q)
    (hq : p.disposeOf pJob adv dispose = some (q, r)) : Moves p q := by
  unfold disposeOf at hq
  split at hq
  · exact moves_refl hq
  split at hq
  · exact moves_refl hq
  rename_i hs
  split at hq
  · cases hq
  rename_i job hj
  split at hq
  · exact moves_refl hq
  rename_i hstatic
  split at hq
  · cases hq
  rename_i p₁ error hext
  obtain ⟨job', hj', ⟨rfl, rfl, -, -⟩ | ⟨rfl, hx⟩⟩ := extraction_cases h hext
  · obtain ⟨rfl, -⟩ : p₁ = q ∧ _ := by simpa using hq
    exact .refl
  · obtain rfl := Option.some.inj (hj.symm.trans hj')
    rw [if_pos rfl] at hq
    dsimp only [linkIsLinked] at hq
    split at hq
    · cases hq
    · obtain ⟨q', hd, hqq⟩ := Option.map_eq_some_iff.1 hq
      obtain ⟨rfl, -⟩ := Prod.mk.inj hqq
      obtain ⟨job₁, hj₁, hown, hst, -⟩ := hx.job
      have hs₁ := maxThreads_of_shutdown (Bool.eq_false_of_not_eq_true hs) hx.maxThreads
      exact (hx.moves.tail .linked).trans (hdispose (p := (p₁.linkIsLinked _).2) hx.idle hj₁
        (hown.trans (Bool.eq_false_of_not_eq_true hstatic)) hst hs₁ hd)

theorem recycleJob_moves {job : Job} (hi : p.store.Idle j) (hj : p.jobs j = some job) (hown : job.isStatic = false)
    (hst : job.status ≠ .scheduled) (hs : p.isShutdownStarted = false) (hq : p.recycleJob j = some q) :
    Moves p q := by
  unfold recycleJob at hq
  have hlooked : Moves p (p.linkIsLinked j).2 := .single .linked
  dsimp only at hq
  split at hq
  · cases hq
  split at hq
  · rename_i hroom
    obtain ⟨job', hj', rfl⟩ := Option.map_eq_some_iff.1 hq
    obtain rfl : job' = job := Option.some.inj (Eq.trans hj'.symm hj)
    exact hlooked.tail (.recycle hj hown hi hs hst hroom)
  · exact hlooked.tail (.destroyJob (p := (p.linkIsLinked j).2) hj hi hst hq)

theorem schedule_api_moves {pJob : Option JobId} {flags : BitVec 32} {thread : Bool} {adv : Nat} (h : p.store.Ok)
    (hq : p.iotTaskPoolSchedule pJob flags thread adv = some (q, r)) : Moves p q := by
  unfold iotTaskPoolSchedule at hq
  split at hq
  · exact moves_refl hq
  split at hq
  · exact moves_refl hq
  split at hq
  · exact moves_refl hq
  rename_i hs
  split at hq
  · cases hq
  rename_i p₁ error hext
  obtain ⟨job, hj, ⟨rfl, rfl, -, -⟩ | ⟨rfl, hx⟩⟩ := extraction_cases h hext
  · obtain ⟨rfl, -⟩ : p₁ = q ∧ _ := by simpa using hq
    exact .refl
  · rw [if_pos rfl] at hq
    obtain ⟨⟨p₂, error⟩, hsched, hqq⟩ := Option.map_eq_some_iff.1 hq
    obtain ⟨rfl, -⟩ := Prod.mk.inj hqq
    obtain ⟨job₁, hj₁, -, hopen, hst⟩ := hx.job
    have hs₁ := maxThreads_of_shutdown (Bool.eq_false_of_not_eq_true hs) hx.maxThreads
    exact hx.moves.trans (schedule_moves hj₁ hx.idle hs₁ ⟨hopen, hst rfl⟩ hsched)

theorem deferred_api_moves {pJob : Option JobId} {timeMs : BitVec 32} {thread : Bool} {malloc : Option EventId}
    {adv : Readings} (h : p.store.Ok)
    (hq : p.iotTaskPoolScheduleDeferred pJob timeMs thread malloc adv = some (q, r)) : Moves p q := by
  unfold iotTaskPoolScheduleDeferred at hq
  split at hq
  · exact moves_refl hq
  split at hq
  · exact schedule_api_moves h hq
  split at hq
  · exact moves_refl hq
  rename_i hs
  split at hq
  · cases hq
  rename_i p₁ error hext
  obtain ⟨job, hj, ⟨rfl, rfl, -, -⟩ | ⟨rfl, hx⟩⟩ := extraction_cases h hext
  · obtain ⟨rfl, -⟩ : p₁ = q ∧ _ := by simpa using hq
    exact .refl
  · rw [if_pos rfl] at hq
    split at hq
    · obtain ⟨rfl, -⟩ : p₁ = q ∧ _ := by simpa using hq
      exact hx.moves
    split at hq
    · cases hq
    · rename_i e hfresh
      simp only [Option.some.injEq, Prod.mk.injEq] at hq
      obtain ⟨rfl, -⟩ := hq
      obtain ⟨job₁, hj₁, -, hopen, hst⟩ := hx.job
      have hs₁ := maxThreads_of_shutdown (Bool.eq_false_of_not_eq_true hs) hx.maxThreads
      have he : p₁.timerEvents e = none := Option.not_isSome_iff_eq_none.1 hfresh
      exact hx.moves.tail (.defer hj₁ hx.idle he hs₁ ⟨hopen, hst rfl⟩)

theorem cancel_api_moves {pJob : Option JobId} {adv : Nat} (h : p.store.Ok)
    (hq : p.iotTaskPoolTryCancel pJob adv = some (q, r)) : Moves p q := by
  unfold iotTaskPoolTryCancel at hq
  split at hq
  · exact moves_refl hq
  split at hq
  · exact moves_refl hq
  obtain ⟨⟨p₁, error, st⟩, hcancel, hqq⟩ := Option.map_eq_some_iff.1 hq
  obtain ⟨rfl, -⟩ := Prod.mk.inj hqq
  obtain ⟨job, -, -, ⟨-, rfl, -⟩ | ⟨-, -, -, hc⟩⟩ := tryCancel_cases h hcancel
  · exact .refl
  · exact hc.moves

theorem status_api_moves {pJob : Option JobId} (hq : p.iotTaskPoolGetStatus pJob = some (q, r)) : q = p := by
  unfold iotTaskPoolGetStatus at hq
  split at hq
  · simp only [Option.some.injEq, Prod.mk.injEq] at hq
    exact hq.1.symm
  split at hq
  · simp only [Option.some.injEq, Prod.mk.injEq] at hq
    exact hq.1.symm
  · obtain ⟨job, -, hqq⟩ := Option.map_eq_some_iff.1 hq
    exact (Prod.mk.inj hqq).1.symm

theorem max_api_moves {maxThreads : Nat} : Moves p (p.iotTaskPoolSetMaxThreads maxThreads).1 := by
  unfold iotTaskPoolSetMaxThreads
  split
  · exact .refl
  · split
    · exact .refl
    · rename_i hbad hs
      exact .single (.setMaxThreads (by omega) (by omega) (Bool.eq_false_of_not_eq_true hs))

/-! ## Threads -/

theorem wake_moves {b : Bool} (hq : p.workerWake i b = some q) : Moves p q := by
  unfold workerWake at hq
  split at hq
  · rename_i hw
    split at hq
    · rename_i hb
      subst hb
      split at hq
      · rename_i hpos
        obtain rfl := Option.some.inj hq
        exact .single (.wake hw hpos)
      · cases hq
    · rename_i hb
      obtain rfl := Option.some.inj hq
      obtain rfl := Bool.eq_false_of_not_eq_true hb
      exact .single (.timeout hw)
  · cases hq

/-- A worker takes the first job, if there is one. -/
theorem dispatch_cases {running : Bool} (hq : p.dispatch i running = some q) :
    (p.dispatchQueue = [] ∧ q = p.dequeueHead.2.setWorker i (if running then .waiting else .exited)) ∨
      ∃ j rest job, p.dispatchQueue = j :: rest ∧ p.jobs j = some job ∧
        q = p.taken i j job.userCallback running := by
  unfold dispatch at hq
  cases hl : p.dispatchQueue with
  | nil =>
    have hdeq : p.dequeueHead = (none, p.dequeueHead.2) := by rw [dequeueHead, hl]; rfl
    rw [hdeq] at hq
    exact .inl ⟨rfl, (Option.some.inj hq).symm⟩
  | cons j rest =>
    have hdeq : p.dequeueHead = (some j, p.dequeueHead.2) := by rw [dequeueHead, hl]; rfl
    rw [hdeq] at hq
    obtain ⟨job, hjob, rfl⟩ := Option.map_eq_some_iff.1 hq
    exact .inr ⟨j, rest, job, rfl, hjob, rfl⟩

theorem lock_moves (hq : p.workerLock i = some q) : Moves p q := by
  unfold workerLock at hq
  split at hq
  · rename_i b hw
    split at hq
    · rename_i hs
      obtain rfl := Option.some.inj hq
      exact .single (.leave hw hs)
    · rename_i hs
      have hs' := Bool.eq_false_of_not_eq_true hs
      change (if b then (p.thinned b).dispatch i !p.retires b
        else some ((p.thinned b).setWorker i (if p.retires b then .exited else .waiting))) = some q at hq
      cases b with
      | false =>
        obtain rfl := Option.some.inj hq
        exact .single (.rest hw hs')
      | true =>
        have hstore := thinned_store (p := p) true
        obtain ⟨hl, rfl⟩ | ⟨j, rest, job, hl, hj, rfl⟩ := dispatch_cases hq
        · have hmove := Move.idle hw hs' ((congrArg Store.queue hstore).symm.trans hl)
          cases hr : p.retires true with
          | true =>
            rw [hr] at hmove
            exact .single hmove
          | false =>
            rw [hr] at hmove
            exact .single hmove
        · exact .single (.take hw hs' ((congrArg Store.queue hstore).symm.trans hl)
            ((congrFun (congrArg Store.jobs hstore) j).symm.trans hj))
  · cases hq

theorem call_moves (hq : p.workerCall i = some q) : Moves p q := by
  unfold workerCall at hq
  split at hq
  · rename_i hw
    dsimp only [linkIsLinked] at hq
    split at hq
    · cases hq
    · rename_i hok
      rw [not_or] at hok
      obtain rfl := Option.some.inj hq
      exact (Relation.ReflTransGen.single .linked).tail (.call hw (Bool.eq_false_of_not_eq_true hok.1))
  · cases hq

theorem return_moves (hq : p.workerReturn i = some q) : Moves p q := by
  unfold workerReturn at hq
  split at hq
  · rename_i hw
    obtain rfl := Option.some.inj hq
    exact .single (.callbackReturns hw)
  · cases hq

theorem next_moves (hq : p.workerNext i = some q) : Moves p q := by
  unfold workerNext at hq
  split at hq
  · rename_i hw
    obtain ⟨hl, rfl⟩ | ⟨j, rest, job, hl, hj, rfl⟩ := dispatch_cases hq
    · exact .single (.nextIdle hw hl)
    · exact .single (.nextTake hw hl hj)
  · cases hq

theorem exit_moves (hq : p.workerExit i = some q) : Moves p q := by
  unfold workerExit at hq
  split at hq
  · rename_i hw
    obtain rfl := Option.some.inj hq
    exact .single (.exit hw)
  · cases hq

theorem timerFires_moves (hq : p.timerFires = some q) : Moves p q := by
  unfold timerFires at hq
  split at hq
  · rename_i hf
    obtain rfl := Option.some.inj hq
    rw [Bool.and_eq_true, Bool.not_eq_true'] at hf
    exact .single (.timerFires hf.1 hf.2)
  · cases hq

theorem timerThread_moves {rounds : Nat → Round} (h : p.store.Ok) (hq : p.timerThreadLock rounds = some q) :
    Moves p q := by
  unfold timerThreadLock at hq
  split at hq
  · rename_i ht
    split at hq
    · rename_i hs
      obtain rfl := Option.some.inj hq
      exact .single (.timerDestroys ht hs)
    · rename_i hs
      obtain ⟨q', hloop, rfl⟩ := Option.map_eq_some_iff.1 hq
      obtain ⟨hmoves, hs', ht', hend⟩ :=
        timerLoop_moves h (Bool.eq_false_of_not_eq_true hs) ht (Nat.le_refl _) hloop
      exact hmoves.tail (.timerDone ht' hs' hend)
  · cases hq

/-! ## The shutdown -/

/-- What the loops of the shutdown leave alone. -/
structure Cleared (p q : Pool) : Prop where
  moves : Moves p q
  activeThreads : q.activeThreads = p.activeThreads
  shutdown : q.shutdown = p.shutdown

theorem Cleared.trans {q r : Pool} (h : Cleared p q) (h' : Cleared q r) : Cleared p r :=
  ⟨h.moves.trans h'.moves, h'.activeThreads.trans h.activeThreads, h'.shutdown.trans h.shutdown⟩

/-- A loop that takes the first element out until none is left; what else is seen of the pool stays. -/
theorem foldlM_cleared {α β : Type} {f : Pool → α → Option Pool} (list : Pool → List α) (rest : Pool → β)
    (hstep : ∀ {p q : Pool} {a : α} {as : List α}, list p = a :: as → f p a = some q →
      Cleared p q ∧ list q = as ∧ rest q = rest p) {as : List α} (hl : list p = as)
    (hq : as.foldlM f p = some q) : Cleared p q ∧ list q = [] ∧ rest q = rest p := by
  induction as generalizing p with
  | nil =>
    obtain rfl := Option.some.inj hq
    exact ⟨⟨.refl, rfl, rfl⟩, hl, rfl⟩
  | cons a as ih =>
    obtain ⟨p', hfirst, hlater⟩ := Option.bind_eq_some_iff.1 hq
    obtain ⟨hc, hl', hr⟩ := hstep hl hfirst
    obtain ⟨hc', hnil, hr'⟩ := ih hl' hlater
    exact ⟨hc.trans hc', hnil, hr'.trans hr⟩

theorem clearQueue_cleared (hq : p.clearQueue = some q) : Cleared p q ∧ q.dispatchQueue = [] ∧
    (q.timerEventsList, q.freeList) = (p.timerEventsList, p.freeList) := by
  unfold clearQueue at hq
  obtain ⟨q', hfold, rfl⟩ := Option.map_eq_some_iff.1 hq
  obtain ⟨hc, hnil, hrest⟩ := foldlM_cleared (·.dispatchQueue)
    (fun p => (p.timerEventsList, p.freeList)) (fun hl hd => by
      obtain ⟨x, -, rfl⟩ := destroyJob_left hd
      refine ⟨⟨.single (.dropQueued hl hd), rfl, rfl⟩, ?_, rfl⟩
      exact congrArg List.tail hl) rfl hfold
  refine ⟨hc.trans ⟨.single (.queueEmpty hnil), rfl, rfl⟩, congrArg List.tail hnil, hrest⟩

theorem dropEvent_cases {q : Pool} (hq : p.dropEvent e = some q) : ∃ ev x, p.timerEvents e = some ev ∧ Left x ∧
    q = { (p.removeHeadEvent.note (.dropped ev.pJob .deferred)) with
      jobs := Function.update p.jobs ev.pJob x
      timerEvents := Function.update p.timerEvents e none }.note (.recycled ev.pJob) := by
  unfold dropEvent at hq
  split at hq
  · cases hq
  · rename_i ev hev
    split at hq
    · cases hq
    · rename_i q' hd
      obtain ⟨x, hx, rfl⟩ := destroyJob_left hd
      exact ⟨ev, x, hev, hx, (Option.some.inj hq).symm⟩

theorem clearTimer_cleared (hq : p.clearTimer = some q) : Cleared p q ∧ q.timerEventsList = [] ∧
    (q.dispatchQueue, q.freeList) = (p.dispatchQueue, p.freeList) := by
  unfold clearTimer at hq
  obtain ⟨q', hfold, rfl⟩ := Option.map_eq_some_iff.1 hq
  obtain ⟨hc, hnil, hrest⟩ := foldlM_cleared (·.timerEventsList)
    (fun p => (p.dispatchQueue, p.freeList)) (fun hl hd => by
      obtain ⟨ev, x, -, -, rfl⟩ := dropEvent_cases hd
      refine ⟨⟨.single (.dropEvent hl hd), rfl, rfl⟩, ?_, rfl⟩
      exact congrArg List.tail hl) rfl hfold
  refine ⟨hc.trans ⟨.single (.timerEmpty hnil), rfl, rfl⟩, congrArg List.tail hnil, hrest⟩

theorem clearCache_cleared (hq : p.clearCache = some q) : Cleared p q ∧ q.freeList = [] ∧
    (q.dispatchQueue, q.timerEventsList) = (p.dispatchQueue, p.timerEventsList) := by
  unfold clearCache at hq
  obtain ⟨q', hfold, rfl⟩ := Option.map_eq_some_iff.1 hq
  obtain ⟨hc, hnil, hrest⟩ := foldlM_cleared (·.freeList)
    (fun p => (p.dispatchQueue, p.timerEventsList)) (fun hl hd => by
      obtain ⟨x, -, rfl⟩ := destroyJob_left hd
      refine ⟨⟨.single (.dropCached hl hd), rfl, rfl⟩, ?_, rfl⟩
      exact congrArg List.tail hl) rfl hfold
  refine ⟨hc.trans ⟨.single (.fetchNone hnil), rfl, rfl⟩, congrArg List.tail hnil, hrest⟩

theorem destroy_moves {adv : Nat} (hq : p.iotTaskPoolDestroy adv = some q) : Moves p q := by
  unfold iotTaskPoolDestroy at hq
  split at hq
  · cases hq
  rename_i hshut
  split at hq
  · cases hq
  rename_i q₁ hclear
  obtain ⟨hc₁, hqueue, hrest₁⟩ := clearQueue_cleared hclear
  dsimp only at hq
  split at hq
  · cases hq
  rename_i q₂ completeShutdown htimed
  -- the timer list is empty in either case
  have hc₂ : Cleared q₁ q₂ ∧ q₂.timerEventsList = [] ∧ q₂.dispatchQueue = q₁.dispatchQueue := by
    split at htimed
    · rename_i q' hpeeked
      obtain ⟨hnone, rfl⟩ := Prod.mk.inj hpeeked
      obtain rfl := (Prod.mk.inj (Option.some.inj htimed)).1
      exact ⟨⟨.single .peek, rfl, rfl⟩, List.head?_eq_none_iff.1 hnone, rfl⟩
    · rename_i e q' hpeeked
      obtain ⟨-, rfl⟩ := Prod.mk.inj hpeeked
      obtain ⟨q'', hq'', hpair⟩ := Option.map_eq_some_iff.1 htimed
      obtain rfl := (Prod.mk.inj hpair).1
      obtain ⟨hc, hnil, hrest⟩ := clearTimer_cleared hq''
      have hpeek : Moves q₁ (q₁.peekHeadEvent.2.readClock adv) := (Relation.ReflTransGen.single .peek).tail .clock
      exact ⟨Cleared.trans ⟨hpeek, rfl, rfl⟩ hc, hnil, (Prod.mk.inj hrest).1⟩
  obtain ⟨hc₂, htimer, hqueue₂⟩ := hc₂
  obtain ⟨q₃, hcache, rfl⟩ := Option.map_eq_some_iff.1 hq
  obtain ⟨hc₃, hfree, hrest₃⟩ := clearCache_cleared hcache
  obtain ⟨hqueue₃, htimer₃⟩ := Prod.mk.inj hrest₃
  have hc := hc₁.trans (hc₂.trans hc₃)
  rw [← hc.activeThreads]
  refine hc.moves.tail (.signal ?_ ?_ hfree ?_)
  · rw [hqueue₃, hqueue₂, hqueue]
  · rw [htimer₃, htimer]
  · rw [hc.shutdown]
    exact Option.not_isSome_iff_eq_none.1 hshut

theorem wait_moves (hq : p.destroyWait = some q) : Moves p q := by
  unfold destroyWait at hq
  split at hq
  · rename_i hshut
    split at hq
    · rename_i hpos
      obtain rfl := Option.some.inj hq
      exact .single (.destroyWait hshut hpos)
    · cases hq
  · cases hq

theorem end_moves (hq : p.destroyEnd = some q) : Moves p q := by
  unfold destroyEnd at hq
  split at hq
  · rename_i hshut
    split at hq
    · rename_i hend
      split at hq
      · rename_i hcomplete
        obtain rfl := Option.some.inj hq
        exact .single (.destroyEnd hshut hend.1 hend.2 hcomplete)
      · rename_i hcomplete
        obtain rfl := Option.some.inj hq
        exact .single (.destroyLeft hshut hend.1 hend.2 (Bool.eq_false_of_not_eq_true hcomplete))
    · cases hq
  · cases hq

end Pool

open Pool

variable {p q : Pool} {c : PoolCall} {r : Option Ret}

theorem silent_some {x : Option Pool} (h : silent x = some (q, r)) : x = some q := by
  obtain ⟨q', rfl, hq⟩ := Option.map_eq_some_iff.1 h
  rw [(Prod.mk.inj hq).1]

theorem returned_some {x : Option (Pool × Ret)} (h : returned x = some (q, r)) : ∃ r', x = some (q, r') := by
  obtain ⟨⟨q', r'⟩, rfl, hq⟩ := Option.map_eq_some_iff.1 h
  exact ⟨r', by rw [(Prod.mk.inj hq).1]⟩

/-- **Every step is made of moves.** -/
theorem step_moves (h : p.store.Ok) (hstep : poolStep p c = some (q, r)) : Moves p q := by
  unfold poolStep at hstep
  split at hstep
  · split at hstep
    · split at hstep
      · exact return_moves (silent_some hstep)
      · cases hstep
    · cases hstep
  · split at hstep
    case h_1 =>
      obtain ⟨r', hq⟩ := returned_some hstep
      exact create_moves hq
    case h_2 =>
      obtain ⟨r', hq⟩ := returned_some hstep
      exact createRecyclable_moves h hq
    case h_3 =>
      obtain ⟨r', hq⟩ := returned_some hstep
      exact disposeOf_moves h (fun hi hj _ hst _ hd => .single (.destroyJob hj hi hst hd)) hq
    case h_4 =>
      obtain ⟨r', hq⟩ := returned_some hstep
      exact disposeOf_moves h recycleJob_moves hq
    case h_5 =>
      obtain ⟨r', hq⟩ := returned_some hstep
      exact schedule_api_moves h hq
    case h_6 =>
      obtain ⟨r', hq⟩ := returned_some hstep
      exact deferred_api_moves h hq
    case h_7 =>
      obtain ⟨r', hq⟩ := returned_some hstep
      rw [status_api_moves hq]
    case h_8 =>
      obtain ⟨r', hq⟩ := returned_some hstep
      exact cancel_api_moves h hq
    case h_9 =>
      obtain ⟨r', hq⟩ := returned_some hstep
      obtain rfl := congrArg Prod.fst (Option.some.inj hq)
      exact max_api_moves
    case h_10 => exact wake_moves (silent_some hstep)
    case h_11 => exact lock_moves (silent_some hstep)
    case h_12 => exact call_moves (silent_some hstep)
    case h_13 => exact return_moves (silent_some hstep)
    case h_14 => exact next_moves (silent_some hstep)
    case h_15 => exact exit_moves (silent_some hstep)
    case h_16 => exact timerFires_moves (silent_some hstep)
    case h_17 => exact timerThread_moves h (silent_some hstep)
    case h_18 => exact destroy_moves (silent_some hstep)
    case h_19 => exact wait_moves (silent_some hstep)
    case h_20 => exact end_moves (silent_some hstep)

/-! ## Runs -/

/-- `IotTaskPool_Create` succeeds, with this pool. -/
def Created (pInfo : TaskPoolInfo) (p : Pool) : Prop :=
  ∃ threads, iotTaskPoolCreate (some pInfo) true threads = (.success, some p)

theorem createThreads_eq {threads : Nat → Bool} {n : Nat} (h : createThreads threads n p = (q, true)) :
    q = { p with workers := p.workers ++ List.replicate n .waiting, activeThreads := p.activeThreads + n } := by
  induction n generalizing p with
  | zero =>
    obtain rfl := (Prod.mk.inj h).1
    simp
  | succ n ih =>
    rw [createThreads] at h
    split at h
    · rw [ih h]
      simp [grow, List.replicate_succ, Nat.add_assoc, Nat.add_comm 1 n]
    · cases (Prod.mk.inj h).2

/-- The pool after its creation. -/
structure Fresh (pInfo : TaskPoolInfo) (p : Pool) : Prop where
  pool : p = { initTaskPoolControlStructures pInfo with
    workers := List.replicate pInfo.minThreads .waiting, activeThreads := pInfo.minThreads }
  minThreads : 1 ≤ pInfo.minThreads
  maxThreads : pInfo.minThreads ≤ pInfo.maxThreads

theorem Created.fresh {pInfo : TaskPoolInfo} (h : Created pInfo p) : Fresh pInfo p := by
  obtain ⟨threads, h⟩ := h
  unfold iotTaskPoolCreate performTaskPoolParameterValidation at h
  by_cases hbad : pInfo.maxThreads < pInfo.minThreads ∨ pInfo.minThreads < 1 ∨ pInfo.maxThreads < 1
  · simp only [if_pos hbad] at h
    cases (Prod.mk.inj h).1
  · simp only [if_neg hbad, if_true] at h
    rw [not_or, not_or] at hbad
    cases hc : createThreads threads pInfo.minThreads (initTaskPoolControlStructures pInfo) with
    | mk p' ok =>
      cases ok with
      | false =>
        rw [hc] at h
        cases (Prod.mk.inj h).1
      | true =>
        obtain rfl : p' = p := by simpa [hc] using h
        refine ⟨?_, by omega, by omega⟩
        rw [createThreads_eq hc]
        simp [initTaskPoolControlStructures]

/-- A pool with one worker. -/
def onePool : Pool :=
  { initTaskPoolControlStructures ⟨1, 2⟩ with workers := [.waiting], activeThreads := 1 }

theorem onePool_created : Created ⟨1, 2⟩ onePool := ⟨fun _ => true, rfl⟩

/-- The pool with one worker after these calls. -/
def onePool.after (calls : List PoolCall) : Pool := ((taskPool.exec? onePool calls).getD ([], onePool)).2

variable {pInfo : TaskPoolInfo} {p₀ : Pool} {tr : List (Entry Pool PoolCall (Option Ret))}

theorem Fresh.ok (h : Fresh pInfo p) : p.store.Ok := by
  rw [h.pool]
  refine ⟨List.nodup_nil, ?_, List.nodup_nil, ?_, Nat.zero_le _, Nat.zero_le _, List.nodup_nil, ?_, ?_, ?_⟩
  · intro j hj
    cases hj
  · intro j hj
    cases hj
  · intro j
    refine iff_of_false (fun hst => by cases hst) ?_
    rintro ⟨e, hmem, -⟩
    cases hmem
  · intro e e' j he _
    cases he.1
  · intro e
    refine iff_of_false (fun he => he rfl) ?_
    intro hmem
    cases hmem

/-- **Runs**: what holds of a pool that was created, and is kept by every move of a store in order. -/
theorem run_inv {I : Pool → Prop} (hp : Created pInfo p₀) (hinit : Fresh pInfo p₀ → I p₀)
    (hmove : ∀ {p q : Pool}, p.store.Ok → I p → Move p q → I q) (hrun : Exec taskPool p₀ tr p) :
    p.store.Ok ∧ I p := by
  refine hrun.inv (I := fun p => p.store.Ok ∧ I p) ?_ ⟨hp.fresh.ok, hinit hp.fresh⟩
  intro p c q r hI hstep
  obtain ⟨hok, hI⟩ := hI
  have hmoves := step_moves hok hstep
  refine ⟨hmoves.ok hok, ?_⟩
  clear hstep
  induction hmoves with
  | refl => exact hI
  | tail hms hm ih => exact hmove (Moves.ok hok hms) ih hm

/-- The store is in order after every run. -/
theorem run_ok (hp : Created pInfo p₀) (hrun : Exec taskPool p₀ tr p) : p.store.Ok :=
  (run_inv (I := fun _ => True) hp (fun _ => trivial) (fun _ _ _ => trivial) hrun).1

/-- **Where jobs are**: after every run the queue holds scheduled jobs, each once, the cache holds wiped jobs, each
once and at most as many as it may, no job is in both, a job is deferred just when one timer event waits for it,
and no timer event is leaked or freed too early. -/
theorem run_store (hp : Created pInfo p₀) (hrun : Exec taskPool p₀ tr p) :
    (p.dispatchQueue.Nodup ∧ ∀ j ∈ p.dispatchQueue, p.store.status j = some .scheduled ∧ j ∉ p.freeList) ∧
      (p.freeList.Nodup ∧ p.freeList.length ≤ IOT_TASKPOOL_JOBS_RECYCLE_LIMIT ∧
        ∀ j ∈ p.freeList, ∃ job, p.jobs j = some job ∧ job.status = .undefined ∧ job.isStatic = false) ∧
      (∀ j, p.store.status j = some .deferred ↔ ∃! e, p.store.Waits e j) ∧
      ∀ e, p.timerEvents e ≠ none ↔ e ∈ p.timerEventsList := by
  have hok := run_ok hp hrun
  refine ⟨⟨hok.queueNodup, fun j hj => ⟨hok.scheduled j hj, hok.not_cached_of_queued hj⟩⟩,
    ⟨hok.cacheNodup, hok.count.trans hok.limit, hok.wiped⟩, fun j => ?_, hok.events⟩
  rw [hok.deferred j]
  constructor
  · rintro ⟨e, he⟩
    exact ⟨e, he, fun e' he' => hok.unique he' he⟩
  · rintro ⟨e, he, -⟩
    exact ⟨e, he⟩

/-- One job is queued, one deferred and one in the cache. -/
theorem run_store_onePool :
    let p := onePool.after [.createJob (some 7) 0 (some 1), .createJob (some 7) 0 (some 2),
      .createRecyclableJob (some 7) 0 (some 3), .schedule (some 1) 0 false 0,
      .scheduleDeferred (some 2) 20 false (some 8) ⟨0, 0, 0⟩, .recycleJob (some 3) 0]
    1 ∉ p.freeList ∧ [3].length ≤ IOT_TASKPOOL_JOBS_RECYCLE_LIMIT ∧ ∃! e, p.store.Waits e 2 := by
  intro p
  have hrun : Exec taskPool onePool _ p := exec?_getD rfl
  obtain ⟨hqueue, hcache, hdeferred, -⟩ := run_store onePool_created hrun
  exact ⟨(hqueue.2 1 (List.mem_singleton.2 rfl)).2, hcache.2.1, (hdeferred 2).1 rfl⟩

end TaskPool
