import TrustZone.TaskPool.TaskPool

/-!
# Jobs, timer events and the lists that hold them

`Store.Ok`: what is queued is scheduled, what is in the cache is wiped, a job is deferred just when one timer
event waits for it, and every timer event is in the list. The rest changes one thing at a time.

* `Ok.put`: a job that is in nothing.
* `Ok.queueSub`, `Ok.enqueue`: the queue.
* `Ok.cacheSub`, `Ok.cachePut`: the cache.
* `Ok.wait`, `Ok.unwait`: a job and its timer event.
-/

namespace TaskPool

structure Store where
  queue : List JobId
  timed : List EventId
  cache : List JobId
  count : Nat
  jobs : JobId → Option Job
  events : EventId → Option TimerEvent

def Pool.store (p : Pool) : Store :=
  ⟨p.dispatchQueue, p.timerEventsList, p.freeList, p.freeCount, p.jobs, p.timerEvents⟩

namespace Store

variable {S : Store} {j k : JobId} {e e' : EventId}

def status (S : Store) (j : JobId) : Option JobStatus := (S.jobs j).map (·.status)

/-- The timer event is in the list, for this job. -/
def Waits (S : Store) (e : EventId) (j : JobId) : Prop := e ∈ S.timed ∧ ∃ ev, S.events e = some ev ∧ ev.pJob = j

/-- The job is in nothing. -/
structure Idle (S : Store) (j : JobId) : Prop where
  queue : j ∉ S.queue
  cache : j ∉ S.cache
  timed : ∀ e, ¬S.Waits e j

structure Ok (S : Store) : Prop where
  queueNodup : S.queue.Nodup
  scheduled : ∀ j ∈ S.queue, S.status j = some .scheduled
  cacheNodup : S.cache.Nodup
  wiped : ∀ j ∈ S.cache, ∃ job, S.jobs j = some job ∧ job.status = .undefined ∧ job.isStatic = false
  count : S.cache.length ≤ S.count
  limit : S.count ≤ IOT_TASKPOOL_JOBS_RECYCLE_LIMIT
  timedNodup : S.timed.Nodup
  deferred : ∀ j, S.status j = some .deferred ↔ ∃ e, S.Waits e j
  unique : ∀ {e e' j}, S.Waits e j → S.Waits e' j → e = e'
  events : ∀ e, S.events e ≠ none ↔ e ∈ S.timed

theorem Ok.status_cache (h : S.Ok) (hj : j ∈ S.cache) : S.status j = some .undefined := by
  obtain ⟨job, hjob, hst, -⟩ := h.wiped j hj
  rw [status, hjob, Option.map_some, hst]

theorem Ok.not_queued (h : S.Ok) (hs : S.status j ≠ some .scheduled) : j ∉ S.queue :=
  fun hq => hs (h.scheduled j hq)

theorem Ok.not_cached (h : S.Ok) (hu : S.status j ≠ some .undefined) : j ∉ S.cache :=
  fun hc => hu (h.status_cache hc)

theorem Ok.not_waits (h : S.Ok) (hd : S.status j ≠ some .deferred) : ∀ e, ¬S.Waits e j :=
  fun e he => hd ((h.deferred j).2 ⟨e, he⟩)

/-- A job whose status is none of a queued, a cached and a deferred job is idle. -/
theorem Ok.idle_of_status (h : S.Ok) (hs : S.status j ≠ some .scheduled) (hu : S.status j ≠ some .undefined)
    (hd : S.status j ≠ some .deferred) : S.Idle j :=
  ⟨h.not_queued hs, h.not_cached hu, h.not_waits hd⟩

theorem Ok.not_cached_of_queued (h : S.Ok) (hj : j ∈ S.queue) : j ∉ S.cache := by
  refine h.not_cached ?_
  rw [h.scheduled j hj]
  decide

/-- A job that waits for its time is in no other list. -/
theorem Ok.waits_apart (h : S.Ok) (hw : S.Waits e j) : j ∉ S.queue ∧ j ∉ S.cache := by
  have hst : S.status j = some .deferred := (h.deferred j).2 ⟨e, hw⟩
  refine ⟨h.not_queued ?_, h.not_cached ?_⟩
  · rw [hst]
    decide
  · rw [hst]
    decide

/-! ## One thing at a time -/

theorem status_update {T : Store} {x : Option Job} (hT : T.jobs = Function.update S.jobs j x) (k : JobId) :
    T.status k = if k = j then x.map (·.status) else S.status k := by
  rw [status, hT]
  by_cases hk : k = j
  · subst hk
    rw [Function.update_self, if_pos rfl]
  · rw [Function.update_of_ne hk, if_neg hk, status]

theorem status_self {T : Store} {x : Option Job} (hT : T.jobs = Function.update S.jobs j x) :
    T.status j = x.map (·.status) :=
  (status_update hT j).trans (if_pos rfl)

theorem status_other {T : Store} {x : Option Job} (hT : T.jobs = Function.update S.jobs j x) (hk : k ≠ j) :
    T.status k = S.status k :=
  (status_update hT k).trans (if_neg hk)

/-- A job that is in nothing is made, changed or freed. -/
theorem Ok.put (h : S.Ok) (hi : S.Idle j) {x : Option Job} (hx : x.map (·.status) ≠ some .deferred) :
    Ok { S with jobs := Function.update S.jobs j x } := by
  refine ⟨h.queueNodup, ?_, h.cacheNodup, ?_, h.count, h.limit, h.timedNodup, ?_, h.unique, h.events⟩
  · intro k hk
    have hne : k ≠ j := by
      rintro rfl
      exact hi.queue hk
    exact Eq.trans (status_other rfl hne) (h.scheduled k hk)
  · intro k hk
    have hne : k ≠ j := by
      rintro rfl
      exact hi.cache hk
    obtain ⟨job, hjob, hrest⟩ := h.wiped k hk
    exact ⟨job, (Function.update_of_ne hne _ _).trans hjob, hrest⟩
  · intro k
    by_cases hk : k = j
    · subst hk
      refine iff_of_false (fun hd => hx (Eq.trans (status_self rfl).symm hd)) ?_
      rintro ⟨e, he⟩
      exact hi.timed e he
    · exact Iff.trans (by rw [status_other rfl hk]) (h.deferred k)

/-- Jobs leave the queue. -/
theorem Ok.queueSub (h : S.Ok) {q : List JobId} (hq : q.Sublist S.queue) : Ok { S with queue := q } := by
  refine ⟨h.queueNodup.sublist hq, ?_, h.cacheNodup, h.wiped, h.count, h.limit, h.timedNodup, h.deferred,
    h.unique, h.events⟩
  intro k hk
  exact h.scheduled k (hq.subset hk)

/-- A scheduled job enters the queue. -/
theorem Ok.enqueue (h : S.Ok) (hs : S.status j = some .scheduled) (hj : j ∉ S.queue) {q : List JobId}
    (hq : q.Perm (j :: S.queue)) : Ok { S with queue := q } := by
  refine ⟨hq.nodup_iff.2 (List.nodup_cons.2 ⟨hj, h.queueNodup⟩), ?_, h.cacheNodup, h.wiped, h.count, h.limit,
    h.timedNodup, h.deferred, h.unique, h.events⟩
  intro k hk
  obtain rfl | hk := List.mem_cons.1 (hq.mem_iff.1 hk)
  · exact hs
  · exact h.scheduled k hk

/-- Jobs leave the cache. -/
theorem Ok.cacheSub (h : S.Ok) {c : List JobId} (hc : c.Sublist S.cache) {n : Nat} (hn : c.length ≤ n)
    (hlimit : n ≤ IOT_TASKPOOL_JOBS_RECYCLE_LIMIT) : Ok { S with cache := c, count := n } := by
  refine ⟨h.queueNodup, h.scheduled, h.cacheNodup.sublist hc, ?_, hn, hlimit, h.timedNodup, h.deferred,
    h.unique, h.events⟩
  intro k hk
  exact h.wiped k (hc.subset hk)

/-- A wiped job enters the cache. -/
theorem Ok.cachePut (h : S.Ok) {job : Job} (hj : S.jobs j = some job) (hw : job.status = .undefined)
    (hown : job.isStatic = false) (hc : j ∉ S.cache) (hroom : S.count < IOT_TASKPOOL_JOBS_RECYCLE_LIMIT) :
    Ok { S with cache := S.cache ++ [j], count := S.count + 1 } := by
  refine ⟨h.queueNodup, h.scheduled, ?_, ?_, ?_, hroom, h.timedNodup, h.deferred, h.unique, h.events⟩
  · exact (List.perm_append_singleton j S.cache).nodup_iff.2 (List.nodup_cons.2 ⟨hc, h.cacheNodup⟩)
  · intro k hk
    obtain hk | hk := List.mem_append.1 hk
    · exact h.wiped k hk
    · obtain rfl := List.mem_singleton.1 hk
      exact ⟨job, hj, hw, hown⟩
  · rw [List.length_append, List.length_singleton]
    exact Nat.succ_le_succ h.count

/-- An event goes, with its job no longer deferred. -/
theorem Ok.unwait (h : S.Ok) (hw : S.Waits e j) {t : List EventId} (ht : S.timed.Perm (e :: t)) {x : Option Job}
    (hx : x.map (·.status) ≠ some .deferred) :
    Ok { S with timed := t, events := Function.update S.events e none, jobs := Function.update S.jobs j x } := by
  have hst : S.status j = some .deferred := (h.deferred j).2 ⟨e, hw⟩
  have hnodup := ht.nodup_iff.1 h.timedNodup
  obtain ⟨het, htn⟩ := List.nodup_cons.1 hnodup
  have hwaits : ∀ e' k, (⟨S.queue, t, S.cache, S.count, Function.update S.jobs j x,
      Function.update S.events e none⟩ : Store).Waits e' k ↔ S.Waits e' k ∧ e' ≠ e := by
    intro e' k
    constructor
    · rintro ⟨hmem, hev⟩
      have hne : e' ≠ e := fun he => het (he ▸ hmem)
      refine ⟨⟨ht.mem_iff.2 (List.mem_cons_of_mem e hmem), ?_⟩, hne⟩
      simpa [Function.update_of_ne hne] using hev
    · rintro ⟨⟨hmem, hev⟩, hne⟩
      refine ⟨(List.mem_cons.1 (ht.mem_iff.1 hmem)).resolve_left hne, ?_⟩
      simpa [Function.update_of_ne hne] using hev
  refine ⟨h.queueNodup, ?_, h.cacheNodup, ?_, h.count, h.limit, htn, ?_, ?_, ?_⟩
  · intro k hk
    have hne : k ≠ j := by
      rintro rfl
      have hsched := h.scheduled k hk
      rw [hst] at hsched
      cases hsched
    exact Eq.trans (status_other rfl hne) (h.scheduled k hk)
  · intro k hk
    have hne : k ≠ j := by
      rintro rfl
      have hundef := h.status_cache hk
      rw [hst] at hundef
      cases hundef
    obtain ⟨job, hjob, hrest⟩ := h.wiped k hk
    exact ⟨job, (Function.update_of_ne hne _ _).trans hjob, hrest⟩
  · intro k
    by_cases hk : k = j
    · subst hk
      refine iff_of_false (fun hd => hx (Eq.trans (status_self rfl).symm hd)) ?_
      rintro ⟨e', he'⟩
      obtain ⟨he', hne⟩ := (hwaits e' k).1 he'
      exact hne (h.unique he' hw)
    · constructor
      · intro hd
        obtain ⟨e', he'⟩ := (h.deferred k).1 (Eq.trans (status_other rfl hk).symm hd)
        refine ⟨e', (hwaits e' k).2 ⟨he', ?_⟩⟩
        rintro rfl
        obtain ⟨-, ev, hev, hp⟩ := hw
        obtain ⟨-, ev', hev', hp'⟩ := he'
        obtain rfl := Option.some.inj (hev.symm.trans hev')
        exact hk (hp'.symm.trans hp)
      · rintro ⟨e', he'⟩
        exact Eq.trans (status_other rfl hk) ((h.deferred k).2 ⟨e', ((hwaits e' k).1 he').1⟩)
  · intro e₁ e₂ k h₁ h₂
    exact h.unique ((hwaits e₁ k).1 h₁).1 ((hwaits e₂ k).1 h₂).1
  · intro e'
    by_cases he : e' = e
    · subst he
      simpa using het
    · show Function.update S.events e none e' ≠ none ↔ e' ∈ t
      rw [Function.update_of_ne he, h.events, ht.mem_iff, List.mem_cons]
      exact ⟨fun hm => hm.resolve_left he, .inr⟩

/-- An event comes, with its job deferred. -/
theorem Ok.wait (h : S.Ok) (hi : S.Idle j) (he : S.events e = none) {t : List EventId} (ht : t.Perm (e :: S.timed))
    {job : Job} (hjob : job.status = .deferred) {ev : TimerEvent} (hev : ev.pJob = j) :
    Ok { S with
      timed := t
      events := Function.update S.events e (some ev)
      jobs := Function.update S.jobs j (some job) } := by
  have hnew : e ∉ S.timed := fun hm => (h.events e).2 hm he
  have hwaits : ∀ e' k, (⟨S.queue, t, S.cache, S.count, Function.update S.jobs j (some job),
      Function.update S.events e (some ev)⟩ : Store).Waits e' k ↔ S.Waits e' k ∨ e' = e ∧ k = j := by
    intro e' k
    by_cases hee : e' = e
    · subst hee
      have hno : ¬S.Waits e' k := fun hw => hnew hw.1
      constructor
      · rintro ⟨-, ev', hev', hp⟩
        obtain rfl := Option.some.inj (Eq.trans (Function.update_self e' (some ev) S.events).symm hev')
        exact .inr ⟨rfl, hp.symm.trans hev⟩
      · rintro (hw | ⟨-, rfl⟩)
        · exact absurd hw hno
        · exact ⟨ht.mem_iff.2 List.mem_cons_self, ev, Function.update_self .., hev⟩
    · have hmem : e' ∈ t ↔ e' ∈ S.timed := by
        rw [ht.mem_iff, List.mem_cons]
        exact ⟨fun hm => hm.resolve_left hee, .inr⟩
      simp [Waits, hmem, hee]
  refine ⟨h.queueNodup, ?_, h.cacheNodup, ?_, h.count, h.limit, ?_, ?_, ?_, ?_⟩
  · intro k hk
    have hne : k ≠ j := by
      rintro rfl
      exact hi.queue hk
    exact Eq.trans (status_other rfl hne) (h.scheduled k hk)
  · intro k hk
    have hne : k ≠ j := by
      rintro rfl
      exact hi.cache hk
    obtain ⟨job', hjob', hrest⟩ := h.wiped k hk
    exact ⟨job', (Function.update_of_ne hne _ _).trans hjob', hrest⟩
  · exact ht.nodup_iff.2 (List.nodup_cons.2 ⟨hnew, h.timedNodup⟩)
  · intro k
    by_cases hk : k = j
    · subst hk
      refine iff_of_true (Eq.trans (status_self rfl) (congrArg some hjob)) ?_
      exact ⟨e, (hwaits e k).2 (.inr ⟨rfl, rfl⟩)⟩
    · refine Iff.trans (by rw [status_other rfl hk]) ((h.deferred k).trans ?_)
      constructor
      · rintro ⟨e', he'⟩
        exact ⟨e', (hwaits e' k).2 (.inl he')⟩
      · rintro ⟨e', he'⟩
        exact ⟨e', ((hwaits e' k).1 he').resolve_right fun hej => hk hej.2⟩
  · intro e₁ e₂ k h₁ h₂
    rcases (hwaits e₁ k).1 h₁ with hw₁ | ⟨he₁, hk₁⟩
    · rcases (hwaits e₂ k).1 h₂ with hw₂ | ⟨-, hk₂⟩
      · exact h.unique hw₁ hw₂
      · exact absurd (hk₂ ▸ hw₁) (hi.timed e₁)
    · rcases (hwaits e₂ k).1 h₂ with hw₂ | ⟨he₂, -⟩
      · exact absurd (hk₁ ▸ hw₂) (hi.timed e₂)
      · exact he₁.trans he₂.symm
  · intro e'
    by_cases hee : e' = e
    · subst hee
      simp [ht.mem_iff]
    · show Function.update S.events e (some ev) e' ≠ none ↔ e' ∈ t
      rw [Function.update_of_ne hee, h.events, ht.mem_iff, List.mem_cons]
      exact ⟨.inr, fun hm => hm.resolve_left hee⟩

end Store

end TaskPool
