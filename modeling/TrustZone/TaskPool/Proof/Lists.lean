import TrustZone.TaskPool.Proof.LinearContainers
import TrustZone.TaskPool.Proof.Steps

/-!
# The lists of the pool in the memory

* `linked_move`: a move calls the functions on lists as it may, and leaves the lists that the pool has.
* `run_linked`: so the links in the jobs and timer events hold the lists of the pool, after any run.
-/

namespace TaskPool

open Lib Machine Pool
open Lib.Links (Rings Loose)

variable {p q : Pool} {j : JobId} {e : EventId}

/-- The lists of the pool, by their heads. -/
def Pool.rings (p : Pool) : Rings Node
  | .dispatchQueue => some (p.dispatchQueue.map .job)
  | .timerEventsList => some (p.timerEventsList.map .timerEvent)
  | .freeList => some (p.freeList.map .job)
  | _ => none

/-- The calls that the pool has made leave the lists that it has. -/
def Linked (p : Pool) : Prop := Held (fun _ => Link.null) p.calls p.rings

/-- What the memory of links has to do with. -/
structure Listing where
  dispatchQueue : List JobId
  timerEventsList : List EventId
  freeList : List JobId
  calls : List (ContainerCall Node × ContainerRet Node)

def Pool.listing (p : Pool) : Listing := ⟨p.dispatchQueue, p.timerEventsList, p.freeList, p.calls⟩

theorem Linked.same (h : Linked p) (hs : q.listing = p.listing) : Linked q := by
  obtain ⟨hqueue, htimer, hfree, hcalls⟩ := Listing.mk.inj hs
  have hrings : q.rings = p.rings := by
    funext n
    cases n <;> simp [rings, hqueue, htimer, hfree]
  rw [Linked, hrings, hcalls]
  exact h

/-! ## The three lists -/

section Call

variable {c : ContainerCall Node} {r : ContainerRet Node} {xs : List Node}

theorem Linked.queue (h : Linked p) (he : Effect p.rings c r (Function.update p.rings .dispatchQueue (some xs)))
    (hxs : q.dispatchQueue.map .job = xs) (ht : q.timerEventsList = p.timerEventsList)
    (hf : q.freeList = p.freeList) (hcalls : q.calls = p.calls ++ [(c, r)]) : Linked q := by
  have hrings : q.rings = Function.update p.rings .dispatchQueue (some xs) := by
    funext n
    cases n <;> simp [rings, hxs, ht, hf]
  rw [Linked, hrings, hcalls]
  exact h.snoc he

theorem Linked.timer (h : Linked p) (he : Effect p.rings c r (Function.update p.rings .timerEventsList (some xs)))
    (hxs : q.timerEventsList.map .timerEvent = xs) (hq : q.dispatchQueue = p.dispatchQueue)
    (hf : q.freeList = p.freeList) (hcalls : q.calls = p.calls ++ [(c, r)]) : Linked q := by
  have hrings : q.rings = Function.update p.rings .timerEventsList (some xs) := by
    funext n
    cases n <;> simp [rings, hxs, hq, hf]
  rw [Linked, hrings, hcalls]
  exact h.snoc he

theorem Linked.cache (h : Linked p) (he : Effect p.rings c r (Function.update p.rings .freeList (some xs)))
    (hxs : q.freeList.map .job = xs) (hq : q.dispatchQueue = p.dispatchQueue)
    (ht : q.timerEventsList = p.timerEventsList) (hcalls : q.calls = p.calls ++ [(c, r)]) : Linked q := by
  have hrings : q.rings = Function.update p.rings .freeList (some xs) := by
    funext n
    cases n <;> simp [rings, hxs, hq, ht]
  rw [Linked, hrings, hcalls]
  exact h.snoc he

end Call

theorem loose_job (hq : j ∉ p.dispatchQueue) (hf : j ∉ p.freeList) : Loose p.rings (.job j) := by
  intro n xs hxs hmem
  cases n with
  | dispatchQueue =>
    obtain rfl := Option.some.inj hxs
    simp [hq] at hmem
  | timerEventsList =>
    obtain rfl := Option.some.inj hxs
    simp at hmem
  | freeList =>
    obtain rfl := Option.some.inj hxs
    simp [hf] at hmem
  | job => cases hxs
  | timerEvent => cases hxs

theorem loose_event (he : e ∉ p.timerEventsList) : Loose p.rings (.timerEvent e) := by
  intro n xs hxs hmem
  cases n with
  | dispatchQueue =>
    obtain rfl := Option.some.inj hxs
    simp at hmem
  | timerEventsList =>
    obtain rfl := Option.some.inj hxs
    simp [he] at hmem
  | freeList =>
    obtain rfl := Option.some.inj hxs
    simp at hmem
  | job => cases hxs
  | timerEvent => cases hxs

/-- The link of a job is loose, unless the job is queued or in the cache. -/
theorem isLinked_iff : p.isLinked j = true ↔ ¬Loose p.rings (.job j) := by
  constructor
  · intro hlinked hloose
    obtain hq | hf : j ∈ p.dispatchQueue ∨ j ∈ p.freeList := of_decide_eq_true hlinked
    · exact hloose .dispatchQueue _ rfl (List.mem_cons_of_mem _ (List.mem_map_of_mem hq))
    · exact hloose .freeList _ rfl (List.mem_cons_of_mem _ (List.mem_map_of_mem hf))
  · intro hloose
    by_contra hlinked
    obtain ⟨hq, hf⟩ := isLinked_eq_false.1 (Bool.eq_false_of_not_eq_true hlinked)
    exact hloose (loose_job hq hf)

/-! ## Calls -/

/-- A call that leaves the lists. -/
theorem Linked.read {c : ContainerCall Node} {r : ContainerRet Node} (h : Linked p)
    (he : Effect p.rings c r p.rings) : Linked (p.call c r) :=
  Held.snoc h he

theorem Linked.linkIsLinked (h : Linked p) : Linked (p.linkIsLinked j).2 := h.read (.isLinked isLinked_iff)

theorem Linked.peekHeadEvent (h : Linked p) : Linked p.peekHeadEvent.2 := by
  have he : Effect p.rings (.peekHead .timerEventsList) _ _ := .peekHead rfl
  rw [List.head?_map] at he
  exact h.read he

theorem Linked.findEvent (h : Linked p) : Linked (p.findEvent j).2 := by
  have hat : p.rings .timerEventsList = some ([] ++ p.timerEventsList.map .timerEvent) := rfl
  have he : Effect p.rings (.findFirstMatch .timerEventsList none (p.matchLink j)) _ _ := .findFirstMatch hat rfl
  rw [List.find?_map] at he
  exact h.read he

theorem Linked.dequeue (h : Linked p) : Linked p.dequeueHead.2 := by
  have he : Effect p.rings (.removeHead .dispatchQueue) _ _ := .removeHead rfl
  rw [List.head?_map] at he
  exact h.queue he List.map_tail rfl rfl rfl

theorem Linked.fetch (h : Linked p) : Linked p.fetchHead.2 := by
  have he : Effect p.rings (.removeHead .freeList) _ _ := .removeHead rfl
  rw [List.head?_map] at he
  exact h.cache he List.map_tail rfl rfl rfl

theorem Linked.removeHeadEvent (h : Linked p) : Linked p.removeHeadEvent := by
  have he : Effect p.rings (.removeHead .timerEventsList) _ _ := .removeHead rfl
  rw [List.head?_map] at he
  exact h.timer he List.map_tail rfl rfl rfl

theorem Linked.cacheTail (h : Linked p) (hq : j ∉ p.dispatchQueue) (hf : j ∉ p.freeList) :
    Linked (p.cacheTail j) :=
  h.cache (.insertTail rfl (loose_job hq hf)) List.map_append rfl rfl rfl

theorem postDispatch_listing : p.postDispatch.listing = p.listing := by
  unfold postDispatch
  split <;> rfl

theorem postDispatches_listing (n : Nat) : (postDispatches n p).listing = p.listing := by
  obtain ⟨s, l, -, heq⟩ := postDispatches_rest (p := p) n
  rw [heq]
  rfl

theorem thinned_listing (b : Bool) : (p.thinned b).listing = p.listing := by
  unfold thinned
  split <;> rfl

/-- A job that is in no list is queued. -/
theorem Linked.queued (h : Linked p) (hq : j ∉ p.dispatchQueue) (hf : j ∉ p.freeList) (front : Bool) :
    Linked (p.queued j front) := by
  generalize hp₁ : ({ p.setStatus j .scheduled with activeJobs := p.activeJobs + 1 } : Pool) = p₁
  have h₁ : Linked p₁ := h.same (by rw [← hp₁]; rfl)
  have hloose : Loose p₁.rings (.job j) := by
    rw [← hp₁]
    exact loose_job hq hf
  have hqueued : Linked (if front then p₁.enqueueHead j else p₁.enqueueTail j) := by
    cases front with
    | false => exact h₁.queue (.insertTail rfl hloose) List.map_append rfl rfl rfl
    | true => exact h₁.queue (.insertHead rfl hloose) rfl rfl rfl rfl
  have heq : p.queued j front = (if front then p₁.enqueueHead j else p₁.enqueueTail j).postDispatch := by
    rw [← hp₁]
    rfl
  rw [heq]
  exact hqueued.same postDispatch_listing

theorem Linked.removeQueued (h : Linked p) (hq : j ∈ p.dispatchQueue) (hf : j ∉ p.freeList) :
    Linked (p.remove j) := by
  obtain ⟨xs, ys, -, hl, herase⟩ := List.exists_erase_eq hq
  have hrings : p.rings .dispatchQueue = some (xs.map .job ++ .job j :: ys.map .job) := by
    show some (p.dispatchQueue.map _) = _
    rw [hl, List.map_append, List.map_cons]
  refine h.queue (.remove hrings) ?_ rfl (List.erase_of_not_mem hf) rfl
  show (p.dispatchQueue.erase j).map _ = _
  rw [herase, List.map_append]

theorem Linked.removeCached (h : Linked p) (hq : j ∉ p.dispatchQueue) (hf : j ∈ p.freeList) :
    Linked (p.remove j) := by
  obtain ⟨xs, ys, -, hl, herase⟩ := List.exists_erase_eq hf
  have hrings : p.rings .freeList = some (xs.map .job ++ .job j :: ys.map .job) := by
    show some (p.freeList.map _) = _
    rw [hl, List.map_append, List.map_cons]
  refine h.cache (.remove hrings) ?_ (List.erase_of_not_mem hq) rfl rfl
  show (p.freeList.erase j).map _ = _
  rw [herase, List.map_append]

theorem Linked.removeTimerEvent (h : Linked p) (he : e ∈ p.timerEventsList) : Linked (p.removeTimerEvent e) := by
  obtain ⟨xs, ys, -, hl, herase⟩ := List.exists_erase_eq he
  have hrings : p.rings .timerEventsList = some (xs.map .timerEvent ++ .timerEvent e :: ys.map .timerEvent) := by
    show some (p.timerEventsList.map _) = _
    rw [hl, List.map_append, List.map_cons]
  refine h.timer (.remove hrings) ?_ rfl rfl rfl
  show (p.timerEventsList.erase e).map _ = _
  rw [herase, List.map_append]

theorem Linked.insertTimerEvent (h : Linked p) (he : e ∉ p.timerEventsList) : Linked (p.insertTimerEvent e) := by
  refine h.timer (.insertSorted rfl (loose_event he)) ?_ rfl rfl rfl
  exact List.map_orderedInsert _ _ _ _ _ (fun _ _ => Iff.rfl) (fun _ _ => Iff.rfl)

/-- **A move calls the functions on lists as it may.** -/
theorem linked_move (hok : p.store.Ok) (h : Linked p) (hm : Move p q) : Linked q := by
  cases hm with
  | linked => exact h.linkIsLinked
  | peek => exact h.peekHeadEvent
  | find => exact h.findEvent
  | fetch => exact h.fetch.same rfl
  | fetchNone => exact h.fetch
  | uncache hf => exact h.removeCached (fun hq => hok.not_cached_of_queued hq hf) hf
  | @withdrawQueued j hq =>
    have hset : Linked (p.setStatus j .canceled) := h.same rfl
    exact (hset.removeQueued hq (hok.not_cached_of_queued hq)).same rfl
  | @withdrawDeferred j e hw =>
    have hset : Linked (p.setStatus j .canceled) := h.same rfl
    exact (hset.removeTimerEvent hw.1).same rfl
  | schedule _ hi _ _ => exact (h.queued hi.queue hi.cache _).same rfl
  | @fire j e hw =>
    obtain ⟨hqueue, hcache⟩ := hok.waits_apart hw
    exact (h.removeTimerEvent hw.1).queued hqueue hcache false
  | @defer j e _ timeMs adv advArm _ _ he _ _ =>
    have hnew : e ∉ p.timerEventsList := fun hmem => (hok.events e).2 hmem he
    have hinit : Linked (p.initTimerEvent j e timeMs adv) := h.same rfl
    have hset : Linked (((p.initTimerEvent j e timeMs adv).insertTimerEvent e).setStatus j .deferred) :=
      (hinit.insertTimerEvent hnew).same rfl
    obtain ⟨timer, now, heq⟩ := insertDeferred_rest (p := p) (j := j) (e := e) timeMs adv advArm
    rw [heq]
    exact hset.peekHeadEvent.same rfl
  | @recycle j job _ _ hi _ _ _ =>
    have hwiped : Linked { p with
        jobs := Function.update p.jobs j (some (wiped job))
        freeCount := p.freeCount + 1 } := h.same rfl
    exact (hwiped.cacheTail hi.queue hi.cache).same rfl
  | destroyJob _ _ _ hq =>
    obtain ⟨x, -, rfl⟩ := destroyJob_left hq
    exact h.same rfl
  | setMaxThreads => exact h.same (postDispatches_listing _)
  | rest => exact h.same (thinned_listing false)
  | idle =>
    have hthin : Linked (p.thinned true) := h.same (thinned_listing true)
    exact hthin.dequeue.same rfl
  | take =>
    have hthin : Linked (p.thinned true) := h.same (thinned_listing true)
    exact hthin.dequeue.same rfl
  | nextIdle =>
    have hless : Linked { p with activeJobs := p.activeJobs - 1 } := h.same rfl
    exact hless.dequeue.same rfl
  | nextTake =>
    have hless : Linked { p with activeJobs := p.activeJobs - 1 } := h.same rfl
    exact hless.dequeue.same rfl
  | dropQueued _ hd =>
    obtain ⟨x, -, rfl⟩ := destroyJob_left hd
    exact h.dequeue.same rfl
  | queueEmpty => exact h.dequeue
  | dropEvent _ hd =>
    obtain ⟨ev, x, -, -, rfl⟩ := dropEvent_cases hd
    exact h.removeHeadEvent.same rfl
  | timerEmpty => exact h.removeHeadEvent
  | dropCached _ hd =>
    obtain ⟨x, -, rfl⟩ := destroyJob_left hd
    exact h.fetch.same rfl
  | signal => exact h.same (postDispatches_listing _)
  | _ => exact h.same rfl

/-! ## Runs -/

variable {pInfo : TaskPoolInfo} {p₀ : Pool} {tr : List (Entry Pool PoolCall (Option Ret))}

theorem Fresh.linked (h : Fresh pInfo p) : Linked p := by
  have hnil : Held (fun _ => Link.null) [] (fun _ : Node => none) := held_nil .null
  have hqueue := hnil.snoc (.create (h := .dispatchQueue) ?_)
  have htimer := hqueue.snoc (.create (h := .timerEventsList) ?_)
  have hfree := htimer.snoc (.create (h := .freeList) ?_)
  · have hrings : p.rings = Function.update (Function.update (Function.update (fun _ : Node => none)
        .dispatchQueue (some [])) .timerEventsList (some [])) .freeList (some []) := by
      rw [h.pool]
      funext n
      cases n <;> rfl
    rw [Linked, hrings, h.pool]
    exact hfree
  all_goals
    intro n xs hxs hmem
    cases n <;> simp_all [Function.update]

/-- **The lists in the memory**: the calls of the functions on lists that the pool makes in a run, on links of which
none is linked before, return what the pool takes them to return, and after them the links in the jobs and timer
events hold the lists of the pool. -/
theorem run_linked (hp : Created pInfo p₀) (hrun : Exec taskPool p₀ tr p) :
    ∃ n, ∀ fuel, n ≤ fuel → ∃ tr' m, Exec (containers Node fuel) (fun _ => Link.null) tr' m ∧
      tr'.map (fun e => (e.inp, e.out)) = p.calls ∧ m.Represents p.rings :=
  (run_inv hp Fresh.linked (fun hok h hm => linked_move hok h hm) hrun).2

/-- A job is scheduled and another deferred. -/
theorem run_linked_onePool :
    let p := onePool.after [.createJob (some 7) 0 (some 1), .createJob (some 7) 0 (some 2),
      .schedule (some 1) 0 false 0, .scheduleDeferred (some 2) 20 false (some 8) ⟨0, 0, 0⟩]
    p.rings .dispatchQueue = some [.job 1] ∧ p.rings .timerEventsList = some [.timerEvent 8] ∧
      ∃ n, ∀ fuel, n ≤ fuel → ∃ tr' m, Exec (containers Node fuel) (fun _ => Link.null) tr' m ∧
        tr'.map (fun e => (e.inp, e.out)) = p.calls ∧ m.Represents p.rings := by
  intro p
  have hrun : Exec taskPool onePool _ p := exec?_getD rfl
  exact ⟨rfl, rfl, run_linked onePool_created hrun⟩

end TaskPool
