import Mathlib.Algebra.Group.Nat.Defs
import Mathlib.Data.List.Sort
import Mathlib.Logic.Function.Basic
import TrustZone.Lib.Runs
import TrustZone.TaskPool.LinearContainers

/-!
# The task pool (`iot_taskpool.c`)

What runs under the lock of the pool is one step, and so is what a thread does outside it: waking up, calling a
job, posting a semaphore. The lists hold the addresses of jobs and timer events. What a failed assertion or
the use of freed memory would follow does not return. Readings of the clock, new threads and memory are inputs
of a step.

`calls` and `log` record what was called on the lists and what became of the jobs, and `lost` how many posts of
`dispatchSignal` were over its maximum.
-/

namespace TaskPool

open Lib

/-- `IotTaskPoolError_t`. -/
inductive TaskPoolError
  | success
  | badParameter
  | illegalOperation
  | noMemory
  | shutdownInProgress
  | cancelFailed
  deriving DecidableEq

/-- `IotTaskPoolJobStatus_t`; `completed` is also the status of a job that executes. -/
inductive JobStatus
  | ready
  | scheduled
  | deferred
  | completed
  | canceled
  | undefined
  deriving DecidableEq

abbrev JobId := Nat
abbrev EventId := Nat

/-- The links: the heads of the lists, and the one that each job and timer event begins with. -/
inductive Node
  | dispatchQueue
  | timerEventsList
  | freeList
  | job (pJob : JobId)
  | timerEvent (pTimerEvent : EventId)
  deriving DecidableEq

structure Job where
  userCallback : Option Nat
  pUserContext : Nat
  /-- `IOT_TASK_POOL_INTERNAL_STATIC` of `flags`. -/
  isStatic : Bool
  status : JobStatus

structure TimerEvent where
  expirationTime : Nat
  pJob : JobId

/-- Where a worker is. -/
inductive Worker
  /-- In `IotSemaphore_TimedWait`. -/
  | waiting
  /-- The wait is over, and the lock not taken yet. -/
  | woken (jobAvailable : Bool)
  /-- With a job, outside the lock. -/
  | dispatched (pJob : JobId) (userCallback : Option Nat) (running : Bool)
  /-- In the callback of a job. -/
  | executing (pJob : JobId) (running : Bool)
  /-- Back from it, and the lock not taken yet. -/
  | finished
  /-- Out of the loop at a shutdown, before its post. -/
  | exiting
  | exited
  deriving DecidableEq

/-- What became of a job. -/
inductive PoolEvent
  /-- `_initializeJob`. -/
  | created (pJob : JobId)
  /-- A `Schedule` or `ScheduleDeferred` took it. -/
  | accepted (pJob : JobId)
  /-- A worker took it out of the queue. -/
  | dispatched (pJob : JobId) (running : Bool)
  /-- It was canceled in this status. -/
  | withdrawn (pJob : JobId) (status : JobStatus)
  /-- No worker could be made for it: it is neither queued nor ready. -/
  | refused (pJob : JobId)
  /-- A shutdown took it out of the queue or the timer list. -/
  | dropped (pJob : JobId) (status : JobStatus)
  /-- It was put in the cache or destroyed. -/
  | recycled (pJob : JobId)
  deriving DecidableEq

/-- A call of `IotTaskPool_Destroy` that waits for the workers. -/
structure Shutdown where
  /-- The waits that are left. -/
  waits : Nat
  completeShutdown : Bool

structure Pool where
  dispatchQueue : List JobId
  timerEventsList : List EventId
  freeList : List JobId
  freeCount : Nat
  minThreads : Nat
  maxThreads : Nat
  activeThreads : Nat
  activeJobs : BitVec 32
  dispatchSignal : Nat
  startStopSignal : Nat
  /-- The time for which the timer is armed. -/
  timer : Option Nat
  /-- The timer fired, and `_timerThread` is not over yet. -/
  timerThread : Bool
  jobs : JobId → Option Job
  timerEvents : EventId → Option TimerEvent
  workers : List Worker
  /-- What `IotClock_GetTimeMs` last returned. -/
  now : Nat
  shutdown : Option Shutdown
  destroyed : Bool
  lost : Nat
  calls : List (ContainerCall Node × ContainerRet Node)
  log : List PoolEvent

def TASKPOOL_MAX_SEM_VALUE : Nat := 0xFFFF

def TASKPOOL_JOB_RESCHEDULE_DELAY_MS : Nat := 10

def IOT_TASKPOOL_JOBS_RECYCLE_LIMIT : Nat := 8

namespace Pool

variable (p : Pool) (pJob : JobId)

/-! ## Lists -/

def call (c : ContainerCall Node) (r : ContainerRet Node) : Pool := { p with calls := p.calls ++ [(c, r)] }

def note (e : PoolEvent) : Pool := { p with log := p.log ++ [e] }

/-- The link of the job is in a list. -/
def isLinked : Bool := pJob ∈ p.dispatchQueue ∨ pJob ∈ p.freeList

/-- `IotLink_IsLinked` of the link of a job. -/
def linkIsLinked : Bool × Pool :=
  (p.isLinked pJob, p.call (.isLinked (.job pJob)) (.bool (p.isLinked pJob)))

/-- `IotDeQueue_Remove` and `IotListDouble_Remove`, of a job. -/
def remove : Pool :=
  { p with
    dispatchQueue := p.dispatchQueue.erase pJob
    freeList := p.freeList.erase pJob }.call (.remove (.job pJob)) .void

/-- `IotDeQueue_DequeueHead`. -/
def dequeueHead : Option JobId × Pool :=
  (p.dispatchQueue.head?, { p with dispatchQueue := p.dispatchQueue.tail }.call (.removeHead .dispatchQueue)
    (.link (p.dispatchQueue.head?.map .job)))

def enqueueHead : Pool :=
  { p with dispatchQueue := pJob :: p.dispatchQueue }.call (.insertHead .dispatchQueue (.job pJob)) .void

def enqueueTail : Pool :=
  { p with dispatchQueue := p.dispatchQueue ++ [pJob] }.call (.insertTail .dispatchQueue (.job pJob)) .void

/-- `IotListDouble_RemoveHead` of the cache. -/
def fetchHead : Option JobId × Pool :=
  (p.freeList.head?, { p with freeList := p.freeList.tail }.call (.removeHead .freeList)
    (.link (p.freeList.head?.map .job)))

def cacheTail : Pool :=
  { p with freeList := p.freeList ++ [pJob] }.call (.insertTail .freeList (.job pJob)) .void

def expirationTime (e : EventId) : Nat := (p.timerEvents e).elim 0 (·.expirationTime)

/-- `_timerEventCompare`. -/
def timerEventCompare (e₁ e₂ : EventId) : Int :=
  if p.expirationTime e₁ < p.expirationTime e₂ then -1
  else if p.expirationTime e₂ < p.expirationTime e₁ then 1 else 0

/-- `_timerEventCompare` of links. -/
def compareLinks : Node → Node → Int
  | .timerEvent e₁, .timerEvent e₂ => p.timerEventCompare e₁ e₂
  | _, _ => 0

/-- `IotListDouble_InsertSorted` of a timer event. -/
def insertTimerEvent (e : EventId) : Pool :=
  { p with timerEventsList := p.timerEventsList.orderedInsert (fun a b => p.timerEventCompare a b < 0) e }.call
    (.insertSorted .timerEventsList (.timerEvent e) p.compareLinks) .void

/-- `IotListDouble_Remove` and `IotTaskPool_FreeTimerEvent` of a timer event. -/
def removeTimerEvent (e : EventId) : Pool :=
  { p with
    timerEventsList := p.timerEventsList.erase e
    timerEvents := Function.update p.timerEvents e none }.call (.remove (.timerEvent e)) .void

/-- `IotListDouble_PeekHead` of the timer list. -/
def peekHeadEvent : Option EventId × Pool :=
  (p.timerEventsList.head?, p.call (.peekHead .timerEventsList) (.link (p.timerEventsList.head?.map .timerEvent)))

/-- `_matchJobByPointer`. -/
def matchJobByPointer (e : EventId) : Bool := (p.timerEvents e).elim false (·.pJob = pJob)

/-- `_matchJobByPointer` of a link. -/
def matchLink : Node → Bool
  | .timerEvent e => p.matchJobByPointer pJob e
  | _ => false

/-- `IotListDouble_FindFirstMatch` of a timer event of the job. -/
def findEvent : Option EventId × Pool :=
  let found := p.timerEventsList.find? (p.matchJobByPointer pJob)
  (found, p.call (.findFirstMatch .timerEventsList none (p.matchLink pJob)) (.link (found.map .timerEvent)))

/-! ## Jobs -/

def setStatus (status : JobStatus) : Pool :=
  { p with jobs := Function.update p.jobs pJob ((p.jobs pJob).map ({ · with status := status })) }

/-- `_initializeJob`. Without `isStatic` the flags stay; new memory is zero. -/
def initializeJob (userCallback : Option Nat) (pUserContext : Nat) (isStatic : Bool) : Pool :=
  let flag := isStatic || (p.jobs pJob).elim false (·.isStatic)
  { p with jobs := Function.update p.jobs pJob (some ⟨userCallback, pUserContext, flag, .ready⟩) }.note
    (.created pJob)

/-- What `_destroyJob` and `_recycleJob` leave of a job. -/
def wiped (job : Job) : Job := { job with userCallback := none, pUserContext := 0, status := .undefined }

/-- `_destroyJob`: a job that is not static is freed. -/
def destroyJob : Option Pool :=
  (p.jobs pJob).map fun job =>
    let left := if job.isStatic then some (wiped job) else none
    { p with jobs := Function.update p.jobs pJob left }.note (.recycled pJob)

/-- `_fetchOrAllocateJob`: from the cache, or from `malloc`, which does not give memory that is in use. -/
def fetchOrAllocateJob (malloc : Option JobId) : Option (Option JobId × Pool) :=
  match p.fetchHead with
  | (some pJob, p) =>
    if 0 < p.freeCount then some (some pJob, { p with freeCount := p.freeCount - 1 }) else none
  | (none, p) => if malloc.all fun pJob => (p.jobs pJob).isNone then some (malloc, p) else none

/-- `_recycleJob`. -/
def recycleJob : Option Pool :=
  let (linked, p) := p.linkIsLinked pJob
  if linked then none
  else if p.freeCount < IOT_TASKPOOL_JOBS_RECYCLE_LIMIT then
    (p.jobs pJob).map fun job =>
      let q := { p with
        jobs := Function.update p.jobs pJob (some (wiped job))
        freeCount := p.freeCount + 1 }
      (q.cacheTail pJob).note (.recycled pJob)
  else p.destroyJob pJob

/-! ## The clock and the timer -/

/-- `IotClock_GetTimeMs`, when the clock has moved on. -/
def readClock (adv : Nat) : Pool := { p with now := p.now + adv }

/-- `_rescheduleDeferredJobsTimer`. `IotClock_TimerArm` takes the delay as 32 bits and does not fail; how it is
rounded to ticks is left out. -/
def rescheduleDeferredJobsTimer (e : EventId) (adv : Nat) : Pool :=
  let p := p.readClock adv
  let delta := max (p.expirationTime e - p.now) TASKPOOL_JOB_RESCHEDULE_DELAY_MS
  { p with timer := some (p.now + delta % 2 ^ 32) }

/-! ## Cancellation -/

/-- The `deferred` case of `_tryCancelInternal`. -/
def cancelDeferred (adv : Nat) : Option Pool :=
  match p.findEvent pJob with
  | (none, _) => none
  | (some e, p) =>
    let (head, p) := p.peekHeadEvent
    let p := p.removeTimerEvent e
    if head = some e then
      match p.peekHeadEvent with
      | (some next, p) => some (p.rescheduleDeferredJobsTimer next adv)
      | (none, p) => some p
    else some p

/-- `_tryCancelInternal`, with the status at the cancellation. -/
def tryCancelInternal (adv : Nat) : Option (Pool × TaskPoolError × JobStatus) :=
  match p.jobs pJob with
  | none => none
  | some job =>
    match job.status with
    | .completed | .undefined => some (p, .cancelFailed, job.status)
    | .ready | .canceled => some (p.setStatus pJob .canceled, .success, job.status)
    | .scheduled =>
      let (linked, p) := (p.setStatus pJob .canceled).linkIsLinked pJob
      if linked then some ((p.remove pJob).note (.withdrawn pJob .scheduled), .success, .scheduled) else none
    | .deferred =>
      ((p.setStatus pJob .canceled).cancelDeferred pJob adv).map fun p =>
        (p.note (.withdrawn pJob .deferred), .success, .deferred)

/-- `_trySafeExtraction`. -/
def trySafeExtraction (atCompletion : Bool) (adv : Nat) : Option (Pool × TaskPoolError) :=
  match p.jobs pJob with
  | none => none
  | some job =>
    if atCompletion = false ∧ job.status = .completed then some (p, .illegalOperation)
    else if job.status = .scheduled ∨ job.status = .deferred then
      (p.tryCancelInternal pJob adv).map fun (p, error, _) =>
        (p, if error = .cancelFailed then .illegalOperation else error)
    else
      let (linked, p) := p.linkIsLinked pJob
      if linked then
        if job.isStatic = false then some (p.remove pJob, .success) else none
      else some (p, .success)

/-! ## Scheduling -/

/-- `_IsShutdownStarted`. -/
def isShutdownStarted : Bool := p.maxThreads = 0

/-- `IotSemaphore_Post` of `dispatchSignal`. -/
def postDispatch : Pool :=
  if p.dispatchSignal < TASKPOOL_MAX_SEM_VALUE then { p with dispatchSignal := p.dispatchSignal + 1 }
  else { p with lost := p.lost + 1 }

def postDispatches : Nat → Pool → Pool
  | 0, p => p
  | n + 1, p => postDispatches n p.postDispatch

/-- `_signalShutdown`. -/
def signalShutdown (threads : Nat) : Pool := postDispatches threads { p with maxThreads := 0 }

/-- `Iot_CreateDetachedThread`, and the wait until the worker has posted `startStopSignal`. -/
def grow : Pool := { p with workers := p.workers ++ [.waiting], activeThreads := p.activeThreads + 1 }

/-- `_scheduleInternal`, with the answer of `Iot_CreateDetachedThread`. The link of a job that is in a list
is not linked again. -/
def scheduleInternal (highPriority thread : Bool) : Option (Pool × TaskPoolError) :=
  match p.jobs pJob with
  | none => none
  | some _ =>
    let p := { p.setStatus pJob .scheduled with activeJobs := p.activeJobs + 1 }
    let busy : Bool := p.activeThreads ≤ p.activeJobs.toNat
    let mustGrow := busy && highPriority
    let shouldGrow := busy && !highPriority && decide (p.activeThreads < p.maxThreads)
    if mustGrow && !thread then some ({ p with activeJobs := p.activeJobs - 1 }.note (.refused pJob), .noMemory)
    else if p.isLinked pJob then none
    else
      let p := if (mustGrow || shouldGrow) && thread then p.grow else p
      let p := if mustGrow then p.enqueueHead pJob else p.enqueueTail pJob
      some (p.postDispatch, .success)

/-! ## The functions of the API -/

/-- What a function returns, and what it writes through its pointers. -/
structure Ret where
  error : TaskPoolError
  ppJob : Option JobId
  pStatus : Option JobStatus
  deriving DecidableEq

/-- An error, with nothing written. -/
def Ret.only (error : TaskPoolError) : Ret := ⟨error, none, none⟩

/-- The storage holds a job of the pool that is in a list, waits for its time, or is not the caller's. -/
def storageInUse : Bool :=
  p.isLinked pJob || p.timerEventsList.any (p.matchJobByPointer pJob) || (p.jobs pJob).any (!·.isStatic)

/-- `IotTaskPool_CreateJob`. What happens to storage that is in use is undefined. -/
def iotTaskPoolCreateJob (userCallback : Option Nat) (pUserContext : Nat) (pJobStorage : Option JobId) :
    Option (Pool × Ret) :=
  match userCallback, pJobStorage with
  | some _, some pJob =>
    if p.storageInUse pJob then none
    else some (p.initializeJob pJob userCallback pUserContext true, ⟨.success, some pJob, none⟩)
  | _, _ => some (p, .only .badParameter)

def iotTaskPoolCreateRecyclableJob (userCallback : Option Nat) (pUserContext : Nat) (malloc : Option JobId) :
    Option (Pool × Ret) :=
  if userCallback = none then some (p, .only .badParameter)
  else if p.isShutdownStarted then some (p, .only .shutdownInProgress)
  else
    match p.fetchOrAllocateJob malloc with
    | none => none
    | some (none, p) => some (p, .only .noMemory)
    | some (some pJob, p) =>
      some (p.initializeJob pJob userCallback pUserContext false, ⟨.success, some pJob, none⟩)

/-- `IotTaskPool_DestroyRecyclableJob` and `IotTaskPool_RecycleJob`: a job that is not static is taken out of
what it is in, and disposed of. -/
def disposeOf (pJob : Option JobId) (adv : Nat) (dispose : Pool → JobId → Option Pool) : Option (Pool × Ret) :=
  match pJob with
  | none => some (p, .only .badParameter)
  | some pJob =>
    if p.isShutdownStarted then some (p, .only .shutdownInProgress)
    else
      match p.jobs pJob with
      | none => none
      | some job =>
        if job.isStatic then some (p, .only .illegalOperation)
        else
          match p.trySafeExtraction pJob true adv with
          | none => none
          | some (p, error) =>
            if error = .success then
              let (linked, p) := p.linkIsLinked pJob
              if linked then none else (dispose p pJob).map fun p => (p, .only .success)
            else some (p, .only error)

def iotTaskPoolDestroyRecyclableJob (pJob : Option JobId) (adv : Nat) : Option (Pool × Ret) :=
  p.disposeOf pJob adv destroyJob

def iotTaskPoolRecycleJob (pJob : Option JobId) (adv : Nat) : Option (Pool × Ret) :=
  p.disposeOf pJob adv recycleJob

/-- `IOT_TASKPOOL_JOB_HIGH_PRIORITY`. -/
def IOT_TASKPOOL_JOB_HIGH_PRIORITY : BitVec 32 := 1

def iotTaskPoolSchedule (pJob : Option JobId) (flags : BitVec 32) (thread : Bool) (adv : Nat) :
    Option (Pool × Ret) :=
  match pJob with
  | none => some (p, .only .badParameter)
  | some pJob =>
    if flags ≠ 0 ∧ flags ≠ IOT_TASKPOOL_JOB_HIGH_PRIORITY then some (p, .only .badParameter)
    else if p.isShutdownStarted then some (p, .only .shutdownInProgress)
    else
      match p.trySafeExtraction pJob false adv with
      | none => none
      | some (p, error) =>
        if error = .success then
          (p.scheduleInternal pJob (flags = IOT_TASKPOOL_JOB_HIGH_PRIORITY) thread).map fun (p, error) =>
            (if error = .success then p.note (.accepted pJob) else p, .only error)
        else some (p, .only error)

/-- The timer event that `IotTaskPool_ScheduleDeferred` has got is filled in. -/
def initTimerEvent (pTimerEvent : EventId) (timeMs : BitVec 32) (adv : Nat) : Pool :=
  let p := p.readClock adv
  { p with timerEvents := Function.update p.timerEvents pTimerEvent (some ⟨p.now + timeMs.toNat, pJob⟩) }

/-- What `IotTaskPool_ScheduleDeferred` does with a timer event it has got. -/
def insertDeferred (pTimerEvent : EventId) (timeMs : BitVec 32) (adv advArm : Nat) : Pool :=
  let p := ((p.initTimerEvent pJob pTimerEvent timeMs adv).insertTimerEvent pTimerEvent).setStatus pJob .deferred
  let (head, p) := p.peekHeadEvent
  if head = some pTimerEvent then p.rescheduleDeferredJobsTimer pTimerEvent advArm else p

/-- What the clock has moved on by at each of three readings. -/
structure Readings where
  extraction : Nat
  now : Nat
  arm : Nat

def iotTaskPoolScheduleDeferred (pJob : Option JobId) (timeMs : BitVec 32) (thread : Bool)
    (malloc : Option EventId) (adv : Readings) : Option (Pool × Ret) :=
  match pJob with
  | none => some (p, .only .badParameter)
  | some j =>
    if timeMs = 0 then p.iotTaskPoolSchedule pJob 0 thread adv.extraction
    else if p.isShutdownStarted then some (p, .only .shutdownInProgress)
    else
      match p.trySafeExtraction j false adv.extraction with
      | none => none
      | some (p, error) =>
        if error = .success then
          match malloc with
          | none => some (p, .only .noMemory)
          | some e =>
            if (p.timerEvents e).isSome then none
            else some ((p.insertDeferred j e timeMs adv.now adv.arm).note (.accepted j), .only .success)
        else some (p, .only .illegalOperation)

def iotTaskPoolGetStatus (pJob : Option JobId) : Option (Pool × Ret) :=
  match pJob with
  | none => some (p, .only .badParameter)
  | some pJob =>
    if p.isShutdownStarted then some (p, ⟨.shutdownInProgress, none, some .undefined⟩)
    else (p.jobs pJob).map fun job => (p, ⟨.success, none, some job.status⟩)

def iotTaskPoolTryCancel (pJob : Option JobId) (adv : Nat) : Option (Pool × Ret) :=
  match pJob with
  | none => some (p, .only .badParameter)
  | some pJob =>
    if p.isShutdownStarted then some (p, ⟨.shutdownInProgress, none, some .undefined⟩)
    else (p.tryCancelInternal pJob adv).map fun (p, error, status) => (p, ⟨error, none, some status⟩)

def iotTaskPoolSetMaxThreads (maxThreads : Nat) : Pool × Ret :=
  if maxThreads < p.minThreads ∨ maxThreads < 1 then (p, .only .badParameter)
  else if p.isShutdownStarted then (p, .only .shutdownInProgress)
  else (postDispatches (p.maxThreads - maxThreads) { p with maxThreads := maxThreads }, .only .success)

/-! ## The worker threads -/

def setWorker (i : Nat) (w : Worker) : Pool := { p with workers := p.workers.set i w }

/-- A worker that waits gets a signal, or its wait times out. -/
def workerWake (i : Nat) (jobAvailable : Bool) : Option Pool :=
  match p.workers[i]? with
  | some .waiting =>
    if jobAvailable then
      if 0 < p.dispatchSignal then
        some ({ p with dispatchSignal := p.dispatchSignal - 1 }.setWorker i (.woken true))
      else none
    else some (p.setWorker i (.woken false))
  | _ => none

/-- Whether the worker leaves after this round: the quota is exceeded, or nothing came for a while. -/
def retires (jobAvailable : Bool) : Bool :=
  p.maxThreads < p.activeThreads || !jobAvailable && p.minThreads < p.activeThreads

/-- A job that was just taken out of the queue. -/
def dispatch (i : Nat) (running : Bool) : Option Pool :=
  match p.dequeueHead with
  | (none, p) => some (p.setWorker i (if running then .waiting else .exited))
  | (some pJob, p) =>
    (p.jobs pJob).map fun job =>
      ((p.setStatus pJob .completed).setWorker i (.dispatched pJob job.userCallback running)).note
        (.dispatched pJob running)

/-- The first critical section of the loop of `_taskPoolWorker`. -/
def workerLock (i : Nat) : Option Pool :=
  match p.workers[i]? with
  | some (.woken jobAvailable) =>
    if p.isShutdownStarted then some ({ p with activeThreads := p.activeThreads - 1 }.setWorker i .exiting)
    else
      let retires := p.retires jobAvailable
      let p := if retires then { p with activeThreads := p.activeThreads - 1 } else p
      if jobAvailable then p.dispatch i !retires
      else some (p.setWorker i (if retires then .exited else .waiting))
  | _ => none

/-- The assertions, and the call of the callback. -/
def workerCall (i : Nat) : Option Pool :=
  match p.workers[i]? with
  | some (.dispatched pJob userCallback running) =>
    let (linked, p) := p.linkIsLinked pJob
    if linked ∨ userCallback = none ∨ p.jobs pJob = none then none
    else some (p.setWorker i (.executing pJob running))
  | _ => none

/-- The callback returns. -/
def workerReturn (i : Nat) : Option Pool :=
  match p.workers[i]? with
  | some (.executing _ running) => some (p.setWorker i (if running then .finished else .exited))
  | _ => none

/-- The critical section of the inner loop. -/
def workerNext (i : Nat) : Option Pool :=
  match p.workers[i]? with
  | some .finished => { p with activeJobs := p.activeJobs - 1 }.dispatch i true
  | _ => none

/-- The post of a worker that leaves at a shutdown. -/
def workerExit (i : Nat) : Option Pool :=
  match p.workers[i]? with
  | some .exiting =>
    some ({ p with startStopSignal := min (p.startStopSignal + 1) TASKPOOL_MAX_SEM_VALUE }.setWorker i .exited)
  | _ => none

/-! ## The timer thread -/

def timerFires : Option Pool :=
  if p.timer.isSome && !p.timerThread then some { p with timer := none, timerThread := true } else none

/-- What a round of the loop gets: how far the clock moved on at the two readings, and a thread. -/
structure Round where
  now : Nat
  arm : Nat
  thread : Bool

/-- The loop of `_timerThread`, whose rounds are counted down. -/
def timerLoop (rounds : Nat → Round) : Nat → Pool → Option Pool
  | 0, p => some p.peekHeadEvent.2
  | n + 1, p =>
    match p.peekHeadEvent with
    | (none, p) => some p
    | (some e, p) =>
      let p := p.readClock (rounds n).now
      if p.expirationTime e ≤ p.now then
        match p.timerEvents e with
        | none => none
        | some ev =>
          -- the event is freed only after the job is queued, which does not read it
          match (p.removeTimerEvent e).scheduleInternal ev.pJob false (rounds n).thread with
          | none => none
          | some (p, _) => timerLoop rounds n p
      else some (p.rescheduleDeferredJobsTimer e (rounds n).arm)

/-- `_timerThread`; at a shutdown it destroys the pool. -/
def timerThreadLock (rounds : Nat → Round) : Option Pool :=
  if p.timerThread then
    if p.isShutdownStarted then some { p with destroyed := true, timer := none, timerThread := false }
    else (timerLoop rounds p.timerEventsList.length p).map ({ · with timerThread := false })
  else none

/-! ## The shutdown -/

/-- The loops over the queue and the cache: every job is taken out and destroyed. -/
def clearQueue (p : Pool) : Option Pool :=
  (p.dispatchQueue.foldlM
    (fun (p : Pool) pJob => (p.dequeueHead.2.note (.dropped pJob .scheduled)).destroyJob pJob) p).map (·.dequeueHead.2)

def clearCache (p : Pool) : Option Pool :=
  (p.freeList.foldlM (fun (p : Pool) pJob => p.fetchHead.2.destroyJob pJob) p).map (·.fetchHead.2)

/-- `IotListDouble_RemoveHead` of the timer list. -/
def removeHeadEvent (p : Pool) : Pool :=
  { p with timerEventsList := p.timerEventsList.tail }.call (.removeHead .timerEventsList)
    (.link (p.timerEventsList.head?.map .timerEvent))

/-- The first timer event: its job is destroyed, and then it is freed. -/
def dropEvent (p : Pool) (e : EventId) : Option Pool :=
  match p.timerEvents e with
  | none => none
  | some ev =>
    match (p.removeHeadEvent.note (.dropped ev.pJob .deferred)).destroyJob ev.pJob with
    | none => none
    | some p => some { p with timerEvents := Function.update p.timerEvents e none }

def clearTimer (p : Pool) : Option Pool :=
  (p.timerEventsList.foldlM dropEvent p).map (·.removeHeadEvent)

/-- The critical section of `IotTaskPool_Destroy`. The events are taken out only if there is one. -/
def iotTaskPoolDestroy (adv : Nat) : Option Pool :=
  if p.shutdown.isSome then none
  else
    match p.clearQueue with
    | none => none
    | some q =>
      let timed : Option (Pool × Bool) :=
        match q.peekHeadEvent with
        | (none, q) => some (q, true)
        | (some e, q) =>
          let q := q.readClock adv
          q.clearTimer.map (·, !decide (q.expirationTime e ≤ q.now))
      match timed with
      | none => none
      | some (q, completeShutdown) =>
        q.clearCache.map fun q =>
          { q.signalShutdown p.activeThreads with shutdown := some ⟨p.activeThreads, completeShutdown⟩ }

/-- `IotSemaphore_Wait` of `startStopSignal` in the loop of `IotTaskPool_Destroy`. -/
def destroyWait : Option Pool :=
  match p.shutdown with
  | some ⟨waits + 1, completeShutdown⟩ =>
    if 0 < p.startStopSignal then
      some { p with startStopSignal := p.startStopSignal - 1, shutdown := some ⟨waits, completeShutdown⟩ }
    else none
  | _ => none

/-- The end of `IotTaskPool_Destroy`, with its assertions. -/
def destroyEnd : Option Pool :=
  match p.shutdown with
  | some ⟨0, completeShutdown⟩ =>
    if p.startStopSignal = 0 ∧ p.activeThreads = 0 then
      if completeShutdown then some { p with destroyed := true, timer := none, shutdown := none }
      else some { p with shutdown := none }
    else none
  | _ => none

end Pool

/-! ## The pool as a machine -/

/-- What happens next. -/
inductive PoolCall
  | createJob (userCallback : Option Nat) (pUserContext : Nat) (pJobStorage : Option JobId)
  | createRecyclableJob (userCallback : Option Nat) (pUserContext : Nat) (malloc : Option JobId)
  | destroyRecyclableJob (pJob : Option JobId) (adv : Nat)
  | recycleJob (pJob : Option JobId) (adv : Nat)
  | schedule (pJob : Option JobId) (flags : BitVec 32) (thread : Bool) (adv : Nat)
  | scheduleDeferred (pJob : Option JobId) (timeMs : BitVec 32) (thread : Bool) (malloc : Option EventId)
    (adv : Pool.Readings)
  | getStatus (pJob : Option JobId)
  | tryCancel (pJob : Option JobId) (adv : Nat)
  | setMaxThreads (maxThreads : Nat)
  | workerWake (i : Nat) (jobAvailable : Bool)
  | workerLock (i : Nat)
  | workerCall (i : Nat)
  | workerReturn (i : Nat)
  | workerNext (i : Nat)
  | workerExit (i : Nat)
  | timerFires
  | timerThread (rounds : Nat → Pool.Round)
  | destroy (adv : Nat)
  | destroyWait
  | destroyEnd

/-- A step that returns nothing. -/
def silent (p : Option Pool) : Option (Pool × Option Pool.Ret) := p.map (·, none)

/-- A function that returned. -/
def returned (x : Option (Pool × Pool.Ret)) : Option (Pool × Option Pool.Ret) := x.map fun (p, r) => (p, some r)

/-- The worker is in the callback of a job after which it leaves. -/
def Pool.lastJob (p : Pool) (i : Nat) : Bool :=
  match p.workers[i]? with
  | some (.executing _ running) => !running
  | _ => false

/-- A step of the pool. Once it is destroyed only a callback that still runs can return, on a worker that does
not look at the pool again. -/
def poolStep (p : Pool) (c : PoolCall) : Option (Pool × Option Pool.Ret) :=
  if p.destroyed then
    match c with
    | .workerReturn i => if p.lastJob i then silent (p.workerReturn i) else none
    | _ => none
  else
    match c with
    | .createJob userCallback pUserContext pJobStorage =>
      returned (p.iotTaskPoolCreateJob userCallback pUserContext pJobStorage)
    | .createRecyclableJob userCallback pUserContext malloc =>
      returned (p.iotTaskPoolCreateRecyclableJob userCallback pUserContext malloc)
    | .destroyRecyclableJob pJob adv => returned (p.iotTaskPoolDestroyRecyclableJob pJob adv)
    | .recycleJob pJob adv => returned (p.iotTaskPoolRecycleJob pJob adv)
    | .schedule pJob flags thread adv => returned (p.iotTaskPoolSchedule pJob flags thread adv)
    | .scheduleDeferred pJob timeMs thread malloc adv =>
      returned (p.iotTaskPoolScheduleDeferred pJob timeMs thread malloc adv)
    | .getStatus pJob => returned (p.iotTaskPoolGetStatus pJob)
    | .tryCancel pJob adv => returned (p.iotTaskPoolTryCancel pJob adv)
    | .setMaxThreads maxThreads => returned (some (p.iotTaskPoolSetMaxThreads maxThreads))
    | .workerWake i jobAvailable => silent (p.workerWake i jobAvailable)
    | .workerLock i => silent (p.workerLock i)
    | .workerCall i => silent (p.workerCall i)
    | .workerReturn i => silent (p.workerReturn i)
    | .workerNext i => silent (p.workerNext i)
    | .workerExit i => silent (p.workerExit i)
    | .timerFires => silent p.timerFires
    | .timerThread rounds => silent (p.timerThreadLock rounds)
    | .destroy adv => silent (p.iotTaskPoolDestroy adv)
    | .destroyWait => silent p.destroyWait
    | .destroyEnd => silent p.destroyEnd

def taskPool : Machine Pool PoolCall (Option Pool.Ret) := ⟨poolStep⟩

/-! ## Creation -/

/-- `IotTaskPoolInfo_t`. -/
structure TaskPoolInfo where
  minThreads : Nat
  maxThreads : Nat

/-- `_performTaskPoolParameterValidation`. -/
def performTaskPoolParameterValidation (pInfo : Option TaskPoolInfo) : TaskPoolError :=
  match pInfo with
  | none => .badParameter
  | some pInfo =>
    if pInfo.maxThreads < pInfo.minThreads ∨ pInfo.minThreads < 1 ∨ pInfo.maxThreads < 1 then .badParameter
    else .success

/-- `_initTaskPoolControlStructures`, which does not fail here: semaphores, mutex and timer are static. -/
def initTaskPoolControlStructures (pInfo : TaskPoolInfo) : Pool where
  dispatchQueue := []
  timerEventsList := []
  freeList := []
  freeCount := 0
  minThreads := pInfo.minThreads
  maxThreads := pInfo.maxThreads
  activeThreads := 0
  activeJobs := 0
  dispatchSignal := 0
  startStopSignal := 0
  timer := none
  timerThread := false
  jobs _ := none
  timerEvents _ := none
  workers := []
  now := 0
  shutdown := none
  destroyed := false
  lost := 0
  calls := [(.create .dispatchQueue, .void), (.create .timerEventsList, .void), (.create .freeList, .void)]
  log := []

/-- The loop of `_createTaskPool`: how many threads it creates, until one is refused. -/
def createThreads (threads : Nat → Bool) : Nat → Pool → Pool × Bool
  | 0, p => (p, true)
  | n + 1, p => if threads n then createThreads threads n p.grow else (p, false)

/-- `IotTaskPool_Create`: the pool, unless there is no memory for it or for a thread. The threads of a pool
that fails exit. -/
def iotTaskPoolCreate (pInfo : Option TaskPoolInfo) (malloc : Bool) (threads : Nat → Bool) :
    TaskPoolError × Option Pool :=
  match pInfo, performTaskPoolParameterValidation pInfo with
  | some pInfo, .success =>
    if malloc then
      match createThreads threads pInfo.minThreads (initTaskPoolControlStructures pInfo) with
      | (p, true) => (.success, some p)
      | (_, false) => (.noMemory, none)
    else (.noMemory, none)
  | _, error => (error, none)

end TaskPool
