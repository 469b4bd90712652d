import TrustZone.TaskPool.TaskPool

/-!
# The life of a job

What the pool does to one job: an automaton over the phases that a job goes through, with the events that it
logs. It is stated for itself and names no list, worker or clock.

* `Life.balance`: what is accepted is called, withdrawn or dropped later, and each only once.
* `Life.renewed`: a job is not called twice without being made again in between.
-/

namespace TaskPool

inductive Phase
  | absent
  | ready
  | queued
  /-- Scheduled, but not queued: no worker could be made for it. -/
  | refused
  | deferred
  /-- A worker took it. -/
  | called
  | canceled
  | wiped
  deriving DecidableEq

namespace PoolEvent

def pJob : PoolEvent → JobId
  | .created pJob | .accepted pJob | .refused pJob | .recycled pJob => pJob
  | .dispatched pJob _ => pJob
  | .withdrawn pJob _ | .dropped pJob _ => pJob

def accepts : PoolEvent → Bool
  | .accepted _ => true
  | _ => false

/-- A worker took the job. -/
def calls : PoolEvent → Bool
  | .dispatched _ _ => true
  | _ => false

/-- The job does not wait any more. -/
def settles : PoolEvent → Bool
  | .dispatched _ _ | .withdrawn _ _ | .dropped _ _ => true
  | _ => false

/-- The job is made, or disposed of. -/
def renews : PoolEvent → Bool
  | .created _ | .recycled _ => true
  | _ => false

end PoolEvent

namespace Phase

/-- The job can be scheduled. -/
def Open (a : Phase) : Prop := a = .ready ∨ a = .canceled ∨ a = .wiped

/-- The job waits to be called. -/
def pending : Phase → Bool
  | .queued | .deferred => true
  | _ => false

end Phase

/-- A step in the life of a job. -/
inductive LifeStep (j : JobId) : Phase → List PoolEvent → Phase → Prop
  | create {a : Phase} : a.pending = false → LifeStep j a [.created j] .ready
  | cancel {a : Phase} : a = .ready ∨ a = .canceled → LifeStep j a [] .canceled
  | accept {a b : Phase} : a.Open → b.pending = true → LifeStep j a [.accepted j] b
  | refuse {a : Phase} : a.Open → LifeStep j a [.refused j] .refused
  | fire : LifeStep j .deferred [] .queued
  | take {running : Bool} : LifeStep j .queued [.dispatched j running] .called
  | withdraw {a : Phase} {status : JobStatus} : a.pending = true → LifeStep j a [.withdrawn j status] .canceled
  | recycle {a b : Phase} : a.Open ∨ a = .called → b = .absent ∨ b = .wiped → LifeStep j a [.recycled j] b
  | drop {a b : Phase} {status : JobStatus} : a.pending = true → b = .absent ∨ b = .wiped →
    LifeStep j a [.dropped j status, .recycled j] b

/-- A life so far, with what was logged of it. -/
inductive Life (j : JobId) : List PoolEvent → Phase → Prop
  | start : Life j [] .absent
  | step {es es' : List PoolEvent} {a b : Phase} : Life j es a → LifeStep j a es' b → Life j (es ++ es') b

variable {j : JobId} {es : List PoolEvent} {a b : Phase}

theorem Phase.Open.not_pending (h : a.Open) : a.pending = false := by
  obtain rfl | rfl | rfl := h
  · rfl
  · rfl
  · rfl

theorem LifeStep.balance (h : LifeStep j a es b) :
    es.countP PoolEvent.accepts + a.pending.toNat = es.countP PoolEvent.settles + b.pending.toNat := by
  cases h with
  | create ha =>
    rw [ha]
    rfl
  | cancel ha => obtain rfl | rfl := ha <;> rfl
  | accept ha hb =>
    rw [ha.not_pending, hb]
    rfl
  | refuse ha =>
    rw [ha.not_pending]
    rfl
  | fire => rfl
  | take => rfl
  | withdraw ha =>
    rw [ha]
    rfl
  | recycle ha hb =>
    have hpend : a.pending = false := by
      obtain ha | rfl := ha
      · exact ha.not_pending
      · rfl
    rw [hpend]
    obtain rfl | rfl := hb <;> rfl
  | drop ha hb =>
    rw [ha]
    obtain rfl | rfl := hb <;> rfl

/-- **What is accepted** was called, withdrawn or dropped, or it waits. -/
theorem Life.balance (h : Life j es a) :
    es.countP PoolEvent.accepts = es.countP PoolEvent.settles + a.pending.toNat := by
  induction h with
  | start => rfl
  | step _ hs ih =>
    have hstep := hs.balance
    rw [List.countP_append, List.countP_append]
    omega

/-- A call is followed by a new beginning. -/
def Renewed (es : List PoolEvent) : Prop := es.IsChain fun e e' => e.calls = true → e'.renews = true

/-- The steps of a job that was called, and of one that is called. -/
theorem LifeStep.renewed (h : LifeStep j a es b) : Renewed es ∧
    (a = .called → ∃ e, es.head? = some e ∧ e.renews = true) ∧
    (∀ e, es.getLast? = some e → e.calls = true → b = .called) := by
  cases h with
  | create ha => exact ⟨.singleton _, fun _ => ⟨_, rfl, rfl⟩, by simp [PoolEvent.calls]⟩
  | cancel ha =>
    refine ⟨.nil, ?_, by simp⟩
    rintro rfl
    simp at ha
  | accept ha hb =>
    refine ⟨.singleton _, ?_, by simp [PoolEvent.calls]⟩
    rintro rfl
    simp [Phase.Open] at ha
  | refuse ha =>
    refine ⟨.singleton _, ?_, by simp [PoolEvent.calls]⟩
    rintro rfl
    simp [Phase.Open] at ha
  | fire => exact ⟨.nil, by simp, by simp⟩
  | take => exact ⟨.singleton _, by simp, fun _ _ _ => rfl⟩
  | withdraw ha =>
    refine ⟨.singleton _, ?_, by simp [PoolEvent.calls]⟩
    rintro rfl
    cases ha
  | recycle ha hb => exact ⟨.singleton _, fun _ => ⟨_, rfl, rfl⟩, by simp [PoolEvent.calls]⟩
  | drop ha hb =>
    refine ⟨List.isChain_pair.2 fun _ => rfl, ?_, by simp [PoolEvent.calls]⟩
    rintro rfl
    cases ha

/-- **A job is called once** each time it is made. -/
theorem Life.renewed (h : Life j es a) : Renewed es := by
  have hall : Renewed es ∧ ∀ e, es.getLast? = some e → e.calls = true → a = .called := by
    induction h with
    | start => exact ⟨.nil, by simp⟩
    | @step es es' a b _ hs ih =>
      obtain ⟨hchain, hlast⟩ := ih
      obtain ⟨hchain', hhead', hlast'⟩ := hs.renewed
      refine ⟨List.isChain_append.2 ⟨hchain, hchain', ?_⟩, ?_⟩
      · intro e he e' he' hcall
        obtain ⟨e'', hfirst, hrenews⟩ := hhead' (hlast e he hcall)
        obtain rfl := Option.some.inj (Eq.trans he'.symm hfirst)
        exact hrenews
      · intro e he hcall
        rcases es'.eq_nil_or_concat with rfl | ⟨l, x, rfl⟩
        · -- the phase may have changed, but not from a call
          rw [List.append_nil] at he
          obtain ⟨e', hfirst, -⟩ := hhead' (hlast e he hcall)
          cases hfirst
        · refine hlast' e ?_ hcall
          simpa using he
  exact hall.1

end TaskPool
