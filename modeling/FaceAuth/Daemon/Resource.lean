import FaceAuth.Daemon.EnrollmentEngine
import FaceAuth.Daemon.Engine

/-!
# The biometric resources

One arbiter lends the cameras and the models to one operation at a time, of
either engine. A lease ends when it is dropped, and only the lease that is
current at that time frees the resources.
-/

namespace FaceAuth

open Foundation

/-- The engines that share the cameras and the models. -/
inductive BiometricEngine where
  | authentication | enrollment
deriving DecidableEq, Repr

namespace BiometricEngine

/-- How many progress updates the job of an engine lets through. -/
def maxProgressUpdates : BiometricEngine → Nat
  | .authentication => AuthenticationEngine.MAX_PROGRESS_UPDATES
  | .enrollment => MAX_PROGRESS_UPDATES

/-- How many updates the channel of a job holds. -/
def updateQueueCapacity : BiometricEngine → Nat
  | .authentication => AuthenticationEngine.UPDATE_QUEUE_CAPACITY
  | .enrollment => UPDATE_QUEUE_CAPACITY

/-- The progress updates of a job and its terminal update fit its channel. -/
theorem maxProgressUpdates_lt (engine : BiometricEngine) :
    engine.maxProgressUpdates < engine.updateQueueCapacity := by
  cases engine <;> decide

end BiometricEngine

/-- Exact operation allowed to own the shared biometric hardware pipeline. -/
inductive BiometricResourceOwner where
  | authentication (transactionId : TransactionId)
  | enrollment (operationId : OperationId)
deriving DecidableEq, Repr

/-- Shared biometric pipeline could not be acquired. -/
inductive BiometricResourceError where
  | busy (owner : BiometricResourceOwner)
  | unavailable
deriving DecidableEq, Repr

/-- The lease that is out, and who holds it. -/
structure ActiveLease where
  generation : Nat
  owner : BiometricResourceOwner
deriving DecidableEq, Repr

/-- The arbiter that both engines share. -/
structure ArbiterState where
  nextGeneration : Nat
  active : Option ActiveLease
deriving DecidableEq, Repr

namespace ArbiterState

/-- Before the first lease. -/
def default : ArbiterState := ⟨0, none⟩

/-- Acquire exclusive ownership for one exact operation, under a generation of its own. -/
def tryAcquire (arbiter : ArbiterState) (owner : BiometricResourceOwner) :
    Except BiometricResourceError (Nat × ArbiterState) :=
  match arbiter.active with
  | some active => .error (.busy active.owner)
  | none =>
      match checkedAdd U64_MAX arbiter.nextGeneration 1 with
      | none => .error .unavailable
      | some generation => .ok (generation, ⟨generation, some ⟨generation, owner⟩⟩)

/-- Drop the lease of a generation. -/
def release (arbiter : ArbiterState) (generation : Nat) : ArbiterState :=
  if arbiter.active.any fun active => active.generation = generation then
    { arbiter with active := none }
  else arbiter

variable {arbiter after : ArbiterState} {owner : BiometricResourceOwner} {generation : Nat}

/-- The generation of the current lease. -/
def current (arbiter : ArbiterState) : Option Nat := arbiter.active.map ActiveLease.generation

/-- A lease that is out is not lent again. -/
theorem tryAcquire_of_active {active : ActiveLease} (taken : arbiter.active = some active) :
    arbiter.tryAcquire owner = .error (.busy active.owner) := by
  rw [tryAcquire, taken]

/-- A lease is lent when none is out, under the next generation. -/
theorem tryAcquire_eq_ok_iff :
    arbiter.tryAcquire owner = .ok (generation, after) ↔
      arbiter.active = none ∧ arbiter.nextGeneration + 1 ≤ U64_MAX ∧
        generation = arbiter.nextGeneration + 1 ∧
          after = ⟨generation, some ⟨generation, owner⟩⟩ := by
  unfold tryAcquire
  cases taken : arbiter.active with
  | some active => simp
  | none =>
      cases counted : checkedAdd U64_MAX arbiter.nextGeneration 1 with
      | none =>
          have spent := checkedAdd_eq_none_iff.mp counted
          simp
          omega
      | some next =>
          obtain ⟨fits, rfl⟩ := checkedAdd_eq_some_iff.mp counted
          simp only [Except.ok.injEq, Prod.mk.injEq, true_and]
          constructor
          · rintro ⟨rfl, rfl⟩
            exact ⟨fits, rfl, rfl⟩
          · rintro ⟨-, rfl, rfl⟩
            exact ⟨rfl, rfl⟩

/-- Dropping the current lease frees the resources. -/
theorem release_current (held : arbiter.current = some generation) :
    arbiter.release generation = { arbiter with active := none } := by
  obtain ⟨active, taken, rfl⟩ := Option.map_eq_some_iff.mp held
  simp [release, taken]

end ArbiterState

end FaceAuth
