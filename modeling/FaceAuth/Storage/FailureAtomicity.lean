import FaceAuth.Storage.Attempts

/-!
# What a failed mutation leaves behind

A mutation that fails before the rename leaves the container as it was. One that
fails after it has replaced the container all the same.
-/

namespace FaceAuth

open Foundation
open Foundation.Versioned (Cell Mutation Enabled)

/-- What a call promises about its failures: a failed call leaves what a load finds, no
call leaves a temporary file, and the container is whole at every point. -/
structure FailureAtomic (attempt : StoreAttempt) (text : PayloadText) (cipher : TemplateCipher)
    (directory : Directory) (operation : StoreOperation) : Prop where
  unchanged : ∀ error, (attempt.perform text cipher operation directory).result = .error error →
    loadWithGeneration text cipher (attempt.perform text cipher operation directory).state
        operation.uid =
      loadWithGeneration text cipher directory operation.uid
  tidy : ∀ name, name ≠ pathFor operation.uid → name ≠ lockPathFor operation.uid →
    (attempt.perform text cipher operation directory).state name ≠ none → directory name ≠ none
  whole : ∀ point ∈ (attempt.perform text cipher operation directory).points,
    Whole text cipher directory operation point

/-- The condition under which a call keeps its promise: when it comes to create its
temporary file, the directory is synchronized after the rename, and what is not renamed
can be removed. -/
def Recoverable (attempt : StoreAttempt) (text : PayloadText) (cipher : TemplateCipher)
    (directory : Directory) (operation : StoreOperation) : Prop :=
  attempt.Writes text cipher directory operation → attempt.Creates directory operation.uid →
    (attempt.Replaces → attempt.Synchronizes) ∧
      (¬ attempt.Replaces → attempt.failure .removeTemporary = none)

section Atomicity

variable {attempt : StoreAttempt} {text : PayloadText} {cipher : TemplateCipher}
  {directory : Directory} {operation : StoreOperation}

/-- A call that ends in time has changed nothing that a load finds. -/
theorem StoreAttempt.Performed.atomic {result : Except StorageError Nat} {after : Directory}
    (performed : attempt.Performed text cipher directory operation result after)
    (recoverable : Recoverable attempt text cipher directory operation) :
    (∀ error, result = .error error → loadWithGeneration text cipher after operation.uid =
        loadWithGeneration text cipher directory operation.uid) ∧
      ∀ name, name ≠ pathFor operation.uid → name ≠ lockPathFor operation.uid →
        after name ≠ none → directory name ≠ none := by
  cases performed with
  | refused error _ unwritten others =>
      refine ⟨fun _ _ => loadWithGeneration_congr (others _ (pathFor_ne_lockPathFor _)), ?_⟩
      intro name _ unlocked there
      rwa [others name unlocked] at there
  | written cell encoded outcome _ writes new ended =>
      have path := attempt.pathFor_ne_temporary operation.uid
      cases ended with
      | refused error _ uncreated others old =>
          refine ⟨fun _ _ => loadWithGeneration_congr ((others _ path).trans (locked_path _)), ?_⟩
          intro name _ unlocked there
          by_cases moved : name = attempt.temporary operation.uid
          · subst moved
            have before := old there
            rwa [locked_of_ne unlocked] at before
          · rwa [others name moved, locked_of_ne unlocked] at there
      | stopped error _ created unreplaced others left =>
          refine ⟨fun _ _ => loadWithGeneration_congr ((others _ path).trans (locked_path _)), ?_⟩
          intro name _ unlocked there
          by_cases moved : name = attempt.temporary operation.uid
          · subst moved
            have removed := (recoverable writes ((creates_locked _).mp created)).2 unreplaced
            exact absurd removed (left.mp there)
          · rwa [others name moved, locked_of_ne unlocked] at there
      | late error created replaces unsynced =>
          exact absurd ((recoverable writes ((creates_locked _).mp created)).1 replaces) unsynced
      | done created replaces synced =>
          refine ⟨fun error same => (by cases same), ?_⟩
          intro name other unlocked there
          by_cases moved : name = attempt.temporary operation.uid
          · subst moved
            simp [StoreAttempt.replaced] at there
          · rw [StoreAttempt.replaced, Function.update_of_ne moved, Function.update_of_ne other,
              locked_of_ne unlocked] at there
            exact there

/-- A call that has kept its promise was able to. -/
theorem StoreAttempt.Performed.recoverable {result : Except StorageError Nat} {after : Directory}
    (performed : attempt.Performed text cipher directory operation result after)
    (writes : attempt.Writes text cipher directory operation)
    (created : attempt.Creates directory operation.uid)
    (unchanged : ∀ error, result = .error error →
      loadWithGeneration text cipher after operation.uid =
        loadWithGeneration text cipher directory operation.uid)
    (tidy : after (attempt.temporary operation.uid) = none) :
    (attempt.Replaces → attempt.Synchronizes) ∧
      (¬ attempt.Replaces → attempt.failure .removeTemporary = none) := by
  cases performed with
  | refused error _ unwritten others => exact absurd writes unwritten
  | written cell encoded outcome _ _ new ended =>
      cases ended with
      | refused error _ uncreated others old =>
          exact absurd ((creates_locked _).mpr created) uncreated
      | stopped error _ _ unreplaced others left =>
          refine ⟨fun replaces => absurd replaces unreplaced, fun _ => ?_⟩
          apply Decidable.of_not_not
          intro refused
          exact left.mpr refused tidy
      | late error _ replaces unsynced =>
          obtain ⟨found, holds, enabled⟩ := writes.admitted
          rw [holds_unique holds new.1] at enabled
          have stored : attempt.replaced (locked directory operation.uid) operation.uid encoded
              (pathFor operation.uid) = some encoded := by
            rw [StoreAttempt.replaced,
              Function.update_of_ne (attempt.pathFor_ne_temporary operation.uid),
              Function.update_self]
          exact absurd (unchanged error rfl) (loadWithGeneration_changes new enabled stored)
      | done _ replaces synced =>
          exact ⟨fun _ => synced, fun unreplaced => absurd replaces unreplaced⟩

/-- **Failure atomicity.** A mutation keeps its promise exactly when, once it has created
its temporary file, either the directory is synchronized after the rename, or nothing was
renamed and the file can be removed. -/
theorem failureAtomic_iff (attempt : StoreAttempt) (text : PayloadText) (cipher : TemplateCipher)
    (directory : Directory) (operation : StoreOperation) :
    FailureAtomic attempt text cipher directory operation ↔
      Recoverable attempt text cipher directory operation := by
  have ensured : Stepwise.Ensures (attempt.perform text cipher operation) directory
      (Whole text cipher directory operation)
      (attempt.Performed text cipher directory operation) := attempt.perform_spec
  constructor
  · intro atomic writes created
    apply ensured.ended.recoverable writes created atomic.unchanged
    apply Decidable.of_not_not
    intro there
    have path := (attempt.pathFor_ne_temporary operation.uid).symm
    have lock := (attempt.lockPathFor_ne_temporary operation.uid).symm
    exact atomic.tidy _ path lock there created.2.2.2
  · intro recoverable
    obtain ⟨unchanged, tidy⟩ := ensured.ended.atomic recoverable
    exact ⟨unchanged, tidy, ensured.points⟩

end Atomicity

/-- Nothing is refused but the synchronization of the directory. -/
def StoreAttempt.unsynced : StoreAttempt where
  reading := fun _ => none
  failure := fun step =>
    if step = .syncDirectory then some (.io ⟨.other, "Input/output error (os error 5)"⟩) else none
  portions := []
  uuid := "5f0c"

/-- The first enrollment of an account fails when the directory is synchronized, and the
template is there. -/
theorem failureAtomic_unsynced :
    ¬ FailureAtomic .unsynced compactText plainCipher (fun _ => none)
      (.saveWithGeneration Nonce.test TemplateRecord.test) := by
  intro atomic
  have failed : (StoreAttempt.unsynced.perform compactText plainCipher
      (.saveWithGeneration Nonce.test TemplateRecord.test) (fun _ => none)).result =
        .error (.io ⟨.other, "Input/output error (os error 5)"⟩) := by
    decide +kernel
  have changed : loadWithGeneration compactText plainCipher
      (StoreAttempt.unsynced.perform compactText plainCipher
        (.saveWithGeneration Nonce.test TemplateRecord.test) (fun _ => none)).state 1000 ≠
      loadWithGeneration compactText plainCipher (fun _ => none) 1000 := by
    decide +kernel
  exact changed (atomic.unchanged _ failed)

end FaceAuth
