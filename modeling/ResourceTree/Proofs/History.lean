/-!
# What holds along a history

A history is a list of steps that a state goes through one after the other. `Along` says something
of each step in the state that it comes to; what a single step keeps is carried through a whole
history here once and for all.
-/

namespace ResourceTree
set_option autoImplicit false

variable {σ α : Type} {step : σ → α → σ} {P Q : σ → α → Prop} {I : σ → Prop}

/-- Of each step of a history, something holds of the step and of the state that it comes to. -/
def Along (step : σ → α → σ) (P : σ → α → Prop) : σ → List α → Prop
  | _, [] => True
  | s, a :: rest => P s a ∧ Along step P (step s a) rest

instance decidableAlong [∀ s a, Decidable (P s a)] :
    ∀ (s : σ) (history : List α), Decidable (Along step P s history)
  | _, [] => .isTrue trivial
  | s, a :: rest => @instDecidableAnd _ _ _ (decidableAlong (step s a) rest)

/-- An invariant that the steps of a history keep holds at each of its stages. -/
theorem Along.invariant {s : σ} {history : List α} (along : Along step P s history) (start : I s)
    (keeps : ∀ s a, I s → P s a → I (step s a)) {stage : List α} (part : stage <+: history) :
    I (stage.foldl step s) := by
  induction stage generalizing s history with
  | nil => exact start
  | cons a stage ih =>
    obtain ⟨rest, rfl⟩ := part
    exact ih along.2 (keeps s a start along.1) (List.prefix_append _ _)

/-- Two properties of steps that agree under an invariant agree along histories, if the first of
them makes a step keep the invariant. -/
theorem along_iff_along {s : σ} (start : I s) (agree : ∀ s a, I s → (P s a ↔ Q s a))
    (keeps : ∀ s a, I s → P s a → I (step s a)) (history : List α) :
    Along step P s history ↔ Along step Q s history := by
  induction history generalizing s with
  | nil => exact Iff.rfl
  | cons a rest ih =>
    constructor
    · intro ⟨here, later⟩
      exact ⟨(agree s a start).1 here, (ih (keeps s a start here)).1 later⟩
    · intro ⟨here, later⟩
      have holds := (agree s a start).2 here
      exact ⟨holds, (ih (keeps s a start holds)).2 later⟩

end ResourceTree
