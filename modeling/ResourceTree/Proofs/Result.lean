/-!
# Computations that succeed

When the steps of a computation that may be refused come to a result. A proof about a decoder or a
router takes its success apart with these and gets the results of the steps. What it may be refused
for is what its steps may be refused for.
-/

namespace ResourceTree
set_option autoImplicit false

variable {ε ε' α β : Type}

/-- Two steps succeed if the first one does and the second one does on its result. -/
theorem bind_eq_ok {x : Except ε α} {f : α → Except ε β} {b : β} :
    x >>= f = .ok b ↔ ∃ a, x = .ok a ∧ f a = .ok b := by
  cases x with
  | error e => exact ⟨fun h => (by cases h), fun ⟨_, h, _⟩ => (by cases h)⟩
  | ok a => exact ⟨fun h => ⟨a, rfl, h⟩, fun ⟨a', h, h'⟩ => by cases h; exact h'⟩

/-- What is done with a result does not make a computation fail. -/
theorem map_eq_ok {x : Except ε α} {f : α → β} {b : β} :
    f <$> x = .ok b ↔ ∃ a, x = .ok a ∧ f a = b := by
  cases x with
  | error e => exact ⟨fun h => (by cases h), fun ⟨_, h, _⟩ => (by cases h)⟩
  | ok a => exact ⟨fun h => ⟨a, rfl, Except.ok.inj h⟩, fun ⟨a', h, h'⟩ => by cases h; rw [← h']; rfl⟩

theorem pure_eq_ok {a b : α} : (pure a : Except ε α) = .ok b ↔ a = b :=
  ⟨Except.ok.inj, congrArg _⟩

theorem mapError_eq_ok {x : Except ε α} {f : ε → ε'} {a : α} :
    x.mapError f = .ok a ↔ x = .ok a := by
  cases x with
  | error e => exact ⟨fun h => (by cases h), fun h => by cases h⟩
  | ok a' => exact ⟨fun h => congrArg _ (Except.ok.inj h), fun h => congrArg _ (Except.ok.inj h)⟩

/-- The computation is refused for nothing but what has a property. -/
def RefusedFor (P : ε → Prop) (x : Except ε α) : Prop := ∀ e, x = .error e → P e

namespace RefusedFor

variable {P : ε → Prop} {x : Except ε α}

theorem ok (a : α) : RefusedFor P (.ok a) := fun _ h => by cases h

theorem error {e : ε} (holds : P e) : RefusedFor P (.error e : Except ε α) := by
  rintro _ ⟨⟩
  exact holds

/-- Two steps are refused for what either of them is refused for. -/
theorem bind {f : α → Except ε β} (first : RefusedFor P x) (second : ∀ a, RefusedFor P (f a)) :
    RefusedFor P (x >>= f) := by
  cases x with
  | ok a => exact second a
  | error e => exact error (first e rfl)

theorem map (f : α → β) (only : RefusedFor P x) : RefusedFor P (f <$> x) := by
  cases x with
  | ok a => exact ok (f a)
  | error e => exact error (only e rfl)

/-- Wrapped errors have a property if that of the errors themselves entails it. -/
theorem mapError {Q : ε' → Prop} {f : ε → ε'} (only : RefusedFor P x) (each : ∀ e, P e → Q (f e)) :
    RefusedFor Q (x.mapError f) := by
  cases x with
  | ok a => exact ok a
  | error e => exact error (each e (only e rfl))

/-- A list is refused for what its items are refused for. -/
theorem mapM {f : α → Except ε β} (each : ∀ a, RefusedFor P (f a)) (as : List α) :
    RefusedFor P (as.mapM f) := by
  induction as with
  | nil => exact ok []
  | cons a as ih =>
    rw [List.mapM_cons]
    exact (each a).bind fun b => ih.bind fun bs => ok (b :: bs)

theorem any (x : Except ε α) : RefusedFor (fun _ => True) x := fun _ _ => trivial

/-- A test that fails is the only cause there is. -/
theorem ite {c : Prop} [Decidable c] {e : ε} (holds : P e) (a : α) :
    RefusedFor P (if c then .error e else .ok a) := by
  split
  · exact error holds
  · exact ok a

end RefusedFor

end ResourceTree
