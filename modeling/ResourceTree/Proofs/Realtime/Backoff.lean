import Mathlib.Algebra.Order.Ring.Nat
import Mathlib.Data.List.Basic
import ResourceTree.Realtime.Backoff

/-!
# How long the delays of a policy are

Twice the delay for every attempt, up to the maximum: that is what a policy is meant to give. It keeps
two numbers from growing too large, and only one of the two limits is felt. A product that cannot be
represented lies above every maximum, so that giving the maximum for it is right. The factor, though,
stays where it is from the thirty-second attempt on, and a base that is small beside the maximum is
not doubled any further.
-/

namespace ResourceTree.ReconnectPolicy
set_option autoImplicit false

/-- The base with its factor, up to the maximum. -/
def limited (p : ReconnectPolicy) (attempt : Nat) : Nat :=
  min (p.baseDelay * min (2 ^ attempt) factorLimit) p.maxDelay

theorem factor_eq (attempt : Nat) :
    (if attempt < 32 then Nat.pow 2 attempt else factorLimit) = min (2 ^ attempt) factorLimit := by
  split
  · next few =>
    have low : 2 ^ attempt ≤ 2 ^ 31 := Nat.pow_le_pow_right (by decide) (by omega)
    exact (min_eq_left (low.trans (by decide))).symm
  · next many =>
    have high : 2 ^ 32 ≤ 2 ^ attempt := Nat.pow_le_pow_right (by decide) (by omega)
    exact (min_eq_right (le_trans (by decide) high)).symm

variable {p : ReconnectPolicy} {attempt : Nat}

theorem delayFor_eq_none_iff : p.delayFor attempt = none ↔ attempt = 0 ∨ p.maxRetries < attempt := by
  unfold delayFor
  split <;> simp_all

/-- A product beyond all delays is beyond the maximum. -/
theorem delayFor_eq_limited (representable : p.maxDelay < delayLimit) (first : 0 < attempt)
    (last : attempt ≤ p.maxRetries) : p.delayFor attempt = some (p.limited attempt) := by
  have allowed : ¬ (attempt = 0 ∨ p.maxRetries < attempt) := by omega
  simp only [delayFor, if_neg allowed, factor_eq, limited]
  split
  · rfl
  · next large =>
    rw [min_self, min_eq_right (representable.le.trans (Nat.not_lt.1 large))]

theorem limited_mono (p : ReconnectPolicy) {earlier later : Nat} (h : earlier ≤ later) :
    p.limited earlier ≤ p.limited later := by
  have power : 2 ^ earlier ≤ 2 ^ later := Nat.pow_le_pow_right (by decide) h
  exact min_le_min_right _ (Nat.mul_le_mul_left _ (min_le_min_right _ power))

/-- Where the limit of the factor is not felt. -/
theorem limited_eq_iff : p.limited attempt = min (p.baseDelay * 2 ^ attempt) p.maxDelay ↔
    attempt < 32 ∨ p.baseDelay = 0 ∨ p.maxDelay ≤ p.baseDelay * factorLimit := by
  rcases Nat.lt_or_ge attempt 32 with few | many
  · have free : min (2 ^ attempt) factorLimit = 2 ^ attempt := by
      rw [← factor_eq, if_pos few]
      rfl
    simp only [limited, free, few, true_or]
  · have held : min (2 ^ attempt) factorLimit = factorLimit := by
      rw [← factor_eq, if_neg (by omega)]
    have larger : factorLimit < 2 ^ attempt :=
      lt_of_lt_of_le (by decide) (Nat.pow_le_pow_right (by decide) many)
    simp only [limited, held, Nat.not_lt.2 many, false_or]
    constructor
    · intro same
      by_contra! short
      have longer : p.baseDelay * factorLimit < p.baseDelay * 2 ^ attempt :=
        Nat.mul_lt_mul_of_pos_left larger (Nat.pos_of_ne_zero short.1)
      rw [min_eq_left short.2.le] at same
      exact absurd same (lt_min longer short.2).ne
    · rintro (none | capped)
      · rw [none, Nat.zero_mul, Nat.zero_mul]
      · rw [min_eq_right capped,
          min_eq_right (capped.trans (Nat.mul_le_mul_left _ larger.le))]

/-- A schedule has an entry for every attempt that is allowed. -/
theorem schedule_eq (representable : p.maxDelay < delayLimit) :
    p.schedule = (List.range p.maxRetries).map fun i => p.limited (i + 1) := by
  refine List.filterMap_eq_map_iff_forall_eq_some.2 fun i member => ?_
  exact delayFor_eq_limited representable (by omega) (List.mem_range.1 member)

/-- A policy doubles its delays, up to the maximum, for as long as the factor is below its limit; from
then on only if the base is nothing or the maximum has been reached. In any case there is a delay for
every attempt that is allowed and for no other, no delay is shorter than the one before it, and none
is longer than the maximum. -/
theorem doubles_iff (p : ReconnectPolicy) (representable : p.maxDelay < delayLimit) :
    (∀ attempt, p.delayFor attempt = none ↔ attempt = 0 ∨ p.maxRetries < attempt) ∧
    (∀ attempt, 0 < attempt → attempt ≤ p.maxRetries →
      (p.delayFor attempt = some (min (p.baseDelay * 2 ^ attempt) p.maxDelay) ↔
        attempt < 32 ∨ p.baseDelay = 0 ∨ p.maxDelay ≤ p.baseDelay * (2 ^ 32 - 1)) ∧
      (32 ≤ attempt →
        p.delayFor attempt = some (min (p.baseDelay * (2 ^ 32 - 1)) p.maxDelay))) ∧
    p.schedule.map some = (List.range p.maxRetries).map (fun i => p.delayFor (i + 1)) ∧
    p.schedule.length = p.maxRetries ∧ p.schedule.Pairwise (· ≤ ·) ∧
    ∀ delay ∈ p.schedule, delay ≤ p.maxDelay := by
  refine ⟨fun _ => delayFor_eq_none_iff, fun attempt first last => ⟨?_, fun many => ?_⟩, ?_, ?_, ?_, ?_⟩
  · rw [delayFor_eq_limited representable first last, Option.some.injEq]
    exact limited_eq_iff
  · rw [delayFor_eq_limited representable first last, limited, ← factor_eq, if_neg (by omega)]
    rfl
  · rw [schedule_eq representable, List.map_map]
    refine List.map_congr_left fun i member => ?_
    exact (delayFor_eq_limited representable (by omega) (List.mem_range.1 member)).symm
  · rw [schedule_eq representable, List.length_map, List.length_range]
  · rw [schedule_eq representable, List.pairwise_map]
    exact List.pairwise_lt_range.imp fun h => p.limited_mono (by omega)
  · rw [schedule_eq representable]
    intro delay member
    obtain ⟨i, -, rfl⟩ := List.mem_map.1 member
    exact min_le_right _ _

/-- A policy whose last attempt is the first one that is not doubled. -/
def patient : ReconnectPolicy := { maxRetries := 32, baseDelay := 1, maxDelay := Nat.pow 2 32 }

theorem doubles_iff_patient :
    patient.maxDelay < delayLimit ∧ 0 < 31 ∧ 31 ≤ patient.maxRetries ∧
      patient.delayFor 31 = some (min (patient.baseDelay * 2 ^ 31) patient.maxDelay) := by
  have representable : patient.maxDelay < delayLimit := by decide
  have allowed : 31 ≤ patient.maxRetries := by decide
  obtain ⟨-, delays, -⟩ := doubles_iff patient representable
  exact ⟨representable, by decide, allowed, (delays 31 (by decide) allowed).1.2 (.inl (by decide))⟩

/-- The thirty-second delay is one millisecond short. -/
theorem last_delay_short : ¬ (patient.delayFor 32 =
    some (min (patient.baseDelay * 2 ^ 32) patient.maxDelay)) := by
  decide

end ResourceTree.ReconnectPolicy
