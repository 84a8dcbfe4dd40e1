import Mathlib.Data.List.Basic
import Mathlib.Tactic.SplitIfs
import ResourceTree.Number.FloatText
import ResourceTree.Text.Quoted

/-!
# Texts that stand on one line

Numbers and quoted texts are printed without line breaks, whatever they hold, and so is what is put
together from them.
-/

namespace ResourceTree
set_option autoImplicit false

namespace Text

/-- A character that belongs to a line break. -/
def IsBreak (c : Char) : Prop := c = '\n' ∨ c = '\r'

instance (c : Char) : Decidable (IsBreak c) := inferInstanceAs (Decidable (_ ∨ _))

instance (cs : List Char) : Decidable (∀ c ∈ cs, ¬ IsBreak c) := List.decidableBAll _ cs

/-- The text stands on one line. -/
def Unbroken (s : String) : Prop := ∀ c ∈ s.toList, ¬ IsBreak c

instance (s : String) : Decidable (Unbroken s) :=
  inferInstanceAs (Decidable (∀ c ∈ s.toList, ¬ IsBreak c))

theorem unbroken_ofList {cs : List Char} (each : ∀ c ∈ cs, ¬ IsBreak c) :
    Unbroken (String.ofList cs) := by
  rwa [Unbroken, String.toList_ofList]

/-- Texts without breaks have none when they are joined. -/
theorem Unbroken.append {s t : String} (first : Unbroken s) (second : Unbroken t) :
    Unbroken (s ++ t) := by
  rw [Unbroken, String.toList_append]
  exact List.forall_mem_append.2 ⟨first, second⟩

/-- A text without breaks holds no character that is one. -/
theorem Unbroken.not_mem {s : String} {c : Char} (whole : Unbroken s) (broken : IsBreak c) :
    c ∉ s.toList := fun member => whole c member broken

/-- What stands on one line adds no break in front of a text. -/
theorem Unbroken.mem_append {s : String} {c : Char} (first : Unbroken s) (broken : IsBreak c)
    (t : String) : c ∈ (s ++ t).toList ↔ c ∈ t.toList := by
  rw [String.toList_append, List.mem_append, or_iff_right (first.not_mem broken)]

/-- A break in a joined text stands in the part that is not known to have none. -/
theorem Unbroken.mem_append_left {t : String} {c : Char} (second : Unbroken t) (broken : IsBreak c)
    (s : String) : c ∈ (s ++ t).toList ↔ c ∈ s.toList := by
  rw [String.toList_append, List.mem_append, or_iff_left (second.not_mem broken)]

/-- Line breaks are no letters, so that a text in lower case has those of the text. -/
theorem Unbroken.of_toLower {s : String} (lower : Unbroken s.toLower) : Unbroken s := by
  intro c member broken
  refine lower.not_mem broken ?_
  have same : c.toLower = c := by rcases broken with rfl | rfl <;> decide
  show c ∈ (s.map Char.toLower).toList
  rw [String.toList_map, ← same]
  exact List.mem_map_of_mem member

/-! ## Numbers -/

theorem not_isBreak_toDigits (n : Nat) : ∀ c ∈ Nat.toDigits 10 n, ¬ IsBreak c := by
  intro c member broken
  have digit : c.isDigit = true := Nat.isDigit_of_mem_toDigits (by decide) (by decide) member
  rcases broken with rfl | rfl <;> exact absurd digit (by decide)

/-- A natural number is printed on one line. -/
theorem unbroken_nat (n : Nat) : Unbroken (toString n) := by
  rw [Nat.toString_eq_ofList_toDigits]
  exact unbroken_ofList (not_isBreak_toDigits n)

/-- A number is printed on one line, with its sign. -/
theorem unbroken_int (n : Int) : Unbroken (toString n) := by
  cases n with
  | ofNat n => exact unbroken_nat n
  | negSucc n => exact .append (by decide) (unbroken_nat (n + 1))

theorem not_isBreak_digitChar : ∀ d < 16, ¬ IsBreak d.digitChar := by decide

/-- Digits to the base sixteen are no breaks. -/
theorem not_isBreak_hex (n : Nat) : ∀ c ∈ hex n, ¬ IsBreak c := by
  unfold hex
  induction n using Nat.strongRecOn with
  | ind n ih =>
    rcases Nat.lt_or_ge n 16 with small | large
    · rw [Nat.toDigits_of_lt_base small, List.forall_mem_singleton]
      exact not_isBreak_digitChar n small
    · rw [Nat.toDigits_of_base_le (by decide) large, List.forall_mem_append,
        List.forall_mem_singleton]
      exact ⟨ih (n / 16) (by omega), not_isBreak_digitChar _ (Nat.mod_lt n (by decide))⟩

/-! ## Quoted texts -/

/-- A character that is quoted as itself is none of a line break: those have escapes of their own. -/
theorem not_isBreak_quoteChar (c : Char) : ∀ d ∈ quoteChar c, ¬ IsBreak d := by
  unfold quoteChar
  split_ifs with quote slash tab feed back zero unprinted
  any_goals decide
  · rw [List.forall_mem_append, List.forall_mem_append]
    exact ⟨⟨by decide, not_isBreak_hex _⟩, by decide⟩
  · rw [List.forall_mem_singleton]
    exact not_or.2 ⟨feed, back⟩

/-- A quoted text stands on one line, since breaks in it are escaped. -/
theorem unbroken_quoted (s : String) : Unbroken (quoted s) := by
  refine unbroken_ofList ?_
  rw [List.forall_mem_append, List.forall_mem_append, List.forall_mem_flatMap]
  exact ⟨⟨by decide, fun c _ => not_isBreak_quoteChar c⟩, by decide⟩

end Text

/-! ## Doubles -/

namespace Number

open Text (IsBreak Unbroken not_isBreak_toDigits unbroken_nat unbroken_ofList)

theorem not_isBreak_zeros (n : Nat) : ∀ c ∈ List.replicate n '0', ¬ IsBreak c := by
  intro c member
  rw [List.eq_of_mem_replicate member]
  decide

/-- A decimal that is set out positionally stands on one line. -/
theorem Decimal.unbroken_positional (d : Decimal) (keepsPoint : Bool) :
    Unbroken (d.positional keepsPoint) := by
  have digits := not_isBreak_toDigits d.digits
  unfold positional
  split
  · refine unbroken_ofList ?_
    rw [List.forall_mem_append, List.forall_mem_append]
    exact ⟨⟨digits, not_isBreak_zeros _⟩, by split <;> decide⟩
  · refine unbroken_ofList ?_
    have padded : ∀ zeros, ∀ c ∈ List.replicate zeros '0' ++ Nat.toDigits 10 d.digits, ¬ IsBreak c :=
      fun zeros => List.forall_mem_append.2 ⟨not_isBreak_zeros zeros, digits⟩
    rw [List.forall_mem_append, List.forall_mem_append]
    exact ⟨⟨fun c member => padded _ c (List.mem_of_mem_take member), by decide⟩,
      fun c member => padded _ c (List.mem_of_mem_drop member)⟩

/-- So does one with an exponent, if the mark of the exponent does. -/
theorem Decimal.unbroken_scientific (d : Decimal) {exponentMark : String}
    (mark : Unbroken exponentMark) : Unbroken (d.scientific exponentMark) := by
  have digits := not_isBreak_toDigits d.digits
  refine .append (.append (unbroken_ofList ?_) ?_) (unbroken_nat _)
  · rw [List.forall_mem_append]
    refine ⟨fun c member => digits c (List.mem_of_mem_take member), ?_⟩
    split
    · exact List.forall_mem_nil _
    · rw [List.forall_mem_append]
      exact ⟨by decide, fun c member => digits c (List.mem_of_mem_drop member)⟩
  · split
    · decide
    · exact mark

/-- A double is printed on one line in every style whose words stand on one. -/
theorem FloatStyle.unbroken_text (style : FloatStyle) (mark : Unbroken style.exponentMark)
    (nan : Unbroken style.nan) (infinity : Unbroken style.infinity) (x : Float) :
    Unbroken (style.text x) := by
  unfold text
  split
  · exact nan
  · exact .append (by split <;> decide) infinity
  · refine .append (by split <;> decide) ?_
    split
    · exact Decimal.unbroken_positional _ _
    · exact Decimal.unbroken_scientific _ mark

end Number

end ResourceTree
