import ResourceTree.Number.DecimalText
import ResourceTree.Number.FloatText
import ResourceTree.Proofs.Instant.Digits
import ResourceTree.Proofs.Number.Doubles

/-!
# Decimals in texts

A decimal that is set out positionally or with an exponent is read as a decimal of the same value.
`double?_text` is the consequence for doubles: every double is read back from its own text.
-/

namespace ResourceTree.Number
set_option autoImplicit false

variable {cs whole fraction tail : List Char} {exponent : Int} {style : FloatStyle}

/-! ## Runs of digits -/

/-- Decimal digits and nothing else. -/
def AllDigits (cs : List Char) : Prop := ∀ c ∈ cs, c.isDigit = true

/-- A text that does not go on with a digit. -/
def EndsDigits (tail : List Char) : Prop := ∀ c ∈ tail.head?, c.isDigit = false

theorem AllDigits.append {cs ds : List Char} (left : AllDigits cs) (right : AllDigits ds) :
    AllDigits (cs ++ ds) :=
  fun c member => (List.mem_append.1 member).elim (left c) (right c)

theorem allDigits_toDigits (n : Nat) : AllDigits (Nat.toDigits 10 n) :=
  fun _ member => Nat.isDigit_of_mem_toDigits (by decide) (by decide) member

theorem allDigits_zeros (n : Nat) : AllDigits (List.replicate n '0') := by
  intro c member
  rw [List.eq_of_mem_replicate member]
  rfl

theorem isDigit_bounds {c : Char} (digit : c.isDigit = true) : 48 ≤ c.toNat ∧ c.toNat ≤ 57 := by
  simp only [Char.isDigit, Bool.and_eq_true, decide_eq_true_eq] at digit
  exact digit

theorem ne_of_isDigit {c d : Char} (digit : c.isDigit = true) (other : d.isDigit = false) : c ≠ d := by
  rintro rfl
  rw [digit] at other
  exact nomatch other

/-- A run of digits ends where something else begins. -/
theorem digitRun_append (digits : AllDigits cs) (ends : EndsDigits tail) :
    digitRun (cs ++ tail) = (cs, tail) := by
  rw [digitRun, List.takeWhile_append_of_pos digits, List.dropWhile_append_of_pos digits]
  cases tail with
  | nil => simp
  | cons c tail => simp [ends c rfl]

theorem digitValue?_of_isDigit {c : Char} (digit : c.isDigit = true) :
    digitValue? 10 c = some (c.toNat - '0'.toNat) := by
  obtain ⟨low, high⟩ := isDigit_bounds digit
  have zero : '0'.toNat = 48 := rfl
  rw [digitValue?]
  simp only [if_pos (And.intro low high), zero]
  exact if_pos (by omega)

/-- Digits are read as the number they spell. -/
theorem digitsValue?_digits (digits : AllDigits cs) (ne : cs ≠ []) :
    digitsValue? 10 cs = some (Nat.ofDigitChars 10 cs 0) := by
  have run (start : Nat) :
      cs.foldlM (fun n c => (digitValue? 10 c).map (n * 10 + ·)) start =
        some (Nat.ofDigitChars 10 cs start) := by
    clear ne
    induction cs generalizing start with
    | nil => rfl
    | cons c cs ih =>
      rw [List.foldlM_cons, digitValue?_of_isDigit (digits c List.mem_cons_self), Nat.ofDigitChars_cons,
        Nat.mul_comm 10 start]
      exact ih (fun d member => digits d (List.mem_cons_of_mem _ member)) _
  cases cs with
  | nil => exact absurd rfl ne
  | cons c cs => exact run 0

/-- A number is read back from its digits. -/
theorem digitsValue?_toDigits (n : Nat) : digitsValue? 10 (Nat.toDigits 10 n) = some n := by
  rw [digitsValue?_digits (allDigits_toDigits n) Nat.toDigits_ne_nil, Nat.ofDigitChars_ten_toDigits]

theorem takeSign_of_isDigit {c : Char} (digit : c.isDigit = true) (cs : List Char) :
    takeSign (c :: cs) = (false, c :: cs) := by
  have minus : c ≠ '-' := ne_of_isDigit digit rfl
  have plus : c ≠ '+' := ne_of_isDigit digit rfl
  rw [takeSign]
  · rintro _ ⟨⟩
    exact minus rfl
  · rintro _ ⟨⟩
    exact plus rfl

/-- The digits of a number have no sign. -/
theorem takeSign_toDigits (n : Nat) : takeSign (Nat.toDigits 10 n) = (false, Nat.toDigits 10 n) := by
  obtain ⟨c, cs, eq⟩ := List.exists_cons_of_ne_nil (Nat.toDigits_ne_nil (n := n) (b := 10))
  rw [eq]
  exact takeSign_of_isDigit (allDigits_toDigits n c (by rw [eq]; exact List.mem_cons_self)) cs

/-! ## The parts of a decimal -/

/-- Digits without a point are read as a whole number, scaled by the exponent. -/
theorem decimal?_whole (negative : Bool) (digits : AllDigits whole) (ne : whole ≠ []) (ends : EndsDigits tail)
    (noPoint : tail.head? ≠ some '.') (power : exponent? tail = some exponent) :
    decimal? negative (whole ++ tail) =
      some (nearestDecimal negative (Nat.ofDigitChars 10 whole 0) exponent) := by
  rw [decimal?, digitRun_append digits ends]
  simp only
  split
  · exact absurd rfl noPoint
  · simp only [List.append_nil, digitsValue?_digits digits ne, power, Option.bind_eq_bind,
      Option.bind_some, List.length_nil, Nat.cast_zero, sub_zero]
    rfl

/-- Digits with a point among them. -/
theorem decimal?_pointed (negative : Bool) (digits : AllDigits whole) (ne : whole ≠ []) (digits' : AllDigits fraction)
    (ends : EndsDigits tail) (power : exponent? tail = some exponent) :
    decimal? negative (whole ++ '.' :: (fraction ++ tail)) =
      some (nearestDecimal negative (Nat.ofDigitChars 10 (whole ++ fraction) 0)
        (exponent - fraction.length)) := by
  have point : EndsDigits ('.' :: (fraction ++ tail)) := by
    rintro c ⟨⟩
    rfl
  rw [decimal?, digitRun_append digits point]
  simp only [digitRun_append digits' ends,
    digitsValue?_digits (digits.append digits') (List.append_ne_nil_of_left_ne_nil ne _), power,
    Option.bind_eq_bind, Option.bind_some]
  rfl

/-- The text begins with a digit and is read as a decimal with the value of another one. -/
structure ReadsAs (negative : Bool) (text : List Char) (d : Decimal) : Prop where
  starts : ∃ c rest, text = c :: rest ∧ c.isDigit = true
  reads : ∃ read : Decimal, read.value = d.value ∧
    decimal? negative text = some (nearestDecimal negative read.digits read.exponent)

/-- What begins with digits begins with a digit. -/
theorem starts_append (digits : AllDigits whole) (ne : whole ≠ []) (tail : List Char) :
    ∃ c rest, whole ++ tail = c :: rest ∧ c.isDigit = true := by
  obtain ⟨c, cs, rfl⟩ := List.exists_cons_of_ne_nil ne
  exact ⟨c, cs ++ tail, rfl, digits c List.mem_cons_self⟩

theorem endsDigits_nil : EndsDigits [] := fun _ member => nomatch member

/-- Zeros behind the digits multiply by a power of ten. -/
theorem ofDigitChars_zeros (d n : Nat) :
    Nat.ofDigitChars 10 (Nat.toDigits 10 d ++ List.replicate n '0') 0 = 10 ^ n * d := by
  rw [Nat.ofDigitChars_append, Nat.ofDigitChars_replicate_zero, Nat.ofDigitChars_ten_toDigits]

/-- A decimal that is set out positionally is read as its value. -/
theorem reads_positional (negative : Bool) (d : Decimal) (keepsPoint : Bool) :
    ReadsAs negative (d.positional keepsPoint).toList d := by
  have digits := allDigits_toDigits d.digits
  rw [Decimal.positional]
  split
  · next up =>
    obtain ⟨n, power⟩ := Int.eq_ofNat_of_zero_le up
    have zeros := digits.append (allDigits_zeros n)
    have ne : Nat.toDigits 10 d.digits ++ List.replicate n '0' ≠ [] :=
      List.append_ne_nil_of_left_ne_nil Nat.toDigits_ne_nil _
    rw [String.toList_ofList, power, Int.toNat_natCast]
    cases keepsPoint with
    | false =>
      refine ⟨starts_append zeros ne _, ⟨10 ^ n * d.digits, 0⟩, ?_, ?_⟩
      · rw [Decimal.value, Decimal.value, power]
        push_cast
        rw [zpow_natCast]
        ring
      · have read := decimal?_whole negative zeros ne endsDigits_nil (by simp) rfl
        rwa [ofDigitChars_zeros] at read
    | true =>
      have one : AllDigits ['0'] := allDigits_zeros 1
      refine ⟨starts_append zeros ne _, ⟨10 ^ (n + 1) * d.digits, -1⟩, ?_, ?_⟩
      · rw [Decimal.value, Decimal.value, power]
        push_cast
        rw [zpow_natCast, pow_succ, zpow_neg_one]
        ring
      · have read := decimal?_pointed negative zeros ne one endsDigits_nil rfl
        have value := ofDigitChars_zeros d.digits (n + 1)
        rw [List.replicate_succ', ← List.append_assoc] at value
        rwa [value] at read
  · next down =>
    obtain ⟨places, eq⟩ : ∃ places, places = (-d.exponent).toNat := ⟨_, rfl⟩
    obtain ⟨padded, eq'⟩ : ∃ padded, padded = List.replicate
      (places + 1 - (Nat.toDigits 10 d.digits).length) '0' ++ Nat.toDigits 10 d.digits := ⟨_, rfl⟩
    have long : places < padded.length := by
      rw [eq', List.length_append, List.length_replicate]
      omega
    have all : AllDigits padded := eq' ▸ (allDigits_zeros _).append digits
    have taken : AllDigits (padded.take (padded.length - places)) :=
      fun c member => all c (List.mem_of_mem_take member)
    have ne : padded.take (padded.length - places) ≠ [] := by
      rw [← List.length_pos_iff, List.length_take]
      omega
    have value : Nat.ofDigitChars 10 padded 0 = d.digits := by
      rw [eq', Nat.ofDigitChars_append, Nat.ofDigitChars_replicate_zero, Nat.mul_zero,
        Nat.ofDigitChars_ten_toDigits]
    simp only [← eq, ← eq', String.toList_ofList]
    rw [List.append_assoc, List.singleton_append]
    refine ⟨starts_append taken ne _, d, rfl, ?_⟩
    have dropped : AllDigits (padded.drop (padded.length - places)) :=
      fun c member => all c (List.mem_of_mem_drop member)
    have read := decimal?_pointed negative taken ne dropped endsDigits_nil rfl
    rw [List.take_append_drop, value, List.length_drop, List.append_nil] at read
    rw [read]
    congr 2
    omega

/-- The exponent behind its mark. -/
theorem exponent?_text (exponent : Int) :
    exponent? ((if exponent < 0 then "e-" else "e").toList ++ Nat.toDigits 10 exponent.natAbs) =
      some exponent := by
  split
  · next negative =>
    rw [show "e-".toList = ['e', '-'] from rfl, List.cons_append, exponent?, if_pos (.inl rfl),
      List.cons_append, List.nil_append]
    simp only [takeSign, digitsValue?_toDigits, Option.bind_eq_bind, Option.bind_some,
      Option.pure_def, Option.map_some, if_true]
    congr 1
    omega
  · next positive =>
    rw [show "e".toList = ['e'] from rfl, List.cons_append, exponent?, if_pos (.inl rfl), List.nil_append]
    simp only [takeSign_toDigits, digitsValue?_toDigits, Option.bind_eq_bind, Option.bind_some,
      Option.pure_def, Option.map_some, Bool.false_eq_true, if_false]
    congr 1
    omega

/-- A decimal that is set out with an exponent is read as its value. -/
theorem reads_scientific (negative : Bool) (d : Decimal) : ReadsAs negative (d.scientific "e").toList d := by
  obtain ⟨c, fraction, eq⟩ := List.exists_cons_of_ne_nil (Nat.toDigits_ne_nil (n := d.digits) (b := 10))
  have digits := allDigits_toDigits d.digits
  have value := Nat.ofDigitChars_ten_toDigits (n := d.digits)
  rw [Decimal.scientific]
  rw [eq] at digits value ⊢
  have first : AllDigits [c] := fun d member => digits d (List.mem_singleton.1 member ▸ List.mem_cons_self)
  have others : AllDigits fraction := fun d member => digits d (List.mem_cons_of_mem _ member)
  simp only [String.toList_append, String.toList_ofList, List.append_assoc, List.take_succ_cons,
    List.take_zero, List.drop_succ_cons, List.drop_zero, List.length_cons, Nat.toString_eq_ofList_toDigits]
  generalize power : d.exponent + ((fraction.length + 1 : ℕ) : Int) - 1 = exponent
  have reads := exponent?_text exponent
  have ends : EndsDigits ((if exponent < 0 then "e-" else "e").toList ++
      Nat.toDigits 10 exponent.natAbs) := by
    split <;> rintro c ⟨⟩ <;> rfl
  refine ⟨starts_append first (List.cons_ne_nil c []) _, d, rfl, ?_⟩
  cases fraction with
  | nil =>
    have read := decimal?_whole negative first (List.cons_ne_nil c []) ends
      (by split <;> simp) reads
    rw [value] at read
    simp only [List.isEmpty_nil, if_true, List.nil_append, read]
    congr 2
    simp at power
    omega
  | cons d' fraction =>
    have read := decimal?_pointed negative first (List.cons_ne_nil c []) others ends reads
    rw [List.singleton_append (l := d' :: fraction), value] at read
    simp only [List.isEmpty_cons, Bool.false_eq_true, if_false, List.cons_append, List.nil_append]
      at read ⊢
    rw [read]
    congr 2
    simp only [List.length_cons] at power ⊢
    omega

/-! ## The text of a double -/

/-- A text that begins with a digit is no word. -/
theorem toLower_ne {c : Char} (digit : c.isDigit = true) (rest : List Char) {w : String}
    (letter : ∀ d ∈ w.toList.head?, d.isDigit = false) : (String.ofList (c :: rest)).toLower ≠ w := by
  rintro rfl
  have same : c.toLower = c := by
    have := isDigit_bounds digit
    simp only [Char.toLower]
    rw [dif_neg]
    rintro ⟨upper, -⟩
    have : 65 ≤ c.toNat := upper
    omega
  have noDigit := letter c (by simp [String.toLower, String.toList_map, same])
  rw [digit] at noDigit
  exact nomatch noDigit

/-- What follows the sign of a finite double. -/
def FloatStyle.body (style : FloatStyle) (m : Nat) (e : Int) : String :=
  let d := shortest m e
  if style.positional (d.exponent + (Nat.toDigits 10 d.digits).length - 1) then
    d.positional style.keepsPoint
  else d.scientific style.exponentMark

variable {x : Float} {negative : Bool} {m : Nat} {e : Int}

/-- The text of a finite double is its sign and the digits of its magnitude. -/
theorem text_finite (finite : Binary64.ofFloat x = .finite negative m e) :
    style.text x = (if negative then "-" else "") ++ style.body m e := by
  rw [FloatStyle.text, finite]
  rfl

/-- The digits of a magnitude are read as the shortest decimal. -/
theorem reads_body (mark : style.exponentMark = "e") (negative : Bool) (m : Nat) (e : Int) :
    ReadsAs negative (style.body m e).toList (shortest m e) := by
  rw [FloatStyle.body]
  split
  · exact reads_positional _ _ _
  · rw [mark]
    exact reads_scientific _ _

/-- The sign of a double stands in front and is read first. -/
theorem takeSign_text (mark : style.exponentMark = "e")
    (finite : Binary64.ofFloat x = .finite negative m e) :
    takeSign (style.text x).toList = (negative, (style.body m e).toList) := by
  rw [text_finite finite, String.toList_append]
  cases negative with
  | true => rfl
  | false =>
    obtain ⟨c, rest, eq, digit⟩ := (reads_body mark false m e).starts
    rw [eq]
    exact takeSign_of_isDigit digit rest

/-- A finite double is read back from its text. -/
theorem double?_finite (mark : style.exponentMark = "e")
    (finite : Binary64.ofFloat x = .finite negative m e) : double? (style.text x) = some x := by
  obtain ⟨⟨c, rest, eq, digit⟩, read, value, same⟩ := reads_body mark negative m e
  rw [double?, takeSign_text mark finite]
  simp only
  rw [same, nearestDecimal_shortest finite value, eq, if_neg, if_neg]
  · exact toLower_ne digit rest (by rintro d ⟨⟩; rfl)
  · rintro (word | word)
    · exact toLower_ne digit rest (by rintro d ⟨⟩; rfl) word
    · exact toLower_ne digit rest (by rintro d ⟨⟩; rfl) word

/-- Every double is read back from its plain text. -/
theorem double_plain (x : Float) : double (FloatStyle.plain.text x) = .ok x := by
  have read : double? (FloatStyle.plain.text x) = some x := by
    cases meaning : Binary64.ofFloat x with
    | nan =>
      rw [FloatStyle.text, meaning, eq_of_nan meaning]
      decide +kernel
    | infinite negative =>
      rw [FloatStyle.text, meaning, eq_of_infinite meaning]
      cases negative <;> decide +kernel
    | finite negative m e => exact double?_finite rfl meaning
  rw [double, read]

end ResourceTree.Number
