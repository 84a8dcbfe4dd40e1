import ResourceTree.Config.Document
import ResourceTree.Config.Reader
import ResourceTree.Proofs.Config.Lenses
import ResourceTree.Proofs.Json.Shapes
import ResourceTree.Proofs.Yaml.Readers

/-!
# Configuration files

The file of a configuration is read back as that configuration, as long as its natural numbers fit their
settings. What is read has numbers that fit, from a file and from a JSON document alike, so a configuration
that was handed over as a document can be saved.
-/

namespace ResourceTree
set_option autoImplicit false

open Number (Binary64)
open Yaml (IsWord MembersFit)
open Yaml.Reader (Takes TakesMembers Yields takes_record takes_choice takes_double takes_natural takes_text takes_texts
  takesMembers_nil yields_any yields_natural yields_record)

/-! ## What is written -/

namespace Config

variable {c : Config}

/-- The digits of a number can be written as they are. -/
theorem isWord_number (n : Nat) : IsWord (toString n).toList := by
  rw [Nat.toString_eq_ofList_toDigits, String.toList_ofList]
  exact Yaml.isWord_toDigits n

/-- The text of a double can be written as it is, infinite or not. -/
theorem isWord_double (x : Float) : IsWord (doubleStyle.text x).toList := by
  cases meaning : Binary64.ofFloat x with
  | nan =>
    rw [Number.FloatStyle.text, meaning]
    exact ⟨List.all_eq_true.1 rfl, by decide, by decide⟩
  | infinite negative =>
    rw [Number.FloatStyle.text, meaning]
    cases negative <;> exact ⟨List.all_eq_true.1 rfl, by decide, by decide⟩
  | finite negative m e => exact Yaml.isWord_finite rfl meaning

theorem isWord_direction (d : Direction) : IsWord d.name.toList := by
  cases d <;> exact ⟨List.all_eq_true.1 rfl, by decide, by decide⟩

/-- A double is read back from the text it is written with. -/
theorem double?_text (x : Float) : Yaml.Scalar.double? (doubleStyle.text x) = some x := by
  cases meaning : Binary64.ofFloat x with
  | nan =>
    rw [Number.FloatStyle.text, meaning, Number.eq_of_nan meaning]
    decide +kernel
  | infinite negative =>
    rw [Number.FloatStyle.text, meaning, Number.eq_of_infinite meaning]
    cases negative <;> decide +kernel
  | finite negative m e => exact Yaml.Scalar.double?_finite rfl meaning

end Config

theorem LayoutConfig.fits (c : LayoutConfig) : c.toDocument.Fits :=
  ⟨by decide, Config.isWord_direction _, by decide, Config.isWord_double _, by decide, Config.isWord_double _,
    by decide, Config.isWord_double _, by decide, Config.isWord_double _, by decide, trivial, trivial⟩

/-- The options of the layout are read back from what they are written as. -/
theorem LayoutConfig.takes (c : LayoutConfig) : Takes fromDocument c.toDocument c := by
  refine takes_record _ ?_
  refine .step rfl (.put (takes_choice (a := c.direction) ?_) _) rfl ?_
  · cases c.direction <;> rfl
  refine .step rfl (.put (takes_double (Config.double?_text c.nodeWidth)) _) rfl ?_
  refine .step rfl (.put (takes_double (Config.double?_text c.nodeHeight)) _) rfl ?_
  refine .step rfl (.put (takes_double (Config.double?_text c.nodeSpacing)) _) rfl ?_
  refine .step rfl (.put (takes_double (Config.double?_text c.layerSpacing)) _) rfl ?_
  exact .step rfl (.put (takes_texts c.excludedKinds) _) rfl takesMembers_nil

theorem RealtimeConfig.fits (c : RealtimeConfig) : c.toDocument.Fits :=
  ⟨by decide, Config.isWord_number _, by decide, Config.isWord_number _, by decide, Config.isWord_number _, trivial⟩

/-- The settings of the connection are read back if their numbers fit. -/
theorem RealtimeConfig.takes {c : RealtimeConfig} (range : c.InRange) : Takes fromDocument c.toDocument c := by
  refine takes_record _ ?_
  refine .step rfl (.put (takes_natural "u32" range.maxRetries (by decide)) _) rfl ?_
  refine .step rfl (.put (takes_natural "u64" range.baseDelayMs (Nat.le_refl 64)) _) rfl ?_
  exact .step rfl (.put (takes_natural "u64" range.maxDelayMs (Nat.le_refl 64)) _) rfl takesMembers_nil

namespace Config

theorem takes_count (title name : String) (absent : Nat) {n : Nat} (small : n < 2 ^ 64) :
    Takes (countFromDocument title name absent) (.mapping [(name, number n)]) n :=
  takes_record title (.step (if_pos rfl) (takes_natural "usize" small (Nat.le_refl 64)) rfl takesMembers_nil)

/-- A configuration is read back from its file. -/
theorem ofText_toText {c : Config} (range : c.InRange) : ofText c.toText = .ok c := by
  have fits : MembersFit
      [("apiUrl", .text c.apiUrl), ("fluxNamespace", .text c.fluxNamespace),
        ("requestTimeoutSecs", number c.requestTimeoutSecs), ("layout", c.layout.toDocument),
        ("events", .mapping [("maxEvents", number c.maxEvents)]),
        ("logs", .mapping [("buffer", number c.logBuffer)]),
        ("realtime", c.realtime.toDocument)] :=
    ⟨by decide, trivial, by decide, trivial, by decide, isWord_number _, by decide, c.layout.fits,
      by decide, ⟨by decide, isWord_number _, trivial⟩, by decide, ⟨by decide, isWord_number _, trivial⟩,
      by decide, c.realtime.fits, trivial⟩
  rw [ofText, toText, Yaml.readText_print _ (List.cons_ne_nil _ _) fits]
  refine takes_record "Config" ?_ #[]
  refine .step rfl (.put (takes_text c.apiUrl) _) rfl ?_
  refine .step rfl (.put (takes_text c.fluxNamespace) _) rfl ?_
  refine .step rfl (.put (takes_natural "u64" range.requestTimeoutSecs (Nat.le_refl 64)) _) rfl ?_
  refine .step rfl (.put c.layout.takes _) rfl ?_
  refine .step rfl (.put (takes_count "EventsConfig" "maxEvents" _ range.maxEvents) _) rfl ?_
  refine .step rfl (.put (takes_count "LogsConfig" "buffer" _ range.logBuffer) _) rfl ?_
  exact .step rfl (.put (RealtimeConfig.takes range.realtime) _) rfl takesMembers_nil

end Config

/-! ## What is read -/

theorem RealtimeConfig.yields_inRange : Yields fromDocument InRange := by
  refine yields_record _ ⟨by decide, by decide, by decide⟩ fun name c r range known => ?_
  simp only [field] at known
  split at known
  · exact Option.some.inj known ▸ (yields_natural "u32" 32).put fun _ small => { range with maxRetries := small }
  · exact Option.some.inj known ▸ (yields_natural "u64" 64).put fun _ small => { range with baseDelayMs := small }
  · exact Option.some.inj known ▸ (yields_natural "u64" 64).put fun _ small => { range with maxDelayMs := small }
  · exact nomatch known

namespace Config

theorem yields_count (title name : String) {absent : Nat} (small : absent < 2 ^ 64) :
    Yields (countFromDocument title name absent) (· < 2 ^ 64) := by
  refine yields_record title small fun key n r _ known => ?_
  split at known
  · exact Option.some.inj known ▸ yields_natural "usize" 64
  · exact nomatch known

/-- What is read from a file has numbers that fit. -/
theorem inRange_of_ofText {text : String} {c : Config} (read : ofText text = .ok c) : c.InRange := by
  refine Yields.ofText (yields_record "Config" inRange_defaults fun name c r range known => ?_) read
  simp only [field] at known
  split at known
  · exact Option.some.inj known ▸ (yields_any _).put fun _ _ => { range with }
  · exact Option.some.inj known ▸ (yields_any _).put fun _ _ => { range with }
  · exact Option.some.inj known ▸
      (yields_natural "u64" 64).put fun _ small => { range with requestTimeoutSecs := small }
  · exact Option.some.inj known ▸ (yields_any _).put fun _ _ => { range with }
  · exact Option.some.inj known ▸
      (yields_count "EventsConfig" "maxEvents" (by decide)).put fun _ small => { range with maxEvents := small }
  · exact Option.some.inj known ▸
      (yields_count "LogsConfig" "buffer" (by decide)).put fun _ small => { range with logBuffer := small }
  · exact Option.some.inj known ▸
      RealtimeConfig.yields_inRange.put fun _ realtime => { range with realtime := realtime }
  · exact nomatch known

end Config

/-! ## What is read from a document -/

open Json (Placed)
open Json.RecordShape (yields_reader)

/-- The settings of the connection have numbers that fit, whatever document they come from. -/
theorem RealtimeConfig.inRange_of_read : Json.Reader.Yields read InRange := by
  unfold read
  refine yields_reader fun s c built => ?_
  obtain ⟨_, maxDelayMs, others, last, rfl⟩ := Placed.seq_eq_ok.1 built
  obtain ⟨_, baseDelayMs, front, second, rfl⟩ := Placed.seq_eq_ok.1 others
  obtain ⟨maxRetries, first, rfl⟩ := Placed.map_eq_ok.1 front
  exact
    { maxRetries := (Json.Reader.yields_natural "u32" 32).withDefault (by decide) first
      baseDelayMs := (Json.Reader.yields_natural "u64" 64).withDefault (by decide) second
      maxDelayMs := (Json.Reader.yields_natural "u64" 64).withDefault (by decide) last }

/-- A count that is read fits its setting, or is the default. -/
theorem readCount_lt (title name : String) {absent : Nat} (small : absent < 2 ^ 64) :
    Json.Reader.Yields (readCount title name absent) (· < 2 ^ 64) :=
  yields_reader fun _ _ built => (Json.Reader.yields_natural "usize" 64).withDefault small built

namespace Config

/-- What is read from a JSON document has numbers that fit. -/
theorem inRange_of_read : Json.Reader.Yields read InRange := by
  unfold read
  refine yields_reader fun s c built => ?_
  simp only [Placed.seq_eq_ok, Placed.map_eq_ok] at built
  obtain ⟨_, realtime, ⟨_, logBuffer, ⟨_, maxEvents, ⟨_, layout, ⟨_, requestTimeoutSecs,
    ⟨_, fluxNamespace, ⟨apiUrl, -, rfl⟩, -, rfl⟩, third, rfl⟩, -, rfl⟩, fifth, rfl⟩, sixth, rfl⟩,
    seventh, rfl⟩ := built
  exact
    { requestTimeoutSecs := (Json.Reader.yields_natural "u64" 64).withDefault (by decide) third
      maxEvents := (readCount_lt "EventsConfig" "maxEvents" (by decide)).withDefault (by decide) fifth
      logBuffer := (readCount_lt "LogsConfig" "buffer" (by decide)).withDefault (by decide) sixth
      realtime := RealtimeConfig.inRange_of_read.withDefault inRange_defaults.realtime seventh }

/-- A configuration that is handed over as a JSON text is read back from the file that it is saved to. -/
theorem ofText_toText_of_read {text : String} {c : Config}
    (read : Json.Reader.ofText Config.read text = .ok c) : ofText c.toText = .ok c :=
  ofText_toText (inRange_of_read.ofText read)

end Config

end ResourceTree
