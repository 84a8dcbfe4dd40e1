import ResourceTree.Config.Setting
import ResourceTree.Proofs.Json.Numbers
import ResourceTree.Proofs.Number.Decimals
import ResourceTree.Proofs.Result
import ResourceTree.Proofs.Text.Bytes
import ResourceTree.Proofs.Text.Joined

/-!
# Settings as lenses

An edit of a setting reads its text and then puts the value into one field. So a text that is refused
leaves the configuration, and one that is accepted leaves the other settings. What an edit puts is in the
form in which the setting is printed, and in every configuration that edits lead to from the defaults the
text of a setting is read as what it has.
-/

namespace ResourceTree
set_option autoImplicit false

variable {c c' : Config} {value : String}

/-! ## Reading, then putting -/

namespace Config.Edit

variable {α : Type} {read : Except Failure α} {put : α → Config → Config}

/-- A value that is accepted is put into its field. -/
theorem run_of_read {x : α} (accepted : read = .ok x) (c : Config) :
    (readThenPut read put).run.run c = (.ok (), put x c) := by
  rw [accepted]
  rfl

/-- An edit that is done has accepted its value. -/
theorem read_of_done (done : (readThenPut read put).run.run c = (.ok (), c')) :
    ∃ x, read = .ok x ∧ put x c = c' := by
  cases accepted : read with
  | error f =>
    rw [accepted] at done
    exact nomatch done
  | ok x =>
    rw [run_of_read accepted] at done
    exact ⟨x, rfl, congrArg Prod.snd done⟩

/-- An edit that is refused leaves the configuration. -/
theorem left_of_refused {f : Failure} (refused : (readThenPut read put).run.run c = (.error f, c')) :
    c' = c := by
  cases accepted : read with
  | error f =>
    rw [accepted] at refused
    exact (congrArg Prod.snd refused).symm
  | ok x =>
    rw [run_of_read accepted] at refused
    exact nomatch refused

end Config.Edit

/-! ## Texts of values -/

namespace Number

/-- One more digit is taken as long as the number fits. -/
theorem takeDigit_of_isDigit {limit n : Nat} {d : Char} (digit : d.isDigit = true)
    (small : n * 10 + (d.toNat - '0'.toNat) < limit) :
    takeDigit limit n d = .ok (n * 10 + (d.toNat - '0'.toNat)) := by
  rw [takeDigit, digit]
  exact if_pos small

/-- Digits are taken for the number they spell if it fits. -/
theorem foldlM_takeDigit {limit : Nat} {cs : List Char} (digits : AllDigits cs) (start : Nat)
    (small : Nat.ofDigitChars 10 cs start < limit) :
    cs.foldlM (takeDigit limit) start = .ok (Nat.ofDigitChars 10 cs start) := by
  induction cs generalizing start with
  | nil => rfl
  | cons d cs ih =>
    rw [Nat.ofDigitChars_cons, Nat.mul_comm] at small ⊢
    have le : start * 10 + (d.toNat - '0'.toNat) ≤
        Nat.ofDigitChars 10 cs (start * 10 + (d.toNat - '0'.toNat)) := by
      rw [Nat.ofDigitChars_eq_ofDigitChars_zero]
      exact Nat.le_add_right_of_le (Nat.le_mul_of_pos_left _ (by positivity))
    rw [List.foldlM_cons, takeDigit_of_isDigit (digits d List.mem_cons_self) (le.trans_lt small)]
    exact ih (fun d member => digits d (List.mem_cons_of_mem _ member)) _ small

/-- A natural number is read back from its text. -/
theorem natural_toString {bits n : Nat} (small : n < 2 ^ bits) : natural bits (toString n) = .ok n := by
  have digits := allDigits_toDigits n
  have value : Nat.ofDigitChars 10 (Nat.toDigits 10 n) 0 = n := Nat.ofDigitChars_ten_toDigits
  have below : Nat.ofDigitChars 10 (Nat.toDigits 10 n) 0 < Nat.pow 2 bits := by
    rw [value]
    exact small
  have read := foldlM_takeDigit digits 0 below
  rw [value] at read
  rw [natural, Nat.toString_eq_ofList_toDigits, String.toList_ofList]
  split
  · next none => exact absurd none Nat.toDigits_ne_nil
  · next plus => exact absurd (digits '+' (plus ▸ List.mem_cons_self)) (by decide)
  · next plus => exact absurd (digits '+' (plus ▸ List.mem_cons_self)) (by decide)
  · exact read

/-- A number that is taken digit by digit fits. -/
theorem foldlM_takeDigit_lt {limit start n : Nat} {cs : List Char} (below : start < limit)
    (read : cs.foldlM (takeDigit limit) start = .ok n) : n < limit := by
  induction cs generalizing start with
  | nil => exact Except.ok.inj read ▸ below
  | cons d cs ih =>
    rw [List.foldlM_cons, bind_eq_ok] at read
    obtain ⟨next, first, rest⟩ := read
    refine ih ?_ rest
    simp only [takeDigit] at first
    split at first
    · exact nomatch first
    · split at first
      · next small => exact Except.ok.inj first ▸ small
      · exact nomatch first

/-- A number that is accepted fits its bits. -/
theorem natural_lt {bits n : Nat} (read : natural bits value = .ok n) : n < 2 ^ bits := by
  have below : 0 < Nat.pow 2 bits := Nat.two_pow_pos bits
  rw [natural] at read
  split at read
  · exact nomatch read
  · exact nomatch read
  · exact foldlM_takeDigit_lt below read
  · exact foldlM_takeDigit_lt below read

end Number

namespace Setting

/-- A name as it can stand between commas. -/
structure IsName (name : String) : Prop where
  bare : Text.Bare name.toList
  ne_empty : name ≠ ""
  no_comma : ',' ∉ name.toList

/-- The names in a list are trimmed and hold no comma. -/
theorem isName_of_mem_names {name : String} (member : name ∈ names value) : IsName name := by
  obtain ⟨found, some⟩ := List.mem_filter.1 member
  obtain ⟨run, between, rfl⟩ := List.mem_map.1 found
  have trimmed : (Text.trim (String.ofList run)).toList = Text.trimChars run := by
    rw [Text.trim, String.toList_ofList, String.toList_ofList]
  refine ⟨?_, by simpa using some, ?_⟩
  · rw [Function.comp_apply, trimmed]
    exact Text.bare_trimChars run
  · rw [Function.comp_apply, trimmed]
    exact fun comma => Text.not_mem_of_mem_splitOn between (Text.mem_of_mem_trimChars comma)

/-- Names are found again between the commas that join them. -/
theorem names_intercalate {kinds : List String} (isName : ∀ name ∈ kinds, IsName name) :
    names (",".intercalate kinds) = kinds := by
  by_cases empty : kinds = []
  · rw [empty]
    rfl
  · have split := Text.splitOn_intercalate empty fun name member => (isName name member).no_comma
    have trimmed : (kinds.map String.toList).map (Text.trim ∘ String.ofList) = kinds := by
      rw [List.map_map]
      refine (List.map_congr_left fun name member => ?_).trans (List.map_id kinds)
      simpa using Text.trim_of_bare (isName name member).bare
    have comma : "," = String.singleton ',' := rfl
    rw [names, comma, split, trimmed, List.filter_eq_self]
    intro name member
    simpa using (isName name member).ne_empty

/-- A direction is read back from its name. -/
theorem directionOf_name (d : Direction) : directionOf d.name = .ok d := by
  cases d <;> decide +kernel

theorem natural_ok {s : Setting} {bits n : Nat} (small : n < 2 ^ bits) :
    s.natural bits (toString n) = .ok n := by
  rw [natural, Number.natural_toString small]
  rfl

/-- A double is accepted from its text. -/
theorem double_ok (s : Setting) (x : Float) : s.double (doubleText x) = .ok x := by
  rw [double, doubleText, Number.double_plain]
  rfl

/-- An address that is a URL is accepted as it is. -/
theorem url_ok {u : Url} (accepted : Url.ofText value = .ok u) : url value = .ok value := by
  rw [url, accepted]

end Setting

/-! ## Configurations in the printed form -/

/-- The natural numbers fit their settings. -/
structure RealtimeConfig.InRange (c : RealtimeConfig) : Prop where
  maxRetries : c.maxRetries < 2 ^ 32
  baseDelayMs : c.baseDelayMs < 2 ^ 64
  maxDelayMs : c.maxDelayMs < 2 ^ 64

/-- The natural numbers fit their settings. -/
structure Config.InRange (c : Config) : Prop where
  requestTimeoutSecs : c.requestTimeoutSecs < 2 ^ 64
  maxEvents : c.maxEvents < 2 ^ 64
  logBuffer : c.logBuffer < 2 ^ 64
  realtime : c.realtime.InRange

/-- The settings have values that their texts give back. -/
structure Config.Settled (c : Config) : Prop extends Config.InRange c where
  apiUrl : ∃ u, Url.ofText c.apiUrl = .ok u
  excludedKinds : ∀ name ∈ c.layout.excludedKinds, Setting.IsName name

namespace Setting

open Config.Edit (run_of_read read_of_done)

variable {s other : Setting} {f : Failure}

/-- A text that is refused leaves the configuration as it is. -/
theorem left_of_refused (refused : (s.assign value).run.run c = (.error f, c')) : c' = c := by
  cases s <;> exact Config.Edit.left_of_refused refused

/-- A text that is accepted leaves the other settings as they are. -/
theorem get_of_assign (done : (s.assign value).run.run c = (.ok (), c')) (ne : other ≠ s) :
    other.get c' = other.get c := by
  cases s <;> obtain ⟨x, -, rfl⟩ := read_of_done done <;> cases other <;>
    first | rfl | exact absurd rfl ne

/-- A number that a setting accepts fits its bits. -/
theorem natural_lt {bits n : Nat} (read : s.natural bits value = .ok n) : n < 2 ^ bits :=
  Number.natural_lt (mapError_eq_ok.1 read)

/-- An address that is accepted is a URL. -/
theorem url_eq_ok {address : String} (read : url value = .ok address) :
    ∃ u, Url.ofText address = .ok u := by
  rw [url] at read
  split at read
  · next u accepted =>
    obtain rfl := Except.ok.inj read
    exact ⟨u, accepted⟩
  · exact nomatch read

/-- Numbers that an edit puts into a configuration fit their settings. -/
theorem inRange_of_assign (range : c.InRange) (done : (s.assign value).run.run c = (.ok (), c')) :
    c'.InRange := by
  cases s with
  | requestTimeoutSecs =>
    obtain ⟨n, read, rfl⟩ := read_of_done done
    exact { range with requestTimeoutSecs := natural_lt read }
  | maxEvents =>
    obtain ⟨n, read, rfl⟩ := read_of_done done
    exact { range with maxEvents := natural_lt read }
  | logBuffer =>
    obtain ⟨n, read, rfl⟩ := read_of_done done
    exact { range with logBuffer := natural_lt read }
  | maxRetries =>
    obtain ⟨n, read, rfl⟩ := read_of_done done
    exact { range with realtime := { range.realtime with maxRetries := natural_lt read } }
  | baseDelayMs =>
    obtain ⟨n, read, rfl⟩ := read_of_done done
    exact { range with realtime := { range.realtime with baseDelayMs := natural_lt read } }
  | maxDelayMs =>
    obtain ⟨n, read, rfl⟩ := read_of_done done
    exact { range with realtime := { range.realtime with maxDelayMs := natural_lt read } }
  | _ =>
    -- The other settings are no natural numbers.
    obtain ⟨x, -, rfl⟩ := read_of_done done
    exact { range with }

/-- What an edit puts into a configuration is in the form in which it is printed. -/
theorem settled_of_assign (settled : c.Settled) (done : (s.assign value).run.run c = (.ok (), c')) :
    c'.Settled := by
  refine { inRange_of_assign settled.toInRange done with apiUrl := ?_, excludedKinds := ?_ }
  · cases s with
    | apiUrl =>
      obtain ⟨address, read, rfl⟩ := read_of_done done
      exact url_eq_ok read
    | _ =>
      obtain ⟨x, -, rfl⟩ := read_of_done done
      exact settled.apiUrl
  · cases s with
    | excludedKinds =>
      obtain ⟨kinds, read, rfl⟩ := read_of_done done
      obtain rfl := Except.ok.inj read
      exact fun name member => isName_of_mem_names member
    | _ =>
      obtain ⟨x, -, rfl⟩ := read_of_done done
      exact settled.excludedKinds

/-- The text of a setting is accepted and changes nothing. -/
theorem assign_get (settled : c.Settled) (s : Setting) :
    (s.assign (s.get c)).run.run c = (.ok (), c) := by
  obtain ⟨u, accepted⟩ := settled.apiUrl
  cases s with
  | apiUrl => exact run_of_read (url_ok accepted) c
  | fluxNamespace => exact run_of_read rfl c
  | requestTimeoutSecs => exact run_of_read (natural_ok settled.requestTimeoutSecs) c
  | direction => exact run_of_read (directionOf_name _) c
  | nodeWidth => exact run_of_read (double_ok _ _) c
  | nodeHeight => exact run_of_read (double_ok _ _) c
  | nodeSpacing => exact run_of_read (double_ok _ _) c
  | layerSpacing => exact run_of_read (double_ok _ _) c
  | excludedKinds => exact run_of_read (congrArg Except.ok (names_intercalate settled.excludedKinds)) c
  | maxEvents => exact run_of_read (natural_ok settled.maxEvents) c
  | logBuffer => exact run_of_read (natural_ok settled.logBuffer) c
  | maxRetries => exact run_of_read (natural_ok settled.realtime.maxRetries) c
  | baseDelayMs => exact run_of_read (natural_ok settled.realtime.baseDelayMs) c
  | maxDelayMs => exact run_of_read (natural_ok settled.realtime.maxDelayMs) c

end Setting

/-! ## Configurations by key -/

namespace Config

variable {key other : String} {s : Setting}

/-- The keys of the settings. -/
def keys : List String := Setting.all.map Setting.key

/-- A setting is found by its key. -/
theorem setting_key (s : Setting) : setting s.key = .ok s := by
  cases s <;> rfl

/-- A setting that is found has the key. -/
theorem setting_eq_ok (found : setting key = .ok s) : key = s.key := by
  rw [setting] at found
  split at found
  · next s' hit =>
    obtain rfl := Except.ok.inj found
    exact (by simpa using List.find?_some hit : s'.key = key).symm
  · exact nomatch found

/-- The keys of the list are those that are accepted. -/
theorem mem_keys_iff : key ∈ keys ↔ ∃ s, setting key = .ok s := by
  constructor
  · intro member
    obtain ⟨s, -, rfl⟩ := List.mem_map.1 member
    exact ⟨s, setting_key s⟩
  · rintro ⟨s, found⟩
    rw [setting_eq_ok found]
    exact List.mem_map.2 ⟨s, by cases s <;> decide, rfl⟩

/-- An edit of a known key is that of its setting. -/
theorem edit_of_setting (found : setting key = .ok s) (c : Config) (value : String) :
    c.edit key value = (s.assign value).run.run c := by
  rw [edit, assign, found]
  rfl

/-- An edit of an unknown key is refused and changes nothing. -/
theorem edit_of_unknown (unknown : key ∉ keys) (c : Config) (value : String) :
    ∃ f, c.edit key value = (.error f, c) := by
  cases found : setting key with
  | error f =>
    refine ⟨f, ?_⟩
    rw [edit, assign, found]
    rfl
  | ok s => exact absurd (mem_keys_iff.2 ⟨s, found⟩) unknown

/-- Configurations that edits of settings lead to from the defaults. -/
inductive Reachable : Config → Prop
  | defaults : Reachable {}
  | edited {c c' : Config} {key value : String} :
    Reachable c → c.edit key value = (.ok (), c') → Reachable c'

theorem inRange_defaults : InRange {} where
  requestTimeoutSecs := by decide
  maxEvents := by decide
  logBuffer := by decide
  realtime := ⟨by decide, by decide, by decide⟩

/-- The defaults are in the form in which they are printed. -/
theorem settled_defaults : Settled {} where
  toInRange := inRange_defaults
  apiUrl := by
    cases read : Url.ofText "http://localhost:8080" with
    | ok u => exact ⟨u, rfl⟩
    | error f =>
      have refused : (Url.ofText "http://localhost:8080").isOk = true := by decide +kernel
      rw [read] at refused
      exact nomatch refused
  excludedKinds name member := by
    have split : Setting.names "ClusterRole,ClusterRoleBinding,CustomResourceDefinition" =
      ["ClusterRole", "ClusterRoleBinding", "CustomResourceDefinition"] := by decide +kernel
    exact Setting.isName_of_mem_names (split ▸ member)

/-- Edits keep the printed form. -/
theorem Reachable.settled (reachable : c.Reachable) : c.Settled := by
  induction reachable with
  | defaults => exact settled_defaults
  | @edited c c' key value _ done ih =>
    by_cases known : key ∈ keys
    · obtain ⟨s, found⟩ := mem_keys_iff.1 known
      rw [edit_of_setting found] at done
      exact Setting.settled_of_assign ih done
    · obtain ⟨f, refused⟩ := edit_of_unknown known c value
      rw [refused] at done
      exact nomatch done

/-- The sizes are numbers. -/
structure HasNumbers (c : Config) : Prop where
  nodeWidth : c.layout.nodeWidth.isNaN = false
  nodeHeight : c.layout.nodeHeight.isNaN = false
  nodeSpacing : c.layout.nodeSpacing.isNaN = false
  layerSpacing : c.layout.layerSpacing.isNaN = false

theorem beq_self_of_isNaN {x : Float} (number : x.isNaN = false) : (x == x) = true := by
  rw [Float.isNaN_eq_decide_eq_nan, decide_eq_false_iff_not] at number
  exact Float.beq_self_iff.2 number

/-- A configuration whose doubles are numbers compares equal to itself. -/
theorem HasNumbers.beq_self (numbers : c.HasNumbers) : (c == c) = true := by
  have layout : (c.layout == c.layout) = true := by
    change LayoutConfig.beq c.layout c.layout = true
    simp only [LayoutConfig.beq, decide_true, beq_self_of_isNaN numbers.nodeWidth,
      beq_self_of_isNaN numbers.nodeHeight, beq_self_of_isNaN numbers.nodeSpacing,
      beq_self_of_isNaN numbers.layerSpacing, Bool.and_self]
  change Config.beq c c = true
  simp only [Config.beq, decide_true, layout, Bool.and_self]

/-- Settings are lenses. An edit that fails leaves the configuration, and one of an unknown key does fail;
one that succeeds leaves the settings of the other keys. In a configuration that edits lead to from the
defaults, the text of every setting is accepted and changes nothing. -/
theorem settings_are_lenses :
    (∀ (c c' : Config) (key value : String) (f : Failure),
      c.edit key value = (.error f, c') → c' = c) ∧
    (∀ (c : Config) (key value : String), key ∉ keys → ∃ f, (c.edit key value).1 = .error f) ∧
    (∀ (c c' : Config) (key value : String), c.edit key value = (.ok (), c') →
      ∀ other, other ≠ key → c'.get other = c.get other) ∧
    ∀ c : Config, c.Reachable → ∀ key ∈ keys,
      ∃ text, c.get key = .ok text ∧ c.edit key text = (.ok (), c) ∧
        (c.HasNumbers → (c == c) = true) := by
  refine ⟨?_, ?_, ?_, ?_⟩
  · intro c c' key value f refused
    by_cases known : key ∈ keys
    · obtain ⟨s, found⟩ := mem_keys_iff.1 known
      rw [edit_of_setting found] at refused
      exact Setting.left_of_refused refused
    · obtain ⟨f', unknown⟩ := edit_of_unknown known c value
      rw [unknown] at refused
      exact (congrArg Prod.snd refused).symm
  · intro c key value unknown
    obtain ⟨f, refused⟩ := edit_of_unknown unknown c value
    exact ⟨f, congrArg Prod.fst refused⟩
  · intro c c' key value done other ne
    by_cases known : key ∈ keys
    · obtain ⟨s, found⟩ := mem_keys_iff.1 known
      rw [edit_of_setting found] at done
      rw [get, get]
      cases found' : setting other with
      | error f => rfl
      | ok s' =>
        have different : s' ≠ s := by
          rintro rfl
          exact ne ((setting_eq_ok found').trans (setting_eq_ok found).symm)
        exact congrArg Except.ok (Setting.get_of_assign done different)
    · obtain ⟨f, refused⟩ := edit_of_unknown known c value
      rw [refused] at done
      exact nomatch done
  · intro c reachable key known
    obtain ⟨s, found⟩ := mem_keys_iff.1 known
    refine ⟨s.get c, ?_, ?_, HasNumbers.beq_self⟩
    · rw [get, found]
      rfl
    · rw [edit_of_setting found]
      exact Setting.assign_get reachable.settled s

/-- Blanks and empty names are gone from the text that reads back. -/
theorem kinds_read_back :
    ∃ c, Config.edit {} "layout.excludedKinds" " Pod, ,Node" = (.ok (), c) ∧
      c.get "layout.excludedKinds" = .ok "Pod,Node" ∧
      c.get "layout.nodeWidth" = Config.get {} "layout.nodeWidth" ∧
      c.edit "layout.excludedKinds" "Pod,Node" = (.ok (), c) ∧ (c == c) = true := by
  obtain ⟨-, -, frame, again⟩ := settings_are_lenses
  obtain ⟨c, done, kinds, numbers⟩ : ∃ c : Config,
      Config.edit {} "layout.excludedKinds" " Pod, ,Node" = (.ok (), c) ∧
        c.get "layout.excludedKinds" = .ok "Pod,Node" ∧ c.HasNumbers :=
    ⟨_, rfl, by decide +kernel, by decide +kernel, by decide +kernel, by decide +kernel, by decide +kernel⟩
  obtain ⟨text, same, accepted, equal⟩ := again c (.edited .defaults done) "layout.excludedKinds" (by decide)
  obtain rfl : text = "Pod,Node" := Except.ok.inj (same.symm.trans kinds)
  exact ⟨c, done, kinds, frame {} c _ _ done "layout.nodeWidth" (by decide), accepted, equal numbers⟩

end Config

end ResourceTree
