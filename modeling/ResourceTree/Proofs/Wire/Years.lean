import ResourceTree.Proofs.Realtime.Kinds
import ResourceTree.Proofs.Wire.Faults

/-!
# Times at the ends of the calendar

A time is read with its offset and kept in UTC, so that one of the first day of the year 0 or of the
last day of the year 9999 can be kept in a year that has no four digits. Such a year is written with a
sign, and a year with a sign is not read. `times_read_back` says that these are the only times, and a
tree with one of them the only kind of tree, that are not read back from what is written of them.
-/

namespace ResourceTree
set_option autoImplicit false

namespace Instant

variable {t : Instant}

/-! ## What years are read -/

theorem isDigit_of_digit? {c : Char} {d : Nat} (h : digit? c = some d) : c.isDigit = true := by
  unfold digit? at h
  split at h
  · next bounds =>
    rw [Char.isDigit, Bool.and_eq_true, decide_eq_true_eq, decide_eq_true_eq]
    exact bounds
  · cases h

theorem isDigit_of_mapM_digit? {cs : List Char} {ds : List Nat} (h : cs.mapM digit? = some ds) :
    ∀ c ∈ cs, c.isDigit = true := by
  induction cs generalizing ds with
  | nil => exact List.forall_mem_nil _
  | cons c cs ih =>
    rw [List.mapM_cons] at h
    obtain ⟨d, here, h⟩ := Option.bind_eq_some_iff.1 h
    obtain ⟨rest, there, -⟩ := Option.bind_eq_some_iff.1 h
    exact List.forall_mem_cons.2 ⟨isDigit_of_digit? here, ih there⟩

/-- What is read as a number of some digits has these digits, and is no larger than they allow. -/
theorem digits?_eq_some {count n : Nat} {s rest : List Char} (h : digits? count s = some (n, rest)) :
    (∀ c ∈ s.take count, c.isDigit = true) ∧ n < Nat.pow 10 count := by
  simp only [digits?] at h
  split at h
  · next length =>
    obtain ⟨ds, read, h⟩ := Option.bind_eq_some_iff.1 h
    have digits := isDigit_of_mapM_digit? read
    rw [mapM_digit? digits] at read
    cases read
    cases h
    rw [foldl_digits]
    have lt := ofDigitChars_lt digits
    rw [length] at lt
    exact ⟨digits, lt⟩
  · cases h

/-- A year without four digits is printed with a sign in front. -/
theorem yearChars_signed {year : Int} (years : ¬ (0 ≤ year ∧ year ≤ 9999)) :
    ∃ sign ds, yearChars year = sign :: ds ∧ sign.isDigit = false := by
  have range : ¬ (decide (0 ≤ year) && decide (year ≤ 9999)) = true := by
    rw [Bool.and_eq_true, decide_eq_true_eq, decide_eq_true_eq]
    exact years
  rw [yearChars, if_neg range]
  split
  · exact ⟨_, _, rfl, rfl⟩
  · exact ⟨_, _, rfl, rfl⟩

/-- The year comes first in the text of a time. -/
theorem toChars_eq_year_append (t : Instant) : ∃ rest, t.toChars = yearChars t.year ++ rest :=
  ⟨_, by simp only [toChars, List.append_assoc]; rfl⟩

/-- A year with a sign is not read. -/
theorem ofText?_toText_signed (years : ¬ t.FourDigits) : ofText? t.toText = none := by
  obtain ⟨sign, ds, year, other⟩ := yearChars_signed years
  obtain ⟨rest, chars⟩ := toChars_eq_year_append t
  rw [ofText?, toText, String.toList_ofList, chars, year, Option.eq_none_iff_forall_ne_some]
  intro t' read
  obtain ⟨⟨year, _⟩, year?, -⟩ := Option.bind_eq_some_iff.1 read
  have digit := (digits?_eq_some year?).1 sign (by simp)
  rw [other] at digit
  cases digit

/-- At most a day before or behind the years of four digits. -/
def NearFourDigits (t : Instant) : Prop :=
  t.FourDigits ∨ (t.year = -1 ∧ t.month = 12 ∧ t.day = 31) ∨ (t.year = 10000 ∧ t.month = 1 ∧ t.day = 1)

/-- The day after one of four digits is of four digits or the first of the year after. -/
theorem nearFourDigits_nextDay (years : t.FourDigits) : t.nextDay.NearFourDigits := by
  obtain ⟨low, high⟩ := years
  unfold nextDay
  split
  · exact .inl ⟨low, high⟩
  · split
    · exact .inl ⟨low, high⟩
    · by_cases last : t.year = 9999
      · refine .inr (.inr ⟨?_, rfl, rfl⟩)
        show t.year + 1 = 10000
        omega
      · refine .inl ⟨?_, ?_⟩
        · show 0 ≤ t.year + 1
          omega
        · show t.year + 1 ≤ 9999
          omega

/-- The day before one of four digits is of four digits or the last of the year before. -/
theorem nearFourDigits_previousDay (years : t.FourDigits) : t.previousDay.NearFourDigits := by
  obtain ⟨low, high⟩ := years
  unfold previousDay
  split
  · exact .inl ⟨low, high⟩
  · split
    · exact .inl ⟨low, high⟩
    · by_cases first : t.year = 0
      · refine .inr (.inl ⟨?_, rfl, rfl⟩)
        show t.year - 1 = -1
        omega
      · refine .inl ⟨?_, ?_⟩
        · show 0 ≤ t.year - 1
          omega
        · show t.year - 1 ≤ 9999
          omega

/-- An offset leads out of the years of four digits by a day at most. -/
theorem nearFourDigits_shiftBack (years : t.FourDigits) (minutes : Int) :
    (shiftBack minutes t).NearFourDigits := by
  unfold shiftBack
  simp only
  split
  · exact nearFourDigits_previousDay years
  · split
    · exact nearFourDigits_nextDay years
    · exact .inl years

/-- Every time that is read is of four digits or a day off. -/
theorem nearFourDigits_of_ofText? {s : String} (h : ofText? s = some t) : t.NearFourDigits := by
  obtain ⟨⟨year, _⟩, year?, h⟩ := Option.bind_eq_some_iff.1 h
  obtain ⟨_, -, h⟩ := Option.bind_eq_some_iff.1 h
  obtain ⟨⟨month, _⟩, -, h⟩ := Option.bind_eq_some_iff.1 h
  obtain ⟨_, -, h⟩ := Option.bind_eq_some_iff.1 h
  obtain ⟨⟨day, _⟩, -, h⟩ := Option.bind_eq_some_iff.1 h
  obtain ⟨_, -, h⟩ := Option.bind_eq_some_iff.1 h
  obtain ⟨⟨hour, _⟩, -, h⟩ := Option.bind_eq_some_iff.1 h
  obtain ⟨_, -, h⟩ := Option.bind_eq_some_iff.1 h
  obtain ⟨⟨minute, _⟩, -, h⟩ := Option.bind_eq_some_iff.1 h
  obtain ⟨_, -, h⟩ := Option.bind_eq_some_iff.1 h
  obtain ⟨⟨second, _⟩, -, h⟩ := Option.bind_eq_some_iff.1 h
  obtain ⟨⟨nanos, _⟩, -, h⟩ := Option.bind_eq_some_iff.1 h
  obtain ⟨⟨ahead, _⟩, -, h⟩ := Option.bind_eq_some_iff.1 h
  have lt : year < 10000 := (digits?_eq_some year?).2
  dsimp only at h
  split at h
  · cases h
    refine nearFourDigits_shiftBack ⟨Int.natCast_nonneg year, ?_⟩ ahead
    show (year : Int) ≤ 9999
    omega
  · cases h

end Instant

namespace Decode

open Wire (IsTime IsTimeIfAny fluxKinds)

/-! ## What encoded records say of the years -/

/-- A text of a time that is read again is one of four digits. -/
theorem fourDigits_of_isTime {t : Instant} (time : IsTime t.toText) : t.FourDigits := by
  refine Classical.byContradiction fun years => ?_
  rw [IsTime, Instant.ofText?_toText_signed years] at time
  cases time

theorem fourDigits_of_isTimeIfAny {t : Option Instant} (times : IsTimeIfAny (t.map (·.toText))) :
    ∀ i ∈ t, i.FourDigits := by
  intro i member
  rw [Option.mem_def.1 member] at times
  rcases times i.toText rfl with empty | time
  · rw [Instant.toText, ← String.toList_inj, String.toList_ofList] at empty
    exact absurd empty (List.append_ne_nil_of_right_ne_nil _ (List.cons_ne_nil _ _))
  · exact fourDigits_of_isTime time

/-- A resource with a reconcile state is of a kind whose records are asked for it. -/
theorem kind_mem_fluxKinds {r : Resource} (fitting : r.Fitting) {f : Flux}
    (state : r.metadata.flux? = some f) : r.kind ∈ fluxKinds := by
  have reconcilable := r.metadata.isSome_flux?
  rw [state, fitting, Kind.find?_withMetadata] at reconcilable
  cases known : Kind.ofName? r.kind with
  | none =>
    rw [known] at reconcilable
    cases reconcilable
  | some k =>
    rw [known] at reconcilable
    rw [← Kind.name_of_ofName? known]
    cases k with
    | kustomization | helmRelease | helmChart | helmRepository | gitRepository | ociRepository => decide
    | deployment | pod | persistentVolumeClaim | bucket | clusterRole | clusterRoleBinding
    | customResourceDefinition => cases reconcilable

section Encoded

variable {r : Resource} (sound : (Encode.record r).WellFormed)
include sound

/-- The times of conditions in an encoded record that is well formed have four digits. -/
theorem fourDigits_of_conditions : ∀ c ∈ r.conditions, c.lastTransitionTime.FourDigits := by
  have times := sound.conditions
  rw [Encode.record, withMetadata_unseen (·.conditions) fun _ _ _ _ _ _ _ _ => rfl] at times
  exact fun c here => fourDigits_of_isTime (List.forall_mem_map.1 times c here)

/-- So have the times of its events. -/
theorem fourDigits_of_events : ∀ e ∈ r.events, ∀ i ∈ e.instants, i.FourDigits := by
  have times := sound.events
  rw [Encode.record, withMetadata_unseen (·.events) fun _ _ _ _ _ _ _ _ => rfl] at times
  intro e here i member
  obtain ⟨first, last⟩ := List.forall_mem_map.1 times e here
  simp only [Event.instants, List.mem_cons, List.not_mem_nil, or_false] at member
  rcases member with rfl | rfl
  · exact fourDigits_of_isTime first
  · exact fourDigits_of_isTime last

/-- So have the times of its state of reconciliation, if the metadata fit the kind. -/
theorem fourDigits_of_metadata (fitting : r.Fitting) : ∀ i ∈ r.metadata.instants, i.FourDigits := by
  have times := sound.flux
  rw [Encode.record, withMetadata_unseen (·.kind) fun _ _ _ _ _ _ _ _ => rfl,
    withMetadata_unseen (·.flux) fun _ _ _ _ _ _ _ _ => rfl] at times
  intro i member
  cases state : r.metadata.flux? with
  | none =>
    simp only [Metadata.instants, state] at member
    cases member
  | some f =>
    obtain ⟨handled, synced⟩ := times (kind_mem_fluxKinds fitting state) (Encode.flux f) (by rw [state]; rfl)
    rw [Metadata.instants_eq state, Flux.instants, List.mem_append, Option.mem_toList,
      Option.mem_toList] at member
    rcases member with member | member
    · exact fourDigits_of_isTimeIfAny handled i member
    · exact fourDigits_of_isTimeIfAny synced i member

/-- A resource of which the record is well-formed holds years of four digits only. -/
theorem fourDigits_of_wellFormed (fitting : r.Fitting) (unlogged : r.logs = []) :
    ∀ i ∈ r.instants, i.FourDigits := by
  have created := sound.createdAt
  rw [Encode.record, withMetadata_unseen (·.createdAt) fun _ _ _ _ _ _ _ _ => rfl] at created
  have deleted := sound.deletedAt
  rw [Encode.record, withMetadata_unseen (·.deletedAt) fun _ _ _ _ _ _ _ _ => rfl] at deleted
  intro i member
  rcases Resource.mem_instants.1 member with
    rfl | member | member | ⟨c, here, rfl⟩ | ⟨e, here, member⟩ | ⟨l, here, -⟩
  · exact fourDigits_of_isTime created
  · exact fourDigits_of_isTimeIfAny deleted i member
  · exact fourDigits_of_metadata sound fitting i member
  · exact fourDigits_of_conditions sound c here
  · exact fourDigits_of_events sound e here i member
  · rw [unlogged] at here
    cases here

end Encoded

mutual

/-- The records of an encoded tree are those of its nodes, in order. -/
theorem records_encode (t : Tree) : (Encode.node t).records = t.resources.map Encode.record := by
  cases t with
  | node r cs =>
    rw [Encode.node, Wire.Node.records, recordsAll_encode, Tree.resources_node, List.map_cons]

theorem recordsAll_encode (ts : List Tree) :
    Wire.Node.recordsAll (Encode.nodes ts) = (Tree.resourcesList ts).map Encode.record := by
  cases ts with
  | nil => rfl
  | cons t ts =>
    rw [Encode.nodes, Wire.Node.recordsAll, records_encode, recordsAll_encode,
      Tree.resourcesList_cons, List.map_append]

end

/-- The record of a decoded tree is accepted exactly if all of its years have four digits. -/
theorem exists_node_encode_iff {w : Wire.Node} {t : Tree} (h : node w = .ok t) :
    (∃ t', node (Encode.node t) = .ok t') ↔ ∀ i ∈ t.instants, i.FourDigits := by
  have faultless : ∀ parentId,
      (∃ t', under parentId (Encode.node t) = .ok t') ↔ faults (Encode.node t) = [] :=
    fun parentId => (under_endsBy parentId (Encode.node t)).eq_ok_iff
  refine (faultless _).trans ⟨fun none i member => ?_, fun years => ?_⟩
  · have sound := (faults_eq_nil_iff _).1 none
    rw [records_encode, List.forall_mem_map] at sound
    obtain ⟨r, here, inside⟩ := List.mem_flatMap.1 member
    have fitting := node_everywhere yields_fitting h r here
    have unlogged := node_everywhere (P := (·.logs = [])) (fun _ _ _ _ _ _ => rfl) h r here
    exact fourDigits_of_wellFormed (sound r here) fitting unlogged i inside
  · exact (faultless w.parent).1 ⟨t, under_encode h years⟩

/-- A time that was read is read again exactly if its year has four digits. -/
theorem time_toText_eq {field value : String} {t : Instant} (h : time field value = .ok t)
    (field' : String) :
    time field' t.toText = if t.FourDigits then .ok t else .error (.timestamp field' t.toText) := by
  by_cases years : t.FourDigits
  · rw [if_pos years, time_toText h years]
  · rw [if_neg years, time, Instant.ofText?_toText_signed years]

/-- A time is read back from what is written of it exactly if its year has four digits. All times that
are read are of such a year, or of the day before or behind. The record of a decoded tree is accepted
exactly if all of its times are of such years. -/
theorem times_read_back (field value : String) (w : Wire.Node) :
    (∀ t, time field value = .ok t →
      t.NearFourDigits ∧ ∀ field', time field' t.toText =
        if t.FourDigits then .ok t else .error (.timestamp field' t.toText)) ∧
      ∀ t, node w = .ok t →
        ((∃ t', node (Encode.node t) = .ok t') ↔ ∀ i ∈ t.instants, i.FourDigits) := by
  refine ⟨fun t read => ⟨?_, time_toText_eq read⟩, fun t => exists_node_encode_iff⟩
  exact Instant.nearFourDigits_of_ofText? (time_eq_ok.1 read)

/-- A leap second that the offset moves behind the last year of four digits. -/
def lastLeapSecond : Instant :=
  { year := 10000, month := 1, day := 1, second := 59, nanos := 1500000000 }

/-- A leap second behind the last year of four digits, which is not read again, and an application whose
times are. -/
theorem times_read_back_lastLeapSecond :
    time "createdAt" "9999-12-31T23:59:60.5-00:01" = .ok lastLeapSecond ∧
      lastLeapSecond.NearFourDigits ∧
      time "createdAt" "+10000-01-01T00:00:60.500Z" =
        .error (.timestamp "createdAt" "+10000-01-01T00:00:60.500Z") ∧
      node application = .ok applicationTree ∧ ∃ t', node (Encode.node applicationTree) = .ok t' := by
  have read : time "createdAt" "9999-12-31T23:59:60.5-00:01" = .ok lastLeapSecond := by
    decide +kernel
  obtain ⟨times, trees⟩ := times_read_back "createdAt" "9999-12-31T23:59:60.5-00:01" application
  obtain ⟨near, back⟩ := times lastLeapSecond read
  have written : lastLeapSecond.toText = "+10000-01-01T00:00:60.500Z" := by decide +kernel
  have refused := back "createdAt"
  rw [written] at refused
  have decoded : node application = .ok applicationTree := by decide +kernel
  exact ⟨read, near, refused, decoded, (trees applicationTree decoded).2 (by decide)⟩

/-- Not every time that is read can be read back. -/
theorem first_hour_unreadable :
    ¬ ∀ field value t, time field value = .ok t → time field t.toText = .ok t := by
  intro back
  let before : Instant := { year := -1, month := 12, day := 31, second := 84600, nanos := 0 }
  have read : time "createdAt" "0000-01-01T00:30:00+01:00" = .ok before := by decide +kernel
  exact absurd (back _ _ _ read) (by decide +kernel)

end Decode

end ResourceTree
