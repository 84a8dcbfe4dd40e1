import ResourceTree.Proofs.Result
import ResourceTree.Proofs.Url.Escapes
import ResourceTree.Server

/-!
# What the address of a resource names

The address of a resource is the path of the server with four segments behind it, and the uid is one of
them. `Server.resource_identifies_iff` says for which uids and servers this is so. The uids for which it is
not are those with tabs and line breaks, which URLs pass over, and the names of steps, one and two points.
-/

namespace ResourceTree
set_option autoImplicit false

namespace Url

/-- The segments of a path; a path without structure has none. -/
def segments (u : Url) : List String :=
  match u.path with
  | .segments names => names
  | .flat _ => []

namespace Path

variable {family : Family} {names : List String} {segment : String}

/-- Segments without an empty one at the end. -/
def withoutEmptyEnd (names : List String) : List String :=
  if names.getLast? = some "" then names.dropLast else names

/-- The segments behind which others are appended. One that is empty and alone gives way to them. -/
def root (names : List String) : List String :=
  if withoutEmptyEnd names = [""] then [] else withoutEmptyEnd names

/-- The characters that are escaped in a segment that is appended. -/
def appendSet (family : Family) : EscapeSet :=
  if family.isSpecial then .specialSegment else .segment

theorem percent_mem_appendSet (family : Family) : '%' ∈ appendSet family := by
  cases family <;> decide

theorem point_not_mem_appendSet (family : Family) : '.' ∉ appendSet family := by
  cases family <;> decide

/-- Segments as a path has them: those of a file do not begin with an empty one. -/
def Settled (family : Family) (names : List String) : Prop :=
  family = .file → names.head? ≠ some ""

/-- A segment that is not empty keeps a path in form. -/
theorem Settled.append {word : String} (settled : Settled family names) (more : word ≠ "")
    (rest : List String) : Settled family (names ++ word :: rest) := by
  cases names with
  | nil => exact fun _ => by simpa using more
  | cons first others => exact settled

/-- A path in form stays as it is. -/
theorem settle_eq_self (some : names ≠ []) (settled : Settled family names) :
    settle family names = names := by
  rw [settle]
  split
  · next file =>
    cases names with
    | nil => exact absurd rfl some
    | cons first rest =>
      have other : first ≠ "" := by simpa using settled file
      rw [List.dropWhile_cons_of_neg (by simpa using other)]
  · rfl

/-! ## One segment more -/

/-- A segment behind others goes back, stays or follows them. -/
theorem take_names (mayNameDisk : Bool) (some : names ≠ []) (segment : Segment) :
    (take mayNameDisk { names } segment true).names =
      if isBack segment.text then shorten names ++ [""]
      else if isHere segment.text then names ++ [""]
      else names ++ [segment.text] := by
  have filled : names.isEmpty = false := List.isEmpty_eq_false_iff.2 some
  rw [take, filled]
  simp only [Bool.false_eq_true, if_false, Bool.and_false, Bool.false_and, if_true]
  by_cases back : isBack segment.text
  · rw [back]; rfl
  · by_cases here : isHere segment.text
    · simp [back, here]
    · simp [back, here]

/-- A segment as it is read when it is appended. -/
def reading (family : Family) (segment : String) : Segment :=
  match family with
  | .file =>
    segmentOf (appendSet family) (hasGapBefore segment.toList) (relevant segment.toList)
  | _ => { text := escape (appendSet family) (relevant segment.toList) }

/-- What is read of a segment is its characters but for tabs and line breaks, escaped. -/
theorem reading_text (family : Family) (segment : String) :
    (reading family segment).text = escape (appendSet family) (relevant segment.toList) := by
  cases family <;> rfl

/-- What some segments become when one is appended. Points lead on only where tabs or line breaks stand
among them. -/
def appended (family : Family) (names : List String) (segment : String) : List String :=
  let s := relevant segment.toList
  if segment = "." ∨ segment = ".." then names
  else if s = ['.', '.'] then shorten names ++ [""]
  else if s = ['.'] then names ++ [""]
  else names ++ [escape (appendSet family) s]

/-- Appending a segment leads to what it reads as, put into form. -/
theorem append_eq_settle (some : names ≠ []) (other : names ≠ [""]) (settled : Settled family names)
    (segment : String) :
    append family names segment = settle family (appended family names segment) := by
  have unfolded : append family names segment = if segment = "." ∨ segment = ".." then names else
      settle family (take (family = .file) { names := if names = [""] then [] else names }
        (reading family segment) true).names := rfl
  rw [unfolded, appended]
  split
  · exact (settle_eq_self some settled).symm
  · rw [take_names _ some, reading_text]
    simp only [isBack_escape (percent_mem_appendSet family) (point_not_mem_appendSet family),
      isHere_escape (percent_mem_appendSet family) (point_not_mem_appendSet family)]

/-- A word: it is read as it stands, and is made of other characters than points. -/
def IsWord (segment : String) : Prop :=
  segment ≠ "." ∧ segment ≠ ".." ∧ relevant segment.toList = segment.toList ∧
    ∀ family, escape (appendSet family) segment.toList = segment

instance (segment : String) : Decidable (IsWord segment) :=
  decidable_of_iff (segment ≠ "." ∧ segment ≠ ".." ∧ relevant segment.toList = segment.toList ∧
      ∀ family ∈ [Family.file, .web, .general],
        escape (appendSet family) segment.toList = segment) <| by
    refine and_congr_right' (and_congr_right' (and_congr_right' ⟨fun each family => ?_, fun all _ _ => all _⟩))
    exact each family (by cases family <;> simp)

/-- A word is appended as it stands. -/
theorem appended_word (word : IsWord segment) (names : List String) :
    appended family names segment = names ++ [segment] := by
  obtain ⟨here, back, relevant, escape⟩ := word
  rw [appended, if_neg (by simp [here, back]), relevant]
  rw [if_neg, if_neg, escape]
  · exact fun points => here (String.toList_inj.1 points)
  · exact fun points => back (String.toList_inj.1 points)

/-- Words are appended one after the other. -/
theorem append_word (word : IsWord segment) (some : names ≠ []) (other : names ≠ [""])
    (settled : Settled family names) (filled : segment ≠ "") :
    append family names segment = names ++ [segment] := by
  rw [append_eq_settle some other settled, appended_word word,
    settle_eq_self (by simp) (settled.append filled _)]

/-! ## Behind the path of a server -/

/-- The segments of a path that has been read: those of a file are one empty segment, or do not begin with
one. -/
def Grounded (family : Family) (names : List String) : Prop :=
  family = .file → names = [""] ∨ names.head? ≠ some ""

/-- Segments that were put into form are those of a path. -/
theorem grounded_settle (family : Family) (names : List String) :
    Grounded family (settle family names) := by
  rintro rfl
  rw [settle, if_pos rfl]
  cases kept : names.dropWhile (· = "") with
  | nil => exact .inl rfl
  | cons first rest =>
    have other := List.head?_dropWhile_not (· = "") names
    rw [kept] at other
    exact .inr (by simpa using other)

theorem root_eq (names : List String) :
    root names = if dropEmptyEnd names = [""] then [] else dropEmptyEnd names := by
  rw [root, withoutEmptyEnd, dropEmptyEnd]
  match names with
  | [] => rfl
  | [""] => rfl
  | [name] =>
    by_cases empty : name = ""
    · subst empty; rfl
    · simp [empty]
  | first :: second :: rest => simp

/-- The segments of a server are in form for what is appended. -/
theorem settled_root (grounded : Grounded family names) : Settled family (root names) := by
  intro file
  rw [root_eq]
  split
  · simp
  · next other =>
    rw [dropEmptyEnd] at other ⊢
    split at other
    · next long =>
      rw [if_pos long]
      match names, long with
      | first :: second :: rest, _ =>
        exact (grounded file).resolve_left (by simp)
    · next short =>
      rw [if_neg short]
      exact (grounded file).resolve_left other

/-- The first word that is appended takes the place of an empty segment at the end. -/
theorem append_root (grounded : Grounded family names) :
    append family (dropEmptyEnd names) "api" = root names ++ ["api"] := by
  have settled := settled_root grounded
  rw [root_eq] at settled ⊢
  split at settled
  · next empty =>
    rw [if_pos empty, empty]
    cases family <;> decide
  · next other =>
    rw [if_neg other]
    by_cases none : dropEmptyEnd names = []
    · rw [none]
      cases family <;> decide
    · exact append_word (by decide) none other settled (by decide)

/-- What is appended for a uid, in front of the verb. -/
def resourceTail (family : Family) (uid : String) : List String :=
  let s := relevant uid.toList
  if uid = "." ∨ uid = ".." then ["api", "resource"]
  else if s = ['.', '.'] then ["api", ""]
  else if s = ['.'] then ["api", "resource", ""]
  else ["api", "resource", escape (appendSet family) s]

/-- What a uid becomes behind the words in front of it. -/
theorem appended_uid (names : List String) (uid : String) :
    appended family (names ++ ["api", "resource"]) uid = names ++ resourceTail family uid := by
  have shorter : shorten (names ++ ["api", "resource"]) = names ++ ["api"] := by
    have noDisk : isDisk "resource" = false := by decide
    rw [shorten, List.getLast?_append]
    simp [noDisk]
  rw [appended, resourceTail, shorter]
  split
  · rfl
  split
  · rw [List.append_assoc]; rfl
  split
  · rw [List.append_assoc]; rfl
  · rw [List.append_assoc]; rfl

/-- At least two segments are appended for a uid. -/
theorem resourceTail_eq (family : Family) (uid : String) :
    ∃ next rest, resourceTail family uid = "api" :: next :: rest := by
  rw [resourceTail]
  split
  · exact ⟨_, _, rfl⟩
  split
  · exact ⟨_, _, rfl⟩
  split
  · exact ⟨_, _, rfl⟩
  · exact ⟨_, _, rfl⟩

end Path

open ResourceTree.Url.Path

/-! ## What is read as a URL -/

theorem grounded_fileUrl (text : List Char) (host : String) (rest : List Char) :
    Grounded (fileUrl text host rest).family (fileUrl text host rest).segments :=
  grounded_settle .file _

theorem grounded_ofFile {text s : List Char} {u : Url} (given : ofFile text s = .ok u) :
    Grounded u.family u.segments := by
  rw [ofFile.eq_def] at given
  split at given
  · split at given
    · simp only at given
      split at given
      · cases given
        exact grounded_fileUrl _ _ _
      · obtain ⟨host, -, final⟩ := bind_eq_ok.1 given
        cases final
        exact grounded_fileUrl _ _ _
    · cases given
      exact grounded_fileUrl _ _ _
  · cases given
    exact grounded_fileUrl _ _ _

theorem grounded_of_family {u : Url} (other : u.family ≠ .file) : Grounded u.family u.segments :=
  fun file => absurd file other

/-- Every address that is read has the segments of a path. -/
theorem grounded_ofText {s : String} {u : Url} (given : ofText s = .ok u) :
    Grounded u.family u.segments := by
  rw [ofText] at given
  simp only at given
  split at given
  · cases given
  · next scheme rest _ =>
    split at given
    · exact grounded_ofFile given
    · next web =>
      obtain ⟨⟨authority, more⟩, -, final⟩ := bind_eq_ok.1 given
      cases final
      exact grounded_of_family (by rw [family, assemble, web]; decide)
    · next general =>
      split at given
      · obtain ⟨⟨authority, more⟩, -, final⟩ := bind_eq_ok.1 given
        cases final
        exact grounded_of_family (by rw [family, assemble, general]; decide)
      · cases given
        exact grounded_of_family (by rw [family, assemble, general]; decide)

end Url

namespace Server

open Url Url.Path
open Text (utf8)

/-- What can be asked for a resource. -/
def verbs : List String := ["describe", "reconcile", "suspend", "resume"]

/-- Each of the verbs is a word. -/
theorem isWord_of_mem_verbs {verb : String} (offered : verb ∈ verbs) : IsWord verb ∧ verb ≠ "" := by
  have each : ∀ verb ∈ verbs, IsWord verb ∧ verb ≠ "" := by decide
  exact each verb offered

variable {address uid verb : String} {s : Server}

/-- So the address of a server has the segments of a path. -/
theorem grounded_base (given : ofAddress address = .ok s) :
    Grounded s.base.family s.base.segments := by
  rw [ofAddress] at given
  split at given
  · cases given
  · next base read =>
    split at given
    · cases given
      exact grounded_ofText read
    · cases given

/-- The path of a resource is that of the server with what the uid comes to behind it, and then the verb. -/
theorem resource_segments (given : ofAddress address = .ok s) (offered : verb ∈ verbs) (uid : String) :
    (s.resource uid verb).segments =
      root s.base.segments ++ resourceTail s.base.family uid ++ [verb] := by
  have grounded := grounded_base given
  obtain ⟨word, filled⟩ := isWord_of_mem_verbs offered
  obtain ⟨names, path⟩ : ∃ names, s.base.path = .segments names := by
    have isBase := s.isBase
    cases path : s.base.path with
    | flat text => simp [Url.isBase, path] at isBase
    | segments names => exact ⟨names, rfl⟩
  have own : s.base.segments = names := by rw [Url.segments, path]
  rw [own] at grounded ⊢
  have settled := settled_root grounded
  have moved : (s.resource uid verb).segments =
      ["api", "resource", uid, verb].foldl (Path.append s.base.family) (dropEmptyEnd names) := by
    rw [Url.segments, resource, endpoint, Url.append, path]
  have behind (more : List String) : Settled s.base.family (root names ++ "api" :: more) :=
    settled.append (by decide) more
  have other (more : List String) : root names ++ "api" :: more ≠ [""] := by
    cases root names <;> simp
  have second : Path.append s.base.family (root names ++ ["api"]) "resource" =
      root names ++ ["api", "resource"] := by
    rw [append_word (by decide) (by simp) (other []) (behind []) (by decide), List.append_assoc]
    rfl
  obtain ⟨next, rest, tail⟩ := resourceTail_eq s.base.family uid
  have third : Path.append s.base.family (root names ++ ["api", "resource"]) uid =
      root names ++ resourceTail s.base.family uid := by
    rw [append_eq_settle (by simp) (other ["resource"]) (behind ["resource"]), appended_uid, tail,
      settle_eq_self (by simp) (behind (next :: rest))]
  have fourth : Path.append s.base.family (root names ++ resourceTail s.base.family uid) verb =
      root names ++ resourceTail s.base.family uid ++ [verb] := by
    rw [tail, append_word word (by simp) (other (next :: rest)) (behind (next :: rest)) filled]
  rw [moved, List.foldl_cons, append_root grounded, List.foldl_cons, second, List.foldl_cons, third,
    List.foldl_cons, fourth, List.foldl_nil]

/-- Behind the path of the server, without an empty segment at its end, stand just four segments, of which
the third one spells the uid. -/
def Identifies (s : Server) (uid verb : String) : Prop :=
  ∃ first second third fourth, (s.resource uid verb).segments =
    withoutEmptyEnd s.base.segments ++ [first, second, third, fourth] ∧ spelled third = uid.toUTF8.toList

/-- A uid that can be a segment: it is not the name of a step, and there are no tabs or line breaks in it. -/
def IsNamable (uid : String) : Prop :=
  uid ≠ "." ∧ uid ≠ ".." ∧ ∀ c ∈ uid.toList, isPassedOver c = false

theorem relevant_eq_self_iff (s : List Char) :
    relevant s = s ↔ ∀ c ∈ s, isPassedOver c = false := by
  rw [relevant, List.filter_eq_self]
  simp only [Bool.not_eq_true']

/-- A uid that can be a segment is one, escaped. -/
theorem resourceTail_of_namable (family : Family) (namable : IsNamable uid) :
    resourceTail family uid = ["api", "resource", escape (appendSet family) uid.toList] := by
  obtain ⟨here, back, relevant⟩ := namable
  rw [resourceTail, if_neg (by simp [here, back]), (relevant_eq_self_iff _).2 relevant, if_neg, if_neg]
  · exact fun point => here (String.toList_inj.1 point)
  · exact fun points => back (String.toList_inj.1 points)

/-- The escaped uid spells the uid. -/
theorem spelled_uid (family : Family) (uid : String) :
    spelled (escape (appendSet family) uid.toList) = uid.toUTF8.toList := by
  rw [spelled_escape (percent_mem_appendSet family), Text.bytes_eq]

/-- Only a uid that can be a segment comes to three segments of which the last one spells it. -/
theorem namable_of_resourceTail {family : Family} {first second third : String}
    (tail : resourceTail family uid = [first, second, third])
    (spelling : spelled third = uid.toUTF8.toList) : IsNamable uid := by
  rw [resourceTail] at tail
  split at tail
  · cases tail
  next noStep =>
  have apart : uid ≠ "." ∧ uid ≠ ".." := not_or.1 noStep
  split at tail
  · cases tail
  split at tail
  · next point =>
    -- The segment is empty, but the uid is not.
    have empty : utf8 uid.toList = [] := by
      obtain ⟨-, -, rfl⟩ : _ ∧ _ ∧ "" = third := by simpa using tail
      rw [← Text.bytes_eq, ← spelling]
      exact spelled_escape (percent_mem_appendSet family) []
    have none := utf8_inj (t := []) empty
    rw [none] at point
    cases point
  · obtain ⟨-, -, rfl⟩ : _ ∧ _ ∧ escape (appendSet family) (relevant uid.toList) = third := by
      simpa using tail
    rw [spelled_escape (percent_mem_appendSet family), Text.bytes_eq] at spelling
    exact ⟨apart.1, apart.2, (relevant_eq_self_iff _).1 (utf8_inj spelling)⟩

/-- One empty segment is left of two, and of no others. -/
theorem withoutEmptyEnd_eq_iff (names : List String) :
    withoutEmptyEnd names = [""] ↔ names = ["", ""] := by
  constructor
  · intro alone
    rw [withoutEmptyEnd] at alone
    split at alone
    · next last =>
      obtain ⟨before, rfl⟩ := List.getLast?_eq_some_iff.1 last
      rw [List.dropLast_concat] at alone
      rw [alone]
      rfl
    · next last => exact absurd (by rw [alone]; rfl) last
  · rintro rfl
    decide

/-- An endpoint identifies its uid exactly if the uid can be a segment behind the path of the
server. -/
theorem identifies_iff (given : ofAddress address = .ok s) (offered : verb ∈ verbs) :
    s.Identifies uid verb ↔ s.base.segments ≠ ["", ""] ∧ IsNamable uid := by
  have path := resource_segments given offered uid
  rw [Ne, ← withoutEmptyEnd_eq_iff]
  constructor
  · rintro ⟨first, second, third, fourth, whole, spelling⟩
    rw [path, root] at whole
    split at whole
    · next alone =>
      obtain ⟨next, rest, tail⟩ := resourceTail_eq s.base.family uid
      rw [alone, tail] at whole
      simp at whole
    · next other =>
      rw [List.append_assoc, List.append_cancel_left_eq] at whole
      have split := @List.append_inj' _ _ [verb] [first, second, third] [fourth] whole rfl
      exact ⟨other, namable_of_resourceTail split.1 spelling⟩
  · rintro ⟨other, namable⟩
    refine ⟨"api", "resource", _, verb, ?_, spelled_uid s.base.family uid⟩
    rw [path, root, if_neg other, resourceTail_of_namable _ namable, List.append_assoc]
    rfl

/-- Addresses of resources differ in nothing but their paths. -/
theorem resource_eq_iff (given : ofAddress address = .ok s) {other verb' : String} (offered : verb ∈ verbs)
    (offered' : verb' ∈ verbs) :
    s.resource uid verb = s.resource other verb' ↔
      resourceTail s.base.family uid = resourceTail s.base.family other ∧ verb = verb' := by
  have path := resource_segments given offered uid
  have path' := resource_segments given offered' other
  constructor
  · intro same
    rw [same, path', List.append_assoc, List.append_assoc, List.append_cancel_left_eq] at path
    have split := List.append_inj' path rfl
    exact ⟨split.1.symm, (List.singleton_inj.1 split.2).symm⟩
  · rintro ⟨tail, rfl⟩
    rw [tail, ← path'] at path
    rw [Url.segments, Url.segments, resource, resource, endpoint, endpoint, Url.append, Url.append] at path
    rw [resource, resource, endpoint, endpoint, Url.append, Url.append]
    cases kind : s.base.path with
    | flat text => rfl
    | segments names =>
      rw [kind] at path
      simp only at path ⊢
      rw [path]

/-- A tab at its end does not change what a uid comes to. -/
theorem resourceTail_tab (family : Family) (noStep : ¬ (uid = "." ∨ uid = "..")) :
    resourceTail family (uid ++ "\t") = resourceTail family uid := by
  have shown : relevant (uid ++ "\t").toList = relevant uid.toList := by
    rw [String.toList_append, relevant, List.filter_append]
    exact List.append_nil _
  have longer : ¬ (uid ++ "\t" = "." ∨ uid ++ "\t" = "..") := by
    have tab : '\t' ∈ (uid ++ "\t").toList := by
      rw [String.toList_append]
      exact List.mem_append_right _ List.mem_cons_self
    rintro (point | points)
    · rw [point] at tab
      exact absurd tab (by decide)
    · rw [points] at tab
      exact absurd tab (by decide)
  rw [resourceTail, resourceTail, if_neg longer, if_neg noStep, shown]

/-- The address of a resource has the path of the server and four segments, the third of which spells the
uid, if and only if the path of the server is not made of two empty segments and the uid can be a segment.
Uids that can be segments have addresses of their own, and every other uid shares its addresses with a
second one. -/
theorem resource_identifies_iff (given : ofAddress address = .ok s) (offered : verb ∈ verbs) (uid : String) :
    (s.Identifies uid verb ↔ s.base.segments ≠ ["", ""] ∧ IsNamable uid) ∧
    (s.resource uid verb).segments =
      root s.base.segments ++ resourceTail s.base.family uid ++ [verb] ∧
    (IsNamable uid → ∃ third, resourceTail s.base.family uid = ["api", "resource", third] ∧
      spelled third = uid.toUTF8.toList) ∧
    (IsNamable uid → ∀ other, IsNamable other → ∀ verb' ∈ verbs,
      s.resource uid verb = s.resource other verb' → uid = other ∧ verb = verb') ∧
    (¬ IsNamable uid → ∃ other, other ≠ uid ∧ s.resource other verb = s.resource uid verb) := by
  refine ⟨identifies_iff given offered, resource_segments given offered uid, fun namable => ?_,
    fun namable other namable' verb' offered' same => ?_, fun unnamable => ?_⟩
  · exact ⟨_, resourceTail_of_namable _ namable, spelled_uid _ uid⟩
  · obtain ⟨tail, verbs⟩ := (resource_eq_iff given offered offered').1 same
    rw [resourceTail_of_namable _ namable, resourceTail_of_namable _ namable'] at tail
    have escapes : escape (appendSet s.base.family) uid.toList =
        escape (appendSet s.base.family) other.toList := by simpa using tail
    exact ⟨String.toList_inj.1 (escape_inj (percent_mem_appendSet _) escapes), verbs⟩
  · by_cases here : uid = "."
    · exact ⟨"..", by rw [here]; decide, (resource_eq_iff given offered offered).2 ⟨by rw [here]; rfl, rfl⟩⟩
    by_cases back : uid = ".."
    · exact ⟨".", by rw [back]; decide, (resource_eq_iff given offered offered).2 ⟨by rw [back]; rfl, rfl⟩⟩
    · refine ⟨uid ++ "\t", fun same => ?_, (resource_eq_iff given offered offered).2
        ⟨resourceTail_tab _ (by simp [here, back]), rfl⟩⟩
      have lengths := congrArg String.length same
      rw [String.length_append] at lengths
      exact absurd lengths (by simp)

/-- The path of the server ends in two empty segments, and the uid is made of steps and escapes, which all
stand for themselves. With a line break at its end it has an address that is another one's too. -/
theorem resource_identifies_iff_steps :
    let s : Server :=
      { base :=
          { scheme := "http", authority := some { host := "[::1]", portNumber := some 8080 }
            path := .segments ["kube", "", ""], query := none, fragment := none }
        isBase := by decide }
    ofAddress "http://[::1]:8080/kube//" = .ok s ∧ "suspend" ∈ verbs ∧
      IsNamable "../%2e é" ∧ s.Identifies "../%2e é" "suspend" ∧
      (s.resource "../%2e é" "suspend").segments =
        ["kube", "", "api", "resource", "..%2F%252e%20%C3%A9", "suspend"] ∧
      ¬ IsNamable "web\n" ∧ ¬ s.Identifies "web\n" "suspend" ∧
      ∃ other, other ≠ "web\n" ∧ s.resource other "suspend" = s.resource "web\n" "suspend" := by
  intro s
  have given : ofAddress "http://[::1]:8080/kube//" = .ok s := by decide +kernel
  have offered : "suspend" ∈ verbs := by decide
  have kept : "../%2e é".toList.all (!isPassedOver ·) = true := by decide
  have namable : IsNamable "../%2e é" :=
    ⟨by decide, by decide, fun c member => by simpa using List.all_eq_true.1 kept c member⟩
  have unnamable : ¬ IsNamable "web\n" := fun h => absurd (h.2.2 '\n') (by decide)
  obtain ⟨iff, segments, -, -, -⟩ := resource_identifies_iff given offered "../%2e é"
  obtain ⟨iff', -, -, -, shared⟩ := resource_identifies_iff given offered "web\n"
  refine ⟨given, offered, namable, iff.2 ⟨by decide, namable⟩, ?_, unnamable, fun h => unnamable (iff'.1 h).2,
    shared unnamable⟩
  rw [segments]
  decide +kernel

/-- A uid with a tab is not spelled by its address. -/
theorem tab_passed_over :
    ¬ ∀ (address : String) (s : Server) (uid verb : String), ofAddress address = .ok s →
      verb ∈ verbs → s.Identifies uid verb := by
  intro every
  let s : Server :=
    { base :=
        { scheme := "http", authority := some { host := "[::1]", portNumber := some 8080 }
          path := .segments [""], query := none, fragment := none }
      isBase := by decide }
  have given : ofAddress "http://[::1]:8080" = .ok s := by decide +kernel
  have offered : "describe" ∈ verbs := by decide
  have namable := ((identifies_iff given offered).1 (every _ s "a\tb" _ given offered)).2
  exact absurd (namable.2.2 '\t' (by decide)) (by decide)

end Server

end ResourceTree
