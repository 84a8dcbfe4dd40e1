import ResourceTree.Proofs.Yaml.Scalars

/-!
# Tokens of structure

Keys, the dashes of items, and empty collections. A key is scanned before it is known to be one: its colon
fills the slot in front of it, and opens a mapping where the key lies further in than the one around it.
-/

namespace ResourceTree.Yaml
set_option autoImplicit false

open Printer (isPrintable isSpace)

namespace Scan

variable {s r : Scan} {allowed : Bool} {text : List Char} {column : Nat} {b : Blocks}

/-! ## Keys -/

/-- A name that is short enough for a key. -/
structure IsKey (k : String) : Prop where
  chars : ∀ ch ∈ k.toList, ch.isAlphanum = true
  some : k.toList ≠ []
  short : k.toList.length ≤ keyLimit

instance (k : String) : Decidable (IsKey k) :=
  decidable_of_iff (k.toList.all Char.isAlphanum = true ∧ k.toList ≠ [] ∧ k.toList.length ≤ keyLimit)
    ⟨fun ⟨chars, ne, short⟩ => ⟨List.all_eq_true.1 chars, ne, short⟩,
      fun key => ⟨List.all_eq_true.2 key.chars, key.some, key.short⟩⟩

theorem IsKey.isWord {k : String} (key : IsKey k) : IsWord k.toList where
  chars := fun ch member => by simp [isWordChar, key.chars ch member]
  some := key.some
  noDash := by
    intro dash
    have letter := key.chars '-' (by rw [dash]; exact List.mem_cons_self)
    exact absurd letter (by decide)

theorem unindentFrom_of_le {column' : Int} (le : s.indent ≤ column') (outer : List Int) :
    unindentFrom column' s outer = s := by
  cases outer with
  | nil => rfl
  | cons i outer => rw [unindentFrom, if_neg (Int.not_lt.2 le)]

/-- Filling a slot changes no other one. -/
theorem fill_of_fresh {items : List Item} {t : Token} {slot : Nat} (filling : List Token)
    (eq : s.items = .token t :: .slot slot [] :: items)
    (fresh : ∀ id filling, Item.slot id filling ∈ items → id < slot) :
    s.fill slot filling = { s with items := .token t :: .slot slot filling :: items } := by
  have others (f : Item → Item) (same : ∀ item ∈ items, f item = item) : items.map f = items :=
    (List.map_congr_left same).trans (List.map_id _)
  rw [fill, eq, List.map_cons, List.map_cons, others]
  · simp only [if_pos]
  · intro item member
    cases item with
    | token t => rfl
    | slot id f => exact if_neg (Nat.ne_of_lt (fresh id f member))

/-- The state between a key and its colon. -/
structure BeforeColon (u : Scan) (k : String) (text : List Char) (column : Nat) (b : Blocks)
    (before : List Item) (cand : Candidate) : Prop where
  rest : u.cursor.rest = ':' :: text
  place : u.cursor.column = column + k.toList.length
  indent : u.indent = b.indent
  outer : u.outer = b.outer
  candidates : u.candidates = [some cand]
  begins : cand.column = column
  near : u.dropStale = .ok u
  items : u.items = .token (.scalar .plain k) :: .slot cand.slot [] :: before
  slots : u.slots = cand.slot + 1
  out : tokensOf before.reverse = b.out
  fresh : ∀ id filling, Item.slot id filling ∈ before → id < cand.slot

/-- The text of a key. -/
theorem Comes.keyText {k : String} (key : IsKey k) (comes : Comes s true (k.toList ++ ':' :: text) column b)
    (gap : ∀ after ∈ text.head?, (isBlank after || isBreak after) = true) :
    ∃ u before cand, Reaches s u ∧ BeforeColon u k text column b before cand := by
  obtain ⟨r, settled, there, le'⟩ := comes
  obtain ⟨ch, more, chars⟩ := List.exists_cons_of_ne_nil key.some
  have begins := there.rest
  rw [chars, List.cons_append] at begins
  let cand : Candidate :=
    { slot := r.slots, required := decide (r.indent = r.cursor.column), index := r.cursor.index,
      line := r.cursor.line, column := r.cursor.column }
  let noted : Scan :=
    { r with candidates := [some cand], items := .slot r.slots [] :: r.items, slots := r.slots + 1 }
  let c := r.cursor.skip k.toList.length
  let u := { noted with keyAllowed := false }.emitUpTo (.scalar .plain k) c
  have token : r.token ch = .ok u := by
    have letter := key.chars ch (by rw [chars]; exact List.mem_cons_self)
    have noMark (mark : Char) (noLetter : mark.isAlphanum = false) :
        r.cursor.seesDocumentMark mark = false := by
      have other : ch ≠ mark := by
        rintro rfl
        rw [letter] at noLetter
        exact nomatch noLetter
      simp [Cursor.seesDocumentMark, Cursor.sees, begins, other]
    have part : PlainPart none (ch :: more) := chars ▸ key.isWord.plainPart
    have noSpace : isSpace ch = false :=
      isSpace_of_isWordChar (key.isWord.chars ch (by rw [chars]; exact List.mem_cons_self))
    obtain ⟨noIndicator, noGap⟩ := no_mark_of_part part begins
    have dispatch : r.token ch = r.plain :=
      At.token_plain { there with rest := begins } (part.solid noSpace) noIndicator
        ⟨noMark '-' (by decide), noMark '.' (by decide)⟩ noGap
    have reads : Content.plain noted.inFlow (noted.indent + 1) (2 * noted.cursor.rest.length + 1) [] {}
        noted.cursor = .ok (k.toList, false, c) :=
      plain_key key.isWord.plainPart key.isWord.begins there.rest gap
        (fun space => absurd (key.chars ' ' space) (by decide))
        (by rw [show noted.cursor.rest = _ from there.rest]; simp; omega)
    rw [dispatch, Scan.plain, there.noteCandidate_eq]
    change (Content.plain noted.inFlow (noted.indent + 1) (2 * noted.cursor.rest.length + 1) [] {}
      noted.cursor >>= _) = _
    rw [reads]
    change Except.ok _ = _
    rw [String.ofList_toList]
  have near : u.dropStale = .ok u := by
    have near : (decide (cand.line < c.line) || decide (cand.index + keyLimit < c.index)) = false := by
      have short := key.short
      simp only [cand, c, Cursor.skip, Bool.or_eq_false_iff, decide_eq_false_iff_not]
      omega
    have kept : [some cand].mapM (fun k =>
        if k.any fun k => decide (k.line < c.line) || decide (k.index + keyLimit < c.index) then abandon k
        else .ok k) = .ok [some cand] := by
      rw [List.mapM_cons, List.mapM_nil, Option.any_some, near]
      rfl
    change (_ >>= fun candidates => Except.ok { u with candidates } : Except Break Scan) = _
    exact (congrArg (· >>= _) kept).trans rfl
  have colon : u.cursor.rest = ':' :: text := by
    change (r.cursor.skip _).rest = _
    rw [rest_skip, there.rest, List.drop_left]
  refine ⟨u, r.items, cand, Reaches.of_next ?_ ?_,
    { rest := colon, place := congrArg (· + _) there.column, indent := there.indent, outer := there.outer
      candidates := rfl, begins := there.column, near, items := rfl, out := there.out, fresh := there.fresh
      slots := rfl }⟩
  · have head : r.cursor.head? = some ch := by rw [Cursor.head?, begins]; rfl
    rw [next_eq, settled]
    simp only [bind, Except.bind, head, token, near]
    rfl
  · have pos := List.length_pos_iff.2 key.some
    rw [colon]
    simp at le' ⊢
    omega

/-- The colon makes a key of the candidate, and opens a mapping where the key lies further in. -/
theorem BeforeColon.colon {u : Scan} {k : String} {before : List Item} {cand : Candidate}
    (there : BeforeColon u k text column b before cand)
    (gap : ∀ after ∈ text.head?, (isBlank after || isBreak after) = true) (some : k.toList ≠ [])
    (le : b.indent ≤ column) :
    ∃ t, Reaches u t ∧ At t false text (column + k.toList.length + 1)
      ((b.opened column).emits [.key, .scalar .plain k, .value]) := by
  have settled : u.settle = .ok u := by
    have passed : u.passGap (u.cursor.rest.length + 1) = u :=
      passGap_blanks (n := 0) _ there.rest
        (by rintro _ ⟨⟩; exact ⟨⟨by decide, by decide⟩, by decide, by decide⟩)
    have stands : u.unindentTo u.cursor.column = u := by
      rw [unindentTo, unindentFrom_of_le (by rw [there.indent, there.place]; omega), ite_self]
    rw [settle, passed, there.near]
    change Except.ok (u.unindentTo u.cursor.column) = _
    rw [stands]
  have token : u.token ':' = u.value := by
    have column0 : u.cursor.column ≠ 0 := by
      have pos := List.length_pos_iff.2 some
      rw [there.place]
      omega
    have seesGap : u.cursor.seesGap 1 = true := by
      cases text with
      | nil => simp [Cursor.seesGap, there.rest]
      | cons after text => simpa [Cursor.seesGap, there.rest] using gap after rfl
    simp [Scan.token, column0, not_seesDocumentMark, seesGap]
  let filling : List Token := if b.indent < column then [.blockMapping, .key] else [.key]
  let t : Scan :=
    { cursor := u.cursor.skip, indent := (b.opened column).indent, outer := (b.opened column).outer
      keyAllowed := false, candidates := [none], slots := u.slots
      items := .token .value :: .token (.scalar .plain k) :: .slot cand.slot filling :: before }
  have value : u.value = .ok t := by
    let s₁ : Scan := { u with candidates := [none], keyAllowed := false }
    have indented : s₁.indentTo cand.column =
        ({ s₁ with indent := (b.opened column).indent, outer := (b.opened column).outer },
          decide (b.indent < column)) := by
      have compared : (!s₁.inFlow && decide (s₁.indent < cand.column)) = decide (b.indent < column) := by
        rw [there.begins, show s₁.indent = b.indent from there.indent]
        rfl
      rw [indentTo, compared, Blocks.opened]
      by_cases less : b.indent < column
      · simp only [less, decide_true, if_true, there.begins, s₁, there.indent, there.outer]
      · simp only [less, decide_false, if_false, Bool.false_eq_true, s₁, there.indent, there.outer]
    have filled := fill_of_fresh
      (s := { s₁ with indent := (b.opened column).indent, outer := (b.opened column).outer }) filling
      there.items there.fresh
    have chosen : (if decide (b.indent < column) = true then [Token.blockMapping, .key] else [.key]) = filling := by
      simp only [filling, decide_eq_true_eq]
    rw [Scan.value, there.candidates]
    change Except.ok ((Scan.fill cand.slot (if (s₁.indentTo cand.column).2 = true then _ else _)
      (s₁.indentTo cand.column).1).emitPassing .value 1) = _
    rw [indented]
    simp only [chosen]
    rw [filled]
    rfl
  have there' : At t false text (column + k.toList.length + 1)
      ((b.opened column).emits [.key, .scalar .plain k, .value]) :=
    { rest := by rw [rest_skip, there.rest]; rfl
      column := congrArg (· + 1) there.place
      allowed := rfl
      indent := rfl
      outer := rfl
      out := by
        have split : t.items.reverse =
            before.reverse ++ [.slot cand.slot filling, .token (.scalar .plain k), .token .value] := by
          simp [t]
        rw [split, tokensOf_append, there.out, Blocks.emits, Blocks.opened]
        by_cases less : b.indent < column
        · simp [filling, less, tokensOf]
        · simp [filling, less, tokensOf]
      fresh := by
        intro id f member
        rw [show t.slots = cand.slot + 1 from there.slots]
        simp only [t, List.mem_cons, reduceCtorEq, Item.slot.injEq, false_or] at member
        rcases member with ⟨rfl, -⟩ | member
        · exact Nat.lt_succ_self _
        · exact Nat.lt_succ_of_lt (there.fresh id f member)
      candidate := ⟨none, rfl, by simp⟩ }
  obtain ⟨k', dropped, free⟩ := there'.dropStale
  refine ⟨_, Reaches.of_next ?_ ?_, there'.noted free⟩
  · have head : u.cursor.head? = Option.some ':' := by rw [Cursor.head?, there.rest]; rfl
    rw [next_eq, settled]
    simp only [bind, Except.bind, head, token, value, dropped]
    rfl
  · rw [show t.cursor.rest = text from there'.rest, there.rest]
    exact Nat.lt_succ_self _

/-- A key with its colon. -/
theorem Comes.key {k : String} (key : IsKey k) (comes : Comes s true (k.toList ++ ':' :: text) column b)
    (gap : ∀ after ∈ text.head?, (isBlank after || isBreak after) = true) (le : b.indent ≤ column) :
    ∃ t, Reaches s t ∧ At t false text (column + k.toList.length + 1)
      ((b.opened column).emits [.key, .scalar .plain k, .value]) := by
  obtain ⟨u, before, cand, reaches, there⟩ := comes.keyText key gap
  obtain ⟨t, reaches', at'⟩ := there.colon gap key.some le
  exact ⟨t, reaches.trans reaches', at'⟩

/-! ## Dashes and empty collections -/

/-- The dash of an item that is not moved in. -/
theorem Comes.dash {i : Nat} (comes : Comes s true ('-' :: ' ' :: text) i b) (indent : b.indent = i) :
    ∃ t, Reaches s t ∧ At t true (' ' :: text) (i + 1) (b.emits [.dash]) := by
  have token {r : Scan} (there : At r true ('-' :: ' ' :: text) i b) :
      ∃ r' column', r.token '-' = .ok r' ∧ column' = i + 1 ∧ At r' true (' ' :: text) column' (b.emits [.dash]) := by
    have noMark (mark : Char) : r.cursor.seesDocumentMark mark = false := by
      by_cases dash : '-' = mark
      · simp [Cursor.seesDocumentMark, Cursor.sees, there.rest, ← dash]
      · simp [Cursor.seesDocumentMark, Cursor.sees, there.rest, dash]
    have dispatch : r.token '-' = r.dash := by
      simp [Scan.token, noMark, Cursor.seesGap, there.rest, isBlank]
    have opens : r.openBlock .blockSequence .blockEntryHere = .ok r := by
      have stays : ¬ r.indent < r.cursor.column := by
        rw [there.indent, there.column, indent]
        exact Int.lt_irrefl _
      simp [openBlock, there.inFlow, there.allowed, indentTo, stays]
    refine ⟨_, _, ?_, rfl, (there.noted (k := none) (by simp)).emitPassing .dash 1 true⟩
    rw [dispatch, Scan.dash, opens]
    simp only [bind, Except.bind, there.dropCandidate]
    rfl
  obtain ⟨t, _, reaches, rfl, there⟩ := comes.step token (Nat.le_refl _)
  exact ⟨t, reaches, there⟩

/-- Inside brackets that hold no candidate of their own. -/
theorem At.dropStale_inside (here : At s allowed text column b) :
    ∃ k, ({ s with candidates := none :: s.candidates } : Scan).dropStale =
      .ok { s with candidates := [none, k] } ∧ ∀ k' ∈ k, k'.required = false := by
  obtain ⟨k, eq, free⟩ := here.candidate
  rw [Scan.dropStale, eq, List.mapM_cons, List.mapM_cons, List.mapM_nil, Option.any_none,
    if_neg Bool.false_ne_true]
  split
  · refine ⟨none, ?_, by simp⟩
    cases k with
    | none => rfl
    | some k => simp [abandon, free k rfl, bind, Except.bind, pure, Except.pure]
  · exact ⟨k, rfl, free⟩

/-- Brackets with what they open and close. -/
inductive Brackets : Char → Token → Char → Token → Prop where
  | sequence : Brackets '[' .openSequence ']' .closeSequence
  | mapping : Brackets '\x7b' .openMapping '\x7d' .closeMapping

/-- An opening bracket with the closing one. -/
theorem Comes.brackets {o e : Char} {opening ending : Token} (brackets : Brackets o opening e ending)
    (comes : Comes s false (o :: e :: text) column b) (column0 : column ≠ 0) :
    ∃ t, Reaches s t ∧ At t false text (column + 2) (b.emits [opening, ending]) := by
  obtain ⟨r, settled, there, le⟩ := comes
  have token : r.token o = .ok (({ r with candidates := none :: r.candidates, keyAllowed := true }).emitPassing
      opening 1) := by
    have column0 : r.cursor.column ≠ 0 := by rwa [there.column]
    have dispatch : r.token o = r.openFlow opening := by
      cases brackets <;> simp [Scan.token, column0, not_seesDocumentMark]
    rw [dispatch, openFlow, Scan.noteCandidate, if_neg (by rw [there.allowed]; decide)]
    rfl
  have inside : At ({ r with keyAllowed := true }.emitPassing opening 1) true (e :: text) (column + 1)
      (b.emits [opening]) := there.emitPassing opening 1 true
  generalize eq : { r with keyAllowed := true }.emitPassing opening 1 = q at inside
  replace token : r.token o = .ok { q with candidates := none :: q.candidates } := eq ▸ token
  obtain ⟨k, dropped, free⟩ := inside.dropStale_inside
  let u : Scan := { q with candidates := [none, k] }
  have first : s.next = .ok (u, false) := by
    have head : r.cursor.head? = some o := by rw [Cursor.head?, there.rest]; rfl
    rw [next_eq, settled]
    simp only [bind, Except.bind, head, token, dropped]
    rfl
  -- the closing bracket
  obtain ⟨k₂, dropped₂, free₂⟩ := (inside.noted free).dropStale_inside
  let u₂ : Scan := { q with candidates := [none, k₂] }
  have settled₂ : u.settle = .ok u₂ := by
    have clear : Clear (e :: text) := by
      rintro _ ⟨⟩
      cases brackets <;> exact ⟨⟨by decide, by decide⟩, by decide, by decide⟩
    have passed : u.passGap (u.cursor.rest.length + 1) = u := passGap_blanks (n := 0) _ inside.rest clear
    rw [settle, passed]
    change (({ q with candidates := [none, k] } : Scan).dropStale >>= _) = _
    rw [dropped₂]
    rfl
  have there₂ := (inside.noted free₂).emitPassing ending 1 false
  rw [Blocks.emits_emits] at there₂
  have token₂ : u₂.token e =
      .ok (({ q with candidates := [k₂], keyAllowed := false } : Scan).emitPassing ending 1) := by
    have column0 : u₂.cursor.column ≠ 0 := by
      change q.cursor.column ≠ 0
      rw [inside.column]
      omega
    have dispatch : u₂.token e = u₂.closeFlow ending := by
      cases brackets <;> simp [Scan.token, column0, not_seesDocumentMark]
    rw [dispatch]
    rfl
  obtain ⟨k₃, dropped₃, free₃⟩ := there₂.dropStale
  have second : u.next = .ok ({ ({ q with candidates := [k₂], keyAllowed := false } : Scan).emitPassing ending 1
      with candidates := [k₃] }, false) := by
    have head : u₂.cursor.head? = some e := by
      change q.cursor.rest.head? = _
      rw [inside.rest]
      rfl
    rw [next_eq, settled₂]
    simp only [bind, Except.bind, head, token₂, dropped₃]
    rfl
  have rest : u.cursor.rest = e :: text := inside.rest
  refine ⟨_, (Reaches.of_next first ?_).trans (Reaches.of_next second ?_), there₂.noted free₃⟩
  · rw [rest]
    simp at le ⊢
    omega
  · rw [show Cursor.rest _ = text from there₂.rest, rest]
    exact Nat.lt_succ_self _

end Scan

end ResourceTree.Yaml
