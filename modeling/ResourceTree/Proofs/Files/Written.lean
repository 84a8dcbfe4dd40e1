import ResourceTree.Files
import ResourceTree.Proofs.Result

/-!
# Files that have been written

A text that has been written to a path is found at that path. The text is put at the place where the names
of the path lead, and it does not change where they lead: a name that could be entered before can be entered
with the text there.
-/

namespace ResourceTree.Files
set_option autoImplicit false

variable {files files' : Files} {u v w : Way} {name path text : String}

/-! ## One text more -/

/-- A text that was put somewhere is read there. -/
theorem text?_put (files : Files) (w : Way) (text : String) : (files.put w text).text? w = some text := by
  have others : (files.texts.filter (·.1 ≠ w)).find? (·.1 = w) = none := by
    rw [List.find?_eq_none]
    intro entry member
    simpa using (List.mem_filter.1 member).2
  rw [text?, put, List.find?_append, others]
  simp

theorem mem_texts_put {old : String} (member : (u, old) ∈ files.texts) (w : Way) (text : String) :
    ∃ new, (u, new) ∈ (files.put w text).texts := by
  by_cases same : u = w
  · exact ⟨text, List.mem_append_right _ (same ▸ List.mem_singleton_self _)⟩
  · exact ⟨old, List.mem_append_left _ (List.mem_filter.2 ⟨member, by simpa using same⟩)⟩

/-- A directory stays one when a text is put anywhere. -/
theorem isDirectory_put (there : files.isDirectory u = true) (w : Way) (text : String) :
    (files.put w text).isDirectory u = true := by
  simp only [isDirectory, Bool.or_eq_true] at there ⊢
  rcases there with known | above
  · exact Or.inl known
  · obtain ⟨⟨other, old⟩, member, below⟩ := List.any_eq_true.1 above
    obtain ⟨new, member'⟩ := mem_texts_put member w text
    exact Or.inr (List.any_eq_true.2 ⟨(other, new), member', below⟩)

theorem holds_put (there : files.holds u = true) (w : Way) (text : String) :
    (files.put w text).holds u = true := by
  simp only [holds, Bool.or_eq_true] at there ⊢
  refine there.imp (fun known => ?_) fun directory => isDirectory_put directory w text
  rw [text?, Option.isSome_map, List.find?_isSome] at known ⊢
  obtain ⟨⟨other, old⟩, member, same⟩ := known
  obtain ⟨new, member'⟩ := mem_texts_put member w text
  exact ⟨(other, new), member', same⟩

/-! ## The way through the names -/

theorem isDirectory_of_enter (entered : files.enter w name = .ok v ∨ files.enter w name = .error .notFound) :
    files.isDirectory w = true := by
  cases directory : files.isDirectory w with
  | true => rfl
  | false => simp [enter, directory] at entered

/-- A name that could be entered still can. -/
theorem enter_put (entered : files.enter w name = .ok v) (u : Way) (text : String) :
    (files.put u text).enter w name = .ok v := by
  have directory := isDirectory_of_enter (.inl entered)
  rw [enter] at entered ⊢
  simp only [directory, isDirectory_put directory, Bool.not_true, Bool.false_eq_true, if_false] at entered ⊢
  split at entered
  · next here => rwa [if_pos here]
  split at entered
  · next other up => rwa [if_neg other, if_pos up]
  split at entered
  · exact nomatch entered
  split at entered
  · next other low short here => rwa [if_neg other, if_neg low, if_neg short, if_pos (holds_put here u text)]
  · exact nomatch entered

/-- A name that leads nowhere leads to the text that is put there. -/
theorem enter_put_new (absent : files.enter w name = .error .notFound) (text : String) :
    (files.put (w ++ [name]) text).enter w name = .ok (w ++ [name]) := by
  have directory := isDirectory_of_enter (v := w) (.inr absent)
  have here : (files.put (w ++ [name]) text).holds (w ++ [name]) = true := by
    simp [holds, text?_put]
  rw [enter] at absent ⊢
  simp only [directory, isDirectory_put directory, Bool.not_true, Bool.false_eq_true, if_false] at absent ⊢
  split at absent
  · exact nomatch absent
  split at absent
  · exact nomatch absent
  split at absent
  · exact nomatch absent
  · next other low short => rw [if_neg other, if_neg low, if_neg short, if_pos here]

/-- So can a way through many names. -/
theorem foldlM_enter_put {names : List String} (entered : names.foldlM files.enter w = .ok v) (u : Way)
    (text : String) : names.foldlM (files.put u text).enter w = .ok v := by
  induction names generalizing w with
  | nil => exact entered
  | cons name names ih =>
    rw [List.foldlM_cons, bind_eq_ok] at entered ⊢
    obtain ⟨next, first, rest⟩ := entered
    exact ⟨next, enter_put first u text, ih rest⟩

/-! ## Paths -/

/-- A text is found at a path whose names lead to it. -/
theorem find_of_enter (short : ¬Path.maxBytes < path.utf8ByteSize)
    (before : (Path.names path).dropLast.foldlM files.enter (.start path) = .ok w)
    (last : (Path.names path).getLast? = some name) (entered : files.enter w name = .ok v)
    (file : Path.endsInSolidus path = false) (held : files.text? v = some text) : files.find path = .file text := by
  have split : Path.names path = (Path.names path).dropLast ++ [name] := by
    obtain ⟨names, eq⟩ := List.getLast?_eq_some_iff.1 last
    rw [eq, List.dropLast_concat]
  have notEmpty : path ≠ "" := by
    rintro rfl
    exact nomatch last
  have led : (Path.names path).foldlM files.enter (.start path) = .ok v := by
    rw [split, List.foldlM_append, before]
    change List.foldlM files.enter w [name] = _
    simpa using entered
  have located : files.locate path = .ok v := by
    rw [locate, if_neg short, if_neg notEmpty, led, file]
    rfl
  rw [find, located]
  simp only [held]

/-- What is written to a path is found there. -/
theorem find_of_writeFile (written : files.writeFile path text = .ok files') : files'.find path = .file text := by
  rw [writeFile] at written
  split at written
  · exact nomatch written
  next short =>
  obtain ⟨w, before, written⟩ := bind_eq_ok.1 written
  split at written
  · exact nomatch written
  next name last =>
  simp only at written
  split at written
  · exact nomatch written
  next noDirectory =>
  have file (inside : files.isDirectory w = true) : Path.endsInSolidus path = false :=
    Bool.eq_false_iff.2 fun solidus => noDirectory ⟨solidus, inside⟩
  split at written
  · next v entered =>
    split at written
    · exact nomatch written
    obtain rfl := Except.ok.inj written
    exact find_of_enter short (foldlM_enter_put before v text) last (enter_put entered v text)
      (file (isDirectory_of_enter (.inl entered))) (text?_put files v text)
  · next absent =>
    obtain rfl := Except.ok.inj written
    exact find_of_enter short (foldlM_enter_put before _ text) last (enter_put_new absent text)
      (file (isDirectory_of_enter (v := w) (.inr absent))) (text?_put files _ text)
  · exact nomatch written

/-- A file that was written is found with its text. -/
theorem find_of_write (written : files.write path text = .ok files') : files'.find path = .file text := by
  obtain ⟨made, -, done⟩ := bind_eq_ok.1 written
  exact find_of_writeFile (mapError_eq_ok.1 done)

end ResourceTree.Files
