import MarkdownTemplate.Path

/-!
# Canonical paths

A path that is absolute and holds no `..` needs no working directory to be understood. This file
fixes

* `Text.pieces_joined` -- texts without the separator, put together with it, are its pieces;
* `Path.IsName`, `Path.ofText_text` -- the names that a path can be read with, and that such a path
  is what its text denotes;
* `Path.Canonical` -- the absolute paths without `..`; `Path.canonical_absolute` -- every text
  denotes one;
* `Path.absolute_text` -- the text of a canonical path denotes it in every working directory.
-/

namespace MarkdownTemplate

/-! ## 1. Pieces -/

namespace Text

variable {sep : Char} {s part : Text} {parts : List Text}

/-- No piece holds the separator. -/
theorem not_mem_of_mem_pieces (h : part ∈ pieces sep s) : sep ∉ part := by
  induction s generalizing part with
  | nil =>
      rw [pieces, List.mem_singleton] at h
      simp [h]
  | cons c s ih =>
      rw [pieces] at h
      split at h
      · rcases List.mem_cons.mp h with rfl | h
        · simp
        · exact ih h
      · rename_i hc
        cases hs : pieces sep s with
        | nil => exact absurd hs (pieces_ne_nil sep s)
        | cons first rest =>
            rw [hs] at h ih
            rcases List.mem_cons.mp h with rfl | h
            · rw [List.mem_cons, not_or]
              exact ⟨fun heq => hc heq.symm, ih List.mem_cons_self⟩
            · exact ih (List.mem_cons_of_mem _ h)

/-- A text without the separator is one piece. -/
theorem pieces_of_not_mem (h : sep ∉ s) : pieces sep s = [s] := by
  induction s with
  | nil => rfl
  | cons c s ih =>
      rw [List.mem_cons, not_or] at h
      obtain ⟨hc, hs⟩ := h
      rw [pieces, if_neg fun heq => hc heq.symm, ih hs]

/-- A separator ends the pieces in front of it. -/
theorem pieces_append (sep : Char) (s t : Text) :
    pieces sep (s ++ sep :: t) = pieces sep s ++ pieces sep t := by
  induction s with
  | nil => exact if_pos rfl
  | cons c s ih =>
      rw [List.cons_append, pieces, pieces, ih]
      split
      · rfl
      · cases hs : pieces sep s with
        | nil => exact absurd hs (pieces_ne_nil sep s)
        | cons first rest => rfl

/-- **Texts without the separator, put together with it, are its pieces.** -/
theorem pieces_joined (hne : parts ≠ []) (h : ∀ part ∈ parts, sep ∉ part) :
    pieces sep (joined [sep] parts) = parts := by
  induction parts with
  | nil => exact absurd rfl hne
  | cons part rest ih =>
      obtain ⟨hpart, hrest⟩ := List.forall_mem_cons.mp h
      cases rest with
      | nil =>
          rw [joined, List.intercalate_singleton]
          exact pieces_of_not_mem hpart
      | cons next rest =>
          rw [joined, List.intercalate_cons_cons, List.append_assoc, List.singleton_append,
            pieces_append, pieces_of_not_mem hpart]
          exact congrArg (part :: ·) (ih (List.cons_ne_nil _ _) hrest)

end Text

namespace Path

variable {p cwd : Path} {anchor : Anchor} {names : List Text} {s : Text}

/-! ## 2. Paths and their texts -/

/-- A name that a path can be read with. -/
structure IsName (name : Text) : Prop where
  nonempty : name ≠ []
  noDot : name ≠ ['.']
  noSlash : '/' ∉ name

theorem isName_of_mem_namesOf {name : Text} (h : name ∈ namesOf s) : IsName name := by
  obtain ⟨hmem, htest⟩ := List.mem_filter.mp h
  obtain ⟨hnonempty, hdot⟩ := Bool.and_eq_true_iff.mp htest
  exact ⟨by simpa using hnonempty, by simpa using hdot, Text.not_mem_of_mem_pieces hmem⟩

/-- Names are read back from between slashes. -/
theorem namesOf_joined (h : ∀ name ∈ names, IsName name) :
    namesOf (Text.joined ['/'] names) = names := by
  cases names with
  | nil => rfl
  | cons first rest =>
      rw [namesOf, Text.pieces_joined (List.cons_ne_nil _ _) fun name hname =>
        (h name hname).noSlash]
      refine List.filter_eq_self.mpr fun name hname => ?_
      simp [(h name hname).nonempty, (h name hname).noDot]

theorem namesOf_slashes (anchor : Anchor) (s : Text) :
    namesOf (slashes anchor ++ s) = namesOf s := by
  have hslash : ∀ s : Text, namesOf ('/' :: s) = namesOf s := fun s => rfl
  cases anchor with
  | here => rfl
  | root => exact hslash s
  | doubleRoot => exact (hslash ('/' :: s)).trans (hslash s)

/-- The text of names does not begin with a slash: there would be an empty piece in front of it. -/
theorem head?_joined (h : ∀ name ∈ names, IsName name) :
    (Text.joined ['/'] names).head? ≠ some '/' := by
  intro hslash
  obtain ⟨tail, htail⟩ := List.head?_eq_some_iff.mp hslash
  cases names with
  | nil => cases htail
  | cons first rest =>
      have hpieces := Text.pieces_joined (List.cons_ne_nil first rest)
        fun name hname => (h name hname).noSlash
      rw [htail, ← List.nil_append ('/' :: tail), Text.pieces_append] at hpieces
      exact (h [] (hpieces ▸ List.mem_cons_self)).nonempty rfl

theorem takeWhile_slash (h : s.head? ≠ some '/') : s.takeWhile (· == '/') = [] := by
  cases s with
  | nil => rfl
  | cons c rest => exact List.takeWhile_cons_of_neg (by simpa using h)

/-- Slashes in front of a text that does not begin with one say where it starts. -/
theorem anchorOf_slashes (h : s.head? ≠ some '/') (anchor : Anchor) :
    anchorOf (slashes anchor ++ s) = anchor := by
  have htake : (slashes anchor ++ s).takeWhile (· == '/') = slashes anchor := by
    have hall : ∀ c ∈ slashes anchor, (c == '/') = true := by cases anchor <;> simp [slashes]
    rw [List.takeWhile_append_of_pos hall, takeWhile_slash h, List.append_nil]
  rw [anchorOf, htake]
  cases anchor <;> rfl

/-- **A path is what its text denotes**, if it passes through names. -/
theorem ofText_text (h : ∀ name ∈ p.names, IsName name) : ofText p.text = p := by
  obtain ⟨anchor, names⟩ := p
  unfold text
  split
  · rename_i hnowhere
    obtain ⟨rfl, rfl⟩ : anchor = .here ∧ names = [] := hnowhere
    decide
  · rw [ofText, anchorOf_slashes (head?_joined h), namesOf_slashes, namesOf_joined h]

/-! ## 3. Canonical paths -/

/-- **The path is canonical**: it starts at the root and passes through names, none of which leads
    back. -/
structure Canonical (p : Path) : Prop where
  absolute : p.isAbsolute = true
  isName : ∀ name ∈ p.names, IsName name
  noUp : ['.', '.'] ∉ p.names

theorem climb_down {passed : List Text} {name : Text} (h : name ≠ ['.', '.']) :
    climb anchor passed name = name :: passed :=
  if_neg h

theorem climb_up {top : Text} {rest : List Text} (h : top ≠ ['.', '.']) :
    climb anchor (top :: rest) ['.', '.'] = rest := by
  simp [climb, h]

/-- At the root there is nothing to take back. -/
theorem climb_up_nil (h : anchor ≠ .here) : climb anchor [] ['.', '.'] = [] := by
  simp [climb, h]

/-- Names that do not lead back are passed through one after another. -/
theorem foldl_climb (h : ['.', '.'] ∉ names) (anchor : Anchor) (passed : List Text) :
    names.foldl (climb anchor) passed = names.reverse ++ passed := by
  induction names generalizing passed with
  | nil => rfl
  | cons name rest ih =>
      rw [List.mem_cons, not_or] at h
      obtain ⟨hname, hrest⟩ := h
      rw [List.foldl_cons, climb_down (Ne.symm hname), ih hrest, List.reverse_cons,
        List.append_assoc]
      rfl

theorem normal_of_noUp (h : ['.', '.'] ∉ p.names) : p.normal = p := by
  rw [normal, foldl_climb h, List.append_nil, List.reverse_reverse]

/-- A step adds no name but its own. -/
theorem mem_of_mem_climb {passed : List Text} {name other : Text}
    (h : other ∈ climb anchor passed name) : other = name ∨ other ∈ passed := by
  unfold climb at h
  split at h
  · split at h
    · split at h
      · exact .inl (List.mem_singleton.mp h)
      · cases h
    · split at h
      · exact List.mem_cons.mp h
      · exact .inr (List.mem_cons_of_mem _ h)
  · exact List.mem_cons.mp h

/-- From the root on, no step leaves a `..` behind. -/
theorem climb_noUp {passed : List Text} (hanchor : anchor ≠ .here) (hpassed : ['.', '.'] ∉ passed)
    (name : Text) : ['.', '.'] ∉ climb anchor passed name := by
  by_cases hup : name = ['.', '.']
  · subst hup
    cases passed with
    | nil => rw [climb_up_nil hanchor]; exact List.not_mem_nil
    | cons top rest =>
        rw [List.mem_cons, not_or] at hpassed
        rw [climb_up (Ne.symm hpassed.1)]
        exact hpassed.2
  · rw [climb_down hup, List.mem_cons, not_or]
    exact ⟨Ne.symm hup, hpassed⟩

/-- A normal path passes through names if the path does. -/
theorem isName_normal (h : ∀ name ∈ p.names, IsName name) :
    ∀ name ∈ p.normal.names, IsName name := by
  have hfold : ∀ name ∈ p.names.foldl (climb p.anchor) [], IsName name := by
    refine List.foldlRecOn p.names (climb p.anchor) (motive := fun passed => ∀ n ∈ passed, IsName n)
      (by simp) fun passed hpassed name hname other hother => ?_
    rcases mem_of_mem_climb hother with rfl | hmem
    · exact h _ hname
    · exact hpassed _ hmem
  exact fun name hname => hfold name (List.mem_reverse.mp hname)

/-- An absolute path through names becomes canonical. -/
theorem canonical_normal (habs : p.isAbsolute = true) (h : ∀ name ∈ p.names, IsName name) :
    p.normal.Canonical := by
  have hanchor : p.anchor ≠ .here := by simpa [isAbsolute] using habs
  have hnoUp : ['.', '.'] ∉ p.names.foldl (climb p.anchor) [] :=
    List.foldlRecOn p.names (climb p.anchor) (motive := fun passed => ['.', '.'] ∉ passed)
      List.not_mem_nil fun _ hpassed name _ => climb_noUp hanchor hpassed name
  exact ⟨habs, isName_normal h, fun hup => hnoUp (List.mem_reverse.mp hup)⟩

/-- A text that denotes an absolute path denotes a canonical one. -/
theorem canonical_ofText (h : (ofText s).isAbsolute = true) : (ofText s).normal.Canonical :=
  canonical_normal h fun _ hname => isName_of_mem_namesOf hname

/-- A joined path passes through the names of the directory and those in the text. -/
theorem isName_join {dir : Path} (h : dir.Canonical) (s : Text) :
    ∀ name ∈ (dir.join (ofText s)).names, IsName name := by
  intro name hname
  rw [join] at hname
  split at hname
  · exact isName_of_mem_namesOf hname
  · rcases List.mem_append.mp hname with hname | hname
    · exact h.isName name hname
    · exact isName_of_mem_namesOf hname

/-- **Every text denotes a canonical path** in a canonical working directory. -/
theorem canonical_absolute (hcwd : cwd.Canonical) (s : Text) : (absolute cwd s).Canonical := by
  refine canonical_normal ?_ (isName_join hcwd s)
  unfold join
  split
  · assumption
  · exact hcwd.absolute

theorem canonical_parent (h : p.Canonical) : p.parent.Canonical :=
  ⟨h.absolute, fun _ hname => h.isName _ (List.dropLast_subset _ hname),
    fun hup => h.noUp (List.dropLast_subset _ hup)⟩

/-- A text that denotes an absolute path denotes the same in every working directory. -/
theorem absolute_of_isAbsolute (h : (ofText s).isAbsolute = true) (cwd : Path) :
    absolute cwd s = (ofText s).normal := by
  rw [absolute, join, if_pos h]

/-- **The text of a canonical path denotes it** in every working directory. -/
theorem absolute_text (h : p.Canonical) (cwd : Path) : absolute cwd p.text = p := by
  have hof := ofText_text h.isName
  rw [absolute_of_isAbsolute (hof.symm ▸ h.absolute), hof, normal_of_noUp h.noUp]

end Path

end MarkdownTemplate
