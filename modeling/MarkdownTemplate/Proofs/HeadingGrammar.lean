import MarkdownTemplate.Heading.Fields
import MarkdownTemplate.Proofs.Recutting

/-!
# The grammar of headings

A heading is read off a line by dropping what stands around its title, one thing after another.
This file says what a heading is without dropping anything, and what it is to someone who tries to
cut the line into its parts. It fixes

* `Text.Bared` -- a text without the characters of a class at its ends;
* `Heading.IsClosing`, `Heading.Unclosed` -- closing runs, and a title without its closing run;
* `Heading.Opens`, `Heading.Titled`, `Heading.Written` -- **the grammar**: a line is made of an
  indentation, hashes and the rest, and the rest holds a title;
* `Heading.Cut`, `Heading.Chosen` -- the ways to cut a line into the parts of a heading, and the one
  that counts: the most spaces in front of the title first, then the shortest title;
* `Heading.parse?_eq_some_iff` -- a line is a heading exactly if one is written on it;
  `Heading.written_iff_chosen` -- what is written on it is read off the cut that counts;
* **`Heading.parse?_iff_written`** -- the grammar, the cut that counts and the check of a heading's
  fields all agree.
-/

namespace MarkdownTemplate

/-! ## 1. The ends of a text -/

namespace Text

variable {p : Char → Bool} {s t : Text}

/-- **A text without the characters of a class at its ends.** None of them is left there. -/
structure Bared (p : Char → Bool) (s t : Text) : Prop where
  parts : ∃ front back, s = front ++ (t ++ back) ∧ (∀ c ∈ front, p c = true) ∧
    ∀ c ∈ back, p c = true
  head : ∀ c ∈ t.head?, p c = false
  last : ∀ c ∈ t.getLast?, p c = false

theorem bared_iff : Bared p s t ↔ dropTrailing p (s.dropWhile p) = t := by
  constructor
  · rintro ⟨⟨front, back, rfl, hfront, hback⟩, hhead, hlast⟩
    rw [List.dropWhile_append_of_pos hfront]
    cases t with
    | nil =>
        rw [List.nil_append, ← List.append_nil back, List.dropWhile_append_of_pos hback]
        rfl
    | cons c rest =>
        have hc : p c = false := hhead c rfl
        rw [List.cons_append, List.dropWhile_cons_of_neg (by simp [hc]), ← List.cons_append,
          dropTrailing_append_of_forall hback, dropTrailing_of_getLast? hlast]
  · rintro rfl
    refine ⟨⟨s.takeWhile p, takeTrailing p (s.dropWhile p), ?_, ?_, fun c => mem_takeTrailing⟩,
      fun c hc => ?_, fun c => getLast?_dropTrailing⟩
    · rw [dropTrailing_append_takeTrailing, List.takeWhile_append_dropWhile]
    · exact fun c hc => List.all_eq_true.mp List.all_takeWhile c hc
    · exact (takeWhile_dropWhile_iff.mp ⟨rfl, rfl⟩).2.2 c (head?_of_dropTrailing hc)

/-- A text is trimmed by baring it of blanks. -/
theorem bared_isSpace_iff : Bared isSpace s t ↔ trim s = t :=
  bared_iff

/-- What is found of one character is a run of it. -/
theorem replicate_takeWhile (c : Char) (s : Text) :
    List.replicate (s.takeWhile (· == c)).length c = s.takeWhile (· == c) :=
  (List.eq_replicate_iff.mpr ⟨rfl, fun x hx => by
    simpa using List.all_eq_true.mp List.all_takeWhile x hx⟩).symm

/-- What is dropped of one character is a run of it. -/
theorem exists_replicate (c : Char) (s : Text) :
    ∃ n, s = dropTrailing (· == c) s ++ List.replicate n c := by
  have hrun : takeTrailing (· == c) s = List.replicate (takeTrailing (· == c) s).length c :=
    List.eq_replicate_iff.mpr ⟨rfl, fun _ h => by simpa using mem_takeTrailing h⟩
  exact ⟨_, hrun ▸ (dropTrailing_append_takeTrailing _ s).symm⟩

end Text

namespace Heading

variable {s t front run text closing line rest title : Text} {indent level : Nat}

/-! ## 2. The grammar -/

/-- A closing run: spaces, and hashes behind them, at least one of each. -/
def IsClosing (run : Text) : Prop :=
  ∃ spaces hashes, run = List.replicate (spaces + 1) ' ' ++ List.replicate (hashes + 1) '#'

/-- **A title without its closing run.** One run is lost, with all the spaces that belong to it;
    where there is none, nothing is. -/
inductive Unclosed : Text → Text → Prop where
  | closed {front run : Text} (hrun : IsClosing run) (hfront : front.getLast? ≠ some ' ') :
      Unclosed (front ++ run) front
  | kept {t : Text} (h : ∀ front run, IsClosing run → t ≠ front ++ run) : Unclosed t t

/-- **The beginning of a heading**: at most three spaces, one to six hashes, and a rest that begins
    with a space; all on one line. -/
structure Opens (s : Text) (indent level : Nat) (rest : Text) : Prop where
  shape : s = List.replicate indent ' ' ++ (List.replicate level '#' ++ rest)
  indent_le : indent ≤ 3
  one_le_level : 1 ≤ level
  level_le_six : level ≤ 6
  space : rest.head? = some ' '
  oneLine : '\n' ∉ s

/-- **The title that the rest of a heading holds**: the rest is bared of spaces, loses its closing
    run, and is bared of every blank. -/
def Titled (rest title : Text) : Prop :=
  ∃ bare front, Text.Bared (· == ' ') rest bare ∧ Unclosed bare front ∧
    Text.Bared Text.isSpace front title

/-- **A heading is written on a line**: it begins with the hashes of its level, and the rest holds
    its title, which is not empty. -/
def Written (s : Text) (level : Nat) (title : Text) : Prop :=
  ∃ indent rest, Opens s indent level rest ∧ Titled rest title ∧ title ≠ []

/-! ## 3. Titles -/

theorem IsClosing.ne_nil (h : IsClosing run) : run ≠ [] := by
  obtain ⟨n, k, rfl⟩ := h
  simp

/-- Without the hashes at its end, a text that ends in a closing run ends in its spaces. -/
theorem IsClosing.dropTrailing_append (h : IsClosing run) (front : Text) :
    ∃ n, dropTrailing (· == '#') (front ++ run) = front ++ List.replicate (n + 1) ' ' := by
  obtain ⟨n, k, rfl⟩ := h
  refine ⟨n, ?_⟩
  rw [← List.append_assoc, dropTrailing_append_of_forall (by simp),
    dropTrailing_of_getLast? (by simp [List.replicate_succ'])]

/-- A closing run ends in a hash. -/
theorem IsClosing.getLast?_append (h : IsClosing run) (front : Text) :
    (front ++ run).getLast? = some '#' := by
  obtain ⟨n, k, rfl⟩ := h
  rw [List.replicate_succ' (n := k), ← List.append_assoc, ← List.append_assoc, List.getLast?_concat]

/-- A text that ends in a closing run has hashes at its end, and a space in front of them. -/
theorem IsClosing.closes (h : IsClosing run) (front : Text) :
    dropTrailing (· == '#') (front ++ run) ≠ front ++ run ∧
      (dropTrailing (· == '#') (front ++ run)).getLast? = some ' ' := by
  obtain ⟨n, hdrop⟩ := h.dropTrailing_append front
  have hspace : (front ++ List.replicate (n + 1) ' ').getLast? = some ' ' := by
    simp [List.replicate_succ']
  rw [hdrop]
  refine ⟨fun heq => ?_, hspace⟩
  rw [heq, h.getLast?_append] at hspace
  simp at hspace

/-- **What stands in front of a closing run** is left, less the spaces at its end. -/
theorem IsClosing.dropClosing_append (h : IsClosing run) (front : Text) :
    dropClosing (front ++ run) = dropTrailing (· == ' ') front := by
  obtain ⟨n, hdrop⟩ := h.dropTrailing_append front
  simp only [dropClosing]
  rw [if_pos (h.closes front), hdrop, dropTrailing_append_of_forall (by simp)]

/-- What `dropClosing` leaves is the title without its closing run. -/
theorem unclosed_dropClosing (s : Text) : Unclosed s (dropClosing s) := by
  simp only [dropClosing]
  split
  · rename_i hcond
    obtain ⟨hne, hlast⟩ := hcond
    obtain ⟨k, hhashes⟩ := Text.exists_replicate '#' s
    generalize dropTrailing (· == '#') s = inner at hhashes hne hlast ⊢
    obtain ⟨n, hspaces⟩ := Text.exists_replicate ' ' inner
    have hfront : (dropTrailing (· == ' ') inner).getLast? ≠ some ' ' :=
      fun h => by simpa using getLast?_dropTrailing h
    generalize dropTrailing (· == ' ') inner = front at hspaces hfront ⊢
    subst hspaces
    -- both runs are there: the text has lost something, and behind a space
    cases k with
    | zero => exact absurd (by simpa using hhashes.symm) hne
    | succ k =>
        cases n with
        | zero => exact absurd (by simpa using hlast) hfront
        | succ n =>
            rw [hhashes, List.append_assoc]
            exact .closed ⟨n, k, rfl⟩ hfront
  · rename_i hcond
    exact .kept fun front run hrun heq => hcond (heq ▸ hrun.closes front)

/-- What is lost is a closing run or nothing. -/
theorem Unclosed.exists_closing (h : Unclosed s front) :
    ∃ closing, (closing = [] ∨ IsClosing closing) ∧ s = front ++ closing := by
  cases h with
  | closed hrun => exact ⟨_, .inr hrun, rfl⟩
  | kept => exact ⟨[], .inl rfl, (List.append_nil _).symm⟩

/-- What is left of a title is its beginning. -/
theorem dropClosing_prefix_self (s : Text) : dropClosing s <+: s := by
  obtain ⟨closing, -, hclosing⟩ := (unclosed_dropClosing s).exists_closing
  exact ⟨closing, hclosing.symm⟩

theorem unclosed_iff : Unclosed s t ↔ dropClosing s = t := by
  constructor
  · intro h
    cases h with
    | closed hrun hfront =>
        rw [hrun.dropClosing_append]
        refine dropTrailing_of_getLast? fun c hc => beq_eq_false_iff_ne.mpr fun heq => ?_
        exact hfront (heq ▸ hc)
    | kept h =>
        have hself := unclosed_dropClosing s
        generalize dropClosing s = kept at hself ⊢
        cases hself with
        | closed hrun => exact absurd rfl (h _ _ hrun)
        | kept => rfl
  · rintro rfl
    exact unclosed_dropClosing s

/-- **The title that the rest of a heading holds** is the one that is read off it. -/
theorem titled_iff : Titled rest title ↔ titleOf rest = title := by
  constructor
  · rintro ⟨bare, front, hbare, hfront, htitle⟩
    rw [titleOf, stripSpaces, Text.bared_iff.mp hbare, unclosed_iff.mp hfront]
    exact Text.bared_isSpace_iff.mp htitle
  · rintro rfl
    exact ⟨_, _, Text.bared_iff.mpr rfl, unclosed_iff.mpr rfl, Text.bared_isSpace_iff.mpr rfl⟩

/-! ## 4. Lines -/

/-- The indentation and the hashes of a heading are found as far as they go. -/
theorem Opens.found (h : Opens s indent level rest) :
    s.takeWhile (· == ' ') = List.replicate indent ' ' ∧
      (s.dropWhile (· == ' ')).takeWhile (· == '#') = List.replicate level '#' ∧
      (s.dropWhile (· == ' ')).dropWhile (· == '#') = rest := by
  have hhash : ∀ c ∈ (List.replicate level '#' ++ rest).head?, (c == ' ') = false := by
    obtain ⟨level, rfl⟩ := Nat.exists_eq_add_of_le' h.one_le_level
    simp [List.replicate_succ]
  have hspace : ∀ c ∈ rest.head?, (c == '#') = false := by
    simp [h.space]
  obtain ⟨hindent, hbody⟩ := takeWhile_dropWhile_iff.mpr ⟨h.shape, by simp, hhash⟩
  obtain ⟨hlevel, hrest⟩ := takeWhile_dropWhile_iff.mpr
    (⟨rfl, by simp, hspace⟩ : List.replicate level '#' ++ rest = _ ∧ _)
  rw [hbody]
  exact ⟨hindent, hlevel, hrest⟩

/-- What is found in front of the rest is an indentation and hashes. -/
theorem shape_of_found (s : Text) :
    s = List.replicate (s.takeWhile (· == ' ')).length ' ' ++
      (List.replicate ((s.dropWhile (· == ' ')).takeWhile (· == '#')).length '#' ++
        (s.dropWhile (· == ' ')).dropWhile (· == '#')) := by
  rw [Text.replicate_takeWhile, Text.replicate_takeWhile, List.takeWhile_append_dropWhile,
    List.takeWhile_append_dropWhile]

/-- A heading begins in one way only. -/
theorem Opens.unique {indent' level' : Nat} {rest' : Text} (h : Opens s indent level rest)
    (h' : Opens s indent' level' rest') : indent = indent' ∧ level = level' ∧ rest = rest' := by
  obtain ⟨hindent, hlevel, hrest⟩ := h.found
  obtain ⟨hindent', hlevel', hrest'⟩ := h'.found
  have hspaces := congrArg List.length (hindent.symm.trans hindent')
  have hhashes := congrArg List.length (hlevel.symm.trans hlevel')
  exact ⟨by simpa using hspaces, by simpa using hhashes, hrest.symm.trans hrest'⟩

/-- **A line is a heading exactly if one is written on it.** -/
theorem parse?_eq_some_iff {h : Heading} :
    parse? line = some h ↔ Written (dropTrailing Text.isLineEnd line) h.level h.text := by
  generalize hs : dropTrailing Text.isLineEnd line = s
  constructor
  · intro hparse
    simp only [parse?, hs] at hparse
    split at hparse
    · rename_i hlevel
      split at hparse
      · rename_i hcond
        obtain ⟨hindent, hspace, hline, htitle⟩ := hcond
        cases hparse
        have hshape := shape_of_found s
        have hfree : '\n' ∉ s := fun hmem => by
          rw [hshape] at hmem
          simp [hline] at hmem
        exact ⟨_, _, ⟨hshape, hindent, hlevel.1, hlevel.2, hspace, hfree⟩, titled_iff.mpr rfl,
          htitle⟩
      · cases hparse
    · cases hparse
  · rintro ⟨indent, rest, hopens, htitle, hne⟩
    obtain ⟨hindent, hlevel, hrest⟩ := hopens.found
    have hline : '\n' ∉ rest := fun hmem => hopens.oneLine (by simp [hopens.shape, hmem])
    obtain ⟨level, text, hone, hsix⟩ := h
    obtain rfl := titled_iff.mp htitle
    simp only [parse?, hs, hindent, hlevel, hrest, List.length_replicate]
    rw [dif_pos ⟨hone, hsix⟩, if_pos ⟨hopens.indent_le, hopens.space, hline, hne⟩]

/-! ## 5. Cutting a line -/

/-- A way to cut a line into the parts of a heading: the indentation, the hashes, the spaces behind
    them, a text, a closing run or nothing, and spaces at the end. -/
structure Cut where
  indent : Nat
  level : Nat
  gap : Nat
  text : Text
  closing : Text
  trailing : Nat
  indent_le : indent ≤ 3
  one_le_level : 1 ≤ level
  level_le_six : level ≤ 6
  one_le_gap : 1 ≤ gap
  oneLine : '\n' ∉ text
  isClosing : closing = [] ∨ IsClosing closing

namespace Cut

variable {c c' : Cut}

/-- What stands behind the hashes. -/
def behind (c : Cut) : Text :=
  List.replicate c.gap ' ' ++ (c.text ++ (c.closing ++ List.replicate c.trailing ' '))

/-- The line that is cut. -/
def whole (c : Cut) : Text :=
  List.replicate c.indent ' ' ++ (List.replicate c.level '#' ++ c.behind)

/-- **One cut is tried before another**: the part in which they differ first decides. More spaces
    and more hashes come first, but a shorter text. -/
def Before (c c' : Cut) : Prop :=
  c'.indent < c.indent ∨ c.indent = c'.indent ∧
    (c'.level < c.level ∨ c.level = c'.level ∧
      (c'.gap < c.gap ∨ c.gap = c'.gap ∧ c.text.length < c'.text.length))

theorem opens (c : Cut) : Opens c.whole c.indent c.level c.behind := by
  refine ⟨rfl, c.indent_le, c.one_le_level, c.level_le_six, ?_, fun hmem => ?_⟩
  · obtain ⟨gap, hgap⟩ := Nat.exists_eq_add_of_le' c.one_le_gap
    simp [behind, hgap, List.replicate_succ]
  · have hclosing : '\n' ∉ c.closing := by
      rcases c.isClosing with h | ⟨n, k, h⟩ <;> simp [h]
    simp [whole, behind, c.oneLine, hclosing] at hmem

/-- No cut has more spaces in front of its text than there are. -/
theorem gap_le (c : Cut) : c.gap ≤ (c.behind.takeWhile (· == ' ')).length := by
  rw [behind, List.takeWhile_append_of_pos (by simp), List.length_append, List.length_replicate]
  exact Nat.le_add_right ..

/-- **No text is shorter than the title**, if all spaces stand in front of it. -/
theorem title_prefix_text (h : (c.behind.takeWhile (· == ' ')).length = c.gap) :
    dropClosing (stripSpaces c.behind) <+: c.text := by
  have hinner : c.behind.dropWhile (· == ' ') =
      c.text ++ (c.closing ++ List.replicate c.trailing ' ') := by
    have hsplit : c.behind.takeWhile (· == ' ') ++ c.behind.dropWhile (· == ' ') =
        List.replicate c.gap ' ' ++ (c.text ++ (c.closing ++ List.replicate c.trailing ' ')) :=
      List.takeWhile_append_dropWhile
    exact (List.append_inj hsplit (by rw [h, List.length_replicate])).2
  rw [stripSpaces, hinner, ← List.append_assoc, dropTrailing_append_of_forall (by simp)]
  rcases c.isClosing with hnone | hrun
  · rw [hnone, List.append_nil]
    exact (dropClosing_prefix_self _).trans (dropTrailing_prefix_self _ _)
  · rw [dropTrailing_of_getLast? (by simp [hrun.getLast?_append]), hrun.dropClosing_append]
    exact dropTrailing_prefix_self _ _

end Cut

/-- **The cut that counts**: of all cuts of the line, none is tried before it. -/
structure Chosen (s : Text) (c : Cut) : Prop where
  whole : c.whole = s
  first : ∀ c' : Cut, c'.whole = s → ¬ c'.Before c

/-- What stands behind the hashes is made of spaces, the title, its closing run or nothing, and
    spaces. -/
theorem exists_parts (rest : Text) : ∃ closing trailing, (closing = [] ∨ IsClosing closing) ∧
    rest = List.replicate (rest.takeWhile (· == ' ')).length ' ' ++
      (dropClosing (stripSpaces rest) ++ (closing ++ List.replicate trailing ' ')) := by
  obtain ⟨trailing, hinner⟩ := Text.exists_replicate ' ' (rest.dropWhile (· == ' '))
  obtain ⟨closing, hclosing, hbare⟩ := (unclosed_dropClosing (stripSpaces rest)).exists_closing
  refine ⟨closing, trailing, hclosing, ?_⟩
  rw [← List.append_assoc (dropClosing _), ← hbare, stripSpaces, ← hinner,
    Text.replicate_takeWhile, List.takeWhile_append_dropWhile]

/-- **A heading line has a cut with the title for its text**, and it is the one that counts. -/
theorem Opens.exists_chosen (h : Opens s indent level rest) :
    ∃ c, Chosen s c ∧ c.level = level ∧ c.text = dropClosing (stripSpaces rest) := by
  obtain ⟨closing, trailing, hclosing, hrest⟩ := exists_parts rest
  have hgap : 1 ≤ (rest.takeWhile (· == ' ')).length := by
    obtain ⟨tail, rfl⟩ := List.head?_eq_some_iff.mp h.space
    simp
  have hline : '\n' ∉ dropClosing (stripSpaces rest) := fun hmem => h.oneLine (by
    rw [h.shape, hrest]
    simp [hmem])
  let c : Cut := ⟨indent, level, _, _, closing, trailing, h.indent_le, h.one_le_level,
    h.level_le_six, hgap, hline, hclosing⟩
  have hbehind : c.behind = rest := hrest.symm
  have hwhole : c.whole = s := by
    rw [Cut.whole, hbehind, h.shape]
  refine ⟨c, ⟨hwhole, fun c' hwhole' hbefore => ?_⟩, rfl, rfl⟩
  -- all cuts of the line have its indentation, its hashes and its rest in common
  obtain ⟨hindent, hlevel, hbehind'⟩ := h.unique (hwhole' ▸ c'.opens)
  have hle : c'.gap ≤ c.gap := by
    have := c'.gap_le
    rwa [← hbehind'] at this
  rcases hbefore with hlt | ⟨-, hlt | ⟨-, hlt | ⟨heq, hlt⟩⟩⟩
  · exact absurd hindent (Nat.ne_of_lt hlt)
  · exact absurd hlevel (Nat.ne_of_lt hlt)
  · omega
  · have hprefix := Cut.title_prefix_text (c := c') (hbehind' ▸ heq.symm)
    rw [← hbehind'] at hprefix
    exact absurd hprefix.length_le (Nat.not_le.mpr hlt)

/-- **One cut counts**: two cuts of which neither is tried before the other have the same hashes
    and the same text. -/
theorem Chosen.unique {c c' : Cut} (h : Chosen s c) (h' : Chosen s c') :
    c.level = c'.level ∧ c.text = c'.text := by
  have hnot := h.first c' h'.whole
  have hnot' := h'.first c h.whole
  have hsame : c.indent = c'.indent ∧ c.level = c'.level ∧ c.gap = c'.gap ∧
      c.text.length = c'.text.length := by
    unfold Cut.Before at hnot hnot'
    omega
  obtain ⟨hindent, hlevel, hgap, hlength⟩ := hsame
  have hwhole : c.whole = c'.whole := h.whole.trans h'.whole.symm
  simp only [Cut.whole, Cut.behind, hindent, hlevel, hgap, List.append_cancel_left_eq] at hwhole
  exact ⟨hlevel, (List.append_inj hwhole hlength).1⟩

/-- **What is written on a line is read off the cut that counts**: its hashes, and its text without
    the blanks at both ends. -/
theorem written_iff_chosen : Written s level title ↔
    ∃ c, Chosen s c ∧ c.level = level ∧ Text.trim c.text = title ∧ title ≠ [] := by
  constructor
  · rintro ⟨indent, rest, hopens, htitle, hne⟩
    obtain ⟨c, hc, hlevel, htext⟩ := hopens.exists_chosen
    exact ⟨c, hc, hlevel, by rw [htext]; exact titled_iff.mp htitle, hne⟩
  · rintro ⟨c, hc, rfl, rfl, hne⟩
    have hopens : Opens s c.indent c.level c.behind := hc.whole ▸ c.opens
    obtain ⟨c', hc', -, htext⟩ := hopens.exists_chosen
    rw [(hc.unique hc').2, htext] at hne ⊢
    exact ⟨_, _, hopens, titled_iff.mpr rfl, hne⟩

/-! ## 6. Fields -/

/-- The fields of a heading. -/
def fields (level : Nat) (title : Text) : List (Text × Value) :=
  [(fieldName .level, .int level), (fieldName .text, .text title)]

/-- **A heading passes the check of its own fields.** -/
theorem ofFields_fields (h : Heading) : ofFields (fields h.level h.text) = .ok h := by
  obtain ⟨level, text, hone, hsix⟩ := h
  have hlevel : levelOf (some (.int level)) = .ok ⟨level, hone, hsix⟩ := by
    have hnot : ¬ (level : Int) < 1 := by omega
    simp [levelOf, Value.integerField, Value.integer?, Except.mapError, hnot, hone, hsix]
  have hlookup : (fields level text).lookup (fieldName .level) = some (.int level) ∧
      (fields level text).lookup (fieldName .text) = some (.text text) := ⟨rfl, rfl⟩
  rw [ofFields, hlookup.1, hlookup.2, hlevel]
  rfl

/-- **A line is a heading exactly if one is written on it.** Let what ends the line be dropped. The
    line is the heading of a level and a title if, and only if, these are written on what is left;
    if none is, it is no heading. What is written is found by cutting what is left into the parts of
    a heading: of all ways to do so the first one in the order of trying counts, if its text is not
    blank. And what is found passes the check of a heading's fields, so the check never fails. -/
theorem parse?_iff_written (line : Text) :
    let s := dropTrailing Text.isLineEnd line
    (∀ level title, (∃ h, parse? line = some h ∧ h.level = level ∧ h.text = title) ↔
      Written s level title) ∧
    (parse? line = none ↔ ∀ level title, ¬ Written s level title) ∧
    (∀ level title, Written s level title ↔
      ∃ c, Chosen s c ∧ c.level = level ∧ Text.trim c.text = title ∧ title ≠ []) ∧
    ∀ c, Chosen s c → Text.trim c.text ≠ [] →
      ∃ h, ofFields (fields c.level (Text.trim c.text)) = .ok h ∧ parse? line = some h := by
  intro s
  have hwritten : ∀ {level title}, Written s level title →
      ∃ h, parse? line = some h ∧ h.level = level ∧ h.text = title := by
    intro level title hw
    obtain ⟨indent, rest, hopens, -⟩ := id hw
    exact ⟨⟨level, title, hopens.one_le_level, hopens.level_le_six⟩, parse?_eq_some_iff.mpr hw,
      rfl, rfl⟩
  refine ⟨fun level title => ⟨?_, hwritten⟩, ⟨fun hnone level title hw => ?_, fun hnone => ?_⟩,
    fun level title => written_iff_chosen, fun c hc hne => ?_⟩
  · rintro ⟨h, hparse, rfl, rfl⟩
    exact parse?_eq_some_iff.mp hparse
  · obtain ⟨h, hparse, -⟩ := hwritten hw
    simp [hnone] at hparse
  · refine Option.eq_none_iff_forall_ne_some.mpr fun h hparse => ?_
    exact hnone h.level h.text (parse?_eq_some_iff.mp hparse)
  · obtain ⟨h, hparse, hlevel, htext⟩ := hwritten (written_iff_chosen.mpr ⟨c, hc, rfl, rfl, hne⟩)
    exact ⟨h, by rw [← hlevel, ← htext, ofFields_fields], hparse⟩

example : parse? "  ## a # ## \r\n".toList = some ⟨2, "a #".toList, by decide, by decide⟩ := by
  decide +kernel

end Heading

end MarkdownTemplate
