import MarkdownTemplate.Proofs.HeadingGrammar

/-!
# Decorated headings

A title may be written as a heading in many ways: indented or not, behind one space or several,
closed by hashes, with blanks at the end of the line and with any line end. This file says which of
these decorations are taken off again. It fixes

* `Heading.IsTitle` -- the titles that can be written on a line as they are;
* `Heading.Closing`, `Heading.Decoration`, `Decoration.line` -- what may stand around a title, and
  the line with the title in it;
* `Decoration.IsPlain` -- a decoration with spaces where a tab would count as part of the title:
  directly in front of the closing hashes and behind them;
* **`Heading.parse?_decorated`** -- a decorated title is read as a heading of its level, and as
  itself exactly if the decoration is plain; otherwise its closing hashes stay with it;
* `Heading.tab_keeps_closing` -- hashes behind a tab are not taken off.
-/

namespace MarkdownTemplate.Heading

variable {s title : Text} {level : Nat}

/-! ## 1. Decorations -/

/-- A title that can be written on a line: it is not empty, begins and ends with no blank, stays on
    one line, and does not end in a closing run. -/
structure IsTitle (title : Text) : Prop where
  ne_nil : title ≠ []
  head : ∀ c ∈ title.head?, Text.isSpace c = false
  last : ∀ c ∈ title.getLast?, Text.isSpace c = false
  oneLine : '\n' ∉ title
  unclosed : ∀ front hashes, title ≠ front ++ ' ' :: List.replicate (hashes + 1) '#'

/-- Spaces and tabs. -/
def IsSpacing (t : Text) : Prop :=
  ∀ c ∈ t, c = ' ' ∨ c = '\t'

/-- Hashes that close a heading, behind spaces and tabs. -/
structure Closing where
  spacing : Text
  hashes : Nat
  ne_nil : spacing ≠ []
  isSpacing : IsSpacing spacing
  hashes_pos : 0 < hashes

/-- A closing as it is written. -/
def Closing.text (c : Closing) : Text :=
  c.spacing ++ List.replicate c.hashes '#'

/-- **What may stand around a title**: up to three spaces of indentation, spaces behind the hashes,
    a closing or none, spaces and tabs at the end, and a line end or none. -/
structure Decoration where
  indent : Nat
  gap : Nat
  closing : Option Closing
  trailing : Text
  lineEnd : Text
  indent_le : indent ≤ 3
  gap_pos : 0 < gap
  isSpacing : IsSpacing trailing
  isLineEnd : ∀ c ∈ lineEnd, Text.isLineEnd c = true

namespace Decoration

variable {d : Decoration}

/-- The closing as it is written; nothing if there is none. -/
def closingText (d : Decoration) : Text :=
  (d.closing.map Closing.text).getD []

/-- What is left of the end of the line without its spaces. -/
def kept (d : Decoration) : Text :=
  dropTrailing (· == ' ') d.trailing

/-- What stands behind the hashes, the line end apart. -/
def behind (d : Decoration) (title : Text) : Text :=
  List.replicate d.gap ' ' ++ (title ++ (d.closingText ++ d.trailing))

/-- **A title as a heading of a level**, decorated. -/
def line (d : Decoration) (level : Nat) (title : Text) : Text :=
  List.replicate d.indent ' ' ++ (List.replicate level '#' ++ d.behind title) ++ d.lineEnd

/-- **The decoration is plain**: if there are closing hashes, a space stands directly in front of
    them and nothing but spaces behind them. -/
def IsPlain (d : Decoration) : Prop :=
  ∀ c ∈ d.closing, c.spacing.getLast? = some ' ' ∧ ∀ x ∈ d.trailing, x = ' '

end Decoration

/-! ## 2. Closings that stay -/

theorem isSpace_of_isSpacing {t : Text} (h : IsSpacing t) : ∀ c ∈ t, Text.isSpace c = true := by
  intro c hc
  rcases h c hc with rfl | rfl <;> decide

/-- Spaces and tabs that do not end in a space end in a tab. -/
theorem IsSpacing.getLast?_eq {t : Text} (h : IsSpacing t) (hne : t ≠ [])
    (hlast : t.getLast? ≠ some ' ') : t.getLast? = some '\t' := by
  have hsome := List.getLast?_eq_some_getLast hne
  rcases h _ (List.getLast_mem hne) with hspace | htab
  · exact absurd (hsome.trans (congrArg some hspace)) hlast
  · exact hsome.trans (congrArg some htab)

/-- Hashes stay if they stand behind something else than a space. -/
theorem unclosed_self (h : (dropTrailing (· == '#') s).getLast? ≠ some ' ') : Unclosed s s :=
  .kept fun front _ hrun heq => h (heq ▸ (hrun.closes front).2)

theorem IsTitle.unclosed_self (h : IsTitle title) : Unclosed title title := by
  refine .kept fun front run hrun heq => ?_
  obtain ⟨n, k, rfl⟩ := hrun
  exact h.unclosed (front ++ List.replicate n ' ') k (by simp [heq, List.replicate_succ'])

/-- A text that begins and ends in no blank is bared of the spacing behind it. -/
theorem IsSpacing.bared_append {spacing : Text} (h : IsSpacing spacing)
    (hhead : ∀ c ∈ s.head?, Text.isSpace c = false)
    (hlast : ∀ c ∈ s.getLast?, Text.isSpace c = false) :
    Text.Bared Text.isSpace (s ++ spacing) s :=
  ⟨⟨[], spacing, rfl, by simp, isSpace_of_isSpacing h⟩, hhead, hlast⟩

namespace Closing

variable (c : Closing)

/-- A closing ends in a hash. -/
theorem getLast?_append (front : Text) : (front ++ c.text).getLast? = some '#' := by
  obtain ⟨k, hk⟩ := Nat.exists_eq_add_of_le' c.hashes_pos
  rw [text, hk, List.replicate_succ' (n := k), ← List.append_assoc, ← List.append_assoc,
    List.getLast?_concat]

/-- Without its hashes, a closing is its spacing. -/
theorem dropTrailing_append (front : Text) :
    dropTrailing (· == '#') (front ++ c.text) = front ++ c.spacing := by
  have hlast : ∀ x ∈ (front ++ c.spacing).getLast?, (x == '#') = false := by
    intro x hx
    rw [List.getLast?_append_of_ne_nil _ c.ne_nil] at hx
    rcases c.isSpacing x (List.mem_of_getLast? hx) with rfl | rfl <;> rfl
  rw [text, ← List.append_assoc, dropTrailing_append_of_forall (by simp),
    dropTrailing_of_getLast? hlast]

end Closing

/-- **A closing behind a space is lost**, and its spacing up to the last tab stays with the title. -/
theorem IsTitle.unclosed_append (h : IsTitle title) {c : Closing}
    (hspace : c.spacing.getLast? = some ' ') :
    ∃ spacing, IsSpacing spacing ∧ Unclosed (title ++ c.text) (title ++ spacing) := by
  obtain ⟨n, hspacing⟩ := Text.exists_replicate ' ' c.spacing
  obtain ⟨k, hk⟩ := Nat.exists_eq_add_of_le' c.hashes_pos
  have hsub := dropTrailing_prefix_self (· == ' ') c.spacing
  have hend : (dropTrailing (· == ' ') c.spacing).getLast? ≠ some ' ' :=
    fun hlast => by simpa using getLast?_dropTrailing hlast
  generalize dropTrailing (· == ' ') c.spacing = spacing at hspacing hsub hend
  refine ⟨spacing, fun x hx => c.isSpacing x (hsub.subset hx), ?_⟩
  cases n with
  | zero => exact absurd (by simpa [hspacing] using hspace) hend
  | succ n =>
      have hshape : title ++ c.text =
          title ++ spacing ++ (List.replicate (n + 1) ' ' ++ List.replicate (k + 1) '#') := by
        simp [Closing.text, hspacing, hk]
      rw [hshape]
      refine .closed ⟨n, k, rfl⟩ fun hlast => ?_
      cases hnil : spacing with
      | nil =>
          rw [hnil, List.append_nil] at hlast
          exact absurd (h.last ' ' hlast) (by decide)
      | cons x rest =>
          rw [List.getLast?_append_of_ne_nil _ (by simp [hnil])] at hlast
          exact hend hlast

/-! ## 3. Reading a decorated title -/

namespace Decoration

variable (d : Decoration) {t : Text} {x : Char}

theorem closingText_of_none (h : d.closing = none) : d.closingText = [] := by
  rw [closingText, h]
  rfl

theorem closingText_of_some {c : Closing} (h : d.closing = some c) : d.closingText = c.text := by
  rw [closingText, h]
  rfl

/-- A decorated title ends as what stands behind it ends, or not in a blank. -/
theorem getLast?_cases (h : IsTitle title)
    (hx : x ∈ (title ++ (d.closingText ++ t)).getLast?) :
    x ∈ t.getLast? ∨ Text.isSpace x = false := by
  cases t with
  | cons y rest =>
      rw [← List.append_assoc, List.getLast?_append_of_ne_nil _ (List.cons_ne_nil y rest)] at hx
      exact .inl hx
  | nil =>
      right
      rw [List.append_nil] at hx
      cases hclosing : d.closing with
      | none =>
          rw [d.closingText_of_none hclosing, List.append_nil] at hx
          exact h.last x hx
      | some c =>
          rw [d.closingText_of_some hclosing, c.getLast?_append] at hx
          cases hx
          decide

/-- **Spaces are taken off on both sides**: in front of the title all that stand there, at the end
    those behind the last tab. -/
theorem bared_behind (h : IsTitle title) : Text.Bared (· == ' ') (d.behind title)
    (title ++ (d.closingText ++ d.kept)) := by
  obtain ⟨n, htrailing⟩ := Text.exists_replicate ' ' d.trailing
  refine ⟨⟨List.replicate d.gap ' ', List.replicate n ' ', ?_, by simp, by simp⟩,
    fun x hx => ?_, fun x hx => ?_⟩
  · nth_rewrite 1 [behind, htrailing]
    simp only [kept, List.append_assoc]
  · rw [List.head?_append_of_ne_nil _ h.ne_nil] at hx
    have hsolid := h.head x hx
    exact beq_eq_false_iff_ne.mpr fun heq => absurd (heq ▸ hsolid) (by decide)
  · rcases d.getLast?_cases h hx with hlast | hsolid
    · exact getLast?_dropTrailing (p := (· == ' ')) hlast
    · exact beq_eq_false_iff_ne.mpr fun heq => absurd (heq ▸ hsolid) (by decide)

theorem isSpacing_kept : IsSpacing d.kept :=
  fun x hx => d.isSpacing x ((dropTrailing_prefix_self _ _).subset hx)

/-- What is left at the end of the line is nothing, or ends in a tab. -/
theorem kept_cases : d.kept = [] ∨ d.kept.getLast? = some '\t' := by
  by_cases hnil : d.kept = []
  · exact .inl hnil
  · exact .inr (d.isSpacing_kept.getLast?_eq hnil fun hlast => by
      simpa using getLast?_dropTrailing hlast)

/-- Nothing is left exactly if there are only spaces. -/
theorem kept_eq_nil_iff : d.kept = [] ↔ ∀ x ∈ d.trailing, x = ' ' := by
  constructor
  · intro hnil x hx
    obtain ⟨n, htrailing⟩ := Text.exists_replicate ' ' d.trailing
    rw [htrailing, show dropTrailing (· == ' ') d.trailing = [] from hnil, List.nil_append] at hx
    exact (List.mem_replicate.mp hx).2
  · intro hall
    exact dropTrailing_append_of_forall (fun x hx => by simpa using hall x hx) []

/-- A tab at the end keeps hashes in front of it. -/
theorem unclosed_of_tab (front : Text) (ht : t.getLast? = some '\t') :
    Unclosed (front ++ t) (front ++ t) := by
  have hne : t ≠ [] := fun hnil => by simp [hnil] at ht
  have hlast : (front ++ t).getLast? = some '\t' := by
    rw [List.getLast?_append_of_ne_nil _ hne, ht]
  refine unclosed_self ?_
  rw [dropTrailing_of_getLast? fun x hx => ?_, hlast]
  · simp
  · obtain rfl : '\t' = x := by simpa [hlast] using hx
    rfl

variable {d}

/-- **A plain decoration leaves the title.** -/
theorem titled_plain (h : IsTitle title) (hd : d.IsPlain) : Titled (d.behind title) title := by
  have hbare := d.bared_behind h
  cases hclosing : d.closing with
  | none =>
      rw [d.closingText_of_none hclosing, List.nil_append] at hbare
      refine ⟨_, _, hbare, ?_, d.isSpacing_kept.bared_append h.head h.last⟩
      rcases d.kept_cases with hnil | htab
      · rw [hnil, List.append_nil]
        exact h.unclosed_self
      · exact unclosed_of_tab title htab
  | some c =>
      obtain ⟨hspace, htrailing⟩ := hd c hclosing
      obtain ⟨spacing, hspacing, hunclosed⟩ := h.unclosed_append hspace
      rw [d.closingText_of_some hclosing, d.kept_eq_nil_iff.mpr htrailing, List.append_nil] at hbare
      exact ⟨_, _, hbare, hunclosed, hspacing.bared_append h.head h.last⟩

/-- **Any other decoration leaves the closing with it.** -/
theorem titled_closing (h : IsTitle title) (hd : ¬ d.IsPlain) :
    Titled (d.behind title) (title ++ d.closingText) := by
  have hbare := d.bared_behind h
  rw [← List.append_assoc] at hbare
  refine ⟨_, _, hbare, ?_, d.isSpacing_kept.bared_append (fun x hx => ?_) fun x hx => ?_⟩
  · rcases d.kept_cases with hnil | htab
    · -- the closing stands at the end: it is a tab that keeps it
      rw [hnil, List.append_nil]
      cases hclosing : d.closing with
      | none => exact absurd (fun c hc => by simp [hclosing] at hc) hd
      | some c =>
          rw [d.closingText_of_some hclosing]
          refine unclosed_self fun hlast => hd fun c' hc' => ?_
          obtain rfl : c = c' := by simpa [hclosing] using hc'
          rw [c.dropTrailing_append, List.getLast?_append_of_ne_nil _ c.ne_nil] at hlast
          exact ⟨hlast, d.kept_eq_nil_iff.mp hnil⟩
    · exact unclosed_of_tab _ htab
  · rw [List.head?_append_of_ne_nil _ h.ne_nil] at hx
    exact h.head x hx
  · rw [← List.append_nil d.closingText] at hx
    rcases d.getLast?_cases h hx with hlast | hsolid
    · cases hlast
    · exact hsolid

/-- **A decorated title begins as a heading**, once the line end is dropped. -/
theorem opens_line (h : IsTitle title) (hone : 1 ≤ level) (hsix : level ≤ 6) :
    Opens (dropTrailing Text.isLineEnd (d.line level title)) d.indent level (d.behind title) := by
  have hlast : ∀ x ∈ (List.replicate d.indent ' ' ++
      (List.replicate level '#' ++ d.behind title)).getLast?, Text.isLineEnd x = false := by
    intro x hx
    have hne : title ++ (d.closingText ++ d.trailing) ≠ [] := by simp [h.ne_nil]
    rw [behind, ← List.append_assoc, ← List.append_assoc,
      List.getLast?_append_of_ne_nil _ hne] at hx
    rcases d.getLast?_cases h hx with hmem | hsolid
    · rcases d.isSpacing x (List.mem_of_getLast? hmem) with rfl | rfl <;> rfl
    · refine Bool.eq_false_iff.mpr fun hend => ?_
      have hx : x = '\n' ∨ x = '\r' := by simpa [Text.isLineEnd] using hend
      rcases hx with rfl | rfl <;> exact absurd hsolid (by decide)
  have hshape : dropTrailing Text.isLineEnd (d.line level title) =
      List.replicate d.indent ' ' ++ (List.replicate level '#' ++ d.behind title) := by
    rw [line, dropTrailing_append_of_forall d.isLineEnd, dropTrailing_of_getLast? hlast]
  refine ⟨hshape, d.indent_le, hone, hsix, ?_, fun hmem => ?_⟩
  · obtain ⟨gap, hgap⟩ := Nat.exists_eq_add_of_le' d.gap_pos
    simp [behind, hgap, List.replicate_succ]
  · have hclosing : '\n' ∉ d.closingText := by
      cases hclosing : d.closing with
      | none => simp [d.closingText_of_none hclosing]
      | some c =>
          have hspacing : '\n' ∉ c.spacing := fun hmem => by simpa using c.isSpacing _ hmem
          simp [d.closingText_of_some hclosing, Closing.text, hspacing]
    have htrailing : '\n' ∉ d.trailing := fun hmem => by
      simpa using d.isSpacing _ hmem
    rw [hshape] at hmem
    simp [behind, h.oneLine, hclosing, htrailing] at hmem

end Decoration

/-- **A decorated title is read as a heading of its level.** It is read as itself, and linked to as
    itself, exactly if the decoration is plain; otherwise the closing hashes and the spacing in
    front of them stay with it. -/
theorem parse?_decorated (d : Decoration) (hone : 1 ≤ level) (hsix : level ≤ 6)
    (h : IsTitle title) : ∃ heading, parse? (d.line level title) = some heading ∧
      heading.level = level ∧ (heading.text = title ↔ d.IsPlain) ∧
      (d.IsPlain → heading.link = "[".toList ++ title ++ "](#".toList ++ slugOf title ++
        ")".toList) ∧
      (¬ d.IsPlain → heading.text = title ++ d.closingText) := by
  have hopens := d.opens_line h hone hsix
  have hread : ∀ {text}, Titled (d.behind title) text → text ≠ [] →
      parse? (d.line level title) = some ⟨level, text, hone, hsix⟩ := fun htitled hne =>
    parse?_eq_some_iff.mpr ⟨_, _, hopens, htitled, hne⟩
  by_cases hd : d.IsPlain
  · refine ⟨_, hread (Decoration.titled_plain h hd) h.ne_nil, rfl, ⟨fun _ => hd, fun _ => rfl⟩,
      fun _ => ?_, fun hnot => absurd hd hnot⟩
    have htrim : Text.trim title = title :=
      Text.bared_isSpace_iff.mp ⟨⟨[], [], by simp, by simp, by simp⟩, h.head, h.last⟩
    rw [link, slug, htrim]
    rfl
  · have hclosing : d.closingText ≠ [] := by
      cases hclosing : d.closing with
      | none => exact absurd (fun c hc => by simp [hclosing] at hc) hd
      | some c => simp [d.closingText_of_some hclosing, Closing.text, c.ne_nil]
    refine ⟨_, hread (Decoration.titled_closing h hd) (by simp [h.ne_nil]), rfl,
      ⟨fun heq => ?_, fun hplain => absurd hplain hd⟩, fun hplain => absurd hplain hd, fun _ => rfl⟩
    exact absurd (List.append_right_eq_self.mp heq) hclosing

/-- A text that ends in no hash does not end in a closing run. -/
theorem unclosed_of_getLast? (h : title.getLast? ≠ some '#') (front : Text) (hashes : Nat) :
    title ≠ front ++ ' ' :: List.replicate (hashes + 1) '#' := by
  rintro rfl
  refine h ?_
  rw [List.replicate_succ', ← List.cons_append, ← List.append_assoc, List.getLast?_concat]

/-- Everything that may stand around a title, in a plain decoration. -/
def dressed : Decoration :=
  ⟨3, 2, some ⟨"\t ".toList, 2, by decide, by simp [IsSpacing], by decide⟩, "  ".toList,
    "\r\n".toList, by decide, by decide, by simp [IsSpacing], List.all_eq_true.mp rfl⟩

theorem isTitle_hashed : IsTitle "a # b".toList :=
  ⟨by decide, fun _ hc => Option.some.inj hc ▸ rfl, fun _ hc => Option.some.inj hc ▸ rfl, by decide,
    unclosed_of_getLast? (by decide)⟩

/-- A title with a hash in it, decorated in every way at once, is read as itself. -/
theorem parse?_decorated_dressed :
    (1 ≤ 2 ∧ 2 ≤ 6 ∧ IsTitle "a # b".toList ∧ dressed.IsPlain) ∧
    dressed.line 2 "a # b".toList = "   ##  a # b\t ##  \r\n".toList ∧
    ∃ heading, parse? (dressed.line 2 "a # b".toList) = some heading ∧ heading.level = 2 ∧
      heading.text = "a # b".toList ∧ heading.link = "[a # b](#a--b)".toList := by
  have hplain : dressed.IsPlain := by
    intro c hc
    obtain rfl := Option.some.inj hc
    exact ⟨rfl, fun x hx => by simpa [dressed] using hx⟩
  obtain ⟨heading, hparse, hlevel, htext, hlink, -⟩ :=
    parse?_decorated dressed (by decide : 1 ≤ 2) (by decide) isTitle_hashed
  exact ⟨⟨by decide, by decide, isTitle_hashed, hplain⟩, by decide, heading, hparse, hlevel,
    htext.mpr hplain, (hlink hplain).trans (by decide +kernel)⟩

/-- A hash behind a tab. -/
def tabbed : Decoration :=
  ⟨0, 1, some ⟨"\t".toList, 1, by decide, by simp [IsSpacing], by decide⟩, [], [],
    by decide, by decide, by simp [IsSpacing], by simp⟩

/-- **A tab keeps closing hashes**: they are read as part of the title. -/
theorem tab_keeps_closing :
    IsTitle "T".toList ∧ tabbed.line 1 "T".toList = "# T\t#".toList ∧
    parse? (tabbed.line 1 "T".toList) = some ⟨1, "T\t#".toList, by decide, by decide⟩ ∧
    ¬ ∃ heading, parse? (tabbed.line 1 "T".toList) = some heading ∧
      heading.text = "T".toList := by
  have htitle : IsTitle "T".toList :=
    ⟨by decide, fun _ hc => Option.some.inj hc ▸ rfl, fun _ hc => Option.some.inj hc ▸ rfl,
      by decide, unclosed_of_getLast? (by decide)⟩
  have hparse : parse? (tabbed.line 1 "T".toList) =
      some ⟨1, "T\t#".toList, by decide, by decide⟩ := by decide +kernel
  refine ⟨htitle, by decide, hparse, ?_⟩
  rintro ⟨heading, hheading, htext⟩
  obtain rfl := Option.some.inj (hparse.symm.trans hheading)
  exact absurd htext (by decide)

end MarkdownTemplate.Heading
