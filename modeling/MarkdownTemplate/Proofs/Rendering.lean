import Mathlib.Data.List.Forall2
import MarkdownTemplate.Contents

/-!
# What becomes of a document

A document is put together to a page, and a table of contents takes the place of its marker. This
file says what the page is, or what is wrong with the markers, without saying how either is found.
It fixes

* `Contents.IsTop`, `Contents.IsItem`, `Contents.IsTable` -- **the table of contents**: the trimmed
  title, and one item for each heading, indented by how far its level is from the smallest one;
* `Document.MarkedOnce` -- the one marker of a document and the lines around it;
* `Document.Becomes` -- **what becomes of a document**, one rule for each case;
* `Becomes.render_eq`, `exists_becomes` -- rendering does what a rule says that applies, and one
  always does;
* **`render_eq_iff_becomes`** -- rendering does what the rules say.
-/

namespace MarkdownTemplate

/-! ## 1. Tables of contents -/

namespace Contents

variable {headings : List Heading} {h : Heading} {top : Nat} {row title block : Text}
  {marker : Line}

/-- The smallest level among headings. -/
structure IsTop (headings : List Heading) (top : Nat) : Prop where
  present : ∃ h ∈ headings, h.level = top
  least : ∀ h ∈ headings, top ≤ h.level

/-- The item of one heading among headings: two spaces for each level below the top, a hyphen and
    the link. -/
def IsItem (headings : List Heading) (h : Heading) (row : Text) : Prop :=
  ∃ top, IsTop headings top ∧
    row = List.replicate (2 * (h.level - top)) ' ' ++ "- ".toList ++ h.link

/-- **The table of contents** for headings: the trimmed title and then the item of each heading, in
    order. Each of these lines ends like the line of the marker if that ends in carriage return
    and line feed, and else in a line feed. -/
def IsTable (marker : Line) (title : Text) (headings : List Heading) (block : Text) : Prop :=
  ∃ rows, List.Forall₂ (IsItem headings) headings rows ∧
    block = ((Text.trim title :: rows).map fun row =>
      row ++ if "\r\n".toList <:+ marker.text then "\r\n".toList else "\n".toList).flatten

theorem topLevel_cons_cons (first second : Heading) (rest : List Heading) :
    topLevel (first :: second :: rest) = min first.level (topLevel (second :: rest)) := rfl

theorem topLevel_le (hmem : h ∈ headings) : topLevel headings ≤ h.level := by
  induction headings with
  | nil => cases hmem
  | cons first rest ih =>
      cases rest with
      | nil =>
          rw [List.mem_singleton.mp hmem]
          exact Nat.le_refl _
      | cons second rest =>
          rw [topLevel_cons_cons]
          rcases List.mem_cons.mp hmem with rfl | hmem
          · exact Nat.min_le_left ..
          · exact Nat.le_trans (Nat.min_le_right ..) (ih hmem)

theorem exists_level_eq_topLevel (hne : headings ≠ []) :
    ∃ h ∈ headings, h.level = topLevel headings := by
  induction headings with
  | nil => exact absurd rfl hne
  | cons first rest ih =>
      cases rest with
      | nil => exact ⟨first, List.mem_singleton_self first, rfl⟩
      | cons second rest =>
          obtain ⟨h, hmem, hlevel⟩ := ih (List.cons_ne_nil second rest)
          rw [topLevel_cons_cons]
          rcases Nat.le_total first.level (topLevel (second :: rest)) with hle | hle
          · exact ⟨first, List.mem_cons_self, (Nat.min_eq_left hle).symm⟩
          · exact ⟨h, List.mem_cons_of_mem _ hmem, by rw [hlevel, Nat.min_eq_right hle]⟩

/-- **The level that the table starts from** is the smallest one. -/
theorem isTop_iff (hmem : h ∈ headings) : IsTop headings top ↔ top = topLevel headings := by
  constructor
  · rintro ⟨⟨x, hx, rfl⟩, hleast⟩
    obtain ⟨y, hy, hlevel⟩ := exists_level_eq_topLevel (List.ne_nil_of_mem hmem)
    exact Nat.le_antisymm (hlevel ▸ hleast y hy) (topLevel_le hx)
  · rintro rfl
    exact ⟨exists_level_eq_topLevel (List.ne_nil_of_mem hmem), fun _ => topLevel_le⟩

theorem isItem_iff (hmem : h ∈ headings) :
    IsItem headings h row ↔ row = item (topLevel headings) h := by
  simp only [IsItem, isTop_iff hmem, exists_eq_left, item]
  rw [List.append_assoc]
  rfl

/-- The items of headings are the rows that the table has for them. -/
theorem forall₂_isItem_iff {listed : List Heading} {rows : List Text} (hsub : listed ⊆ headings) :
    List.Forall₂ (IsItem headings) listed rows ↔ rows = listed.map (item (topLevel headings)) := by
  induction listed generalizing rows with
  | nil => simp
  | cons first rest ih =>
      obtain ⟨hfirst, hrest⟩ := List.cons_subset.mp hsub
      rw [List.forall₂_cons_left_iff, List.map_cons]
      constructor
      · rintro ⟨row, others, hrow, hothers, rfl⟩
        rw [(isItem_iff hfirst).mp hrow, (ih hrest).mp hothers]
      · rintro rfl
        exact ⟨_, _, (isItem_iff hfirst).mpr rfl, (ih hrest).mpr rfl, rfl⟩

/-- **The table that is rendered** is the table of contents, and there is no other. -/
theorem isTable_iff (htitle : marker.title = some title) :
    IsTable marker title headings block ↔ block = render marker headings := by
  have hend : (if "\r\n".toList <:+ marker.text then "\r\n".toList else "\n".toList) =
      lineEnd marker := by
    simp only [lineEnd, List.isSuffixOf_iff_suffix]
    rfl
  simp only [IsTable, forall₂_isItem_iff (List.Subset.refl headings), exists_eq_left, hend, render,
    lines, htitle, Option.getD_some]

end Contents

/-! ## 2. Documents -/

namespace Document

variable {d : Document} {front back : List Line} {marker : Line} {title : Text}
  {r r' : Except Error Text}

/-- **The one marker of a document** with its title, the lines in front of it and those behind
    it. -/
structure MarkedOnce (d : Document) (front : List Line) (marker : Line) (back : List Line)
    (title : Text) : Prop where
  lines_eq : d.lines = front ++ marker :: back
  title_eq : marker.title = some title
  others : ∀ l ∈ front ++ back, l.title = none

/-- The headings on lines, in order. -/
def headingsOn (ls : List Line) : List Heading :=
  ls.filterMap fun l => Heading.parse? l.text

theorem headingsOn_eq (ls : List Line) : headingsOn ls = Heading.all (ls.map Line.text) := by
  rw [Heading.all, List.filterMap_map]
  rfl

/-- **What becomes of a document.** Without a marker its text is the page. More than one marker is
    an error, whatever their titles and depths are. The title of the one marker must be a heading,
    wherever the marker stands, and then the marker must not stand inside an inclusion. If all is
    well, the table of contents for the headings on all other lines takes its place. -/
inductive Becomes (d : Document) : Except Error Text → Prop where
  | unmarked (hnone : ∀ l ∈ d.lines, l.title = none) :
      Becomes d (.ok (d.lines.map Line.text).flatten)
  | several {front between back : List Line} {first second : Line} {title title' : Text}
      (hlines : d.lines = front ++ first :: between ++ second :: back)
      (hfirst : first.title = some title) (hsecond : second.title = some title') :
      Becomes d (.error .severalContents)
  | untitled {front back : List Line} {marker : Line} {title : Text}
      (hplace : d.MarkedOnce front marker back title) (htitle : Heading.parse? title = none) :
      Becomes d (.error (.contentsTitle title))
  | misplaced {front back : List Line} {marker : Line} {title : Text} {h : Heading}
      (hplace : d.MarkedOnce front marker back title) (htitle : Heading.parse? title = some h)
      (hdepth : marker.depth ≠ 0) :
      Becomes d (.error .misplacedContents)
  | listed {front back : List Line} {marker : Line} {title block : Text} {h : Heading}
      (hplace : d.MarkedOnce front marker back title) (htitle : Heading.parse? title = some h)
      (hdepth : marker.depth = 0)
      (htable : Contents.IsTable marker title (headingsOn (front ++ back)) block) :
      Becomes d (.ok ((front.map Line.text).flatten ++ block ++ (back.map Line.text).flatten))

theorem isMarker_eq_false_iff {l : Line} : l.isMarker = false ↔ l.title = none := by
  simp [Line.isMarker]

namespace MarkedOnce

variable (h : d.MarkedOnce front marker back title)

include h

theorem isMarker : marker.isMarker = true := by
  simp [Line.isMarker, h.title_eq]

theorem isMarker_others : ∀ l ∈ front ++ back, l.isMarker = false :=
  fun l hl => isMarker_eq_false_iff.mpr (h.others l hl)

/-- The marker is found. -/
theorem markers_eq : d.markers = [marker] := by
  obtain ⟨hfront, hback⟩ := List.forall_mem_append.mp h.isMarker_others
  have hnone : ∀ {ls : List Line}, (∀ l ∈ ls, l.isMarker = false) → ls.filter Line.isMarker = [] :=
    fun hls => List.filter_eq_nil_iff.mpr fun l hl => by simp [hls l hl]
  rw [markers, h.lines_eq, List.filter_append, List.filter_cons_of_pos h.isMarker, hnone hfront,
    hnone hback, List.nil_append]

/-- The headings are those on the lines around the marker. -/
theorem headings_eq : d.headings = headingsOn (front ++ back) := by
  have hkeep : (front ++ back).filter (fun l => !l.isMarker) = front ++ back :=
    List.filter_eq_self.mpr fun l hl => by simp [h.isMarker_others l hl]
  have hrest : d.lines.filter (fun l => !l.isMarker) = front ++ back := by
    rw [← hkeep, h.lines_eq, List.filter_append, List.filter_append,
      List.filter_cons_of_neg (by simp [h.isMarker])]
  rw [headings, hrest, headingsOn_eq]

/-- What is put in place of the marker stands between the texts of the other lines. -/
theorem flatten_map_eq (block : Text) :
    (d.lines.map fun l => if l.isMarker then block else l.text).flatten =
      (front.map Line.text).flatten ++ block ++ (back.map Line.text).flatten := by
  obtain ⟨hfront, hback⟩ := List.forall_mem_append.mp h.isMarker_others
  have hcopied : ∀ {ls : List Line}, (∀ l ∈ ls, l.isMarker = false) →
      (ls.map fun l => if l.isMarker then block else l.text) = ls.map Line.text :=
    fun hls => List.map_congr_left fun l hl => by simp [hls l hl]
  rw [h.lines_eq, List.map_append, List.map_cons, if_pos h.isMarker, hcopied hfront,
    hcopied hback, List.flatten_append, List.flatten_cons, List.append_assoc]

end MarkedOnce

theorem render_of_two_le (h : 2 ≤ d.markers.length) : d.render = .error .severalContents := by
  unfold render
  cases hmarkers : d.markers with
  | nil => simp [hmarkers] at h
  | cons first rest =>
      cases rest with
      | nil => simp [hmarkers] at h
      | cons second rest => rfl

/-- **Rendering does what a rule says** that applies. -/
theorem Becomes.render_eq (h : d.Becomes r) : d.render = r := by
  cases h with
  | unmarked hnone =>
      have hmarkers : d.markers = [] :=
        List.filter_eq_nil_iff.mpr fun l hl => by simp [isMarker_eq_false_iff.mpr (hnone l hl)]
      simp only [render, hmarkers]
      rfl
  | several hlines hfirst hsecond =>
      refine render_of_two_le ?_
      rw [markers, ← List.countP_eq_length_filter, hlines, List.countP_append, List.countP_append,
        List.countP_cons_of_pos (by simp [Line.isMarker, hfirst]),
        List.countP_cons_of_pos (by simp [Line.isMarker, hsecond])]
      omega
  | untitled hplace htitle =>
      simp [render, hplace.markers_eq, hplace.title_eq, htitle]
  | misplaced hplace htitle hdepth =>
      simp [render, hplace.markers_eq, hplace.title_eq, htitle, hdepth]
  | listed hplace htitle hdepth htable =>
      obtain rfl := (Contents.isTable_iff hplace.title_eq).mp htable
      simp only [render, hplace.markers_eq, hplace.title_eq, hplace.headings_eq,
        hplace.flatten_map_eq, htitle, hdepth, Option.getD_some]
      rfl

/-- A document with one marker can be taken apart at it. -/
theorem exists_markedOnce (h : d.markers = [marker]) :
    ∃ front back title, d.MarkedOnce front marker back title := by
  obtain ⟨front, back, hlines, hfront, hmarker, hback⟩ := List.filter_eq_cons_iff.mp h
  obtain ⟨title, htitle⟩ := Option.isSome_iff_exists.mp hmarker
  refine ⟨front, back, title, hlines, htitle, List.forall_mem_append.mpr ⟨fun l hl => ?_,
    fun l hl => ?_⟩⟩
  · simpa [Line.isMarker] using hfront l hl
  · simpa [Line.isMarker] using List.filter_eq_nil_iff.mp hback l hl

/-- **A rule applies** to every document. -/
theorem exists_becomes (d : Document) : ∃ r, d.Becomes r := by
  cases hmarkers : d.markers with
  | nil =>
      refine ⟨_, .unmarked fun l hl => ?_⟩
      simpa [Line.isMarker] using List.filter_eq_nil_iff.mp hmarkers l hl
  | cons marker rest =>
      cases rest with
      | nil =>
          obtain ⟨front, back, title, hplace⟩ := exists_markedOnce hmarkers
          cases htitle : Heading.parse? title with
          | none => exact ⟨_, .untitled hplace htitle⟩
          | some h =>
              by_cases hdepth : marker.depth = 0
              · exact ⟨_, .listed hplace htitle hdepth
                  ((Contents.isTable_iff hplace.title_eq).mpr rfl)⟩
              · exact ⟨_, .misplaced hplace htitle hdepth⟩
      | cons second rest =>
          obtain ⟨front, tail, hlines, -, hfirst, htail⟩ := List.filter_eq_cons_iff.mp hmarkers
          obtain ⟨between, back, rfl, -, hsecond, -⟩ := List.filter_eq_cons_iff.mp htail
          obtain ⟨title, htitle⟩ := Option.isSome_iff_exists.mp hfirst
          obtain ⟨title', htitle'⟩ := Option.isSome_iff_exists.mp hsecond
          have happart : d.lines = front ++ marker :: between ++ second :: back := by
            rw [hlines, List.append_assoc, List.cons_append]
          exact ⟨_, .several happart htitle htitle'⟩

/-- **Rendering does what the rules say**: to each document one rule applies, whatever its lines,
    depths and titles are, and what the rule says is what rendering makes of it. A document is a
    value, so it is what it was. -/
theorem render_eq_iff_becomes (d : Document) (r : Except Error Text) :
    d.render = r ↔ d.Becomes r := by
  constructor
  · rintro rfl
    obtain ⟨r, h⟩ := exists_becomes d
    rwa [h.render_eq]
  · exact Becomes.render_eq

/-- The headings of both sides are listed, also those that come out of inclusions. -/
example : (⟨false, [⟨"## B\n".toList, 1, none⟩,
    ⟨"@[page_toc](#  T)\r\n".toList, 0, some "#  T ".toList⟩, ⟨"# A\n".toList, 0, none⟩],
    false⟩ : Document).render =
    .ok "## B\n#  T\r\n  - [B](#b)\r\n- [A](#a)\r\n# A\n".toList := by
  decide +kernel

end Document

end MarkdownTemplate
