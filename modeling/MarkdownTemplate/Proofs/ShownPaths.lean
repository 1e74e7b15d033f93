import MarkdownTemplate.Proofs.PathTexts
import MarkdownTemplate.Proofs.Relocation

/-!
# Shown paths

Messages show a path as it is seen from a root directory if it lies below it, and in full if it does
not. This file says that nothing is lost by that. It fixes

* `Path.display_cases` -- the two ways to show a path;
* `Path.absolute_below` -- names read in a directory lead below it;
* `Path.absolute_display` -- what is shown denotes the path, in the root directory;
* **`Path.display_identifies`** -- two paths are shown alike only if they are the same, and what is
  shown leads back to the path however one reads it in the root directory.
-/

namespace MarkdownTemplate.Path

variable {root p q : Path} {names : List Text}

theorem below_iff : (∃ names, p = root.below names) ↔
    p.anchor = root.anchor ∧ root.names.isPrefixOf p.names := by
  rw [List.isPrefixOf_iff_prefix]
  constructor
  · rintro ⟨names, rfl⟩
    exact ⟨rfl, List.prefix_append ..⟩
  · rintro ⟨hanchor, names, hnames⟩
    refine ⟨names, ?_⟩
    rw [below, ← hanchor, hnames]

/-- **A path is shown as the names that lead to it from the root directory**, or in full if none
    do. -/
theorem display_cases (root p : Path) :
    (∃ names, p = root.below names ∧ p.display (some root) = text ⟨.here, names⟩) ∨
      (¬ (∃ names, p = root.below names) ∧ p.display (some root) = p.text) := by
  by_cases hbelow : ∃ names, p = root.below names
  · obtain ⟨names, rfl⟩ := hbelow
    exact .inl ⟨names, rfl, display_below root names⟩
  · refine .inr ⟨hbelow, ?_⟩
    rw [below_iff] at hbelow
    rw [display, Option.bind_some, relativeTo?, if_neg hbelow]
    rfl

/-- **Names read in a directory lead below it.** -/
theorem absolute_below (h : (root.below names).Canonical) :
    absolute root (text ⟨.here, names⟩) = root.below names := by
  have hnames : ∀ name ∈ names, IsName name := fun name hname =>
    h.isName name (List.mem_append_right _ hname)
  have hof : ofText (text ⟨.here, names⟩) = ⟨.here, names⟩ := ofText_text hnames
  rw [absolute, hof]
  exact normal_of_noUp h.noUp

/-- **What is shown denotes the path**, in the root directory. -/
theorem absolute_display (h : p.Canonical) (root : Path) :
    absolute root (p.display (some root)) = p := by
  rcases display_cases root p with ⟨names, rfl, hshown⟩ | ⟨-, hshown⟩
  · rw [hshown, absolute_below h]
  · rw [hshown, absolute_text h]

/-- **What is shown is relative exactly for the paths below the root directory.** -/
theorem isAbsolute_display (h : p.Canonical) (root : Path) :
    (ofText (p.display (some root))).isAbsolute = false ↔ ∃ names, p = root.below names := by
  rcases display_cases root p with ⟨names, rfl, hshown⟩ | ⟨hnot, hshown⟩
  · have hnames : ∀ name ∈ names, IsName name := fun name hname =>
      h.isName name (List.mem_append_right _ hname)
    have hof : ofText (text ⟨.here, names⟩) = ⟨.here, names⟩ := ofText_text hnames
    rw [hshown, hof]
    exact ⟨fun _ => ⟨names, rfl⟩, fun _ => rfl⟩
  · rw [hshown, ofText_text h.isName, h.absolute]
    exact ⟨fun heq => (by cases heq), fun hbelow => absurd hbelow hnot⟩

/-- **Shown paths identify files.** Let a root directory and two paths be canonical. The paths are
    shown alike only if they are the same. What is shown of a path leads back to it: read in the
    root directory, put as a text behind the text of that directory and normalised, or cited by a
    file that lies there. It is relative exactly if the path lies below the root directory or is
    it. -/
theorem display_identifies (hroot : root.Canonical) (hp : p.Canonical) (hq : q.Canonical) :
    let shown := p.display (some root)
    (shown = q.display (some root) ↔ p = q) ∧ absolute root shown = p ∧
    normalizedText (joinedText root.text shown) = p.text ∧
    (∀ file : Path, file.parent = root → file.resolve shown = p) ∧
    ((ofText shown).isAbsolute = false ↔ ∃ names, p = root.below names) := by
  intro shown
  have hback : absolute root shown = p := absolute_display hp root
  refine ⟨⟨fun heq => ?_, fun heq => by rw [← heq]⟩, hback, ?_, fun file hfile => ?_,
    isAbsolute_display hp root⟩
  · rw [← hback, heq, absolute_display hq]
  · rw [normalizedText_eq, ofText_joinedText hroot.absolute hroot.isName]
    exact congrArg text hback
  · rw [resolve, hfile, hback]

/-- A path with two slashes in front and the same path with one are shown differently, and so is one
    that merely begins with the same letters as the root directory. -/
theorem display_identifies_alike :
    let root := ofText "/w".toList
    let twice := ofText "//w/a".toList
    let once := ofText "/w/a".toList
    let longer := ofText "/wx/a".toList
    (root.Canonical ∧ twice.Canonical ∧ once.Canonical ∧ longer.Canonical) ∧
    [twice, once, longer, root].map (display (some root)) =
      ["//w/a", "a", "/wx/a", "."].map String.toList ∧
    (twice.display (some root) ≠ once.display (some root) ∧
      once.display (some root) ≠ longer.display (some root)) ∧
    normalizedText (joinedText root.text (twice.display (some root))) = twice.text ∧
    (ofText "/w/t.md".toList).resolve (once.display (some root)) = once := by
  intro root twice once longer
  have hroot : root.Canonical := canonical_ofText (s := "/w".toList) rfl
  have htwice : twice.Canonical := canonical_ofText (s := "//w/a".toList) rfl
  have honce : once.Canonical := canonical_ofText (s := "/w/a".toList) rfl
  have hlonger : longer.Canonical := canonical_ofText (s := "/wx/a".toList) rfl
  obtain ⟨hiff, -, htext, -⟩ := display_identifies hroot htwice honce
  obtain ⟨hiff', -, -, hresolve, -⟩ := display_identifies hroot honce hlonger
  exact ⟨⟨hroot, htwice, honce, hlonger⟩, by decide +kernel,
    ⟨mt hiff.mp (by decide), mt hiff'.mp (by decide)⟩, htext, hresolve _ (by decide)⟩

end MarkdownTemplate.Path
