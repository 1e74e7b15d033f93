import Mathlib.Data.List.Basic
import MarkdownTemplate.Proofs.CanonicalPaths

/-!
# Paths put together as texts

A cited path is understood from a directory, and this can be done in two ways: the path that the
text denotes is joined to that of the directory, or the text itself is put behind the text of the
directory; what comes out is then normalised as a text, piece by piece. This file says that both
ways lead to the same place, whatever slashes and dots the text holds. It fixes

* `Path.joinedText` -- two texts put together as paths; `Path.ofText_joinedText` -- the path that
  this denotes;
* `Path.keepPiece`, `Path.normalizedText` -- a text normalised piece by piece;
  `Path.normalizedText_eq` -- that is the text of the normal path;
* **`Path.resolve_eq_absolute_parent`** -- what a file cites is what the text denotes in its
  directory, and a canonical path.
-/

namespace MarkdownTemplate.Path

variable {dir includer : Path} {anchor : Anchor} {names : List Text} {s : Text}

/-! ## 1. Putting texts together -/

/-- **A text behind the text of a directory.** A text that begins with a slash stands alone; else
    a slash is put between the two, unless there is one or nothing in front of it. -/
def joinedText (dir s : Text) : Text :=
  if s.head? = some '/' then s
  else if dir = [] ∨ dir.getLast? = some '/' then dir ++ s
  else dir ++ '/' :: s

/-- A text starts at no root exactly if it does not begin with a slash. -/
theorem anchorOf_eq_here_iff : anchorOf s = .here ↔ s.head? ≠ some '/' := by
  constructor
  · intro hhere hslash
    obtain ⟨rest, rfl⟩ := List.head?_eq_some_iff.mp hslash
    rw [anchorOf, List.takeWhile_cons_of_pos rfl, List.length_cons] at hhere
    split at hhere
    · omega
    · cases hhere
    · cases hhere
  · intro h
    rw [anchorOf, takeWhile_slash h]
    rfl

theorem isAbsolute_ofText : (ofText s).isAbsolute = true ↔ s.head? = some '/' := by
  rw [isAbsolute, bne_iff_ne, ne_eq, ofText, anchorOf_eq_here_iff, Classical.not_not]

theorem namesOf_append (s t : Text) : namesOf (s ++ '/' :: t) = namesOf s ++ namesOf t := by
  rw [namesOf, Text.pieces_append, List.filter_append]
  rfl

/-- The text of names does not end with a slash: there would be an empty piece behind it. -/
theorem getLast?_joined (h : ∀ name ∈ names, IsName name) :
    (Text.joined ['/'] names).getLast? ≠ some '/' := by
  intro hslash
  obtain ⟨front, hfront⟩ := List.getLast?_eq_some_iff.mp hslash
  cases names with
  | nil => cases front <;> cases hfront
  | cons first rest =>
      have hpieces := Text.pieces_joined (List.cons_ne_nil first rest)
        fun name hname => (h name hname).noSlash
      rw [hfront, Text.pieces_append] at hpieces
      exact (h [] (hpieces ▸ by simp [Text.pieces])).nonempty rfl

/-- **Joined texts denote the joined paths**, in an absolute directory. -/
theorem ofText_joinedText (habs : dir.isAbsolute = true) (h : ∀ name ∈ dir.names, IsName name)
    (s : Text) : ofText (joinedText dir.text s) = dir.join (ofText s) := by
  obtain ⟨anchor, names⟩ := dir
  have hanchor : anchor ≠ .here := by simpa [isAbsolute] using habs
  rw [joinedText, join]
  by_cases hslash : s.head? = some '/'
  · rw [if_pos hslash, if_pos (isAbsolute_ofText.mpr hslash)]
  · rw [if_neg hslash, if_neg (mt isAbsolute_ofText.mp hslash)]
    have htext : text ⟨anchor, names⟩ = slashes anchor ++ Text.joined ['/'] names :=
      if_neg fun hnowhere => hanchor hnowhere.1
    rw [htext]
    cases names with
    | nil =>
        have hroot : (slashes anchor ++ Text.joined ['/'] []).getLast? = some '/' := by
          cases anchor with
          | here => exact absurd rfl hanchor
          | root => rfl
          | doubleRoot => rfl
        rw [if_pos (.inr hroot), Text.joined, List.intercalate_nil, List.append_nil, ofText,
          anchorOf_slashes hslash, namesOf_slashes]
        rfl
    | cons first rest =>
        have hhead := head?_joined h
        have hlast := getLast?_joined h
        have hnames := namesOf_joined h
        generalize Text.joined ['/'] (first :: rest) = tail at hhead hlast hnames ⊢
        have hne : tail ≠ [] := fun hnil => by
          rw [hnil] at hnames
          exact List.cons_ne_nil _ _ hnames.symm
        have hopen : ¬ (slashes anchor ++ tail = [] ∨
            (slashes anchor ++ tail).getLast? = some '/') := by
          rw [List.getLast?_append_of_ne_nil _ hne]
          simp [hne, hlast]
        have hfront : (tail ++ '/' :: s).head? ≠ some '/' := by
          rwa [List.head?_append_of_ne_nil _ hne]
        rw [if_neg hopen, List.append_assoc, ofText, anchorOf_slashes hfront,
          namesOf_slashes, namesOf_append, hnames]
        rfl

/-! ## 2. Normalising a text -/

/-- **One piece more** on the pieces that are kept, the outermost first. Empty pieces and `.` are
    left out. A `..` takes back the piece kept last; it is kept itself behind another one, and where
    there is no root and nothing to take back. -/
def keepPiece (rooted : Bool) (kept : List Text) (piece : Text) : List Text :=
  if piece = [] ∨ piece = ['.'] then kept
  else if piece ≠ ['.', '.'] ∨ (rooted = false ∧ kept = []) ∨ kept.getLast? = some ['.', '.'] then
    kept ++ [piece]
  else kept.dropLast

/-- **The text normalised**, piece by piece: one or two slashes in front as the text has them, and
    one between the pieces that are kept. -/
def normalizedText (s : Text) : Text :=
  let kept := (Text.pieces '/' s).foldl (keepPiece (s.head? == some '/')) []
  let t := slashes (anchorOf s) ++ Text.joined ['/'] kept
  if t = [] then ['.'] else t

/-- Keeping a name is climbing, seen from the other end. -/
theorem keepPiece_eq {rooted : Bool} (hrooted : rooted = false ↔ anchor = .here) {piece : Text}
    (h : IsName piece) (kept : List Text) :
    keepPiece rooted kept piece = (climb anchor kept.reverse piece).reverse := by
  rw [keepPiece, if_neg (by simp [h.nonempty, h.noDot])]
  by_cases hup : piece = ['.', '.']
  · rcases List.eq_nil_or_concat kept with rfl | ⟨front, top, rfl⟩
    · by_cases hhere : anchor = .here <;> simp [climb, hup, hrooted, hhere]
    · by_cases htop : top = ['.', '.'] <;> simp [climb, hup, htop]
  · rw [if_pos (.inl hup), climb_down hup, List.reverse_cons, List.reverse_reverse]

theorem foldl_keepPiece {rooted : Bool} (hrooted : rooted = false ↔ anchor = .here)
    (pieces : List Text) (hpieces : ∀ piece ∈ pieces, '/' ∉ piece) (kept : List Text) :
    pieces.foldl (keepPiece rooted) kept =
      ((pieces.filter fun name => name != [] && name != ['.']).foldl (climb anchor)
        kept.reverse).reverse := by
  induction pieces generalizing kept with
  | nil => exact (List.reverse_reverse kept).symm
  | cons piece rest ih =>
      obtain ⟨hpiece, hrest⟩ := List.forall_mem_cons.mp hpieces
      by_cases hname : piece = [] ∨ piece = ['.']
      · have hskip : ¬ (piece != [] && piece != ['.']) = true := by
          rcases hname with rfl | rfl <;> decide
        rw [List.foldl_cons, keepPiece, if_pos hname, List.filter_cons, if_neg hskip]
        exact ih hrest kept
      · obtain ⟨hnonempty, hdot⟩ := not_or.mp hname
        have htest : (piece != [] && piece != ['.']) = true := by simp [hnonempty, hdot]
        rw [List.foldl_cons, keepPiece_eq hrooted ⟨hnonempty, hdot, hpiece⟩,
          List.filter_cons, if_pos htest, List.foldl_cons, ih hrest, List.reverse_reverse]

/-- **Normalising a text is normalising the path** that it denotes. -/
theorem normalizedText_eq (s : Text) : normalizedText s = (ofText s).normal.text := by
  have hrooted : (s.head? == some '/') = false ↔ anchorOf s = .here := by
    rw [anchorOf_eq_here_iff, beq_eq_false_iff_ne]
  have hkept : (Text.pieces '/' s).foldl (keepPiece (s.head? == some '/')) [] =
      (ofText s).normal.names :=
    foldl_keepPiece hrooted _ (fun _ => Text.not_mem_of_mem_pieces) []
  have hnames := isName_normal (p := ofText s) fun _ hname => isName_of_mem_namesOf hname
  have hnowhere : slashes (anchorOf s) ++ Text.joined ['/'] (ofText s).normal.names = [] ↔
      anchorOf s = .here ∧ (ofText s).normal.names = [] := by
    have hslashes : slashes (anchorOf s) = [] ↔ anchorOf s = .here := by
      cases anchorOf s <;> simp [slashes]
    have hjoined : Text.joined ['/'] (ofText s).normal.names = [] ↔
        (ofText s).normal.names = [] := by
      refine ⟨fun hnil => ?_, fun hnil => by rw [hnil]; rfl⟩
      rw [← namesOf_joined hnames, hnil]
      rfl
    rw [List.append_eq_nil_iff, hslashes, hjoined]
  rw [normalizedText, hkept, text]
  simp only [hnowhere]
  rfl

/-- A normalised text denotes the normal path. -/
theorem ofText_normalizedText (s : Text) : ofText (normalizedText s) = (ofText s).normal := by
  rw [normalizedText_eq]
  exact ofText_text (isName_normal fun _ hname => isName_of_mem_namesOf hname)

/-! ## 3. Citing -/

/-- **What a text denotes in a directory**, found by joining and normalising texts. -/
theorem absolute_eq_ofText (h : dir.Canonical) (s : Text) :
    absolute dir s = ofText (normalizedText (joinedText dir.text s)) := by
  rw [ofText_normalizedText, ofText_joinedText h.absolute h.isName, absolute]

/-- **What a file cites is what the text denotes in its directory.** Joining the path of the text
    and normalising the text of that, or joining the texts and normalising them, gives the same
    text, and both say where the cited path leads. It leads to a canonical path: absolute, and
    through no empty name, no `.` and no `..`. That path denotes itself wherever one is, and files
    that lie in the same directory cite the same. -/
theorem resolve_eq_absolute_parent (h : includer.Canonical) (cited : Text) :
    let byPath := normalizedText (includer.parent.join (ofText cited)).text
    let byText := normalizedText (joinedText includer.parent.text cited)
    byPath = byText ∧ includer.resolve cited = ofText byPath ∧
    absolute includer.parent cited = ofText byText ∧
    includer.resolve cited = absolute includer.parent cited ∧
    (includer.resolve cited).Canonical ∧
    (∀ cwd, absolute cwd (includer.resolve cited).text = includer.resolve cited) ∧
    ∀ other : Path, other.parent = includer.parent →
      other.resolve cited = includer.resolve cited := by
  intro byPath byText
  have hparent := canonical_parent h
  have hcanonical : (includer.resolve cited).Canonical := canonical_absolute hparent cited
  have hjoin := ofText_text (isName_join hparent cited)
  have hsame : byPath = byText := by
    show normalizedText _ = normalizedText _
    rw [normalizedText_eq, normalizedText_eq, hjoin,
      ofText_joinedText hparent.absolute hparent.isName]
  have habsolute : absolute includer.parent cited = ofText byText :=
    absolute_eq_ofText hparent cited
  refine ⟨hsame, ?_, habsolute, rfl, hcanonical, absolute_text hcanonical, fun other hother => ?_⟩
  · rw [hsame]
    exact habsolute
  · rw [resolve, resolve, hother]

/-- A file two directories below the root that is written with two slashes. -/
def deepFile : Path :=
  ⟨.doubleRoot, ["w".toList, "s".toList, "t.md".toList]⟩

theorem deepFile_canonical : deepFile.Canonical :=
  canonical_ofText (s := "//w/s/t.md".toList) rfl

/-- A path that climbs above the root, with slashes and dots to spare, leads below the root. -/
theorem resolve_eq_absolute_parent_climbing :
    deepFile.Canonical ∧
    joinedText deepFile.parent.text "./..//x/../../../../y/.".toList =
      "//w/s/./..//x/../../../../y/.".toList ∧
    ofText (normalizedText "//w/s/./..//x/../../../../y/.".toList) = ⟨.doubleRoot, ["y".toList]⟩ ∧
    deepFile.resolve "./..//x/../../../../y/.".toList = ⟨.doubleRoot, ["y".toList]⟩ ∧
    deepFile.resolve "./..//x/../../../../y/.".toList =
      absolute deepFile.parent "./..//x/../../../../y/.".toList := by
  obtain ⟨-, -, habsolute, hresolve, -⟩ :=
    resolve_eq_absolute_parent deepFile_canonical "./..//x/../../../../y/.".toList
  have htext : joinedText deepFile.parent.text "./..//x/../../../../y/.".toList =
      "//w/s/./..//x/../../../../y/.".toList := by decide +kernel
  have hpath : ofText (normalizedText "//w/s/./..//x/../../../../y/.".toList) =
      ⟨.doubleRoot, ["y".toList]⟩ := by decide +kernel
  refine ⟨deepFile_canonical, htext, hpath, ?_, hresolve⟩
  rw [hresolve, habsolute, htext, hpath]

end MarkdownTemplate.Path
