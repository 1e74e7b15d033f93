import Mathlib.Data.List.Basic
import MarkdownTemplate.Proofs.Lines

/-!
# Cutting a text into lines again

Lines are put together to a page, and a reader of the page cuts it into lines again. These are the
lines that were put together, but for one thing: a line that ends in a carriage return and a line
that is a line feed are read as one. This file fixes

* `Text.IsLine` -- a text that is one line;
* `Text.LineByLine` -- lines of which each but the last is ended;
* `splitLines_append_of_isLine` -- what a line adds to the lines behind it;
* **`filterMap_splitLines_flatten`** -- what is read off the lines one by one is read off the page,
  unless a line feed at the end of a line makes a difference to it.
-/

namespace MarkdownTemplate

namespace Text

variable {ends : Char → Bool} {c : Char} {l s t : Text} {ls : List Text}

/-! ## 1. One line -/

/-- **The text is one line**: it is not empty, and no line ends before its end. -/
def IsLine (t : Text) : Prop :=
  splitLines isLineEnd t = [t]

/-- The first line begins as the text does. -/
theorem head?_of_splitLines (h : splitLines ends s = l :: ls) : l.head? = s.head? := by
  have hflat := flatten_splitLines ends s
  have hne := splitLines_nonempty ends s l (by simp [h])
  rw [h, List.flatten_cons] at hflat
  rw [← hflat, List.head?_append_of_ne_nil l hne]

theorem splitLines_eq_nil_iff : splitLines ends s = [] ↔ s = [] := by
  constructor
  · intro h
    rw [← flatten_splitLines ends s, h]
    rfl
  · rintro rfl
    rfl

/-- The character ends a line of its own in front of this text. -/
def endsBefore (c : Char) (t : Text) : Bool :=
  isLineEnd c && !(c == '\r' && t.head? == some '\n')

theorem consLine_of_endsBefore (h : endsBefore c l = true) :
    consLine isLineEnd c (l :: ls) = [c] :: l :: ls :=
  if_pos h

theorem consLine_of_not_endsBefore (h : endsBefore c l = false) :
    consLine isLineEnd c (l :: ls) = (c :: l) :: ls :=
  if_neg (by simpa [endsBefore] using h)

theorem isLine_singleton (c : Char) : IsLine [c] := rfl

theorem IsLine.ne_nil (h : IsLine t) : t ≠ [] := by
  rintro rfl
  cases h

/-- A line that is longer is one without its first character, and none ends at that. -/
theorem IsLine.tail (h : IsLine (c :: t)) (ht : t ≠ []) : IsLine t ∧ endsBefore c t = false := by
  have hsplit : consLine isLineEnd c (splitLines isLineEnd t) = [c :: t] := h
  cases hlines : splitLines isLineEnd t with
  | nil => exact absurd (splitLines_eq_nil_iff.mp hlines) ht
  | cons l ls =>
      have hhead := head?_of_splitLines hlines
      rw [hlines] at hsplit
      cases hends : endsBefore c l with
      | true =>
          rw [consLine_of_endsBefore hends] at hsplit
          simp at hsplit
      | false =>
          rw [consLine_of_not_endsBefore hends] at hsplit
          simp only [List.cons.injEq, true_and] at hsplit
          obtain ⟨rfl, rfl⟩ := hsplit
          exact ⟨hlines, hends⟩

theorem IsLine.cons (h : IsLine t) (hends : endsBefore c t = false) : IsLine (c :: t) := by
  rw [IsLine, splitLines_cons, h, consLine_of_not_endsBefore hends]

/-- A line feed is the last character of its line. -/
theorem IsLine.eq_lineFeed (h : IsLine t) (hhead : t.head? = some '\n') : t = ['\n'] := by
  cases t with
  | nil => cases hhead
  | cons c rest =>
      obtain rfl : c = '\n' := by simpa using hhead
      by_contra hne
      have hrest : rest ≠ [] := fun hnil => hne (by rw [hnil])
      have hends : endsBefore '\n' rest = true := rfl
      rw [(h.tail hrest).2] at hends
      cases hends

/-- **What a text is cut into are lines.** -/
theorem isLine_of_mem_splitLines (s : Text) : ∀ l ∈ splitLines isLineEnd s, IsLine l := by
  induction s with
  | nil => simp
  | cons c s ih =>
      rw [splitLines_cons]
      cases hlines : splitLines isLineEnd s with
      | nil => simp [consLine, isLine_singleton]
      | cons l ls =>
          rw [hlines, List.forall_mem_cons] at ih
          cases hends : endsBefore c l with
          | true =>
              rw [consLine_of_endsBefore hends]
              exact List.forall_mem_cons.mpr
                ⟨isLine_singleton c, List.forall_mem_cons.mpr ih⟩
          | false =>
              rw [consLine_of_not_endsBefore hends]
              exact List.forall_mem_cons.mpr ⟨ih.1.cons hends, ih.2⟩

/-- No line ends in the text. -/
def Plain (t : Text) : Prop :=
  ∀ c ∈ t, isLineEnd c = false

theorem Plain.mono (h : Plain t) (hsub : s ⊆ t) : Plain s :=
  fun c hc => h c (hsub hc)

theorem Plain.append (hs : Plain s) (ht : Plain t) : Plain (s ++ t) :=
  List.forall_mem_append.mpr ⟨hs, ht⟩

/-- What ends no line may stand in front of a line. -/
theorem IsLine.append_plain (h : IsLine t) (hs : Plain s) : IsLine (s ++ t) := by
  induction s with
  | nil => exact h
  | cons c s ih =>
      obtain ⟨hc, hs⟩ := List.forall_mem_cons.mp hs
      exact (ih hs).cons (by simp [endsBefore, hc])

/-- The ways a line may end; the last line of a text may do without an end. -/
def endings : List Text :=
  [[], ['\n'], ['\r'], ['\r', '\n']]

/-- **A line ends in one of four ways**, and nowhere before. -/
theorem IsLine.eq_append (h : IsLine t) : ∃ body, ∃ ending ∈ endings, Plain body ∧
    t = body ++ ending := by
  induction t with
  | nil => exact absurd rfl h.ne_nil
  | cons c t ih =>
      cases hc : isLineEnd c with
      | false =>
          by_cases ht : t = []
          · exact ⟨[c], [], by simp [endings], by simpa [Plain] using hc, by simp [ht]⟩
          · obtain ⟨body, ending, hending, hbody, rfl⟩ := ih (h.tail ht).1
            exact ⟨c :: body, ending, hending, List.forall_mem_cons.mpr ⟨hc, hbody⟩, rfl⟩
      | true =>
          have hfeed : c = '\n' ∨ c = '\r' := by simpa [isLineEnd] using hc
          by_cases ht : t = []
          · subst ht
            refine ⟨[], [c], ?_, by simp [Plain], rfl⟩
            rcases hfeed with rfl | rfl <;> simp [endings]
          · -- a line end is not the last character only if a line feed is
            obtain ⟨htline, hends⟩ := h.tail ht
            have hjoin : c = '\r' ∧ t.head? = some '\n' := by
              simpa [endsBefore, hc] using hends
            obtain rfl := htline.eq_lineFeed hjoin.2
            obtain rfl := hjoin.1
            exact ⟨[], ['\r', '\n'], by simp [endings], by simp [Plain], rfl⟩

/-- Without its end, no line ends in a line. -/
theorem IsLine.plain_dropTrailing (h : IsLine t) : Plain (dropTrailing isLineEnd t) := by
  obtain ⟨body, ending, hending, hbody, rfl⟩ := h.eq_append
  have hdrop : dropTrailing isLineEnd (body ++ ending) = dropTrailing isLineEnd body := by
    have hall : ∀ c ∈ ending.reverse, isLineEnd c = true := by
      simp only [endings, List.mem_cons, List.not_mem_nil, or_false] at hending
      rcases hending with rfl | rfl | rfl | rfl <;> simp [isLineEnd]
    rw [dropTrailing, List.reverse_append, List.dropWhile_append_of_pos hall, dropTrailing]
  rw [hdrop]
  exact hbody.mono (dropTrailing_sublist isLineEnd body).subset

/-- A line that is not ended becomes an ended line. -/
theorem IsLine.terminated (h : IsLine t) : IsLine t.terminated := by
  unfold Text.terminated
  split
  · exact h
  · rename_i hopen
    obtain ⟨body, ending, hending, hbody, rfl⟩ := h.eq_append
    simp only [endings, List.mem_cons, List.not_mem_nil, or_false] at hending
    rcases hending with rfl | rfl | rfl | rfl
    · rw [List.append_nil]
      exact (isLine_singleton '\n').append_plain hbody
    all_goals simp [isTerminated, isLineEnd] at hopen

/-! ## 2. Lines put together -/

/-- Puts a line in front of lines. If it ends in a carriage return and a line feed comes next, the
    two are the end of one line. -/
def joinLine (l : Text) : List Text → List Text
  | [] => [l]
  | next :: rest =>
    if l.getLast? = some '\r' ∧ next.head? = some '\n' then (l ++ next) :: rest
    else l :: next :: rest

/-- A line end, and the lines behind it. -/
theorem consLine_eq_joinLine (hc : isLineEnd c = true) (ls : List Text) :
    consLine isLineEnd c ls = joinLine [c] ls := by
  cases ls with
  | nil => rfl
  | cons next rest =>
      cases hends : endsBefore c next with
      | true =>
          have hapart : ¬ (c = '\r' ∧ next.head? = some '\n') := by
            rw [not_and_or]
            simpa [endsBefore, hc] using hends
          rw [consLine_of_endsBefore hends, joinLine, if_neg (by simpa using hapart)]
      | false =>
          have hjoin : c = '\r' ∧ next.head? = some '\n' := by
            simpa [endsBefore, hc] using hends
          rw [consLine_of_not_endsBefore hends, joinLine, if_pos (by simpa using hjoin)]
          rfl

/-- A character that ends no line, and lines of which the first is not empty. -/
theorem consLine_joinLine (ht : t ≠ []) (hends : endsBefore c t = false) (ls : List Text) :
    consLine isLineEnd c (joinLine t ls) = joinLine (c :: t) ls := by
  obtain ⟨a, rest, rfl⟩ := List.exists_cons_of_ne_nil ht
  cases ls with
  | nil => exact consLine_of_not_endsBefore hends
  | cons next others =>
      rw [joinLine, joinLine, List.getLast?_cons_cons]
      split
      · exact consLine_of_not_endsBefore hends
      · exact consLine_of_not_endsBefore hends

/-- **What an ended line adds to the lines behind it.** -/
theorem splitLines_append_of_isLine (hline : IsLine l) (hended : l.isTerminated = true) (s : Text) :
    splitLines isLineEnd (l ++ s) = joinLine l (splitLines isLineEnd s) := by
  induction l with
  | nil => exact absurd rfl hline.ne_nil
  | cons c t ih =>
      rw [List.cons_append, splitLines_cons]
      by_cases ht : t = []
      · subst ht
        have hend : isLineEnd c = true := (isTerminated_concat [] c).symm.trans hended
        exact consLine_eq_joinLine hend _
      · obtain ⟨htline, hends⟩ := hline.tail ht
        have htended : isTerminated t = true := by
          obtain ⟨a, rest, rfl⟩ := List.exists_cons_of_ne_nil ht
          rwa [isTerminated, List.getLast?_cons_cons] at hended
        rw [ih htline htended, consLine_joinLine ht hends]

/-- **Lines one behind another**: each is a line, and each that another one follows is ended. -/
structure LineByLine (ls : List Text) : Prop where
  isLine : ∀ l ∈ ls, IsLine l
  ended : ls.Pairwise fun l _ => l.isTerminated = true

theorem lineByLine_nil : LineByLine [] :=
  ⟨by simp, .nil⟩

theorem lineByLine_cons :
    LineByLine (l :: ls) ↔ IsLine l ∧ (ls ≠ [] → l.isTerminated = true) ∧ LineByLine ls := by
  constructor
  · intro h
    obtain ⟨hline, hended⟩ := h
    rw [List.forall_mem_cons] at hline
    rw [List.pairwise_cons] at hended
    refine ⟨hline.1, fun hne => ?_, hline.2, hended.2⟩
    obtain ⟨next, rest, rfl⟩ := List.exists_cons_of_ne_nil hne
    exact hended.1 next List.mem_cons_self
  · intro h
    obtain ⟨hfirst, hended, hrest⟩ := h
    exact ⟨List.forall_mem_cons.mpr ⟨hfirst, hrest.isLine⟩,
      List.pairwise_cons.mpr ⟨fun next hnext => hended (List.ne_nil_of_mem hnext), hrest.ended⟩⟩

/-- Ended lines, and more lines behind them. -/
theorem LineByLine.append {ls' : List Text} (h : LineByLine ls)
    (hended : ∀ l ∈ ls, l.isTerminated = true) (h' : LineByLine ls') : LineByLine (ls ++ ls') where
  isLine := List.forall_mem_append.mpr ⟨h.isLine, h'.isLine⟩
  ended := List.pairwise_append.mpr ⟨h.ended, h'.ended, fun l hl _ _ => hended l hl⟩

theorem LineByLine.sublist {ls' : List Text} (h : LineByLine ls) (hsub : ls'.Sublist ls) :
    LineByLine ls' :=
  ⟨fun l hl => h.isLine l (hsub.subset hl), h.ended.sublist hsub⟩

/-- Lines are one behind another in a text. -/
theorem lineByLine_splitLines (s : Text) : LineByLine (splitLines isLineEnd s) := by
  refine ⟨isLine_of_mem_splitLines s, ?_⟩
  have hended := isTerminated_of_mem_dropLast s
  generalize splitLines isLineEnd s = ls at hended
  induction ls with
  | nil => exact .nil
  | cons l ls ih =>
      cases ls with
      | nil => exact List.pairwise_singleton ..
      | cons next rest =>
          rw [List.dropLast_cons_cons, List.forall_mem_cons] at hended
          exact List.pairwise_cons.mpr ⟨fun _ _ => hended.1, ih hended.2⟩

section Reading

variable {β : Type} {f : Text → Option β} (hfeed : ∀ l, f (l ++ ['\n']) = f l)
  (hnone : f ['\n'] = none)

include hfeed hnone

/-- What is read off a line is read off it in front of others, too. -/
theorem filterMap_joinLine (hls : ∀ next ∈ ls, IsLine next) :
    (joinLine l ls).filterMap f = [l].filterMap f ++ ls.filterMap f := by
  cases ls with
  | nil => simp [joinLine]
  | cons next rest =>
      rw [joinLine]
      split
      · rename_i hjoin
        obtain rfl := (hls next List.mem_cons_self).eq_lineFeed hjoin.2
        have hfirst : [l ++ ['\n']].filterMap f = [l].filterMap f := by
          simp [List.filterMap_cons, hfeed]
        have hrest : (['\n'] :: rest).filterMap f = rest.filterMap f :=
          List.filterMap_cons_none hnone
        rw [hrest, ← hfirst, ← List.filterMap_append, List.singleton_append]
      · rw [← List.filterMap_append, List.singleton_append]

/-- **What is read off lines one by one is read off the text that they make.** Let lines that
    stand one behind another be put together, and let the text be cut into lines again. Whatever a
    test finds on a line, no matter whether a line feed comes behind it, and not on a lone line
    feed, it finds on the same lines in the same order. -/
theorem filterMap_splitLines_flatten (h : LineByLine ls) :
    (splitLines isLineEnd ls.flatten).filterMap f = ls.filterMap f := by
  induction ls with
  | nil => rfl
  | cons l ls ih =>
      obtain ⟨hline, hended, hrest⟩ := lineByLine_cons.mp h
      rw [List.flatten_cons]
      by_cases hls : ls = []
      · subst hls
        rw [List.flatten_nil, List.append_nil, hline]
      · rw [splitLines_append_of_isLine hline (hended hls),
          filterMap_joinLine hfeed hnone (isLine_of_mem_splitLines _), ih hrest,
          ← List.filterMap_append, List.singleton_append]

end Reading

end Text

end MarkdownTemplate
