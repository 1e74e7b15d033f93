import MarkdownTemplate.Trailing

/-!
# The ends of lists

What is dropped at the end of a list, and where a list is cut. This file fixes

* `dropTrailing_append_of_forall`, `dropTrailing_of_getLast?` -- a run at the end is dropped, and
  nothing more; `trailing_append` -- so a list that ends in a run falls into what stands before it
  and the run;
* `dropTrailing_sublist`, `dropTrailing_prefix_self` -- nothing else changes;
* `takeWhile_dropWhile_iff` -- **where a list is cut behind a run**;
* `dropWhile_append_cons`, `takeWhile_append_cons` -- an element that fails the test is the last
  thing that is looked at.
-/

namespace MarkdownTemplate

variable {α : Type} {p q : α → Bool} {a b l s : List α} {x : α}

/-! ## 1. Runs at the end -/

/-- A last element that passes the test is dropped first. -/
theorem dropTrailing_concat (l : List α) (h : p x = true) :
    dropTrailing p (l ++ [x]) = dropTrailing p l := by
  simp [dropTrailing, h]

/-- A run at the end is dropped. -/
theorem dropTrailing_append_of_forall (h : ∀ x ∈ b, p x = true) (a : List α) :
    dropTrailing p (a ++ b) = dropTrailing p a := by
  rw [dropTrailing, List.reverse_append, List.dropWhile_append_of_pos]
  · rfl
  · exact fun x hx => h x (List.mem_reverse.mp hx)

/-- Nothing is dropped behind an element that fails the test. -/
theorem dropTrailing_of_getLast? (h : ∀ x ∈ l.getLast?, p x = false) : dropTrailing p l = l := by
  rw [dropTrailing]
  cases hrev : l.reverse with
  | nil => simpa using hrev.symm
  | cons x rest =>
      have hx : p x = false := h x (by rw [← List.head?_reverse, hrev]; rfl)
      rw [List.dropWhile_cons_of_neg (by simp [hx]), ← hrev, List.reverse_reverse]

/-- **What stands before the run at the end, and the run.** -/
theorem trailing_append (ha : ∀ x ∈ a.getLast?, p x = false) (hb : ∀ x ∈ b, p x = true) :
    dropTrailing p (a ++ b) = a ∧ takeTrailing p (a ++ b) = b := by
  have hdrop : dropTrailing p (a ++ b) = a := by
    rw [dropTrailing_append_of_forall hb, dropTrailing_of_getLast? ha]
  have hsplit := dropTrailing_append_takeTrailing p (a ++ b)
  rw [hdrop] at hsplit
  exact ⟨hdrop, List.append_cancel_left hsplit⟩

/-- What is dropped once is not dropped again. -/
theorem dropTrailing_dropTrailing (h : ∀ a, p a = true → q a = true) (l : List α) :
    dropTrailing q (dropTrailing p l) = dropTrailing q l := by
  have hdrop : ∀ l : List α, (l.dropWhile p).dropWhile q = l.dropWhile q := by
    intro l
    induction l with
    | nil => rfl
    | cons a l ih =>
        cases hp : p a with
        | true => simp [hp, h a hp, ih]
        | false => rw [List.dropWhile_cons_of_neg (by simp [hp])]
  simp [dropTrailing, hdrop]

/-! ## 2. What is left -/

theorem dropTrailing_prefix_self (p : α → Bool) (l : List α) : dropTrailing p l <+: l :=
  ⟨takeTrailing p l, dropTrailing_append_takeTrailing p l⟩

/-- What is left after dropping stood in the list before. -/
theorem dropTrailing_sublist (p : α → Bool) (l : List α) : (dropTrailing p l).Sublist l :=
  (dropTrailing_prefix_self p l).sublist

/-- What stands in front after dropping stood there before. -/
theorem head?_of_dropTrailing (h : (dropTrailing p l).head? = some x) : l.head? = some x := by
  have hsplit := dropTrailing_append_takeTrailing p l
  rw [← hsplit, List.head?_append, h]
  rfl

/-- A first element that fails the test stays in front. -/
theorem head?_dropTrailing (h : p x = false) (l : List α) :
    (dropTrailing p (x :: l)).head? = some x := by
  have hsplit := dropTrailing_append_takeTrailing p (x :: l)
  cases hfront : dropTrailing p (x :: l) with
  | nil =>
      rw [hfront, List.nil_append] at hsplit
      have hmem : x ∈ takeTrailing p (x :: l) := by
        rw [hsplit]
        exact List.mem_cons_self
      rw [mem_takeTrailing hmem] at h
      cases h
  | cons y rest =>
      rw [hfront, List.cons_append, List.cons.injEq] at hsplit
      rw [List.head?_cons, hsplit.1]

/-! ## 3. Cutting a list -/

/-- **Where a list is cut behind a run**: as far as the test holds, and no further. -/
theorem takeWhile_dropWhile_iff :
    s.takeWhile p = a ∧ s.dropWhile p = b ↔
      s = a ++ b ∧ (∀ x ∈ a, p x = true) ∧ ∀ x ∈ b.head?, p x = false := by
  constructor
  · rintro ⟨rfl, rfl⟩
    refine ⟨List.takeWhile_append_dropWhile.symm, fun x hx => ?_, fun x hx => ?_⟩
    · exact List.all_eq_true.mp List.all_takeWhile x hx
    · have hnot := List.head?_dropWhile_not p s
      rw [hx] at hnot
      simpa using hnot
  · rintro ⟨rfl, ha, hb⟩
    have hstop : b.takeWhile p = [] ∧ b.dropWhile p = b := by
      cases b with
      | nil => exact ⟨rfl, rfl⟩
      | cons x rest => simp [hb x rfl]
    rw [List.takeWhile_append_of_pos ha, List.dropWhile_append_of_pos ha, hstop.1, hstop.2,
      List.append_nil]
    exact ⟨rfl, rfl⟩

theorem dropWhile_append_cons (h : p x = false) (a b : List α) :
    (a ++ x :: b).dropWhile p = a.dropWhile p ++ x :: b := by
  rw [List.dropWhile_append]
  split
  · simp_all
  · rfl

theorem takeWhile_append_cons (h : p x = false) (a b : List α) :
    (a ++ x :: b).takeWhile p = a.takeWhile p := by
  induction a with
  | nil => simp [h]
  | cons y a ih => simp only [List.cons_append, List.takeWhile_cons, ih]

end MarkdownTemplate
