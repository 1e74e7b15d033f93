/-!
# The end of a list

The elements at the end of a list that satisfy a test, and the list without them:

* `dropTrailing`, `takeTrailing` -- what stands before the last run of such elements, and the run;
* `dropTrailing_append_takeTrailing` -- both together are the list.
-/

namespace MarkdownTemplate

variable {α : Type}

/-- The list without the longest run of `p` elements at its end. -/
def dropTrailing (p : α → Bool) (l : List α) : List α :=
  (l.reverse.dropWhile p).reverse

/-- The longest run of `p` elements at the end of the list. -/
def takeTrailing (p : α → Bool) (l : List α) : List α :=
  (l.reverse.takeWhile p).reverse

theorem dropTrailing_append_takeTrailing (p : α → Bool) (l : List α) :
    dropTrailing p l ++ takeTrailing p l = l := by
  rw [dropTrailing, takeTrailing, ← List.reverse_append, List.takeWhile_append_dropWhile,
    List.reverse_reverse]

/-- Nothing at the end is left: the last element that stays fails the test. -/
theorem getLast?_dropTrailing {p : α → Bool} {l : List α} {a : α}
    (h : (dropTrailing p l).getLast? = some a) : p a = false := by
  rw [dropTrailing, List.getLast?_reverse] at h
  have := List.head?_dropWhile_not p l.reverse
  rw [h] at this
  simpa using this

/-- Every element of the run satisfies the test. -/
theorem mem_takeTrailing {p : α → Bool} {l : List α} {a : α} (h : a ∈ takeTrailing p l) :
    p a = true := by
  rw [takeTrailing, List.mem_reverse] at h
  exact List.all_eq_true.mp List.all_takeWhile a h

end MarkdownTemplate
