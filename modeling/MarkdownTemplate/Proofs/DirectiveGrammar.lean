import MarkdownTemplate.Proofs.Recutting

/-!
# The grammar of directives

A directive is read off a line by looking for its parts one after another. This file says what a
directive is without looking for anything. It fixes

* `Directive.IsName`, `Directive.Spells` -- **the grammar**: a text is made of a colon or none, a
  name and a target;
* `Directive.Means` -- the treatment and the language that a name stands for;
* `splitBody_eq_some_iff`, `split?_eq_some_iff` -- the parts are found exactly if the text is made
  of them;
* `Spells.unique` -- a text is made of its parts in one way only;
* **`parse?_iff_spells`** -- a line is a directive exactly if its text spells one, and then it is
  that one.
-/

namespace MarkdownTemplate.Directive

variable {s name target line : Text} {colon : Bool} {d : Directive}

/-! ## 1. The grammar -/

/-- A name: word characters and four others, at least one of them. -/
structure IsName (name : Text) : Prop where
  ne_nil : name ≠ []
  chars : ∀ c ∈ name, Text.isWord c = true ∨ c ∈ ['.', '+', '#', '-']

/-- What stands in front of a name. -/
def colonMark (colon : Bool) : Text :=
  if colon then [':'] else []

/-- **The grammar of directives**: an at sign and an opening bracket, a colon or none, a name, a
    closing bracket, and a target between parentheses that stays on one line. Only the table of
    contents may do without a target. -/
structure Spells (s : Text) (colon : Bool) (name target : Text) : Prop where
  shape : s = "@[".toList ++ colonMark colon ++ name ++ "](".toList ++ target ++ ")".toList
  isName : IsName name
  oneLine : '\n' ∉ target
  filled : target ≠ [] ∨ name = "page_toc".toList

/-- The names that stand for no language. -/
def keywordNames : List Text :=
  ["markdown", "code_block", "comment", "pre", "page_toc"].map String.toList

/-- **What a name stands for.** Five names are keywords; any other is that of a language. -/
inductive Means : Text → Treatment → Option Text → Prop where
  | markdown : Means "markdown".toList .markdown none
  | codeBlock : Means "code_block".toList .codeBlock none
  | comment : Means "comment".toList .comment none
  | pre : Means "pre".toList .pre none
  | pageToc : Means "page_toc".toList .pageToc none
  | language {name : Text} (h : name ∉ keywordNames) : Means name .language (some name)

/-! ## 2. Names -/

theorem isNameChar_iff {c : Char} :
    isNameChar c = true ↔ Text.isWord c = true ∨ c ∈ ['.', '+', '#', '-'] := by
  simp [isNameChar, or_assoc]

theorem IsName.isNameChar (h : IsName name) : ∀ c ∈ name, isNameChar c = true :=
  fun c hc => isNameChar_iff.mpr (h.chars c hc)

/-- A name does not begin with a colon. -/
theorem IsName.head?_ne_colon (h : IsName name) : name.head? ≠ some ':' := by
  intro hhead
  have hcolon := h.isNameChar ':' (List.mem_of_mem_head? hhead)
  exact absurd hcolon (by decide)

theorem map_word_keywords : Treatment.keywords.map Treatment.word = keywordNames := rfl

theorem ofName_of_not_mem (h : name ∉ keywordNames) : Treatment.ofName name = .language := by
  have hfind : Treatment.keywords.find? (fun t => t.word == name) = none := by
    rw [List.find?_eq_none]
    intro t ht hword
    obtain rfl : t.word = name := by simpa using hword
    exact h (map_word_keywords ▸ List.mem_map_of_mem ht)
  rw [Treatment.ofName, hfind]
  rfl

/-- **What a name stands for** is the treatment that it selects, and the name itself if that is a
    language. -/
theorem means_iff {t : Treatment} {language : Option Text} :
    Means name t language ↔ t = Treatment.ofName name ∧
      language = if Treatment.ofName name = .language then some name else none := by
  constructor
  · intro h
    cases h with
    | markdown => decide
    | codeBlock => decide
    | comment => decide
    | pre => decide
    | pageToc => decide
    | language h => simp [ofName_of_not_mem h]
  · rintro ⟨rfl, rfl⟩
    by_cases hmem : name ∈ keywordNames
    · obtain ⟨t, ht, rfl⟩ := List.mem_map.mp (map_word_keywords ▸ hmem)
      cases t with
      | markdown => exact .markdown
      | codeBlock => exact .codeBlock
      | comment => exact .comment
      | pre => exact .pre
      | pageToc => exact .pageToc
      | language => exact absurd ht (by decide)
    · rw [ofName_of_not_mem hmem, if_pos rfl]
      exact .language hmem

/-! ## 3. Parts -/

/-- A name in front of a bracket is found as far as it goes. -/
theorem IsName.takeWhile_append (h : IsName name) (rest : Text) :
    (name ++ ']' :: rest).takeWhile Directive.isNameChar = name ∧
      (name ++ ']' :: rest).dropWhile Directive.isNameChar = ']' :: rest := by
  have hbracket : ¬ Directive.isNameChar ']' = true := by decide
  rw [List.takeWhile_append_of_pos h.isNameChar, List.dropWhile_append_of_pos h.isNameChar,
    List.takeWhile_cons_of_neg hbracket, List.dropWhile_cons_of_neg hbracket, List.append_nil]
  exact ⟨rfl, rfl⟩

/-- **The name and the target are found** exactly if the text is made of them. -/
theorem splitBody_eq_some_iff :
    splitBody s = some (name, target) ↔
      s = name ++ ']' :: '(' :: (target ++ [')']) ∧ IsName name ∧ '\n' ∉ target := by
  constructor
  · intro h
    have hsplit := List.takeWhile_append_dropWhile (p := Directive.isNameChar) (l := s)
    simp only [splitBody] at h
    split at h
    · rename_i rest hrest
      split at h
      · rename_i hcond
        obtain ⟨hne, hlast, hline⟩ := hcond
        cases h
        refine ⟨?_, ⟨hne, fun c hc => isNameChar_iff.mp ?_⟩, fun hmem => ?_⟩
        · rw [List.dropLast_append_getLast? _ hlast, ← hrest, hsplit]
        · exact List.all_eq_true.mp List.all_takeWhile c hc
        · exact hline (List.dropLast_subset rest hmem)
      · cases h
    · cases h
  · rintro ⟨rfl, hname, hline⟩
    obtain ⟨htake, hdrop⟩ := hname.takeWhile_append ('(' :: (target ++ [')']))
    simp [splitBody, htake, hdrop, hname.ne_nil, hline]

/-- **The parts of a directive are found** exactly if the text is made of them. -/
theorem split?_eq_some_iff :
    split? s = some (name, target) ↔ ∃ colon,
      s = "@[".toList ++ colonMark colon ++ name ++ "](".toList ++ target ++ ")".toList ∧
        IsName name ∧ '\n' ∉ target := by
  constructor
  · intro h
    unfold split? at h
    split at h
    · obtain ⟨rfl, hname, hline⟩ := splitBody_eq_some_iff.mp h
      exact ⟨true, by simp [colonMark], hname, hline⟩
    · obtain ⟨rfl, hname, hline⟩ := splitBody_eq_some_iff.mp h
      exact ⟨false, by simp [colonMark], hname, hline⟩
    · cases h
  · rintro ⟨colon, rfl, hname, hline⟩
    have hbody : splitBody (name ++ ']' :: '(' :: (target ++ [')'])) = some (name, target) :=
      splitBody_eq_some_iff.mpr ⟨rfl, hname, hline⟩
    cases colon with
    | true => simpa [colonMark, split?] using hbody
    | false =>
        -- without a colon the name is not mistaken for one
        obtain ⟨c, rest, rfl⟩ := List.exists_cons_of_ne_nil hname.ne_nil
        have hc : c ≠ ':' := fun hc => hname.head?_ne_colon (by simp [hc])
        simpa [colonMark, split?, hc] using hbody

/-- **A text spells one directive at most**: its parts are determined. -/
theorem Spells.unique {colon' : Bool} {name' target' : Text} (h : Spells s colon name target)
    (h' : Spells s colon' name' target') :
    colon = colon' ∧ name = name' ∧ target = target' := by
  have hsplit := split?_eq_some_iff.mpr ⟨colon, h.shape, h.isName, h.oneLine⟩
  rw [split?_eq_some_iff.mpr ⟨colon', h'.shape, h'.isName, h'.oneLine⟩] at hsplit
  obtain ⟨rfl, rfl⟩ : name' = name ∧ target' = target := by simpa using hsplit
  have hshape := h.shape
  rw [h'.shape] at hshape
  have hmark : colonMark colon' = colonMark colon := by simpa using hshape
  cases colon <;> cases colon' <;> simp_all [colonMark]

/-! ## 4. Lines -/

/-- Only one name stands for the table of contents. -/
theorem ofName_eq_pageToc_iff : Treatment.ofName name = .pageToc ↔ name = "page_toc".toList := by
  constructor
  · intro h
    have hmeans : Means name .pageToc none := means_iff.mpr ⟨h.symm, by simp [h]⟩
    cases hmeans
    rfl
  · rintro rfl
    decide

/-- **A line is the directive that its text spells.** -/
theorem parse?_eq_some_iff :
    parse? line = some d ↔ ∃ colon name, Spells (Text.trimRight line) colon name d.target ∧
      Means name d.treatment d.language ∧ d.text = Text.trimRight line := by
  constructor
  · intro h
    simp only [parse?] at h
    split at h
    · cases h
    · rename_i name target hsplit
      obtain ⟨colon, hshape, hname, hline⟩ := split?_eq_some_iff.mp hsplit
      split at h
      · cases h
      · rename_i hfilled
        cases h
        refine ⟨colon, name, ⟨hshape, hname, hline, ?_⟩, means_iff.mpr ⟨rfl, rfl⟩, rfl⟩
        rwa [Classical.not_and_iff_not_or_not, not_not, ofName_eq_pageToc_iff] at hfilled
  · rintro ⟨colon, name, hspells, hmeans, htext⟩
    obtain ⟨treatment, target, text, language⟩ := d
    obtain ⟨rfl, rfl⟩ := means_iff.mp hmeans
    obtain rfl : text = Text.trimRight line := htext
    have hsplit := split?_eq_some_iff.mpr ⟨colon, hspells.shape, hspells.isName, hspells.oneLine⟩
    have hfilled : ¬ (target = [] ∧ Treatment.ofName name ≠ .pageToc) := by
      rw [Classical.not_and_iff_not_or_not, not_not, ofName_eq_pageToc_iff]
      exact hspells.filled
    simp only [parse?, hsplit, if_neg hfilled]

/-- The text of a directive spells the directive. -/
theorem parse?_text (h : parse? line = some d) : parse? d.text = some d := by
  obtain ⟨colon, name, hspells, hmeans, htext⟩ := parse?_eq_some_iff.mp h
  have htrim : Text.trimRight d.text = Text.trimRight line := by
    rw [htext]
    exact dropTrailing_dropTrailing (fun _ h => h) line
  exact parse?_eq_some_iff.mpr ⟨colon, name, htrim ▸ hspells, hmeans, htext.trans htrim.symm⟩

/-- **A line is a directive exactly if its text spells one.** Let the blanks at the end of the line
    be dropped. What is left spells a directive or the line is none, and it spells one directive at
    most: colon, name and target are determined, and the target goes as far as the last
    parenthesis. The directive has this target, what is left of the line for its text, and what
    the name stands for. Another line that spells the same name and target, with a colon or
    without, is the same directive but for its text; and the text of a directive is that
    directive. -/
theorem parse?_iff_spells (line : Text) :
    ((parse? line).isSome = true ↔
      ∃ colon name target, Spells (Text.trimRight line) colon name target) ∧
    (∀ d, parse? line = some d ↔ ∃ colon name, Spells (Text.trimRight line) colon name d.target ∧
      Means name d.treatment d.language ∧ d.text = Text.trimRight line) ∧
    (∀ colon name target colon' name' target', Spells (Text.trimRight line) colon name target →
      Spells (Text.trimRight line) colon' name' target' →
      colon = colon' ∧ name = name' ∧ target = target') ∧
    (∀ colon name target line' colon', Spells (Text.trimRight line) colon name target →
      Spells (Text.trimRight line') colon' name target →
      parse? line' = (parse? line).map fun d => { d with text := Text.trimRight line' }) ∧
    ∀ d, parse? line = some d → parse? d.text = some d := by
  have hspelled : ∀ {line : Text} {colon : Bool} {name target : Text},
      Spells (Text.trimRight line) colon name target →
      parse? line = some ⟨Treatment.ofName name, target, Text.trimRight line,
        if Treatment.ofName name = .language then some name else none⟩ :=
    fun h => parse?_eq_some_iff.mpr ⟨_, _, h, means_iff.mpr ⟨rfl, rfl⟩, rfl⟩
  refine ⟨⟨fun h => ?_, fun ⟨_, _, _, h⟩ => ?_⟩, fun d => parse?_eq_some_iff,
    fun _ _ _ _ _ _ => Spells.unique, fun _ _ _ _ _ h h' => ?_, fun _ => parse?_text⟩
  · obtain ⟨d, hd⟩ := Option.isSome_iff_exists.mp h
    obtain ⟨colon, name, hspells, -⟩ := parse?_eq_some_iff.mp hd
    exact ⟨colon, name, d.target, hspells⟩
  · rw [hspelled h]
    rfl
  · rw [hspelled h, hspelled h']
    rfl

example : parse? "@[:c++](a (b) c)  \n".toList =
    some ⟨.language, "a (b) c".toList, "@[:c++](a (b) c)".toList, some "c++".toList⟩ := by
  decide +kernel

end MarkdownTemplate.Directive
