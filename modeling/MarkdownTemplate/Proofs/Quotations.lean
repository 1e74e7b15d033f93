import MarkdownTemplate.Proofs.Agreement
import MarkdownTemplate.Proofs.Backtrace
import MarkdownTemplate.Proofs.Citations
import MarkdownTemplate.Proofs.Copying
import MarkdownTemplate.Proofs.DirectiveGrammar

/-!
# Quotations on the page

The content of a file that is quoted stands between two lines of its own. They are not blank, so
nothing that is done about blank lines around them reaches the lines in between. This file fixes

* `Trimmed` -- lines from which blank ones may be missing;
* `Fenced` -- lines of which the first and the last are not blank; `Fenced.tidied_eq` -- tidying an
  inclusion that holds such lines trims what stands in front of them and behind them;
* `Document.Holds` -- **the invariant** of a document and a block of fenced lines in it: they stand
  together, and no inclusion that is open begins among them;
* `Directive.Marks`, `Setting.Quotes` -- what the lines of a quotation are;
* `Setting.QuotedAt` -- a file is opened for a directive, and then nothing happens but that the
  lines of its quotation are written; `Expands.eachQuoted` -- that is so wherever one is opened;
* `Setting.StandsBelow`, `Setting.TakenUp`, `Expands.takesUp` -- every directive of a template and
  of those that it cites is taken up;
* **`quotations_stand_whole`** -- every file that is quoted stands on the page, as it is.
-/

namespace MarkdownTemplate

/-! ## 1. Blank lines around a block -/

/-- **Lines from which blank ones may be missing**, and no others. -/
structure Trimmed (full kept : List Line) : Prop where
  sublist : kept.Sublist full
  solid : kept.filter Line.isSolid = full.filter Line.isSolid

namespace Trimmed

variable {a a' b b' c : List Line}

theorem refl (a : List Line) : Trimmed a a :=
  ⟨List.Sublist.refl a, rfl⟩

theorem trans (h : Trimmed a b) (h' : Trimmed b c) : Trimmed a c :=
  ⟨h'.sublist.trans h.sublist, h'.solid.trans h.solid⟩

theorem append (h : Trimmed a a') (h' : Trimmed b b') : Trimmed (a ++ b) (a' ++ b') :=
  ⟨h.sublist.append h'.sublist, by rw [List.filter_append, List.filter_append, h.solid, h'.solid]⟩

/-- What is missing behind the first lines is missing. -/
theorem of_drop {n : Nat} (h : Trimmed (a.drop n) b) : Trimmed a (a.take n ++ b) := by
  have happend := (refl (a.take n)).append h
  rwa [List.take_append_drop] at happend

end Trimmed

theorem trimmed_dropLeadingBlanks (ls : List Line) : Trimmed ls (dropLeadingBlanks ls) :=
  ⟨List.dropWhile_sublist _, filter_dropLeadingBlanks Line.isSolid_of_isBlank ls⟩

theorem trimmed_cutTrailingBlanks (ls : List Line) : Trimmed ls (cutTrailingBlanks ls) :=
  ⟨cutTrailingBlanks_sublist ls, filter_cutTrailingBlanks Line.isSolid_of_isBlank ls⟩

theorem trimmed_tidied (before segment : List Line) : Trimmed segment (tidied before segment) :=
  ⟨tidied_sublist before segment, filter_tidied Line.isSolid_of_isBlank before segment⟩

section Block

variable {l : Line}

theorem dropLeadingBlanks_append_cons (h : l.isBlank = false) (a b : List Line) :
    dropLeadingBlanks (a ++ l :: b) = dropLeadingBlanks a ++ l :: b :=
  dropWhile_append_cons h a b

theorem cutTrailingBlanks_append_cons (h : l.isBlank = false) (a b : List Line) :
    cutTrailingBlanks (a ++ l :: b) = a ++ l :: cutTrailingBlanks b := by
  have hreverse : (a ++ l :: b).reverse = b.reverse ++ l :: a.reverse := by simp
  have hdrop : dropTrailing Line.isBlank (a ++ l :: b) = a ++ l :: dropTrailing Line.isBlank b := by
    rw [dropTrailing, hreverse, dropWhile_append_cons h]
    simp [dropTrailing]
  have htake : takeTrailing Line.isBlank (a ++ l :: b) = takeTrailing Line.isBlank b := by
    rw [takeTrailing, hreverse, takeWhile_append_cons h]
    rfl
  rw [cutTrailingBlanks, hdrop, htake, List.append_assoc, List.cons_append]
  rfl

end Block

/-- Lines of which the first and the last are not blank. -/
def Fenced (block : List Line) : Prop :=
  ∃ first body last, block = first :: body ++ [last] ∧ first.isBlank = false ∧ last.isBlank = false

/-- **Tidying an inclusion that holds fenced lines** leaves them together, and drops blank lines in
    front of them and behind them at most. -/
theorem Fenced.tidied_eq {block : List Line} (h : Fenced block) (before front back : List Line) :
    ∃ front' back', tidied before (front ++ block ++ back) = front' ++ block ++ back' ∧
      Trimmed front front' ∧ Trimmed back back' := by
  obtain ⟨first, body, last, rfl, hfirst, hlast⟩ := h
  have hlead : dropLeadingBlanks (front ++ (first :: body ++ [last]) ++ back) =
      dropLeadingBlanks front ++ (first :: body ++ [last]) ++ back := by
    simpa using dropLeadingBlanks_append_cons hfirst front (body ++ [last] ++ back)
  have htrail : ∀ front : List Line,
      cutTrailingBlanks (front ++ (first :: body ++ [last]) ++ back) =
        front ++ (first :: body ++ [last]) ++ cutTrailingBlanks back := fun front => by
    simpa using cutTrailingBlanks_append_cons hlast (front ++ first :: body) back
  unfold tidied
  split
  · exact ⟨_, _, by rw [hlead, htrail], trimmed_dropLeadingBlanks front,
      trimmed_cutTrailingBlanks back⟩
  · exact ⟨_, _, htrail front, .refl front, trimmed_cutTrailingBlanks back⟩

/-! ## 2. A block in a document -/

namespace Document

/-- **The invariant of a block of lines**: they stand together in the document, between what is left
    of the lines `before` and of the lines `after`, and no inclusion that is open begins among
    them. -/
structure Holds (before block after : List Line) (st : Document × List Nat) : Prop where
  together : ∃ front back, st.1.lines = front ++ block ++ back ∧ Trimmed before front ∧
    Trimmed after back ∧ ∀ start ∈ st.2, start ≤ front.length ∨ (front ++ block).length ≤ start
  opened : Opened st

section Record

variable {before block after : List Line} {st : Document × List Nat} {d : Document}
  {starts : List Nat}

theorem Holds.line (h : Holds before block after (d, starts)) (l : Line) :
    Holds before block (after ++ [l]) (record (d, starts) (.line l)) where
  together := by
    obtain ⟨front, back, hlines, hfront, hback, hstarts⟩ := h.together
    have hlines : d.lines = front ++ block ++ back := hlines
    show ∃ front back, (d.write l).lines = front ++ block ++ back ∧ _
    rcases d.write_lines l with hwrite | ⟨hblank, hwrite⟩
    · exact ⟨front, back ++ [l], by rw [hwrite, hlines, List.append_assoc], hfront,
        hback.append (.refl [l]), hstarts⟩
    · -- a blank line that is not written is missing behind the block
      have hnothing : Trimmed [l] [] :=
        ⟨List.nil_sublist _, by simp [Line.isSolid_of_isBlank l hblank]⟩
      have hmissing := hback.append hnothing
      rw [List.append_nil] at hmissing
      exact ⟨front, back, by rw [hwrite, hlines], hfront, hmissing, hstarts⟩
  opened := h.opened.record (.line l)

/-- An inclusion that begins now begins behind the block. -/
theorem Holds.enter (h : Holds before block after (d, starts)) (p : Path) (t : Treatment) :
    Holds before block after (record (d, starts) (.enter p t)) where
  together := by
    obtain ⟨front, back, hlines, hfront, hback, hstarts⟩ := h.together
    have hlines : d.lines = front ++ block ++ back := hlines
    refine ⟨front, back, hlines, hfront, hback, List.forall_mem_cons.mpr ⟨Or.inr ?_, hstarts⟩⟩
    show (front ++ block).length ≤ d.lines.length
    rw [hlines]
    exact (List.prefix_append (front ++ block) back).length_le
  opened := h.opened.record (.enter p t)

/-- **The end of an inclusion** that began in front of the block or behind it. -/
theorem Holds.leave (hblock : Fenced block) {start : Nat}
    (h : Holds before block after (d, start :: starts)) (p : Path) :
    Holds before block after (record (d, start :: starts) (.leave p)) where
  together := by
    obtain ⟨front, back, hlines, hfront, hback, hstarts⟩ := h.together
    have hlines : d.lines = front ++ block ++ back := hlines
    obtain ⟨hstart, hrest⟩ := List.forall_mem_cons.mp hstarts
    obtain ⟨houter, -⟩ := List.pairwise_cons.mp h.opened.nested
    show ∃ front back, ((d.endInclusion? start).getD d).lines = front ++ block ++ back ∧ _
    rcases d.endInclusion?_lines start with hend | hend
    · exact ⟨front, back, hend.trans hlines, hfront, hback, hrest⟩
    · rw [hend, hlines]
      rcases hstart with hstart | hstart
      · -- the inclusion holds the block
        obtain ⟨front', back', htidied, hfront', hback'⟩ :=
          hblock.tidied_eq (front.take start) (front.drop start) back
        refine ⟨front.take start ++ front', back', ?_, hfront.trans hfront'.of_drop,
          hback.trans hback', fun outer hmem => Or.inl ?_⟩
        · have htake : (front ++ block ++ back).take start = front.take start := by
            rw [List.append_assoc, List.take_append_of_le_length hstart]
          have hdrop : (front ++ block ++ back).drop start = front.drop start ++ block ++ back := by
            rw [List.append_assoc, List.drop_append_of_le_length hstart, List.append_assoc]
          rw [htake, hdrop, htidied]
          simp only [List.append_assoc]
        · rw [List.length_append, List.length_take_of_le hstart]
          exact Nat.le_trans (houter outer hmem) (Nat.le_add_right ..)
      · -- the inclusion stands behind the block
        obtain ⟨k, rfl⟩ := Nat.exists_eq_add_of_le hstart
        rw [List.take_length_add_append, List.drop_length_add_append]
        have htidied := trimmed_tidied (front ++ block ++ back.take k) (back.drop k)
        exact ⟨front, _, List.append_assoc .., hfront, hback.trans htidied.of_drop, hrest⟩
  opened := h.opened.record (.leave p)

/-- **What one event does to a block.** -/
theorem Holds.record (hblock : Fenced block) (h : Holds before block after st) (e : Event) :
    Holds before block (after ++ written [e]) (record st e) := by
  obtain ⟨d, starts⟩ := st
  cases e with
  | cite f => exact (List.append_nil after).symm ▸ h
  | enter p t => exact (List.append_nil after).symm ▸ h.enter p t
  | line l => exact h.line l
  | leave p =>
      rw [written_cons_leave, written_nil, List.append_nil]
      cases starts with
      | nil => exact h
      | cons start starts => exact h.leave hblock p

theorem Holds.foldl_record (hblock : Fenced block) {es : List Event} :
    ∀ {after : List Line} {st : Document × List Nat}, Holds before block after st →
      Holds before block (after ++ written es) (es.foldl Document.record st) := by
  induction es with
  | nil => exact fun h => (List.append_nil _).symm ▸ h
  | cons e es ih =>
      intro after st h
      have hrest := ih (h.record hblock e)
      rwa [List.append_assoc, ← written_append, List.singleton_append] at hrest

/-- A block is written as it is, even right after an inclusion. -/
theorem foldl_record_fenced (hblock : Fenced block) (d : Document) (starts : List Nat) :
    (block.map Event.line).foldl Document.record (d, starts) =
      ({ d with lines := d.lines ++ block, afterInclusion := false }, starts) := by
  obtain ⟨first, body, last, rfl, hfirst, -⟩ := hblock
  have hwrite : d.write first = { d with lines := d.lines ++ [first], afterInclusion := false } :=
    write_of_solid (by simp [Line.isSolid, hfirst])
  rw [List.cons_append, List.map_cons, List.foldl_cons]
  show List.foldl Document.record (d.write first, starts) _ = _
  rw [hwrite, foldl_record_line _ _ starts rfl, List.append_assoc, List.singleton_append]

/-- **A block that is written in an inclusion of its own** stands behind all that was written
    before. -/
theorem holds_written (hblock : Fenced block) (d : Document) (es : List Event) (p : Path)
    (t : Treatment) :
    Holds (d.lines ++ written es) block []
      ((es ++ .enter p t :: block.map Event.line).foldl Document.record (d, [])) := by
  have hopened : Opened (es.foldl Document.record (d, [])) := (opened_start d).foldl_record
  have hbefore : Trimmed (d.lines ++ written es) (es.foldl Document.record (d, [])).1.lines := by
    refine ⟨d.replay_sublist es, ?_⟩
    rw [List.filter_append]
    exact d.replay_filter Line.isSolid_of_isBlank es
  rw [List.foldl_append, List.foldl_cons]
  generalize es.foldl Document.record (d, []) = st at hopened hbefore
  obtain ⟨d', starts⟩ := st
  show Holds _ block [] ((block.map Event.line).foldl Document.record
    (d', d'.lines.length :: starts))
  rw [foldl_record_fenced hblock]
  refine ⟨⟨d'.lines, [], (List.append_nil _).symm, hbefore, .refl [], ?_⟩, ?_, ?_⟩
  · exact List.forall_mem_cons.mpr
      ⟨Or.inl (Nat.le_refl _), fun start hstart => Or.inl (hopened.le_length start hstart)⟩
  · refine List.forall_mem_cons.mpr ⟨?_, fun start hstart => ?_⟩
    · exact (List.prefix_append d'.lines block).length_le
    · exact Nat.le_trans (hopened.le_length start hstart)
        (List.prefix_append d'.lines block).length_le
  · exact List.pairwise_cons.mpr ⟨hopened.le_length, hopened.nested⟩

/-- **A block that has been written in an inclusion of its own stays together**, whatever is done
    afterwards. -/
theorem replay_fenced (hblock : Fenced block) (d : Document) (es rest : List Event)
    (p : Path) (t : Treatment) :
    ∃ front back, (d.replay (es ++ .enter p t :: block.map Event.line ++ rest)).lines =
        front ++ block ++ back ∧
      Trimmed (d.lines ++ written es) front ∧ Trimmed (written rest) back := by
  have hholds : Holds (d.lines ++ written es) block ([] ++ written rest) (rest.foldl record _) :=
    (holds_written hblock d es p t).foldl_record hblock
  rw [List.nil_append, ← List.foldl_append] at hholds
  obtain ⟨front, back, hlines, hfront, hback, -⟩ := hholds.together
  exact ⟨front, back, hlines, hfront, hback⟩

end Record

end Document

/-! ## 3. Quotations -/

/-- **The lines that a treatment puts around quoted content.** -/
inductive Directive.Marks : Treatment → Option Text → Text → Text → Prop where
  | codeBlock : Marks .codeBlock none "```\n".toList "```\n".toList
  | language (name : Text) :
      Marks .language (some name) ("```".toList ++ name ++ "\n".toList) "```\n".toList
  | comment : Marks .comment none "<!--\n".toList "-->\n".toList
  | pre : Marks .pre none "<pre>\n".toList "</pre>\n".toList

namespace Directive

variable {d : Directive} {line opener closer content : Text} {t : Treatment}
  {language : Option Text}

theorem Marks.wrapper?_eq (h : Marks t language opener closer) :
    wrapper? language t = some (opener, closer) := by
  cases h <;> rfl

/-- The lines around a quotation are not blank. -/
theorem Marks.isBlank_eq_false (h : Marks t language opener closer) :
    Text.isBlank opener = false ∧ Text.isBlank closer = false := by
  cases h with
  | codeBlock => decide
  | language name =>
      have hfence : Text.isSpace '`' = false := by decide
      exact ⟨by simp [Text.isBlank, hfence], by decide⟩
  | comment => decide
  | pre => decide

/-- A directive that cites a file and is no template quotes it. -/
theorem exists_marks (hparse : parse? line = some d) (hcites : d.citesFile = true)
    (hrec : d.isRecursive = false) :
    ∃ opener closer, Marks d.treatment d.language opener closer := by
  obtain ⟨-, name, -, hmeans, -⟩ := parse?_eq_some_iff.mp hparse
  simp only [citesFile, isRecursive] at hcites hrec
  generalize d.treatment = t at hcites hrec hmeans
  generalize d.language = language at hmeans
  cases hmeans with
  | markdown => cases hrec
  | codeBlock => exact ⟨_, _, .codeBlock⟩
  | comment => exact ⟨_, _, .comment⟩
  | pre => exact ⟨_, _, .pre⟩
  | pageToc => cases hcites
  | language => exact ⟨_, _, .language name⟩

/-- The line end that quoted content is given: none if it is empty or ends a line. -/
def contentEnd (content : Text) : Text :=
  if content = [] ∨ content.getLast? = some '\n' ∨ content.getLast? = some '\r' then []
  else ['\n']

/-- **The lines of quoted content are the content**, and the line end that it is given. -/
theorem flatten_contentLines (content : Text) :
    (contentLines content).flatten = content ++ contentEnd content := by
  rw [contentLines, Text.flatten_splitLines, contentEnd]
  rcases List.eq_nil_or_concat content with rfl | ⟨front, c, rfl⟩
  · rfl
  · rw [List.concat_eq_append, Text.terminated, Text.isTerminated_concat]
    by_cases hend : c = '\n' ∨ c = '\r'
    · simp [Text.isLineEnd, hend]
    · simp [Text.isLineEnd, hend]

end Directive

namespace Setting

variable {s : Setting} {stack : Stack} {template p : Path} {depth : Int} {number : Nat}
  {line content : Text} {lines : List Text} {d : Directive} {r : Run} {source : Source}
  {x : Site} {block : List Line} {t : Treatment} {before after events : List Event}

/-- **What the lines of a quotation are**: the content of the file between the lines of the
    treatment, all of them at one level, and none a place for the table of contents. -/
structure Quotes (s : Setting) (x : Site) (depth : Int) (block : List Line) : Prop where
  /-- The directive stands in its template. -/
  stands : x.Stands s
  whole : ∃ content opener closer, s.textOf? x.includee = some content ∧
    Directive.Marks x.directive.treatment x.directive.language opener closer ∧
    (block.map Line.text).flatten =
      opener ++ content ++ Directive.contentEnd content ++ closer
  level : ∀ l ∈ block, l.depth = depth ∧ l.title = none

/-- **The lines that are written for a directive** are those of a quotation, and the first and the
    last of them are not blank. -/
theorem quotes_quotedLines (hreads : s.Reads template number (line :: lines))
    (hline : s.directive? (lineAt depth line) = some d) (hcites : d.citesFile = true)
    (hrec : d.isRecursive = false)
    (hopen : Source.ofPath s.tree s.encoding (d.includee template) = .ok source)
    (htext : source.text? = some content) :
    s.Quotes ⟨template, number, d⟩ depth (quotedLines d depth content) ∧
      Fenced (quotedLines d depth content) := by
  obtain ⟨opener, closer, hmarks⟩ :=
    Directive.exists_marks (parse?_of_directive? hline) hcites hrec
  have hlines : quotedLines d depth content =
      ⟨opener, depth, none⟩ :: ((Directive.contentLines content).map fun l => ⟨l, depth, none⟩) ++
        [⟨closer, depth, none⟩] := by
    simp [quotedLines, Directive.verbatim?, hmarks.wrapper?_eq]
  have hcontent := textOf?_eq_some_iff.mpr ⟨source, hopen, htext⟩
  have hwhole : ((quotedLines d depth content).map Line.text).flatten =
      opener ++ content ++ Directive.contentEnd content ++ closer := by
    rw [hlines]
    have hflat := Directive.flatten_contentLines content
    simp [Function.comp_def, hflat]
  refine ⟨⟨hreads.stands hline, ⟨content, opener, closer, hcontent, hmarks, hwhole⟩, ?_⟩, ?_⟩
  · intro l hl
    obtain ⟨text, -, rfl⟩ := List.mem_map.mp hl
    exact ⟨rfl, rfl⟩
  · obtain ⟨hopener, hcloser⟩ := hmarks.isBlank_eq_false
    exact ⟨_, _, _, hlines, by simp [Line.isBlank, hopener], by simp [Line.isBlank, hcloser]⟩

/-! ## 4. Quotations in a run -/

/-- **A file is opened for a quotation**: `before` has happened, and `after` happens afterwards. The
    last thing before is that a directive has been taken up that cites the file, and what comes
    next is that the lines of its quotation are written, as deep as the template of the directive
    lies on the stack, and that the file is left. -/
def QuotedAt (s : Setting) (stack : Stack) (before : List Event) (p : Path) (t : Treatment)
    (after : List Event) : Prop :=
  ∃ earlier x block rest, before = earlier ++ [.cite x.frame] ∧ x.includee = p ∧
    x.directive.treatment = t ∧ s.Quotes x ((stack.replay earlier).length - 1) block ∧
    Fenced block ∧ after = block.map Event.line ++ .leave p :: rest

/-- Whenever a file is opened that is no template, it is opened for a quotation. -/
def EachQuoted (s : Setting) (stack : Stack) (events : List Event) : Prop :=
  ∀ before p t after, events = before ++ .enter p t :: after → t ≠ .markdown →
    s.QuotedAt stack before p t after

/-- What happens later makes no difference. -/
theorem QuotedAt.append (h : s.QuotedAt stack before p t after) (later : List Event) :
    s.QuotedAt stack before p t (after ++ later) := by
  obtain ⟨earlier, x, block, rest, hbefore, hp, ht, hquotes, hfenced, rfl⟩ := h
  exact ⟨earlier, x, block, rest ++ later, hbefore, hp, ht, hquotes, hfenced, by simp⟩

/-- What has happened earlier is on the stack. -/
theorem QuotedAt.prepend {first : List Event}
    (h : s.QuotedAt (stack.replay first) before p t after) :
    s.QuotedAt stack (first ++ before) p t after := by
  obtain ⟨earlier, x, block, rest, rfl, hp, ht, hquotes, hfenced, hafter⟩ := h
  rw [← Stack.replay_append] at hquotes
  exact ⟨first ++ earlier, x, block, rest, (List.append_assoc ..).symm, hp, ht, hquotes, hfenced,
    hafter⟩

/-- Where no file but templates is opened there is nothing to show. -/
theorem eachQuoted_of_markdown (h : ∀ p t, Event.enter p t ∈ events → t = .markdown) :
    s.EachQuoted stack events := by
  intro before p t after hsplit ht
  refine absurd (h p t ?_) ht
  rw [hsplit]
  exact List.mem_append_right before List.mem_cons_self

/-- **One run after another.** -/
theorem EachQuoted.append {later : List Event} (h : s.EachQuoted stack events)
    (h' : s.EachQuoted (stack.replay events) later) : s.EachQuoted stack (events ++ later) := by
  intro before p t after hsplit ht
  rcases List.append_eq_append_iff.mp hsplit with ⟨between, rfl, hlater⟩ | ⟨between, hfirst, hrest⟩
  · exact (h' between p t after hlater ht).prepend
  · cases between with
    | nil =>
        have hlater : later = [] ++ .enter p t :: after := hrest.symm
        have hbefore : before = events ++ [] := by simpa using hfirst.symm
        rw [hbefore]
        exact (h' [] p t after hlater ht).prepend
    | cons e between =>
        rw [List.cons_append, List.cons.injEq] at hrest
        obtain ⟨rfl, rfl⟩ := hrest
        exact (h before p t between hfirst ht).append later

/-- **A quotation**: its file is opened once. -/
theorem eachQuoted_quotation (hdepth : (stack.length : Int) = depth + 1)
    (hquotes : s.Quotes x depth block) (hfenced : Fenced block) :
    s.EachQuoted stack (.cite x.frame :: .enter x.includee x.directive.treatment ::
      block.map Event.line ++ [.leave x.includee]) := by
  intro before p t after hsplit _
  match before, hsplit with
  | [], hsplit => cases hsplit
  | [_], hsplit =>
      simp only [List.cons_append, List.nil_append, List.cons.injEq, Event.enter.injEq] at hsplit
      obtain ⟨rfl, ⟨rfl, rfl⟩, rfl⟩ := hsplit
      have hlevel : ((stack.replay []).length : Int) - 1 = depth := by
        rw [Stack.replay_nil, hdepth, Int.add_sub_cancel]
      exact ⟨[], x, block, [], rfl, rfl, rfl, hlevel ▸ hquotes, hfenced, rfl⟩
  | _ :: _ :: before, hsplit =>
      -- the lines and the end of the quotation open no file
      simp only [List.cons_append, List.cons.injEq] at hsplit
      have hmem : Event.enter p t ∈ block.map Event.line ++ [.leave x.includee] := by
        rw [hsplit.2.2]
        exact List.mem_append_right before List.mem_cons_self
      simp at hmem

/-- **A template in a template**: its quotations are those of its own run. -/
theorem EachQuoted.nested {f : Frame} {q : Path} (h : s.EachQuoted (stack.push f) events) :
    s.EachQuoted stack (.cite f :: .enter p .markdown :: events ++ [.leave q]) := by
  have hopened : s.EachQuoted stack [.cite f, .enter p .markdown] :=
    eachQuoted_of_markdown (by simp)
  have hleft : s.EachQuoted ((stack.push f).replay events) [.leave q] :=
    eachQuoted_of_markdown (by simp)
  exact hopened.append (h.append hleft)

/-- **Quotations in a run that nothing stops**: whenever a file is opened that is no template, it is
    opened for a quotation. -/
theorem Expands.eachQuoted (h : Expands s stack template depth number lines r)
    (hok : r.failure = none) (hreads : s.Reads template number lines)
    (hdepth : (stack.length : Int) = depth + 1) : s.EachQuoted stack r.events := by
  induction h, hok using Expands.ok_induction with
  | done => exact eachQuoted_of_markdown fun p t hmem => absurd hmem List.not_mem_nil
  | copied _ _ _ ih =>
      exact (eachQuoted_of_markdown (by simp)).append (ih hreads.tail hdepth)
  | marked _ _ _ _ ih =>
      exact (eachQuoted_of_markdown (by simp)).append (ih hreads.tail hdepth)
  | quoted hline hcites hrec hopen htext _ _ ih =>
      obtain ⟨hquotes, hfenced⟩ := quotes_quotedLines hreads hline hcites hrec hopen htext
      rw [Run.after_events]
      refine EachQuoted.append ?_ ?_
      · rw [quote_events]
        exact eachQuoted_quotation hdepth hquotes hfenced
      · rw [Stack.replay_inclusion (Stack.replay_quote ..)]
        exact ih hreads.tail hdepth
  | @nested stack template depth number _ _ d _ _ _ _ hrec _ hopen hbody hokBody _ _ _ ihBody
      ihRest =>
      have hdepth' : ((stack.push (d.frame template number)).length : Int) = depth + 1 + 1 := by
        rw [Stack.push, List.length_append, List.length_singleton]
        omega
      have hmarkdown : d.treatment = .markdown := eq_of_beq hrec
      rw [Run.after_events, hmarkdown]
      refine EachQuoted.append ?_ ?_
      · exact (ihBody (reads_lines hopen) hdepth').nested
      · rw [Stack.replay_inclusion (hbody.replay_eq hokBody)]
        exact ihRest hreads.tail hdepth

/-- Quotations in the run of a whole template. -/
theorem eachQuoted_expand {output : Option Path}
    (hok : (s.expand template output).failure = none) :
    s.EachQuoted [Frame.outermost template output] (s.expand template output).events := by
  have hrun := runOf_expand s template output
  generalize s.expand template output = run at hrun hok ⊢
  cases hrun with
  | unopened => cases hok
  | opened hopen hbody =>
      rw [Source.close_events]
      exact hbody.eachQuoted (Source.close_ok_iff.mp hok).1 (reads_lines hopen) rfl

/-! ## 5. Every directive is taken up -/

/-- **A directive in a template that is expanded**: it cites a file and stands in the template at
    `p`, or in one that a chain of templates leads to from there. -/
structure StandsBelow (s : Setting) (p : Path) (x : Site) : Prop where
  reached : s.Reaches p x.template
  stands : s.DirectiveAt x.template x.number x.directive
  citesFile : x.directive.citesFile = true

/-- The directive is taken up, and its file is opened. -/
def TakenUp (events : List Event) (x : Site) : Prop :=
  ∃ before after,
    events = before ++ .cite x.frame :: .enter x.includee x.directive.treatment :: after

/-- **A directive is taken up with all that is below it**: if it cites a template, every directive
    below that is taken up, too. -/
structure TakesUp (s : Setting) (events : List Event) (x : Site) : Prop where
  cited : TakenUp events x
  below : x.directive.isRecursive = true → ∀ y, s.StandsBelow x.includee y → TakenUp events y

theorem TakenUp.append (h : TakenUp events x) (later : List Event) :
    TakenUp (events ++ later) x := by
  obtain ⟨before, after, rfl⟩ := h
  exact ⟨before, after ++ later, by simp⟩

theorem TakenUp.prepend (h : TakenUp events x) (first : List Event) :
    TakenUp (first ++ events) x := by
  obtain ⟨before, after, rfl⟩ := h
  exact ⟨first ++ before, after, by simp⟩

theorem TakesUp.prepend (h : s.TakesUp events x) (first : List Event) :
    s.TakesUp (first ++ events) x :=
  ⟨h.cited.prepend first, fun hrec y hy => (h.below hrec y hy).prepend first⟩

/-- **What is below a template** is taken up if the directives on its lines are, with all that is
    below them. -/
theorem takenUp_of_lines {text : Text} (htext : s.textOf? p = some text)
    (hlines : ∀ x ∈ (Text.splitLines Text.isLineEnd text).zipIdx 1, ∀ d,
      s.directive? x.1 = some d → d.citesFile = true → s.TakesUp events ⟨p, x.2, d⟩) :
    ∀ x, s.StandsBelow p x → TakenUp events x := by
  have hat : ∀ n d, s.DirectiveAt p n d → d.citesFile = true → s.TakesUp events ⟨p, n, d⟩ := by
    intro n d h
    obtain ⟨text', line, htext', hmem, hline⟩ := h
    cases htext.symm.trans htext'
    exact hlines (line, n) hmem d hline
  intro x hx
  obtain ⟨hreached, hstands, hcites⟩ := hx
  rcases Relation.ReflTransGen.cases_head hreached with rfl | ⟨q, hfirst, hrest⟩
  · exact (hat _ _ hstands hcites).cited
  · obtain ⟨n, d, hd, hrec, rfl⟩ := hfirst
    exact (hat n d hd (citesFile_of_isRecursive hrec)).below hrec x ⟨hrest, hstands, hcites⟩

/-- **What a run takes up that nothing stops**: every directive on its lines that cites a file, with
    all that is below it. -/
theorem Expands.takesUp (h : Expands s stack template depth number lines r)
    (hok : r.failure = none) :
    ∀ x ∈ lines.zipIdx number, ∀ d, s.directive? x.1 = some d → d.citesFile = true →
      s.TakesUp r.events ⟨template, x.2, d⟩ := by
  induction h, hok using Expands.ok_induction with
  | done => simp
  | copied hline _ _ ih =>
      rw [directive?_lineAt] at hline
      rw [List.zipIdx_cons]
      refine List.forall_mem_cons.mpr ⟨fun d hd _ => ?_,
        fun x hx d hd hcites => (ih x hx d hd hcites).prepend _⟩
      cases hline.symm.trans hd
  | marked hline hmark _ _ ih =>
      rw [directive?_lineAt] at hline
      rw [List.zipIdx_cons]
      refine List.forall_mem_cons.mpr ⟨fun d hd hcites => ?_,
        fun x hx d hd hcites => (ih x hx d hd hcites).prepend _⟩
      cases hline.symm.trans hd
      simp [hmark] at hcites
  | quoted hline _ hrec _ _ _ _ ih =>
      rw [directive?_lineAt] at hline
      rw [List.zipIdx_cons]
      refine List.forall_mem_cons.mpr ⟨fun d hd _ => ?_,
        fun x hx d hd hcites => (ih x hx d hd hcites).prepend _⟩
      cases hline.symm.trans hd
      exact ⟨⟨[], _, rfl⟩, fun h => by simp [hrec] at h⟩
  | @nested _ template _ _ _ _ d _ body _ hline _ _ hopen _ _ hcomplete _ _ ihBody ihRest =>
      rw [directive?_lineAt] at hline
      rw [List.zipIdx_cons]
      refine List.forall_mem_cons.mpr ⟨fun d' hd _ => ?_,
        fun x hx d hd hcites => (ihRest x hx d hd hcites).prepend _⟩
      cases hline.symm.trans hd
      obtain ⟨text, htext, hlines⟩ := lines_of_complete hopen hcomplete
      have hbelow : ∀ y, s.StandsBelow (d.includee template) y → TakenUp body.events y :=
        takenUp_of_lines htext (hlines ▸ ihBody)
      exact ⟨⟨[], _, rfl⟩, fun _ y hy => (((hbelow y hy).append _).prepend [_, _]).append _⟩

/-- **Every directive below the template is taken up** by its run if nothing stops it. -/
theorem takenUp_expand {output : Option Path} (hok : (s.expand template output).failure = none) :
    ∀ x, s.StandsBelow template x → TakenUp (s.expand template output).events x := by
  obtain ⟨text, body, htext, hbody, hokBody, hevents⟩ := expand_ok hok
  rw [hevents]
  exact takenUp_of_lines htext (hbody.takesUp hokBody)

/-! ## 6. Quotations on the page -/

/-- **Every quotation stands on the page as it is.** Let nothing stop an expansion. Then every
    directive that cites a file is taken up, in the template and in all that it cites, and its file
    is opened. Whenever a file is opened for a directive that is no template, this is what happens.
    The last thing before is that the directive is taken up. It stands in its template and cites the
    file, and the lines of its quotation are written next, and nothing else happens until the file
    is left: all of them as deep as the template lies on the inclusion stack, none of them taken up
    as a directive. Put together they are the content of the file between the lines of the
    treatment. With either policy on blank lines, they stand together on the page, behind what was
    written before and in front of what is written afterwards, and blank lines may be missing from
    these alone. -/
theorem quotations_stand_whole (s : Setting) (template : Path) (output : Option Path) (tidy : Bool)
    (hok : (s.expand template output).failure = none) :
    (∀ x, s.StandsBelow template x → TakenUp (s.expand template output).events x) ∧
    ∀ before p t after, (s.expand template output).events = before ++ .enter p t :: after →
      t ≠ .markdown →
      ∃ earlier x block rest front back,
        before = earlier ++ [.cite x.frame] ∧ x.includee = p ∧ x.directive.treatment = t ∧
        s.Quotes x ((Stack.replay [.outermost template output] earlier).length - 1) block ∧
        after = block.map Event.line ++ .leave p :: rest ∧
        ((Document.empty tidy).replay (s.expand template output).events).lines =
          front ++ block ++ back ∧
        Trimmed (written before) front ∧ Trimmed (written rest) back := by
  refine ⟨takenUp_expand hok, fun before p t after hsplit ht => ?_⟩
  obtain ⟨earlier, x, block, rest, hbefore, hp, htreatment, hquotes, hfenced, hafter⟩ :=
    eachQuoted_expand hok before p t after hsplit ht
  obtain ⟨front, back, hlines, hfront, hback⟩ :=
    Document.replay_fenced hfenced (Document.empty tidy) before (.leave p :: rest) p t
  refine ⟨earlier, x, block, rest, front, back, hbefore, hp, htreatment, hquotes, hafter, ?_,
    hfront, hback⟩
  rw [hsplit, hafter, ← hlines]
  simp

/-- A template in another one quotes a file that holds blank lines and what looks like a
    directive. -/
def hosting : Setting where
  tree := ⟨[([['a']], .ofAscii "@[markdown](b)\n"), ([['b']], .ofAscii "\n@[code_block](c)\n\n"),
    ([['c']], .ofAscii "\n@[markdown](a)\n\n")], [([], true)]⟩
  encoding := "utf-8".toList
  root := none
  citesFiles := true

/-- The quotation stands on the page, one level deep, with all of its blank lines. -/
theorem quotations_stand_whole_hosting :
    let a : Path := ⟨.root, [['a']]⟩
    let b : Path := ⟨.root, [['b']]⟩
    let c : Path := ⟨.root, [['c']]⟩
    let earlier : List Event := [.cite (.ofDirective a 1 "@[markdown](b)".toList b),
      .enter b .markdown, .line ⟨['\n'], 1, none⟩]
    let before := earlier ++ [.cite (.ofDirective b 2 "@[code_block](c)".toList c)]
    let after : List Event := [.line ⟨"```\n".toList, 1, none⟩, .line ⟨['\n'], 1, none⟩,
      .line ⟨"@[markdown](a)\n".toList, 1, none⟩, .line ⟨['\n'], 1, none⟩,
      .line ⟨"```\n".toList, 1, none⟩, .leave c, .line ⟨['\n'], 1, none⟩, .leave b]
    (hosting.expand a none).failure = none ∧
    (hosting.expand a none).events = before ++ .enter c .codeBlock :: after ∧
    ∃ x block front back, x.includee = c ∧ hosting.Quotes x 1 block ∧
      ((Document.empty true).replay (hosting.expand a none).events).lines =
        front ++ block ++ back := by
  intro a b c earlier before after
  have hok : (hosting.expand a none).failure = none := by decide +kernel
  have hsplit : (hosting.expand a none).events = before ++ .enter c .codeBlock :: after := by
    decide +kernel
  obtain ⟨-, hquoted⟩ := quotations_stand_whole hosting a none true hok
  obtain ⟨earlier', x, block, rest, front, back, hbefore, hp, -, hquotes, -, hlines, -, -⟩ :=
    hquoted before c .codeBlock after hsplit (by decide)
  obtain ⟨rfl, -⟩ := List.append_inj' hbefore rfl
  exact ⟨hok, hsplit, x, block, front, back, hp, hquotes, hlines⟩

end Setting

end MarkdownTemplate
