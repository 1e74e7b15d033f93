import MarkdownTemplate.Proofs.Characters
import MarkdownTemplate.Proofs.Recutting
import MarkdownTemplate.Proofs.Rendering

/-!
# The lines of a page

A page is put together from the lines of templates, of quotations and of the table of contents.
This file says that they stand one behind another on it, so that a reader of the page finds them
again. It fixes

* `Heading.parse?_concat`, `Directive.parse?_concat` -- what ends a line makes no difference to the
  heading or the directive that it is;
* `Heading.head?_of_parse?`, `Directive.head?_of_parse?` -- how such lines begin;
* `Heading.plain_text`, `Directive.plain_parse?` -- no line ends in what is read off a line;
* `Text.CutsAlike` -- a text that is cut into the same lines as a template and when it is quoted;
* **`Expands.writesLines`** -- the lines that a run writes stand one behind another if what it
  quotes cuts alike;
* `Contents.endedLines_lines` -- the lines of the table of contents stand one behind another;
* `Document.render_cases` -- a page is the text of the document with the table of contents in the
  place of the marker.
-/

namespace MarkdownTemplate

/-! ## 1. Reading a line -/

namespace Heading

/-- What ends a line makes no difference to its heading. -/
theorem parse?_concat {c : Char} (hc : Text.isLineEnd c = true) (l : Text) :
    parse? (l ++ [c]) = parse? l := by
  simp only [parse?, dropTrailing_concat l hc]

theorem parse?_lineFeed : parse? ['\n'] = none := by
  decide

/-- The end of a line makes no difference to its heading. -/
theorem parse?_dropTrailing (l : Text) : parse? (dropTrailing Text.isLineEnd l) = parse? l := by
  simp only [parse?, dropTrailing_dropTrailing (fun _ h => h)]

/-- No line ends in the title of a heading that is read off a line. -/
theorem plain_text {line : Text} {h : Heading} (hline : line.IsLine)
    (hparse : parse? line = some h) : Text.Plain h.text := by
  rw [← parse?_dropTrailing] at hparse
  exact hline.plain_dropTrailing.mono (text_subset hparse)

/-- A heading begins with a hash, behind spaces. -/
theorem head?_of_parse? {line : Text} {h : Heading} (hparse : parse? line = some h) :
    (line.dropWhile (· == ' ')).head? = some '#' := by
  unfold parse? at hparse
  dsimp only at hparse
  split at hparse
  · rename_i hhashes
    have hbody : ((dropTrailing Text.isLineEnd line).dropWhile (· == ' ')).head? = some '#' := by
      have hpos := hhashes.1
      generalize (dropTrailing Text.isLineEnd line).dropWhile (· == ' ') = body at hpos
      cases body with
      | nil => simp at hpos
      | cons c rest =>
          by_cases hc : c = '#'
          · rw [hc, List.head?_cons]
          · simp [hc] at hpos
    have hsplit := dropTrailing_append_takeTrailing Text.isLineEnd line
    generalize dropTrailing Text.isLineEnd line = front at hbody hsplit
    rw [← hsplit, List.dropWhile_append]
    split
    · rename_i hempty
      rw [List.isEmpty_iff.mp hempty] at hbody
      cases hbody
    · rw [List.head?_append, hbody]
      rfl
  · cases hparse

/-- The title of a table of contents begins with a hash. -/
theorem head?_trim_of_parse? {t : Text} {h : Heading} (hparse : parse? t = some h) :
    (Text.trim t).head? = some '#' := by
  have hhead := head?_of_parse? hparse
  have hspaces : t.dropWhile Text.isSpace = t.dropWhile (· == ' ') := by
    clear hparse
    induction t with
    | nil => rfl
    | cons c rest ih =>
        by_cases hc : c = ' '
        · subst hc
          exact ih hhead
        · rw [List.dropWhile_cons_of_neg (by simpa using hc)] at hhead
          obtain rfl : c = '#' := by simpa using hhead
          rfl
  obtain ⟨rest, hbody⟩ := List.head?_eq_some_iff.mp hhead
  rw [Text.trim, hspaces, hbody, Text.trimRight]
  exact head?_dropTrailing (by decide) rest

end Heading

namespace Directive

/-- What ends a line is blank. -/
theorem isSpace_of_isLineEnd {c : Char} (h : Text.isLineEnd c = true) : Text.isSpace c = true := by
  have hc : c = '\n' ∨ c = '\r' := by simpa [Text.isLineEnd] using h
  rcases hc with rfl | rfl <;> decide

/-- What ends a line makes no difference to its directive. -/
theorem parse?_concat {c : Char} (hc : Text.isLineEnd c = true) (l : Text) :
    parse? (l ++ [c]) = parse? l := by
  have hright : Text.trimRight (l ++ [c]) = Text.trimRight l :=
    dropTrailing_concat l (isSpace_of_isLineEnd hc)
  simp only [parse?, hright]

theorem parse?_lineFeed : parse? ['\n'] = none := by
  decide

/-- The end of a line makes no difference to its directive. -/
theorem parse?_dropTrailing (l : Text) : parse? (dropTrailing Text.isLineEnd l) = parse? l := by
  have hright : Text.trimRight (dropTrailing Text.isLineEnd l) = Text.trimRight l :=
    dropTrailing_dropTrailing (fun _ => isSpace_of_isLineEnd) l
  simp only [parse?, hright]

/-- No line ends in the target or the language of a directive that is read off a line. -/
theorem plain_parse? {line : Text} {d : Directive} (hline : line.IsLine)
    (hparse : parse? line = some d) :
    Text.Plain d.target ∧ ∀ name, d.language = some name → Text.Plain name := by
  rw [← parse?_dropTrailing] at hparse
  obtain ⟨htarget, hlanguage⟩ := parse?_subset hparse
  exact ⟨hline.plain_dropTrailing.mono htarget,
    fun name hname => hline.plain_dropTrailing.mono (hlanguage name hname)⟩

/-- A directive begins with an at sign. -/
theorem head?_of_parse? {line : Text} {d : Directive} (hparse : parse? line = some d) :
    line.head? = some '@' := by
  have hright : (Text.trimRight line).head? = some '@' := by
    unfold parse? at hparse
    dsimp only at hparse
    split at hparse
    · cases hparse
    · rename_i hsplit
      unfold split? at hsplit
      split at hsplit
      · rename_i heq
        rw [heq, List.head?_cons]
      · rename_i heq
        rw [heq, List.head?_cons]
      · cases hsplit
  exact head?_of_dropTrailing hright

end Directive

/-! ## 2. Quotations -/

namespace Text

/-- **The text is cut into the same lines as a template and when it is quoted**: whatever breaks it
    is a line feed or a carriage return. -/
def CutsAlike (t : Text) : Prop :=
  ∀ c ∈ t, isBreak c = true → isLineEnd c = true

theorem isBreak_of_isLineEnd {c : Char} (h : isLineEnd c = true) : isBreak c = true := by
  have hc : c = '\n' ∨ c = '\r' := by simpa [isLineEnd] using h
  rcases hc with rfl | rfl <;> decide

theorem CutsAlike.splitLines_eq {t : Text} (h : CutsAlike t) :
    splitLines isBreak t = splitLines isLineEnd t := by
  induction t with
  | nil => rfl
  | cons c t ih =>
      obtain ⟨hc, ht⟩ := List.forall_mem_cons.mp h
      have hsame : isBreak c = isLineEnd c := by
        cases hend : isLineEnd c with
        | true => exact isBreak_of_isLineEnd hend
        | false =>
            cases hbreak : isBreak c with
            | false => rfl
            | true => exact absurd (hc hbreak) (by simp [hend])
      rw [splitLines_cons, splitLines_cons, ih ht]
      cases splitLines isLineEnd t with
      | nil => rfl
      | cons l ls => rw [consLine, consLine, hsame]

theorem CutsAlike.terminated {t : Text} (h : CutsAlike t) : CutsAlike t.terminated := by
  unfold Text.terminated
  split
  · exact h
  · exact List.forall_mem_append.mpr ⟨h, by simp [isLineEnd]⟩

/-- Every line of an ended text is ended. -/
theorem isTerminated_of_mem_splitLines {s : Text} (h : s.isTerminated = true) :
    ∀ l ∈ splitLines isLineEnd s, l.isTerminated = true := by
  have hdropLast := isTerminated_of_mem_dropLast s
  have hflat := flatten_splitLines isLineEnd s
  have hne := splitLines_nonempty isLineEnd s
  rcases List.eq_nil_or_concat (splitLines isLineEnd s) with hnil | ⟨front, last, heq⟩
  · simp [hnil]
  · rw [List.concat_eq_append] at heq
    rw [heq] at hdropLast hflat hne ⊢
    rw [List.dropLast_concat] at hdropLast
    refine List.forall_mem_append.mpr ⟨hdropLast, List.forall_mem_singleton.mpr ?_⟩
    have hlast : last ≠ [] := hne last (by simp)
    rw [List.flatten_append, List.flatten_singleton] at hflat
    rwa [← hflat, isTerminated, List.getLast?_append_of_ne_nil _ hlast] at h

/-- A text in which no line ends, told by looking at it. -/
theorem plain_literal {t : Text} (h : (t.all fun c => !isLineEnd c) = true) : Plain t :=
  fun c hc => by simpa using List.all_eq_true.mp h c hc

/-- **Ended lines, one behind another.** -/
structure EndedLines (ls : List Text) : Prop where
  lineByLine : LineByLine ls
  ended : ∀ l ∈ ls, l.isTerminated = true

theorem endedLines_singleton {l : Text} (hline : IsLine l) (hended : l.isTerminated = true) :
    EndedLines [l] :=
  ⟨⟨List.forall_mem_singleton.mpr hline, List.pairwise_singleton ..⟩,
    List.forall_mem_singleton.mpr hended⟩

theorem EndedLines.append {ls ls' : List Text} (h : EndedLines ls) (h' : EndedLines ls') :
    EndedLines (ls ++ ls') :=
  ⟨h.lineByLine.append h.ended h'.lineByLine, List.forall_mem_append.mpr ⟨h.ended, h'.ended⟩⟩

/-- The text that ended lines make is ended. -/
theorem EndedLines.isTerminated {ls : List Text} (h : EndedLines ls) (hne : ls.flatten ≠ []) :
    isTerminated ls.flatten = true := by
  rcases List.eq_nil_or_concat ls with rfl | ⟨front, last, rfl⟩
  · exact absurd rfl hne
  · rw [List.concat_eq_append] at h ⊢
    have hlast : last.isTerminated = true := h.ended last (by simp)
    have hline : last.IsLine := h.lineByLine.isLine last (by simp)
    rw [List.flatten_append, List.flatten_singleton, Text.isTerminated,
      List.getLast?_append_of_ne_nil _ hline.ne_nil]
    exact hlast

/-- A text in which no line ends becomes an ended line by any line end. -/
theorem endedLines_of_plain {body ending : Text} (hbody : Plain body) (hline : IsLine ending)
    (hended : ending.isTerminated = true) : EndedLines [body ++ ending] := by
  refine endedLines_singleton (hline.append_plain hbody) ?_
  rwa [isTerminated, List.getLast?_append_of_ne_nil _ hline.ne_nil]

end Text

namespace Directive

/-- **The lines that quote a content are ended** if it cuts alike. -/
theorem endedLines_contentLines {content : Text} (h : content.CutsAlike) :
    Text.EndedLines (contentLines content) := by
  unfold contentLines
  split
  · exact ⟨Text.lineByLine_nil, by simp⟩
  · rw [h.terminated.splitLines_eq]
    exact ⟨Text.lineByLine_splitLines _,
      Text.isTerminated_of_mem_splitLines (Text.isTerminated_terminated content)⟩

/-- The marks around quoted content are ended lines. -/
theorem endedLines_wrapper? {t : Treatment} {language : Option Text} {w : Text × Text}
    (h : wrapper? language t = some w)
    (hlanguage : ∀ name, language = some name → Text.Plain name) :
    Text.EndedLines [w.1] ∧ Text.EndedLines [w.2] := by
  have hmark : ∀ s : Text, Text.splitLines Text.isLineEnd s = [s] → s.isTerminated = true →
      Text.EndedLines [s] := fun s => Text.endedLines_singleton
  have hfence := hmark "```\n".toList (by decide) (by decide)
  cases t with
  | markdown => cases h
  | pageToc => cases h
  | codeBlock => cases h; exact ⟨hfence, hfence⟩
  | comment => cases h; exact ⟨hmark _ (by decide) (by decide), hmark _ (by decide) (by decide)⟩
  | pre => cases h; exact ⟨hmark _ (by decide) (by decide), hmark _ (by decide) (by decide)⟩
  | language =>
      cases h
      have hname : Text.Plain (language.getD "None".toList) := by
        cases language with
        | none => exact Text.plain_literal (by decide)
        | some name => exact hlanguage name rfl
      have hticks : Text.Plain "```".toList := Text.plain_literal (by decide)
      exact ⟨Text.endedLines_of_plain (hticks.append hname) rfl rfl, hfence⟩

end Directive

/-! ## 3. The lines that a run writes -/

namespace Setting

variable {s : Setting} {stack : Stack} {template : Path} {depth : Int} {number : Nat}
  {lines : List Text} {r : Run}

/-- The files that a run quotes cut alike. -/
def QuotesAlike (s : Setting) (events : List Event) : Prop :=
  ∀ q t content, Event.enter q t ∈ events → t ≠ .markdown → s.textOf? q = some content →
    content.CutsAlike

/-- A file that an event opens to quote it cuts alike, if it has a text. -/
def quotesAlike (s : Setting) : Event → Bool
  | .enter q t => t == .markdown || (s.textOf? q).all fun content =>
      content.all fun c => !Text.isBreak c || Text.isLineEnd c
  | _ => true

theorem quotesAlike_iff {events : List Event} :
    s.QuotesAlike events ↔ events.all s.quotesAlike = true := by
  rw [List.all_eq_true]
  constructor
  · intro h e he
    cases e with
    | enter q t =>
        by_cases ht : t = .markdown
        · simp [quotesAlike, ht]
        · cases htext : s.textOf? q with
          | none => simp [quotesAlike, htext]
          | some content =>
              have hcuts := h q t content he ht htext
              have hall : ∀ c ∈ content, (!Text.isBreak c || Text.isLineEnd c) = true := by
                intro c hc
                cases hbreak : Text.isBreak c with
                | false => rfl
                | true => simp [hcuts c hc hbreak]
              simp only [quotesAlike, htext, Option.all_some, List.all_eq_true.mpr hall,
                Bool.or_true]
    | _ => rfl
  · intro h q t content he ht htext c hc hbreak
    have hevent := h _ he
    simp only [quotesAlike, htext, Option.all_some, Bool.or_eq_true, beq_iff_eq, ht, false_or,
      List.all_eq_true] at hevent
    simpa [hbreak] using hevent c hc

instance (events : List Event) : Decidable (s.QuotesAlike events) :=
  decidable_of_iff _ quotesAlike_iff.symm

/-- A line as it is written is a line, and inside an inclusion it is ended. -/
theorem isLine_lineAt {line : Text} (h : line.IsLine) (depth : Int) :
    (lineAt depth line).IsLine := by
  unfold lineAt
  split
  · exact h.terminated
  · exact h

theorem QuotesAlike.of_append {es es' : List Event} (h : s.QuotesAlike (es ++ es')) :
    s.QuotesAlike es ∧ s.QuotesAlike es' :=
  ⟨fun q t content hmem => h q t content (List.mem_append_left _ hmem),
    fun q t content hmem => h q t content (List.mem_append_right _ hmem)⟩

/-- **What is true of the lines that a run writes at a depth**: they stand one behind another,
    inside an inclusion all of them are ended, and no line ends in the title of a marker. -/
structure WritesLines (depth : Int) (ls : List Line) : Prop where
  lineByLine : Text.LineByLine (ls.map Line.text)
  ended : 0 < depth → ∀ l ∈ ls, l.text.isTerminated = true
  titles : ∀ l ∈ ls, ∀ title, l.title = some title → Text.Plain title

theorem writesLines_nil (depth : Int) : WritesLines depth [] :=
  ⟨Text.lineByLine_nil, by simp, by simp⟩

/-- The lines of an inclusion, and what a run writes behind them. -/
theorem WritesLines.append {inner : Int} {ls ls' : List Line} (h : WritesLines inner ls)
    (hinner : 0 < inner) (h' : WritesLines depth ls') : WritesLines depth (ls ++ ls') where
  lineByLine := by
    rw [List.map_append]
    exact h.lineByLine.append (List.forall_mem_map.mpr (h.ended hinner)) h'.lineByLine
  ended hpos := List.forall_mem_append.mpr ⟨h.ended hinner, h'.ended hpos⟩
  titles := List.forall_mem_append.mpr ⟨h.titles, h'.titles⟩

/-- A line is written as it is, and then comes what the rest of the lines adds: the line lacks its
    end only if there is no rest. -/
theorem WritesLines.line {line : Text} {rest : List Text} {title : Option Text}
    (hlines : Text.LineByLine (line :: rest)) (htitle : ∀ t, title = some t → Text.Plain t)
    (hrest : Expands s stack template depth (number + 1) rest r) (h : WritesLines depth r.lines) :
    WritesLines depth (r.after [.line ⟨lineAt depth line, depth, title⟩]).lines := by
  obtain ⟨hline, hended, -⟩ := Text.lineByLine_cons.mp hlines
  rw [Run.lines_after, written_cons_line, written_nil, List.singleton_append]
  refine ⟨?_, fun hpos => ?_, List.forall_mem_cons.mpr ⟨htitle, h.titles⟩⟩
  · rw [List.map_cons]
    refine Text.lineByLine_cons.mpr ⟨isLine_lineAt hline depth, fun hne => ?_, h.lineByLine⟩
    have hmore : rest ≠ [] := by
      rintro rfl
      cases hrest
      exact hne rfl
    rw [lineAt_of_isTerminated (hended hmore)]
    exact hended hmore
  · refine List.forall_mem_cons.mpr ⟨?_, h.ended hpos⟩
    rw [lineAt_of_pos hpos]
    exact Text.isTerminated_terminated line

/-- A quotation is made of ended lines if its content cuts alike. -/
theorem writesLines_quotedLines {line content : Text} {d : Directive} (hline : line.IsLine)
    (hparse : Directive.parse? line = some d) (hcontent : content.CutsAlike) (depth inner : Int) :
    WritesLines inner (quotedLines d depth content) := by
  have htexts : (quotedLines d depth content).map Line.text =
      (Directive.verbatim? d.treatment d.language content).getD [] := by
    rw [quotedLines, List.map_map]
    exact List.map_id _
  have hended : Text.EndedLines ((quotedLines d depth content).map Line.text) := by
    rw [htexts, Directive.verbatim?]
    cases hwrapper : Directive.wrapper? d.language d.treatment with
    | none => exact ⟨Text.lineByLine_nil, by simp⟩
    | some w =>
        obtain ⟨hopen, hclose⟩ :=
          Directive.endedLines_wrapper? hwrapper (Directive.plain_parse? hline hparse).2
        exact (hopen.append (Directive.endedLines_contentLines hcontent)).append hclose
  refine ⟨hended.lineByLine, fun _ => List.forall_mem_map.mp hended.ended, fun l hl title h => ?_⟩
  obtain ⟨t, -, rfl⟩ := List.mem_map.mp hl
  cases h

/-- **The lines that a run writes stand one behind another** if those that it reads do and what it
    quotes cuts alike. -/
theorem Expands.writesLines (h : Expands s stack template depth number lines r)
    (hok : r.failure = none) (hdepth : 0 ≤ depth) (hlines : Text.LineByLine lines)
    (hquotes : s.QuotesAlike r.events) : WritesLines depth r.lines := by
  induction h, hok using Expands.ok_induction with
  | done => exact writesLines_nil _
  | copied _ hrest _ ih =>
      exact .line hlines (by simp) hrest
        (ih hdepth (Text.lineByLine_cons.mp hlines).2.2 hquotes.of_append.2)
  | @marked _ _ depth _ _ _ d _ hline _ hrest _ ih =>
      obtain ⟨hisLine, -, hrestLines⟩ := Text.lineByLine_cons.mp hlines
      have htarget : Text.Plain d.target := (Directive.plain_parse?
        (isLine_lineAt hisLine depth) (parse?_of_directive? hline)).1
      exact .line hlines (by simpa using htarget) hrest
        (ih hdepth hrestLines hquotes.of_append.2)
  | @quoted _ _ depth _ _ _ d _ content _ hline _ hrec hopen htext _ _ ih =>
      obtain ⟨hisLine, -, hrestLines⟩ := Text.lineByLine_cons.mp hlines
      have htreatment : d.treatment ≠ .markdown := by simpa [Directive.isRecursive] using hrec
      have hcontent : content.CutsAlike :=
        hquotes _ d.treatment content (by simp) htreatment
          (textOf?_eq_some_iff.mpr ⟨_, hopen, htext⟩)
      have hquotation := writesLines_quotedLines (isLine_lineAt hisLine depth)
        (parse?_of_directive? hline) hcontent depth 1
      rw [Run.lines_after, written_inclusion, written_quote]
      exact hquotation.append (by omega) (ih hdepth hrestLines hquotes.of_append.2)
  | @nested _ _ depth _ _ _ _ _ body _ _ _ _ hopen _ _ hcomplete _ _ ihBody ihRest =>
      obtain ⟨text, -, heq⟩ := lines_of_complete hopen hcomplete
      have hinside : s.QuotesAlike body.events := by
        obtain ⟨hevents, -⟩ := hquotes.of_append
        exact fun q t content hmem => hevents q t content (by simp [hmem])
      have hinner := ihBody (by omega) (heq ▸ Text.lineByLine_splitLines text) hinside
      rw [Run.lines_after, written_inclusion]
      exact hinner.append (by omega)
        (ihRest hdepth (Text.lineByLine_cons.mp hlines).2.2 hquotes.of_append.2)

/-- **The lines of a document stand one behind another**, whether or not blank lines are dropped
    among those that a template expands to. -/
theorem writesLines_replay {output : Option Path}
    (hok : (s.expand template output).failure = none)
    (hquotes : s.QuotesAlike (s.expand template output).events) (tidy : Bool) :
    WritesLines 0 ((Document.empty tidy).replay (s.expand template output).events).lines := by
  obtain ⟨text, body, -, hbody, hokBody, hevents⟩ := expand_ok hok
  rw [hevents] at hquotes ⊢
  have hwrites :=
    hbody.writesLines hokBody (Int.le_refl 0) (Text.lineByLine_splitLines text) hquotes
  have hsub : (((Document.empty tidy).replay body.events).lines).Sublist body.lines :=
    Document.replay_sublist (.empty tidy) body.events
  exact ⟨hwrites.lineByLine.sublist (hsub.map Line.text), fun h => absurd h (by omega),
    fun l hl => hwrites.titles l (hsub.subset hl)⟩

end Setting

/-! ## 4. The table of contents -/

namespace Heading

/-- What a character adds to an anchor ends no line. -/
theorem isLineEnd_slugChar? {c a : Char} (h : slugChar? c = some a) : Text.isLineEnd a = false := by
  have hsmall : ∀ n < 128, (Char.ofNat n).isAlphanum = true →
      Text.isLineEnd (Char.ofNat n).toLower = false := by decide
  unfold slugChar? at h
  split at h
  · rename_i hc
    cases h
    rcases Bool.or_eq_true_iff.mp hc with hc | hc
    · have hlower := hsmall c.toNat (isAlphanum_ascii hc)
      rw [c.ofNat_toNat] at hlower
      exact hlower hc
    · rw [beq_iff_eq.mp hc]
      rfl
  · split at h
    · cases h
      rfl
    · split at h
      · cases h
        rfl
      · cases h

/-- No line ends in an anchor. -/
theorem plain_slugOf (t : Text) : Text.Plain (slugOf t) := by
  induction t with
  | nil => simp [Text.Plain, slugOf]
  | cons c t ih =>
      unfold slugOf
      split
      · split
        · exact ih
        · exact List.forall_mem_cons.mpr ⟨rfl, ih⟩
      · split
        · rename_i a ha
          exact List.forall_mem_cons.mpr ⟨isLineEnd_slugChar? ha, ih⟩
        · exact ih

end Heading

namespace Contents

/-- No line ends in an item if none does in the title of its heading. -/
theorem plain_item {h : Heading} (hplain : Text.Plain h.text) (top : Nat) :
    Text.Plain (item top h) := by
  have hindent : Text.Plain (List.replicate (2 * (h.level - top)) ' ') :=
    fun c hc => by rw [List.eq_of_mem_replicate hc]; rfl
  have hopen : Text.Plain ['-', ' ', '['] := Text.plain_literal (by decide)
  have hmiddle : Text.Plain "](#".toList := Text.plain_literal (by decide)
  have hclose : Text.Plain [')'] := Text.plain_literal (by decide)
  have hlink : Text.Plain ('-' :: ' ' :: h.link) :=
    (((hopen.append hplain).append hmiddle).append (Heading.plain_slugOf _)).append hclose
  exact hindent.append hlink

theorem lineEnd_cases (marker : Line) :
    lineEnd marker = ['\n'] ∨ lineEnd marker = ['\r', '\n'] := by
  unfold lineEnd
  split
  · exact Or.inr rfl
  · exact Or.inl rfl

/-- **The lines of the table of contents are ended lines** that stand one behind another. -/
theorem endedLines_lines {marker : Line} {headings : List Heading}
    (htitle : Text.Plain (marker.title.getD [])) (hheadings : ∀ h ∈ headings, Text.Plain h.text) :
    Text.EndedLines ((lines marker headings).map (· ++ lineEnd marker)) := by
  have hending : (lineEnd marker).IsLine ∧ (lineEnd marker).isTerminated = true := by
    rcases lineEnd_cases marker with heq | heq <;> rw [heq] <;> exact ⟨rfl, rfl⟩
  have hplain : ∀ row ∈ lines marker headings, Text.Plain row := by
    refine List.forall_mem_cons.mpr ⟨htitle.mono (Text.trim_subset _), fun row hrow => ?_⟩
    obtain ⟨h, hh, rfl⟩ := List.mem_map.mp hrow
    exact plain_item (hheadings h hh) _
  generalize lines marker headings = rows at hplain
  induction rows with
  | nil => exact ⟨Text.lineByLine_nil, by simp⟩
  | cons row rows ih =>
      obtain ⟨hrow, hrows⟩ := List.forall_mem_cons.mp hplain
      exact (Text.endedLines_of_plain hrow hending.1 hending.2).append (ih hrows)

end Contents

namespace Document

/-- **What a page is put together from**: the document has no marker and the page is its text, or it
    has one, with a heading for its title, and the table of contents stands in its place. -/
theorem render_cases {d : Document} {text : Text} (h : d.render = .ok text) :
    d.markers = [] ∧ text = d.text ∨
    ∃ before marker after, d.lines = before ++ marker :: after ∧ d.markers = [marker] ∧
      (∀ l ∈ before ++ after, l.isMarker = false) ∧
      (Heading.parse? (marker.title.getD [])).isSome = true ∧
      d.headings = Heading.all ((before ++ after).map Line.text) ∧
      text = (before.map Line.text).flatten ++ Contents.render marker d.headings ++
        (after.map Line.text).flatten := by
  unfold render at h
  split at h
  · rename_i hmarkers
    cases h
    exact Or.inl ⟨hmarkers, rfl⟩
  · rename_i marker hmarkers
    dsimp only at h
    split at h
    · cases h
    · rename_i htitle
      split at h
      · cases h
      · cases h
        obtain ⟨before, after, title, hplace⟩ := exists_markedOnce hmarkers
        have hheading : (Heading.parse? (marker.title.getD [])).isSome = true := by
          simpa [Option.isSome_iff_ne_none] using htitle
        exact Or.inr ⟨before, marker, after, hplace.lines_eq, hmarkers, hplace.isMarker_others,
          hheading, hplace.headings_eq.trans (headingsOn_eq _), hplace.flatten_map_eq _⟩
  · cases h

/-- **The lines of a page with a table of contents stand one behind another** if those of the
    document do, and those of the table and before it are ended. -/
theorem lines_page {before after : List Line} {marker : Line}
    (h : Setting.WritesLines 0 (before ++ marker :: after)) :
    Text.EndedLines (before.map Line.text ++
      (Contents.lines marker (Heading.all ((before ++ after).map Line.text))).map
        (· ++ Contents.lineEnd marker)) ∧ Text.LineByLine (after.map Line.text) := by
  have hall := h.lineByLine
  rw [List.map_append, List.map_cons] at hall
  have hbefore : Text.EndedLines (before.map Line.text) :=
    ⟨hall.sublist (List.sublist_append_left ..), fun l hl =>
      (List.pairwise_append.mp hall.ended).2.2 l hl marker.text List.mem_cons_self⟩
  have hafter : Text.LineByLine (after.map Line.text) :=
    hall.sublist ((List.sublist_cons_self ..).trans (List.sublist_append_right ..))
  have htitle : Text.Plain (marker.title.getD []) := by
    cases htitle : marker.title with
    | none => simp [Text.Plain]
    | some title => exact h.titles marker (by simp) title htitle
  have hheadings : ∀ heading ∈ Heading.all ((before ++ after).map Line.text),
      Text.Plain heading.text := by
    intro heading hheading
    obtain ⟨line, hline, hparse⟩ := List.mem_filterMap.mp hheading
    refine Heading.plain_text (h.lineByLine.isLine line ?_) hparse
    have hsub : (before ++ after).Sublist (before ++ marker :: after) :=
      (List.Sublist.refl before).append (List.sublist_cons_self ..)
    exact (hsub.map Line.text).subset hline
  exact ⟨hbefore.append (Contents.endedLines_lines htitle hheadings), hafter⟩

end Document

end MarkdownTemplate
