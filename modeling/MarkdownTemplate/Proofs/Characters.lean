import MarkdownTemplate.Assembly
import MarkdownTemplate.Proofs.Lines
import MarkdownTemplate.Proofs.Nesting
import MarkdownTemplate.Proofs.Writing

/-!
# Where the characters of a page come from

Every file is read and written in one encoding. A page can be written because no character of it
is new. This file fixes

* `Setting.Known` -- a character of ASCII, or one that stands in the text of a file;
* `Directive.parse?_subset`, `Heading.text_subset`, ... -- what is read off a line stands on it;
* `Heading.slug_ascii` -- anchors are made of ASCII, however their headings are written;
* `Expands.known` -- a run that succeeds writes known characters only;
* **`Assembler.knownText_page`** -- a page holds known characters only: the table of contents adds
  no others;
* **`Setting.KnownText.encode?_isSome`** -- a text of known characters can be encoded in the
  encoding of the files.
-/

namespace MarkdownTemplate

/-! ## 1. What is read off a line stands on it -/

theorem Text.dropWhile_subset (p : Char → Bool) (t : Text) : t.dropWhile p ⊆ t :=
  (List.dropWhile_sublist p).subset

theorem Text.dropTrailing_subset (p : Char → Bool) (t : Text) : dropTrailing p t ⊆ t :=
  (dropTrailing_sublist p t).subset

theorem Text.trim_subset (t : Text) : trim t ⊆ t :=
  List.Subset.trans (dropTrailing_subset ..) (dropWhile_subset ..)

namespace Directive

theorem splitBody_subset {t name target : Text} (h : splitBody t = some (name, target)) :
    name ⊆ t ∧ target ⊆ t := by
  simp only [splitBody] at h
  split at h
  · rename_i rest hrest
    split at h
    · cases h
      refine ⟨(List.takeWhile_sublist _).subset, fun c hc => ?_⟩
      apply Text.dropWhile_subset isNameChar t
      rw [hrest]
      exact List.mem_cons_of_mem _ (List.mem_cons_of_mem _ (List.dropLast_subset rest hc))
    · cases h
  · cases h

theorem split?_subset {t name target : Text} (h : split? t = some (name, target)) :
    name ⊆ t ∧ target ⊆ t := by
  unfold split? at h
  split at h
  · rename_i rest
    obtain ⟨hname, htarget⟩ := splitBody_subset h
    have hrest : rest ⊆ '@' :: '[' :: ':' :: rest := fun c hc => by simp [hc]
    exact ⟨List.Subset.trans hname hrest, List.Subset.trans htarget hrest⟩
  · rename_i rest _
    obtain ⟨hname, htarget⟩ := splitBody_subset h
    have hrest : rest ⊆ '@' :: '[' :: rest := fun c hc => by simp [hc]
    exact ⟨List.Subset.trans hname hrest, List.Subset.trans htarget hrest⟩
  · cases h

/-- **The target and the language of a directive stand on its line.** -/
theorem parse?_subset {line : Text} {d : Directive} (h : parse? line = some d) :
    d.target ⊆ line ∧ ∀ name, d.language = some name → name ⊆ line := by
  simp only [parse?] at h
  split at h
  · cases h
  · rename_i name target hsplit
    obtain ⟨hname, htarget⟩ := split?_subset hsplit
    have htext : Text.trimRight line ⊆ line := Text.dropTrailing_subset _ line
    split at h
    · cases h
    · cases h
      refine ⟨List.Subset.trans htarget htext, fun name' hname' => ?_⟩
      simp only at hname'
      split at hname'
      · cases hname'
        exact List.Subset.trans hname htext
      · cases hname'

end Directive

namespace Heading

theorem dropClosing_subset (t : Text) : dropClosing t ⊆ t := by
  simp only [dropClosing]
  split
  · exact List.Subset.trans (Text.dropTrailing_subset ..) (Text.dropTrailing_subset ..)
  · exact List.Subset.refl t

theorem titleOf_subset (rest : Text) : titleOf rest ⊆ rest := by
  have hstrip : stripSpaces rest ⊆ rest :=
    List.Subset.trans (Text.dropTrailing_subset ..) (Text.dropWhile_subset ..)
  exact List.Subset.trans (Text.trim_subset _) (List.Subset.trans (dropClosing_subset _) hstrip)

/-- **The title of a heading stands on its line.** -/
theorem text_subset {line : Text} {h : Heading} (hparse : parse? line = some h) :
    h.text ⊆ line := by
  simp only [parse?] at hparse
  split at hparse
  · split at hparse
    · cases hparse
      have hbody : ((dropTrailing Text.isLineEnd line).dropWhile (· == ' ')) ⊆ line :=
        List.Subset.trans (Text.dropWhile_subset ..) (Text.dropTrailing_subset ..)
      exact List.Subset.trans (titleOf_subset _)
        (List.Subset.trans (Text.dropWhile_subset ..) hbody)
    · cases hparse
  · cases hparse

/-- Letters and digits are ASCII. -/
theorem isAlphanum_ascii {c : Char} (h : c.isAlphanum = true) : c.toNat < 128 := by
  rcases Bool.or_eq_true_iff.mp h with halpha | hdigit
  · rcases Bool.or_eq_true_iff.mp halpha with hupper | hlower
    · have hle : c.toNat ≤ 90 := UInt32.le_iff_toNat_le.mp (of_decide_eq_true hupper).2
      omega
    · have hle : c.toNat ≤ 122 :=
        UInt32.le_iff_toNat_le.mp (of_decide_eq_true (Bool.and_eq_true_iff.mp hlower).2)
      omega
  · have hle : c.toNat ≤ 57 :=
      UInt32.le_iff_toNat_le.mp (of_decide_eq_true (Bool.and_eq_true_iff.mp hdigit).2)
    omega

theorem toLower_ascii {c : Char} (h : c.toNat < 128) : c.toLower.toNat < 128 := by
  unfold Char.toLower
  split
  · rename_i hupper
    have hle : c.val.toNat ≤ 90 := UInt32.le_iff_toNat_le.mp hupper.2
    have hsum : (c.val + 32).toNat = (c.val.toNat + 32) % 2 ^ 32 := UInt32.toNat_add ..
    show (c.val + 32).toNat < 128
    omega
  · exact h

theorem slugChar?_ascii {c a : Char} (h : slugChar? c = some a) : a.toNat < 128 := by
  unfold slugChar? at h
  split at h
  · rename_i hc
    cases h
    rcases Bool.or_eq_true_iff.mp hc with hc | hc
    · exact toLower_ascii (isAlphanum_ascii hc)
    · rw [beq_iff_eq.mp hc]
      decide
  · split at h
    · cases h
      decide
    · split at h
      · cases h
        decide
      · cases h

theorem slugOf_ascii (t : Text) : ∀ c ∈ slugOf t, c.toNat < 128 := by
  induction t with
  | nil => simp [slugOf]
  | cons first rest ih =>
      intro c hc
      unfold slugOf at hc
      split at hc
      · split at hc
        · exact ih c hc
        · rcases List.mem_cons.mp hc with rfl | hc
          · decide
          · exact ih c hc
      · split at hc
        · rename_i a ha
          rcases List.mem_cons.mp hc with rfl | hc
          · exact slugChar?_ascii ha
          · exact ih c hc
        · exact ih c hc

/-- **The anchor of a heading is ASCII**, however the heading is written. -/
theorem slug_ascii (h : Heading) : ∀ c ∈ h.slug, c.toNat < 128 :=
  slugOf_ascii _

end Heading

/-! ## 2. Known characters -/

namespace Setting

/-- The character is one of ASCII, or it stands in the text of a file. -/
def Known (s : Setting) (c : Char) : Prop :=
  c.toNat < 128 ∨ ∃ p text, s.textOf? p = some text ∧ c ∈ text

/-- Every character of the text is known. -/
def KnownText (s : Setting) (t : Text) : Prop :=
  ∀ c ∈ t, s.Known c

/-- Every character of the line and of the title that it may hold is known. -/
structure KnownLine (s : Setting) (l : Line) : Prop where
  text : s.KnownText l.text
  title : ∀ title, l.title = some title → s.KnownText title

variable {s : Setting}

theorem knownText_of_ascii {t : Text} (h : ∀ c ∈ t, c.toNat < 128) : s.KnownText t :=
  fun c hc => Or.inl (h c hc)

/-- A text of ASCII, told by looking at it. -/
theorem knownText_literal {t : Text} (h : (t.all fun c => decide (c.toNat < 128)) = true) :
    s.KnownText t :=
  knownText_of_ascii fun c hc => of_decide_eq_true (List.all_eq_true.mp h c hc)

theorem knownText_textOf? {p : Path} {text : Text} (h : s.textOf? p = some text) :
    s.KnownText text :=
  fun _ hc => Or.inr ⟨p, text, h, hc⟩

theorem KnownText.mono {t t' : Text} (h : s.KnownText t) (hsub : t' ⊆ t) : s.KnownText t' :=
  fun c hc => h c (hsub hc)

theorem KnownText.append {t t' : Text} (h : s.KnownText t) (h' : s.KnownText t') :
    s.KnownText (t ++ t') := by
  intro c hc
  rcases List.mem_append.mp hc with hc | hc
  · exact h c hc
  · exact h' c hc

theorem knownText_flatten {ts : List Text} (h : ∀ t ∈ ts, s.KnownText t) :
    s.KnownText ts.flatten := by
  intro c hc
  obtain ⟨t, ht, hct⟩ := List.mem_flatten.mp hc
  exact h t ht c hct

theorem KnownText.terminated {t : Text} (h : s.KnownText t) : s.KnownText t.terminated := by
  unfold Text.terminated
  split
  · exact h
  · exact h.append (knownText_literal (by decide))

theorem KnownText.lineAt {line : Text} (h : s.KnownText line) (depth : Int) :
    s.KnownText (lineAt depth line) := by
  unfold Setting.lineAt
  split
  · exact h.terminated
  · exact h

theorem KnownText.splitLines {ends : Char → Bool} {t : Text} (h : s.KnownText t) :
    ∀ line ∈ Text.splitLines ends t, s.KnownText line :=
  fun _ hline c hc => h c (Text.mem_of_mem_splitLines hline hc)

/-! ## 3. What a run writes -/

/-- The marks around quoted content are ASCII but for the language they name. -/
theorem knownText_wrapper? {t : Treatment} {language : Option Text} {w : Text × Text}
    (h : Directive.wrapper? language t = some w)
    (hlanguage : ∀ name, language = some name → s.KnownText name) :
    s.KnownText w.1 ∧ s.KnownText w.2 := by
  have hname : s.KnownText (language.getD "None".toList) := by
    cases language with
    | none => exact knownText_literal (by decide)
    | some name => exact hlanguage name rfl
  cases t with
  | markdown => cases h
  | pageToc => cases h
  | codeBlock => cases h; constructor <;> exact knownText_literal (by decide)
  | comment => cases h; constructor <;> exact knownText_literal (by decide)
  | pre => cases h; constructor <;> exact knownText_literal (by decide)
  | language =>
      cases h
      have hfence : s.KnownText "```".toList := knownText_literal (by decide)
      have hfeed : s.KnownText ['\n'] := knownText_literal (by decide)
      have hclose : s.KnownText "```\n".toList := knownText_literal (by decide)
      exact ⟨(hfence.append hname).append hfeed, hclose⟩

theorem KnownText.contentLines {content : Text} (h : s.KnownText content) :
    ∀ line ∈ Directive.contentLines content, s.KnownText line := by
  refine KnownText.splitLines ?_
  split
  · exact knownText_literal (by decide)
  · exact h.terminated

/-- Quoting a known text by a directive on a known line writes known lines. -/
theorem knownLine_quotedLines {line content : Text} {d : Directive}
    (hparse : Directive.parse? line = some d) (hline : s.KnownText line)
    (hcontent : s.KnownText content) (depth : Int) :
    ∀ l ∈ quotedLines d depth content, s.KnownLine l := by
  intro l hl
  unfold quotedLines Directive.verbatim? at hl
  cases hwrapper : Directive.wrapper? d.language d.treatment with
  | none => simp [hwrapper] at hl
  | some w =>
      obtain ⟨hopen, hclose⟩ := knownText_wrapper? hwrapper fun name hname =>
        hline.mono ((Directive.parse?_subset hparse).2 name hname)
      rw [hwrapper] at hl
      obtain ⟨t, ht, rfl⟩ := List.mem_map.mp hl
      refine ⟨?_, by simp⟩
      rcases List.mem_append.mp ht with ht | ht
      · rcases List.mem_cons.mp ht with rfl | ht
        · exact hopen
        · exact hcontent.contentLines t ht
      · rw [List.mem_singleton.mp ht]
        exact hclose

/-- **A run that succeeds writes known lines** if those that it reads are known. -/
theorem Expands.known {stack : Stack} {template : Path} {depth : Int} {number : Nat}
    {lines : List Text} {r : Run} (h : Expands s stack template depth number lines r)
    (hok : r.failure = none) (hlines : ∀ line ∈ lines, s.KnownText line) :
    ∀ l ∈ r.lines, s.KnownLine l := by
  induction h, hok using Expands.ok_induction with
  | done => exact fun _ hl => absurd hl List.not_mem_nil
  | copied _ _ _ ih =>
      rw [List.forall_mem_cons] at hlines
      rw [Run.lines_after]
      exact List.forall_mem_append.mpr
        ⟨List.forall_mem_singleton.mpr ⟨hlines.1.lineAt _, by simp⟩, ih hlines.2⟩
  | marked hline _ _ _ ih =>
      rw [List.forall_mem_cons] at hlines
      rw [Run.lines_after]
      have htarget := (hlines.1.lineAt _).mono
        (Directive.parse?_subset (parse?_of_directive? hline)).1
      exact List.forall_mem_append.mpr
        ⟨List.forall_mem_singleton.mpr ⟨hlines.1.lineAt _, by simpa using htarget⟩,
          ih hlines.2⟩
  | quoted hline _ _ hopen htext _ _ ih =>
      rw [List.forall_mem_cons] at hlines
      rw [Run.lines_after, written_inclusion, written_quote]
      exact List.forall_mem_append.mpr ⟨knownLine_quotedLines (parse?_of_directive? hline)
        (hlines.1.lineAt _) (knownText_textOf? (textOf?_eq_some_iff.mpr ⟨_, hopen, htext⟩)) _,
        ih hlines.2⟩
  | nested _ _ _ hopen _ _ hcomplete _ _ ihBody ihRest =>
      rw [List.forall_mem_cons] at hlines
      rw [Run.lines_after, written_inclusion]
      refine List.forall_mem_append.mpr ⟨ihBody ?_, ihRest hlines.2⟩
      obtain ⟨text, htext, heq⟩ := lines_of_complete hopen hcomplete
      rw [heq]
      exact (knownText_textOf? htext).splitLines

/-- A template that expands writes known lines. -/
theorem known_expand {template : Path} {output : Option Path}
    (hok : (s.expand template output).failure = none) :
    ∀ l ∈ (s.expand template output).lines, s.KnownLine l := by
  obtain ⟨text, body, htext, hbody, hokBody, hevents⟩ := expand_ok hok
  rw [Run.lines, hevents]
  exact hbody.known hokBody (knownText_textOf? htext).splitLines

/-! ## 4. The table of contents -/

theorem KnownText.link {h : Heading} (hknown : s.KnownText h.text) : s.KnownText h.link := by
  have hopen : s.KnownText ['['] := knownText_literal (by decide)
  have hmiddle : s.KnownText "](#".toList := knownText_literal (by decide)
  have hclose : s.KnownText [')'] := knownText_literal (by decide)
  exact (((hopen.append hknown).append hmiddle).append
    (knownText_of_ascii h.slug_ascii)).append hclose

theorem KnownText.item {h : Heading} (hknown : s.KnownText h.text) (top : Nat) :
    s.KnownText (Contents.item top h) := by
  have hindent : s.KnownText (List.replicate (2 * (h.level - top)) ' ') :=
    knownText_of_ascii fun c hc => by rw [List.eq_of_mem_replicate hc]; decide
  have hdash : s.KnownText ['-', ' '] := knownText_literal (by decide)
  exact hindent.append (hdash.append hknown.link)

theorem knownText_lineEnd (marker : Line) : s.KnownText (Contents.lineEnd marker) := by
  unfold Contents.lineEnd
  split <;> exact knownText_literal (by decide)

/-- The table of contents holds no characters but those of its title and of the headings, and
    ASCII. -/
theorem knownText_contents {marker : Line} {headings : List Heading} (hmarker : s.KnownLine marker)
    (hheadings : ∀ h ∈ headings, s.KnownText h.text) :
    s.KnownText (Contents.render marker headings) := by
  have htitle : s.KnownText (marker.title.getD []) := by
    cases htitle : marker.title with
    | none => exact knownText_literal (by decide)
    | some title => exact hmarker.title title htitle
  refine knownText_flatten fun t ht => ?_
  obtain ⟨row, hrow, rfl⟩ := List.mem_map.mp ht
  refine KnownText.append ?_ (knownText_lineEnd marker)
  rcases List.mem_cons.mp hrow with rfl | hrow
  · exact htitle.mono (Text.trim_subset _)
  · obtain ⟨h, hh, rfl⟩ := List.mem_map.mp hrow
    exact (hheadings h hh).item _

/-- **A page holds known characters only** if the lines of its document do. -/
theorem knownText_render {d : Document} {text : Text} (hlines : ∀ l ∈ d.lines, s.KnownLine l)
    (h : d.render = .ok text) : s.KnownText text := by
  have hheadings : ∀ h ∈ d.headings, s.KnownText h.text := by
    intro h hh
    obtain ⟨line, hline, hparse⟩ := List.mem_filterMap.mp hh
    obtain ⟨l, hl, rfl⟩ := List.mem_map.mp hline
    exact (hlines l (List.mem_of_mem_filter hl)).text.mono (Heading.text_subset hparse)
  unfold Document.render at h
  split at h
  · cases h
    refine knownText_flatten fun t ht => ?_
    obtain ⟨l, hl, rfl⟩ := List.mem_map.mp ht
    exact (hlines l hl).text
  · rename_i marker hmarkers
    have hmem : marker ∈ d.markers := hmarkers ▸ List.mem_cons_self
    have hmarker := hlines marker (List.mem_of_mem_filter hmem)
    simp only at h
    split at h
    · cases h
    · split at h
      · cases h
      · cases h
        refine knownText_flatten fun t ht => ?_
        obtain ⟨l, hl, rfl⟩ := List.mem_map.mp ht
        split
        · exact knownText_contents hmarker hheadings
        · exact (hlines l hl).text
  · cases h

end Setting

/-- **A page holds no characters but those of ASCII and of the files it was made from.** -/
theorem Assembler.knownText_page {a : Assembler} {s : Setting} {template : Path}
    {output : Option Path} {text : Text} (h : a.page (s.expand template output) = .ok text) :
    s.KnownText text := by
  unfold page at h
  split at h
  · cases h
  · rename_i hok
    refine Setting.knownText_render (fun l hl => ?_) h
    have hmem := (Document.replay_sublist (.empty a.tidy) _).subset hl
    exact Setting.known_expand hok l hmem

/-! ## 5. Encoding what was decoded -/

/-- The character with the number of a byte has that number. -/
theorem toNat_ofNat_byte (b : UInt8) : (Char.ofNat b.toNat).toNat = b.toNat := by
  have hvalid : b.toNat.isValidChar := Or.inl (by have := b.toNat_lt; omega)
  rw [Char.ofNat, dif_pos hvalid]
  rfl

namespace Encoding

/-- The encoding has every character that it decodes. -/
theorem charBytes?_of_step {e : Encoding} {state state' : State} {b : UInt8} {c : Char}
    (h : e.step state b = some (state', some c)) : (e.charBytes? c).isSome = true := by
  cases e with
  | utf8 => rfl
  | utf8Signature => rfl
  | latin1 =>
      cases h
      have hb := b.toNat_lt
      have hc : (Char.ofNat b.toNat).toNat < 0x100 := by rw [toNat_ofNat_byte]; omega
      simp [charBytes?, hc]
  | ascii =>
      unfold step at h
      simp only at h
      split at h
      · rename_i hb
        cases h
        have hc : (Char.ofNat b.toNat).toNat < 0x80 := by rw [toNat_ofNat_byte]; exact hb
        simp [charBytes?, hc]
      · cases h

theorem charBytes?_of_ascii (e : Encoding) {c : Char} (h : c.toNat < 128) :
    (e.charBytes? c).isSome = true := by
  have hlatin : c.toNat < 0x100 := by omega
  cases e <;> simp [charBytes?, h, hlatin]

/-- Reading on keeps the characters such that the encoding has them. -/
theorem charBytes?_of_foldl_feed {e : Encoding} (bytes : List UInt8) :
    ∀ {state state' : State} {out text : Text},
      bytes.foldl e.feed (some (state, out)) = some (state', text) →
      (∀ c ∈ out, (e.charBytes? c).isSome = true) →
      ∀ c ∈ text, (e.charBytes? c).isSome = true := by
  induction bytes with
  | nil =>
      intro state state' out text h hout
      cases h
      exact hout
  | cons b rest ih =>
      intro state state' out text h hout
      rw [List.foldl_cons] at h
      cases hstep : e.step state b with
      | none => simp [feed, hstep, foldl_feed_none] at h
      | some next =>
          obtain ⟨state₁, c?⟩ := next
          have hfeed : e.feed (some (state, out)) b = some (state₁, c?.toList ++ out) := by
            simp [feed, hstep]
          rw [hfeed] at h
          refine ih h (List.forall_mem_append.mpr ⟨fun c hc => ?_, hout⟩)
          cases c? with
          | none => simp at hc
          | some c' =>
              rw [List.mem_singleton.mp hc]
              exact charBytes?_of_step hstep

/-- **What was decoded can be encoded**, character by character. -/
theorem charBytes?_of_decode {e : Encoding} {bytes : List UInt8} {text : Text}
    (h : e.decode bytes = some text) : ∀ c ∈ text, (e.charBytes? c).isSome = true := by
  obtain ⟨state, hrun, -⟩ := decode_eq_some_iff.mp h
  obtain ⟨⟨state', out⟩, hfold, heq⟩ := Option.map_eq_some_iff.mp hrun
  cases heq
  intro c hc
  exact charBytes?_of_foldl_feed bytes hfold (by simp) c (List.mem_reverse.mp hc)

/-- **A text can be encoded** if the encoding has each of its characters. -/
theorem encode?_isSome {e : Encoding} {text : Text}
    (h : ∀ c ∈ text, (e.charBytes? c).isSome = true) : ∃ bytes, e.encode? text = some bytes := by
  have hparts : ∃ parts, text.mapM e.charBytes? = some parts := by
    induction text with
    | nil => exact ⟨[], rfl⟩
    | cons c rest ih =>
        rw [List.forall_mem_cons] at h
        obtain ⟨bytes, hbytes⟩ := Option.isSome_iff_exists.mp h.1
        obtain ⟨parts, hparts⟩ := ih h.2
        exact ⟨bytes :: parts, by simp [List.mapM_cons, hbytes, hparts]⟩
  obtain ⟨parts, hparts⟩ := hparts
  exact ⟨e.mark ++ parts.flatten, by simp [encode?, hparts]⟩
end Encoding

/-- A known text can be encoded in the encoding of the files. -/
theorem Setting.KnownText.encode?_isSome {s : Setting} {text : Text} (h : s.KnownText text)
    {e : Encoding} (he : Encoding.ofName? s.encoding = some e) :
    ∃ bytes, e.encode? text = some bytes := by
  refine Encoding.encode?_isSome fun c hc => ?_
  rcases h c hc with hascii | ⟨p, text', htext, hmem⟩
  · exact e.charBytes?_of_ascii hascii
  · obtain ⟨source, hopen, hdecode⟩ := textOf?_eq_some_iff.mp htext
    obtain ⟨-, -, hname⟩ := Source.ofPath_eq_ok_iff.mp hopen
    have hsame : source.encoding = e := Option.some.inj (hname.symm.trans he)
    exact hsame ▸ Encoding.charBytes?_of_decode hdecode c hmem

end MarkdownTemplate
