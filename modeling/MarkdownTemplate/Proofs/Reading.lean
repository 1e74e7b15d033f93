import MarkdownTemplate.Expansion

/-!
# Reading whole files

A line reader and a reader of whole texts see the same file. This file fixes

* `Source.ofPath_eq_ok_iff` -- when a file can be opened as text;
* `Encoding.firstBad?_eq_none_iff` -- the search for a bad byte and the decoder agree;
* `Source.reading_complete_iff`, `Source.reading_of_text` -- the line reader comes to the end of a
  file exactly if the file decodes, and then it has seen every line of its text;
* `Setting.textOf?` -- the text of the file at a path; `Setting.lines_of_complete`,
  `Setting.opened_of_text` -- what a line reader makes of it.
-/

namespace MarkdownTemplate

/-! ## 1. Opening -/

namespace FileTree

/-- A file can be read exactly if it is there and may be opened. -/
theorem read_eq_ok_iff {t : FileTree} {p : Path} {content : List UInt8} :
    t.read p = .ok content ↔
      ∃ f, t.file? p = some f ∧ f.readable = true ∧ f.opens = true ∧ f.content = content := by
  unfold read
  cases hnull : hasNoNull p with
  | false =>
      -- a path with a null character names no file
      have hfile : t.file? p = none := by simp [file?, hindrance?, hnull]
      simp [hfile]
  | true =>
      cases t.file? p with
      | none => simp
      | some f =>
          by_cases h : f.readable = true ∧ f.opens = true
          · simp [h]
          · simp only [Bool.and_eq_true, if_neg h]
            simpa using fun hr ho => absurd ⟨hr, ho⟩ h

end FileTree

namespace Source

/-- A file can be opened as text exactly if it can be read and its encoding is known. -/
theorem ofPath_eq_ok_iff {tree : FileTree} {encoding : Text} {p : Path} {source : Source} :
    ofPath tree encoding p = .ok source ↔
      encoding.hasNull = false ∧ tree.read p = .ok source.content ∧
        Encoding.ofName? encoding = some source.encoding := by
  unfold ofPath
  cases encoding.hasNull with
  | true => simp
  | false =>
      cases tree.read p with
      | error fault => cases fault <;> simp
      | ok content =>
          cases Encoding.ofName? encoding with
          | none => simp
          | some e =>
              obtain ⟨e', content'⟩ := source
              simp [and_comm]

end Source

/-! ## 2. Decoding -/

namespace Encoding

theorem foldl_feed_none (e : Encoding) (bytes : List UInt8) : bytes.foldl e.feed none = none := by
  induction bytes with
  | nil => rfl
  | cons b rest ih => exact ih

/-- The search for a bad byte, from any state, finds one exactly if decoding fails from there. -/
theorem firstBadFrom_eq_none_iff (e : Encoding) (bytes : List UInt8) :
    ∀ (state : State) (i : Nat) (out : Text), e.firstBadFrom state i bytes = none ↔
      (bytes.foldl e.feed (some (state, out))).isSome = true := by
  induction bytes with
  | nil => simp [firstBadFrom]
  | cons b rest ih =>
      intro state i out
      rw [List.foldl_cons]
      cases hstep : e.step state b with
      | none => simp [firstBadFrom, feed, hstep, foldl_feed_none]
      | some next =>
          obtain ⟨state', c⟩ := next
          simpa [firstBadFrom, feed, hstep] using ih state' (i + 1) (c.toList ++ out)

/-- **There is no bad byte exactly if decoding comes to the end.** -/
theorem firstBad?_eq_none_iff {e : Encoding} {bytes : List UInt8} :
    e.firstBad? bytes = none ↔ (e.run bytes).isSome = true := by
  rw [firstBad?, firstBadFrom_eq_none_iff e bytes e.start 0 [], run, Option.isSome_map]

theorem decode_eq_some_iff {e : Encoding} {bytes : List UInt8} {text : Text} :
    e.decode bytes = some text ↔
      ∃ state, e.run bytes = some (state, text) ∧ state.mayEnd = true := by
  unfold decode
  constructor
  · intro h
    split at h
    · rename_i state text' hrun
      split at h
      · rename_i hend
        cases h
        exact ⟨state, hrun, hend⟩
      · cases h
    · cases h
  · intro h
    obtain ⟨state, hrun, hend⟩ := h
    simp only [hrun, hend, ↓reduceIte]

end Encoding

namespace Source

/-- **The line reader of a file that decodes** sees every line of its text and comes to the end. -/
theorem reading_of_text {source : Source} {text : Text} (h : source.text? = some text) :
    source.reading = ⟨Text.splitLines Text.isLineEnd text, true⟩ := by
  obtain ⟨state, hrun, hend⟩ := Encoding.decode_eq_some_iff.mp h
  have hbad : source.encoding.firstBad? source.content = none :=
    Encoding.firstBad?_eq_none_iff.mpr (by simp [hrun])
  simp [reading, hbad, hrun, hend]

/-- The line reader comes to the end of a file exactly if the file decodes. -/
theorem reading_complete_iff {source : Source} :
    source.reading.complete = true ↔ ∃ text, source.text? = some text := by
  constructor
  · intro h
    unfold reading at h
    split at h
    · cases h
    · split at h
      · rename_i state text hrun
        split at h
        · rename_i hend
          exact ⟨text, Encoding.decode_eq_some_iff.mpr ⟨state, hrun, hend⟩⟩
        · cases h
      · cases h
  · intro h
    obtain ⟨text, h⟩ := h
    rw [reading_of_text h]

end Source

/-! ## 3. Texts of files -/

/-- The text of the file at a path; nothing if it cannot be opened or does not decode. -/
def Setting.textOf? (s : Setting) (p : Path) : Option Text :=
  match Source.ofPath s.tree s.encoding p with
  | .ok source => source.text?
  | .error _ => none

theorem Setting.textOf?_eq_some_iff {s : Setting} {p : Path} {text : Text} :
    s.textOf? p = some text ↔
      ∃ source, Source.ofPath s.tree s.encoding p = .ok source ∧ source.text? = some text := by
  unfold textOf?
  cases Source.ofPath s.tree s.encoding p <;> simp

/-- **What a line reader sees of a file that it reads to its end** are the lines of its text. -/
theorem Setting.lines_of_complete {s : Setting} {p : Path} {source : Source}
    (hopen : Source.ofPath s.tree s.encoding p = .ok source)
    (hcomplete : source.reading.complete = true) :
    ∃ text, s.textOf? p = some text ∧
      source.reading.lines = Text.splitLines Text.isLineEnd text := by
  obtain ⟨text, htext⟩ := Source.reading_complete_iff.mp hcomplete
  exact ⟨text, textOf?_eq_some_iff.mpr ⟨source, hopen, htext⟩, by rw [Source.reading_of_text htext]⟩

/-- A file that has a text can be opened, and a line reader comes to its end. -/
theorem Setting.opened_of_text {s : Setting} {p : Path} (h : (s.textOf? p).isSome = true) :
    ∃ source text, Source.ofPath s.tree s.encoding p = .ok source ∧ source.text? = some text ∧
      source.reading.complete = true := by
  obtain ⟨text, htext⟩ := Option.isSome_iff_exists.mp h
  obtain ⟨source, hopen, hsource⟩ := textOf?_eq_some_iff.mp htext
  exact ⟨source, text, hopen, hsource, Source.reading_complete_iff.mpr ⟨text, hsource⟩⟩

/-- A file that holds a text of ASCII characters. -/
def File.ofAscii (s : String) : File :=
  { content := s.toList.map fun c => UInt8.ofNat c.toNat }

end MarkdownTemplate
