import MarkdownTemplate.Proofs.Characters

/-!
# All or nothing

The output is emptied before it is written, so whatever can go wrong must go wrong before. This
file fixes

* `FileTree.lookup_store` -- storing changes one file;
* `Assembler.write_page` -- a page that is complete is written or the tree is left alone;
* `Assembler.assemble_cases` -- an assembly either fails and leaves the tree alone, or stores the
  page;
* **`assemble_all_or_nothing`** -- an assembly that fails changes no file, and one that succeeds
  changes the output alone.
-/

namespace MarkdownTemplate

/-! ## 1. Storing -/

namespace FileTree

variable {t : FileTree} {p : Path} {content : List UInt8}

@[simp] theorem store_directories : (t.store p content).directories = t.directories := rfl

/-- **Storing changes one file**, and of that one the content. -/
theorem lookup_store (location : Location) :
    (t.store p content).files.lookup location =
      if location = p.names then
        some { (t.files.lookup p.names).getD { content } with content }
      else t.files.lookup location := by
  unfold store
  rw [lookup_put]
  cases t.files.lookup p.names <;> rfl

/-- Where names lead depends on the directories alone. -/
theorem walkHindrance?_congr {t' : FileTree} (h : t'.directories = t.directories)
    (location : Location) (names : List Text) :
    t'.walkHindrance? location names = t.walkHindrance? location names := by
  induction names generalizing location with
  | nil => rfl
  | cons name names ih => rw [walkHindrance?, walkHindrance?, stepHindrance?, stepHindrance?, h, ih]

theorem hindrance?_store (q : Path) : (t.store p content).hindrance? q = t.hindrance? q := by
  rw [hindrance?, hindrance?, walkHindrance?_congr store_directories]

/-- What is stored at a path that can be followed is found there. -/
theorem file?_store (h : t.hindrance? p = none) :
    ∃ f, (t.store p content).file? p = some f ∧ f.content = content := by
  rw [file?, hindrance?_store, if_pos h, lookup_store, if_pos rfl]
  exact ⟨_, rfl, rfl⟩

/-- A path that can be opened for writing can be followed. -/
theorem hindrance?_of_checkWrite (h : t.checkWrite p = none) : t.hindrance? p = none := by
  unfold checkWrite at h
  split at h
  · cases h
  · split at h
    · rename_i f hfile
      exact (file?_eq_some_iff.mp hfile).1
    · split at h
      · rename_i hall
        exact hall.1
      · cases h

end FileTree

/-! ## 2. Assembling, case by case -/

namespace Assembler

variable {a : Assembler} {verb : Verb} {w : Place} {template output : Text}

/-- The run of an assembly, on the tree as it was before. -/
def runOf (a : Assembler) (verb : Verb) (w : Place) (template output : Text) : Run :=
  (a.setting verb w).expand (Path.absolute w.cwd template) (some (Path.absolute w.cwd output))

/-- A page comes from a run that nothing stopped. -/
theorem ok_of_page {run : Run} {text : Text} (h : a.page run = .ok text) : run.failure = none := by
  unfold page at h
  split at h
  · cases h
  · assumption

/-- Where a template was expanded the encoding is known. -/
theorem encoding_of_page {text : Text} (h : a.page (a.runOf verb w template output) = .ok text) :
    ∃ e, Encoding.ofName? a.encoding = some e := by
  obtain ⟨text, -, htext, -⟩ := Setting.expand_ok (ok_of_page h)
  obtain ⟨source, hopen, -⟩ := Setting.textOf?_eq_some_iff.mp htext
  exact ⟨_, (Source.ofPath_eq_ok_iff.mp hopen).2.2⟩

/-- **A page is written unless the output cannot be opened**, and then the tree is left alone. -/
theorem write_page {text : Text} (h : a.page (a.runOf verb w template output) = .ok text)
    (tree : FileTree) (target : Path) :
    (∃ e, tree.checkWrite target ≠ none ∧ e ≠ .unencodable ∧
      a.write tree target text = (tree, some e)) ∨
    ∃ e bytes, tree.checkWrite target = none ∧ Encoding.ofName? a.encoding = some e ∧
      e.encode? text = some bytes ∧ a.write tree target text = (tree.store target bytes, none) := by
  obtain ⟨e, he⟩ := encoding_of_page h
  obtain ⟨bytes, hbytes⟩ := (knownText_page h).encode?_isSome he
  cases hcheck : tree.checkWrite target with
  | none => exact Or.inr ⟨e, bytes, rfl, he, hbytes, by simp only [write, hcheck, he, hbytes]⟩
  | some fault =>
      refine Or.inl ?_
      cases fault with
      | nullCharacter => exact ⟨.nullCharacter, by simp, by simp, by simp only [write, hcheck]⟩
      | refused =>
          exact ⟨.unwritableOutput target, by simp, by simp, by simp only [write, hcheck]⟩

theorem assemble_of_inaccessible {e : Error}
    (h : inaccessible? w.tree (Path.absolute w.cwd template) (Path.absolute w.cwd output) =
      some e) :
    a.assemble verb w template output = ⟨w.tree, [], some e⟩ := by
  simp only [assemble, h]

section Accessible

variable (haccess : inaccessible? w.tree (Path.absolute w.cwd template)
  (Path.absolute w.cwd output) = none)

include haccess

theorem assemble_of_error {e : Error} (h : a.page (a.runOf verb w template output) = .error e) :
    a.assemble verb w template output =
      ⟨w.tree, records (a.runOf verb w template output), some e⟩ := by
  unfold runOf at *
  simp only [assemble, haccess, h]

theorem assemble_of_unwritten {text : Text} {e : Error}
    (h : a.page (a.runOf verb w template output) = .ok text)
    (hwrite : a.write w.tree (Path.absolute w.cwd output) text = (w.tree, some e)) :
    a.assemble verb w template output =
      ⟨w.tree, records (a.runOf verb w template output), some e⟩ := by
  unfold runOf at *
  simp only [assemble, haccess, h, hwrite]

theorem assemble_of_written {text : Text} {tree : FileTree}
    (h : a.page (a.runOf verb w template output) = .ok text)
    (hwrite : a.write w.tree (Path.absolute w.cwd output) text = (tree, none)) :
    a.assemble verb w template output =
      ⟨tree, records (a.runOf verb w template output) ++
        [assembled (Path.absolute w.cwd template) (Path.absolute w.cwd output)], none⟩ := by
  unfold runOf at *
  simp only [assemble, haccess, h, hwrite]

end Accessible

/-- **What an assembly can do**: it fails and leaves the tree alone, or it stores the page. -/
theorem assemble_cases (a : Assembler) (verb : Verb) (w : Place) (template output : Text) :
    (∃ e, (a.assemble verb w template output).failure = some e ∧
      (a.assemble verb w template output).tree = w.tree) ∨
    ∃ e text bytes,
      inaccessible? w.tree (Path.absolute w.cwd template) (Path.absolute w.cwd output) = none ∧
      a.page (a.runOf verb w template output) = .ok text ∧
      w.tree.checkWrite (Path.absolute w.cwd output) = none ∧
      Encoding.ofName? a.encoding = some e ∧ e.encode? text = some bytes ∧
      (a.assemble verb w template output).failure = none ∧
      (a.assemble verb w template output).tree =
        w.tree.store (Path.absolute w.cwd output) bytes := by
  cases haccess : inaccessible? w.tree (Path.absolute w.cwd template)
      (Path.absolute w.cwd output) with
  | some e =>
      rw [assemble_of_inaccessible haccess]
      exact Or.inl ⟨e, rfl, rfl⟩
  | none =>
      cases hpage : a.page (a.runOf verb w template output) with
      | error e =>
          rw [assemble_of_error haccess hpage]
          exact Or.inl ⟨e, rfl, rfl⟩
      | ok text =>
          rcases write_page hpage w.tree (Path.absolute w.cwd output) with
            ⟨e, -, -, hwrite⟩ | ⟨e, bytes, hcheck, he, hbytes, hwrite⟩
          · rw [assemble_of_unwritten haccess hpage hwrite]
            exact Or.inl ⟨e, rfl, rfl⟩
          · rw [assemble_of_written haccess hpage hwrite]
            exact Or.inr ⟨e, text, bytes, rfl, rfl, hcheck, he, hbytes, rfl, rfl⟩

/-! ## 3. All or nothing -/

/-- **An assembly does all or nothing**, whichever way it is asked for and whatever the output is
    -- a new file, the template itself, or a file that it includes. If it fails, the tree is as it
    was. If it succeeds, the output holds the page that was made from the tree as it was before,
    encoded, with the mark of the encoding in front even if the page is empty; nothing else has
    changed. A page holds no characters but those of ASCII and of the files, so writing it never
    fails for a character that the encoding lacks. -/
theorem assemble_all_or_nothing (a : Assembler) (verb : Verb) (w : Place)
    (template output : Text) :
    let out := a.assemble verb w template output
    let target := Path.absolute w.cwd output
    let page := a.page (a.runOf verb w template output)
    (∀ e, out.failure = some e → out.tree = w.tree) ∧
    (out.failure = none → ∃ encoding text bytes f,
      Encoding.ofName? a.encoding = some encoding ∧ page = .ok text ∧
      encoding.encode? text = some bytes ∧ encoding.mark <+: bytes ∧
      out.tree.file? target = some f ∧ f.content = bytes ∧
      (∀ location, location ≠ target.names →
        out.tree.files.lookup location = w.tree.files.lookup location) ∧
      out.tree.directories = w.tree.directories) ∧
    ∀ text, page = .ok text → (∀ c ∈ text, (a.setting verb w).Known c) ∧
      (a.write w.tree target text).2 ≠ some .unencodable := by
  intro out target page
  refine ⟨fun e he => ?_, fun hok => ?_, fun text hpage => ⟨knownText_page hpage, ?_⟩⟩
  · rcases a.assemble_cases verb w template output with
      ⟨-, -, htree⟩ | ⟨-, -, -, -, -, -, -, -, hok, -⟩
    · exact htree
    · cases he.symm.trans hok
  · rcases a.assemble_cases verb w template output with
      ⟨e, he, -⟩ | ⟨e, text, bytes, -, hpage, hcheck, hname, hbytes, -, htree⟩
    · cases he.symm.trans hok
    · obtain ⟨f, hf, hcontent⟩ : ∃ f, (w.tree.store target bytes).file? target = some f ∧
          f.content = bytes := FileTree.file?_store (FileTree.hindrance?_of_checkWrite hcheck)
      obtain ⟨parts, -, hparts⟩ := Option.map_eq_some_iff.mp hbytes
      refine ⟨e, text, bytes, f, hname, hpage, hbytes, hparts ▸ List.prefix_append .., ?_,
        hcontent, fun location hother => ?_, ?_⟩
      · exact htree ▸ hf
      · show (a.assemble verb w template output).tree.files.lookup location = _
        rw [htree, FileTree.lookup_store, if_neg hother]
      · show (a.assemble verb w template output).tree.directories = _
        rw [htree, FileTree.store_directories]
  · rcases write_page hpage w.tree target with ⟨e, -, hne, hwrite⟩ | ⟨e, bytes, -, -, -, hwrite⟩
    · rw [hwrite]
      exact fun h => hne (Option.some.inj h)
    · simp [hwrite]

/-- An empty template in the root, which is the working directory. -/
def blankPlace : Place :=
  ⟨⟨[([['t']], .ofAscii "")], [([], true)]⟩, ⟨.root, []⟩⟩

/-- The assembler for an encoding that marks its files. -/
def marking : Assembler :=
  ⟨false, none, "utf-8-sig".toList⟩

/-- The empty template becomes a file, and a template that is not there changes nothing. -/
theorem assemble_all_or_nothing_blank :
    (∃ f, (marking.assemble .includeFiles blankPlace ['t'] ['o']).tree.file? ⟨.root, [['o']]⟩ =
      some f ∧ Encoding.utf8Signature.mark <+: f.content) ∧
    (marking.assemble .includeFiles blankPlace ['s'] ['o']).tree = blankPlace.tree := by
  constructor
  · obtain ⟨-, hdone, -⟩ := assemble_all_or_nothing marking .includeFiles blankPlace ['t'] ['o']
    obtain ⟨e, text, bytes, f, he, -, -, hmark, hf, hcontent, -⟩ := hdone (by decide +kernel)
    have hname : Encoding.ofName? marking.encoding = some .utf8Signature := by decide +kernel
    have hsame : e = .utf8Signature := Option.some.inj (he.symm.trans hname)
    have htarget : Path.absolute blankPlace.cwd ['o'] = ⟨.root, [['o']]⟩ := by decide
    rw [htarget] at hf
    exact ⟨f, hf, by rw [hcontent, ← hsame]; exact hmark⟩
  · exact (assemble_all_or_nothing marking .includeFiles blankPlace ['s'] ['o']).1
      (.unreadableTemplate ⟨.root, [['s']]⟩) (by decide +kernel)

/-- The mark stands in front of an empty page, too: what an assembly writes is not the encoded
    page if that is to be without a mark when the page is empty. -/
theorem empty_page_marked :
    ¬ ∀ (a : Assembler) (verb : Verb) (w : Place) (template output text : Text),
      (a.assemble verb w template output).failure = none →
      a.page (a.runOf verb w template output) = .ok text →
      ∃ e f, Encoding.ofName? a.encoding = some e ∧
        (a.assemble verb w template output).tree.file? (Path.absolute w.cwd output) = some f ∧
        (if text = [] then some [] else e.encode? text) = some f.content := by
  intro h
  obtain ⟨e, f, -, hf, hcontent⟩ := h marking .includeFiles blankPlace ['t'] ['o'] []
    (by decide +kernel) (by decide +kernel)
  have hmarked : ((marking.assemble .includeFiles blankPlace ['t'] ['o']).tree.file?
      (Path.absolute blankPlace.cwd ['o'])).map File.content =
        some Encoding.utf8Signature.mark := by decide +kernel
  rw [hf, Option.map_some, ← hcontent] at hmarked
  cases hmarked

end Assembler

end MarkdownTemplate
