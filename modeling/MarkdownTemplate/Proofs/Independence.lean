import Mathlib.Data.List.Induction
import MarkdownTemplate.Proofs.CanonicalPaths
import MarkdownTemplate.Proofs.Reading
import MarkdownTemplate.Session

/-!
# Assembling with one assembler again and again

A session has one assembler, and calls come one after another: some fail, the option is set, files
change and the working directory moves. This file says what of all that a later call can notice. It
fixes

* `Request.tidy?`, `tidyAfter` -- the value of the option after some requests: the last one that was
  not refused;
* `Session.perform_assembler` -- **what one request does to the assembler**: it sets the option;
* `Session.performAll_assembler` -- what a whole session does to it;
* `Assembler.ofOptions_renewed` -- an assembler can be made anew wherever the working directory is,
  since its root is kept as a path that denotes the same everywhere;
* **`calls_independent`** -- every call does what a new assembler would do.
-/

namespace MarkdownTemplate

/-! ## 1. The option -/

/-- The value that a request gives to the option, if it is about the option and is not refused. -/
def Request.tidy? : Request → Option Bool
  | .setTidy value => value.truth?
  | _ => none

/-- **The value of the option after some requests**: the last one that was not refused, or `start`
    if there is none. -/
def tidyAfter (start : Bool) (requests : List Request) : Bool :=
  ((requests.filterMap Request.tidy?).getLast?).getD start

theorem tidyAfter_concat (start : Bool) (requests : List Request) (r : Request) :
    tidyAfter start (requests ++ [r]) = r.tidy?.getD (tidyAfter start requests) := by
  rw [tidyAfter, List.filterMap_append]
  cases htidy : r.tidy? with
  | none => simp [htidy, tidyAfter]
  | some tidy => simp [htidy]

/-! ## 2. The assembler of a session -/

namespace Session

/-- **What one request does to the assembler.** A request about the option sets it, unless the value
    is refused; no other request changes anything, whatever error it meets. -/
theorem perform_assembler (s : Session) (r : Request) :
    (s.perform r).1.assembler =
      { s.assembler with tidy := r.tidy?.getD s.assembler.tidy } := by
  cases r with
  | setTidy value =>
      cases htruth : value.truth? with
      | none =>
          simp [perform, Assembler.withTidy, Assembler.tidyOf, Request.tidy?, htruth, Except.map]
      | some tidy =>
          simp [perform, Assembler.withTidy, Assembler.tidyOf, Request.tidy?, htruth, Except.map]
  | assemble => rfl
  | putFile => rfl
  | removeFile => rfl
  | changeDirectory => rfl

theorem performAll_concat (s : Session) (requests : List Request) (r : Request) :
    s.performAll (requests ++ [r]) = ((s.performAll requests).perform r).1 := by
  rw [performAll, List.foldl_append]
  rfl

/-- **What a whole session does to the assembler.** -/
theorem performAll_assembler (s : Session) (requests : List Request) :
    (s.performAll requests).assembler =
      { s.assembler with tidy := tidyAfter s.assembler.tidy requests } := by
  induction requests using List.reverseRecOn with
  | nil => rfl
  | append_singleton requests r ih =>
      rw [performAll_concat, perform_assembler, ih, tidyAfter_concat]

end Session

/-! ## 3. A new assembler -/

namespace Assembler

variable {settings : Settings} {cwd : Path} {options : List (Text × Value)} {root : Option Text}
  {encoding : Text} {a : Assembler}

/-- Given the value of its option, an assembler is made whatever the environment says. -/
theorem ofOptions_truth (settings : Settings) (cwd : Path) (tidy : Bool) (root : Option Text)
    (encoding : Text) :
    ofOptions settings cwd [(tidyName, .truth tidy)] root encoding =
      .ok ⟨tidy, root.map (Path.absolute cwd), encoding⟩ := rfl

/-- **What an assembler is made of**: its root is looked up once, when it is made. -/
theorem ofOptions_eq_ok (h : ofOptions settings cwd options root encoding = .ok a) :
    a.root = root.map (Path.absolute cwd) ∧ a.encoding = encoding := by
  unfold ofOptions at h
  split at h
  · cases h
  · cases hlookup : options.lookup tidyName with
    | none =>
        rw [hlookup] at h
        cases h
        exact ⟨rfl, rfl⟩
    | some value =>
        rw [hlookup] at h
        cases htidy : tidyOf value with
        | error e => simp [htidy, Except.map] at h
        | ok tidy =>
            simp only [htidy, Except.map, Except.ok.injEq] at h
            subst h
            exact ⟨rfl, rfl⟩

/-- **The root of an assembler can be given again**, in any working directory: as a text it denotes
    the same path everywhere. -/
theorem root_renewed (hcwd : cwd.Canonical)
    (h : ofOptions settings cwd options root encoding = .ok a) (cwd' : Path) :
    (a.root.map Path.text).map (Path.absolute cwd') = a.root := by
  rw [(ofOptions_eq_ok h).1]
  cases root with
  | none => rfl
  | some r => exact congrArg some (Path.absolute_text (Path.canonical_absolute hcwd r) cwd')

/-- **An assembler can be made anew**, in any working directory and under any settings, from the
    value of its option, the text of its root and its encoding. -/
theorem ofOptions_renewed (hcwd : cwd.Canonical)
    (h : ofOptions settings cwd options root encoding = .ok a) (settings' : Settings) (cwd' : Path)
    (tidy : Bool) :
    ofOptions settings' cwd' [(tidyName, .truth tidy)] (a.root.map Path.text) encoding =
      .ok { a with tidy } := by
  rw [ofOptions_truth, root_renewed hcwd h, (ofOptions_eq_ok h).2]

end Assembler

/-! ## 4. Calls -/

/-- **Calls do not depend on each other.** Let an assembler be made, and let a session with it go
    through any requests: assemblies that succeed or fail, values of the option that are accepted or
    refused, changes of files and of the working directory. Make a new assembler then, there and
    under whatever settings, with the value of the option that was accepted last, the root that the
    first assembler found and the same encoding. Whatever is assembled next, the session leaves the
    tree, the log and the error that the new assembler does. -/
theorem calls_independent {settings : Settings} {cwd : Path} (hcwd : cwd.Canonical)
    {options : List (Text × Value)} {root : Option Text} {encoding : Text} {a : Assembler}
    (hmade : Assembler.ofOptions settings cwd options root encoding = .ok a) (place : Place)
    (requests : List Request) (settings' : Settings) :
    let s := Session.performAll ⟨a, place⟩ requests
    s.assembler.tidy = tidyAfter a.tidy requests ∧
    ∃ fresh, Assembler.ofOptions settings' s.place.cwd
        [(Assembler.tidyName, .truth (tidyAfter a.tidy requests))] (a.root.map Path.text)
        encoding = .ok fresh ∧
      ∀ verb template output,
        let outcome := fresh.assemble verb s.place template output
        s.assembler.assemble verb s.place template output = outcome ∧
        s.perform (.assemble verb template output) =
          (s.withTree outcome.tree, outcome.failure) := by
  intro s
  have hassembler : s.assembler = { a with tidy := tidyAfter a.tidy requests } :=
    Session.performAll_assembler ⟨a, place⟩ requests
  have hfresh := Assembler.ofOptions_renewed hcwd hmade settings' s.place.cwd
    (tidyAfter a.tidy requests)
  rw [← hassembler] at hfresh
  refine ⟨by rw [hassembler], s.assembler, hfresh, fun verb template output => ?_⟩
  exact ⟨rfl, rfl⟩

/-- A template in a directory, which quotes one file and cites another one that is missing. -/
def hopeful : Place :=
  ⟨⟨[([['w'], ['t']], .ofAscii "@[pre](q)\n@[markdown](m)\n"), ([['w'], ['q']], .ofAscii "x\n")],
    [([], true), ([['w']], true)]⟩, ⟨.root, [['w']]⟩⟩

/-- What happens before the template is assembled with success: it fails right behind the file that
    it quotes; one value is accepted and another one refused; the missing file is put in place; and
    the working directory moves. -/
def mishaps : List Request :=
  [.assemble .includeFiles "t".toList "o".toList, .setTidy (.text "yes".toList),
    .setTidy (.text "maybe".toList), .putFile "m".toList (.ofAscii "y\n"),
    .changeDirectory "../v".toList]

/-- After the mishaps the assembler does what a new one does, made where the session has moved. -/
theorem calls_independent_mishaps :
    let a : Assembler := ⟨false, some ⟨.root, [['w'], ['r']]⟩, "ascii".toList⟩
    let s := Session.performAll ⟨a, hopeful⟩ mishaps
    Path.Canonical ⟨.root, [['w']]⟩ ∧
    Assembler.ofOptions .standard ⟨.root, [['w']]⟩ [] (some ['r']) "ascii".toList = .ok a ∧
    (Session.perform ⟨a, hopeful⟩ (.assemble .includeFiles "t".toList "o".toList)).2.isSome = true ∧
    s.place.cwd = ⟨.root, [['v']]⟩ ∧
    (∃ fresh, Assembler.ofOptions .standard s.place.cwd [(Assembler.tidyName, .truth true)]
        (some "/w/r".toList) "ascii".toList = .ok fresh ∧
      ∀ template output, s.perform (.assemble .includeFiles template output) =
        let outcome := fresh.assemble .includeFiles s.place template output
        (s.withTree outcome.tree, outcome.failure)) ∧
    (s.perform (.assemble .includeFiles "/w/t".toList "o".toList)).2 = none := by
  intro a s
  have hcwd : Path.Canonical ⟨.root, [['w']]⟩ := Path.canonical_ofText (s := ['/', 'w']) rfl
  have hmade : Assembler.ofOptions .standard ⟨.root, [['w']]⟩ [] (some ['r']) "ascii".toList =
      .ok a := by decide +kernel
  have hlast : tidyAfter a.tidy mishaps = true := by decide +kernel
  have hroot : a.root.map Path.text = some "/w/r".toList := by decide +kernel
  obtain ⟨-, fresh, hfresh, hcalls⟩ := calls_independent hcwd hmade hopeful mishaps .standard
  rw [hlast, hroot] at hfresh
  have hfails : (Session.perform ⟨a, hopeful⟩
      (.assemble .includeFiles "t".toList "o".toList)).2.isSome = true := by decide +kernel
  have hmoved : s.place.cwd = ⟨.root, [['v']]⟩ := by decide +kernel
  have hok : (s.perform (.assemble .includeFiles "/w/t".toList "o".toList)).2 = none :=
    Option.isNone_iff_eq_none.mp (by decide +kernel)
  exact ⟨hcwd, hmade, hfails, hmoved, ⟨fresh, hfresh, fun template output =>
    (hcalls .includeFiles template output).2⟩, hok⟩

end MarkdownTemplate
