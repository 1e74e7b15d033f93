import Mathlib.Data.List.Forall2
import MarkdownTemplate.Proofs.Backtrace
import MarkdownTemplate.Proofs.CanonicalPaths
import MarkdownTemplate.Proofs.DirectiveGrammar

/-!
# Moving a directory

Let the files below one directory stand below another one, too, perhaps in another tree, and let a
template below it cite nothing that is not below it. This file compares the runs of the template in
both places. It fixes

* `Path.walk?`, `Path.StaysBelow` -- a cited path, taken step by step from the directory of the file
  that cites it, and that no step leads out of a directory (`Path.staysBelow_iff`);
* `Path.Moved` -- two paths at the same place below two directories; `Path.Moved.resolve`,
  `Path.Moved.display` -- what is cited from them, and how messages show them;
* `Setting.SameBelow` -- the files below the two directories are the same;
* `Run.Moved` -- **the relation between the runs**: the same events, at moved paths;
* `Setting.Expands.moved` -- what runs in one place has a run in the other;
* **`expand_moved`** -- both write the same lines, fail alike and say the same about it.
-/

namespace MarkdownTemplate

namespace Path

variable {dir dir' p p' q q' : Path} {names passed final : List Text} {target : Text}

/-! ## 1. Walks -/

/-- The path that leads from a directory through further names. -/
def below (dir : Path) (names : List Text) : Path :=
  ⟨dir.anchor, dir.names ++ names⟩

theorem below_inj {names' : List Text} : dir.below names = dir.below names' ↔ names = names' := by
  simp [below]

/-- **A walk, step by step**: the names passed below the directory where it must not end up above,
    innermost first. A step up takes back the last of them. Where there is none it would leave the
    directory, and there is no walk; so it is at the root, too. -/
def walk? : List Text → List Text → Option (List Text)
  | passed, [] => some passed
  | passed, name :: rest =>
    if name = ['.', '.'] then
      match passed with
      | [] => none
      | _ :: outer => walk? outer rest
    else walk? (name :: passed) rest

theorem walk?_down {name : Text} {rest : List Text} (h : name ≠ ['.', '.']) :
    walk? passed (name :: rest) = walk? (name :: passed) rest := by
  cases passed <;> exact if_neg h

/-- **There is a walk exactly if no step leads out** of the directory to which the names `outer`
    lead, innermost first. The root is set apart: a step up leads nowhere there, and is no step of a
    walk either. -/
theorem walk?_isSome_iff {outer : List Text} (houter : outer ≠ [])
    (hup : ['.', '.'] ∉ passed ++ outer) (anchor : Anchor) (names : List Text) :
    (walk? passed names).isSome = true ↔
      ∀ steps, steps <+: names → outer <:+ steps.foldl (climb anchor) (passed ++ outer) := by
  induction names generalizing passed with
  | nil => simp [walk?]
  | cons name rest ih =>
      -- what is said of every first part of the names, for the empty one and for the others
      have hsteps : (∀ steps, steps <+: name :: rest →
          outer <:+ steps.foldl (climb anchor) (passed ++ outer)) ↔
          ∀ steps, steps <+: rest →
            outer <:+ steps.foldl (climb anchor) (climb anchor (passed ++ outer) name) := by
        constructor
        · exact fun h steps hprefix => h (name :: steps) (List.cons_prefix_cons.mpr ⟨rfl, hprefix⟩)
        · rintro h (_ | ⟨first, steps⟩) hprefix
          · exact List.suffix_append passed outer
          · obtain ⟨rfl, hrest⟩ := List.cons_prefix_cons.mp hprefix
            exact h steps hrest
      rw [hsteps]
      by_cases hname : name = ['.', '.']
      · subst hname
        cases passed with
        | nil =>
            obtain ⟨top, above, rfl⟩ := List.exists_cons_of_ne_nil houter
            rw [List.nil_append, List.mem_cons, not_or] at hup
            refine ⟨fun h => (by cases h), fun h => ?_⟩
            have hlen := (h [] List.nil_prefix).length_le
            rw [List.foldl_nil, List.nil_append, climb_up (Ne.symm hup.1), List.length_cons] at hlen
            omega
        | cons top passed =>
            rw [List.cons_append, List.mem_cons, not_or] at hup
            rw [List.cons_append, climb_up (Ne.symm hup.1)]
            exact ih hup.2
      · have hdown : ['.', '.'] ∉ name :: passed ++ outer := by
          rw [List.cons_append, List.mem_cons, not_or]
          exact ⟨Ne.symm hname, hup⟩
        rw [walk?_down hname, climb_down hname, ← List.cons_append]
        exact ih hdown

/-- **The target never climbs above `dir`** when `includer` cites it: it is relative, and there is
    a walk from the directory of `includer` through its names. -/
structure StaysBelow (dir includer : Path) (target : Text) : Prop where
  relative : (ofText target).isAbsolute = false
  walks : ∃ names, includer.parent = dir.below names ∧
    (walk? names.reverse (ofText target).names).isSome = true

/-- What a relative path denotes in a directory below another one. -/
theorem normal_join_below (hup : ['.', '.'] ∉ dir.names ++ names) (hq : q.isAbsolute = false) :
    ((dir.below names).join q).normal = ⟨dir.anchor,
      (q.names.foldl (climb dir.anchor) (names.reverse ++ dir.names.reverse)).reverse⟩ := by
  have hpassed : (dir.names ++ names).foldl (climb dir.anchor) [] =
      names.reverse ++ dir.names.reverse := by
    rw [foldl_climb hup, List.append_nil, List.reverse_append]
  rw [join, if_neg (Bool.eq_false_iff.mp hq), normal, below, List.foldl_append, hpassed]

/-- **A target stays below a directory that is not the root** exactly if it is relative and each
    step of the way leads to the directory or below it. -/
theorem staysBelow_iff (hdir : dir.names ≠ []) (hup : ['.', '.'] ∉ dir.names ++ names)
    (hparent : p.parent = dir.below names) :
    StaysBelow dir p target ↔ (ofText target).isAbsolute = false ∧
      ∀ steps, steps <+: (ofText target).names →
        ∃ names', (p.parent.join ⟨.here, steps⟩).normal = dir.below names' := by
  have hwalks : (∃ names, p.parent = dir.below names ∧
      (walk? names.reverse (ofText target).names).isSome = true) ↔
      (walk? names.reverse (ofText target).names).isSome = true := by
    constructor
    · rintro ⟨names', hparent', hwalk⟩
      obtain rfl : names' = names := below_inj.mp (hparent'.symm.trans hparent)
      exact hwalk
    · exact fun hwalk => ⟨names, hparent, hwalk⟩
  -- where the steps lead, innermost name first, and what it means that this is below `dir`
  have hstep : ∀ steps, dir.names.reverse <:+
        steps.foldl (climb dir.anchor) (names.reverse ++ dir.names.reverse) ↔
      ∃ names', (p.parent.join ⟨.here, steps⟩).normal = dir.below names' := by
    intro steps
    rw [hparent, normal_join_below hup rfl, ← List.reverse_prefix, List.reverse_reverse]
    constructor
    · rintro ⟨names', hnames'⟩
      exact ⟨names', congrArg (Path.mk dir.anchor) hnames'.symm⟩
    · rintro ⟨names', hbelow⟩
      exact ⟨names', (congrArg Path.names hbelow).symm⟩
  have hfree : ['.', '.'] ∉ names.reverse ++ dir.names.reverse := by
    rwa [← List.reverse_append, List.mem_reverse]
  have hiff := walk?_isSome_iff (by simpa using hdir) hfree dir.anchor (ofText target).names
  constructor
  · rintro ⟨hrelative, hwalk⟩
    exact ⟨hrelative, fun steps hsteps => (hstep steps).mp (hiff.mp (hwalks.mp hwalk) steps hsteps)⟩
  · rintro ⟨hrelative, hsteps⟩
    exact ⟨hrelative, hwalks.mpr (hiff.mpr fun steps h => (hstep steps).mpr (hsteps steps h))⟩

/-- **A walk is what normalising does** to names below others, whatever these are. -/
theorem foldl_climb_of_walk? (h : walk? passed names = some final) (hup : ['.', '.'] ∉ passed)
    (anchor : Anchor) (outer : List Text) :
    names.foldl (climb anchor) (passed ++ outer) = final ++ outer ∧ ['.', '.'] ∉ final := by
  induction names generalizing passed with
  | nil =>
      cases h
      exact ⟨rfl, hup⟩
  | cons name rest ih =>
      rw [List.foldl_cons]
      by_cases hname : name = ['.', '.']
      · subst hname
        cases passed with
        | nil => cases h
        | cons top passed =>
            rw [List.mem_cons, not_or] at hup
            rw [List.cons_append, climb_up (Ne.symm hup.1)]
            exact ih h hup.2
      · rw [walk?_down hname] at h
        rw [climb_down hname, ← List.cons_append]
        exact ih h (by simp [hup, Ne.symm hname])

/-- The directory that a path below another one lies in. -/
theorem parent_below (h : names ≠ []) : (dir.below names).parent = dir.below names.dropLast := by
  rw [parent, below, below, List.dropLast_append_of_ne_nil h]

/-- **What is cited without climbing above a directory lies below it**, at the end of the walk. -/
theorem resolve_below (hdir : ['.', '.'] ∉ dir.names) (hp : p.parent = dir.below names)
    (hnames : ['.', '.'] ∉ names) (hrelative : (ofText target).isAbsolute = false)
    (hwalk : walk? names.reverse (ofText target).names = some final) :
    p.resolve target = dir.below final.reverse ∧ ['.', '.'] ∉ final.reverse := by
  obtain ⟨hend, hup⟩ :=
    foldl_climb_of_walk? hwalk (by simpa using hnames) dir.anchor dir.names.reverse
  refine ⟨?_, by simpa using hup⟩
  have hnoUp : ['.', '.'] ∉ dir.names ++ names := by simp [hdir, hnames]
  rw [resolve, absolute, hp, normal_join_below hnoUp hrelative]
  rw [hend, List.reverse_append, List.reverse_reverse, below]

/-! ## 2. Paths at the same place -/

/-- **The paths are at the same place** below the two directories. -/
def Moved (dir dir' p p' : Path) : Prop :=
  ∃ names, ['.', '.'] ∉ names ∧ p = dir.below names ∧ p' = dir'.below names

/-- Two places are the same in one directory if they are in the other. -/
theorem Moved.eq_iff (hp : Moved dir dir' p p') (hq : Moved dir dir' q q') :
    p = q ↔ p' = q' := by
  obtain ⟨names, -, rfl, rfl⟩ := hp
  obtain ⟨names', -, rfl, rfl⟩ := hq
  rw [below_inj, below_inj]

/-- **What is cited from the same place is at the same place**, if it never climbs above the
    directory. -/
theorem Moved.resolve (h : Moved dir dir' p p') (hne : p ≠ dir) (hdir : ['.', '.'] ∉ dir.names)
    (hdir' : ['.', '.'] ∉ dir'.names) (hstays : StaysBelow dir p target) :
    Moved dir dir' (p.resolve target) (p'.resolve target) := by
  obtain ⟨names, hnames, rfl, rfl⟩ := h
  obtain ⟨hrelative, passed, hparent, hwalk⟩ := hstays
  have hnonempty : names ≠ [] := by
    rintro rfl
    exact hne (by simp [below])
  rw [parent_below hnonempty, below_inj] at hparent
  subst hparent
  obtain ⟨final, hfinal⟩ := Option.isSome_iff_exists.mp hwalk
  have hup : ['.', '.'] ∉ names.dropLast := fun hmem => hnames (List.dropLast_subset _ hmem)
  obtain ⟨hresolve, hnoUp⟩ :=
    resolve_below hdir (parent_below hnonempty) hup hrelative hfinal
  obtain ⟨hresolve', -⟩ :=
    resolve_below hdir' (parent_below hnonempty) hup hrelative hfinal
  exact ⟨_, hnoUp, hresolve, hresolve'⟩

/-- A path below a directory is shown as the names that lead to it. -/
theorem display_below (dir : Path) (names : List Text) :
    (dir.below names).display (some dir) = text ⟨.here, names⟩ := by
  have hbelow : dir.relativeTo? (dir.below names) = some ⟨.here, names⟩ := by
    simp [relativeTo?, below]
  rw [display, Option.bind_some, hbelow, Option.getD_some]

/-- **Messages show both paths alike.** -/
theorem Moved.display (h : Moved dir dir' p p') :
    p'.display (some dir') = p.display (some dir) := by
  obtain ⟨names, -, rfl, rfl⟩ := h
  rw [display_below, display_below]

end Path

/-! ## 3. The same files -/

namespace FileTree

variable {t : FileTree} {p : Path}

/-- The path names a directory, and so no file. -/
structure IsDirectory (t : FileTree) (p : Path) : Prop where
  isSome : (t.directory? p).isSome = true
  noFile : t.file? p = none

/-- The path of a directory holds no null character. -/
theorem IsDirectory.hasNoNull (h : t.IsDirectory p) : hasNoNull p = true := by
  have hdirectory := h.isSome
  unfold directory? at hdirectory
  split at hdirectory
  · exact hasNoNull_of_hindrance? ‹_›
  · cases hdirectory

/-- So a path below it holds one only in the names that follow. -/
theorem IsDirectory.hasNoNull_below (h : t.IsDirectory p) (names : List Text) :
    FileTree.hasNoNull (p.below names) = names.all fun name => !name.hasNull := by
  have hdir : (p.names.all fun name => !name.hasNull) = true := h.hasNoNull
  rw [FileTree.hasNoNull, Path.below, List.all_append, hdir, Bool.true_and]

end FileTree

/-- **The files below both directories are the same**, under the same names, and the two settings
    agree on what a file is read as. -/
structure Setting.SameBelow (s s' : Setting) (dir dir' : Path) : Prop where
  encoding : s'.encoding = s.encoding
  citesFiles : s'.citesFiles = s.citesFiles
  canonical : dir.Canonical
  canonical' : dir'.Canonical
  directory : s.tree.IsDirectory dir
  directory' : s'.tree.IsDirectory dir'
  files : ∀ names, names ≠ [] → s'.tree.file? (dir'.below names) = s.tree.file? (dir.below names)

namespace Setting.SameBelow

variable {s s' : Setting} {dir dir' p p' : Path}

/-- **Files at the same place read the same**, and both can be opened or neither. -/
theorem read_eq (h : s.SameBelow s' dir dir') (hp : Path.Moved dir dir' p p') :
    s'.tree.read p' = s.tree.read p := by
  obtain ⟨names, -, rfl, rfl⟩ := hp
  have hfile : s'.tree.file? (dir'.below names) = s.tree.file? (dir.below names) := by
    by_cases hnames : names = []
    · subst hnames
      rw [Path.below, Path.below, List.append_nil, List.append_nil]
      exact h.directory'.noFile.trans h.directory.noFile.symm
    · exact h.files names hnames
  rw [FileTree.read, FileTree.read, h.directory.hasNoNull_below, h.directory'.hasNoNull_below,
    hfile]

theorem ofPath_eq (h : s.SameBelow s' dir dir') (hp : Path.Moved dir dir' p p') :
    Source.ofPath s'.tree s'.encoding p' = Source.ofPath s.tree s.encoding p := by
  rw [Source.ofPath, Source.ofPath, h.encoding, h.read_eq hp]

/-- The same directives are taken up. -/
theorem directive?_eq (h : s.SameBelow s' dir dir') (line : Text) :
    s'.directive? line = s.directive? line := by
  rw [directive?, directive?, h.citesFiles]

/-- A file that can be opened is not the directory. -/
theorem ne_of_ofPath (h : s.SameBelow s' dir dir') {source : Source}
    (hopen : Source.ofPath s.tree s.encoding p = .ok source) : p ≠ dir := by
  rintro rfl
  obtain ⟨f, hf⟩ := Source.file_of_ofPath hopen
  cases h.directory.noFile.symm.trans hf

end Setting.SameBelow

/-! ## 4. Runs at moved paths -/

/-- The frames belong to the same directive, at moved paths. The outputs play no part. -/
structure Frame.Moved (dir dir' : Path) (f f' : Frame) : Prop where
  template : Path.Moved dir dir' f.template f'.template
  line : f'.line = f.line
  directive : f'.directive = f.directive
  includee : Option.Rel (Path.Moved dir dir') f.includee f'.includee

/-- The stacks hold the same frames, at moved paths. -/
def Stack.Moved (dir dir' : Path) : Stack → Stack → Prop :=
  List.Forall₂ (Frame.Moved dir dir')

/-- The same happens, at moved paths. -/
inductive Event.Moved (dir dir' : Path) : Event → Event → Prop where
  | cite {f f' : Frame} (hf : Frame.Moved dir dir' f f') : Moved dir dir' (.cite f) (.cite f')
  | enter {p p' : Path} {t : Treatment} (hp : Path.Moved dir dir' p p') :
      Moved dir dir' (.enter p t) (.enter p' t)
  | line (l : Line) : Moved dir dir' (.line l) (.line l)
  | leave {p p' : Path} (hp : Path.Moved dir dir' p p') : Moved dir dir' (.leave p) (.leave p')

/-- The same is wrong, at moved paths. `root` and `root'` are where the paths shown begin. -/
inductive Error.Moved (dir dir' : Path) (root root' : Option Path) : Error → Error → Prop where
  | unreadableTemplate {p p' : Path} (hp : Path.Moved dir dir' p p') :
      Moved dir dir' root root' (.unreadableTemplate p) (.unreadableTemplate p')
  | unreadableIncludee {p p' : Path} {stack stack' : Stack} (hp : Path.Moved dir dir' p p')
      (hstack : Stack.Moved dir dir' stack stack') :
      Moved dir dir' root root' (.unreadableIncludee root p stack)
        (.unreadableIncludee root' p' stack')
  | circularInclusion {p p' : Path} {stack stack' : Stack} (hp : Path.Moved dir dir' p p')
      (hstack : Stack.Moved dir dir' stack stack') :
      Moved dir dir' root root' (.circularInclusion root p stack)
        (.circularInclusion root' p' stack')
  | nullCharacter : Moved dir dir' root root' .nullCharacter .nullCharacter
  | nullInEncoding : Moved dir dir' root root' .nullInEncoding .nullInEncoding
  | unknownEncoding (name : Text) :
      Moved dir dir' root root' (.unknownEncoding name) (.unknownEncoding name)

/-- **The runs are the same, at moved paths.** -/
structure Run.Moved (dir dir' : Path) (root root' : Option Path) (r r' : Run) : Prop where
  events : List.Forall₂ (Event.Moved dir dir') r.events r'.events
  failure : Option.Rel (Error.Moved dir dir' root root') r.failure r'.failure

section Moved

variable {dir dir' p p' : Path} {root root' : Option Path} {stack stack' : Stack} {r r' : Run}
  {es es' : List Event} {e e' : Error}

theorem Stack.Moved.push (h : Stack.Moved dir dir' stack stack') {f f' : Frame}
    (hf : Frame.Moved dir dir' f f') : Stack.Moved dir dir' (stack.push f) (stack'.push f') :=
  List.rel_append h (.cons hf .nil)

/-- **The cycle check finds a path on one stack** exactly if it finds the moved one on the other. -/
theorem Stack.Moved.find?_isSome (h : Stack.Moved dir dir' stack stack')
    (hp : Path.Moved dir dir' p p') : (stack'.find? p').isSome = (stack.find? p).isSome := by
  rw [Bool.eq_iff_iff, Stack.find?_isSome_iff, Stack.find?_isSome_iff]
  induction h with
  | nil => simp
  | cons hf _ ih =>
      simp only [List.mem_cons, exists_eq_or_imp, hf.template.eq_iff hp, ih]

theorem Stack.Moved.find?_eq_none (h : Stack.Moved dir dir' stack stack')
    (hp : Path.Moved dir dir' p p') (hnew : stack.find? p = none) : stack'.find? p' = none := by
  rw [← Option.not_isSome_iff_eq_none, h.find?_isSome hp, hnew]
  exact Bool.false_ne_true

/-- Nothing stops a run that is the same as one that nothing stops. -/
theorem Run.Moved.ok (h : Run.Moved dir dir' root root' r r') (hok : r.failure = none) :
    r'.failure = none := by
  obtain ⟨-, hfailure⟩ := h
  rw [hok] at hfailure
  generalize r'.failure = failure' at hfailure ⊢
  cases hfailure
  rfl

theorem Run.Moved.failed (h : Run.Moved dir dir' root root' r r') (hfail : r.failure = some e) :
    ∃ e', r'.failure = some e' ∧ Error.Moved dir dir' root root' e e' := by
  obtain ⟨-, hfailure⟩ := h
  rw [hfail] at hfailure
  generalize r'.failure = failure' at hfailure ⊢
  cases hfailure with
  | some he => exact ⟨_, rfl, he⟩

/-- Events before both runs. -/
theorem Run.Moved.after (h : Run.Moved dir dir' root root' r r')
    (hes : List.Forall₂ (Event.Moved dir dir') es es') :
    Run.Moved dir dir' root root' (r.after es) (r'.after es') where
  events := List.rel_append hes h.events
  failure := h.failure

/-- The end of a file adds the same to both runs. -/
theorem Run.Moved.close (h : Run.Moved dir dir' root root' r r')
    (he : Error.Moved dir dir' root root' e e') (source : Source) :
    Run.Moved dir dir' root root' (source.close e r) (source.close e' r') := by
  obtain ⟨events, failure⟩ := r
  obtain ⟨events', failure'⟩ := r'
  obtain ⟨hevents, hfailure⟩ := h
  refine ⟨by rwa [Source.close_events, Source.close_events], ?_⟩
  cases hfailure with
  | some hfault => exact .some hfault
  | none =>
      cases hcomplete : source.reading.complete with
      | true => simp [Source.close, Run.andThen, hcomplete, Run.nothing]
      | false => simp [Source.close, Run.andThen, hcomplete, Run.stopped, Option.Rel.some he]

end Moved

/-! ## 5. The run of the moved template -/

namespace Setting

variable {s s' : Setting} {dir dir' p p' template template' : Path} {stack stack' : Stack}
  {depth : Int} {number : Nat} {line : Text} {lines : List Text} {d : Directive} {r : Run}
  {es : List Event} {refused refused' e : Error}

/-- **No directive of a run climbs above `dir`**: every target that is resolved stays below it. -/
def NeverClimbs (dir : Path) (es : List Event) : Prop :=
  ∀ f, Event.cite f ∈ es → ∀ text d, f.directive = some text → Directive.parse? text = some d →
    Path.StaysBelow dir f.template d.target

theorem NeverClimbs.mono (h : NeverClimbs dir es) {es' : List Event} (hsub : es' ⊆ es) :
    NeverClimbs dir es' :=
  fun f hf => h f (hsub hf)

theorem NeverClimbs.of_after (h : NeverClimbs dir (r.after es).events) :
    NeverClimbs dir r.events :=
  h.mono (List.subset_append_right es r.events)

/-- Lines are the same wherever they are written. -/
theorem lines_moved (dir dir' : Path) (ls : List Line) :
    List.Forall₂ (Event.Moved dir dir') (ls.map Event.line) (ls.map Event.line) :=
  List.forall₂_same.mpr fun e he => by
    obtain ⟨l, -, rfl⟩ := List.mem_map.mp he
    exact .line l

namespace SameBelow

variable (hsame : s.SameBelow s' dir dir')

include hsame

/-- Opening files at the same place gives the same, or fails alike. -/
theorem openSource_moved (hp : Path.Moved dir dir' p p')
    (hrefused : Error.Moved dir dir' s.root s'.root refused refused')
    (hopen : s.openSource refused p = .error e) :
    ∃ e', s'.openSource refused' p' = .error e' ∧ Error.Moved dir dir' s.root s'.root e e' := by
  unfold openSource at hopen ⊢
  rw [hsame.ofPath_eq hp]
  cases hsource : Source.ofPath s.tree s.encoding p with
  | ok source => simp [hsource] at hopen
  | error fault =>
      rw [hsource] at hopen
      cases fault with
      | refused =>
          cases hopen
          exact ⟨_, rfl, hrefused⟩
      | nullInEncoding =>
          cases hopen
          exact ⟨_, rfl, .nullInEncoding⟩
      | nullCharacter =>
          cases hopen
          exact ⟨_, rfl, .nullCharacter⟩
      | unknownEncoding name =>
          cases hopen
          exact ⟨_, rfl, .unknownEncoding name⟩

/-- **A directive that is taken up in both templates** cites files at the same place, and its
    frames are the same up to that. -/
theorem cite_moved (hclimbs : NeverClimbs dir es)
    (htemplate : Path.Moved dir dir' template template') (hne : template ≠ dir)
    (hline : s.directive? (lineAt depth line) = some d)
    (hmem : Event.cite (d.frame template number) ∈ es) :
    Path.Moved dir dir' (d.includee template) (d.includee template') ∧
      Frame.Moved dir dir' (d.frame template number) (d.frame template' number) := by
  have hstays := hclimbs _ hmem d.text d rfl (Directive.parse?_text (parse?_of_directive? hline))
  have hincludee : Path.Moved dir dir' (d.includee template) (d.includee template') :=
    htemplate.resolve hne hsame.canonical.noUp hsame.canonical'.noUp hstays
  exact ⟨hincludee, htemplate, rfl, rfl, .some hincludee⟩

end SameBelow

/-- **What runs in one place has a run in the other.** If no directive of a run climbs above `dir`,
    the lines of a template at the same place below `dir'`, under a stack that holds the same
    frames, have the same run at moved paths. -/
theorem Expands.moved (hsame : s.SameBelow s' dir dir')
    (h : Expands s stack template depth number lines r) :
    ∀ {stack' : Stack} {template' : Path}, Stack.Moved dir dir' stack stack' →
      Path.Moved dir dir' template template' → template ≠ dir → NeverClimbs dir r.events →
      ∃ r', Expands s' stack' template' depth number lines r' ∧
        Run.Moved dir dir' s.root s'.root r r' := by
  induction h with
  | done => exact fun _ _ _ _ => ⟨_, .done, .nil, .none⟩
  | copied hline _ ih =>
      intro stack' template' hstack htemplate hne hclimbs
      obtain ⟨r', hrest', hmoved⟩ := ih hstack htemplate hne hclimbs.of_after
      exact ⟨_, .copied ((hsame.directive?_eq _).trans hline) hrest',
        hmoved.after (.cons (.line _) .nil)⟩
  | marked hline hcites _ ih =>
      intro stack' template' hstack htemplate hne hclimbs
      obtain ⟨r', hrest', hmoved⟩ := ih hstack htemplate hne hclimbs.of_after
      exact ⟨_, .marked ((hsame.directive?_eq _).trans hline) hcites hrest',
        hmoved.after (.cons (.line _) .nil)⟩
  | quoted hline hcites hrec hopen htext _ ih =>
      intro stack' template' hstack htemplate hne hclimbs
      obtain ⟨hincludee, hframe⟩ :=
        hsame.cite_moved hclimbs htemplate hne hline List.mem_cons_self
      obtain ⟨r', hrest', hmoved⟩ := ih hstack htemplate hne hclimbs.of_after
      refine ⟨_, .quoted ((hsame.directive?_eq _).trans hline) hcites hrec
        ((hsame.ofPath_eq hincludee).trans hopen) htext hrest', hmoved.after ?_⟩
      rw [quote_events]
      exact .cons (.cite hframe) (.cons (.enter hincludee)
        (List.rel_append (lines_moved dir dir' _) (.cons (.leave hincludee) .nil)))
  | nested hline hrec hnew hopen _ hok hcomplete _ ihBody ihRest =>
      intro stack' template' hstack htemplate hne hclimbs
      obtain ⟨hincludee, hframe⟩ :=
        hsame.cite_moved hclimbs htemplate hne hline List.mem_cons_self
      obtain ⟨body', hbody', hbodyMoved⟩ := ihBody (hstack.push hframe) hincludee
        (hsame.ne_of_ofPath hopen) (hclimbs.mono fun e he => by simp [he])
      obtain ⟨r', hrest', hmoved⟩ := ihRest hstack htemplate hne hclimbs.of_after
      refine ⟨_, .nested ((hsame.directive?_eq _).trans hline) hrec
        ((hstack.push hframe).find?_eq_none hincludee hnew)
        ((hsame.ofPath_eq hincludee).trans hopen) hbody' (hbodyMoved.ok hok) hcomplete hrest',
        hmoved.after ?_⟩
      exact .cons (.cite hframe) (.cons (.enter hincludee)
        (List.rel_append hbodyMoved.events (.cons (.leave hincludee) .nil)))
  | cyclic hline hrec hfound =>
      intro stack' template' hstack htemplate hne hclimbs
      obtain ⟨hincludee, hframe⟩ :=
        hsame.cite_moved hclimbs htemplate hne hline List.mem_cons_self
      have hpush := hstack.push hframe
      exact ⟨_, .cyclic ((hsame.directive?_eq _).trans hline) hrec
        ((hpush.find?_isSome hincludee).trans hfound),
        .cons (.cite hframe) .nil, .some (.circularInclusion hincludee hpush)⟩
  | unopened hline hcites hnew hopen =>
      intro stack' template' hstack htemplate hne hclimbs
      obtain ⟨hincludee, hframe⟩ :=
        hsame.cite_moved hclimbs htemplate hne hline List.mem_cons_self
      have hpush := hstack.push hframe
      obtain ⟨e', hopen', he⟩ :=
        hsame.openSource_moved hincludee (.unreadableIncludee hincludee hpush) hopen
      exact ⟨_, .unopened ((hsame.directive?_eq _).trans hline) hcites
        (fun hrec => hpush.find?_eq_none hincludee (hnew hrec)) hopen',
        .cons (.cite hframe) .nil, .some he⟩
  | undecodable hline hcites hrec hopen htext =>
      intro stack' template' hstack htemplate hne hclimbs
      obtain ⟨hincludee, hframe⟩ :=
        hsame.cite_moved hclimbs htemplate hne hline List.mem_cons_self
      exact ⟨_, .undecodable ((hsame.directive?_eq _).trans hline) hcites hrec
        ((hsame.ofPath_eq hincludee).trans hopen) htext,
        .cons (.cite hframe) (.cons (.enter hincludee) .nil),
        .some (.unreadableIncludee hincludee (hstack.push hframe))⟩
  | @broken _ _ _ _ _ _ _ source _ _ hline hrec hnew hopen _ hfail ih =>
      intro stack' template' hstack htemplate hne hclimbs
      obtain ⟨hincludee, hframe⟩ :=
        hsame.cite_moved hclimbs htemplate hne hline List.mem_cons_self
      have hpush := hstack.push hframe
      obtain ⟨body', hbody', hbodyMoved⟩ := ih hpush hincludee (hsame.ne_of_ofPath hopen)
        (hclimbs.mono fun e he => by simp [he])
      obtain ⟨e', hfail', he⟩ :=
        (hbodyMoved.close (.unreadableIncludee hincludee hpush) source).failed hfail
      exact ⟨_, .broken ((hsame.directive?_eq _).trans hline) hrec
        (hpush.find?_eq_none hincludee hnew) ((hsame.ofPath_eq hincludee).trans hopen) hbody'
        hfail', .cons (.cite hframe) (.cons (.enter hincludee) hbodyMoved.events), .some he⟩

/-- **The run of a whole template** at the same place, whatever the outputs are. -/
theorem RunOf.moved (hsame : s.SameBelow s' dir dir') {output : Option Path}
    (h : RunOf s template output r) (htemplate : Path.Moved dir dir' template template')
    (hne : template ≠ dir) (hclimbs : NeverClimbs dir r.events) (output' : Option Path) :
    ∃ r', RunOf s' template' output' r' ∧ Run.Moved dir dir' s.root s'.root r r' := by
  cases h with
  | unopened hopen =>
      obtain ⟨e', hopen', he⟩ :=
        hsame.openSource_moved htemplate (.unreadableTemplate htemplate) hopen
      exact ⟨_, .unopened hopen', .nil, .some he⟩
  | opened hopen hbody =>
      rw [Source.close_events] at hclimbs
      have houtermost : Frame.Moved dir dir' (.outermost template output)
          (.outermost template' output') := ⟨htemplate, rfl, rfl, .none⟩
      obtain ⟨body', hbody', hmoved⟩ :=
        hbody.moved hsame (.cons houtermost .nil) htemplate hne hclimbs
      exact ⟨_, .opened ((hsame.ofPath_eq htemplate).trans hopen) hbody',
        hmoved.close (.unreadableTemplate htemplate) _⟩

end Setting

/-! ## 6. What is written and what is said -/

section Observed

variable {dir dir' : Path} {es es' : List Event} {frames frames' : Stack} {f f' : Frame}
  {e e' : Error}

/-- **Moved events write the same document.** -/
theorem Document.replay_moved (h : List.Forall₂ (Event.Moved dir dir') es es') (d : Document) :
    d.replay es' = d.replay es := by
  have hfold : ∀ state, es'.foldl record state = es.foldl record state := by
    induction h with
    | nil => exact fun _ => rfl
    | cons he _ ih =>
        intro state
        rw [List.foldl_cons, List.foldl_cons, ih]
        cases he <;> rfl
  rw [replay, replay, hfold]

/-- The level of a directive is shown alike. -/
theorem Frame.Moved.levelLines_eq (h : Frame.Moved dir dir' f f') (level : Nat) :
    Stack.levelLines (some dir') level f' = Stack.levelLines (some dir) level f := by
  rw [Stack.levelLines, Stack.levelLines, h.template.display, h.line, h.directive]

/-- The levels, each frame with its number. -/
theorem Stack.levels_eq_map (root : Option Path) (frames : Stack) :
    levels root frames = (frames.zipIdx.map fun x => levelLines root x.2 x.1).reverse.flatten := by
  rw [← List.map_reverse]
  rfl

theorem Stack.Moved.levels_eq (h : Stack.Moved dir dir' frames frames') :
    levels (some dir') frames' = levels (some dir) frames := by
  have hnumbered : ∀ n, (frames'.zipIdx n).map (fun x => levelLines (some dir') x.2 x.1) =
      (frames.zipIdx n).map fun x => levelLines (some dir) x.2 x.1 := by
    induction h with
    | nil => exact fun _ => rfl
    | cons hf _ ih =>
        intro n
        rw [List.zipIdx_cons, List.zipIdx_cons, List.map_cons, List.map_cons, ih,
          hf.levelLines_eq]
  rw [levels_eq_map, levels_eq_map, hnumbered]

/-- **The backtraces are the same**, each seen from its own directory. -/
theorem Stack.Moved.backtrace_eq (h : Stack.Moved dir dir' frames frames') :
    frames'.backtrace (some dir') = frames.backtrace (some dir) := by
  have hdirectives : Moved dir dir' (frames.filter Frame.isDirective)
      (frames'.filter Frame.isDirective) := by
    refine List.rel_filter (fun f f' hf => ?_) h
    have heq : f'.isDirective = f.isDirective := congrArg Option.isSome hf.directive
    exact Iff.of_eq (congrArg (· = true) heq.symm)
  rw [backtrace, backtrace, hdirectives.levels_eq]

/-- **The messages are the same** that show the stack, each seen from its own directory. -/
theorem Error.Moved.message_eq (h : Error.Moved dir dir' (some dir) (some dir') e e')
    (hstack : e.stack?.isSome = true) : e'.message = e.message := by
  cases h with
  | unreadableIncludee hp hframes =>
      rw [message_unreadableIncludee, message_unreadableIncludee, hp.display,
        hframes.backtrace_eq]
  | circularInclusion hp hframes =>
      rw [message_circularInclusion, message_circularInclusion, hp.display, hframes.backtrace_eq]
  | _ => cases hstack

end Observed

namespace Setting

/-- **Moving a directory changes nothing** about a template below it, as long as no directive climbs
    above the directory. The template is named by an absolute path, so the working directories `cwd`
    and `cwd'` play no part. Both expansions write the same into any document. They fail alike, at
    moved paths, or neither does; and where `dir` and `dir'` are where shown paths begin, an error
    inside an inclusion is told in the same words. -/
theorem expand_moved {s s' : Setting} {dir dir' : Path} (hsame : s.SameBelow s' dir dir')
    {names : List Text} (hnames : names ≠ []) {text text' : Text}
    (habsolute : (Path.ofText text).isAbsolute = true)
    (habsolute' : (Path.ofText text').isAbsolute = true)
    (hplace : (Path.ofText text).normal = dir.below names)
    (hplace' : (Path.ofText text').normal = dir'.below names) (output output' : Option Path)
    (hclimbs : NeverClimbs dir (s.expand (dir.below names) output).events) (cwd cwd' : Path) :
    let run := s.expand (Path.absolute cwd text) output
    let run' := s'.expand (Path.absolute cwd' text') output'
    (∀ other, s.expand (Path.absolute other text) output = run ∧
      s'.expand (Path.absolute other text') output' = run') ∧
    (∀ d : Document, d.replay run'.events = d.replay run.events) ∧
    Option.Rel (Error.Moved dir dir' s.root s'.root) run.failure run'.failure ∧
    (s.root = some dir → s'.root = some dir' → ∀ e e', run.failure = some e →
      run'.failure = some e' → e.stack?.isSome = true → e'.message = e.message) := by
  have hcanonical : (dir.below names).Canonical := hplace ▸ Path.canonical_ofText habsolute
  have hmoved : Path.Moved dir dir' (dir.below names) (dir'.below names) :=
    ⟨names, fun hup => hcanonical.noUp (List.mem_append_right _ hup), rfl, rfl⟩
  have hne : dir.below names ≠ dir := fun heq =>
    hnames (List.append_right_eq_self.mp (congrArg Path.names heq))
  obtain ⟨r', hrun', hsameRun⟩ :=
    (runOf_expand s (dir.below names) output).moved hsame hmoved hne hclimbs output'
  have hexpand' : s'.expand (dir'.below names) output' = r' :=
    (runOf_expand s' (dir'.below names) output').unique hrun'
  have hat : ∀ cwd, Path.absolute cwd text = dir.below names := fun cwd =>
    (Path.absolute_of_isAbsolute habsolute cwd).trans hplace
  have hat' : ∀ cwd, Path.absolute cwd text' = dir'.below names := fun cwd =>
    (Path.absolute_of_isAbsolute habsolute' cwd).trans hplace'
  dsimp only
  rw [hat cwd, hat' cwd', hexpand']
  refine ⟨fun other => ⟨by rw [hat other], by rw [hat' other, hexpand']⟩,
    Document.replay_moved hsameRun.events, hsameRun.failure, ?_⟩
  intro hroot hroot' e e' hfail hfail' hstack
  have hfailure := hsameRun.failure
  rw [hfail, hfail', Option.rel_some_some, hroot, hroot'] at hfailure
  exact hfailure.message_eq hstack

/-- Two templates below a directory that cite each other, one of them on a detour. -/
def tied : Setting where
  tree := ⟨[([['w'], ['a']], .ofAscii "@[markdown](s/../s/b)"),
      ([['w'], ['s'], ['b']], .ofAscii "x\n@[markdown](../a)")],
    [([], true), ([['w']], true), ([['w'], ['s']], true)]⟩
  encoding := "utf-8".toList
  root := some ⟨.root, [['w']]⟩
  citesFiles := true

/-- The same templates further down in a tree that holds another file. -/
def tiedBelow : Setting where
  tree := ⟨[([['a']], .ofAscii "y"), ([['v'], ['u'], ['a']], .ofAscii "@[markdown](s/../s/b)"),
      ([['v'], ['u'], ['s'], ['b']], .ofAscii "x\n@[markdown](../a)")],
    [([], true), ([['v']], true), ([['v'], ['u']], true), ([['v'], ['u'], ['s']], true)]⟩
  encoding := "utf-8".toList
  root := some ⟨.doubleRoot, [['v'], ['u']]⟩
  citesFiles := true

/-- The files below `/w` are those below `//v/u`. -/
theorem tied_sameBelow :
    tied.SameBelow tiedBelow ⟨.root, [['w']]⟩ ⟨.doubleRoot, [['v'], ['u']]⟩ where
  encoding := rfl
  citesFiles := rfl
  canonical := Path.canonical_ofText (s := ['/', 'w']) rfl
  canonical' := Path.canonical_ofText (s := ['/', '/', 'v', '/', 'u']) rfl
  directory := ⟨by decide +kernel, by decide +kernel⟩
  directory' := ⟨by decide +kernel, by decide +kernel⟩
  files := by
    intro names _
    by_cases ha : names = [['a']]
    · subst ha
      decide +kernel
    · by_cases hb : names = [['s'], ['b']]
      · subst hb
        decide +kernel
      · -- no other file lies below either directory
        simp [FileTree.file?, Path.below, tied, tiedBelow, List.lookup_cons,
          beq_eq_false_iff_ne.mpr ha, beq_eq_false_iff_ne.mpr hb]

/-- The second template is opened, and the first one cited again. -/
theorem tied_events : (tied.expand ⟨.root, [['w'], ['a']]⟩ none).events =
    [.cite (.ofDirective ⟨.root, [['w'], ['a']]⟩ 1 "@[markdown](s/../s/b)".toList
        ⟨.root, [['w'], ['s'], ['b']]⟩),
      .enter ⟨.root, [['w'], ['s'], ['b']]⟩ .markdown, .line ⟨"x\n".toList, 1, none⟩,
      .cite (.ofDirective ⟨.root, [['w'], ['s'], ['b']]⟩ 2 "@[markdown](../a)".toList
        ⟨.root, [['w'], ['a']]⟩)] := by decide +kernel

/-- No directive climbs above `/w`, since `..` is only a step out of a directory in it. -/
theorem tied_neverClimbs :
    NeverClimbs ⟨.root, [['w']]⟩ (tied.expand ⟨.root, [['w'], ['a']]⟩ none).events := by
  rw [tied_events]
  intro f hf text d htext hparse
  obtain rfl | rfl : f = .ofDirective _ _ _ _ ∨ f = .ofDirective _ _ _ _ := by simpa using hf
  · obtain rfl := Option.some.inj htext
    have hd : Directive.parse? "@[markdown](s/../s/b)".toList =
        some ⟨.markdown, "s/../s/b".toList, "@[markdown](s/../s/b)".toList, none⟩ := by
      decide +kernel
    obtain rfl := Option.some.inj (hd.symm.trans hparse)
    exact ⟨by decide +kernel, [], rfl, by decide +kernel⟩
  · obtain rfl := Option.some.inj htext
    have hd : Directive.parse? "@[markdown](../a)".toList =
        some ⟨.markdown, "../a".toList, "@[markdown](../a)".toList, none⟩ := by decide +kernel
    obtain rfl := Option.some.inj (hd.symm.trans hparse)
    exact ⟨by decide +kernel, [['s']], rfl, by decide +kernel⟩

/-- The templates cite each other in both places, and the error is told in the same words. -/
theorem expand_moved_tied :
    let a : Path := ⟨.root, [['w'], ['a']]⟩
    let b : Path := ⟨.root, [['w'], ['s'], ['b']]⟩
    let stack : Stack := [.outermost a none, .ofDirective a 1 "@[markdown](s/../s/b)".toList b,
      .ofDirective b 2 "@[markdown](../a)".toList a]
    let run := tied.expand (Path.absolute ⟨.root, [['x']]⟩ "/w/./a".toList) none
    let run' := tiedBelow.expand (Path.absolute ⟨.root, [['v']]⟩ "//v//u/a".toList)
      (some ⟨.root, [['o']]⟩)
    tied.SameBelow tiedBelow ⟨.root, [['w']]⟩ ⟨.doubleRoot, [['v'], ['u']]⟩ ∧
    NeverClimbs ⟨.root, [['w']]⟩ run.events ∧
    (∀ d : Document, d.replay run'.events = d.replay run.events) ∧
    run.failure = some (tied.circular stack a) ∧
    ∃ e', run'.failure = some e' ∧ e'.message = (tied.circular stack a).message ∧
      (tied.circular stack a).message =
        "Circular inclusion: a\nInclusion backtrace, innermost first:\n".toList ++
          "Level 1:\n  Site: s/b:2\n  Directive: @[markdown](../a)\n".toList ++
          "Level 0:\n  Site: a:1\n  Directive: @[markdown](s/../s/b)\n".toList := by
  intro a b stack run run'
  have habsolute : (Path.ofText "/w/./a".toList).isAbsolute = true := by decide
  have habsolute' : (Path.ofText "//v//u/a".toList).isAbsolute = true := by decide
  have hplace : (Path.ofText "/w/./a".toList).normal = Path.below ⟨.root, [['w']]⟩ [['a']] := by
    decide
  have hplace' : (Path.ofText "//v//u/a".toList).normal =
      Path.below ⟨.doubleRoot, [['v'], ['u']]⟩ [['a']] := by decide
  obtain ⟨-, hlines, -, hmessages⟩ := expand_moved tied_sameBelow (List.cons_ne_nil _ _) habsolute
    habsolute' hplace hplace' none (some ⟨.root, [['o']]⟩) tied_neverClimbs ⟨.root, [['x']]⟩
    ⟨.root, [['v']]⟩
  have hfail : run.failure = some (tied.circular stack a) := by decide +kernel
  obtain ⟨e', hfail'⟩ : ∃ e', run'.failure = some e' :=
    Option.isSome_iff_exists.mp (by decide +kernel)
  exact ⟨tied_sameBelow, tied_neverClimbs, hlines, hfail, e', hfail',
    hmessages rfl rfl _ e' hfail hfail' rfl, by decide +kernel⟩

end Setting

end MarkdownTemplate
