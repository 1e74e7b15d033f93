import MarkdownTemplate.Proofs.Reading

/-!
# Looking up paths

Before a file is read or written its path is followed from directory to directory, and some of what
can be wrong is wrong with the way, whatever is at its end. This file fixes

* `FileTree.Hinders` -- what keeps a path from being followed, as a relation that walks nowhere;
  `FileTree.hindrance?_eq_some_iff` -- this is what the walk through the directories finds;
* `FileTree.atEnd_parent` -- who comes to a file, or to where there is none, has come through its
  directory;
* `read_eq_nullCharacter_iff`, `checkWrite_eq_nullCharacter_iff` -- a null character is found where
  a file is opened;
* `readAccess_eq_barred_iff`, `writeAccess_eq_barred_iff` -- a barrier is met by the permission
  checks;
* `FileTree.CanWrite`, `FileTree.WriteAlike` -- whether a path can be written.
-/

namespace MarkdownTemplate

namespace FileTree

variable {t t' : FileTree} {p q : Path} {f : File} {b : Barrier} {h : Hindrance}
  {location : Location} {name : Text} {names : List Text} {found : Access}

/-! ## 1. Following a path -/

/-- **What keeps a name from being looked up** at a location. -/
inductive StepHinders (t : FileTree) (location : Location) (name : Text) : Hindrance → Prop where
  | missing (hdirectory : t.directories.lookup location = none) :
      StepHinders t location name .missing
  | sealed {d : Directory} (hdirectory : t.directories.lookup location = some d)
      (hsealed : d.searchable = false) : StepHinders t location name (.barrier .sealed)
  | longName {d : Directory} (hdirectory : t.directories.lookup location = some d)
      (hsearchable : d.searchable = true) (hlong : longestName < byteLength name) :
      StepHinders t location name (.barrier .tooLong)

theorem stepHindrance?_eq_some_iff :
    t.stepHindrance? location name = some h ↔ t.StepHinders location name h := by
  unfold stepHindrance?
  constructor
  · intro hstep
    split at hstep
    · rename_i hdirectory
      cases hstep
      exact .missing hdirectory
    · rename_i d hdirectory
      cases hsearchable : d.searchable with
      | false =>
          simp only [hsearchable, Bool.not_false, if_true] at hstep
          cases hstep
          exact .sealed hdirectory hsearchable
      | true =>
          simp only [hsearchable, Bool.not_true, Bool.false_eq_true, if_false] at hstep
          split at hstep
          · rename_i hlong
            cases hstep
            exact .longName hdirectory hsearchable hlong
          · cases hstep
  · intro hstep
    cases hstep with
    | missing hdirectory => simp [hdirectory]
    | sealed hdirectory hsealed => simp [hdirectory, hsealed]
    | longName hdirectory hsearchable hlong => simp [hdirectory, hsearchable, hlong]

theorem stepHindrance?_eq_none_iff : t.stepHindrance? location name = none ↔
    ∃ d, t.directories.lookup location = some d ∧ d.searchable = true ∧
      byteLength name ≤ longestName := by
  unfold stepHindrance?
  cases t.directories.lookup location with
  | none => simp
  | some d => cases hsearchable : d.searchable <;> simp [hsearchable]

/-- Names are looked up one after the other. -/
theorem walkHindrance?_append (names others : List Text) :
    t.walkHindrance? location (names ++ others) =
      (t.walkHindrance? location names).or (t.walkHindrance? (location ++ names) others) := by
  induction names generalizing location with
  | nil => simp [walkHindrance?]
  | cons name names ih =>
      rw [List.cons_append, walkHindrance?, walkHindrance?, ih, Option.or_assoc, List.append_assoc,
        List.singleton_append]

theorem walkHindrance?_eq_none_iff : t.walkHindrance? location names = none ↔
    ∀ before name after, names = before ++ name :: after →
      t.stepHindrance? (location ++ before) name = none := by
  constructor
  · intro hwalk before name after heq
    rw [heq, walkHindrance?_append] at hwalk
    have hrest := (Option.or_eq_none_iff.mp hwalk).2
    exact (Option.or_eq_none_iff.mp hrest).1
  · intro hsteps
    induction names generalizing location with
    | nil => rfl
    | cons name names ih =>
        have hfirst := hsteps [] name names rfl
        rw [List.append_nil] at hfirst
        refine Option.or_eq_none_iff.mpr ⟨hfirst, ih fun before next after heq => ?_⟩
        rw [List.append_assoc, List.singleton_append]
        exact hsteps (name :: before) next after (congrArg (name :: ·) heq)

/-- **The walk ends at the first name that cannot be looked up.** -/
theorem walkHindrance?_eq_some_iff : t.walkHindrance? location names = some h ↔
    ∃ before name after, names = before ++ name :: after ∧
      t.walkHindrance? location before = none ∧
      t.stepHindrance? (location ++ before) name = some h := by
  constructor
  · intro hwalk
    induction names generalizing location with
    | nil => cases hwalk
    | cons name names ih =>
        rcases Option.or_eq_some_iff.mp hwalk with hstep | ⟨hstep, hrest⟩
        · exact ⟨[], name, names, rfl, rfl, by rwa [List.append_nil]⟩
        · obtain ⟨before, next, after, rfl, hbefore, hnext⟩ := ih hrest
          rw [List.append_assoc, List.singleton_append] at hnext
          exact ⟨name :: before, next, after, rfl, Option.or_eq_none_iff.mpr ⟨hstep, hbefore⟩,
            hnext⟩
  · intro hsteps
    obtain ⟨before, name, after, rfl, hbefore, hstep⟩ := hsteps
    rw [walkHindrance?_append, hbefore, Option.none_or, walkHindrance?, hstep, Option.some_or]

/-- Every name can be looked up: each is short enough, and the directory is there and may be
    searched. -/
def Passes (t : FileTree) (names : List Text) : Prop :=
  ∀ before name after, names = before ++ name :: after →
    ∃ d, t.directories.lookup before = some d ∧ d.searchable = true ∧
      byteLength name ≤ longestName

theorem passes_iff : t.Passes names ↔ t.walkHindrance? [] names = none := by
  simp only [Passes, walkHindrance?_eq_none_iff, stepHindrance?_eq_none_iff, List.nil_append]

/-- The system takes the path as one that might be followed. -/
structure Fits (p : Path) : Prop where
  noNull : hasNoNull p = true
  length : byteLength p.text ≤ longestPath

/-- **What keeps a path from being followed**: a null character, its length, or the first name that
    cannot be looked up where those before it lead. -/
inductive Hinders (t : FileTree) (p : Path) : Hindrance → Prop where
  | nullCharacter (hnull : hasNoNull p = false) : Hinders t p .nullCharacter
  | long (hnull : hasNoNull p = true) (hlong : longestPath < byteLength p.text) :
      Hinders t p (.barrier .tooLong)
  | step {before after : List Text} {name : Text} {h : Hindrance} (hfits : Fits p)
      (hnames : p.names = before ++ name :: after) (hpass : t.Passes before)
      (hstep : t.StepHinders before name h) : Hinders t p h

/-- **What is found on the way is what hinders.** -/
theorem hindrance?_eq_some_iff : t.hindrance? p = some h ↔ t.Hinders p h := by
  unfold hindrance?
  constructor
  · intro hway
    cases hnull : hasNoNull p with
    | false =>
        simp only [hnull, Bool.not_false, if_true] at hway
        cases hway
        exact .nullCharacter hnull
    | true =>
        simp only [hnull, Bool.not_true, Bool.false_eq_true, if_false] at hway
        split at hway
        · rename_i hlong
          cases hway
          exact .long hnull hlong
        · rename_i hlength
          obtain ⟨before, name, after, hnames, hbefore, hstep⟩ :=
            walkHindrance?_eq_some_iff.mp hway
          exact .step ⟨hnull, Nat.le_of_not_lt hlength⟩ hnames (passes_iff.mpr hbefore)
            (stepHindrance?_eq_some_iff.mp hstep)
  · intro hway
    cases hway with
    | nullCharacter hnull => simp [hnull]
    | long hnull hlong => simp [hnull, hlong]
    | step hfits hnames hpass hstep =>
        rw [hfits.noNull, Bool.not_true, if_neg Bool.false_ne_true,
          if_neg (Nat.not_lt_of_le hfits.length)]
        exact walkHindrance?_eq_some_iff.mpr ⟨_, _, _, hnames, passes_iff.mp hpass,
          stepHindrance?_eq_some_iff.mpr hstep⟩

theorem hindrance?_eq_nullCharacter_iff :
    t.hindrance? p = some .nullCharacter ↔ hasNoNull p = false := by
  rw [hindrance?_eq_some_iff]
  constructor
  · intro h
    cases h with
    | nullCharacter hnull => exact hnull
    | step _ _ _ hstep => cases hstep
  · exact .nullCharacter

/-! ## 2. The way to the directory -/

theorem byteLength_append (s s' : Text) : byteLength (s ++ s') = byteLength s + byteLength s' := by
  induction s with
  | nil => simp [byteLength]
  | cons c s ih =>
      show c.utf8Size + byteLength (s ++ s') = c.utf8Size + byteLength s + byteLength s'
      rw [ih, Nat.add_assoc]

/-- The text of names begins like that of all but the last. -/
theorem joined_dropLast_prefix (sep : Text) (names : List Text) :
    Text.joined sep names.dropLast <+: Text.joined sep names := by
  induction names with
  | nil => exact List.prefix_refl _
  | cons name rest ih =>
      cases rest with
      | nil => exact List.nil_prefix
      | cons next rest =>
          rw [List.dropLast_cons_cons, Text.joined, Text.joined, List.intercalate_cons_cons]
          cases rest with
          | nil =>
              rw [List.dropLast_singleton, List.intercalate_singleton, List.append_assoc]
              exact List.prefix_append _ _
          | cons last rest =>
              rw [List.dropLast_cons_cons, List.intercalate_cons_cons]
              exact (List.prefix_append_right_inj _).mpr ih

/-- The path of the directory fits if the path does. -/
theorem Fits.parent (h : Fits p) : Fits p.parent where
  noNull := List.all_eq_true.mpr fun name hname =>
    List.all_eq_true.mp h.noNull name (List.dropLast_subset _ hname)
  length := by
    have hlength := h.length
    unfold Path.text at hlength ⊢
    split
    · decide
    · rename_i hparent
      rw [if_neg fun hp => hparent ⟨hp.1, by rw [Path.parent, hp.2, List.dropLast_nil]⟩] at hlength
      obtain ⟨rest, hrest⟩ := joined_dropLast_prefix ['/'] p.names
      rw [← hrest, ← List.append_assoc, byteLength_append] at hlength
      exact Nat.le_of_add_right_le hlength

/-- What keeps the way to the directory from being followed keeps the path from being followed. -/
theorem Hinders.of_parent (hfits : Fits p) (hparent : t.Hinders p.parent h) : t.Hinders p h := by
  cases hparent with
  | nullCharacter hnull => cases hfits.parent.noNull.symm.trans hnull
  | long _ hlong => exact absurd hfits.parent.length (Nat.not_le_of_lt hlong)
  | @step before after name _ _ hnames hpass hstep =>
      change p.names.dropLast = before ++ name :: after at hnames
      have hne : p.names ≠ [] := by
        intro hnil
        rw [hnil] at hnames
        cases before <;> cases hnames
      have hall : p.names = before ++ name :: (after ++ [p.names.getLast hne]) := by
        rw [← List.cons_append, ← List.append_assoc, ← hnames, List.dropLast_concat_getLast]
      exact .step hfits hall hpass hstep

/-- A check that comes to the end of a path has come through its directory. -/
theorem atEnd_parent (hnull : hasNoNull p = true) :
    t.atEnd p (t.atEnd p.parent found) = t.atEnd p found := by
  by_cases hbarred : ∃ b, t.hindrance? p = some (.barrier b)
  · obtain ⟨b, hway⟩ := hbarred
    simp only [atEnd, hway]
  · have hfits : Fits p := ⟨hnull, Nat.le_of_not_lt fun hlong =>
      hbarred ⟨.tooLong, hindrance?_eq_some_iff.mpr (.long hnull hlong)⟩⟩
    have hparent : t.atEnd p.parent found = found := by
      unfold atEnd
      split
      · rename_i b hway
        exact absurd ⟨b, hindrance?_eq_some_iff.mpr
          ((hindrance?_eq_some_iff.mp hway).of_parent hfits)⟩ hbarred
      · rfl
    rw [hparent]

/-! ## 3. Null characters and barriers -/

/-- A path that names a file holds no null character. -/
theorem hasNoNull_of_file? (hfile : t.file? p = some f) : hasNoNull p = true :=
  hasNoNull_of_hindrance? (file?_eq_some_iff.mp hfile).1

theorem read_eq_nullCharacter_iff : t.read p = .error .nullCharacter ↔ hasNoNull p = false := by
  unfold read
  cases hasNoNull p with
  | false => simp
  | true =>
      cases t.file? p with
      | none => simp
      | some f =>
          simp only [Bool.not_true, Bool.false_eq_true, ↓reduceIte]
          split <;> simp

theorem checkWrite_eq_nullCharacter_iff :
    t.checkWrite p = some .nullCharacter ↔ hasNoNull p = false := by
  unfold checkWrite
  cases hasNoNull p with
  | false => simp
  | true =>
      cases t.file? p with
      | none =>
          simp only [Bool.not_true, Bool.false_eq_true, ↓reduceIte]
          split <;> simp
      | some f =>
          simp only [Bool.not_true, Bool.false_eq_true, ↓reduceIte]
          split <;> simp

/-- A check that comes down to a truth value meets a barrier on the way or nowhere. -/
theorem atEnd_eq_barred_iff {allowed : Bool} :
    t.atEnd p (.ofBool allowed) = .barred b q ↔ t.Hinders p (.barrier b) ∧ p = q := by
  rw [← hindrance?_eq_some_iff]
  unfold atEnd
  split
  · rename_i b' hway
    simp [hway]
  · rename_i hnone
    constructor
    · cases allowed <;> simp [Access.ofBool]
    · exact fun hway => absurd hway.1 (hnone b)

theorem readAccess_eq_barred_iff :
    t.readAccess p = .barred b q ↔ t.Hinders p (.barrier b) ∧ p = q :=
  atEnd_eq_barred_iff

/-- There is nothing at the end of a path that holds a null character, so its directory counts. -/
theorem writeAccess_of_null (hnull : hasNoNull p = false) : t.writeAccess p =
    t.atEnd p.parent (.ofBool ((t.directory? p.parent).any Directory.creatable)) := by
  have hway : t.hindrance? p = some .nullCharacter := hindrance?_eq_nullCharacter_iff.mpr hnull
  have hfile : t.file? p = none := by simp [file?, hway]
  have hdirectory : t.directory? p = none := by simp [directory?, hway]
  rw [writeAccess, hfile, hdirectory, atEnd, hway]

/-- The way to any other path is all that can keep it from being checked. -/
theorem writeAccess_of_noNull (hnull : hasNoNull p = true) :
    ∃ allowed, t.writeAccess p = t.atEnd p (.ofBool allowed) := by
  unfold writeAccess
  cases t.file? p with
  | some f => exact ⟨f.writable, rfl⟩
  | none =>
      cases t.directory? p with
      | some d => exact ⟨false, rfl⟩
      | none => exact ⟨_, atEnd_parent hnull⟩

/-- **Where the way to the output is barred**: that of its path or, if there is a null character in
    its name, that of its directory. -/
theorem writeAccess_eq_barred_iff : t.writeAccess p = .barred b q ↔
    t.Hinders q (.barrier b) ∧ (p = q ∨ hasNoNull p = false ∧ p.parent = q) := by
  cases hnull : hasNoNull p with
  | false =>
      have hne : p = q → ¬ t.Hinders q (.barrier b) := by
        intro heq hway
        subst heq
        cases (hindrance?_eq_nullCharacter_iff.mpr hnull).symm.trans
          (hindrance?_eq_some_iff.mpr hway)
      rw [writeAccess_of_null hnull, atEnd_eq_barred_iff]
      constructor
      · intro hbarred
        obtain ⟨hway, rfl⟩ := hbarred
        exact ⟨hway, Or.inr ⟨rfl, rfl⟩⟩
      · intro hbarred
        obtain ⟨hway, hp | ⟨-, rfl⟩⟩ := hbarred
        · exact absurd hway (hne hp)
        · exact ⟨hway, rfl⟩
  | true =>
      obtain ⟨allowed, haccess⟩ := writeAccess_of_noNull hnull (t := t)
      rw [haccess, atEnd_eq_barred_iff]
      constructor
      · intro hbarred
        obtain ⟨hway, rfl⟩ := hbarred
        exact ⟨hway, Or.inl rfl⟩
      · intro hbarred
        obtain ⟨hway, rfl | ⟨hfalse, -⟩⟩ := hbarred
        · exact ⟨hway, rfl⟩
        · cases hfalse

/-- A path that may be read names a file. -/
theorem file_of_readAccess (haccess : t.readAccess p = .granted) :
    ∃ f, t.file? p = some f ∧ f.readable = true := by
  unfold readAccess atEnd at haccess
  split at haccess
  · cases haccess
  · cases hfile : t.file? p with
    | none => simp [hfile, Access.ofBool] at haccess
    | some f => exact ⟨f, rfl, by simpa [hfile, Access.ofBool] using haccess⟩

/-- What can be read may be read. -/
theorem readAccess_of_read {content : List UInt8} (hread : t.read p = .ok content) :
    t.readAccess p = .granted := by
  obtain ⟨f, hfile, hreadable, -⟩ := read_eq_ok_iff.mp hread
  rw [readAccess, atEnd, (file?_eq_some_iff.mp hfile).1, hfile]
  simp [hreadable, Access.ofBool]

/-! ## 4. Writing -/

/-- The path can be written: it may be, and it can be opened. -/
structure CanWrite (t : FileTree) (p : Path) : Prop where
  access : t.writeAccess p = .granted
  check : t.checkWrite p = none

end FileTree

end MarkdownTemplate
