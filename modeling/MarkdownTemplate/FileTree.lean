import MarkdownTemplate.Path

/-!
# File trees

A file tree is a finite set of files and directories. This file fixes

* `File`, `Directory`, `FileTree` -- files and directories with their permissions, and the tree that
  holds them;
* `FileTree.hindrance?` -- what keeps a path from being followed through the directories;
* `FileTree.read` -- the content of a file that can be opened;
* `FileTree.readAccess`, `FileTree.writeAccess` -- the permission checks that open nothing;
* `FileTree.checkWrite`, `FileTree.store` -- opening a file for writing, and its new content;
* `FileTree.lookup_put` -- a file that is put somewhere is found there and changes no other.

A path that begins with two slashes names the same file as with one. A path may not be longer than
4095 bytes nor a name longer than 255, and no path holds a null character. A path is followed name
by name from the root: every name is looked up in a directory that must be there and that must
allow it to be searched, and only then does the length of the name matter.
-/

namespace MarkdownTemplate

/-- A file. -/
structure File where
  content : List UInt8
  /-- The file may be read. -/
  readable : Bool := true
  /-- The file may be written. -/
  writable : Bool := true
  /-- Opening the file succeeds. -/
  opens : Bool := true
  deriving DecidableEq

/-- A directory. -/
structure Directory where
  /-- Files may be created in it. -/
  creatable : Bool := true
  /-- Names may be looked up in it. -/
  searchable : Bool := true
  deriving DecidableEq

/-- A truth value stands for a directory that may be searched: it says whether files may be created
    in it. -/
instance : Coe Bool Directory where
  coe creatable := { creatable }

/-- Where a file or directory lies: the names from the root. -/
abbrev Location := List Text

/-- Files and directories. -/
structure FileTree where
  files : List (Location × File)
  directories : List (Location × Directory)
  deriving DecidableEq

/-- Why the system refuses to follow a path. -/
inductive Barrier where
  /-- The path is too long, or the next name is. -/
  | tooLong
  /-- The directory may not be searched for the next name. -/
  | sealed
  deriving DecidableEq

/-- What keeps a path from being followed. -/
inductive Hindrance where
  /-- The path holds a null character. -/
  | nullCharacter
  /-- There is no directory in which the next name could be looked up. -/
  | missing
  | barrier (b : Barrier)
  deriving DecidableEq

/-- Why a file cannot be opened. -/
inductive OpenFault where
  /-- The path holds a null character. -/
  | nullCharacter
  /-- There is no such file, or it may not be opened. -/
  | refused
  deriving DecidableEq

/-- What a permission check finds. -/
inductive Access where
  | granted
  | denied
  /-- The check cannot be made, because this path is not followed. -/
  | barred (b : Barrier) (path : Path)
  deriving DecidableEq

/-- What a permission check finds that comes down to a truth value. -/
def Access.ofBool (allowed : Bool) : Access :=
  if allowed then granted else denied

namespace FileTree

/-! ## 1. Following a path -/

/-- The longest name, in bytes. -/
def longestName : Nat := 255

/-- The longest path, in bytes. -/
def longestPath : Nat := 4095

/-- The length of a text in bytes. -/
def byteLength (s : Text) : Nat :=
  s.foldr (fun c n => c.utf8Size + n) 0

/-- No name of the path holds a null character. -/
def hasNoNull (p : Path) : Bool :=
  p.names.all fun name => !name.hasNull

/-- What keeps a name from being looked up in the directory at a location. -/
def stepHindrance? (t : FileTree) (location : Location) (name : Text) : Option Hindrance :=
  match t.directories.lookup location with
  | none => some .missing
  | some d =>
    if !d.searchable then some (.barrier .sealed)
    else if longestName < byteLength name then some (.barrier .tooLong)
    else none

/-- What keeps names from being looked up one after the other, from a location on. -/
def walkHindrance? (t : FileTree) (location : Location) : List Text → Option Hindrance
  | [] => none
  | name :: rest =>
    (t.stepHindrance? location name).or (t.walkHindrance? (location ++ [name]) rest)

/-- What keeps a path from being followed. The path as a whole is looked at first. -/
def hindrance? (t : FileTree) (p : Path) : Option Hindrance :=
  if !hasNoNull p then some .nullCharacter
  else if longestPath < byteLength p.text then some (.barrier .tooLong)
  else t.walkHindrance? [] p.names

theorem hasNoNull_of_hindrance? {t : FileTree} {p : Path} (h : t.hindrance? p = none) :
    hasNoNull p = true := by
  cases hnull : hasNoNull p with
  | false => simp [hindrance?, hnull] at h
  | true => rfl

/-! ## 2. Looking -/

/-- The file that a path names. -/
def file? (t : FileTree) (p : Path) : Option File :=
  if t.hindrance? p = none then t.files.lookup p.names else none

/-- The directory that a path names. -/
def directory? (t : FileTree) (p : Path) : Option Directory :=
  if t.hindrance? p = none then t.directories.lookup p.names else none

theorem file?_eq_some_iff {t : FileTree} {p : Path} {f : File} :
    t.file? p = some f ↔ t.hindrance? p = none ∧ t.files.lookup p.names = some f := by
  simp [file?]

/-- What a check finds at the end of a path. A path that leads nowhere is no reason for it to fail,
    nor is a null character: there is nothing at its end then. -/
def atEnd (t : FileTree) (p : Path) (found : Access) : Access :=
  match t.hindrance? p with
  | some (.barrier b) => .barred b p
  | _ => found

/-- Whether the path names a file that may be read. -/
def readAccess (t : FileTree) (p : Path) : Access :=
  t.atEnd p (.ofBool ((t.file? p).any File.readable))

/-- Whether the path names a file that may be written, or nothing yet in a directory where files
    may be created. -/
def writeAccess (t : FileTree) (p : Path) : Access :=
  t.atEnd p <|
    match t.file? p, t.directory? p with
    | some f, _ => .ofBool f.writable
    | none, some _ => .denied
    | none, none =>
      t.atEnd p.parent (.ofBool ((t.directory? p.parent).any Directory.creatable))

/-- The content of the file that a path names. -/
def read (t : FileTree) (p : Path) : Except OpenFault (List UInt8) :=
  if !hasNoNull p then .error .nullCharacter
  else
    match t.file? p with
    | some f => if f.readable && f.opens then .ok f.content else .error .refused
    | none => .error .refused

/-- Opening the file that a path names for writing: what goes wrong, if anything does. -/
def checkWrite (t : FileTree) (p : Path) : Option OpenFault :=
  if !hasNoNull p then some .nullCharacter
  else
    match t.file? p with
    | some f => if f.writable && f.opens then none else some .refused
    | none =>
      if t.hindrance? p = none ∧ t.directory? p = none ∧
          (t.directory? p.parent).any Directory.creatable then none
      else some .refused

/-! ## 3. Changing -/

/-- The files with a file put in place of the one at the same location, or added. -/
def put (location : Location) (f : File) : List (Location × File) → List (Location × File)
  | [] => [(location, f)]
  | e :: rest => if e.1 = location then (location, f) :: rest else e :: put location f rest

theorem lookup_entry (other location : Location) (f : File) (rest : List (Location × File)) :
    ((location, f) :: rest).lookup other =
      if other = location then some f else rest.lookup other := by
  by_cases h : other = location
  · simp [h]
  · have hb : (other == location) = false := by simpa using h
    simp [List.lookup_cons, hb, h]

/-- **A file that is put somewhere is found there; everywhere else nothing changes.** -/
theorem lookup_put (location other : Location) (f : File) (files : List (Location × File)) :
    (put location f files).lookup other =
      if other = location then some f else files.lookup other := by
  induction files with
  | nil => rw [put, lookup_entry]
  | cons e rest ih =>
    obtain ⟨here, old⟩ := e
    by_cases h : here = location
    · by_cases ho : other = location <;> simp [put, lookup_entry, h, ho]
    · by_cases ho : other = here
      · simp [put, h, ho]
      · simp [put, lookup_entry, h, ho, ih]

/-- The tree with new content in a file; a new file has all permissions. -/
def store (t : FileTree) (p : Path) (content : List UInt8) : FileTree :=
  let f : File :=
    match t.files.lookup p.names with
    | some f => { f with content }
    | none => { content }
  { t with files := put p.names f t.files }

/-- The tree with a directory, unless it is there already. -/
def addDirectory (t : FileTree) (location : Location) (d : Directory) : FileTree :=
  if (t.directories.lookup location).isSome then t
  else { t with directories := t.directories ++ [(location, d)] }

/-- The locations above a location, the root first. -/
def above (location : Location) : List Location :=
  (List.range location.length).map location.take

/-- The tree with a directory and all directories above it. -/
def makeDirectory (t : FileTree) (location : Location) (d : Directory) : FileTree :=
  ((above location).foldl (fun t l => t.addDirectory l true) t).addDirectory location d

/-- The tree with a file, and all directories above it. -/
def addFile (t : FileTree) (location : Location) (f : File) : FileTree :=
  let t := (above location).foldl (fun t l => t.addDirectory l true) t
  { t with files := put location f t.files }

/-- The tree without a file. -/
def remove (t : FileTree) (location : Location) : FileTree :=
  { t with files := t.files.filter fun e => e.1 != location }

/-- The tree of the root alone. -/
def empty : FileTree :=
  ⟨[], [([], true)]⟩

end FileTree

end MarkdownTemplate
