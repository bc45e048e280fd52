import KernelLog.Bytes
import KernelLog.IoError
/-!
# File systems

A file system gives names to files, directories, symbolic links and two devices: one that refuses
every write and one that swallows it. Contents are kept apart from names, under numbers, so that a
file keeps them while it has several names, or none any more and is still open.

Opening a file changes nothing. An open file is a `Descriptor`, a value with an offset of its own
that starts at 0; a write stores its bytes there, over what is there, and moves the offset on. It
stores all of them or, on failure, none.

Everything here is a plain value: a path is resolved in the file system it is given, and a change
gives the file system after it.
-/
namespace KernelLog

/-- A place in the file system: the names that lead there from the root. -/
abbrev Location := List Bytes

/-- A device file without contents. -/
inductive Device
  /-- Refuses every write for want of space; reads as an endless run of zeros. -/
  | full
  /-- Takes every write and keeps nothing; reads as an empty file. -/
  | null
  deriving DecidableEq, Repr

/-- What a name stands for. -/
inductive Entry
  /-- A regular file, by the number of its contents. -/
  | file (number : Nat)
  | directory
  | link (target : Bytes)
  | device (device : Device)
  deriving DecidableEq, Repr

/-- Names and contents. The root directory has no entry and always exists. -/
structure FileSystem where
  entries : List (Location × Entry)
  contents : List Bytes
  deriving DecidableEq, Repr

/-- What an open file writes to. -/
inductive Sink
  | file (number : Nat)
  | device (device : Device)
  deriving DecidableEq, Repr

/-- A file opened for writing: where its bytes go, and the offset the next ones are stored at. -/
structure Descriptor where
  sink : Sink
  offset : Nat
  deriving DecidableEq, Repr

namespace FileSystem

/-- What stands at a location, links not followed. -/
def entryAt? (files : FileSystem) (place : Location) : Option Entry :=
  if place = [] then some .directory else files.entries.lookup place

/-- The contents of the file with a given number. -/
def content (files : FileSystem) (number : Nat) : Bytes :=
  files.contents.getD number []

/-- The file system in which a file has other contents. Numbers up to there that have had none yet
have empty ones from then on. -/
def setContent (files : FileSystem) (number : Nat) (content : Bytes) : FileSystem :=
  let room := files.contents ++ List.replicate (number + 1 - files.contents.length) []
  { files with contents := room.set number content }

/-- A file has the contents it was given last; those of the others stay. -/
theorem content_setContent (files : FileSystem) (number other : Nat) (content : Bytes) :
    (files.setContent number content).content other =
      if other = number then content else files.content other := by
  simp only [FileSystem.content, setContent, List.getD_eq_getElem?_getD, List.getElem?_set,
    List.length_append, List.length_replicate]
  by_cases same : other = number
  · subst same
    have inside : other < files.contents.length + (other + 1 - files.contents.length) := by omega
    simp [inside]
  · have different : number ≠ other := fun equal => same equal.symm
    simp only [if_neg different, if_neg same, List.getElem?_append]
    by_cases known : other < files.contents.length
    · simp [known]
    · have unknown : files.contents[other]? = none := by simp at known; simp [known]
      simp only [if_neg known, unknown, Option.getD_none, List.getElem?_replicate]
      split <;> rfl

/-! ## Paths -/

/-- The byte that separates the names in a path. -/
def separator : UInt8 := 0x2F

/-- The names in a path. Separators at its ends and next to each other leave empty names. -/
def components (path : Bytes) : List Bytes :=
  path.foldr
    (fun byte names =>
      if byte == separator then [] :: names
      else
        match names with
        | [] => [[byte]]
        | name :: rest => (byte :: name) :: rest)
    [[]]

/-- A path with one more name behind it. One separator stands between them: the path's own, or a
new one. An empty path leaves the name alone. -/
def join (path name : Bytes) : Bytes :=
  if path = [] || path.getLast? == some separator then path ++ name else path ++ separator :: name

/-- Where a path starts: at the root, or at the place its last link stands. -/
def origin (path : Bytes) (here : Location) : Location :=
  if path.head? == some separator then [] else here

/-- The names of a path that tell it from other paths: without empty names and `.`, unless a
relative path starts with it. The first name of an absolute path is empty. -/
def significant (path : Bytes) : List Bytes :=
  if path = [] then []
  else
    match components path with
    | [] => []
    | first :: rest => first :: rest.filter fun name => name ≠ [] && name ≠ Bytes.ofText "."

/-- The length of the longest name. -/
def longestName : Nat := 255

/-- The length that a whole path has to stay below. -/
def pathLimit : Nat := 4096

/-- The number of symbolic links followed in one path. -/
def linkLimit : Nat := 40

/-- Follows names from a directory. An empty name and `.` stay, `..` goes up, and every other name
has to be there and, unless it is the last, to be a directory. `follow` goes on with what a link
puts in its place. -/
def descend (files : FileSystem)
    (follow : Location → List Bytes → Except IoError (Location × Entry)) :
    Location → List Bytes → Except IoError (Location × Entry)
  | here, [] => .ok (here, .directory)
  | here, name :: rest =>
    if name = [] ∨ name = Bytes.ofText "." then descend files follow here rest
    else if name = Bytes.ofText ".." then descend files follow here.dropLast rest
    else if longestName < name.length then .error .nameTooLong
    else
      match files.entryAt? (here ++ [name]) with
      | none => .error .noSuchEntry
      | some .directory => descend files follow (here ++ [name]) rest
      | some (.link target) => follow (origin target here) (components target ++ rest)
      | some entry => if rest = [] then .ok (here ++ [name], entry) else .error .notADirectory

/-- Follows names from a directory through at most a given number of links. -/
def descendThrough (files : FileSystem) :
    Nat → Location → List Bytes → Except IoError (Location × Entry)
  | 0 => files.descend fun _ _ => .error .tooManyLinks
  | links + 1 => files.descend (files.descendThrough links)

/-- What a path leads to, links followed. Relative paths start at the root. -/
def resolve (files : FileSystem) (path : Bytes) : Except IoError (Location × Entry) :=
  if path.contains 0 then .error .nulInPath
  else if path = [] then .error .noSuchEntry
  else if pathLimit ≤ path.length then .error .nameTooLong
  else files.descendThrough linkLimit [] (components path)

/-! ## Reading and writing -/

/-- Opens what a path leads to for writing. Nothing is created and nothing is cut off. -/
def openForWriting (files : FileSystem) (path : Bytes) : Except IoError Descriptor := do
  match (← files.resolve path).2 with
  | .file number => .ok { sink := .file number, offset := 0 }
  | .device device => .ok { sink := .device device, offset := 0 }
  | .directory | .link _ => .error .isADirectory

/-- Reads the whole of what a path leads to. -/
def read (files : FileSystem) (path : Bytes) : Except IoError Bytes := do
  match (← files.resolve path).2 with
  | .file number => .ok (files.content number)
  | .device .null => .ok []
  | .device .full => .error .outOfMemory
  | .directory | .link _ => .error .isADirectory

/-- Writes bytes to an open file, all or nothing. A regular file has them stored at the offset. -/
def write (files : FileSystem) (descriptor : Descriptor) (bytes : Bytes) :
    Except IoError (Descriptor × FileSystem) :=
  let moved := { descriptor with offset := descriptor.offset + bytes.length }
  match descriptor.sink with
  | .file number =>
    .ok (moved, files.setContent number
      (Bytes.overwrite (files.content number) descriptor.offset bytes))
  | .device .null => .ok (moved, files)
  | .device .full => .error .noSpace

/-! ## Changes of names -/

/-- What is put under a name. -/
inductive Change
  /-- Nothing: the name is only removed. -/
  | remove
  /-- A new regular file. -/
  | file (content : Bytes)
  | directory
  /-- A symbolic link, whose target need not exist. -/
  | link (target : Bytes)
  /-- A further name for what stands at another location. -/
  | alias (existing : Location)
  deriving DecidableEq, Repr

/-- Takes away a name and all names below it. Contents stay, for whoever has them open. -/
def remove (files : FileSystem) (place : Location) : FileSystem :=
  { files with entries := files.entries.filter fun (name, _) => !place.isPrefixOf name }

/-- Puts an entry at a location that is free. -/
def put (files : FileSystem) (place : Location) (entry : Entry) : FileSystem :=
  { files with entries := files.entries ++ [(place, entry)] }

/-- Follows names from a directory, links included, and makes a directory where a name leads
nowhere. Gives the file system with those directories, and where the names lead in it. -/
def makeWay : FileSystem → Location → List Bytes → FileSystem × Location
  | files, here, [] => (files, here)
  | files, here, name :: rest =>
    match files.descendThrough linkLimit here [name] with
    | .ok (there, _) => makeWay files there rest
    | .error _ => makeWay (files.put (here ++ [name]) .directory) (here ++ [name]) rest

/-- Making way makes names alone. -/
theorem contents_makeWay (files : FileSystem) (here : Location) (names : List Bytes) :
    (files.makeWay here names).1.contents = files.contents := by
  induction names generalizing files here with
  | nil => rfl
  | cons name rest inductionHypothesis =>
    simp only [makeWay]
    split
    · exact inductionHypothesis _ _
    · rw [inductionHypothesis]
      rfl

/-- The location that a location leads to if links among its directories are followed. The last name
is not followed, whether it stands for a link or for nothing at all. -/
def locate? (files : FileSystem) (place : Location) : Option Location :=
  match files.descendThrough linkLimit [] place.dropLast with
  | .ok (directory, _) => some (directory ++ place.getLast?.toList)
  | .error _ => none

/-- Removes what stands at a location, makes the directories that lead there, and puts something
new in its place. Links among the directories are followed both times; they may lead elsewhere the
second time, if what was removed was one of them. -/
def apply (files : FileSystem) (place : Location) (change : Change) : FileSystem :=
  let cleared := ((files.locate? place).map files.remove).getD files
  let (made, directory) := cleared.makeWay [] place.dropLast
  let place := directory ++ place.getLast?.toList
  match change with
  | .remove => made
  | .file content =>
    { made.put place (.file made.contents.length) with contents := made.contents ++ [content] }
  | .directory => made.put place .directory
  | .link target => made.put place (.link target)
  | .alias existing =>
    match (made.locate? existing).bind made.entryAt? with
    | some entry => made.put place entry
    | none => made

/-- Contents stay through every change of names. A new file brings its own. -/
theorem contents_apply (files : FileSystem) (place : Location) (change : Change) :
    files.contents <+: (files.apply place change).contents := by
  have cleared : (((files.locate? place).map files.remove).getD files).contents =
      files.contents := by
    cases files.locate? place <;> rfl
  simp only [apply]
  match change with
  | .remove => simp only [contents_makeWay, cleared, List.prefix_rfl]
  | .file content =>
    simp only [contents_makeWay, cleared]
    exact List.prefix_append _ _
  | .directory => simp only [put, contents_makeWay, cleared, List.prefix_rfl]
  | .link target => simp only [put, contents_makeWay, cleared, List.prefix_rfl]
  | .alias existing =>
    dsimp only
    split <;> simp only [put, contents_makeWay, cleared, List.prefix_rfl]

/-- A file system with nothing but the two devices. -/
def initial : FileSystem where
  entries :=
    [([Bytes.ofText "dev"], .directory),
     ([Bytes.ofText "dev", Bytes.ofText "full"], .device .full),
     ([Bytes.ofText "dev", Bytes.ofText "null"], .device .null)]
  contents := []

/-! ## What a directory shows -/

/-- The absolute path of a location. -/
def absolutePath (place : Location) : Bytes :=
  if place = [] then [separator] else place.flatMap (separator :: ·)

/-- The regular files at and below a place, and the links there that lead to regular files, each
under its names from that place. Links to directories are not followed. -/
def regularFiles (files : FileSystem) (root : Location) : List (Location × Bytes) :=
  files.entries.filterMap fun (name, entry) =>
    if root.isPrefixOf name && entry ≠ .directory then
      match files.resolve (absolutePath name) with
      | .ok (_, .file number) => some (name.drop root.length, files.content number)
      | _ => none
    else none

/-- The regular files of a directory that differ between two times, with what they hold at the
second one. -/
def differences (before after : List (Location × Bytes)) : List (Location × Option Bytes) :=
  (after.filter fun (name, content) => before.lookup name != some content).map
      (fun (name, content) => (name, some content)) ++
    (before.filter fun (name, _) => (after.lookup name).isNone).map
      (fun (name, _) => (name, none))

end FileSystem
end KernelLog
