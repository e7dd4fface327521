import BuildScan.Host
import BuildScan.Path

/-!
A tree of files in memory.  A place in the tree is the list of names that leads to it from the root.
A path is walked component by component: whatever it goes through must be a directory, a symbolic
link is replaced by its target, and at most `maxLinks` links are followed.  Whoever uses the tree
may read and write all of it; of the mode bits only those for execution matter.
-/

namespace BuildScan.Virtual

open BuildScan.Text

/-- The names from the root to a place. -/
abbrev Place := List String

/-- The programs that are not scripts. -/
inductive Program where
  | shell
  | echo
  | cat
  | succeed
  | fail
  deriving Repr, DecidableEq

/-- What a place holds. -/
inductive Entry where
  | file (mode : Nat) (content : Bytes)
  | directory
  | link (target : String)
  | program (p : Program)
  /-- Reads as empty and drops what is written to it. -/
  | void
  /-- Whatever a stream of the process leads to. -/
  | stream (number : Nat)
  deriving Repr, DecidableEq

/-- The entry may be executed: a program, or a file that someone may execute. -/
def Entry.isExecutable : Entry → Bool
  | .file mode _ => mode &&& 0o111 != 0
  | .program _ => true
  | _ => false

/-- A tree: the root is a directory and not listed. -/
structure Files where
  entries : List (Place × Entry)
  deriving Repr

namespace Files

def empty : Files := ⟨[]⟩

/-- What is at a place. -/
def at? (files : Files) (place : Place) : Option Entry :=
  if place.isEmpty then some .directory else files.entries.lookup place

/-- Puts an entry at a place, in the stead of what was there. -/
def put (files : Files) (place : Place) (entry : Entry) : Files :=
  ⟨(place, entry) :: files.entries.filter fun e => e.1 != place⟩

/-- Adds the directories on the way to a place that are not there. -/
def withParents (files : Files) (place : Place) : Files :=
  (List.range place.length).foldl
    (fun t n => if (t.at? (place.take n)).isSome then t else t.put (place.take n) .directory) files

/-- Puts an entry at a place and adds the directories on the way. -/
def plant (files : Files) (place : Place) (entry : Entry) : Files :=
  (files.withParents place).put place entry

/-- How far a walk comes without following a link. -/
inductive Halt where
  | arrived (place : Place)
  /-- Only the last component is not there. -/
  | missing (place : Place)
  | link (directory : Place) (target : String) (rest : List String)
  | failed (e : OsError)

/-- The longest name that a component may have, in bytes. -/
def maxName : Nat := 255

/-- Walks from a place until the path or the way ends or a link has to be followed. -/
def advance (files : Files) (place : Place) : List String → Halt
  | [] => .arrived place
  | name :: rest =>
    if files.at? place != some .directory then .failed .notADirectory
    else if name == "" || name == "." then files.advance place rest
    else if name == ".." then files.advance place.dropLast rest
    else if maxName < name.utf8ByteSize then .failed .nameTooLong
    else
      match files.at? (place ++ [name]) with
      | some (.link target) => .link place target rest
      | some _ => files.advance (place ++ [name]) rest
      | none => if rest.isEmpty then .missing (place ++ [name]) else .failed .notFound

/-- The most links that a walk follows. -/
def maxLinks : Nat := 40

/-- The place that a walk starts from. -/
def origin (cwd : Place) (path : String) : Place := if path.startsWith "/" then [] else cwd

/-- Walks from a place, following up to `budget` links. -/
def walk (files : Files) : Nat → Place → List String → Except OsError (Place × Bool)
  | budget, place, names =>
    match files.advance place names with
    | .arrived place => .ok (place, true)
    | .missing place => .ok (place, false)
    | .failed e => .error e
    | .link directory target rest =>
      match budget with
      | 0 => .error .tooManyLinks
      | budget + 1 =>
        if target.isEmpty then .error .notFound
        else files.walk budget (origin directory target) (Path.components target ++ rest)

/-- The longest path, in bytes. -/
def maxPath : Nat := 4095

/-- The place that a path leads to, seen from `cwd`, and whether there is anything. -/
def locate (files : Files) (cwd : Place) (path : String) : Except OsError (Place × Bool) :=
  if path.toList.contains '\x00' then .error .nulInFileName
  else if path.isEmpty then .error .notFound
  else if maxPath < path.utf8ByteSize then .error .nameTooLong
  else files.walk maxLinks (origin cwd path) (Path.components path)

/-- What a path leads to, and where that is. -/
def find (files : Files) (cwd : Place) (path : String) : Except OsError (Place × Entry) :=
  match files.locate cwd path with
  | .error e => .error e
  | .ok (place, _) =>
    match files.at? place with
    | some entry => .ok (place, entry)
    | none => .error .notFound

def isPresent (files : Files) (cwd : Place) (path : String) : Bool :=
  match files.find cwd path with
  | .ok _ => true
  | .error _ => false

def isDirectory (files : Files) (cwd : Place) (path : String) : Bool :=
  match files.find cwd path with
  | .ok (_, .directory) => true
  | _ => false

def isExecutable (files : Files) (cwd : Place) (path : String) : Bool :=
  match files.find cwd path with
  | .ok (_, entry) => entry.isExecutable
  | .error _ => false

/-- The first bytes of a program, which no text starts with. -/
def programBytes : Bytes := [0x7F, 0x45, 0x4C, 0x46, 0xFF]

/-- The bytes of what a path leads to. -/
def read (files : Files) (cwd : Place) (path : String) : Except OsError Bytes :=
  match files.find cwd path with
  | .error e => .error e
  | .ok (_, .directory) => .error .isADirectory
  | .ok (_, .file _ content) => .ok content
  | .ok (_, .program _) => .ok programBytes
  | .ok _ => .ok []

/-- The content of a file with bytes written over it from an offset on. -/
def overwritten (content : Bytes) (offset : Nat) (written : Bytes) : Bytes :=
  let gap := List.replicate (offset - content.length) 0
  content.take offset ++ gap ++ written ++ content.drop (offset + written.length)

/-- The content of the file at a place. -/
def contentAt (files : Files) (place : Place) : Bytes :=
  match files.at? place with
  | some (.file _ content) => content
  | _ => []

/-- Gives the file at a place another content; anything else stays as it is. -/
def setContent (files : Files) (place : Place) (content : Bytes) : Files :=
  match files.at? place with
  | some (.file mode _) => files.put place (.file mode content)
  | _ => files

/-- The names in a directory. -/
def namesIn (files : Files) (place : Place) : List String :=
  files.entries.filterMap fun e =>
    if e.1.dropLast = place then e.1.getLast? else none

end Files

end BuildScan.Virtual
