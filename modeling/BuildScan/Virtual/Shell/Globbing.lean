import BuildScan.Virtual.Files
import BuildScan.Virtual.Shell.Pattern

/-!
File names that a pattern covers.  A pattern is matched component by component; the components in
front of the first one with a special character are taken as they are.  Names that begin with a dot
are covered only by a pattern that does so, too.
-/

namespace BuildScan.Virtual.Shell

/-- Behind an opening bracket there is a closing one that closes it. -/
def closes : Nat → List Marked → Bool
  | 0, _ => false
  | fuel + 1, pattern =>
    match literal? pattern with
    | none => false
    | some (_, rest) => rest.head? = some (']', false) || closes fuel rest

/-- A component of a path has a special character. -/
def isSpecialComponent : List Marked → Bool
  | [] => false
  | ('*', false) :: _ => true
  | ('?', false) :: _ => true
  | ('[', false) :: rest =>
    let inside := if rest.head? = some ('!', false) then rest.tail else rest
    closes inside.length inside || isSpecialComponent rest
  | ('\\', false) :: _ :: rest => isSpecialComponent rest
  | _ :: rest => isSpecialComponent rest

/-- The characters that a pattern consists of if none of them is special. -/
def literalText : Nat → List Marked → Octets
  | 0, _ => []
  | fuel + 1, pattern =>
    match literal? pattern with
    | some (c, rest) => c :: literalText fuel rest
    | none => []

/-- The first component of a path, and what stands behind the slash after it. -/
def componentOf (pattern : List Marked) : List Marked × Option (List Marked) :=
  match pattern.dropWhile fun m => m.1 != '/' with
  | _ :: rest => (pattern.takeWhile fun m => m.1 != '/', some rest)
  | [] => (pattern, none)

/-- The components in front of the first special one, that one, and what follows it. -/
def firstSpecial? : Nat → List Marked → Option (List Marked × List Marked × Option (List Marked))
  | 0, _ => none
  | fuel + 1, pattern =>
    let (component, rest) := componentOf pattern
    if isSpecialComponent component then some ([], component, rest)
    else
      match rest with
      | none => none
      | some rest =>
        (firstSpecial? fuel rest).map fun r => (component ++ ('/', false) :: r.1, r.2)

/-- A directory has an entry of a name, even if that is a link to nothing. -/
def isListed (files : Files) (cwd : Place) (path : Octets) : Bool :=
  let reversed := path.reverse
  let name := (reversed.takeWhile (· != '/')).reverse
  let directory := (reversed.dropWhile (· != '/')).reverse
  if name.isEmpty then files.isPresent cwd (string path)
  else
    match files.find cwd (if directory.isEmpty then "." else string directory) with
    | .ok (place, .directory) =>
      name = ['.'] || name = ['.', '.'] || (files.at? (place ++ [string name])).isSome
    | _ => false

/-- The names in a directory that a component covers. -/
def namesCovered (files : Files) (cwd : Place) (directory : Octets) (component : List Marked) :
    List Octets :=
  match files.find cwd (if directory.isEmpty then "." else string directory) with
  | .ok (place, .directory) =>
    let names := ['.'] :: ['.', '.'] :: (files.namesIn place).map octetsOf
    let parts := globs component.length component
    let showsDots := (literal? component).map Prod.fst = some '.'
    names.filter fun name => (showsDots || name.head? != some '.') && covers parts name
  | _ => []

/-- The paths below a directory that a pattern covers.  The first argument bounds their depth. -/
def pathsBelow (files : Files) (cwd : Place) : Nat → Octets → List Marked → List Octets
  | 0, _, _ => []
  | fuel + 1, directory, pattern =>
    match firstSpecial? (pattern.length + 1) pattern with
    | none =>
      let path := directory ++ literalText pattern.length pattern
      if !directory.isEmpty && isListed files cwd path then [path] else []
    | some (front, component, rest) =>
      let directory := directory ++ literalText front.length front
      let found := (namesCovered files cwd directory component).map (directory ++ ·)
      match rest with
      | none => found
      | some rest => found.flatMap fun path => pathsBelow files cwd fuel (path ++ ['/']) rest

/-- The paths that a pattern covers, in order. -/
def pathsCovered (files : Files) (cwd : Place) (pattern : List Marked) : List Octets :=
  (pathsBelow files cwd (pattern.length + 1) [] pattern).mergeSort isUpTo

end BuildScan.Virtual.Shell
