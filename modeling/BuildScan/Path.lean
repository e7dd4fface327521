/-!
File paths as text, with `/` between their components.  Nothing here looks at files.
-/

namespace BuildScan.Path

/-- A path below `base`: an absolute one replaces it, and a separator is put in between where `base`
has none at its end. -/
def join (base relative : String) : String :=
  if relative.startsWith "/" then relative
  else if base.isEmpty || base.endsWith "/" then base ++ relative
  else base ++ "/" ++ relative

/-- The components of a path, empty ones included. -/
def components (path : String) : List String :=
  (path.toList.splitOnP (· == '/')).map String.ofList

/-- The last component, where trailing separators and `.` components do not count.  A path that is
empty, is the root, or goes up at its end has none. -/
def fileName? (path : String) : Option String :=
  let proper := (components path).filter fun c => c != "" && c != "."
  match proper.getLast? with
  | some ".." => none
  | last => last

end BuildScan.Path
