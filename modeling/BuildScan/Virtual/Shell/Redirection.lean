import BuildScan.Virtual.Shell.Expansion

/-!
Leading streams elsewhere.  The texts of all redirections of a command are expanded first; then the
streams are led to files, to other streams or to documents, one after the other, up to the first one
where that fails.  What a descriptor led to before is kept, so that it can be led back.
-/

namespace BuildScan.Virtual.Shell

open BuildScan.Text

/-- Where a descriptor is led. -/
inductive Goal where
  | file (descriptor : Nat) (opening : Opening) (path : Octets)
  | copy (descriptor original : Nat)
  | closed (descriptor : Nat)
  | document (descriptor number : Nat)

namespace Goal

def descriptor : Goal → Nat
  | file d _ _ => d
  | copy d _ => d
  | closed d => d
  | document d _ => d

end Goal

/-- Where a redirection leads. -/
def goalOf (outputOf : OutputOf) : Redirect → Run Goal
  | .file d opening target => do return .file d opening (← expandWhole outputOf target)
  | .copy d (.stream n) => return .copy d n
  | .copy d .closed => return .closed d
  | .copy d (.named word) => do
    match ← expandWhole outputOf word with
    | ['-'] => return .closed d
    | [c] => if c.isDigit then return .copy d (c.toNat - 48) else refuse
    | _ => refuse
  | .document d number => return .document d number
where
  refuse : Run Goal := do
    changeProcess fun p => { p with line := p.nextLine }
    fail (octetsOf "Syntax error: Bad fd number")

/-- The file may be changed or made. -/
def mayWrite : Opening → Bool
  | .read => false
  | _ => true

/-- Says that a file cannot be opened. -/
def refuseFile {α : Type} (opening : Opening) (path : Octets) (e : OsError) : Run α :=
  let deed := if mayWrite opening then "cannot create " else "cannot open "
  let missing := if mayWrite opening then "Directory nonexistent" else "No such file"
  let reason := if e.isAbsence then octetsOf missing else reasonOf e
  fail (octetsOf deed ++ path ++ octetsOf ": " ++ reason)

/-- The place of a file that is opened, and whether there is one.  A path to a file that is not
there must not end in a slash. -/
def placeToOpen (s : State) (opening : Opening) (path : Octets) : Except OsError (Place × Bool) :=
  let locate (path : Octets) : Except OsError (Place × Bool) :=
    s.world.files.locate s.process.cwd (pathOf path)
  let stem := (path.reverse.dropWhile (· == '/')).reverse
  if mayWrite opening && stem.length < path.length && !stem.isEmpty then
    match locate stem with
    | .ok _ => .error .isADirectory
    | .error e => .error e
  else
    match locate path with
    | .ok (_, false) => if mayWrite opening then locate path else .error .notFound
    | found => found

/-- Opens a file and gives the number of the stream. -/
def openFile (opening : Opening) (path : Octets) : Run Nat := do
  let s ← get
  let refuse (e : OsError) : Run Nat := refuseFile opening path e
  let stream (place : Place) : Stream :=
    .file place 0 (opening == .append) (opening == .read || opening == .readWrite)
      (mayWrite opening)
  let atFile (place : Place) : Run Nat := do
    let keepsFiles ← isOn 'C'
    if opening == .write && keepsFiles then refuse .exists_
    else
      if opening == .write || opening == .overwrite then
        changeWorld fun w => { w with files := w.files.setContent place [] }
      newStream (stream place)
  match placeToOpen s opening path with
  | .error e => refuse e
  | .ok (place, _) =>
    match s.world.files.at? place with
    | none =>
      let mode := 0o666 &&& (0o777 ^^^ s.process.mask)
      changeWorld fun w => { w with files := w.files.put place (.file mode []) }
      newStream (stream place)
    | some (.file _ _) => atFile place
    | some .directory => if mayWrite opening then refuse .isADirectory else newStream .directory
    | some (.program _) =>
      if mayWrite opening then refuse .permissionDenied else newStream (.source Files.programBytes)
    | some (.stream d) =>
      match s.process.descriptors.lookup d with
      | none => refuse .notFound
      | some number =>
        match s.world.streams[number]? with
        | some (.file place _ _ _ _) => atFile place
        | _ => return number
    | some _ => newStream .void

/-- Leads a descriptor to its goal. -/
def attain (outputOf : OutputOf) : Goal → Run Unit
  | .file d opening path => do lead d (some (← openFile opening path))
  | .copy d original => do
    if d != original then
      match (← process).descriptors.lookup original with
      | some number => lead d (some number)
      | none => fail (decimal original ++ octetsOf ": " ++ reasonOf .badDescriptor)
  | .closed d => lead d none
  | .document d number => do
    match (← process).documents.lookup number with
    | none => lead d (some (← newStream (.source [])))
    | some document =>
      let text ← expandDocument outputOf document.body
      lead d (some (← newStream (.source (bytes text))))

/-- Leads descriptors to their goals; gives whether that was possible. -/
def attainAll (outputOf : OutputOf) (goals : List Goal) : Run Bool :=
  tryCatch
    (do
      goals.forM (attain outputOf)
      return true)
    fun b => match b with
      | .failed => return false
      | b => throw b

/-- Leads some descriptors back to where they led before. -/
def leadBack (goals : List Goal) (before : List (Nat × Nat)) : Run Unit :=
  goals.forM fun g => lead g.descriptor (before.lookup g.descriptor)

end BuildScan.Virtual.Shell
