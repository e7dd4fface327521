import BuildScan.Text.Lines
import BuildScan.Text.Quoted

/-!
What can go wrong, by cause, and the wording of each cause.
-/

namespace BuildScan

open BuildScan.Text

inductive BuildError where
  /-- A file could not be read or written. -/
  | io (reason : String)
  /-- A text is not the JSON that was asked for. -/
  | json (reason : String)
  /-- A source file does not parse. -/
  | parse (position : Position) (message : String)
  | toolNotFound (tool reason : String)
  /-- A command ran and did not succeed. -/
  | subprocess (command : String) (args : List String) (status stderr : String)
  /-- A command succeeded, and what it wrote is of no use. -/
  | malformedOutput (command reason : String)
  | config (message : String)
  deriving Repr, DecidableEq

namespace BuildError

/-- The wording of an error. -/
def message : BuildError → String
  | io reason => "I/O error: " ++ reason
  | json reason => "JSON serialization/deserialization error: " ++ reason
  | parse position message => s!"{position.line}:{position.column}: {message}"
  | toolNotFound tool reason => s!"could not find '{tool}': {reason}"
  | subprocess command args status stderr =>
    s!"command: {command} {quotedList args} ({status})\n{stderr}"
  | malformedOutput command reason => s!"malformed output from '{command}': {reason}"
  | config message => "Configuration error: " ++ message

def isToolNotFound : BuildError → Bool
  | toolNotFound _ _ => true
  | _ => false

end BuildError

end BuildScan
