import BuildScan.Error
import BuildScan.Text.Blank
import BuildScan.Path

/-!
The platform that a build is for and where its tools may lie.  Values come from the environment; a
variable that shows nothing counts as unset.
-/

namespace BuildScan

open BuildScan.Text

structure Config where
  goos : String
  goarch : String
  /-- A directory for tools that are not on the search path. -/
  gobin : Option String
  /-- Build tags satisfied besides the platform's own. -/
  tags : List String
  deriving Repr, DecidableEq

namespace Config

/-- The platform that the program runs on, and so the one that a build is for if nothing else is
said.  All of this development is about a program that runs on Linux, on a processor of the AMD64
family; on another machine this is the definition to change. -/
def host : Config := ⟨"linux", "amd64", none, []⟩

instance : Inhabited Config := ⟨host⟩

/-- The value of a variable, unless it shows nothing. -/
def visible? (lookup : String → Option String) (key : String) : Option String :=
  (lookup key).filter fun value => !isBlankText value

/-- Reads the variables `GOOS`, `GOARCH`, `GOBIN` and `GOROOT`. -/
def ofLookup (lookup : String → Option String) : Config :=
  { goos := (visible? lookup "GOOS").getD host.goos
    goarch := (visible? lookup "GOARCH").getD host.goarch
    gobin := (visible? lookup "GOBIN").or
      ((visible? lookup "GOROOT").map fun root => Path.join root "bin")
    tags := [] }

/-- The first letter of the architecture's own tools. -/
def archLetter (config : Config) : Except BuildError Char :=
  match config.goarch with
  | "amd64" => .ok '6'
  | "386" => .ok '8'
  | "arm" => .ok '5'
  | "arm64" => .ok '7'
  | other => .error (.config s!"unsupported architecture '{other}'")

end Config

end BuildScan
