import BuildScan.Invocation
import BuildScan.SourceUnit
import BuildScan.Toolchain

/-!
The command that knows the flags of libraries.  Its answer is what it writes, without the blanks
around it.
-/

namespace BuildScan

open BuildScan.Text

structure PkgConfig where
  command : String
  deriving Repr, DecidableEq

namespace PkgConfig

/-- The command looked up on the search path when it is run. -/
def unlocated : PkgConfig := ⟨"pkg-config"⟩

/-- The command that a toolchain found, or else the one on the search path. -/
def ofToolchain (t : Toolchain) : PkgConfig :=
  match t.path .pkgConfig with
  | .ok path => ⟨path⟩
  | .error _ => unlocated

variable {σ : Type}

/-- Asks for the flags of one library. -/
def query (host : Host σ) (pc : PkgConfig) (mode : FlagMode) (library : String) :
    Action σ (Except BuildError String) := do
  let inv := (Invocation.new pc.command).withArgs [mode.option, library]
  match ← inv.output host with
  | .error e => return .error e
  | .ok stdout =>
    match decode stdout with
    | .ok text => return .ok (trimmed text)
    | .error fault => return .error (.malformedOutput inv.commandLine fault.message)

/-- The command as something that knows flags. -/
def flagSource (host : Host σ) (pc : PkgConfig) : FlagSource σ := ⟨pc.query host⟩

end PkgConfig

/-- A toolchain as something that knows flags. -/
def Toolchain.flagSource {σ : Type} (host : Host σ) (t : Toolchain) : FlagSource σ :=
  ⟨fun mode library => (PkgConfig.ofToolchain t).query host mode library⟩

end BuildScan
