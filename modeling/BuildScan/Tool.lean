/-!
The tools that a build uses, by what they are for.
-/

namespace BuildScan

inductive Tool where
  | compiler
  | assembler
  | linker
  | archiver
  | cgo
  | make
  | installer
  | formatter
  | fixer
  | gcc
  | cCompiler
  | protoc
  | pkgConfig
  | copy
  deriving Repr, DecidableEq

namespace Tool

/-- The tools without which nothing can be built, in the order in which they are looked for. -/
def required : List Tool := [compiler, assembler, linker, archiver]

/-- The other tools, in that order. -/
def optional : List Tool :=
  [cgo, make, installer, formatter, fixer, gcc, cCompiler, protoc, pkgConfig, copy]

def isRequired (t : Tool) : Bool := required.contains t

/-- The name of a tool in texts. -/
def name : Tool → String
  | compiler => "compiler"
  | assembler => "assembler"
  | linker => "linker"
  | archiver => "archiver"
  | cgo => "cgo"
  | make => "make"
  | installer => "installer"
  | formatter => "formatter"
  | fixer => "fixer"
  | gcc => "gcc"
  | cCompiler => "c-compiler"
  | protoc => "protoc"
  | pkgConfig => "pkg-config"
  | copy => "copy"

/-- The tool with a name. -/
def ofName? (s : String) : Option Tool := (required ++ optional).find? fun t => t.name == s

/-- The executable of a tool for an architecture, given by its letter. -/
def binaryName (arch : Char) : Tool → String
  | compiler => String.ofList [arch, 'g']
  | assembler => String.ofList [arch, 'a']
  | linker => String.ofList [arch, 'l']
  | cCompiler => String.ofList [arch, 'c']
  | archiver => "gopack"
  | cgo => "cgo"
  | make => "gomake"
  | installer => "goinstall"
  | formatter => "gofmt"
  | fixer => "gofix"
  | gcc => "gcc"
  | protoc => "protoc"
  | pkgConfig => "pkg-config"
  | copy => "cp"

/-- Tools of the host are taken from the search path only; the others also from the tool
directory. -/
def searchesGobin : Tool → Bool
  | gcc => false
  | protoc => false
  | pkgConfig => false
  | copy => false
  | _ => true

end Tool

end BuildScan
