import BuildScan.Json.Reading
import BuildScan.Json.Writing
import BuildScan.SourceUnit
import BuildScan.Toolchain

/-!
The domain's values as JSON.  A record is written as an object with its fields in order.  It is read
from an object with the fields in any order, members of other names ignored, or from an array of the
fields' values; a field that may be absent takes its default.
-/

namespace BuildScan

open BuildScan.Text BuildScan.Json

namespace Json.Value

/-- The text of a string value. -/
def string? : Value → Option String
  | text s => s
  | _ => none

/-- A number of 64 bits. -/
def word? : Value → Option Nat
  | natural n => if n < 0x10000000000000000 then some n else none
  | _ => none

def strings? : Value → Option (List String)
  | array items => items.mapM string?
  | _ => none

/-- A text or `null`. -/
def optional? : Value → Option (Option String)
  | null => some none
  | v => v.string?.map some

/-- The values under a key. -/
def valuesOf (members : List (Option String × Value)) (key : String) : List Value :=
  (members.filter fun m => m.1 == some key).map Prod.snd

/-- The value under a key that does not occur twice, or its absence. -/
def valueOf? (members : List (Option String × Value)) (key : String) : Option (Option Value) :=
  match valuesOf members key with
  | [] => some none
  | [v] => some (some v)
  | _ => none

/-- The values of the named fields of a record, absent ones included. -/
def fields? (names : List String) : Value → Option (List (Option Value))
  | object members =>
    if members.all fun m => m.1.isSome then names.mapM (valueOf? members) else none
  | array items =>
    if items.length ≤ names.length then
      some (items.map some ++ List.replicate (names.length - items.length) none)
    else none
  | _ => none

/-- Reads a field with a default. -/
def orElse (read : Value → Option α) (default : α) : Option Value → Option α
  | some v => read v
  | none => some default

end Json.Value

namespace Config

def toJson (c : Config) : Value :=
  .ofMembers [("goos", .ofString c.goos), ("goarch", .ofString c.goarch),
    ("gobin", .ofOption c.gobin), ("tags", .ofStrings c.tags)]

/-- Every field may be absent and is then that of the host. -/
def ofJson? (v : Value) : Option Config := do
  match ← v.fields? ["goos", "goarch", "gobin", "tags"] with
  | [goos, goarch, gobin, tags] =>
    return {
      goos := ← Value.orElse Value.string? host.goos goos
      goarch := ← Value.orElse Value.string? host.goarch goarch
      gobin := ← Value.orElse Value.optional? host.gobin gobin
      tags := ← Value.orElse Value.strings? host.tags tags }
  | _ => none

end Config

namespace Text.Position

def toJson (p : Position) : Value :=
  .ofMembers [("line", .natural p.line), ("column", .natural p.column)]

def ofJson? (v : Value) : Option Position := do
  match ← v.fields? ["line", "column"] with
  | [some line, some column] => return ⟨← line.word?, ← column.word?⟩
  | _ => none

end Text.Position

namespace DirectiveKind

def name : DirectiveKind → String
  | target => "target"
  | compileFlags => "compile-flags"
  | linkFlags => "link-flags"
  | pkgConfig => "pkg-config"

def ofName? (s : String) : Option DirectiveKind :=
  [target, compileFlags, linkFlags, pkgConfig].find? fun k => k.name == s

def toJson (k : DirectiveKind) : Value := .ofString k.name

/-- A kind is its name, or an object with that name as its only key and `null` under it. -/
def ofJson? : Value → Option DirectiveKind
  | .text (some s) => ofName? s
  | .object [(some s, .null)] => ofName? s
  | _ => none

end DirectiveKind

namespace Directive

def toJson (d : Directive) : Value :=
  .ofMembers [("kind", d.kind.toJson), ("payload", .ofString d.payload),
    ("position", d.position.toJson)]

def ofJson? (v : Value) : Option Directive := do
  match ← v.fields? ["kind", "payload", "position"] with
  | [some kind, some payload, some position] =>
    return ⟨← DirectiveKind.ofJson? kind, ← payload.string?, ← Position.ofJson? position⟩
  | _ => none

end Directive

namespace SourceUnit

/-- The fields of a unit. -/
def members (u : SourceUnit) : List (String × Value) :=
  [("package", .ofString u.package), ("target", .ofOption u.target), ("deps", .ofStrings u.deps),
   ("funcs", .ofStrings u.funcs), ("cflags", .ofStrings u.cflags),
   ("ldflags", .ofStrings u.ldflags)]

def toJson (u : SourceUnit) : Value := .ofMembers u.members

/-- Only the target may be absent. -/
def ofJson? (v : Value) : Option SourceUnit := do
  match ← v.fields? ["package", "target", "deps", "funcs", "cflags", "ldflags"] with
  | [some package, target, some deps, some funcs, some cflags, some ldflags] =>
    return {
      package := ← package.string?
      target := ← Value.orElse Value.optional? none target
      deps := ← deps.strings?
      funcs := ← funcs.strings?
      cflags := ← cflags.strings?
      ldflags := ← ldflags.strings? }
  | _ => none

end SourceUnit

def ToolBinding.toJson (b : ToolBinding) : Value :=
  .ofMembers
    [("tool", .ofString b.tool.name), ("name", .ofString b.name), ("path", .ofOption b.path)]

def Toolchain.toJson (t : Toolchain) : Value :=
  .ofMembers [("bindings", .array (t.bindings.map ToolBinding.toJson))]

/-- A text as the value that it writes. -/
def ofJsonText (decode : Value → Option α) (s : String) : Except BuildError α :=
  match (read? s).bind decode with
  | some a => .ok a
  | none => .error (.json "the text is not a value of the expected form")

end BuildScan
