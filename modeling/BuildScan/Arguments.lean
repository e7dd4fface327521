import BuildScan.Config

/-!
The arguments of the program: options for the platform, a subcommand, and what belongs to it.  The
options for the platform may stand in front of the subcommand and behind it; those behind it count.
A switch or a setting is given once on either side, only tags may be repeated.  Where `exec` takes
the arguments of its command, an option that is not known is one of them, and from the first of them
on all that follows is.
-/

namespace BuildScan

/-- Options without a value. -/
inductive Switch where
  | verbose
  | help
  | version
  | test
  | json
  | capture
  deriving Repr, DecidableEq

/-- Options with a value. -/
inductive Setting where
  | goos
  | goarch
  | gobin
  | tag
  | dir
  deriving Repr, DecidableEq

/-- What a stretch of arguments belongs to: the program or a subcommand. -/
inductive Form where
  | program
  | scan
  | tools
  | exec
  deriving Repr, DecidableEq

namespace Switch

def name : Switch → String
  | verbose => "verbose"
  | help => "help"
  | version => "version"
  | test => "test"
  | json => "json"
  | capture => "capture"

def letter? : Switch → Option Char
  | verbose => some 'v'
  | help => some 'h'
  | version => some 'V'
  | _ => none

end Switch

namespace Setting

def name : Setting → String
  | goos => "goos"
  | goarch => "goarch"
  | gobin => "gobin"
  | tag => "tag"
  | dir => "dir"

/-- The value is a path, which cannot be empty. -/
def isPath : Setting → Bool
  | gobin => true
  | dir => true
  | _ => false

end Setting

namespace Form

def switches : Form → List Switch
  | program => [.verbose, .help, .version]
  | scan => [.verbose, .help, .test]
  | tools => [.verbose, .help, .json]
  | exec => [.verbose, .help, .capture]

def settings : Form → List Setting
  | exec => [.goos, .goarch, .gobin, .tag, .dir]
  | _ => [.goos, .goarch, .gobin, .tag]

def subcommand? : String → Option Form
  | "scan" => some scan
  | "tools" => some tools
  | "exec" => some exec
  | _ => none

def switchNamed? (form : Form) (name : String) : Option Switch :=
  form.switches.find? fun s => s.name == name

def switchLettered? (form : Form) (c : Char) : Option Switch :=
  form.switches.find? fun s => s.letter? == some c

def settingNamed? (form : Form) (name : String) : Option Setting :=
  form.settings.find? fun s => s.name == name

end Form

/-- What a stretch of arguments gives. -/
structure Given where
  switches : List Switch
  settings : List (Setting × String)
  /-- What is neither a switch nor a setting. -/
  words : List String
  deriving Repr, DecidableEq

namespace Given

def empty : Given := ⟨[], [], []⟩

/-- The value of a setting that is given once. -/
def value? (g : Given) (s : Setting) : Option String := g.settings.lookup s

/-- All values of a setting. -/
def values (g : Given) (s : Setting) : List String :=
  (g.settings.filter fun x => x.1 = s).map Prod.snd

/-- Adds a setting, unless it was given or has no value. -/
def addSetting? (g : Given) (s : Setting) (value : String) : Option Given :=
  if s.isPath && value.isEmpty then none
  else if s != .tag && (g.value? s).isSome then none
  else some { g with settings := g.settings ++ [(s, value)] }

end Given

/-- Why the reading of arguments ends before their end. -/
inductive Interruption where
  | misuse
  | help
  | version
  deriving Repr, DecidableEq

/-- How one argument reads. -/
inductive Item where
  /-- No options follow. -/
  | escape
  | setting (s : Setting) (value : Option String)
  /-- Some letters, perhaps with one that is not known behind them. -/
  | switches (ss : List Switch) (sound : Bool)
  | word
  | unknown
  deriving Repr, DecidableEq

/-- The text in front of the first equals sign and, if there is one, the text behind it. -/
def atEquals (cs : List Char) : List Char × Option (List Char) :=
  let name := cs.takeWhile (· != '=')
  match cs.drop name.length with
  | [] => (name, none)
  | _ :: value => (name, some value)

/-- The switches of some letters, up to the first that is not known. -/
def Form.cluster (form : Form) : List Char → List Switch × Bool
  | [] => ([], true)
  | c :: cs =>
    match form.switchLettered? c with
    | none => ([], false)
    | some s => let (ss, sound) := form.cluster cs; (s :: ss, sound)

/-- Reads an argument; with `lenient` an option that is not known is a word. -/
def Form.item (form : Form) (lenient : Bool) (arg : String) : Item :=
  let other : Item := if lenient then .word else .unknown
  match arg.toList with
  | ['-'] => .word
  | ['-', '-'] => .escape
  | '-' :: '-' :: cs =>
    let (name, value) := atEquals cs
    match form.settingNamed? (String.ofList name), form.switchNamed? (String.ofList name),
    value with
    | some s, _, value => .setting s (value.map String.ofList)
    | none, some s, none => .switches [s] true
    | none, some _, some _ => .unknown
    | none, none, _ => other
  | '-' :: cs =>
    let (ss, sound) := form.cluster cs
    if !sound && lenient then .word else .switches ss sound
  | _ => .word

/-- Takes switches one after the other. -/
def Given.takeSwitches (g : Given) : List Switch → Except Interruption Given
  | [] => .ok g
  | .help :: _ => .error .help
  | .version :: _ => .error .version
  | s :: rest =>
    if g.switches.contains s then .error .misuse
    else ({ g with switches := g.switches ++ [s] } : Given).takeSwitches rest

/-- Takes a word of a subcommand. -/
def Given.takeWord (g : Given) (form : Form) (arg : String) : Except Interruption Given :=
  match form with
  | .scan => if arg.isEmpty then .error .misuse else .ok { g with words := g.words ++ [arg] }
  | .exec => .ok { g with words := g.words ++ [arg] }
  | _ => .error .misuse

/-- Takes the value of a setting. -/
def Given.takeSetting (g : Given) (s : Setting) (value : String) : Except Interruption Given :=
  match g.addSetting? s value with
  | some g => .ok g
  | none => .error .misuse

/-- What a stretch of arguments gives and, if a subcommand follows, which one and its arguments. -/
abbrev Stretch := Given × Option (Form × List String)

/-- Reads arguments: `pending` is a setting whose value comes next, and with `escaped` all arguments
are words. -/
def Form.read (form : Form) (g : Given) (pending : Option Setting) (escaped : Bool) :
    List String → Except Interruption Stretch
  | [] => if pending.isSome then .error .misuse else .ok (g, none)
  | arg :: rest =>
    let lenient := form = .exec && !g.words.isEmpty
    match if escaped then .word else form.item lenient arg, pending with
    | .word, some s =>
      match g.takeSetting s arg with
      | .ok g => form.read g none false rest
      | .error i => .error i
    | .word, none =>
      match if form = .program && !escaped then Form.subcommand? arg else none with
      | some sub => .ok (g, some (sub, rest))
      | none =>
        match g.takeWord form arg with
        | .ok g' => form.read g' none (escaped || lenient) rest
        | .error i => .error i
    | _, some _ => .error .misuse
    | .escape, none => form.read g none true rest
    | .setting s none, none => form.read g (some s) false rest
    | .setting s (some value), none =>
      match g.takeSetting s value with
      | .ok g => form.read g none false rest
      | .error i => .error i
    | .switches ss sound, none =>
      match g.takeSwitches ss with
      | .ok g => if sound then form.read g none false rest else .error .misuse
      | .error i => .error i
    | .unknown, none => .error .misuse

/-- Options for the platform. -/
structure PlatformOptions where
  goos : Option String
  goarch : Option String
  gobin : Option String
  tags : List String
  deriving Repr, DecidableEq

namespace PlatformOptions

def ofGiven (g : Given) : PlatformOptions :=
  ⟨g.value? .goos, g.value? .goarch, g.value? .gobin, g.values .tag⟩

/-- Options with others that go before them. -/
def overriddenBy (outer inner : PlatformOptions) : PlatformOptions :=
  { goos := inner.goos.or outer.goos
    goarch := inner.goarch.or outer.goarch
    gobin := inner.gobin.or outer.gobin
    tags := if inner.tags.isEmpty then outer.tags else inner.tags }

/-- The configuration: an option goes before a variable. -/
def config (o : PlatformOptions) (lookup : String → Option String) : Config :=
  let base := Config.ofLookup lookup
  { goos := o.goos.getD base.goos
    goarch := o.goarch.getD base.goarch
    gobin := o.gobin.or base.gobin
    tags := base.tags ++ o.tags }

end PlatformOptions

/-- What the program is asked to do. -/
inductive Request where
  | scan (files : List String) (testMode : Bool)
  | tools (json : Bool)
  | exec (dir : Option String) (capture : Bool) (command : String) (args : List String)
  deriving Repr, DecidableEq

/-- The request of a subcommand. -/
def Request.ofGiven (form : Form) (g : Given) : Except Interruption Request :=
  match form, g.words with
  | .scan, file :: files => .ok (.scan (file :: files) (g.switches.contains .test))
  | .tools, _ => .ok (.tools (g.switches.contains .json))
  | .exec, command :: args =>
    .ok (.exec (g.value? .dir) (g.switches.contains .capture) command args)
  | _, _ => .error .misuse

/-- All that the arguments say. -/
structure Arguments where
  platform : PlatformOptions
  verbose : Bool
  request : Request
  deriving Repr, DecidableEq

/-- Reads the arguments of the program. -/
def Arguments.ofList (args : List String) : Except Interruption Arguments := do
  match ← Form.program.read .empty none false args with
  | (_, none) => throw .misuse
  | (outer, some (form, rest)) =>
    let (inner, _) ← form.read .empty none false rest
    let request ← Request.ofGiven form inner
    return {
      platform := (PlatformOptions.ofGiven outer).overriddenBy (.ofGiven inner)
      verbose := outer.switches.contains .verbose || inner.switches.contains .verbose
      request := request }

end BuildScan
