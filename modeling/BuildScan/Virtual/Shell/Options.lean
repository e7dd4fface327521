import BuildScan.Virtual.Shell.Process

/-!
Options: those of the shell, which have a name and mostly a letter, and those of its commands, which
are single letters behind a hyphen, some of them with a text.
-/

namespace BuildScan.Virtual.Shell

namespace Options

/-- The options of the shell; the last two have no letter of their own. -/
def table : List (String × Char) :=
  [("errexit", 'e'), ("noglob", 'f'), ("ignoreeof", 'I'), ("interactive", 'i'), ("monitor", 'm'),
   ("noexec", 'n'), ("stdin", 's'), ("xtrace", 'x'), ("verbose", 'v'), ("vi", 'V'), ("emacs", 'E'),
   ("noclobber", 'C'), ("allexport", 'a'), ("notify", 'b'), ("nounset", 'u'), ("privileged", 'p'),
   ("nolog", '\x01'), ("debug", '\x02')]

/-- The letters of the options that are on, as the parameter `-` shows them. -/
def shown (isOn : Char → Bool) : Octets := ((table.map Prod.snd).reverse.filter isOn)

/-- Switches an option on or off; one of the two ways to edit lines excludes the other. -/
def switch (letter : Char) (on : Bool) : Run Unit :=
  changeProcess fun p =>
    let others := p.options.filter fun c => c != letter &&
      !(on && ((letter == 'V' && c == 'E') || (letter == 'E' && c == 'V')))
    let isOn (c : Char) : Bool := others.contains c || (on && c == letter)
    { p with
      options := shown isOn
      vars := { p.vars with exportsAll := isOn 'a' } }

/-- Switches the option of a letter. -/
def switchLetter (on : Bool) (letter : Char) : Run Unit := do
  if (table.map Prod.snd).contains letter then switch letter on
  else fail (octetsOf "Illegal option " ++ ['-', letter])

/-- Lists the options of the shell, as a table or as commands that set them. -/
def list (asTable : Bool) : Run Unit := do
  let on := (← process).options
  if asTable then say (octetsOf "Current option settings\n")
  table.forM fun (name, letter) =>
    if asTable then
      let blanks := "".pushn ' ' (16 - name.length)
      say (octetsOf (name ++ blanks ++ (if on.contains letter then "on\n" else "off\n")))
    else say (octetsOf ((if on.contains letter then "set -o " else "set +o ") ++ name ++ "\n"))

/-- Switches the option of a name, or lists all of them. -/
def switchNamed (on : Bool) : Option Octets → Run Unit
  | none => list on
  | some name =>
    match table.lookup (string name) with
    | some letter => switch letter on
    | none => fail (octetsOf "Illegal option -o " ++ name)

/-- What the arguments of a shell are apart from options. -/
structure Given where
  /-- The script is an argument. -/
  hasScript : Bool
  rest : List Octets
  /-- The options end with two hyphens. -/
  isMarked : Bool

/-- Carries out the options of some letters, the names of some of which are further arguments; gives
the arguments that are left. -/
def readLetters (atStart on : Bool) : Octets → List Octets → Run (List Octets)
  | [], rest => return rest
  | c :: cs, rest => do
    if c = 'o' then
      switchNamed on rest.head?
      readLetters atStart on cs rest.tail
    else
      if !(atStart && (c == 'c' || c == 'l')) then switchLetter on c
      readLetters atStart on cs rest

/-- Carries out the options at the front of some arguments.  In those that a shell is started with,
`c` says that a script follows them.  The first argument bounds their number. -/
def readUpTo (atStart : Bool) : Nat → Bool → List Octets → Run Given
  | 0, hasScript, args => return ⟨hasScript, args, false⟩
  | _, hasScript, [] => return ⟨hasScript, [], false⟩
  | fuel + 1, hasScript, arg :: rest => do
    let letters (on : Bool) (cs : Octets) : Run Given := do
      readUpTo atStart fuel (hasScript || (atStart && cs.contains 'c'))
        (← readLetters atStart on cs rest)
    match arg with
    | ['-'] =>
      if !atStart then
        switch 'x' false
        switch 'v' false
      return ⟨hasScript, rest, false⟩
    | ['-', '-'] => return ⟨hasScript, rest, true⟩
    | '-' :: cs => letters true cs
    | '+' :: cs => letters false cs
    | _ => return ⟨hasScript, arg :: rest, false⟩

/-- Carries out the options at the front of some arguments. -/
def read (atStart : Bool) (args : List Octets) : Run Given :=
  readUpTo atStart args.length false args

end Options

/-- The letters of the options of a command: some stand alone, others have a text behind them. -/
structure Letters where
  alone : Octets
  withText : Octets

/-- The options at the front of the arguments of a command, and the other arguments. -/
def optionsOf (letters : Letters) : List Octets → Run (List (Char × Octets) × List Octets)
  | [] => return ([], [])
  | arg :: rest => do
    match arg with
    | ['-'] => return ([], arg :: rest)
    | ['-', '-'] => return ([], rest)
    | '-' :: cs =>
      let known := cs.takeWhile letters.alone.contains
      let options := known.map fun c => (c, [])
      match cs.drop known.length with
      | [] =>
        let (more, rest) ← optionsOf letters rest
        return (options ++ more, rest)
      | c :: text =>
        if !letters.withText.contains c then fail (octetsOf "Illegal option " ++ ['-', c])
        else if !text.isEmpty then
          let (more, rest) ← optionsOf letters rest
          return (options ++ (c, text) :: more, rest)
        else
          match rest with
          | [] => fail (octetsOf "No arg for " ++ '-' :: c :: octetsOf " option")
          | text :: rest =>
            let (more, rest) ← optionsOf letters rest
            return (options ++ (c, text) :: more, rest)
    | _ => return ([], arg :: rest)

end BuildScan.Virtual.Shell
