import BuildScan.Virtual.Shell.Syntax

/-!
The tokens of a script: words, operators and the words that are reserved where a command may begin.
`Token.title` is what a token is called where it is out of place.
-/

namespace BuildScan.Virtual.Shell

/-- Signs that part words, and the end of the text. -/
inductive Sign where
  | finish
  | lineEnd
  | semicolon
  | ampersand
  | both
  | either
  | bar
  | openParen
  | closeParen
  | caseEnd
  deriving Repr, DecidableEq

namespace Sign

def title : Sign → String
  | finish => "end of file"
  | lineEnd => "newline"
  | semicolon => "\";\""
  | ampersand => "\"&\""
  | both => "\"&&\""
  | either => "\"||\""
  | bar => "\"|\""
  | openParen => "\"(\""
  | closeParen => "\")\""
  | caseEnd => "\";;\""

/-- A list of commands may end in front of the sign. -/
def isEnd : Sign → Bool
  | finish => true
  | closeParen => true
  | caseEnd => true
  | _ => false

end Sign

/-- Reserved words. -/
inductive Keyword where
  | bang
  | case
  | do_
  | done
  | elif
  | else_
  | esac
  | fi
  | for_
  | if_
  | in_
  | then_
  | until_
  | while_
  | openBrace
  | closeBrace
  deriving Repr, DecidableEq

namespace Keyword

def text : Keyword → String
  | bang => "!"
  | case => "case"
  | do_ => "do"
  | done => "done"
  | elif => "elif"
  | else_ => "else"
  | esac => "esac"
  | fi => "fi"
  | for_ => "for"
  | if_ => "if"
  | in_ => "in"
  | then_ => "then"
  | until_ => "until"
  | while_ => "while"
  | openBrace => "\x7b"
  | closeBrace => "\x7d"

def all : List Keyword :=
  [bang, case, do_, done, elif, else_, esac, fi, for_, if_, in_, then_, until_, while_, openBrace,
   closeBrace]

/-- The reserved word that a text is. -/
def ofText? (cs : Octets) : Option Keyword := all.find? fun k => k.text.toList == cs

/-- A list of commands may end in front of the word. -/
def isEnd : Keyword → Bool
  | do_ => true
  | done => true
  | elif => true
  | else_ => true
  | esac => true
  | fi => true
  | then_ => true
  | closeBrace => true
  | _ => false

end Keyword

inductive Token where
  | sign (s : Sign)
  /-- A redirection, of a stream if one is named in front of its sign. -/
  | redirect (stream : Option Nat) (kind : Octets)
  | word (w : Word)
  | keyword (k : Keyword)

namespace Token

def title : Token → String
  | sign s => s.title
  | redirect _ _ => "redirection"
  | word _ => "word"
  | keyword k => "\"" ++ k.text ++ "\""

/-- A list of commands may end in front of the token. -/
def isEnd : Token → Bool
  | sign s => s.isEnd
  | keyword k => k.isEnd
  | _ => false

def isSign (t : Token) (s : Sign) : Bool :=
  match t with
  | sign other => other == s
  | _ => false

def isKeyword (t : Token) (k : Keyword) : Bool :=
  match t with
  | keyword other => other == k
  | _ => false

/-- The token read as a word, even if it is reserved. -/
def word? : Token → Option Word
  | word w => some w
  | keyword k => some [.text k.text.toList false]
  | _ => none

/-- The text of a word without quotes and expansions. -/
def plain? : Token → Option Octets
  | word w => plainWord? w
  | _ => none

end Token

end BuildScan.Virtual.Shell
