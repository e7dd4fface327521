/-!
Blank characters and the words between them.  Blank means Unicode's `White_Space`; a word is a
maximal run of characters that are not blank, so no word is empty and none holds a blank.
-/

namespace BuildScan.Text

/-- The characters with the property `White_Space`. -/
def isBlank (c : Char) : Bool :=
  let n := c.toNat
  (0x9 ≤ n && n ≤ 0xD) || n == 0x20 || n == 0x85 || n == 0xA0 || n == 0x1680 ||
  (0x2000 ≤ n && n ≤ 0x200A) || n == 0x2028 || n == 0x2029 || n == 0x202F || n == 0x205F ||
  n == 0x3000

def trimStart (cs : List Char) : List Char := cs.dropWhile isBlank

def trimEnd (cs : List Char) : List Char := (cs.reverse.dropWhile isBlank).reverse

/-- The text without the blanks at its two ends. -/
def trim (cs : List Char) : List Char := trimEnd (trimStart cs)

/-- The text starts with a blank or is empty. -/
def opensBlank : List Char → Bool
  | [] => true
  | c :: _ => isBlank c

/-- The words of a text, in order. -/
def words : List Char → List (List Char)
  | [] => []
  | c :: cs =>
    if isBlank c then words cs
    else if opensBlank cs then [c] :: words cs
    else match words cs with
      | [] => [[c]]
      | w :: ws => (c :: w) :: ws

/-- The words of a string. -/
def wordsOf (s : String) : List String := (words s.toList).map String.ofList

/-- A string without the blanks at its ends. -/
def trimmed (s : String) : String := String.ofList (trim s.toList)

/-- A string that shows nothing: empty, or blanks only. -/
def isBlankText (s : String) : Bool := s.toList.all isBlank

end BuildScan.Text
