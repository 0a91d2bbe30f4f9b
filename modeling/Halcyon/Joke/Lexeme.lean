import Mathlib.Data.List.Basic

/-!
# Characters and string literals

The classes of characters that the lexers of scripts and of the assembly share, and the rule
`STRING` of `grammar/Assembler.g`: between quotes stands any text in which a backslash is followed
by one of four characters and no quote is bare.
-/

namespace Halcyon.Joke

/-! ## Characters -/

/-- The rule `LETTER`. -/
def isLetter (c : Char) : Bool := ('a' ≤ c && c ≤ 'z') || ('A' ≤ c && c ≤ 'Z')

def isDigit (c : Char) : Bool := '0' ≤ c && c ≤ '9'

def isHexDigit (c : Char) : Bool :=
  isDigit c || ('a' ≤ c && c ≤ 'f') || ('A' ≤ c && c ≤ 'F')

/-- The first character of an `ID`, in scripts and in assembly. -/
def isIdStart (c : Char) : Bool := isLetter c || c == '_'

/-- The other characters of an `ID` of a script. -/
def isNameChar (c : Char) : Bool := isLetter c || isDigit c || c == '_'

/-- The other characters of an `ID` of the assembly. -/
def isIdChar (c : Char) : Bool := isNameChar c || c == '.'

/-! ## String literals -/

/-- The characters of an `ESC_SEQ` behind the backslash. -/
def isEscaped (c : Char) : Bool := c == 't' || c == 'n' || c == '"' || c == '\\'

/-- What may stand between the quotes of a string, in scripts and in assembly. -/
def isStringText : List Char → Bool
  | [] => true
  | '\\' :: e :: cs => isEscaped e && isStringText cs
  | c :: cs => c != '"' && c != '\\' && isStringText cs

/-- The rule `STRING` behind the first quote. -/
def scanString : List Char → Option (List Char × List Char)
  | '"' :: cs => some ([], cs)
  | '\\' :: e :: cs =>
    if isEscaped e then (scanString cs).map fun (text, rest) => ('\\' :: e :: text, rest) else none
  | c :: cs =>
    if c = '\\' then none else (scanString cs).map fun (text, rest) => (c :: text, rest)
  | [] => none

end Halcyon.Joke
