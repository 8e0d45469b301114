import DocContract.Text.Letter

/-!
# Words of a name

A name is split into words at every character that is neither a letter nor a number, and
inside what is left at every capital that begins a word: after a small letter or a digit,
or after a capital when a small letter follows.  The splitting depends on the classes of
characters alone, so the classes are a parameter.
-/

namespace DocContract.Naming

/-- The classes of characters that the splitting of a name looks at. -/
structure CharClasses where
  isAlphanumeric : Char → Bool
  isUpper : Char → Bool
  isLower : Char → Bool
  isDigit : Char → Bool

/-- The classes of letters and numbers of all scripts, with the digits of ASCII. -/
def CharClasses.unicode : CharClasses where
  isAlphanumeric := Text.isAlphanumeric
  isUpper := Text.isUpper
  isLower := Text.isLower
  isDigit := Text.isDigit

/-- The longest parts of a text whose characters all satisfy `p`. -/
def runs (p : Char → Bool) : List Char → List (List Char)
  | [] => []
  | c :: cs =>
    if p c then
      match cs with
      | [] => [[c]]
      | d :: _ =>
        if p d then
          match runs p cs with
          | [] => [[c]]
          | run :: rest => (c :: run) :: rest
        else [c] :: runs p cs
    else runs p cs

/-- Whether a word begins at `c`, with `before` in front of it and `after?` behind it. -/
def beginsWord (classes : CharClasses) (before c : Char) (after? : Option Char) : Bool :=
  classes.isUpper c &&
    (classes.isLower before || classes.isDigit before ||
      (after?.any classes.isLower && classes.isUpper before))

/-- Splits a run in front of every character that begins a word. -/
def splitCapitals (classes : CharClasses) : List Char → List (List Char)
  | [] => []
  | [c] => [[c]]
  | before :: c :: cs =>
    let words := splitCapitals classes (c :: cs)
    if beginsWord classes before c cs.head? then [before] :: words
    else
      match words with
      | [] => [[before]]
      | word :: words => (before :: word) :: words

def words (classes : CharClasses) (name : List Char) : List (List Char) :=
  (runs classes.isAlphanumeric name).flatMap (splitCapitals classes)

end DocContract.Naming
