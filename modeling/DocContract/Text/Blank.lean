/-!
# Blank characters, trimming and lines

A text is read as a list of characters.  Blank means the Unicode property White_Space; a
line is what ends with a line feed, or the rest of the text.  `splitLines` keeps the line
feeds, so nothing is lost by splitting.
-/

namespace DocContract.Text

/-- The characters with the Unicode property White_Space. -/
def isBlank (c : Char) : Bool :=
  let n := c.toNat
  (0x09 ≤ n && n ≤ 0x0D) || n == 0x20 || n == 0x85 || n == 0xA0 || n == 0x1680 ||
    (0x2000 ≤ n && n ≤ 0x200A) || n == 0x2028 || n == 0x2029 || n == 0x202F ||
    n == 0x205F || n == 0x3000

/-- Drops the characters at the end that satisfy `p`. -/
def dropEndWhile (p : Char → Bool) (cs : List Char) : List Char :=
  (cs.reverse.dropWhile p).reverse

def trimStart (cs : List Char) : List Char :=
  cs.dropWhile isBlank

def trimEnd (cs : List Char) : List Char :=
  dropEndWhile isBlank cs

def trim (cs : List Char) : List Char :=
  trimEnd (trimStart cs)

def isBlankText (cs : List Char) : Bool :=
  cs.all isBlank

/-- The lines of a text, each with its line feed. -/
def splitLines : List Char → List (List Char)
  | [] => []
  | c :: cs =>
    if c = '\n' then ['\n'] :: splitLines cs
    else
      match splitLines cs with
      | [] => [[c]]
      | line :: lines => (c :: line) :: lines

/-- A line without its line feed, and without a carriage return in front of that line
feed. -/
def withoutLineEnd (line : List Char) : List Char :=
  match line.reverse with
  | '\n' :: '\r' :: rest => rest.reverse
  | '\n' :: rest => rest.reverse
  | _ => line

/-- The lines of a text without what ends them. -/
def lines (cs : List Char) : List (List Char) :=
  (splitLines cs).map withoutLineEnd

/-- Drops `cs` from the front of a text that starts with it. -/
def dropPrefix? : List Char → List Char → Option (List Char)
  | [], text => some text
  | _ :: _, [] => none
  | c :: cs, d :: text => if c = d then dropPrefix? cs text else none

def startsWith (text cs : List Char) : Bool :=
  (dropPrefix? cs text).isSome

def contains (cs : List Char) : List Char → Bool
  | [] => cs.isEmpty
  | c :: text => startsWith (c :: text) cs || contains cs text

/-- The parts of a text before and after the first occurrence of a character. -/
def splitAt? (sep : Char) : List Char → Option (List Char × List Char)
  | [] => none
  | c :: cs =>
    if c = sep then some ([], cs)
    else (splitAt? sep cs).map fun parts => (c :: parts.1, parts.2)

def joinWith (sep : List Char) : List (List Char) → List Char
  | [] => []
  | [text] => text
  | text :: texts => text ++ sep ++ joinWith sep texts

/-- Every occurrence of `pattern` replaced, from left to right and without overlap; an
empty pattern occurs before every character and at the end. -/
def replaceAll (pattern replacement text : List Char) : List Char :=
  if pattern.isEmpty then
    replacement ++ text.flatMap fun c => c :: replacement
  else go (text.length + 1) text
where
  /-- Replaces in what remains; every step consumes a character, so the length is
  enough. -/
  go : Nat → List Char → List Char
    | 0, cs => cs
    | _ + 1, [] => []
    | fuel + 1, c :: cs =>
      match dropPrefix? pattern (c :: cs) with
      | some rest => replacement ++ go fuel rest
      | none => c :: go fuel cs

def countLineFeeds (cs : List Char) : Nat :=
  cs.count '\n'

/-- The number of bytes a text takes in UTF-8. -/
def utf8Size (cs : List Char) : Nat :=
  cs.foldl (fun size c => size + c.utf8Size) 0

@[simp] theorem flatten_splitLines (cs : List Char) : (splitLines cs).flatten = cs := by
  induction cs with
  | nil => rfl
  | cons c cs ih =>
    unfold splitLines
    split
    · next hc => simp [ih, hc]
    · split
      · next hlines =>
        rw [hlines] at ih
        simp at ih
        simp [ih]
      · next line lines hlines =>
        rw [hlines] at ih
        simpa using ih

end DocContract.Text
