import DocContract.Text.Blank

/-!
# Segments of a page body

A body is a sequence of lines in which directives interrupt runs of markdown.  A directive
begins with an opening line and goes on through the first closing line; a run goes on until
an opening line that does not stand in code.  Whether a line stands in code is told from
fences and indentation alone, line by line.
-/

namespace DocContract

/-- A line with its line feed. -/
abbrev Line := List Char

namespace Line

/-- The columns of blanks at the start of a line; a tab reaches to the next multiple of
four. -/
def indentation (line : Line) : Nat :=
  go 0 line
where
  /-- Counts on from `width` columns. -/
  go (width : Nat) : List Char → Nat
    | [] => width
    | c :: rest =>
      if c = ' ' then go (width + 1) rest
      else if c = '\t' then go (width + (4 - width % 4)) rest
      else width

/-- The kind of directive that a line opens. -/
def opens? (line : Line) : Option (List Char) := do
  guard (line.indentation < 4)
  let rest ← Text.dropPrefix? "[block:".toList (Text.trim line)
  let (kind, _) ← Text.splitAt? ']' rest
  return Text.trim kind

def isClosing (line : Line) : Bool :=
  Text.trim line == "[/block]".toList

end Line

/-- An open code fence: its mark and how often it is repeated. -/
structure Fence where
  mark : Char
  size : Nat
deriving DecidableEq, Repr

namespace Fence

def opened? (line : Line) : Option Fence :=
  if 3 < line.indentation then none
  else
    match Text.trimStart line with
    | [] => none
    | c :: rest =>
      let marks := (c :: rest).takeWhile (· == c)
      let info := (c :: rest).dropWhile (· == c)
      if (c == '\x60' || c == '~') && 3 ≤ marks.length &&
          !(c == '\x60' && info.contains '\x60')
      then some { mark := c, size := marks.length }
      else none

def closedBy (fence : Fence) (line : Line) : Bool :=
  let text := Text.trimStart line
  let marks := text.takeWhile (· == fence.mark)
  let rest := text.dropWhile (· == fence.mark)
  line.indentation ≤ 3 && fence.size ≤ marks.length && Text.isBlankText rest

end Fence

/-- What the lines of a run so far say about the next one. -/
structure RunState where
  /-- The fence that has not been closed. -/
  fence : Option Fence := none
  /-- The last line was blank, or there is none. -/
  afterBlank : Bool := true
  /-- The last line with text was indented code. -/
  indentedCode : Bool := false
deriving DecidableEq, Repr

namespace RunState

/-- Whether a line outside of fences is indented code.  A blank line goes on as before. -/
def indents (state : RunState) (line : Line) : Bool :=
  if Text.isBlankText line then state.indentedCode
  else 4 ≤ line.indentation && (state.afterBlank || state.indentedCode)

/-- Whether a line stands in code. -/
def inCode (state : RunState) (line : Line) : Bool :=
  state.fence.isSome || state.indents line

/-- The state after a line that belongs to the run. -/
def step (state : RunState) (line : Line) : RunState :=
  let afterBlank := Text.isBlankText line
  match state.fence with
  | some fence =>
    { state with fence := if fence.closedBy line then none else some fence, afterBlank }
  | none =>
    let indentedCode := state.indents line
    { fence := if indentedCode then none else Fence.opened? line
      afterBlank
      indentedCode }

end RunState

/-- Splits lines in front of the first that opens a directive outside of code. -/
def splitRun (state : RunState) : List Line → List Line × List Line
  | [] => ([], [])
  | line :: lines =>
    if !state.inCode line && line.opens?.isSome then ([], line :: lines)
    else
      let (run, rest) := splitRun (state.step line) lines
      (line :: run, rest)

/-- The lines in front of the first closing line, and those after it. -/
def splitClosing? : List Line → Option (List Line × List Line)
  | [] => none
  | line :: lines =>
    if line.isClosing then some ([], lines)
    else (splitClosing? lines).map fun (content, rest) => (line :: content, rest)

/-- A part of a body. -/
inductive Segment where
  /-- A run of markdown. -/
  | markdown (run : List Line)
  /-- A directive of a kind, with the lines between its opening and its closing line. -/
  | directive (kind : List Char) (content : List Line)
  /-- A directive without a closing line. -/
  | unclosed (kind : List Char)
deriving DecidableEq, Repr

/-- Takes the first segment from the front of a body; `line` is the first line. -/
def Segment.first (line : Line) (lines : List Line) : Segment × List Line :=
  match line.opens? with
  | some kind =>
    match splitClosing? lines with
    | some (content, rest) => (.directive kind content, rest)
    | none => (.unclosed kind, [])
  | none =>
    let (run, rest) := splitRun (({} : RunState).step line) lines
    (.markdown (line :: run), rest)

theorem length_splitRun_le (state : RunState) (lines : List Line) :
    (splitRun state lines).2.length ≤ lines.length := by
  induction lines generalizing state with
  | nil => simp [splitRun]
  | cons line lines ih =>
    unfold splitRun
    split
    · simp
    · exact Nat.le_succ_of_le (ih _)

theorem length_of_splitClosing? {lines content rest : List Line}
    (hsplit : splitClosing? lines = some (content, rest)) :
    rest.length ≤ lines.length := by
  induction lines generalizing content rest with
  | nil => simp [splitClosing?] at hsplit
  | cons line lines ih =>
    unfold splitClosing? at hsplit
    split at hsplit
    · simp only [Option.some.injEq, Prod.mk.injEq] at hsplit
      simp [← hsplit.2]
    · obtain ⟨⟨inner, after⟩, hinner, heq⟩ := Option.map_eq_some_iff.1 hsplit
      simp only [Prod.mk.injEq] at heq
      exact Nat.le_succ_of_le (heq.2 ▸ ih hinner)

/-- A segment takes at least the first line. -/
theorem Segment.length_first_le (line : Line) (lines : List Line) :
    (Segment.first line lines).2.length ≤ lines.length := by
  unfold Segment.first
  split
  · split
    · next hsplit => exact length_of_splitClosing? hsplit
    · exact Nat.zero_le _
  · exact length_splitRun_le _ _

end DocContract
