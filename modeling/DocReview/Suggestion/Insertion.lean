import DocReview.Path
import DocReview.Value.Access
/-!
# Insertion — putting a docstring into a file

The lines of a docstring are set in and put after a given line of the file.  The lines are joined by line feeds, with
none after the last.  Texts are made of characters, and half a pair of units is none, so that every text can be written.
-/
namespace DocReview.Suggestion

/-- How many of `length` lines a position leaves before it; a negative one counts from the end. -/
def cutAt (position : Int) (length : Nat) : Nat :=
  if position < 0 then (length + position).toNat else min position.toNat length

/-- The lines of a docstring, set in by a number of blanks; empty lines stay empty. -/
def indentedLines (indent : Int) (docstring : List Char) : List (List Char) :=
  (Text.splitLines docstring).map fun l => if l.isEmpty then [] else List.replicate indent.toNat ' ' ++ l

def insertLines (block : List (List Char)) (position : Int) (text : List Char) : List Char :=
  let lines := Text.splitLines text
  let n := cutAt position lines.length
  Text.joinWith ['\n'] (lines.take n ++ block ++ lines.drop n)

/-- The largest number of times a text can be repeated. -/
def maxCount : Int := 9223372036854775807

def countOf : Value → Except Fault Int
  | .bool b => .ok (if b then 1 else 0)
  | .int i => if -maxCount - 1 ≤ i ∧ i ≤ maxCount then .ok i else .error .countTooLarge
  | v => .error (.notCount v.kind)

/-- A text with a docstring put in. A position that is nothing leaves all lines before it and all after it. -/
def insertInto (text : List Char) (position indent docstring : Value) : Except Fault (List Char) := do
  let indent ← countOf indent
  let block := indentedLines indent (← docstring.textFor "splitlines")
  match position with
  | .none =>
    let lines := Text.splitLines text
    return Text.joinWith ['\n'] (lines ++ block ++ lines)
  | .bool b => return insertLines block (if b then 1 else 0) text
  | .int i => return insertLines block i text
  | _ => throw .notPosition

/-- Puts a docstring into a file, after the line of the given number. -/
def insertInFile (d : Disk) (path : String) (position indent docstring : Value) : Except Fault Disk := do
  let path := Path.normal path
  let text ← d.readText path
  d.writeText path (← insertInto text position indent docstring)

end DocReview.Suggestion
