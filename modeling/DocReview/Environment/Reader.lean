/-!
# Reader — how far a text has been read

A reader holds a text, the place that reading has come to and a place that was marked.  A place is so many characters from the
start of the text and in some line of it, and both numbers go on with each piece that is read.  A program over a reader looks
for patterns where reading has come to.  It fails where one is not there, and leaves the reader as it is then.
-/
namespace DocReview.Environment

structure Position where
  chars : Nat := 0
  line : Nat := 1

/-- The place behind a piece of text. The text has been read in text mode, so line feeds alone end lines. -/
def Position.advance (p : Position) (taken : List Char) : Position where
  chars := p.chars + taken.length
  line := p.line + taken.count '\n'

structure Reader where
  text : List Char
  position : Position := {}
  mark : Position := {}

namespace Reader

def hasNext (r : Reader) : Bool := r.position.chars < r.text.length

def ahead (r : Reader) : List Char := r.text.drop r.position.chars

def advance (r : Reader) (taken : List Char) : Reader := { r with position := r.position.advance taken }

def setMark (r : Reader) : Reader := { r with mark := r.position }

/-- What was read since the mark was set. -/
def marked (r : Reader) : List Char := (r.text.take r.position.chars).drop r.mark.chars

end Reader

/-- A program over a reader; where it fails, the reader stays as it was left. -/
abbrev Read := OptionT (StateM Reader)

/-- What may stand at the front of a text: what it says, and how many characters it takes. -/
abbrev Pattern (α : Type) := List Char → Option (α × Nat)

namespace Read

def peek : Read (Option Char) := do return (← get).ahead.head?

/-- Reads what a pattern finds, in one piece. -/
def pattern {α : Type} (p : Pattern α) : Read α := do
  let r ← get
  match p r.ahead with
  | some (found, length) =>
    set (r.advance (r.ahead.take length))
    return found
  | none => failure

end Read

end DocReview.Environment
