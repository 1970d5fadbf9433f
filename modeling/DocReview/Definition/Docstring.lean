import DocReview.Source.Stmt
import DocReview.Text.Blank
/-!
# Docstring — whether a body starts with documentation

The first statement of a body documents it when it is a plain text literal that is not empty once it is cleaned:
tabs are expanded, the common indentation of the later lines is removed, and blank lines at both ends are dropped.
-/
namespace DocReview.Definition

open DocReview.Source DocReview.Text

/-- Replaces each tab by blanks up to the next column that is a multiple of 8. -/
def expandTabs : Nat → List Nat → List Nat
  | _, [] => []
  | col, n :: ns =>
    if n = 9 then
      let width := 8 - col % 8
      List.replicate width 0x20 ++ expandTabs (col + width) ns
    else n :: expandTabs (if n = 10 || n = 13 then 0 else col + 1) ns

def cutLines : List Nat → List (List Nat)
  | [] => [[]]
  | n :: ns =>
    if n = 10 then [] :: cutLines ns
    else match cutLines ns with
      | [] => [[n]]
      | l :: ls => (n :: l) :: ls

/-- How far a line that is not blank is indented. -/
def indentOf? (line : List Nat) : Option Nat :=
  let content := line.dropWhile isBlankPoint
  if content.isEmpty then none else some (line.length - content.length)

def margin? (lines : List (List Nat)) : Option Nat := (lines.filterMap indentOf?).min?

/-- The lines of a documentation text once it is cleaned. -/
def cleanedLines (points : List Nat) : List (List Nat) :=
  match cutLines (expandTabs 0 points) with
  | [] => []
  | first :: rest =>
    let cut := (margin? rest).getD 0
    let lines := first.dropWhile isBlankPoint :: rest.map fun l => l.drop cut
    ((lines.reverse.dropWhile List.isEmpty).reverse).dropWhile List.isEmpty

/-- The text literal a body starts with. -/
def docText? : List Stmt → Option (List Nat)
  | .expr (.literal (.text _ points)) :: _ => some points
  | _ => none

def isDocumented (body : List Stmt) : Bool :=
  match docText? body with
  | some points => !(cleanedLines points).isEmpty
  | none => false

end DocReview.Definition
