import DocReview.Text.Blank
import DocReview.Value.Access
import DocReview.Value.Arithmetic
/-!
# Issue — what a style checker reports

A checker writes its issues as blocks of lines with blank lines between them.  An issue is a block, each line without
blanks at its end.  An issue whose text holds the code of a missing docstring, `D1`, is an error; all others are
warnings.
-/
namespace DocReview.Issue

/-- The blocks among lines, after the lines `block` of one that has begun, backwards. -/
def blocksFrom : List (List Char) → List (List Char) → List (List (List Char))
  | block, [] => if block.isEmpty then [] else [block.reverse]
  | block, l :: ls =>
    if Text.allBlank l then
      if block.isEmpty then blocksFrom [] ls else block.reverse :: blocksFrom [] ls
    else blocksFrom (Text.trimEnd l :: block) ls

def split (output : List Char) : List (List (List Char)) := blocksFrom [] (Text.splitLines output)

structure Checked where
  stdout : Value := .str ""
  stderr : Value := .str ""
  status : Value := .int 0

/-- Whether the checker had nothing to say, and the issues it found. -/
structure Result where
  passed : Bool
  issues : List (List String)

/-- Reads what a checker gave back: what it wrote as errors, or else its plain output. -/
def Checked.result (c : Checked) : Except Fault Result := do
  let output ← (c.stderr.orElse c.stdout).textFor "splitlines"
  let passed := match c.status.number? with
    | some n => n.order (.whole 0) = some .eq
    | none => false
  return ⟨passed, (split output).map fun b => b.map String.ofList⟩

/-- The issues that remain of a check: none if it passed. -/
def Checked.remaining (c : Checked) : Except Fault (List (List String)) := do
  let r ← c.result
  return if r.passed then [] else r.issues

def Result.value (r : Result) : Value :=
  .dict [("passed", .bool r.passed), ("issues", .list (r.issues.map .strings))]

def isError (issue : Value) : Except Fault Bool := do
  return Text.occursIn "D1".toList (← issue.joinElements " ").toList

def classifyAll : List Value → Except Fault (List Value × List Value)
  | [] => .ok ([], [])
  | issue :: rest => do
    let serious ← isError issue
    let (errors, warnings) ← classifyAll rest
    return if serious then (issue :: errors, warnings) else (errors, issue :: warnings)

def classify (issues : Value) : Except Fault (List Value × List Value) := do
  classifyAll (← issues.elements)

end DocReview.Issue
