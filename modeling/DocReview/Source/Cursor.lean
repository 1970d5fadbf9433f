import DocReview.Source.Token
/-!
# Cursor — reading a token list

A reader takes tokens from the front of a list, or refuses.  What it refuses for depends on the token it stands at:
unexpected indentation and unreadable text have refusals of their own.
-/
namespace DocReview.Source

inductive Refusal where
  | malformed
  | indentation
  | tabs
  deriving DecidableEq

def LexFault.refusal : LexFault → Refusal
  | .malformed | .unfinished => .malformed
  | .badDedent | .tooDeep => .indentation
  | .mixedTabs => .tabs

/-- What is left to read, and the line on which the last word read ends. -/
structure Cursor where
  rest : List Token
  lastLine : Nat

abbrev Reader (α : Type) := StateT Cursor (Except Refusal) α

namespace Reader

def peek : Reader Tok := do return ((← get).rest.head?.map Token.tok).getD .finish

def peek2 : Reader (Tok × Tok) := do
  match (← get).rest with
  | a :: b :: _ => return (a.tok, b.tok)
  | [a] => return (a.tok, .finish)
  | [] => return (.finish, .finish)

def place : Reader (Nat × Nat) := do
  match (← get).rest with
  | t :: _ => return (t.line, t.col)
  | [] => return (0, 0)

/-- Whether a token is more than a line end or indentation. -/
def isWord : Tok → Bool
  | .newline | .indent | .dedent | .finish => false
  | _ => true

def skip : Reader Unit :=
  modify fun c =>
    match c.rest with
    | t :: ts => { rest := ts, lastLine := if isWord t.tok then t.endLine else c.lastLine }
    | [] => c

def refusalAt : Tok → Refusal
  | .fault f => f.refusal
  | .indent | .dedent => .indentation
  | _ => .malformed

def refuse {α : Type} : Reader α := do throw (refusalAt (← peek))

def accept (t : Tok) : Reader Bool := do
  if (← peek) = t then
    skip
    return true
  else return false

def acceptP (p : Punct) : Reader Bool := accept (.punct p)

def acceptK (k : Keyword) : Reader Bool := accept (.keyword k)

def expect (t : Tok) : Reader Unit := do
  if !(← accept t) then refuse

def expectP (p : Punct) : Reader Unit := expect (.punct p)

def expectK (k : Keyword) : Reader Unit := expect (.keyword k)

def identifier : Reader String := do
  match ← peek with
  | .name id _ =>
    skip
    return id
  | _ => refuse

def ensure (b : Bool) : Reader Unit := if b then pure () else throw .malformed

/-- Repeats `step` from `a` for as long as it gives a value, at most the given number of times. -/
def iterate {α : Type} (step : α → Reader (Option α)) : Nat → α → Reader α
  | 0, a => pure a
  | bound + 1, a => do
    match ← step a with
    | some b => iterate step bound b
    | none => return a

/-- Repeats a step that takes a token each time. -/
def loop {α : Type} (step : α → Reader (Option α)) (a : α) : Reader α := do
  iterate step (← get).rest.length.succ a

def many {α : Type} (starts : Tok → Bool) (item : Reader α) : Reader (List α) := do
  let items ← loop (fun acc => do
    if starts (← peek) then return some ((← item) :: acc) else return none) []
  return items.reverse

/-- Items, each after a comma, as long as a comma is followed by a token that starts one; a last comma may stay alone. -/
def commaTail {α : Type} (starts : Tok → Bool) (item : Reader α) : Reader (List α) := do
  let items ← loop (fun acc => do
    if ← acceptP .comma then
      if starts (← peek) then return some ((← item) :: acc) else return none
    else return none) []
  return items.reverse

/-- Items separated by commas, with none after the last. -/
def commaList {α : Type} (item : Reader α) : Reader (List α) := do
  let first ← item
  let rest ← loop (fun acc => do
    if ← acceptP .comma then return some ((← item) :: acc) else return none) []
  return first :: rest.reverse

/-- Runs a reader, and goes back to the start if it refuses. -/
def attempt {α : Type} (p : Reader α) : Reader (Option α) := fun c =>
  match p c with
  | .ok (a, c') => .ok (some a, c')
  | .error _ => .ok (none, c)

/-- Runs a reader on other tokens, and goes on here. -/
def within {α : Type} (ts : List Token) (p : Reader α) : Reader α := fun c =>
  match p { rest := ts, lastLine := 0 } with
  | .ok (a, _) => .ok (a, c)
  | .error e => .error e

end Reader
end DocReview.Source
