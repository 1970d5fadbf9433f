import DocReview.Number.Shortest
import DocReview.Text.Quoted
import DocReview.Value.Basic
/-!
# Writer — values as JSON text

The text is ASCII: every other character is written by the numbers of its UTF-16 units.  `indented` puts each item on a
line of its own, two blanks deeper than what it stands in; `line` writes everything on one line.
-/
namespace DocReview.Json

open DocReview.Text (hexPadded)

def unitEscape (n : Nat) : List Char := '\\' :: 'u' :: hexPadded 4 n

def units (n : Nat) : List Nat :=
  if n < 0x10000 then [n] else [0xd800 + (n - 0x10000) / 0x400, 0xdc00 + (n - 0x10000) % 0x400]

def escapeChar (c : Char) : List Char :=
  if c = '"' then ['\\', '"']
  else if c = '\\' then ['\\', '\\']
  else if c = '\n' then ['\\', 'n']
  else if c = '\r' then ['\\', 'r']
  else if c = '\t' then ['\\', 't']
  else if c = '\x0c' then ['\\', 'f']
  else if c = '\x08' then ['\\', 'b']
  else if ' ' ≤ c ∧ c ≤ '~' then [c]
  else (units c.toNat).flatMap unitEscape

def quote (cs : List Char) : List Char := '"' :: cs.flatMap escapeChar ++ ['"']

/-- The text of a double; those that are no number have names. -/
def floatText (x : Binary64) : List Char :=
  match x with
  | .nan => "NaN".toList
  | .infinite neg => if neg then "-Infinity".toList else "Infinity".toList
  | x => FloatText.standard.render x

structure Layout where
  /-- What stands before the first item and after the last, at a depth. -/
  edge : Nat → List Char
  /-- What stands after a comma. -/
  gap : Nat → List Char

def Layout.line : Layout := ⟨fun _ => [], fun _ => [' ']⟩

/-- Each item on its own line, indented by two blanks a level. -/
def Layout.indented : Layout :=
  ⟨fun d => '\n' :: List.replicate (2 * d) ' ', fun d => '\n' :: List.replicate (2 * d) ' '⟩

def separated (gap : List Char) : List (List Char) → List Char
  | [] => []
  | [c] => c
  | c :: cs => c ++ ',' :: gap ++ separated gap cs

/-- Items in brackets; none make a pair of brackets. -/
def enclosed (l : Layout) (depth : Nat) (opening closing : Char) (items : List (List Char)) : List Char :=
  if items.isEmpty then [opening, closing]
  else opening :: l.edge (depth + 1) ++ separated (l.gap (depth + 1)) items ++ l.edge depth ++ [closing]

mutual

def render (l : Layout) (depth : Nat) : Value → List Char
  | .none => "null".toList
  | .bool b => if b then "true".toList else "false".toList
  | .int i => decimalText i
  | .float x => floatText x
  | .str s => quote s.toList
  | .list items => enclosed l depth '[' ']' (renderItems l (depth + 1) items)
  | .dict fields => enclosed l depth '{' '}' (renderFields l (depth + 1) fields)

def renderItems (l : Layout) (depth : Nat) : List Value → List (List Char)
  | [] => []
  | v :: vs => render l depth v :: renderItems l depth vs

def renderFields (l : Layout) (depth : Nat) : List (String × Value) → List (List Char)
  | [] => []
  | (k, v) :: rest => (quote k.toList ++ ':' :: ' ' :: render l depth v) :: renderFields l depth rest

end

def line (v : Value) : String := String.ofList (render .line 0 v)

def indented (v : Value) : List Char := render .indented 0 v

end DocReview.Json
