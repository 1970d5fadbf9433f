import DocReview.Number.Shortest
import DocReview.Text.Quoted
import DocReview.Value.Basic
/-!
# Text — values in words

A text stands for itself, and is quoted inside a list or a mapping.  Everything else has one form: `None`, `True`,
`1.5`, `[1, 'a']`, `{'k': None}`.
-/
namespace DocReview.Value

def commaSeparated : List (List Char) → List Char
  | [] => []
  | [p] => p
  | p :: ps => p ++ ',' :: ' ' :: commaSeparated ps

mutual

/-- The form of a value inside others. -/
def shown : Value → List Char
  | .none => "None".toList
  | .bool b => if b then "True".toList else "False".toList
  | .int i => decimalText i
  | .float x => FloatText.standard.render x
  | .str s => Text.quoted (Text.codePoints s)
  | .list items => '[' :: commaSeparated (shownItems items) ++ [']']
  | .dict fields => '{' :: commaSeparated (shownFields fields) ++ ['}']

def shownItems : List Value → List (List Char)
  | [] => []
  | v :: vs => shown v :: shownItems vs

def shownFields : List (String × Value) → List (List Char)
  | [] => []
  | (k, v) :: rest => (Text.quoted (Text.codePoints k) ++ ':' :: ' ' :: shown v) :: shownFields rest

end

def text : Value → String
  | .str s => s
  | v => String.ofList (shown v)

end DocReview.Value
