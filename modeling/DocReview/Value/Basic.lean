import DocReview.Number.Binary64
/-!
# Value — data of any shape

Reports, answers of a language model and stored test results are data whose shape is known only when it is looked at.
A `Value` is such data; a mapping keeps the order in which its keys first came.
-/
namespace DocReview

inductive Value where
  | none
  | bool (b : Bool)
  | int (i : Int)
  | float (x : Binary64)
  | str (s : String)
  | list (items : List Value)
  | dict (fields : List (String × Value))

instance : Inhabited Value := ⟨.none⟩

inductive Kind where
  | none | bool | int | float | str | list | dict
  deriving DecidableEq

def Kind.name : Kind → String
  | .none => "NoneType"
  | .bool => "bool"
  | .int => "int"
  | .float => "float"
  | .str => "str"
  | .list => "list"
  | .dict => "dict"

namespace Value

def kind : Value → Kind
  | .none => .none
  | .bool _ => .bool
  | .int _ => .int
  | .float _ => .float
  | .str _ => .str
  | .list _ => .list
  | .dict _ => .dict

/-- Whether a value counts as true: not nothing, zero or empty. -/
def truthy : Value → Bool
  | .none => false
  | .bool b => b
  | .int i => i ≠ 0
  | .float x => !x.isZero
  | .str s => s ≠ ""
  | .list items => !items.isEmpty
  | .dict fields => !fields.isEmpty

def lookup? (key : String) : List (String × Value) → Option Value
  | [] => Option.none
  | (k, v) :: rest => if k = key then some v else lookup? key rest

/-- Sets a key: in its place if it is there, else at the end. -/
def insert (key : String) (value : Value) : List (String × Value) → List (String × Value)
  | [] => [(key, value)]
  | (k, v) :: rest => if k = key then (k, value) :: rest else (k, v) :: insert key value rest

def strings (ss : List String) : Value := .list (ss.map .str)

def ofText? : Option String → Value
  | some s => .str s
  | Option.none => .none

end Value
end DocReview
