import DocReview.Fault
import DocReview.Value.Text
/-!
# Access — taking values apart

Each operation takes the kind of value it is meant for, and refuses the others with the cause that names the kind.
-/
namespace DocReview.Value

/-- The field of a mapping, or what stands for a missing one. -/
def get (v : Value) (key : String) (missing : Value := .none) : Except Fault Value :=
  match v with
  | .dict fields => .ok ((lookup? key fields).getD missing)
  | v => .error (.lacks v.kind "get")

/-- The field of a mapping, which must be there. -/
def field (v : Value) (key : String) : Except Fault Value :=
  match v with
  | .dict fields =>
    match lookup? key fields with
    | some found => .ok found
    | Option.none => .error (.missingKey key)
  | .list _ => .error .fieldOfList
  | .str _ => .error .fieldOfText
  | v => .error (.notSubscriptable v.kind)

def isKey : Value → Bool
  | .list _ => false
  | .dict _ => false
  | _ => true

/-- The field whose key is a value; a key that is no text is in no mapping. -/
def getAt (v : Value) (key : Value) (missing : Value) : Except Fault Value :=
  match v with
  | .dict fields =>
    if key.isKey then
      match key with
      | .str k => .ok ((lookup? k fields).getD missing)
      | _ => .ok missing
    else .error (.notKey key.kind)
  | v => .error (.lacks v.kind "get")

def characters (s : String) : List Value := s.toList.map fun c => .str (String.singleton c)

/-- The elements of a list, the characters of a text or the keys of a mapping. -/
def elements? : Value → Option (List Value)
  | .list items => some items
  | .str s => some (characters s)
  | .dict fields => some (fields.map fun p => .str p.1)
  | _ => Option.none

def elements (v : Value) : Except Fault (List Value) :=
  match v.elements? with
  | some vs => .ok vs
  | Option.none => .error (.notIterable v.kind)

def size (v : Value) : Except Fault Nat :=
  match v.elements? with
  | some vs => .ok vs.length
  | Option.none => .error (.noLength v.kind)

def entries : Value → Except Fault (List (String × Value))
  | .dict fields => .ok fields
  | v => .error (.lacks v.kind "items")

/-- A text, for an operation that only texts have. -/
def textFor (operation : String) : Value → Except Fault (List Char)
  | .str s => .ok s.toList
  | v => .error (.lacks v.kind operation)

/-- The texts of items from an index on, all of which must be texts. -/
def itemTexts : Nat → List Value → Except Fault (List (List Char))
  | _, [] => .ok []
  | i, .str s :: vs => do return s.toList :: (← itemTexts (i + 1) vs)
  | i, v :: _ => .error (.itemNotText i v.kind)

def join (separator : String) (items : List Value) : Except Fault String := do
  return String.ofList (Text.joinWith separator.toList (← itemTexts 0 items))

def joinElements (separator : String) (v : Value) : Except Fault String :=
  match v.elements? with
  | some vs => join separator vs
  | Option.none => .error .notJoinable

/-- A value, or another one where it does not count as true. -/
def orElse (v other : Value) : Value := if v.truthy then v else other

def isText (v : Value) (s : String) : Bool :=
  match v with
  | .str t => t = s
  | _ => false

end DocReview.Value
