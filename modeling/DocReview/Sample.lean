import DocReview.Value.Access
import DocReview.Value.Arithmetic
/-!
# Sample — small functions on values

The functions that the sample sources define, so that what they say of themselves can be held against what they do.
-/
namespace DocReview.Sample

def total (items : List Value) : Except Fault Value :=
  items.foldlM (fun sum v => Value.add "+=" sum v) (.int 0)

/-- The average of numbers; a whole zero for none. -/
def average (numbers : Value) : Except Fault Value := do
  let items ← numbers.elements
  match (← total items).number? with
  | some sum => if items.isEmpty then return .int 0 else return .float (← sum.divide items.length)
  | none => return .int 0

def add (a b : Value) : Except Fault Value := Value.add "+" a b

def numbers (bound : Value) : Except Fault (List Nat) :=
  match bound with
  | .bool b => .ok (List.range (if b then 1 else 0))
  | .int i => .ok (List.range i.toNat)
  | v => .error (.notInteger v.kind)

/-- Twice a number that is not negative. -/
def double (x : Value) : Except Fault Value :=
  match x.number? with
  | some n =>
    if n.order (.whole 0) = some .lt then .error .negative
    else do return (← n.mul (.whole 2)).value
  | none => .error (.notComparable "<" x.kind .int)

/-- The elements that are something, each on a line. -/
def printed (data : Value) : Except Fault String := do
  return String.join ((← data.elements).filterMap fun v =>
    match v with
    | .none => none
    | v => some (v.text ++ "\n"))

end DocReview.Sample
