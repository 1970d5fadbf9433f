import DocReview.Fault
import DocReview.Text.Blank
/-!
# Arithmetic — sums and orders of values

Whole numbers are exact and of any size; a truth value counts as 0 or 1.  A whole number meets a double by becoming
one, which fails for the largest, except in comparisons, which are exact.
-/
namespace DocReview.Value

inductive Number where
  | whole (i : Int)
  | double (x : Binary64)

def number? : Value → Option Number
  | .bool b => some (.whole (if b then 1 else 0))
  | .int i => some (.whole i)
  | .float x => some (.double x)
  | _ => Option.none

namespace Number

def value : Number → Value
  | .whole i => .int i
  | .double x => .float x

def toDouble (i : Int) : Except Fault Binary64 :=
  let x := Binary64.ofInt i
  if x.isFinite then .ok x else .error .tooLargeForFloat

def double? : Number → Except Fault Binary64
  | .whole i => toDouble i
  | .double x => .ok x

def add : Number → Number → Except Fault Number
  | .whole a, .whole b => .ok (.whole (a + b))
  | a, b => do return .double (Binary64.add (← a.double?) (← b.double?))

def mul : Number → Number → Except Fault Number
  | .whole a, .whole b => .ok (.whole (a * b))
  | a, b => do return .double (Binary64.mul (← a.double?) (← b.double?))

def divide (a : Number) (count : Nat) : Except Fault Binary64 :=
  match a with
  | .whole a =>
    let x := Binary64.ofRatio (decide (a < 0)) a.natAbs count
    if x.isFinite then .ok x else .error .quotientTooLarge
  | .double x => do return Binary64.div x (← toDouble count)

/-- The order of two numbers, by their exact values. -/
def order : Number → Number → Option Ordering
  | .whole a, .whole b => some (compare a b)
  | .double x, .whole b => x.compareRatio b 1
  | .whole a, .double y => (y.compareRatio a 1).map Ordering.swap
  | .double x, .double y => x.order y

end Number

/-- Two numbers added, two texts or two lists joined. -/
def add (symbol : String) (a b : Value) : Except Fault Value :=
  match a.number?, b.number? with
  | some x, some y => do return (← x.add y).value
  | _, _ =>
    match a, b with
    | .str s, .str t => .ok (.str (s ++ t))
    | .list xs, .list ys => .ok (.list (xs ++ ys))
    | .str _, b => .error (.notConcatText b.kind)
    | .list _, b => .error (.notConcatList b.kind)
    | a, b => .error (.unsupported symbol a.kind b.kind)

def divide (a : Value) (count : Nat) : Except Fault Value :=
  match a.number? with
  | some x => do return .float (← x.divide count)
  | Option.none => .error (.unsupported "/" a.kind .int)

/-- The digits of a whole number, with single underscores between them, after those read. -/
def readDigits? : Option Nat → List Char → Option Nat
  | acc, [] => acc
  | acc, c :: cs =>
    if '0' ≤ c ∧ c ≤ '9' then readDigits? (some (10 * acc.getD 0 + (c.toNat - '0'.toNat))) cs
    else if c = '_' ∧ acc.isSome ∧ cs.head? ≠ some '_' ∧ cs ≠ [] then readDigits? acc cs
    else Option.none

def readInteger? (cs : List Char) : Option Int :=
  match Text.trim cs with
  | '-' :: ds => (readDigits? Option.none ds).map fun n => -(n : Int)
  | '+' :: ds => (readDigits? Option.none ds).map fun n => (n : Int)
  | ds => (readDigits? Option.none ds).map fun n => (n : Int)

def toInteger (v : Value) : Except Fault Int :=
  match v with
  | .bool b => .ok (if b then 1 else 0)
  | .int i => .ok i
  | .float (.finite neg mant exp) =>
    let (n, d) := Binary64.ratio mant exp
    .ok (if neg then -((n / d : Nat) : Int) else ((n / d : Nat) : Int))
  | .float (.infinite _) => .error .infinityToInteger
  | .float .nan => .error .nanToInteger
  | .str s =>
    match readInteger? s.toList with
    | some i => .ok i
    | Option.none => .error (.badInteger s)
  | v => .error (.notReal v.kind)

/-- Whether a value comes before another: numbers by value, texts by their characters. -/
def precedes (a b : Value) : Except Fault Bool :=
  match a.number?, b.number? with
  | some x, some y => .ok (x.order y = some .lt)
  | _, _ =>
    match a, b with
    | .str s, .str t => .ok (s < t)
    | a, b => .error (.notComparable "<" a.kind b.kind)

/-- Whether two values are the same key: equal texts, nothing and nothing, or numbers of the same value. -/
def sameKey (a b : Value) : Bool :=
  match a.number?, b.number? with
  | some x, some y => x.order y = some .eq
  | _, _ =>
    match a, b with
    | .str s, .str t => s = t
    | .none, .none => true
    | _, _ => false

end DocReview.Value
