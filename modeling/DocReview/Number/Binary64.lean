/-!
# Binary64 — doubles as exact numbers

A double is kept as the integer it is a power of two away from, so every operation here is exact arithmetic on naturals
followed by one rounding, `Binary64.ofRatio`: to the nearest double, a half to the even neighbour.
-/
namespace DocReview

/-- The quotient rounded to the nearest integer, a half to the even neighbour. -/
def roundDiv (num den : Nat) : Nat :=
  let q := num / den
  let r := num % den
  if 2 * r < den then q else if den < 2 * r then q + 1 else q + q % 2

/-- A double. A finite one is `mant · 2^exp`, negated when `neg`; it is written with the largest `mant` below `2^53`
that its exponent range allows, so equal finite doubles of one sign are equal values. -/
inductive Binary64 where
  | finite (neg : Bool) (mant : Nat) (exp : Int)
  | infinite (neg : Bool)
  | nan
  deriving DecidableEq

namespace Binary64

def minExp : Int := -1074

def maxExp : Int := 971

def zero (neg : Bool) : Binary64 := .finite neg 0 minExp

/-- `num / den / 2^e` as a ratio of naturals. -/
def scaleRatio (num den : Nat) (e : Int) : Nat × Nat :=
  if 0 ≤ e then (num, den * Nat.pow 2 e.toNat) else (num * Nat.pow 2 (-e).toNat, den)

/-- The exponent at which `num / den` has a 53-bit integer part, or the least one. -/
def exponentOf (num den : Nat) : Int :=
  let e : Int := (num.log2 : Int) - (den.log2 : Int) - 53
  let (n, d) := scaleRatio num den e
  max minExp (if Nat.pow 2 53 * d ≤ n then e + 1 else e)

/-- The double nearest to `num / den`, a half to the even neighbour; beyond the range it is infinite. -/
def ofRatio (neg : Bool) (num den : Nat) : Binary64 :=
  if num = 0 then zero neg
  else
    let e := exponentOf num den
    let (n, d) := scaleRatio num den e
    let m := roundDiv n d
    let (m, e) := if m = Nat.pow 2 53 then (Nat.pow 2 52, e + 1) else (m, e)
    if maxExp < e then .infinite neg else .finite neg m e

/-- `digits · 10^exp`, rounded. The guards only spare the powers that no double can hold. -/
def ofDecimal (neg : Bool) (digits : Nat) (exp : Int) : Binary64 :=
  if digits = 0 then zero neg
  else if 400 < exp then .infinite neg
  else if exp + (digits.log2 : Int) < -1200 then zero neg
  else if 0 ≤ exp then ofRatio neg (digits * Nat.pow 10 exp.toNat) 1
  else ofRatio neg digits (Nat.pow 10 (-exp).toNat)

def ratio (mant : Nat) (exp : Int) : Nat × Nat :=
  if 0 ≤ exp then (mant * Nat.pow 2 exp.toNat, 1) else (mant, Nat.pow 2 (-exp).toNat)

def ofInt (i : Int) : Binary64 := ofRatio (decide (i < 0)) i.natAbs 1

def isFinite : Binary64 → Bool
  | .finite .. => true
  | _ => false

def isZero : Binary64 → Bool
  | .finite _ 0 _ => true
  | _ => false

/-- The value of a finite double as a signed numerator over a positive denominator. -/
def signedRatio (neg : Bool) (mant : Nat) (exp : Int) : Int × Nat :=
  let (n, d) := ratio mant exp
  (if neg then -(n : Int) else n, d)

/-- The sum, rounded once. Two zeros of different sign add up to the positive one. -/
def add : Binary64 → Binary64 → Binary64
  | .nan, _ => .nan
  | _, .nan => .nan
  | .infinite a, .infinite b => if a = b then .infinite a else .nan
  | .infinite a, _ => .infinite a
  | _, .infinite b => .infinite b
  | .finite sa ma ea, .finite sb mb eb =>
    let (na, da) := signedRatio sa ma ea
    let (nb, db) := signedRatio sb mb eb
    let s : Int := na * db + nb * da
    if s = 0 then zero (sa && sb && (ma = 0) && (mb = 0)) else ofRatio (decide (s < 0)) s.natAbs (da * db)

def mul : Binary64 → Binary64 → Binary64
  | .nan, _ => .nan
  | _, .nan => .nan
  | .infinite a, .infinite b => .infinite (a != b)
  | .infinite a, .finite s m _ => if m = 0 then .nan else .infinite (a != s)
  | .finite s m _, .infinite b => if m = 0 then .nan else .infinite (s != b)
  | .finite sa ma ea, .finite sb mb eb =>
    let (na, da) := ratio ma ea
    let (nb, db) := ratio mb eb
    ofRatio (sa != sb) (na * nb) (da * db)

/-- The quotient, rounded once, for a divisor that is not zero. -/
def div : Binary64 → Binary64 → Binary64
  | .nan, _ => .nan
  | _, .nan => .nan
  | .infinite _, .infinite _ => .nan
  | .infinite a, .finite s _ _ => .infinite (a != s)
  | .finite s _ _, .infinite b => zero (s != b)
  | .finite sa ma ea, .finite sb mb eb =>
    let (na, da) := ratio ma ea
    let (nb, db) := ratio mb eb
    ofRatio (sa != sb) (na * db) (da * nb)

/-- Orders a double against a ratio with a positive denominator; a NaN has no order. -/
def compareRatio (x : Binary64) (num : Int) (den : Nat) : Option Ordering :=
  match x with
  | .nan => none
  | .infinite neg => some (if neg then .lt else .gt)
  | .finite neg mant exp =>
    let (n, d) := signedRatio neg mant exp
    some (compare (n * den) (num * d))

def order (x : Binary64) : Binary64 → Option Ordering
  | .nan => none
  | .infinite neg =>
    match x with
    | .nan => none
    | .infinite neg' => some (if neg = neg' then .eq else if neg' then .lt else .gt)
    | .finite .. => some (if neg then .gt else .lt)
  | .finite neg mant exp =>
    let (n, d) := signedRatio neg mant exp
    x.compareRatio n d

/-- Rounds to `places` decimals: the exact value to the nearest multiple of `10^-places`, a half to the even one, then
to the nearest double. -/
def roundPlaces (places : Nat) : Binary64 → Binary64
  | .finite neg mant exp =>
    let (n, d) := ratio mant exp
    ofRatio neg (roundDiv (n * Nat.pow 10 places) d) (Nat.pow 10 places)
  | x => x

end Binary64
end DocReview
