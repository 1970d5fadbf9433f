import DocReview.Number.Binary64
/-!
# Shortest — the fewest digits that read back

`Binary64.shortest` gives the decimal digits of a positive double: of all decimals that round to it, one with the
fewest digits, and of those the nearest.  `FloatText` fixes how such digits are laid out; `FloatText.render` writes them.
-/
namespace DocReview

def decimalDigits (n : Nat) : List Char := Nat.toDigits 10 n

def decimalText (i : Int) : List Char := if i < 0 then '-' :: decimalDigits i.natAbs else decimalDigits i.natAbs

/-- Decimal digits with the place of the point: `0.d₁d₂… · 10^point`. -/
structure Digits where
  digits : List Char
  point : Int
  deriving DecidableEq

namespace Binary64

/-- The least `j` up to the bound with `den ≤ num · 10^j`. -/
def leadingZeros (num den : Nat) : Nat → Nat → Nat
  | 0, j => j
  | bound + 1, j => if den ≤ num then j else leadingZeros (num * 10) den bound (j + 1)

/-- The `k` with `10^(k-1) ≤ num / den < 10^k`. -/
def pointOf (num den : Nat) : Int :=
  if den ≤ num then ((decimalDigits (num / den)).length : Int)
  else 1 - (leadingZeros num den 400 0 : Int)

/-- `num / den` counted in units of `10^(point - places)`, as a ratio. -/
def gridRatio (num den : Nat) (point : Int) (places : Nat) : Nat × Nat :=
  let s := (places : Int) - point
  if 0 ≤ s then (num * Nat.pow 10 s.toNat, den) else (num, den * Nat.pow 10 (-s).toNat)

/-- On the grid of `places` digits, the neighbour of `num / den` that reads back as `x`: the nearer if both do. -/
def gridHit? (x : Binary64) (num den : Nat) (point : Int) (places : Nat) : Option Nat :=
  let (n, d) := gridRatio num den point places
  let lo := n / d
  let back (k : Nat) : Bool := ofDecimal false k (point - places) = x
  let near := roundDiv n d
  if back near then some near
  else if back lo then some lo
  else if back (lo + 1) then some (lo + 1)
  else none

/-- Tries grids of `places`, `places + 1`, … digits. -/
def shortestFrom (x : Binary64) (num den : Nat) (point : Int) : Nat → Nat → Nat × Nat
  | 0, places => (roundDiv (gridRatio num den point places).1 (gridRatio num den point places).2, places)
  | tries + 1, places =>
    match gridHit? x num den point places with
    | some k => (k, places)
    | none => shortestFrom x num den point tries (places + 1)

def shortest (mant : Nat) (exp : Int) : Digits :=
  let (num, den) := ratio mant exp
  let point := pointOf num den
  let (k, places) := shortestFrom (.finite false mant exp) num den point 16 1
  let ds := decimalDigits k
  { digits := ds, point := point + ((ds.length : Int) - places) }

end Binary64

structure FloatText where
  /-- Points in `(lowPoint, highPoint]` are written positionally. -/
  lowPoint : Int
  highPoint : Int
  /-- Whether an integral value keeps a final `.0`. -/
  keepZero : Bool

namespace FloatText

/-- The layout of a double of its own: positional from `0.0001` up to `10^16`, and an integral value ends in `.0`. -/
def standard : FloatText := ⟨-4, 16, true⟩

/-- The layout of an imaginary part, where an integral value has no point. -/
def bare : FloatText := ⟨-4, 16, false⟩

/-- Exponents have a sign and two digits at least. -/
def exponentText (e : Int) : List Char :=
  let ds := decimalDigits e.natAbs
  'e' :: (if e < 0 then '-' else '+') :: (if ds.length < 2 then '0' :: ds else ds)

def layout (f : FloatText) (d : Digits) : List Char :=
  let ds := (d.digits.reverse.dropWhile (· = '0')).reverse
  if f.lowPoint < d.point ∧ d.point ≤ f.highPoint then
    if d.point ≤ 0 then '0' :: '.' :: (List.replicate (-d.point).toNat '0' ++ ds)
    else
      let p := d.point.toNat
      if ds.length ≤ p then
        ds ++ List.replicate (p - ds.length) '0' ++ (if f.keepZero then ['.', '0'] else [])
      else ds.take p ++ '.' :: ds.drop p
  else
    match ds with
    | [] => []
    | [c] => c :: exponentText (d.point - 1)
    | c :: rest => c :: '.' :: (rest ++ exponentText (d.point - 1))

def render (f : FloatText) : Binary64 → List Char
  | .nan => "nan".toList
  | .infinite neg => if neg then "-inf".toList else "inf".toList
  | .finite neg mant exp =>
    let sign := if neg then ['-'] else []
    if mant = 0 then sign ++ '0' :: (if f.keepZero then ['.', '0'] else [])
    else sign ++ f.layout (Binary64.shortest mant exp)

end FloatText

/-- The text of a double: the fewest digits that read back. -/
def Binary64.text (x : Binary64) : String := String.ofList (FloatText.standard.render x)

end DocReview
