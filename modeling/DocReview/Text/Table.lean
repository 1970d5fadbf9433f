/-!
# Table — properties of characters, as data

A property of characters is a set of code points.  The sets and maps of the modules beside this one are written as
blank-separated hexadecimal words and read by `hexWords`, or as rows of words and read by `hexRows`.
-/
namespace DocReview.Text

def hexDigit? (c : Char) : Option Nat :=
  if '0' ≤ c ∧ c ≤ '9' then some (c.toNat - '0'.toNat)
  else if 'a' ≤ c ∧ c ≤ 'f' then some (c.toNat - 'a'.toNat + 10)
  else none

/-- Reads words; `cur` is the word being read. -/
def hexWordsFrom : List Char → Option Nat → List Nat
  | [], none => []
  | [], some w => [w]
  | c :: cs, cur =>
    match hexDigit? c, cur with
    | some d, none => hexWordsFrom cs (some d)
    | some d, some w => hexWordsFrom cs (some (16 * w + d))
    | none, none => hexWordsFrom cs none
    | none, some w => w :: hexWordsFrom cs none

def hexWords (s : String) : List Nat := hexWordsFrom s.toList none

/-- Takes words off the end of a row, as long as there are more than the digit before the first, and at most the given
number of them. -/
def rowWordsFrom : Nat → Nat → List Nat → List Nat
  | 0, _, acc => acc
  | bound + 1, row, acc => if row ≤ 1 then acc else rowWordsFrom bound (row / 0x100000) (row % 0x100000 :: acc)

/-- The words of a table in rows: a row is a digit 1 and up to 21 words of five hexadecimal digits. -/
def hexRows (rows : List Nat) : List Nat := rows.flatMap fun row => rowWordsFrom 21 row []

/-- Membership in a set given by the distances between the points where it changes, the first counted from 0: `n` is
in the set when an odd number of those points is at most `n`. -/
def inGaps : List Nat → Nat → Bool → Bool
  | [], _, inside => inside
  | g :: gs, n, inside => if n < g then inside else inGaps gs (n - g) (!inside)

/-- The image of `n` under runs of four words: first, last, step and the image of the first. -/
def imageIn? : List Nat → Nat → Option Nat
  | lo :: hi :: step :: image :: rest, n =>
    if lo ≤ n ∧ n ≤ hi ∧ (n - lo) % step = 0 then some (image + (n - lo)) else imageIn? rest n
  | _, _ => none

end DocReview.Text
