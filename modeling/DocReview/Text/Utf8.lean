/-!
# Utf8 — bytes as text

`decode` reads bytes as UTF-8, or says which bytes cannot be read and why.
-/
namespace DocReview.Text

inductive Utf8Cause where
  | invalidStart
  | invalidContinuation
  | unexpectedEnd
  deriving DecidableEq

def Utf8Cause.text : Utf8Cause → String
  | .invalidStart => "invalid start byte"
  | .invalidContinuation => "invalid continuation byte"
  | .unexpectedEnd => "unexpected end of data"

/-- The bytes that cannot be read: the first of them, its place, how many they are, and the cause. -/
structure Utf8Fault where
  byte : Nat
  position : Nat
  count : Nat
  cause : Utf8Cause
  deriving DecidableEq

/-- The bytes a first byte announces: how many follow, and the range of the next. `none` for a byte that starts nothing. -/
def followers? (b : Nat) : Option (Nat × Nat × Nat) :=
  if b < 0x80 then some (0, 0, 0)
  else if b < 0xc2 then none
  else if b < 0xe0 then some (1, 0x80, 0xbf)
  else if b = 0xe0 then some (2, 0xa0, 0xbf)
  else if b = 0xed then some (2, 0x80, 0x9f)
  else if b < 0xf0 then some (2, 0x80, 0xbf)
  else if b = 0xf0 then some (3, 0x90, 0xbf)
  else if b < 0xf4 then some (3, 0x80, 0xbf)
  else if b = 0xf4 then some (3, 0x80, 0x8f)
  else none

/-- The bits of a first byte that count, by the number of bytes that follow. -/
def leadBits (b follow : Nat) : Nat :=
  if follow = 0 then b else if follow = 1 then b - 0xc0 else if follow = 2 then b - 0xe0 else b - 0xf0

/-- Takes the following bytes of a character into `acc`; only the first has a range of its own. Gives the code point and
the rest, or how many bytes were good and the cause. -/
def continueChar : Nat → Nat → Nat → Nat → Nat → List Nat → Except (Nat × Utf8Cause) (Nat × List Nat)
  | 0, _, _, acc, _, rest => .ok (acc, rest)
  | _ + 1, _, _, _, seen, [] => .error (seen, .unexpectedEnd)
  | follow + 1, lo, hi, acc, seen, b :: bs =>
    if lo ≤ b ∧ b ≤ hi then continueChar follow 0x80 0xbf (64 * acc + (b - 0x80)) (seen + 1) bs
    else .error (seen, .invalidContinuation)

/-- Reads characters, from a position, for at most the given number of steps. -/
def decodeFrom : Nat → Nat → List Nat → Except Utf8Fault (List Char)
  | 0, _, _ => .ok []
  | _, _, [] => .ok []
  | bound + 1, position, b :: bs =>
    match followers? b with
    | none => .error ⟨b, position, 1, .invalidStart⟩
    | some (follow, lo, hi) =>
      match continueChar follow lo hi (leadBits b follow) 1 bs with
      | .ok (n, rest) => (decodeFrom bound (position + follow + 1) rest).map (Char.ofNat n :: ·)
      | .error (seen, cause) => .error ⟨b, position, seen, cause⟩

def decode (bytes : List Nat) : Except Utf8Fault (List Char) := decodeFrom bytes.length 0 bytes

end DocReview.Text
