import DocReview.Value.Basic
/-!
# Reader — JSON text as values

Readers take characters from the front of a text.  A fault names its cause and how many characters were left, so the
place of every fault is known once the length of the whole text is.
-/
namespace DocReview.Json

inductive Cause where
  | expectingValue
  | expectingName
  | expectingColon
  | expectingComma
  | unterminated
  | controlCharacter
  | badEscape
  | badUnicodeEscape
  | extraData
  | byteOrderMark
  | tooManyDigits (count : Nat)
  deriving DecidableEq

def Cause.text : Cause → String
  | .expectingValue => "Expecting value"
  | .expectingName => "Expecting property name enclosed in double quotes"
  | .expectingColon => "Expecting ':' delimiter"
  | .expectingComma => "Expecting ',' delimiter"
  | .unterminated => "Unterminated string starting at"
  | .controlCharacter => "Invalid control character at"
  | .badEscape => "Invalid \\escape"
  | .badUnicodeEscape => "Invalid \\uXXXX escape"
  | .extraData => "Extra data"
  | .byteOrderMark => "Unexpected UTF-8 BOM (decode using utf-8-sig)"
  | .tooManyDigits n =>
    "Exceeds the limit (4300 digits) for integer string conversion: value has " ++ toString n
      ++ " digits; use sys.set_int_max_str_digits() to increase the limit"

/-- A cause, with the number of characters from its place to the end. -/
structure Fault where
  cause : Cause
  left : Nat
  deriving DecidableEq

def isSpace (c : Char) : Bool := c = ' ' || c = '\t' || c = '\n' || c = '\r'

def skipSpace (cs : List Char) : List Char := cs.dropWhile isSpace

/-! ## Strings -/

def hexDigit? (c : Char) : Option Nat :=
  if '0' ≤ c ∧ c ≤ '9' then some (c.toNat - '0'.toNat)
  else if 'a' ≤ c ∧ c ≤ 'f' then some (c.toNat - 'a'.toNat + 10)
  else if 'A' ≤ c ∧ c ≤ 'F' then some (c.toNat - 'A'.toNat + 10)
  else none

def fourHex? (a b c d : Char) : Option Nat := do
  let a ← hexDigit? a
  let b ← hexDigit? b
  let c ← hexDigit? c
  let d ← hexDigit? d
  return ((a * 16 + b) * 16 + c) * 16 + d

def isHigh (n : Nat) : Bool := 0xd800 ≤ n && n < 0xdc00

def isLow (n : Nat) : Bool := 0xdc00 ≤ n && n < 0xe000

/-- The character of a code point; a unit without its other half has none, and becomes the replacement character. -/
def charOf (n : Nat) : Char := if isHigh n || isLow n then '\ufffd' else Char.ofNat n

def plainEscape? : Char → Option Char
  | '"' => some '"'
  | '\\' => some '\\'
  | '/' => some '/'
  | 'b' => some '\x08'
  | 'f' => some '\x0c'
  | 'n' => some '\n'
  | 'r' => some '\r'
  | 't' => some '\t'
  | _ => none

/-- A numbered character after its `\u`; a high unit takes the low unit that follows it. The four digits have to be
followed by something. -/
def unicodeEscape (cs : List Char) : Except Fault (Char × List Char) :=
  let bad (rest : List Char) : Fault := ⟨.badUnicodeEscape, rest.length + 1⟩
  match cs with
  | a :: b :: c :: d :: rest =>
    -- The digits are never the last of a text: the closing quote is still to come.
    if rest.isEmpty then .error (bad cs)
    else
      match fourHex? a b c d with
      | none => .error (bad cs)
      | some n =>
        match rest with
        | '\\' :: 'u' :: e :: f :: g :: h :: x :: more =>
          if isHigh n then
            match fourHex? e f g h with
            | none => .error (bad (e :: f :: g :: h :: x :: more))
            | some m =>
              if isLow m then .ok (Char.ofNat (0x10000 + (n - 0xd800) * 0x400 + (m - 0xdc00)), x :: more)
              else .ok (charOf n, rest)
          else .ok (charOf n, rest)
        | _ => .ok (charOf n, rest)
  | _ => .error (bad cs)

/-- The rest of a string after its opening quote, which has `start` characters from it to the end. The bound is the
number of characters left. -/
def string (start : Nat) : Nat → List Char → Except Fault (List Char × List Char)
  | 0, _ => .error ⟨.unterminated, start⟩
  | _, [] => .error ⟨.unterminated, start⟩
  | bound + 1, c :: cs =>
    if c = '"' then .ok ([], cs)
    else if c.toNat < 0x20 then .error ⟨.controlCharacter, (c :: cs).length⟩
    else if c ≠ '\\' then do
      let (s, rest) ← string start bound cs
      return (c :: s, rest)
    else
      match cs with
      | [] => .error ⟨.unterminated, start⟩
      | e :: es =>
        if e = 'u' then do
          let (k, rest) ← unicodeEscape es
          let (s, rest) ← string start bound rest
          return (k :: s, rest)
        else
          match plainEscape? e with
          | some k => do
            let (s, rest) ← string start bound es
            return (k :: s, rest)
          | none => .error ⟨.badEscape, (c :: cs).length⟩

/-! ## Numbers -/

def isDigit (c : Char) : Bool := '0' ≤ c && c ≤ '9'

def natOf (ds : List Char) : Nat := ds.foldl (fun n d => 10 * n + (d.toNat - '0'.toNat)) 0

def maxDigits : Nat := 4300

def fraction (cs : List Char) : List Char × List Char :=
  match cs with
  | '.' :: rest =>
    let ds := rest.takeWhile isDigit
    if ds.isEmpty then ([], cs) else (ds, rest.drop ds.length)
  | _ => ([], cs)

def exponent? (cs : List Char) : Option Int × List Char :=
  match cs with
  | e :: rest =>
    if e = 'e' || e = 'E' then
      let (neg, rest) := match rest with
        | '-' :: r => (true, r)
        | '+' :: r => (false, r)
        | r => (false, r)
      let ds := rest.takeWhile isDigit
      if ds.isEmpty then (none, cs)
      else
        let n : Int := natOf ds
        (some (if neg then -n else n), rest.drop ds.length)
    else (none, cs)
  | [] => (none, cs)

def signed : List Char → Bool × List Char
  | '-' :: r => (true, r)
  | r => (false, r)

/-- The digits before a point: a zero that comes first stands alone. -/
def whole : List Char → List Char
  | '0' :: _ => ['0']
  | r => r.takeWhile isDigit

def number? (cs : List Char) : Option (Except Fault (Value × List Char)) :=
  let (neg, rest) := signed cs
  let ds := whole rest
  if ds.isEmpty then none
  else
    let (frac, r₁) := fraction (rest.drop ds.length)
    let (exp, r₂) := exponent? r₁
    if frac.isEmpty && exp.isNone then
      if maxDigits < ds.length then some (.error ⟨.tooManyDigits ds.length, cs.length⟩)
      else
        let n : Int := natOf ds
        some (.ok (.int (if neg then -n else n), r₂))
    else
      some (.ok (.float (Binary64.ofDecimal neg (natOf (ds ++ frac)) (exp.getD 0 - frac.length)), r₂))

def words : List (List Char × Value) :=
  [("null".toList, .none), ("true".toList, .bool true), ("false".toList, .bool false), ("NaN".toList, .float .nan),
    ("Infinity".toList, .float (.infinite false)), ("-Infinity".toList, .float (.infinite true))]

def word? (cs : List Char) : Option (Value × List Char) :=
  words.findSome? fun (w, v) => if w.isPrefixOf cs then some (v, cs.drop w.length) else none

/-! ## Values -/

mutual

/-- One value, at most the given number of steps deep and long. -/
def value : Nat → List Char → Except Fault (Value × List Char)
  | 0, cs => .error ⟨.expectingValue, cs.length⟩
  | bound + 1, cs =>
    match cs with
    | '"' :: rest => do
      let (s, rest) ← string cs.length rest.length rest
      return (.str (String.ofList s), rest)
    | '{' :: rest =>
      match skipSpace rest with
      | '}' :: rest => .ok (.dict [], rest)
      | rest => members bound [] rest
    | '[' :: rest =>
      match skipSpace rest with
      | ']' :: rest => .ok (.list [], rest)
      | rest => items bound [] rest
    | cs =>
      match word? cs with
      | some r => .ok r
      | none => (number? cs).getD (.error ⟨.expectingValue, cs.length⟩)

/-- Items of a list up to its closing bracket, after those read, backwards. -/
def items : Nat → List Value → List Char → Except Fault (Value × List Char)
  | 0, _, cs => .error ⟨.expectingValue, cs.length⟩
  | bound + 1, done, cs => do
    let (v, rest) ← value bound cs
    match skipSpace rest with
    | ']' :: rest => return (.list (v :: done).reverse, rest)
    | ',' :: rest => items bound (v :: done) (skipSpace rest)
    | rest => .error ⟨.expectingComma, rest.length⟩

/-- Members of an object up to its closing brace, after those read. -/
def members : Nat → List (String × Value) → List Char → Except Fault (Value × List Char)
  | 0, _, cs => .error ⟨.expectingName, cs.length⟩
  | bound + 1, done, cs =>
    match cs with
    | '"' :: rest => do
      let (k, rest) ← string cs.length rest.length rest
      match skipSpace rest with
      | ':' :: rest =>
        let (v, rest) ← value bound (skipSpace rest)
        let done := Value.insert (String.ofList k) v done
        match skipSpace rest with
        | '}' :: rest => return (.dict done, rest)
        | ',' :: rest => members bound done (skipSpace rest)
        | rest => .error ⟨.expectingComma, rest.length⟩
      | rest => .error ⟨.expectingColon, rest.length⟩
    | cs => .error ⟨.expectingName, cs.length⟩

end

def read (cs : List Char) : Except Fault Value :=
  if cs.head? = some '\ufeff' then .error ⟨.byteOrderMark, cs.length⟩
  else do
    let (v, rest) ← value (2 * cs.length + 2) (skipSpace cs)
    let rest := skipSpace rest
    if rest.isEmpty then return v else .error ⟨.extraData, rest.length⟩

/-- Where a fault lies, in words: line, column and character, from the part of the text before it. -/
def Fault.message (f : Fault) (cs : List Char) : String :=
  match f.cause with
  | .tooManyDigits _ => f.cause.text
  | _ =>
    let before := cs.take (cs.length - f.left)
    let line := before.count '\n' + 1
    let column := (before.reverse.takeWhile (· ≠ '\n')).length + 1
    f.cause.text ++ ": line " ++ toString line ++ " column " ++ toString column ++ " (char " ++ toString before.length
      ++ ")"

end DocReview.Json
