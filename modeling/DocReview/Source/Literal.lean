import DocReview.Source.Expr
import DocReview.Source.Lexer
import DocReview.Text.CharName
/-!
# Literal — what stands between the quotes

Escapes are resolved here, and a formatted string is cut into texts and holes.  The expressions in the holes stay source
text: reading them is the grammar's work.
-/
namespace DocReview.Source

/-! ## Escapes -/

def isOctalDigit (c : Char) : Bool := '0' ≤ c && c ≤ '7'

def letterEscape? : Char → Option Nat
  | '\\' => some 0x5c
  | '\'' => some 0x27
  | '"' => some 0x22
  | 'a' => some 7
  | 'b' => some 8
  | 't' => some 9
  | 'n' => some 10
  | 'v' => some 11
  | 'f' => some 12
  | 'r' => some 13
  | _ => none

def hexEscape? (count : Nat) (cs : List Char) : Option (Nat × List Char) :=
  let ds := cs.take count
  if ds.length = count && ds.all isHexDigit then some (digitsValue 16 ds, cs.drop count) else none

/-- One to three octal digits, the first of which is there. -/
def octalEscape (cs : List Char) : Nat × List Char :=
  let ds := (cs.take 3).takeWhile isOctalDigit
  (digitsValue 8 ds, cs.drop ds.length)

def namedEscape? : List Char → Option (Nat × List Char)
  | '{' :: cs =>
    match cs.dropWhile (· ≠ '}') with
    | _ :: rest => (Text.CharName.lookup? (cs.takeWhile (· ≠ '}'))).map fun n => (n, rest)
    | [] => none
  | _ => none

/-- The code points an escape stands for, given what follows the backslash; `none` for a malformed one. An unknown
escape stands for itself. -/
def textEscape : List Char → Option (List Nat × List Char)
  | [] => some ([0x5c], [])
  | c :: cs =>
    match letterEscape? c with
    | some n => some ([n], cs)
    | none =>
      if c = '\n' then some ([], cs)
      else if isOctalDigit c then
        let (n, r) := octalEscape (c :: cs)
        some ([n], r)
      else if c = 'x' then (hexEscape? 2 cs).map fun (n, r) => ([n], r)
      else if c = 'u' then (hexEscape? 4 cs).map fun (n, r) => ([n], r)
      else if c = 'U' then
        (hexEscape? 8 cs).bind fun (n, r) => if n ≤ 0x10ffff then some ([n], r) else none
      else if c = 'N' then (namedEscape? cs).map fun (n, r) => ([n], r)
      else some ([0x5c, c.toNat], cs)

/-- The bytes an escape stands for. Characters are named by number only up to 255. -/
def byteEscape : List Char → Option (List Nat × List Char)
  | [] => some ([0x5c], [])
  | c :: cs =>
    match letterEscape? c with
    | some n => some ([n], cs)
    | none =>
      if c = '\n' then some ([], cs)
      else if isOctalDigit c then
        let (n, r) := octalEscape (c :: cs)
        some ([n % 256], r)
      else if c = 'x' then (hexEscape? 2 cs).map fun (n, r) => ([n], r)
      else some ([0x5c, c.toNat], cs)

/-- Resolves escapes in a text of at most the given length. -/
def unescape (escape : List Char → Option (List Nat × List Char)) : Nat → List Char → Option (List Nat)
  | 0, _ => some []
  | _, [] => some []
  | bound + 1, c :: cs =>
    if c = '\\' then do
      let (ns, rest) ← escape cs
      return ns ++ (← unescape escape bound rest)
    else (unescape escape bound cs).map (c.toNat :: ·)

def textPoints (raw : Bool) (body : List Char) : Option (List Nat) :=
  if raw then some (body.map Char.toNat) else unescape textEscape body.length body

/-- The bytes of a bytes literal's body, which is ASCII. -/
def bytesOf (raw : Bool) (body : List Char) : Option (List Nat) :=
  if body.any fun c => 128 ≤ c.toNat then none
  else if raw then some (body.map Char.toNat) else unescape byteEscape body.length body

/-! ## Formatted strings -/

/-- A part of a formatted string. A hole that ends in `=` also shows its own source, which is `echo`; `format` counts
only when `hasFormat` holds, since a format may be empty. -/
inductive Piece where
  | text (points : List Nat)
  | hole (source echo : List Char) (conversion : Option Conversion) (hasFormat : Bool) (format : List Piece)

/-- How a run of literal text goes on: plainly, past the second of two braces, past a character that follows a backslash
or inside the braces of a named escape. -/
inductive RunMode where
  | plain | drop | escaped | name | named
  deriving DecidableEq

/-- The text up to the next hole, or to the end of the format it stands in. At the top two braces stand for one, and a
lone closing brace is refused. -/
def literalRun (top raw : Bool) : RunMode → List Char → Option (List Char × List Char)
  | _, [] => some ([], [])
  | mode, c :: cs =>
    let keep (next : RunMode) := (literalRun top raw next cs).map fun (t, r) => (c :: t, r)
    let braceHere :=
      if !top then some ([], c :: cs)
      else if cs.head? = some c then keep .drop
      else if c = '}' then none
      else some ([], c :: cs)
    match mode with
    | .drop => literalRun top raw .plain cs
    | .named => keep (if c = '}' then .plain else .named)
    | .name => if c = '{' then keep .named else keep .plain
    | .escaped =>
      -- The braces of a named escape open no hole; any other brace behind a backslash is still a brace.
      if c = 'N' then keep .name
      else if c = '{' || c = '}' then braceHere
      else keep .plain
    | .plain =>
      if c = '\\' && !raw then keep .escaped
      else if c = '{' || c = '}' then braceHere
      else keep .plain

/-- Where the source of a hole stands: outside strings, or inside one with the given quote, short or long. `passing`
counts the characters still to pass that belong to a quote or operator already seen. -/
structure HoleState where
  quote : Option (Char × Bool) := none
  opens : List Char := []
  passing : Nat := 0

def nextTwo (q : Char) (cs : List Char) : Bool := cs.head? = some q && cs.tail.head? = some q

/-- The state after a character of a hole's source; `none` where the source cannot go on. Backslashes and comments are
refused. -/
def HoleState.next? (s : HoleState) (c : Char) (cs : List Char) : Option HoleState :=
  if c = '\\' then none
  else match s.quote with
    | some (q, long) =>
      if c ≠ q then some s
      else if !long then some { s with quote := none }
      else if nextTwo q cs then some { s with quote := none, passing := 2 }
      else some s
    | none =>
      if isQuote c then
        if nextTwo c cs then some { s with quote := some (c, true), passing := 2 }
        else some { s with quote := some (c, false) }
      else if c = '[' || c = '{' || c = '(' then
        if maxBrackets ≤ s.opens.length then none else some { s with opens := c :: s.opens }
      else if c = '#' then none
      else if c = ']' || c = '}' || c = ')' then
        match s.opens with
        | o :: os =>
          if (o = '[' && c = ']') || (o = '{' && c = '}') || (o = '(' && c = ')') then some { s with opens := os }
          else none
        | [] => none
      else some s

/-- Whether a character outside strings and brackets is the first of a comparison of two characters. -/
def startsComparison (c : Char) (cs : List Char) : Bool :=
  (c = '!' || c = '=' || c = '<' || c = '>') && cs.head? = some '='

def holeSource (s : HoleState) : List Char → Option (List Char × List Char)
  | [] => none
  | c :: cs =>
    let keep (next : HoleState) := (holeSource next cs).map fun (t, r) => (c :: t, r)
    if s.passing ≠ 0 then keep { s with passing := s.passing - 1 }
    else if s.quote.isNone && s.opens.isEmpty && startsComparison c cs then keep { s with passing := 1 }
    else if s.quote.isNone && s.opens.isEmpty && (c = '!' || c = ':' || c = '}' || c = '=') then some ([], c :: cs)
    else match s.next? c cs with
      | some next => keep next
      | none => none

def conversion? : Char → Option Conversion
  | 's' => some .str
  | 'r' => some .repr
  | 'a' => some .ascii
  | _ => none

/-- White space that may follow the `=` of a hole. -/
def isHoleBlank (c : Char) : Bool := c = ' ' || ('\t' ≤ c && c ≤ '\r')

/-- A hole after its opening brace, and what follows its closing brace; `format` reads a format. -/
def scanHole (format : List Char → Option (List Piece × List Char)) (cs : List Char) : Option (Piece × List Char) := do
  let (source, r₁) ← holeSource {} cs
  if source.all fun c => c = ' ' || c = '\t' || c = '\n' || c = '\x0c' then none
  let (echo, r₂) ← match r₁ with
    | '=' :: r =>
      let blanks := r.takeWhile isHoleBlank
      some (source ++ '=' :: blanks, r.drop blanks.length)
    | r => some ([], r)
  let (conversion, r₃) ← match r₂ with
    | '!' :: k :: r => (conversion? k).map fun v => (some v, r)
    | '!' :: [] => none
    | r => some (none, r)
  let (spec, r₄) ← match r₃ with
    | ':' :: r => (format r).map fun (ps, r') => (some ps, r')
    | r => some (none, r)
  match r₄ with
  | '}' :: r =>
    -- A hole that shows its own source shows the value as it is written, unless it says otherwise.
    let conversion := if !echo.isEmpty && spec.isNone && conversion.isNone then some Conversion.repr else conversion
    some (.hole source echo conversion spec.isSome (spec.getD []), r)
  | _ => none

/-- The pieces of a formatted string or format, and what follows them. A bound on their number is given. -/
def scanPieces (top raw : Bool) (hole : List Char → Option (Piece × List Char)) :
    Nat → List Char → Option (List Piece × List Char)
  | 0, _ => none
  | bound + 1, cs => do
    let (text, rest) ← literalRun top raw .plain cs
    let points ← textPoints raw text
    let here := if points.isEmpty then [] else [Piece.text points]
    match rest with
    | '{' :: r =>
      let (h, r') ← hole r
      let (ps, r'') ← scanPieces top raw hole bound r'
      return (here ++ h :: ps, r'')
    | r => return (here, r)

/-- A format inside a hole. Its holes may have formats again, but those hold no further holes. -/
def scanFormat (raw : Bool) : Nat → List Char → Option (List Piece × List Char)
  | 0, cs => scanPieces false raw (fun _ => none) (cs.length + 1) cs
  | depth + 1, cs => scanPieces false raw (scanHole (scanFormat raw depth)) (cs.length + 1) cs

def formattedPieces (raw : Bool) (body : List Char) : Option (List Piece) :=
  match scanPieces true raw (scanHole (scanFormat raw 1)) (body.length + 1) body with
  | some (ps, []) => some ps
  | _ => none

end DocReview.Source
