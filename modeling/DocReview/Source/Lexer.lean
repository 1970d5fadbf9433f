import DocReview.Source.Token
import DocReview.Text.Compatibility
import DocReview.Text.Identifier
import DocReview.Text.Printable
/-!
# Lexer — from characters to tokens

Lines are indented by the column that a tab of width 8 gives; a second count, with tabs of width 1, has to order the
lines the same way.  Inside brackets line ends and indentation mean nothing.  `tokens` reads a whole text.
-/
namespace DocReview.Source

open DocReview.Text (isAsciiNameStart isAsciiNameContinue isName isPrintable compatibilityForm)

/-! ## Numbers -/

def isDigit (c : Char) : Bool := '0' ≤ c && c ≤ '9'

def isHexDigit (c : Char) : Bool := isDigit c || ('a' ≤ c && c ≤ 'f') || ('A' ≤ c && c ≤ 'F')

def hexValue (c : Char) : Nat :=
  if isDigit c then c.toNat - '0'.toNat
  else if 'a' ≤ c && c ≤ 'f' then c.toNat - 'a'.toNat + 10
  else c.toNat - 'A'.toNat + 10

def digitsValue (base : Nat) (ds : List Char) : Nat := ds.foldl (fun n d => base * n + hexValue d) 0

/-- A run of digits with single underscores before digits; without the underscores, and what follows. -/
def digitRun (p : Char → Bool) : List Char → Option (List Char × List Char)
  | [] => some ([], [])
  | '_' :: cs => if cs.head?.any p then digitRun p cs else none
  | c :: cs => if p c then (digitRun p cs).map fun (ds, r) => (c :: ds, r) else some ([], c :: cs)

/-- Characters that can stand in a name, before their exact class is looked at. -/
def mayContinueName (c : Char) : Bool := isAsciiNameContinue c || 128 ≤ c.toNat

def startsWord : List Char → List Char → Bool
  | [], cs => !(cs.head?.any mayContinueName)
  | w :: ws, c :: cs => c = w && startsWord ws cs
  | _ :: _, [] => false

/-- A number may be followed at once by an operator in letters, but by nothing else that continues a name. -/
def endsNumber (cs : List Char) : Bool :=
  match cs with
  | 'i' :: c :: _ => c = 'f' || c = 'n' || c = 's'
  | c :: _ =>
    !mayContinueName c || startsWord "and".toList cs || startsWord "else".toList cs || startsWord "for".toList cs
      || startsWord "or".toList cs || startsWord "not".toList cs
  | [] => true

def maxIntDigits : Nat := 4300

/-- An integer in base 16, 8 or 2, after its two-character mark. -/
def scanRadix (base : Nat) (p : Char → Bool) (cs : List Char) : Option (Number × List Char) := do
  let (ds, rest) ← digitRun p cs
  if ds.isEmpty || rest.head?.any isDigit || !endsNumber rest then none
  else some (.int (digitsValue base ds), rest)

def scanFraction : List Char → Option (Option (List Char) × List Char)
  | '.' :: cs =>
    if cs.head?.any isDigit then (digitRun isDigit cs).map fun (ds, r) => (some ds, r) else some (some [], cs)
  | cs => some (none, cs)

/-- The exponent of a decimal number, if there is one. An `e` that begins `else` is none. -/
def scanExponent (cs : List Char) : Option (Option Int × List Char) :=
  match cs with
  | e :: rest =>
    if e = 'e' || e = 'E' then
      match rest with
      | s :: r =>
        if s = '+' || s = '-' then
          if r.head?.any isDigit then
            (digitRun isDigit r).map fun (ds, r') =>
              let v : Int := digitsValue 10 ds
              (some (if s = '-' then -v else v), r')
          else none
        else if isDigit s then
          (digitRun isDigit rest).map fun (ds, r') => (some (digitsValue 10 ds : Int), r')
        else if startsWord "else".toList cs then some (none, cs) else none
      | [] => none
    else some (none, cs)
  | [] => some (none, cs)

def scanDecimal (cs : List Char) : Option (Number × List Char) := do
  let (whole, r₁) ← if cs.head?.any isDigit then digitRun isDigit cs else some ([], cs)
  let (frac, r₂) ← scanFraction r₁
  let (exp, r₃) ← scanExponent r₂
  let digits := whole ++ frac.getD []
  let value := Binary64.ofDecimal false (digitsValue 10 digits) (exp.getD 0 - ((frac.getD []).length : Int))
  match r₃ with
  | c :: r₄ =>
    if c = 'j' || c = 'J' then (if endsNumber r₄ then some (.imaginary value, r₄) else none)
    else plain whole frac exp value r₃
  | [] => plain whole frac exp value r₃
where
  plain (whole : List Char) (frac : Option (List Char)) (exp : Option Int) (value : Binary64) (rest : List Char) :
      Option (Number × List Char) :=
    if !endsNumber rest then none
    else if frac.isSome || exp.isSome then some (.float value, rest)
    else if whole.head? = some '0' then
      if whole.all (· = '0') then some (.int 0, rest) else none
    else if maxIntDigits < whole.length then some (.tooLong, rest)
    else some (.int (digitsValue 10 whole), rest)

def scanNumber : List Char → Option (Number × List Char)
  | '0' :: 'x' :: cs => scanRadix 16 isHexDigit cs
  | '0' :: 'X' :: cs => scanRadix 16 isHexDigit cs
  | '0' :: 'o' :: cs => scanRadix 8 (fun c => '0' ≤ c && c ≤ '7') cs
  | '0' :: 'O' :: cs => scanRadix 8 (fun c => '0' ≤ c && c ≤ '7') cs
  | '0' :: 'b' :: cs => scanRadix 2 (fun c => c = '0' || c = '1') cs
  | '0' :: 'B' :: cs => scanRadix 2 (fun c => c = '0' || c = '1') cs
  | cs => scanDecimal cs

/-! ## Strings -/

/-- What stands before the end of a literal on one line, and what follows its quote. -/
def scanShort (q : Char) : List Char → Option (List Char × List Char)
  | [] => none
  | ['\\'] => none
  | '\\' :: c :: cs => (scanShort q cs).map fun (b, r) => ('\\' :: c :: b, r)
  | c :: cs =>
    if c = q then some ([], cs)
    else if c = '\n' then none
    else (scanShort q cs).map fun (b, r) => (c :: b, r)

def scanLong (q : Char) : List Char → Option (List Char × List Char)
  | [] => none
  | ['\\'] => none
  | '\\' :: c :: cs => (scanLong q cs).map fun (b, r) => ('\\' :: c :: b, r)
  | c :: cs =>
    if c = q ∧ cs.head? = some q ∧ cs.tail.head? = some q then some ([], cs.tail.tail)
    else (scanLong q cs).map fun (b, r) => (c :: b, r)

/-- The body of a literal that starts with the quote `q`, and what follows the literal. -/
def scanQuoted (q : Char) (cs : List Char) : Option (List Char × List Char) :=
  match cs with
  | a :: b :: r => if a = q ∧ b = q then scanLong q r else scanShort q cs
  | _ => scanShort q cs

def isQuote (c : Char) : Bool := c = '\'' || c = '"'

/-- The letters before a quote that make a literal of some kind, as a literal without a body. -/
def quoteMarks? : List Char → Option Quote
  | [] => some ⟨false, false, false, false, []⟩
  | [c] =>
    match c.toLower with
    | 'b' => some ⟨true, false, false, false, []⟩
    | 'r' => some ⟨false, true, false, false, []⟩
    | 'f' => some ⟨false, false, true, false, []⟩
    | 'u' => some ⟨false, false, false, c = 'u', []⟩
    | _ => none
  | [c, d] =>
    match c.toLower, d.toLower with
    | 'b', 'r' => some ⟨true, true, false, false, []⟩
    | 'r', 'b' => some ⟨true, true, false, false, []⟩
    | 'f', 'r' => some ⟨false, true, true, false, []⟩
    | 'r', 'f' => some ⟨false, true, true, false, []⟩
    | _, _ => none
  | _ => none

/-- A literal at the start of a text: its marks, its quote and what follows the quote. -/
def literalStart? (cs : List Char) : Option (Quote × Char × List Char) :=
  let marks := cs.takeWhile Char.isAlpha
  match cs.drop marks.length with
  | q :: rest => if isQuote q then (quoteMarks? marks).map fun k => (k, q, rest) else none
  | [] => none

/-! ## Lines -/

/-- Where reading stands. `indents` holds the open indentations, innermost first, each with both its columns;
`opens` the open brackets, innermost first. -/
structure Scan where
  rest : List Char
  line : Nat := 1
  col : Nat := 0
  indents : List (Nat × Nat) := []
  opens : List Char := []
  lineStart : Bool := true
  blank : Bool := false

namespace Scan

def step (s : Scan) (c : Char) (rest : List Char) : Scan :=
  if c = '\n' then { s with rest, line := s.line + 1, col := 0 } else { s with rest, col := s.col + c.utf8Size }

def skip (s : Scan) : Nat → Scan
  | 0 => s
  | n + 1 =>
    match s.rest with
    | [] => s
    | c :: cs => (s.step c cs).skip n

def skipTo (s : Scan) (rest : List Char) : Scan := s.skip (s.rest.length - rest.length)

def token (s : Scan) (t : Tok) (after : Scan) : Token := ⟨t, s.line, s.col, after.line⟩

def fault (s : Scan) (f : LexFault) : List Token := [⟨.fault f, s.line, s.col, s.line⟩]

end Scan

/-- The white space before the first token of a line: its column, its column with tabs of width 1, the column of the
first backslash if not 0, and the rest. A form feed resets the columns. -/
def indentation : Nat → Nat → Nat → List Char → Except LexFault (Nat × Nat × Nat × List Char)
  | col, alt, cont, [] => .ok (col, alt, cont, [])
  | col, alt, cont, c :: cs =>
    if c = ' ' then indentation (col + 1) (alt + 1) cont cs
    else if c = '\t' then indentation ((col / 8 + 1) * 8) (alt + 1) cont cs
    else if c = '\x0c' then indentation 0 0 cont cs
    else if c = '\\' then
      match cs with
      | '\n' :: d :: r => indentation col alt (if cont = 0 then col else cont) (d :: r)
      | '\n' :: [] => .error .unfinished
      | _ => .error .unfinished
    else .ok (col, alt, cont, c :: cs)

def maxIndents : Nat := 99

def maxBrackets : Nat := 200

/-- Opens or closes indentations for a line that starts at the given columns: the tokens and the indentations after. -/
def reindent (col alt : Nat) (open₀ : List (Nat × Nat)) : Except LexFault (List Tok × List (Nat × Nat)) :=
  let (top, topAlt) := open₀.headD (0, 0)
  -- Lines have to compare alike in both columns, so that the width of a tab decides nothing.
  if col = top then (if alt = topAlt then .ok ([], open₀) else .error .mixedTabs)
  else if top < col then
    if maxIndents ≤ open₀.length then .error .tooDeep
    else if alt ≤ topAlt then .error .mixedTabs
    else .ok ([.indent], (col, alt) :: open₀)
  else
    let kept := open₀.dropWhile fun p => col < p.1
    let (base, baseAlt) := kept.headD (0, 0)
    if col ≠ base then .error .badDedent
    else if alt ≠ baseAlt then .error .mixedTabs
    else .ok (List.replicate (open₀.length - kept.length) .dedent, kept)

/-- Starts a line: the tokens of its indentation, and where reading goes on. -/
def startLine (s : Scan) : Except LexFault (List Token × Scan) := do
  let (col, alt, cont, rest) ← indentation 0 0 0 s.rest
  let after := { s.skipTo rest with lineStart := false, blank := false }
  let bare := match rest with
    | c :: _ => c = '#' || c = '\n'
    | [] => false
  if bare then return ([], { after with blank := true })
  -- Between brackets the indentation of a line means nothing.
  if !s.opens.isEmpty then return ([], after)
  let (col, alt) := if cont = 0 then (col, alt) else (cont, cont)
  let (toks, indents) ← reindent col alt s.indents
  return (toks.map fun t => ⟨t, after.line, after.col, after.line⟩, { after with indents })

/-! ## Tokens -/

inductive Step where
  | more (toks : List Token) (next : Scan)
  | done (toks : List Token)

def bracket (s : Scan) (p : Punct) (after : Scan) : Step :=
  let tok := s.token (.punct p) after
  let opening (c : Char) : Step :=
    if maxBrackets ≤ s.opens.length then .done (s.fault .malformed) else .more [tok] { after with opens := c :: s.opens }
  let closing (c : Char) : Step :=
    match s.opens with
    | o :: os => if o = c then .more [tok] { after with opens := os } else .done (s.fault .malformed)
    | [] => .done (s.fault .malformed)
  match p with
  | .lparen => opening '('
  | .lbracket => opening '['
  | .lbrace => opening '{'
  | .rparen => closing '('
  | .rbracket => closing '['
  | .rbrace => closing '{'
  | _ => .more [tok] after

def wordTok (w : List Char) : Tok :=
  match Keyword.ofText? w with
  | some k => .keyword k
  | none => .name (String.ofList (compatibilityForm w)) (w.all fun c => c.toNat < 128)

def readToken (s : Scan) (c : Char) (cs : List Char) : Step :=
  match literalStart? s.rest with
  | some (marks, q, r) =>
    match scanQuoted q r with
    | some (body, rest) =>
      let after := s.skipTo rest
      .more [s.token (.string { marks with body }) after] after
    | none => .done (s.fault .malformed)
  | none =>
    if isAsciiNameStart c || 128 ≤ c.toNat then
      let w := s.rest.takeWhile mayContinueName
      let after := s.skip w.length
      if isName w then .more [s.token (wordTok w) after] after else .done (s.fault .malformed)
    else if isDigit c || (c = '.' && cs.head?.any isDigit) then
      match scanNumber s.rest with
      | some (n, rest) =>
        let after := s.skipTo rest
        .more [s.token (.number n) after] after
      | none => .done (s.fault .malformed)
    else if c = '\\' then
      match cs with
      -- A line goes on behind a backslash only if there is a next line.
      | '\n' :: _ :: _ => .more [] (s.skip 2)
      | _ => .done (s.fault .unfinished)
    else if !isPrintable c.toNat then .done (s.fault .malformed)
    else
      let (p, n) := Punct.scan s.rest
      bracket s p (s.skip n)

def readStep (s : Scan) : Step :=
  if s.lineStart then
    match startLine s with
    | .ok (toks, next) => .more toks next
    | .error f => .done (s.fault f)
  else
    match s.rest with
    | [] => .done (if s.opens.isEmpty then [⟨.finish, s.line, s.col, s.line⟩] else s.fault .unfinished)
    | c :: cs =>
      if c = ' ' || c = '\t' || c = '\x0c' then .more [] (s.step c cs)
      else if c = '#' then .more [] (s.skip (cs.takeWhile (· ≠ '\n')).length.succ)
      else if c = '\n' then
        let after := { s.step c cs with lineStart := true }
        if s.blank || !s.opens.isEmpty then .more [] after else .more [⟨.newline, s.line, s.col, s.line⟩] after
      else readToken s c cs

def readFrom : Nat → Scan → List Token
  | 0, s => s.fault .unfinished
  | bound + 1, s =>
    match readStep s with
    | .more toks next => toks ++ readFrom bound next
    | .done toks => toks

/-- The tokens of a text. A step moves on by a character or leaves the start of a line, which bounds their number. -/
def tokens (cs : List Char) : List Token := readFrom (2 * cs.length + 3) { rest := cs }

end DocReview.Source
