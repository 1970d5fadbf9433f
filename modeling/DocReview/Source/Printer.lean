import DocReview.Number.Shortest
import DocReview.Source.Expr
import DocReview.Source.Lexer
import DocReview.Text.Quoted
/-!
# Printer — expressions as text

`Expr.print?` writes an expression on one line, with the parentheses that its operators need.  Two expressions have no
text: one with an integer of too many digits, and a formatted string with a value that cannot be written without a
backslash.
-/
namespace DocReview.Source

open DocReview.Text (quoted quotedBytes escapePoint isPrintable)

/-! ## Ranks -/

/-- How tightly an expression binds; one that binds less than its place asks for stands in parentheses. -/
abbrev Rank := Nat

namespace Rank

def named : Rank := 1
def tuple : Rank := 2
def yield : Rank := 3
def test : Rank := 4
def or : Rank := 5
def and : Rank := 6
def not : Rank := 7
def cmp : Rank := 8
def bitOr : Rank := 9
def bitXor : Rank := 10
def bitAnd : Rank := 11
def shift : Rank := 12
def arith : Rank := 13
def term : Rank := 14
def factor : Rank := 15
def power : Rank := 16
def await : Rank := 17
def atom : Rank := 18

def next (r : Rank) : Rank := min (r + 1) atom

end Rank

def BinOp.text : BinOp → String
  | .add => "+"
  | .sub => "-"
  | .mult => "*"
  | .matMult => "@"
  | .div => "/"
  | .mod => "%"
  | .pow => "**"
  | .lShift => "<<"
  | .rShift => ">>"
  | .bitOr => "|"
  | .bitXor => "^"
  | .bitAnd => "&"
  | .floorDiv => "//"

def BinOp.rank : BinOp → Rank
  | .add | .sub => Rank.arith
  | .mult | .matMult | .div | .mod | .floorDiv => Rank.term
  | .pow => Rank.power
  | .lShift | .rShift => Rank.shift
  | .bitOr => Rank.bitOr
  | .bitXor => Rank.bitXor
  | .bitAnd => Rank.bitAnd

def UnaryOp.text : UnaryOp → String
  | .invert => "~"
  | .not => "not "
  | .plus => "+"
  | .minus => "-"

def UnaryOp.rank : UnaryOp → Rank
  | .not => Rank.not
  | _ => Rank.factor

def CmpOp.text : CmpOp → String
  | .eq => " == "
  | .notEq => " != "
  | .lt => " < "
  | .ltE => " <= "
  | .gt => " > "
  | .gtE => " >= "
  | .is => " is "
  | .isNot => " is not "
  | .mem => " in "
  | .notMem => " not in "

def BoolOp.text : BoolOp → String
  | .and => " and "
  | .or => " or "

def BoolOp.rank : BoolOp → Rank
  | .and => Rank.and
  | .or => Rank.or

def Conversion.letter : Conversion → Char
  | .str => 's'
  | .repr => 'r'
  | .ascii => 'a'

/-! ## Quotes -/

inductive QuoteMark where
  | single | double | longDouble | longSingle
  deriving DecidableEq

namespace QuoteMark

def all : List QuoteMark := [.single, .double, .longDouble, .longSingle]

def char : QuoteMark → Char
  | .single | .longSingle => '\''
  | .double | .longDouble => '"'

def isLong : QuoteMark → Bool
  | .longDouble | .longSingle => true
  | _ => false

def text (q : QuoteMark) : List Char := List.replicate (if q.isLong then 3 else 1) q.char

def short (c : Char) : QuoteMark := if c = '\'' then .single else .double

end QuoteMark

def occursIn (needle : List Char) : List Char → Bool
  | [] => needle.isEmpty
  | c :: cs => needle.isPrefixOf (c :: cs) || occursIn needle cs

/-- A text with as few escapes as possible, and the quotes it can stand between, best first. When none of the given ones
fits, the text is escaped for a short quote. `escapeBreaks` also escapes line feeds and tabs. -/
def bareText (marks : List QuoteMark) (escapeBreaks : Bool) (ns : List Nat) : List Char × List QuoteMark :=
  let text := ns.flatMap fun n =>
    if !escapeBreaks && (n = 10 || n = 9) then [Char.ofNat n] else escapePoint n
  let marks' := if text.contains '\n' then marks.filter QuoteMark.isLong else marks
  let marks' := marks'.filter fun q => !occursIn q.text text
  if marks'.isEmpty then
    let whole := quoted ns
    let q := whole.headD '\''
    let mark := (marks.find? fun m => m.char = q).getD (QuoteMark.short q)
    (whole.tail.dropLast, [mark])
  else
    match text.getLast? with
    | none => (text, marks')
    | some c =>
      let marks' := marks'.filter (fun q => q.char ≠ c) ++ marks'.filter (fun q => q.char = c)
      if marks'.head?.any (fun q => q.char = c) then (text.dropLast ++ ['\\', c], marks') else (text, marks')

def bestQuoted (ns : List Nat) : List Char :=
  let (text, marks) := bareText QuoteMark.all false ns
  let q := (marks.headD .single).text
  q ++ text ++ q

/-- Parts of a formatted string, each with whether it is literal text, between one quote that suits them all: the parts
and the quotes left, or `none` if no quote is. -/
def commonQuote : List QuoteMark → List (List Nat × Bool) → Option (List Char × List QuoteMark)
  | marks, [] => some ([], marks)
  | marks, (ns, isText) :: parts =>
    let (text, marks') := bareText marks isText ns
    if marks'.any marks.contains then (commonQuote marks' parts).map fun (rest, ms) => (text ++ rest, ms) else none

/-- A formatted string from its parts. Without a common quote everything is escaped. -/
def quotedParts (parts : List (List Nat × Bool)) : List Char :=
  match commonQuote QuoteMark.all parts with
  | some (text, marks) =>
    let q := (marks.headD .single).text
    'f' :: q ++ text ++ q
  | none =>
    let q := QuoteMark.longSingle.text
    'f' :: q ++ (parts.flatMap fun (ns, _) => ((quoted (0x22 :: ns)).drop 2).dropLast) ++ q

/-- Literal text inside a formatted string: braces are doubled. -/
def doubleBraces (ns : List Nat) : List Nat :=
  ns.flatMap fun n => if n = 0x7b || n = 0x7d then [n, n] else [n]

/-! ## Literals -/

/-- The text of a literal that stands for an overflowing number. -/
def infinityText : List Char := "1e309".toList

def floatText (f : FloatText) : Binary64 → List Char
  | .infinite _ => infinityText
  | x => f.render x

/-- The text of a literal; `bare` asks for text without backslashes where that can be had. -/
def Literal.print? (bare : Bool) : Literal → Option (List Char)
  | .none => some "None".toList
  | .bool b => some (if b then "True".toList else "False".toList)
  | .ellipsis => some "...".toList
  | .int n =>
    let ds := decimalDigits n
    if maxIntDigits < ds.length then Option.none else some ds
  | .float x => some (floatText .standard x)
  | .imaginary x => some (floatText .bare x ++ ['j'])
  | .text marked ns => some ((if marked then ['u'] else []) ++ if bare then bestQuoted ns else quoted ns)
  | .bytes bs => some ('b' :: quotedBytes bs)

def Literal.isInt : Literal → Bool
  | .int _ | .bool _ => true
  | _ => false

/-! ## Expressions -/

def inParens (b : Bool) (cs : List Char) : List Char := if b then '(' :: cs ++ [')'] else cs

def joinComma : List (List Char) → List Char
  | [] => []
  | [c] => c
  | c :: cs => c ++ ',' :: ' ' :: joinComma cs

/-- Items with commas; a single one keeps its comma. -/
def tupleItems : List (List Char) → List Char
  | [c] => c ++ [',']
  | cs => joinComma cs

/-- Whether an index is a tuple with elements, which needs no parentheses. -/
def Expr.isFullTuple : Expr → Bool
  | .tuple (_ :: _) => true
  | _ => false

def Expr.isIntLiteral : Expr → Bool
  | .literal l => l.isInt
  | _ => false

def Expr.isText : Expr → Bool
  | .literal (.text ..) => true
  | _ => false

/-- Attaches defaults to the last parameters, and a slash after the first `slash` ones. -/
def withDefaults (slash : Nat) (params defaults : List (List Char)) : List (List Char) :=
  let lead := params.length - defaults.length
  let full := params.mapIdx fun i p =>
    match defaults[i - lead]? with
    | some d => if lead ≤ i then p ++ '=' :: d else p
    | none => p
  if slash = 0 then full else full.take slash ++ ['/'] :: full.drop slash

/-- A value in a formatted string, in braces, from its text and its format. It is refused with a backslash, and a blank
comes before it if it starts with a brace itself. -/
def holePoints? (e : List Char) (conversion : Option Conversion) (format : List Nat) : Option (List Nat) :=
  if e.contains '\\' then none
  else
    let gap := if e.head? = some '{' then [' '] else []
    let mark := match conversion with
      | some k => ['!', k.letter]
      | none => []
    some (('{' :: gap ++ e ++ mark).map Char.toNat ++ format ++ ['}'.toNat])

mutual

/-- The text of an expression where rank `rank` is asked for. A value with its format has one only inside a formatted
string. -/
def Expr.printAt (bare : Bool) (rank : Rank) : Expr → Option (List Char)
  | .boolOp op values => do
    let vs ← printRising bare op.rank values
    return inParens (op.rank < rank) (op.text.toList.intercalate vs)
  | .named target value => do
    let t ← target.printAt bare Rank.atom
    let v ← value.printAt bare Rank.atom
    return inParens (Rank.named < rank) (t ++ " := ".toList ++ v)
  | .binOp left op right => do
    let rightFirst := op = .pow
    let l ← left.printAt bare (if rightFirst then op.rank.next else op.rank)
    let r ← right.printAt bare (if rightFirst then op.rank else op.rank.next)
    return inParens (op.rank < rank) (l ++ ' ' :: op.text.toList ++ ' ' :: r)
  | .unary op operand => do
    let e ← operand.printAt bare op.rank
    return inParens (op.rank < rank) (op.text.toList ++ e)
  | .lambda params body => do
    let ps ← params.print? bare
    let b ← body.printAt bare Rank.test
    return inParens (Rank.test < rank) ("lambda".toList ++ (if ps.isEmpty then [] else ' ' :: ps) ++ ": ".toList ++ b)
  | .ifExp test body orelse => do
    let b ← body.printAt bare Rank.test.next
    let t ← test.printAt bare Rank.test.next
    let e ← orelse.printAt bare Rank.test
    return inParens (Rank.test < rank) (b ++ " if ".toList ++ t ++ " else ".toList ++ e)
  | .dict items => do return '{' :: joinComma (← printItems bare items) ++ ['}']
  | .set elts => do
    if elts.isEmpty then return "\x7b*()\x7d".toList
    return '{' :: joinComma (← printEach bare Rank.test elts) ++ ['}']
  | .listComp elt clauses => do
    return '[' :: (← elt.printAt bare Rank.test) ++ (← printClauses bare clauses) ++ [']']
  | .setComp elt clauses => do
    return '{' :: (← elt.printAt bare Rank.test) ++ (← printClauses bare clauses) ++ ['}']
  | .dictComp key value clauses => do
    let k ← key.printAt bare Rank.test
    let v ← value.printAt bare Rank.test
    return '{' :: k ++ ": ".toList ++ v ++ (← printClauses bare clauses) ++ ['}']
  | .generator elt clauses => do
    return '(' :: (← elt.printAt bare Rank.test) ++ (← printClauses bare clauses) ++ [')']
  | .await value => do
    return inParens (Rank.await < rank) ("await ".toList ++ (← value.printAt bare Rank.atom))
  | .yield none => return inParens (Rank.yield < rank) "yield".toList
  | .yield (some value) => do
    return inParens (Rank.yield < rank) ("yield ".toList ++ (← value.printAt bare Rank.atom))
  | .yieldFrom value => do
    return inParens (Rank.yield < rank) ("yield from ".toList ++ (← value.printAt bare Rank.atom))
  | .compare left rest => do
    let l ← left.printAt bare Rank.cmp.next
    return inParens (Rank.cmp < rank) (l ++ (← printComparisons bare rest))
  | .call func args keywords => do
    let f ← func.printAt bare Rank.atom
    let as ← printEach bare Rank.test args
    let ks ← printArguments bare keywords
    return f ++ '(' :: joinComma (as ++ ks) ++ [')']
  | .formatted .. => none
  | .joined parts => do
    let ps ← printParts parts
    if bare then return 'f' :: bestQuoted (ps.flatMap Prod.fst) else return quotedParts ps
  | .literal l => l.print? bare
  | .attribute value attr => do
    let v ← value.printAt bare Rank.atom
    return v ++ (if value.isIntLiteral then [' '] else []) ++ '.' :: attr.toList
  | .subscript value index => do
    let v ← value.printAt bare Rank.atom
    let i ← index.printAt bare (if index.isFullTuple then Rank.tuple else Rank.test)
    return v ++ '[' :: i ++ [']']
  | .starred value => do return '*' :: (← value.printAt bare Rank.bitOr)
  | .name id => return id.toList
  | .list elts => do return '[' :: joinComma (← printEach bare Rank.test elts) ++ [']']
  | .tuple elts => do
    return inParens (elts.isEmpty || Rank.tuple < rank) (tupleItems (← printEach bare Rank.test elts))
  | .slice lower upper step => do
    let l ← printOption bare [] lower
    let u ← printOption bare [] upper
    let s ← printOption bare [':'] step
    return l ++ ':' :: u ++ s

def Expr.partPoints : Expr → Option (List Nat)
  | .literal (.text _ ns) => some (doubleBraces ns)
  | .formatted value conversion format => do
    let e ← value.printAt true Rank.test.next
    holePoints? e conversion (← printFormat format)
  | .joined parts => do return (← printParts parts).flatMap Prod.fst
  | _ => none

def printFormat : Option Expr → Option (List Nat)
  | none => some []
  | some f => do return ':'.toNat :: (← f.partPoints)

/-- The parts of a formatted string, each with whether it is literal text. -/
def printParts : List Expr → Option (List (List Nat × Bool))
  | [] => some []
  | e :: es => do return (← e.partPoints, e.isText) :: (← printParts es)

def printEach (bare : Bool) (rank : Rank) : List Expr → Option (List (List Char))
  | [] => some []
  | e :: es => do return (← e.printAt bare rank) :: (← printEach bare rank es)

/-- Operands of one operation; each is asked for a rank higher than the one before. -/
def printRising (bare : Bool) (rank : Rank) : List Expr → Option (List (List Char))
  | [] => some []
  | e :: es => do return (← e.printAt bare rank.next) :: (← printRising bare rank.next es)

def printOption (bare : Bool) (lead : List Char) : Option Expr → Option (List Char)
  | none => some []
  | some e => do return lead ++ (← e.printAt bare Rank.test)

def printItems (bare : Bool) : List DictItem → Option (List (List Char))
  | [] => some []
  | i :: is => do return (← i.print? bare) :: (← printItems bare is)

def DictItem.print? (bare : Bool) : DictItem → Option (List Char)
  | .entry key value => do
    let k ← key.printAt bare Rank.test
    return k ++ ": ".toList ++ (← value.printAt bare Rank.test)
  | .spread value => do return '*' :: '*' :: (← value.printAt bare Rank.bitOr)

def printComparisons (bare : Bool) : List Comparison → Option (List Char)
  | [] => some []
  | c :: cs => do return (← c.print? bare) ++ (← printComparisons bare cs)

def Comparison.print? (bare : Bool) : Comparison → Option (List Char)
  | .mk op right => do return op.text.toList ++ (← right.printAt bare Rank.cmp.next)

def printArguments (bare : Bool) : List Argument → Option (List (List Char))
  | [] => some []
  | a :: as => do return (← a.print? bare) :: (← printArguments bare as)

def Argument.print? (bare : Bool) : Argument → Option (List Char)
  | .keyword name value => do return name.toList ++ '=' :: (← value.printAt bare Rank.test)
  | .spread value => do return '*' :: '*' :: (← value.printAt bare Rank.test)

def printClauses (bare : Bool) : List ForClause → Option (List Char)
  | [] => some []
  | c :: cs => do return (← c.print? bare) ++ (← printClauses bare cs)

def ForClause.print? (bare : Bool) : ForClause → Option (List Char)
  | .mk isAsync target iter conditions => do
    let t ← target.printAt bare Rank.tuple
    let i ← iter.printAt bare Rank.test.next
    let cs ← printEach bare Rank.test.next conditions
    let lead := if isAsync then " async for ".toList else " for ".toList
    return lead ++ t ++ " in ".toList ++ i ++ cs.flatMap fun c => " if ".toList ++ c

def Param.print? (bare : Bool) : Param → Option (List Char)
  | .mk name hint => do return name.toList ++ (← printOption bare ": ".toList hint)

def printParams (bare : Bool) : List Param → Option (List (List Char))
  | [] => some []
  | p :: ps => do return (← p.print? bare) :: (← printParams bare ps)

def printStarred (bare : Bool) (stars : List Char) : Option Param → Option (List (List Char))
  | none => some []
  | some p => do return [stars ++ (← p.print? bare)]

def printDefaults (bare : Bool) : List (Option Expr) → Option (List (List Char))
  | [] => some []
  | d :: ds => do return (← printOption bare ['='] d) :: (← printDefaults bare ds)

def Params.print? (bare : Bool) : Params → Option (List Char)
  | .mk positionalOnly positional variadic keywordOnly kwDefaults keywords defaults => do
    let po ← printParams bare positionalOnly
    let ps ← printParams bare positional
    let v ← printStarred bare ['*'] variadic
    let ks ← printParams bare keywordOnly
    let kd ← printDefaults bare kwDefaults
    let kw ← printStarred bare ['*', '*'] keywords
    let ds ← printEach bare Rank.test defaults
    let star := if v.isEmpty && !ks.isEmpty then [['*']] else v
    return joinComma (withDefaults po.length (po ++ ps) ds ++ star ++ List.zipWith (· ++ ·) ks kd ++ kw)

end

def Expr.print? (e : Expr) : Option String := (e.printAt false Rank.test).map String.ofList

end DocReview.Source
