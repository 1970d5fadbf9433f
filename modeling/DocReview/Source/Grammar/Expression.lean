import DocReview.Source.Cursor
import DocReview.Source.Literal
/-!
# Grammar of expressions

Each rule is a reader that is given the rules for what stands deeper.  `Rules.upTo` ties them: rules of depth `n + 1`
read with rules of depth `n`, and every descent takes a token first, so the length of a text bounds its depth.
-/
namespace DocReview.Source

open Reader

/-- The rules for what stands deeper. -/
structure Rules where
  expression : Reader Expr
  starExpressions : Reader Expr
  disjunction : Reader Expr
  inversion : Reader Expr
  bitOr : Reader Expr
  factor : Reader Expr
  primary : Reader Expr

def Rules.bottom : Rules := ⟨refuse, refuse, refuse, refuse, refuse, refuse, refuse⟩

/-! ## Tokens that start an expression -/

def startsExpression : Tok → Bool
  | .name .. | .number _ | .string _ => true
  | .keyword k => k = .kNone || k = .kTrue || k = .kFalse || k = .kLambda || k = .kNot || k = .kAwait
  | .punct p =>
    p = .lparen || p = .lbracket || p = .lbrace || p = .ellipsis || p = .plus || p = .minus || p = .tilde
  | _ => false

def startsStarred (t : Tok) : Bool := t = .punct .star || startsExpression t

def startsFor (t : Tok) : Bool := t = .keyword .kFor || t = .keyword .kAsync

/-! ## Targets -/

def isPlace : Expr → Bool
  | .name _ | .attribute .. | .subscript .. => true
  | _ => false

mutual

/-- Whether an expression can be assigned to; inside a star, not starred again. -/
def isTarget : Expr → Bool
  | .name _ | .attribute .. | .subscript .. => true
  | .tuple es => areTargets es
  | .list es => areTargets es
  | .starred e => isUnstarredTarget e
  | _ => false

def isUnstarredTarget : Expr → Bool
  | .name _ | .attribute .. | .subscript .. => true
  | .tuple es => areTargets es
  | .list es => areTargets es
  | _ => false

def areTargets : List Expr → Bool
  | [] => true
  | e :: es => isTarget e && areTargets es

end

mutual

def isDeletable : Expr → Bool
  | .name _ | .attribute .. | .subscript .. => true
  | .tuple es => areDeletable es
  | .list es => areDeletable es
  | _ => false

def areDeletable : List Expr → Bool
  | [] => true
  | e :: es => isDeletable e && areDeletable es

end

namespace Rules

def starTarget (r : Rules) : Reader Expr := do
  if ← acceptP .star then
    let e ← r.primary
    ensure (isUnstarredTarget e)
    return .starred e
  else
    let e ← r.primary
    ensure (isUnstarredTarget e)
    return e

def starTargets (r : Rules) : Reader Expr := do
  let first ← r.starTarget
  if (← peek) = .punct .comma then
    return .tuple (first :: (← commaTail startsStarred r.starTarget))
  else return first

/-! ## Elements -/

def atNamed : Reader Bool := do
  match ← peek2 with
  | (.name .., .punct .colonEq) => return true
  | _ => return false

def namedExpression (r : Rules) : Reader Expr := do
  if ← atNamed then
    let id ← identifier
    skip
    return .named (.name id) (← r.expression)
  else r.expression

def starNamed (r : Rules) : Reader Expr := do
  if ← acceptP .star then return .starred (← r.bitOr) else r.namedExpression

def forClause (r : Rules) : Reader ForClause := do
  let isAsync ← acceptK .kAsync
  expectK .kFor
  let target ← r.starTargets
  expectK .kIn
  let iter ← r.disjunction
  let conditions ← many (· = .keyword .kIf) (do skip; r.disjunction)
  return .mk isAsync target iter conditions

def forClauses (r : Rules) : Reader (List ForClause) := many startsFor r.forClause

def yieldExpr (r : Rules) : Reader Expr := do
  expectK .kYield
  if ← acceptK .kFrom then return .yieldFrom (← r.expression)
  else if startsStarred (← peek) then return .yield (some (← r.starExpressions))
  else return .yield none

/-! ## Brackets -/

/-- What follows an opening parenthesis: a tuple, a generator or an expression in parentheses. -/
def parenthesized (r : Rules) : Reader Expr := do
  if ← acceptP .rparen then return .tuple []
  if (← peek) = .keyword .kYield then
    let e ← r.yieldExpr
    expectP .rparen
    return e
  let starred := (← peek) = .punct .star
  let first ← r.starNamed
  if startsFor (← peek) && !starred then
    let clauses ← r.forClauses
    expectP .rparen
    return .generator first clauses
  else if (← peek) = .punct .comma then
    let rest ← commaTail startsStarred r.starNamed
    expectP .rparen
    return .tuple (first :: rest)
  else
    ensure !starred
    expectP .rparen
    return first

def bracketed (r : Rules) : Reader Expr := do
  if ← acceptP .rbracket then return .list []
  let starred := (← peek) = .punct .star
  let first ← r.starNamed
  if startsFor (← peek) && !starred then
    let clauses ← r.forClauses
    expectP .rbracket
    return .listComp first clauses
  else
    let rest ← commaTail startsStarred r.starNamed
    expectP .rbracket
    return .list (first :: rest)

def dictItem (r : Rules) : Reader DictItem := do
  if ← acceptP .doubleStar then return .spread (← r.bitOr)
  else
    let key ← r.expression
    expectP .colon
    return .entry key (← r.expression)

def startsDictItem (t : Tok) : Bool := t = .punct .doubleStar || startsExpression t

/-- What follows an opening brace: a dictionary, a set or a comprehension of one. -/
def braced (r : Rules) : Reader Expr := do
  let dictFrom (first : DictItem) : Reader Expr := do
    let rest ← commaTail startsDictItem r.dictItem
    expectP .rbrace
    return .dict (first :: rest)
  if ← acceptP .rbrace then return .dict []
  if ← acceptP .doubleStar then return ← dictFrom (.spread (← r.bitOr))
  let starred := (← peek) = .punct .star
  let named ← atNamed
  let first ← r.starNamed
  if (← peek) = .punct .colon && !starred && !named then
    skip
    let value ← r.expression
    if startsFor (← peek) then
      let clauses ← r.forClauses
      expectP .rbrace
      return .dictComp first value clauses
    else dictFrom (.entry first value)
  else if startsFor (← peek) && !starred then
    let clauses ← r.forClauses
    expectP .rbrace
    return .setComp first clauses
  else
    let rest ← commaTail startsStarred r.starNamed
    expectP .rbrace
    return .set (first :: rest)

/-! ## Strings -/

def flushText (marked : Bool) (points : List Nat) : List Expr :=
  if points.isEmpty then [] else [.literal (.text marked points)]

mutual

/-- Parts of a formatted string, after some text that is not yet a part. -/
def joinPieces (r : Rules) (marked : Bool) : List Nat → List Piece → Reader (List Expr × List Nat)
  | pending, [] => return ([], pending)
  | pending, p :: ps => do
    let (here, pending) ← joinPiece r marked pending p
    let (rest, pending) ← joinPieces r marked pending ps
    return (here ++ rest, pending)

/-- The parts a piece closes, and the text that stays open. The source of a hole is read in parentheses. -/
def joinPiece (r : Rules) (marked : Bool) (pending : List Nat) : Piece → Reader (List Expr × List Nat)
  | .text points => return ([], pending ++ points)
  | .hole source echo conversion hasFormat format => do
    let value ← within (tokens ('(' :: source ++ [')', '\n'])) r.starExpressions
    let (parts, tail) ← joinPieces r marked [] format
    let spec := if hasFormat then some (Expr.joined (parts ++ flushText marked tail)) else none
    return (flushText marked (pending ++ echo.map Char.toNat) ++ [.formatted value conversion spec], [])

end

def require {α : Type} : Option α → Reader α
  | some a => return a
  | none => throw .malformed

def joinQuotes (r : Rules) (marked : Bool) : List Nat → List Quote → Reader (List Expr × List Nat)
  | pending, [] => return ([], pending)
  | pending, q :: qs => do
    if q.formatted then
      let (here, pending) ← joinPieces r marked pending (← require (formattedPieces q.raw q.body))
      let (rest, pending) ← joinQuotes r marked pending qs
      return (here ++ rest, pending)
    else
      let points ← require (textPoints q.raw q.body)
      joinQuotes r marked (pending ++ points) qs

def joinBytes : List Quote → Reader (List Nat)
  | [] => return []
  | q :: qs => do return (← require (bytesOf q.raw q.body)) ++ (← joinBytes qs)

def nextQuote? : Reader (Option Quote) := do
  match ← peek with
  | .string q =>
    skip
    return some q
  | _ => return none

def strings (r : Rules) : Reader Expr := do
  let quotes ← loop (fun acc => do return (← nextQuote?).map (· :: acc)) []
  let quotes := quotes.reverse
  let marked := quotes.head?.any Quote.marked
  if quotes.all Quote.bytes then return .literal (.bytes (← joinBytes quotes))
  else
    ensure (quotes.all fun q => !q.bytes)
    let (parts, tail) ← joinQuotes r marked [] quotes
    if quotes.any Quote.formatted then return .joined (parts ++ flushText marked tail)
    else return .literal (.text marked tail)

/-! ## Atoms and trailers -/

def numberLiteral : Number → Reader Expr
  | .int n => return .literal (.int n)
  | .float x => return .literal (.float x)
  | .imaginary x => return .literal (.imaginary x)
  | .tooLong => throw .malformed

def atom (r : Rules) : Reader Expr := do
  match ← peek with
  | .name id _ => skip; return .name id
  | .keyword .kNone => skip; return .literal .none
  | .keyword .kTrue => skip; return .literal (.bool true)
  | .keyword .kFalse => skip; return .literal (.bool false)
  | .number n => skip; numberLiteral n
  | .string _ => r.strings
  | .punct .lparen => skip; r.parenthesized
  | .punct .lbracket => skip; r.bracketed
  | .punct .lbrace => skip; r.braced
  | .punct .ellipsis => skip; return .literal .ellipsis
  | _ => refuse

def optional (r : Rules) : Reader (Option Expr) := do
  if startsExpression (← peek) then return some (← r.expression) else return none

def sliceTail (r : Rules) (lower : Option Expr) : Reader Expr := do
  expectP .colon
  let upper ← r.optional
  if ← acceptP .colon then return .slice lower upper (← r.optional) else return .slice lower upper none

def sliceItem (r : Rules) : Reader Expr := do
  if ← acceptP .star then return .starred (← r.expression)
  else if (← peek) = .punct .colon then r.sliceTail none
  else
    let named ← atNamed
    let e ← r.namedExpression
    if (← peek) = .punct .colon && !named then r.sliceTail (some e) else return e

def startsSlice (t : Tok) : Bool := t = .punct .colon || startsStarred t

def slices (r : Rules) : Reader Expr := do
  let starred := (← peek) = .punct .star
  let first ← r.sliceItem
  if starred || (← peek) = .punct .comma then return .tuple (first :: (← commaTail startsSlice r.sliceItem))
  else return first

/-- The arguments of a call so far, backwards. After a keyword only keywords and stars may follow, after a spread of
keywords only keywords and spreads. -/
structure CallArgs where
  args : List Expr := []
  keywords : List Argument := []
  afterKeyword : Bool := false
  afterSpread : Bool := false

def argument (r : Rules) (a : CallArgs) : Reader CallArgs := do
  match ← peek2 with
  | (.punct .doubleStar, _) =>
    skip
    return { a with keywords := .spread (← r.expression) :: a.keywords, afterSpread := true }
  | (.punct .star, _) =>
    if a.afterSpread then refuse
    skip
    return { a with args := .starred (← r.expression) :: a.args }
  | (.name id _, .punct .eq) =>
    skip
    skip
    return { a with keywords := .keyword id (← r.expression) :: a.keywords, afterKeyword := true }
  | _ =>
    if a.afterKeyword || a.afterSpread then refuse
    return { a with args := (← r.namedExpression) :: a.args }

def startsArgument (t : Tok) : Bool := t = .punct .doubleStar || startsStarred t

def arguments (r : Rules) (a : CallArgs) : Reader CallArgs := do
  let a ← loop (fun a => do
    if ← acceptP .comma then
      if startsArgument (← peek) then return some (← r.argument a) else return none
    else return none) a
  expectP .rparen
  return a

/-- What follows the opening parenthesis of a call: arguments, or one generator. -/
def callArgs (r : Rules) : Reader (List Expr × List Argument) := do
  if ← acceptP .rparen then return ([], [])
  let a ← r.argument {}
  if startsFor (← peek) && a.keywords.isEmpty then
    match a.args with
    | [.starred _] => refuse
    | e :: _ =>
      let clauses ← r.forClauses
      expectP .rparen
      return ([.generator e clauses], [])
    | [] => refuse
  else
    let a ← r.arguments a
    return (a.args.reverse, a.keywords.reverse)

def classArgs (r : Rules) : Reader (List Expr × List Argument) := do
  if ← acceptP .rparen then return ([], [])
  let a ← r.arguments (← r.argument {})
  return (a.args.reverse, a.keywords.reverse)

def trailer? (r : Rules) (e : Expr) : Reader (Option Expr) := do
  if ← acceptP .dot then return some (.attribute e (← identifier))
  else if ← acceptP .lparen then
    let (args, keywords) ← r.callArgs
    return some (.call e args keywords)
  else if ← acceptP .lbracket then
    let index ← r.slices
    expectP .rbracket
    return some (.subscript e index)
  else return none

def primaryRule (r : Rules) : Reader Expr := do loop r.trailer? (← r.atom)

/-! ## Operators -/

def awaitPrimary (r : Rules) : Reader Expr := do
  if ← acceptK .kAwait then return .await (← r.primaryRule) else r.primaryRule

def power (r : Rules) : Reader Expr := do
  let base ← r.awaitPrimary
  if ← acceptP .doubleStar then return .binOp base .pow (← r.factor) else return base

def signOp? : Tok → Option UnaryOp
  | .punct .plus => some .plus
  | .punct .minus => some .minus
  | .punct .tilde => some .invert
  | _ => none

def factorRule (r : Rules) : Reader Expr := do
  match signOp? (← peek) with
  | some op => skip; return .unary op (← r.factor)
  | none => r.power

/-- Operands joined from the left by the operators of one rank. -/
def leftOp (op? : Tok → Option BinOp) (operand : Reader Expr) : Reader Expr := do
  loop (fun left => do
    match op? (← peek) with
    | some op => skip; return some (.binOp left op (← operand))
    | none => return none) (← operand)

def termOp? : Tok → Option BinOp
  | .punct .star => some .mult
  | .punct .slash => some .div
  | .punct .doubleSlash => some .floorDiv
  | .punct .percent => some .mod
  | .punct .at => some .matMult
  | _ => none

def sumOp? : Tok → Option BinOp
  | .punct .plus => some .add
  | .punct .minus => some .sub
  | _ => none

def shiftOp? : Tok → Option BinOp
  | .punct .shiftLeft => some .lShift
  | .punct .shiftRight => some .rShift
  | _ => none

def oneOp? (p : Punct) (op : BinOp) : Tok → Option BinOp
  | .punct q => if q = p then some op else none
  | _ => none

def bitOrRule (r : Rules) : Reader Expr :=
  leftOp (oneOp? .bar .bitOr) <| leftOp (oneOp? .caret .bitXor) <| leftOp (oneOp? .amp .bitAnd) <|
    leftOp shiftOp? <| leftOp sumOp? <| leftOp termOp? r.factorRule

def cmpOp? : Reader (Option CmpOp) := do
  match ← peek2 with
  | (.punct .eqEq, _) => skip; return some .eq
  | (.punct .notEq, _) => skip; return some .notEq
  | (.punct .less, _) => skip; return some .lt
  | (.punct .lessEq, _) => skip; return some .ltE
  | (.punct .greater, _) => skip; return some .gt
  | (.punct .greaterEq, _) => skip; return some .gtE
  | (.keyword .kNot, .keyword .kIn) => skip; skip; return some .notMem
  | (.keyword .kIn, _) => skip; return some .mem
  | (.keyword .kIs, .keyword .kNot) => skip; skip; return some .isNot
  | (.keyword .kIs, _) => skip; return some .is
  | _ => return none

def comparison (r : Rules) : Reader Expr := do
  let left ← r.bitOrRule
  let rest ← loop (fun acc => do
    match ← cmpOp? with
    | some op => return some (.mk op (← r.bitOrRule) :: acc)
    | none => return none) []
  if rest.isEmpty then return left else return .compare left rest.reverse

def inversionRule (r : Rules) : Reader Expr := do
  if ← acceptK .kNot then return .unary .not (← r.inversion) else r.comparison

/-- Operands joined by one word into a single operation. -/
def boolChain (k : Keyword) (op : BoolOp) (operand : Reader Expr) : Reader Expr := do
  let first ← operand
  let rest ← many (· = .keyword k) (do skip; operand)
  if rest.isEmpty then return first else return .boolOp op (first :: rest)

def disjunctionRule (r : Rules) : Reader Expr := boolChain .kOr .or (boolChain .kAnd .and r.inversionRule)

/-! ## Parameters -/

structure ParamsRead where
  positionalOnly : List Param := []
  positional : List Param := []
  defaults : List Expr := []
  variadic : Option Param := none
  keywordOnly : List Param := []
  kwDefaults : List (Option Expr) := []
  keywords : Option Param := none
  starred : Bool := false
  slashed : Bool := false

def ParamsRead.params (p : ParamsRead) : Params :=
  .mk p.positionalOnly.reverse p.positional.reverse p.variadic p.keywordOnly.reverse p.kwDefaults.reverse p.keywords
    p.defaults.reverse

/-- The annotation of a parameter, where parameters have them; that of a variadic one may be starred. -/
def hint (r : Rules) (annotated starrable : Bool) : Reader (Option Expr) := do
  if !annotated then return none
  if ← acceptP .colon then
    if starrable && (← peek) = .punct .star then
      skip
      return some (.starred (← r.bitOr))
    else return some (← r.expression)
  else return none

/-- One parameter, or one of the marks between parameters. -/
def parameter (r : Rules) (annotated : Bool) (p : ParamsRead) : Reader ParamsRead := do
  if p.keywords.isSome then refuse
  match ← peek2 with
  | (.punct .slash, _) =>
    if p.slashed || p.starred || p.positional.isEmpty then refuse
    skip
    return { p with positionalOnly := p.positional, positional := [], slashed := true }
  | (.punct .doubleStar, _) =>
    skip
    let id ← identifier
    return { p with keywords := some (.mk id (← r.hint annotated false)) }
  | (.punct .star, .punct .comma) =>
    if p.starred then refuse
    skip
    match ← peek2 with
    | (_, .name ..) => return { p with starred := true }
    | _ => skip; refuse
  | (.punct .star, _) =>
    if p.starred then refuse
    skip
    let id ← identifier
    return { p with starred := true, variadic := some (.mk id (← r.hint annotated true)) }
  | _ =>
    let id ← identifier
    let param := Param.mk id (← r.hint annotated false)
    let value ← if ← acceptP .eq then (do return some (← r.expression)) else pure none
    if p.starred then return { p with keywordOnly := param :: p.keywordOnly, kwDefaults := value :: p.kwDefaults }
    else
      match value with
      | some d => return { p with positional := param :: p.positional, defaults := d :: p.defaults }
      | none =>
        if !p.defaults.isEmpty then refuse
        return { p with positional := param :: p.positional }

def parameters (r : Rules) (annotated : Bool) (close : Punct) : Reader Params := do
  if (← peek) = .punct close then return .empty
  let p ← loop (fun p => do
    if ← acceptP .comma then
      if (← peek) = .punct close then return none else return some (← r.parameter annotated p)
    else return none) (← r.parameter annotated {})
  return p.params

/-! ## Expressions -/

def lambdaRule (r : Rules) : Reader Expr := do
  expectK .kLambda
  let params ← r.parameters false .colon
  expectP .colon
  return .lambda params (← r.expression)

def expressionRule (r : Rules) : Reader Expr := do
  if (← peek) = .keyword .kLambda then r.lambdaRule
  else
    let body ← r.disjunctionRule
    if ← acceptK .kIf then
      let test ← r.disjunctionRule
      expectK .kElse
      return .ifExp test body (← r.expression)
    else return body

def starExpression (r : Rules) : Reader Expr := do
  if ← acceptP .star then return .starred (← r.bitOrRule) else r.expressionRule

/-- One expression, or a tuple of them without parentheses. -/
def starExpressionsRule (r : Rules) : Reader Expr := do
  let first ← r.starExpression
  if (← peek) = .punct .comma then return .tuple (first :: (← commaTail startsStarred r.starExpression))
  else return first

/-- One expression, or a tuple of them, none starred. -/
def expressions (r : Rules) : Reader Expr := do
  let first ← r.expressionRule
  if (← peek) = .punct .comma then return .tuple (first :: (← commaTail startsExpression r.expressionRule))
  else return first

/-- The rules one level up. -/
def next (r : Rules) : Rules where
  expression := r.expressionRule
  starExpressions := r.starExpressionsRule
  disjunction := r.disjunctionRule
  inversion := r.inversionRule
  bitOr := r.bitOrRule
  factor := r.factorRule
  primary := r.primaryRule

/-- The rules for texts of at most the given depth. -/
def upTo : Nat → Rules
  | 0 => bottom
  | n + 1 => (upTo n).next

end Rules
end DocReview.Source
