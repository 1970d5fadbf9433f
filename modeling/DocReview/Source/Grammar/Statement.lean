import DocReview.Source.Grammar.Pattern
/-!
# Grammar of statements

Simple statements fill a line between semicolons; compound ones have blocks, which are read by the rule for what stands
deeper.
-/
namespace DocReview.Source

open Reader

namespace Statements

/-! ## Simple statements -/

def rightSide (r : Rules) : Reader Expr := do
  if (← peek) = .keyword .kYield then r.yieldExpr else r.starExpressions

def augmentedOp? : Tok → Option BinOp
  | .punct .plusEq => some .add
  | .punct .minusEq => some .sub
  | .punct .starEq => some .mult
  | .punct .atEq => some .matMult
  | .punct .slashEq => some .div
  | .punct .percentEq => some .mod
  | .punct .ampEq => some .bitAnd
  | .punct .barEq => some .bitOr
  | .punct .caretEq => some .bitXor
  | .punct .shiftLeftEq => some .lShift
  | .punct .shiftRightEq => some .rShift
  | .punct .doubleStarEq => some .pow
  | .punct .doubleSlashEq => some .floorDiv
  | _ => none

/-- Targets and value of an assignment: every right side but the last is a target again. -/
def assignment (r : Rules) (first : Expr) : Reader Stmt := do
  let (targets, value) ← loop (fun (targets, value) => do
    if (← peek) = .punct .eq then
      ensure (isTarget value)
      skip
      return some (value :: targets, ← rightSide r)
    else return none) ([], first)
  return .assign targets.reverse value

def expressionStatement (r : Rules) : Reader Stmt := do
  let first ← r.starExpressions
  match ← peek with
  | .punct .colon =>
    if !isPlace first then refuse
    skip
    let hint ← r.expression
    if ← acceptP .eq then return .annAssign first hint (some (← rightSide r))
    else return .annAssign first hint none
  | .punct .eq => assignment r first
  | t =>
    match augmentedOp? t with
    | some op =>
      if !isPlace first then refuse
      skip
      return .augAssign first op (← rightSide r)
    | none => return .expr first

def dottedName : Reader String := do
  let first ← identifier
  loop (fun s => do
    if ← acceptP .dot then return some (s ++ "." ++ (← identifier)) else return none) first

def asName : Reader (Option String) := do
  if ← acceptK .kAs then return some (← identifier) else return none

def dottedAlias : Reader Alias := do
  let name ← dottedName
  return ⟨name, ← asName⟩

def plainAlias : Reader Alias := do
  let name ← identifier
  return ⟨name, ← asName⟩

def isName : Tok → Bool
  | .name .. => true
  | _ => false

def importedNames : Reader (List Alias) := do
  if ← acceptP .star then return [⟨"*", none⟩]
  if ← acceptP .lparen then
    let first ← plainAlias
    let rest ← commaTail isName plainAlias
    expectP .rparen
    return first :: rest
  else commaList plainAlias

def leadingDots : Reader Nat :=
  loop (fun n => do
    if ← acceptP .dot then return some (n + 1)
    else if ← acceptP .ellipsis then return some (n + 3)
    else return none) 0

def fromImport : Reader Stmt := do
  let level ← leadingDots
  let module ← if (← peek) = .keyword .kImport && level ≠ 0 then pure none else (do return some (← dottedName))
  expectK .kImport
  return .importFrom module (← importedNames) level

def deleted (r : Rules) : Reader Expr := do
  let e ← r.primary
  ensure (isDeletable e)
  return e

def simple (r : Rules) : Reader Stmt := do
  match ← peek with
  | .keyword .kReturn =>
    skip
    if startsStarred (← peek) then return .ret (some (← r.starExpressions)) else return .ret none
  | .keyword .kImport => skip; return .importNames (← commaList dottedAlias)
  | .keyword .kFrom => skip; fromImport
  | .keyword .kRaise =>
    skip
    if startsExpression (← peek) then
      let exc ← r.expression
      if ← acceptK .kFrom then return .raise (some exc) (some (← r.expression)) else return .raise (some exc) none
    else return .raise none none
  | .keyword .kPass => skip; return .pass
  | .keyword .kDel =>
    skip
    let first ← deleted r
    return .delete (first :: (← commaTail startsExpression (deleted r)))
  | .keyword .kYield => return .expr (← r.yieldExpr)
  | .keyword .kAssert =>
    skip
    let test ← r.expression
    if ← acceptP .comma then return .assertion test (some (← r.expression)) else return .assertion test none
  | .keyword .kBreak => skip; return .breakLoop
  | .keyword .kContinue => skip; return .continueLoop
  | .keyword .kGlobal => skip; return .globalNames (← commaList identifier)
  | .keyword .kNonlocal => skip; return .nonlocalNames (← commaList identifier)
  | _ => expressionStatement r

def simpleLine (r : Rules) : Reader (List Stmt) := do
  let first ← simple r
  let rest ← loop (fun acc => do
    if ← acceptP .semicolon then
      if (← peek) = .newline then return none else return some ((← simple r) :: acc)
    else return none) []
  expect .newline
  return first :: rest.reverse

/-! ## Blocks -/

/-- What a missing block is refused for: a later unreadable character, number or string counts more. -/
def missingBlock {α : Type} : Reader α := do
  match ← peek with
  | .fault f => throw f.refusal
  | _ =>
    let unreadable := (← get).rest.any fun t => t.tok = .fault .malformed
    throw (if unreadable then .malformed else .indentation)

/-- A block after its colon: the rest of the line, or indented statements. -/
def block (r : Rules) (deeper : Reader (List Stmt)) : Reader (List Stmt) := do
  if ← accept .newline then
    if ← accept .indent then
      let body ← deeper
      expect .dedent
      return body
    else missingBlock
  else simpleLine r

def suite (r : Rules) (deeper : Reader (List Stmt)) : Reader (List Stmt) := do
  expectP .colon
  block r deeper

def clause (k : Keyword) (r : Rules) (deeper : Reader (List Stmt)) : Reader (List Stmt) := do
  if ← acceptK k then suite r deeper else return []

/-! ## Compound statements -/

/-- The line and column a definition starts at, and its last line once it is read. -/
def spanned (start : Nat × Nat) : Reader Span := do return ⟨start.1, (← get).lastLine, start.2⟩

def function (r : Rules) (deeper : Reader (List Stmt)) (decorators : List Expr) : Reader Stmt := do
  let start ← place
  let isAsync ← acceptK .kAsync
  expectK .kDef
  let name ← identifier
  expectP .lparen
  let params ← r.parameters true .rparen
  expectP .rparen
  let returns ← if ← acceptP .arrow then (do return some (← r.expression)) else pure none
  let body ← suite r deeper
  return .funcDef isAsync (← spanned start) name params body decorators returns

def classDefinition (r : Rules) (deeper : Reader (List Stmt)) (decorators : List Expr) : Reader Stmt := do
  let start ← place
  expectK .kClass
  let name ← identifier
  let (bases, keywords) ← if ← acceptP .lparen then r.classArgs else pure ([], [])
  let body ← suite r deeper
  return .classDef (← spanned start) name bases keywords body decorators

def decorated (r : Rules) (deeper : Reader (List Stmt)) : Reader Stmt := do
  let decorators ← many (· = .punct .at) (do
    skip
    let e ← r.namedExpression
    expect .newline
    return e)
  match ← peek with
  | .keyword .kDef | .keyword .kAsync => function r deeper decorators
  | .keyword .kClass => classDefinition r deeper decorators
  | _ => refuse

/-- An `if` with its `elif` parts, each of which is an `if` in the other branch of the one before. -/
def conditional (r : Rules) (deeper : Reader (List Stmt)) : Reader Stmt := do
  let branch : Reader (Expr × List Stmt) := do
    skip
    let test ← r.namedExpression
    return (test, ← suite r deeper)
  let (test, body) ← branch
  let elifs ← many (· = .keyword .kElif) branch
  let last ← clause .kElse r deeper
  return .ifElse test body (elifs.foldr (fun (t, b) orelse => [.ifElse t b orelse]) last)

def whileStatement (r : Rules) (deeper : Reader (List Stmt)) : Reader Stmt := do
  skip
  let test ← r.namedExpression
  let body ← suite r deeper
  return .whileLoop test body (← clause .kElse r deeper)

def forStatement (r : Rules) (deeper : Reader (List Stmt)) (isAsync : Bool) : Reader Stmt := do
  skip
  let target ← r.starTargets
  expectK .kIn
  let iter ← r.starExpressions
  let body ← suite r deeper
  return .forLoop isAsync target iter body (← clause .kElse r deeper)

def withItem (r : Rules) : Reader WithItem := do
  let context ← r.expression
  if ← acceptK .kAs then return ⟨context, some (← r.starTarget)⟩ else return ⟨context, none⟩

/-- The items of a `with` up to its colon: in parentheses if they can be read so, else without. -/
def withItems (r : Rules) : Reader (List WithItem) := do
  let inParens : Reader (List WithItem) := do
    expectP .lparen
    let first ← withItem r
    let rest ← commaTail startsExpression (withItem r)
    expectP .rparen
    expectP .colon
    return first :: rest
  match ← attempt inParens with
  | some items => return items
  | none =>
    let items ← commaList (withItem r)
    expectP .colon
    return items

def withStatement (r : Rules) (deeper : Reader (List Stmt)) (isAsync : Bool) : Reader Stmt := do
  skip
  let items ← withItems r
  return .withBlock isAsync items (← block r deeper)

/-- An `except` with its block; `grouped` handlers have a star. -/
def handler (r : Rules) (deeper : Reader (List Stmt)) (grouped : Bool) : Reader Handler := do
  expectK .kExcept
  if grouped then expectP .star
  if !grouped && (← peek) = .punct .colon then return .mk none none (← suite r deeper)
  let type ← r.expression
  let name ← asName
  return .mk (some type) name (← suite r deeper)

def tryStatement (r : Rules) (deeper : Reader (List Stmt)) : Reader Stmt := do
  skip
  let body ← suite r deeper
  match ← peek2 with
  | (.keyword .kFinally, _) => return .tryExcept false body [] [] (← clause .kFinally r deeper)
  | (.keyword .kExcept, t) =>
    let grouped := t = .punct .star
    let handlers ← many (· = .keyword .kExcept) (handler r deeper grouped)
    let orelse ← clause .kElse r deeper
    let final ← clause .kFinally r deeper
    return .tryExcept grouped body handlers orelse final
  | (.fault f, _) => throw f.refusal
  | _ => throw .malformed

def matchSubject (r : Rules) : Reader Expr := do
  skip
  let starred := (← peek) = .punct .star
  let first ← r.starNamed
  let subject ←
    if (← peek) = .punct .comma then (do return .tuple (first :: (← commaTail startsStarred r.starNamed)))
    else (do ensure !starred; return first)
  expectP .colon
  expect .newline
  return subject

def caseWord : Tok := .name "case" true

def matchWord : Tok := .name "match" true

def caseBlock (r : Rules) (deeper : Reader (List Stmt)) : Reader Case := do
  expect caseWord
  let pattern ← Matching.top (Matching.upTo r (← get).rest.length)
  let guard ← if ← acceptK .kIf then (do return some (← r.namedExpression)) else pure none
  return .mk pattern guard (← suite r deeper)

def matchBody (r : Rules) (deeper : Reader (List Stmt)) (subject : Expr) : Reader Stmt := do
  if !(← accept .indent) then missingBlock
  let first ← caseBlock r deeper
  let rest ← many (· = caseWord) (caseBlock r deeper)
  expect .dedent
  return .matchCases subject (first :: rest)

/-- One statement, or the simple statements of one line. -/
def statement (r : Rules) (deeper : Reader (List Stmt)) : Reader (List Stmt) := do
  match ← peek2 with
  | (.punct .at, _) => return [← decorated r deeper]
  | (.keyword .kDef, _) => return [← function r deeper []]
  | (.keyword .kAsync, .keyword .kDef) => return [← function r deeper []]
  | (.keyword .kAsync, .keyword .kWith) => skip; return [← withStatement r deeper true]
  | (.keyword .kAsync, .keyword .kFor) => skip; return [← forStatement r deeper true]
  | (.keyword .kAsync, _) => skip; refuse
  | (.keyword .kClass, _) => return [← classDefinition r deeper []]
  | (.keyword .kIf, _) => return [← conditional r deeper]
  | (.keyword .kWhile, _) => return [← whileStatement r deeper]
  | (.keyword .kFor, _) => return [← forStatement r deeper false]
  | (.keyword .kWith, _) => return [← withStatement r deeper false]
  | (.keyword .kTry, _) => return [← tryStatement r deeper]
  | (t, _) =>
    if t = matchWord then
      match ← attempt (matchSubject r) with
      | some subject => return [← matchBody r deeper subject]
      | none => simpleLine r
    else simpleLine r

def statements (r : Rules) (deeper : Reader (List Stmt)) : Reader (List Stmt) := do
  let lines ← many (fun t => t ≠ .dedent && t ≠ .finish) (statement r deeper)
  return lines.flatten

def upTo (r : Rules) : Nat → Reader (List Stmt)
  | 0 => refuse
  | n + 1 => statements r (upTo r n)

end Statements
end DocReview.Source
