import DocReview.Source.Grammar.Expression
import DocReview.Source.Stmt
/-!
# Grammar of patterns

What may stand after `case`.  As with expressions, a rule is given the rule for what stands deeper.
-/
namespace DocReview.Source

open Reader

namespace Matching

def wildcard : Tok := .name "_" true

/-- A name that a pattern binds: not the wildcard, and not followed by what makes it something else. -/
def captureName : Reader String := do
  if (← peek) = wildcard then refuse
  let id ← identifier
  match ← peek with
  | .punct .dot | .punct .lparen | .punct .eq => refuse
  | _ => return id

def number : Reader Number := do
  match ← peek with
  | .number n => skip; return n
  | _ => refuse

def isImaginary : Number → Bool
  | .imaginary _ => true
  | _ => false

/-- A number with a sign, or a real number and an imaginary one added up. -/
def signedNumber : Reader Expr := do
  let negative ← acceptP .minus
  let n ← number
  let e ← Rules.numberLiteral n
  let left := if negative then .unary .minus e else e
  match Rules.sumOp? (← peek) with
  | some op =>
    ensure !(isImaginary n)
    skip
    let m ← number
    ensure (isImaginary m)
    return .binOp left op (← Rules.numberLiteral m)
  | none => return left

def attributes (e : Expr) : Reader Expr :=
  loop (fun e => do
    if ← acceptP .dot then return some (.attribute e (← identifier)) else return none) e

def mappingKey (r : Rules) : Reader Expr := do
  match ← peek2 with
  | (.number _, _) | (.punct .minus, _) => signedNumber
  | (.string _, _) => r.strings
  | (.keyword .kNone, _) => skip; return .literal .none
  | (.keyword .kTrue, _) => skip; return .literal (.bool true)
  | (.keyword .kFalse, _) => skip; return .literal (.bool false)
  | (.name id _, .punct .dot) => skip; attributes (.name id)
  | (.name .., _) => skip; refuse
  | _ => refuse

structure MappingRead where
  keys : List Expr := []
  patterns : List Pattern := []
  rest : Option String := none

def mappingItem (r : Rules) (deeper : Reader Pattern) (m : MappingRead) : Reader MappingRead := do
  if m.rest.isSome then refuse
  if ← acceptP .doubleStar then return { m with rest := some (← captureName) }
  else
    let key ← mappingKey r
    expectP .colon
    return { m with keys := key :: m.keys, patterns := (← deeper) :: m.patterns }

def mapping (r : Rules) (deeper : Reader Pattern) : Reader Pattern := do
  if ← acceptP .rbrace then return .mapping [] [] none
  let m ← loop (fun m => do
    if ← acceptP .comma then
      if (← peek) = .punct .rbrace then return none else return some (← mappingItem r deeper m)
    else return none) (← mappingItem r deeper {})
  expectP .rbrace
  return .mapping m.keys.reverse m.patterns.reverse m.rest

structure ClassRead where
  patterns : List Pattern := []
  names : List String := []
  named : List Pattern := []

def classItem (deeper : Reader Pattern) (c : ClassRead) : Reader ClassRead := do
  match ← peek2 with
  | (.name id _, .punct .eq) =>
    skip
    skip
    return { c with names := id :: c.names, named := (← deeper) :: c.named }
  | _ =>
    if !c.names.isEmpty then refuse
    return { c with patterns := (← deeper) :: c.patterns }

def classArgs (deeper : Reader Pattern) (cls : Expr) : Reader Pattern := do
  if ← acceptP .rparen then return .classOf cls [] [] []
  let c ← loop (fun c => do
    if ← acceptP .comma then
      if (← peek) = .punct .rparen then return none else return some (← classItem deeper c)
    else return none) (← classItem deeper {})
  expectP .rparen
  return .classOf cls c.patterns.reverse c.names.reverse c.named.reverse

/-- A name that stands for itself: bound, looked up, or a class. -/
def nameOrClass (deeper : Reader Pattern) : Reader Pattern := do
  let id ← identifier
  let e ← attributes (.name id)
  if ← acceptP .lparen then classArgs deeper e
  else if (← peek) = .punct .eq then refuse
  else
    match e with
    | .name id => return .capture none (some id)
    | e => return .value e

def element (deeper : Reader Pattern) : Reader Pattern := do
  if ← acceptP .star then
    if ← accept wildcard then return .star none else return .star (some (← captureName))
  else deeper

def elementTail (deeper : Reader Pattern) (close : Punct) : Reader (List Pattern) :=
  commaTail (· ≠ .punct close) (element deeper)

def closed (r : Rules) (deeper : Reader Pattern) : Reader Pattern := do
  match ← peek with
  | .number _ | .punct .minus => return .value (← signedNumber)
  | .string _ => return .value (← r.strings)
  | .keyword .kNone => skip; return .singleton .none
  | .keyword .kTrue => skip; return .singleton (.bool true)
  | .keyword .kFalse => skip; return .singleton (.bool false)
  | .name .. => if ← accept wildcard then return .capture none none else nameOrClass deeper
  | .punct .lparen =>
    skip
    if ← acceptP .rparen then return .sequence []
    let starred := (← peek) = .punct .star
    let first ← element deeper
    if (← peek) = .punct .comma then
      let rest ← elementTail deeper .rparen
      expectP .rparen
      return .sequence (first :: rest)
    else
      ensure !starred
      expectP .rparen
      return first
  | .punct .lbracket =>
    skip
    if ← acceptP .rbracket then return .sequence []
    let first ← element deeper
    let rest ← elementTail deeper .rbracket
    expectP .rbracket
    return .sequence (first :: rest)
  | .punct .lbrace => skip; mapping r deeper
  | _ => refuse

def rule (r : Rules) (deeper : Reader Pattern) : Reader Pattern := do
  let first ← closed r deeper
  let rest ← many (· = .punct .bar) (do skip; closed r deeper)
  let p := if rest.isEmpty then first else .alternatives (first :: rest)
  if ← acceptK .kAs then return .capture (some p) (some (← captureName)) else return p

def upTo (r : Rules) : Nat → Reader Pattern
  | 0 => refuse
  | n + 1 => rule r (upTo r n)

def startsElement : Tok → Bool
  | .punct p => p = .star || p = .minus || p = .lparen || p = .lbracket || p = .lbrace
  | .keyword k => k = .kNone || k = .kTrue || k = .kFalse
  | .name .. | .number _ | .string _ => true
  | _ => false

/-- The pattern of a `case`: a sequence may stand without brackets. -/
def top (deeper : Reader Pattern) : Reader Pattern := do
  let starred := (← peek) = .punct .star
  let first ← element deeper
  if (← peek) = .punct .comma then return .sequence (first :: (← commaTail startsElement (element deeper)))
  else
    ensure !starred
    return first

end Matching
end DocReview.Source
