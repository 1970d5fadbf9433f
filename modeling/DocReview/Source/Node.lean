import DocReview.Source.Stmt
/-!
# Node — a program as a plain tree

Analyses ask what kinds of nodes a program has, in which order, and how they are nested.  A `Node` is a label and the
nodes under it, in the order of the text but for decorators and annotations, which stand behind the body they belong to.
-/
namespace DocReview.Source

/-- What a node is, as far as analyses tell nodes apart. -/
inductive Label where
  /-- A function with the line it starts on and the number of statements in its body. -/
  | function (isAsync : Bool) (name : String) (line size : Nat)
  | classDef (name : String) (line size : Nat)
  | ifElse
  | forLoop
  | whileLoop
  | withBlock
  | tryExcept (handlers : Nat)
  | comprehension
  | conditional
  | yield
  | raise (exc : Option Expr)
  | imports (names : List String)
  | other

inductive Node where
  | mk (label : Label) (children : List Node)

namespace Node

def label : Node → Label
  | .mk l _ => l

def children : Node → List Node
  | .mk _ cs => cs

def leaf : Node := .mk .other []

end Node

mutual

def Expr.node : Expr → Node
  | .boolOp _ values => .mk .other (nodesOf values)
  | .named target value => .mk .other [target.node, value.node]
  | .binOp left _ right => .mk .other [left.node, right.node]
  | .unary _ operand => .mk .other [operand.node]
  | .lambda params body => .mk .other [params.node, body.node]
  | .ifExp test body orelse => .mk .conditional [test.node, body.node, orelse.node]
  | .dict items => .mk .other (keyNodes items ++ valueNodes items)
  | .set elts => .mk .other (nodesOf elts)
  | .listComp elt clauses => .mk .comprehension (elt.node :: clauseNodes clauses)
  | .setComp elt clauses => .mk .comprehension (elt.node :: clauseNodes clauses)
  | .dictComp key value clauses => .mk .comprehension (key.node :: value.node :: clauseNodes clauses)
  | .generator elt clauses => .mk .comprehension (elt.node :: clauseNodes clauses)
  | .await value => .mk .other [value.node]
  | .yield value => .mk .yield (optionNodes value)
  | .yieldFrom value => .mk .other [value.node]
  | .compare left rest => .mk .other (left.node :: comparisonNodes rest)
  | .call func args keywords => .mk .other (func.node :: nodesOf args ++ argumentNodes keywords)
  | .formatted value _ format => .mk .other (value.node :: optionNodes format)
  | .joined parts => .mk .other (nodesOf parts)
  | .literal _ => .leaf
  | .attribute value _ => .mk .other [value.node]
  | .subscript value index => .mk .other [value.node, index.node]
  | .starred value => .mk .other [value.node]
  | .name _ => .leaf
  | .list elts => .mk .other (nodesOf elts)
  | .tuple elts => .mk .other (nodesOf elts)
  | .slice lower upper step => .mk .other (optionNodes lower ++ optionNodes upper ++ optionNodes step)

def nodesOf : List Expr → List Node
  | [] => []
  | e :: es => e.node :: nodesOf es

def optionNodes : Option Expr → List Node
  | none => []
  | some e => [e.node]

def keyNodes : List DictItem → List Node
  | [] => []
  | .entry key _ :: rest => key.node :: keyNodes rest
  | .spread _ :: rest => keyNodes rest

def valueNodes : List DictItem → List Node
  | [] => []
  | .entry _ value :: rest => value.node :: valueNodes rest
  | .spread value :: rest => value.node :: valueNodes rest

def comparisonNodes : List Comparison → List Node
  | [] => []
  | .mk _ right :: rest => right.node :: comparisonNodes rest

def argumentNodes : List Argument → List Node
  | [] => []
  | .keyword _ value :: rest => .mk .other [value.node] :: argumentNodes rest
  | .spread value :: rest => .mk .other [value.node] :: argumentNodes rest

def clauseNodes : List ForClause → List Node
  | [] => []
  | .mk _ target iter conditions :: rest =>
    .mk .other (target.node :: iter.node :: nodesOf conditions) :: clauseNodes rest

def paramNodes : List Param → List Node
  | [] => []
  | .mk _ hint :: rest => .mk .other (optionNodes hint) :: paramNodes rest

def paramNode? : Option Param → List Node
  | none => []
  | some (.mk _ hint) => [.mk .other (optionNodes hint)]

def defaultNodes : List (Option Expr) → List Node
  | [] => []
  | none :: rest => defaultNodes rest
  | some e :: rest => e.node :: defaultNodes rest

def Params.node : Params → Node
  | .mk positionalOnly positional variadic keywordOnly kwDefaults keywords defaults =>
    .mk .other (paramNodes positionalOnly ++ paramNodes positional ++ paramNode? variadic ++ paramNodes keywordOnly
      ++ defaultNodes kwDefaults ++ paramNode? keywords ++ nodesOf defaults)

end

mutual

def Pattern.node : Pattern → Node
  | .value e => .mk .other [e.node]
  | .singleton _ => .leaf
  | .sequence ps => .mk .other (patternNodes ps)
  | .mapping keys ps _ => .mk .other (nodesOf keys ++ patternNodes ps)
  | .classOf cls ps _ named => .mk .other (cls.node :: patternNodes ps ++ patternNodes named)
  | .star _ => .leaf
  | .capture none _ => .leaf
  | .capture (some p) _ => .mk .other [p.node]
  | .alternatives ps => .mk .other (patternNodes ps)

def patternNodes : List Pattern → List Node
  | [] => []
  | p :: ps => p.node :: patternNodes ps

end

def WithItem.node (w : WithItem) : Node := .mk .other (w.context.node :: optionNodes w.target)

/-- The names an import makes known, each behind the name of the module it comes from, if that has one. -/
def importedFrom (module : Option String) (names : List Alias) : List String :=
  let m := module.getD ""
  names.map fun a => if m = "" then a.name else m ++ "." ++ a.name

mutual

def Stmt.node : Stmt → Node
  | .funcDef isAsync span name params body decorators returns =>
    .mk (.function isAsync name span.line body.length)
      (params.node :: stmtNodes body ++ nodesOf decorators ++ optionNodes returns)
  | .classDef span name bases keywords body decorators =>
    .mk (.classDef name span.line body.length)
      (nodesOf bases ++ argumentNodes keywords ++ stmtNodes body ++ nodesOf decorators)
  | .ret value => .mk .other (optionNodes value)
  | .delete targets => .mk .other (nodesOf targets)
  | .assign targets value => .mk .other (nodesOf targets ++ [value.node])
  | .augAssign target _ value => .mk .other [target.node, value.node]
  | .annAssign target hint value => .mk .other (target.node :: hint.node :: optionNodes value)
  | .forLoop isAsync target iter body orelse =>
    .mk (if isAsync then .other else .forLoop) (target.node :: iter.node :: stmtNodes body ++ stmtNodes orelse)
  | .whileLoop test body orelse => .mk .whileLoop (test.node :: stmtNodes body ++ stmtNodes orelse)
  | .ifElse test body orelse => .mk .ifElse (test.node :: stmtNodes body ++ stmtNodes orelse)
  | .withBlock isAsync items body =>
    .mk (if isAsync then .other else .withBlock) (items.map WithItem.node ++ stmtNodes body)
  | .matchCases subject cases => .mk .other (subject.node :: caseNodes cases)
  | .raise exc cause => .mk (.raise exc) (optionNodes exc ++ optionNodes cause)
  | .tryExcept grouped body handlers orelse final =>
    .mk (if grouped then .other else .tryExcept handlers.length)
      (stmtNodes body ++ handlerNodes handlers ++ stmtNodes orelse ++ stmtNodes final)
  | .assertion test msg => .mk .other (test.node :: optionNodes msg)
  | .importNames names => .mk (.imports (importedFrom none names)) []
  | .importFrom module names _ => .mk (.imports (importedFrom module names)) []
  | .expr value => .mk .other [value.node]
  | .globalNames _ | .nonlocalNames _ | .pass | .breakLoop | .continueLoop => .leaf

def stmtNodes : List Stmt → List Node
  | [] => []
  | s :: ss => s.node :: stmtNodes ss

def caseNodes : List Case → List Node
  | [] => []
  | .mk pattern guard body :: rest =>
    .mk .other (pattern.node :: optionNodes guard ++ stmtNodes body) :: caseNodes rest

def handlerNodes : List Handler → List Node
  | [] => []
  | .mk type _ body :: rest => .mk .other (optionNodes type ++ stmtNodes body) :: handlerNodes rest

end

def programNode (body : List Stmt) : Node := .mk .other (stmtNodes body)

namespace Node

/-! ## Orders -/

/-- Joins two lists of levels, level by level. -/
def joinLevels : List (List Node) → List (List Node) → List (List Node)
  | [], ys => ys
  | xs, [] => xs
  | x :: xs, y :: ys => (x ++ y) :: joinLevels xs ys

mutual

def levels : Node → List (List Node)
  | .mk l cs => [.mk l cs] :: levelsOf cs

def levelsOf : List Node → List (List Node)
  | [] => []
  | n :: ns => joinLevels n.levels (levelsOf ns)

end

/-- The nodes of a tree, those of lesser depth first. -/
def walk (n : Node) : List Node := n.levels.flatten

mutual

def count (p : Label → Bool) : Node → Nat
  | .mk l cs => (if p l then 1 else 0) + countAll p cs

def countAll (p : Label → Bool) : List Node → Nat
  | [] => 0
  | n :: ns => n.count p + countAll p ns

end

end Node
end DocReview.Source
