import DocReview.Proofs.Source.Bodies
/-!
# Defined — the definitions of a program

Definitions stand in the bodies of statements and nowhere else.  The functions and classes that recursion on the
statements finds (`definedIn`) are those whose nodes the tree of the program has (`definedBelow_stmtNodes`): expressions
and patterns bring in none.
-/
namespace DocReview
namespace Source

inductive DefinitionKind where
  | function
  | asyncFunction
  | classDef
  deriving DecidableEq

structure Defined where
  kind : DefinitionKind
  name : String
  line : Nat
  deriving DecidableEq

/-- The name and the line of a definition. -/
def Defined.place (d : Defined) : String × Nat := (d.name, d.line)

def functionKind (isAsync : Bool) : DefinitionKind := if isAsync then .asyncFunction else .function

mutual

/-- The definitions in a statement, each before those in its body. -/
def Stmt.defined : Stmt → List Defined
  | .funcDef isAsync span name _ body _ _ => ⟨functionKind isAsync, name, span.line⟩ :: definedIn body
  | .classDef span name _ _ body _ => ⟨.classDef, name, span.line⟩ :: definedIn body
  | .forLoop _ _ _ body orelse => definedIn body ++ definedIn orelse
  | .whileLoop _ body orelse => definedIn body ++ definedIn orelse
  | .ifElse _ body orelse => definedIn body ++ definedIn orelse
  | .withBlock _ _ body => definedIn body
  | .matchCases _ cases => definedInCases cases
  | .tryExcept _ body handlers orelse final =>
    definedIn body ++ definedInHandlers handlers ++ definedIn orelse ++ definedIn final
  | _ => []

/-- The definitions in some statements. -/
def definedIn : List Stmt → List Defined
  | [] => []
  | s :: ss => s.defined ++ definedIn ss

def definedInCases : List Case → List Defined
  | [] => []
  | .mk _ _ body :: rest => definedIn body ++ definedInCases rest

def definedInHandlers : List Handler → List Defined
  | [] => []
  | .mk _ _ body :: rest => definedIn body ++ definedInHandlers rest

end

/-! ## Definitions of a tree -/

def Label.defined? : Label → Option Defined
  | .function isAsync name line _ => some ⟨functionKind isAsync, name, line⟩
  | .classDef name line _ => some ⟨.classDef, name, line⟩
  | _ => none

def definedBelow (ns : List Node) : List Defined := (Node.preorderOf ns).filterMap fun n => n.label.defined?

@[simp] theorem definedBelow_nil : definedBelow [] = [] := rfl

theorem definedBelow_singleton (n : Node) : definedBelow [n] = n.preorder.filterMap fun m => m.label.defined? := by
  rw [definedBelow, Node.preorderOf, Node.preorderOf, List.append_nil]

@[simp] theorem definedBelow_mk (l : Label) (cs ns : List Node) :
    definedBelow (.mk l cs :: ns) = l.defined?.toList ++ definedBelow cs ++ definedBelow ns := by
  unfold definedBelow
  rw [Node.preorderOf, Node.preorder, List.filterMap_append, List.filterMap_cons]
  cases h : l.defined? <;> simp [Node.label, h]

@[simp] theorem definedBelow_append (ns ms : List Node) :
    definedBelow (ns ++ ms) = definedBelow ns ++ definedBelow ms := by
  unfold definedBelow
  rw [Node.preorderOf_append, List.filterMap_append]

@[simp] theorem definedBelow_leaf (ns : List Node) : definedBelow (Node.leaf :: ns) = definedBelow ns :=
  definedBelow_mk .other [] ns

/-! ## Expressions and patterns define nothing -/

theorem defined?_of_isStatement {l : Label} (h : l.isStatement = false) : l.defined? = none := by
  cases l with
  | function | classDef => cases h
  | _ => rfl

theorem definedBelow_eq_nil {ns : List Node} (h : statementCount ns = 0) : definedBelow ns = [] :=
  List.filterMap_eq_nil_iff.2 fun m hm => defined?_of_isStatement (isStatement_of_statementCount h m hm)

theorem definedBelow_cons {n : Node} (h : n.count Label.isStatement = 0) (ns : List Node) :
    definedBelow (n :: ns) = definedBelow ns := by
  have hn : definedBelow [n] = [] := definedBelow_eq_nil (by rw [statementCount_cons, h]; rfl)
  rw [← List.singleton_append, definedBelow_append, hn, List.nil_append]

@[simp] theorem Expr.definedBelow_node (e : Expr) (ns : List Node) : definedBelow (e.node :: ns) = definedBelow ns :=
  definedBelow_cons e.count_node ns

@[simp] theorem definedBelow_nodesOf (es : List Expr) : definedBelow (nodesOf es) = [] :=
  definedBelow_eq_nil (statementCount_nodesOf es)

@[simp] theorem definedBelow_optionNodes (e : Option Expr) : definedBelow (optionNodes e) = [] :=
  definedBelow_eq_nil (statementCount_optionNodes e)

@[simp] theorem definedBelow_argumentNodes (args : List Argument) : definedBelow (argumentNodes args) = [] :=
  definedBelow_eq_nil (statementCount_argumentNodes args)

@[simp] theorem Params.definedBelow_node (ps : Params) (ns : List Node) : definedBelow (ps.node :: ns) = definedBelow ns :=
  definedBelow_cons ps.count_node ns

@[simp] theorem Pattern.definedBelow_node (p : Pattern) (ns : List Node) : definedBelow (p.node :: ns) = definedBelow ns :=
  definedBelow_cons p.count_node ns

theorem definedBelow_withNodes (items : List WithItem) : definedBelow (items.map WithItem.node) = [] :=
  definedBelow_eq_nil (statementCount_withNodes items)

/-! ## Statements define what their bodies do -/

mutual

theorem Stmt.definedBelow_node : ∀ (s : Stmt) (ns : List Node),
    definedBelow (s.node :: ns) = s.defined ++ definedBelow ns
  | .funcDef isAsync span name params body decorators returns, ns => by
    simp [Stmt.node, Stmt.defined, Label.defined?, definedBelow_stmtNodes body]
  | .classDef span name bases keywords body decorators, ns => by
    simp [Stmt.node, Stmt.defined, Label.defined?, definedBelow_stmtNodes body]
  | .ret value, ns => by simp [Stmt.node, Stmt.defined, Label.defined?]
  | .delete targets, ns => by simp [Stmt.node, Stmt.defined, Label.defined?]
  | .assign targets value, ns => by simp [Stmt.node, Stmt.defined, Label.defined?]
  | .augAssign target _ value, ns => by simp [Stmt.node, Stmt.defined, Label.defined?]
  | .annAssign target hint value, ns => by simp [Stmt.node, Stmt.defined, Label.defined?]
  | .forLoop isAsync target iter body orelse, ns => by
    cases isAsync <;> simp [Stmt.node, Stmt.defined, Label.defined?, definedBelow_stmtNodes body, definedBelow_stmtNodes orelse]
  | .whileLoop test body orelse, ns => by
    simp [Stmt.node, Stmt.defined, Label.defined?, definedBelow_stmtNodes body, definedBelow_stmtNodes orelse]
  | .ifElse test body orelse, ns => by
    simp [Stmt.node, Stmt.defined, Label.defined?, definedBelow_stmtNodes body, definedBelow_stmtNodes orelse]
  | .withBlock isAsync items body, ns => by
    cases isAsync <;> simp [Stmt.node, Stmt.defined, Label.defined?, definedBelow_withNodes, definedBelow_stmtNodes body]
  | .matchCases subject cases, ns => by simp [Stmt.node, Stmt.defined, Label.defined?, definedBelow_caseNodes cases]
  | .raise exc cause, ns => by simp [Stmt.node, Stmt.defined, Label.defined?]
  | .tryExcept grouped body handlers orelse final, ns => by
    cases grouped <;> simp [Stmt.node, Stmt.defined, Label.defined?, definedBelow_stmtNodes body, definedBelow_handlerNodes handlers,
      definedBelow_stmtNodes orelse, definedBelow_stmtNodes final]
  | .assertion test msg, ns => by simp [Stmt.node, Stmt.defined, Label.defined?]
  | .importNames names, ns => by simp [Stmt.node, Stmt.defined, Label.defined?]
  | .importFrom module names _, ns => by simp [Stmt.node, Stmt.defined, Label.defined?]
  | .expr value, ns => by simp [Stmt.node, Stmt.defined, Label.defined?]
  | .globalNames _, ns => by simp [Stmt.node, Stmt.defined]
  | .nonlocalNames _, ns => by simp [Stmt.node, Stmt.defined]
  | .pass, ns => by simp [Stmt.node, Stmt.defined]
  | .breakLoop, ns => by simp [Stmt.node, Stmt.defined]
  | .continueLoop, ns => by simp [Stmt.node, Stmt.defined]

/-- **The definitions of a program's tree are those in its statements.** -/
theorem definedBelow_stmtNodes : ∀ (body : List Stmt), definedBelow (stmtNodes body) = definedIn body
  | [] => rfl
  | s :: ss => by rw [stmtNodes, s.definedBelow_node, definedBelow_stmtNodes ss, definedIn]

theorem definedBelow_caseNodes : ∀ (cases : List Case), definedBelow (caseNodes cases) = definedInCases cases
  | [] => rfl
  | .mk pattern guard body :: rest => by
    simp [caseNodes, Label.defined?, definedInCases, definedBelow_stmtNodes body, definedBelow_caseNodes rest]

theorem definedBelow_handlerNodes : ∀ (handlers : List Handler),
    definedBelow (handlerNodes handlers) = definedInHandlers handlers
  | [] => rfl
  | .mk type _ body :: rest => by
    simp [handlerNodes, Label.defined?, definedInHandlers, definedBelow_stmtNodes body, definedBelow_handlerNodes rest]

end

theorem definedBelow_program (body : List Stmt) : definedBelow [programNode body] = definedIn body := by
  rw [programNode, definedBelow_mk, definedBelow_stmtNodes, definedBelow_nil, List.append_nil]
  rfl

end Source
end DocReview
