import DocReview.Proofs.Source.Tree
/-!
# Bodies — the statements inside statements

Statements stand in the bodies of other statements and nowhere else: the trees of expressions and patterns have no node that
only a statement has (`Expr.count_node`, `Pattern.count_node`).  What holds of a statement as soon as it holds of those
directly inside it (`Stmt.inner`) holds of all statements (`Stmt.inner_induction`).  So going through the tree of a statement
is going through those directly inside it (`Traverses.children`), and the nodes of a program that only statements have are
those of its statements, in the order in which these end (`statementLabels_walk`).
-/
namespace DocReview
namespace Source

/-! ## The statements directly inside -/

def Case.body : Case → List Stmt
  | .mk _ _ body => body

def Handler.body : Handler → List Stmt
  | .mk _ _ body => body

/-- The statements directly inside a statement, in the order of the text. -/
def Stmt.inner : Stmt → List Stmt
  | .funcDef _ _ _ _ body _ _ => body
  | .classDef _ _ _ _ body _ => body
  | .forLoop _ _ _ body orelse => body ++ orelse
  | .whileLoop _ body orelse => body ++ orelse
  | .ifElse _ body orelse => body ++ orelse
  | .withBlock _ _ body => body
  | .matchCases _ cases => cases.flatMap Case.body
  | .tryExcept _ body handlers orelse final => body ++ handlers.flatMap Handler.body ++ orelse ++ final
  | _ => []

theorem sizeOf_of_mem_cases {cases : List Case} {s : Stmt} (h : s ∈ cases.flatMap Case.body) : sizeOf s < sizeOf cases := by
  obtain ⟨⟨pattern, guard, body⟩, hcase, hs⟩ := List.mem_flatMap.1 h
  have hin : sizeOf s < sizeOf body := List.sizeOf_lt_of_mem hs
  have hout := List.sizeOf_lt_of_mem hcase
  rw [Case.mk.sizeOf_spec] at hout
  omega

theorem sizeOf_of_mem_handlers {handlers : List Handler} {s : Stmt} (h : s ∈ handlers.flatMap Handler.body) :
    sizeOf s < sizeOf handlers := by
  obtain ⟨⟨type, name, body⟩, hhandler, hs⟩ := List.mem_flatMap.1 h
  have hin : sizeOf s < sizeOf body := List.sizeOf_lt_of_mem hs
  have hout := List.sizeOf_lt_of_mem hhandler
  rw [Handler.mk.sizeOf_spec] at hout
  omega

theorem Stmt.sizeOf_inner {s x : Stmt} (h : x ∈ s.inner) : sizeOf x < sizeOf s := by
  have hin : ∀ {l : List Stmt}, x ∈ l → sizeOf x < sizeOf l := List.sizeOf_lt_of_mem
  cases s with
  | funcDef | classDef | withBlock =>
    simp only [inner] at h
    have := hin h
    simp only [funcDef.sizeOf_spec, classDef.sizeOf_spec, withBlock.sizeOf_spec]
    omega
  | forLoop | whileLoop | ifElse =>
    simp only [inner, List.mem_append] at h
    have := h.imp hin hin
    simp only [forLoop.sizeOf_spec, whileLoop.sizeOf_spec, ifElse.sizeOf_spec]
    omega
  | matchCases =>
    have := sizeOf_of_mem_cases h
    rw [matchCases.sizeOf_spec]
    omega
  | tryExcept =>
    simp only [inner, List.mem_append] at h
    have := h.imp (Or.imp (Or.imp hin sizeOf_of_mem_handlers) hin) hin
    rw [tryExcept.sizeOf_spec]
    omega
  | _ => cases h

/-- **What passes from the statements inside a statement to it holds of every statement.** -/
theorem Stmt.inner_induction {P : Stmt → Prop} (h : ∀ s, (∀ x ∈ s.inner, P x) → P s) (s : Stmt) : P s :=
  h s fun x _ => Stmt.inner_induction h x
termination_by sizeOf s
decreasing_by exact Stmt.sizeOf_inner ‹_›

/-- A statement and those anywhere inside it, each behind those inside it. -/
def Stmt.endings (s : Stmt) : List Stmt := s.inner.attach.flatMap (fun x => x.1.endings) ++ [s]
termination_by sizeOf s
decreasing_by exact Stmt.sizeOf_inner x.2

theorem Stmt.endings_eq (s : Stmt) : s.endings = s.inner.flatMap Stmt.endings ++ [s] := by
  rw [endings]
  simp

/-! ## Nodes that only statements have -/

def Label.isStatement : Label → Bool
  | .comprehension | .conditional | .yield | .other => false
  | _ => true

def statementCount (ns : List Node) : Nat := Node.countAll Label.isStatement ns

@[simp] theorem statementCount_nil : statementCount [] = 0 := rfl

@[simp] theorem statementCount_cons (n : Node) (ns : List Node) :
    statementCount (n :: ns) = n.count Label.isStatement + statementCount ns := rfl

@[simp] theorem statementCount_append : ∀ (ns ms : List Node),
    statementCount (ns ++ ms) = statementCount ns + statementCount ms
  | [], ms => (Nat.zero_add _).symm
  | n :: ns, ms => by rw [List.cons_append, statementCount_cons, statementCount_cons, statementCount_append ns ms, Nat.add_assoc]

@[simp] theorem Node.count_mk (l : Label) (cs : List Node) :
    (Node.mk l cs).count Label.isStatement = (if l.isStatement then 1 else 0) + statementCount cs := rfl

@[simp] theorem Node.count_leaf : Node.leaf.count Label.isStatement = 0 := rfl

mutual

theorem isStatement_of_count : ∀ {n : Node}, n.count Label.isStatement = 0 → ∀ m ∈ n.preorder, m.label.isStatement = false
  | .mk l cs, h, m, hm => by
    rw [Node.count_mk] at h
    rw [Node.preorder] at hm
    rcases List.mem_cons.1 hm with rfl | hm
    · have hl : ¬ l.isStatement = true := fun hl => by
        rw [if_pos hl] at h
        omega
      exact Bool.eq_false_iff.2 hl
    · exact isStatement_of_statementCount (by omega) m hm

theorem isStatement_of_statementCount : ∀ {ns : List Node}, statementCount ns = 0 →
    ∀ m ∈ Node.preorderOf ns, m.label.isStatement = false
  | [], _, m, hm => by cases hm
  | n :: ns, h, m, hm => by
    rw [statementCount_cons] at h
    rw [Node.preorderOf] at hm
    rcases List.mem_append.1 hm with hm | hm
    · exact isStatement_of_count (by omega) m hm
    · exact isStatement_of_statementCount (by omega) m hm

end

/-! ## Expressions and patterns hold no statement -/

mutual

@[simp] theorem Expr.count_node : ∀ (e : Expr), e.node.count Label.isStatement = 0
  | .boolOp _ values => by simp [Expr.node, Label.isStatement, statementCount_nodesOf values]
  | .named target value => by simp [Expr.node, Label.isStatement, target.count_node, value.count_node]
  | .binOp left _ right => by simp [Expr.node, Label.isStatement, left.count_node, right.count_node]
  | .unary _ operand => by simp [Expr.node, Label.isStatement, operand.count_node]
  | .lambda params body => by simp [Expr.node, Label.isStatement, params.count_node, body.count_node]
  | .ifExp test body orelse => by
    simp [Expr.node, Label.isStatement, test.count_node, body.count_node, orelse.count_node]
  | .dict items => by simp [Expr.node, Label.isStatement, statementCount_keyNodes items, statementCount_valueNodes items]
  | .set elts => by simp [Expr.node, Label.isStatement, statementCount_nodesOf elts]
  | .listComp elt clauses => by simp [Expr.node, Label.isStatement, elt.count_node, statementCount_clauseNodes clauses]
  | .setComp elt clauses => by simp [Expr.node, Label.isStatement, elt.count_node, statementCount_clauseNodes clauses]
  | .dictComp key value clauses => by
    simp [Expr.node, Label.isStatement, key.count_node, value.count_node, statementCount_clauseNodes clauses]
  | .generator elt clauses => by simp [Expr.node, Label.isStatement, elt.count_node, statementCount_clauseNodes clauses]
  | .await value => by simp [Expr.node, Label.isStatement, value.count_node]
  | .yield value => by simp [Expr.node, Label.isStatement, statementCount_optionNodes value]
  | .yieldFrom value => by simp [Expr.node, Label.isStatement, value.count_node]
  | .compare left rest => by simp [Expr.node, Label.isStatement, left.count_node, statementCount_comparisonNodes rest]
  | .call func args keywords => by
    simp [Expr.node, Label.isStatement, func.count_node, statementCount_nodesOf args, statementCount_argumentNodes keywords]
  | .formatted value _ format => by simp [Expr.node, Label.isStatement, value.count_node, statementCount_optionNodes format]
  | .joined parts => by simp [Expr.node, Label.isStatement, statementCount_nodesOf parts]
  | .literal _ => by simp [Expr.node]
  | .attribute value _ => by simp [Expr.node, Label.isStatement, value.count_node]
  | .subscript value index => by simp [Expr.node, Label.isStatement, value.count_node, index.count_node]
  | .starred value => by simp [Expr.node, Label.isStatement, value.count_node]
  | .name _ => by simp [Expr.node]
  | .list elts => by simp [Expr.node, Label.isStatement, statementCount_nodesOf elts]
  | .tuple elts => by simp [Expr.node, Label.isStatement, statementCount_nodesOf elts]
  | .slice lower upper step => by
    simp [Expr.node, Label.isStatement, statementCount_optionNodes lower, statementCount_optionNodes upper,
      statementCount_optionNodes step]

@[simp] theorem statementCount_nodesOf : ∀ (es : List Expr), statementCount (nodesOf es) = 0
  | [] => rfl
  | e :: es => by simp [nodesOf, e.count_node, statementCount_nodesOf es]

@[simp] theorem statementCount_optionNodes : ∀ (e : Option Expr), statementCount (optionNodes e) = 0
  | none => rfl
  | some e => by simp [optionNodes, e.count_node]

theorem statementCount_keyNodes : ∀ (items : List DictItem), statementCount (keyNodes items) = 0
  | [] => rfl
  | .entry key _ :: rest => by simp [keyNodes, key.count_node, statementCount_keyNodes rest]
  | .spread _ :: rest => by simp [keyNodes, statementCount_keyNodes rest]

theorem statementCount_valueNodes : ∀ (items : List DictItem), statementCount (valueNodes items) = 0
  | [] => rfl
  | .entry _ value :: rest => by simp [valueNodes, value.count_node, statementCount_valueNodes rest]
  | .spread value :: rest => by simp [valueNodes, value.count_node, statementCount_valueNodes rest]

theorem statementCount_comparisonNodes : ∀ (rest : List Comparison), statementCount (comparisonNodes rest) = 0
  | [] => rfl
  | .mk _ right :: rest => by simp [comparisonNodes, right.count_node, statementCount_comparisonNodes rest]

@[simp] theorem statementCount_argumentNodes : ∀ (args : List Argument), statementCount (argumentNodes args) = 0
  | [] => rfl
  | .keyword _ value :: rest => by
    simp [argumentNodes, Label.isStatement, value.count_node, statementCount_argumentNodes rest]
  | .spread value :: rest => by
    simp [argumentNodes, Label.isStatement, value.count_node, statementCount_argumentNodes rest]

theorem statementCount_clauseNodes : ∀ (clauses : List ForClause), statementCount (clauseNodes clauses) = 0
  | [] => rfl
  | .mk _ target iter conditions :: rest => by
    simp [clauseNodes, Label.isStatement, target.count_node, iter.count_node, statementCount_nodesOf conditions,
      statementCount_clauseNodes rest]

theorem statementCount_paramNodes : ∀ (ps : List Param), statementCount (paramNodes ps) = 0
  | [] => rfl
  | .mk _ hint :: rest => by
    simp [paramNodes, Label.isStatement, statementCount_optionNodes hint, statementCount_paramNodes rest]

theorem statementCount_paramNode? : ∀ (p : Option Param), statementCount (paramNode? p) = 0
  | none => rfl
  | some (.mk _ hint) => by simp [paramNode?, Label.isStatement, statementCount_optionNodes hint]

theorem statementCount_defaultNodes : ∀ (es : List (Option Expr)), statementCount (defaultNodes es) = 0
  | [] => rfl
  | none :: rest => by simp [defaultNodes, statementCount_defaultNodes rest]
  | some e :: rest => by simp [defaultNodes, e.count_node, statementCount_defaultNodes rest]

@[simp] theorem Params.count_node : ∀ (ps : Params), ps.node.count Label.isStatement = 0
  | .mk positionalOnly positional variadic keywordOnly kwDefaults keywords defaults => by
    simp [Params.node, Label.isStatement, statementCount_paramNodes positionalOnly, statementCount_paramNodes positional,
      statementCount_paramNode? variadic, statementCount_paramNodes keywordOnly, statementCount_defaultNodes kwDefaults,
      statementCount_paramNode? keywords, statementCount_nodesOf defaults]

end

mutual

@[simp] theorem Pattern.count_node : ∀ (p : Pattern), p.node.count Label.isStatement = 0
  | .value e => by simp [Pattern.node, Label.isStatement]
  | .singleton _ => by simp [Pattern.node]
  | .sequence ps => by simp [Pattern.node, Label.isStatement, statementCount_patternNodes ps]
  | .mapping keys ps _ => by simp [Pattern.node, Label.isStatement, statementCount_patternNodes ps]
  | .classOf cls ps _ named => by
    simp [Pattern.node, Label.isStatement, statementCount_patternNodes ps, statementCount_patternNodes named]
  | .star _ => by simp [Pattern.node]
  | .capture none _ => by simp [Pattern.node]
  | .capture (some p) _ => by simp [Pattern.node, Label.isStatement, p.count_node]
  | .alternatives ps => by simp [Pattern.node, Label.isStatement, statementCount_patternNodes ps]

theorem statementCount_patternNodes : ∀ (ps : List Pattern), statementCount (patternNodes ps) = 0
  | [] => rfl
  | p :: ps => by simp [patternNodes, p.count_node, statementCount_patternNodes ps]

end

@[simp] theorem statementCount_withNodes : ∀ (items : List WithItem), statementCount (items.map WithItem.node) = 0
  | [] => rfl
  | item :: items => by simp [WithItem.node, Label.isStatement, statementCount_withNodes items]

/-! ## Going through the tree of a statement -/

theorem stmtNodes_append : ∀ (ss ts : List Stmt), stmtNodes (ss ++ ts) = stmtNodes ss ++ stmtNodes ts
  | [], _ => rfl
  | s :: ss, ts => by rw [List.cons_append, stmtNodes, stmtNodes, stmtNodes_append ss ts, List.cons_append]

/-- Going through nodes one after the other, where a node of no kind of its own is what is below it, and nodes that are no
statements change nothing. -/
structure Traverses {α : Type} (F : List Node → α → α) : Prop where
  append : ∀ (ns ms : List Node) (a : α), F (ns ++ ms) a = F ms (F ns a)
  other : ∀ (cs : List Node) (a : α), F [.mk .other cs] a = F cs a
  bare : ∀ {ns : List Node}, statementCount ns = 0 → ∀ a : α, F ns a = a

namespace Traverses

variable {α : Type} {F : List Node → α → α} (h : Traverses F)

include h

theorem cons_bare {n : Node} (hn : n.count Label.isStatement = 0) (ns : List Node) (a : α) : F (n :: ns) a = F ns a := by
  have hsingle : statementCount [n] = 0 := by simp [hn]
  rw [← List.singleton_append, h.append, h.bare hsingle]

theorem cons_other (cs ns : List Node) (a : α) : F (.mk .other cs :: ns) a = F ns (F cs a) := by
  rw [← List.singleton_append, h.append, h.other]

theorem through_cases : ∀ (cases : List Case) (a : α), F (caseNodes cases) a = F (stmtNodes (cases.flatMap Case.body)) a
  | [], _ => rfl
  | .mk pattern guard body :: rest, a => by
    have hguard := h.bare (statementCount_optionNodes guard)
    rw [caseNodes, h.cons_other, List.cons_append, h.cons_bare pattern.count_node, h.append, hguard, through_cases rest,
      List.flatMap_cons, stmtNodes_append, h.append]
    rfl

theorem through_handlers : ∀ (handlers : List Handler) (a : α),
    F (handlerNodes handlers) a = F (stmtNodes (handlers.flatMap Handler.body)) a
  | [], _ => rfl
  | .mk type name body :: rest, a => by
    have htype := h.bare (statementCount_optionNodes type)
    rw [handlerNodes, h.cons_other, h.append, htype, through_handlers rest, List.flatMap_cons, stmtNodes_append, h.append]
    rfl

/-- **Below a statement are the statements directly inside it**, and besides nothing that counts. -/
theorem children (s : Stmt) (a : α) : F s.node.children a = F (stmtNodes s.inner) a := by
  have hempty : ∀ {ns : List Node}, statementCount ns = 0 → F ns a = F (stmtNodes []) a := fun hns => by
    rw [h.bare hns, h.bare rfl]
  cases s with
  | funcDef isAsync span name params body decorators returns =>
    have hbehind : statementCount (nodesOf decorators ++ optionNodes returns) = 0 := by simp
    simp only [Stmt.node, Node.children, Stmt.inner, List.cons_append, List.append_assoc]
    rw [h.cons_bare params.count_node, h.append, h.bare hbehind]
  | classDef span name bases keywords body decorators =>
    have hbefore : statementCount (nodesOf bases ++ argumentNodes keywords) = 0 := by simp
    simp only [Stmt.node, Node.children, Stmt.inner]
    rw [h.append, h.append, h.bare hbefore, h.bare (statementCount_nodesOf decorators)]
  | forLoop isAsync target iter body orelse =>
    simp only [Stmt.node, Node.children, Stmt.inner, stmtNodes_append]
    rw [List.cons_append, List.cons_append, h.cons_bare target.count_node, h.cons_bare iter.count_node]
  | whileLoop test body orelse =>
    simp only [Stmt.node, Node.children, Stmt.inner, stmtNodes_append]
    rw [List.cons_append, h.cons_bare test.count_node]
  | ifElse test body orelse =>
    simp only [Stmt.node, Node.children, Stmt.inner, stmtNodes_append]
    rw [List.cons_append, h.cons_bare test.count_node]
  | withBlock isAsync items body =>
    simp only [Stmt.node, Node.children, Stmt.inner]
    rw [h.append, h.bare (statementCount_withNodes items)]
  | matchCases subject cases =>
    simp only [Stmt.node, Node.children, Stmt.inner]
    rw [h.cons_bare subject.count_node, h.through_cases]
  | tryExcept grouped body handlers orelse final =>
    simp only [Stmt.node, Node.children, Stmt.inner, stmtNodes_append]
    rw [h.append, h.append, h.append, h.through_handlers, h.append, h.append, h.append]
  | _ => exact hempty (by simp [Stmt.node, Node.children, Node.leaf])

end Traverses

/-! ## The statements of a tree -/

def statementLabels (ns : List Node) : List Label := ((Node.preorderOf ns).map Node.label).filter Label.isStatement

theorem statementLabels_append (ns ms : List Node) : statementLabels (ns ++ ms) = statementLabels ns ++ statementLabels ms := by
  simp [statementLabels, Node.preorderOf_append]

theorem statementLabels_mk (l : Label) (cs : List Node) :
    statementLabels [.mk l cs] = [l].filter Label.isStatement ++ statementLabels cs := by
  simp [statementLabels, Node.preorderOf, Node.preorder, Node.label, List.filter_cons]
  split <;> rfl

theorem statementLabels_eq_nil {ns : List Node} (h : statementCount ns = 0) : statementLabels ns = [] := by
  refine List.filter_eq_nil_iff.2 fun l hl => ?_
  obtain ⟨m, hm, rfl⟩ := List.mem_map.1 hl
  simp [isStatement_of_statementCount h m hm]

theorem traverses_statementLabels : Traverses fun ns ls => ls ++ statementLabels ns where
  append ns ms ls := by rw [statementLabels_append, List.append_assoc]
  other cs ls := by rw [statementLabels_mk]; rfl
  bare h ls := by rw [statementLabels_eq_nil h, List.append_nil]

theorem Stmt.statementLabels_node (s : Stmt) :
    statementLabels [s.node] = [s.node.label].filter Label.isStatement ++ statementLabels (stmtNodes s.inner) := by
  have hchildren : statementLabels s.node.children = statementLabels (stmtNodes s.inner) :=
    traverses_statementLabels.children s []
  rw [← hchildren, ← statementLabels_mk]
  cases s.node
  rfl

theorem statementLabels_stmtNodes : ∀ {ss : List Stmt},
    (∀ s ∈ ss, (statementLabels [s.node]).Perm ((s.endings.map fun x => x.node.label).filter Label.isStatement)) →
      (statementLabels (stmtNodes ss)).Perm
        (((ss.flatMap Stmt.endings).map fun x => x.node.label).filter Label.isStatement)
  | [], _ => .nil
  | s :: ss, h => by
    have hs := h s List.mem_cons_self
    have hss := statementLabels_stmtNodes fun x hx => h x (List.mem_cons_of_mem s hx)
    rw [stmtNodes, ← List.singleton_append, statementLabels_append, List.flatMap_cons, List.map_append, List.filter_append]
    exact hs.append hss

theorem Stmt.statementLabels_perm (s : Stmt) :
    (statementLabels [s.node]).Perm ((s.endings.map fun x => x.node.label).filter Label.isStatement) := by
  induction s using Stmt.inner_induction with
  | h s ih =>
    rw [s.statementLabels_node, s.endings_eq, List.map_append, List.filter_append]
    exact ((statementLabels_stmtNodes ih).append_left _).trans List.perm_append_comm

/-- **The nodes of a program that only statements have are those of its statements**, wherever these stand. -/
theorem statementLabels_walk (body : List Stmt) : (((programNode body).walk.map Node.label).filter Label.isStatement).Perm
    (((body.flatMap Stmt.endings).map fun s => s.node.label).filter Label.isStatement) := by
  have hwalk := ((Node.walk_perm_preorder (programNode body)).map Node.label).filter Label.isStatement
  have hprogram : ((programNode body).preorder.map Node.label).filter Label.isStatement = statementLabels (stmtNodes body) :=
    rfl
  rw [hprogram] at hwalk
  exact hwalk.trans (statementLabels_stmtNodes fun s _ => s.statementLabels_perm)

end Source
end DocReview
