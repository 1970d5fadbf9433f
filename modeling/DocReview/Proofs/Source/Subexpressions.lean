import DocReview.Proofs.Source.Bodies
/-!
# Subexpressions — the expressions of a statement and what is inside them

The expressions of a statement (`Stmt.exprs`) are those in none of the statements inside it, and an expression has others
directly inside it (`Expr.inner`).  What passes from these to it holds of every expression (`Expr.inner_induction`).  One of
them may wait for a call: the body of a lambda.  So what is anywhere inside an expression is outside the lambdas in it or in
the body of one (`Expr.mem_within_iff`).  A tree has a node for a `yield` exactly if there is one anywhere inside the
expressions of its statements (`Stmt.yields_node_iff`).
-/
namespace DocReview
namespace Source

/-! ## The expressions directly inside an expression -/

def DictItem.exprs : DictItem → List Expr
  | .entry key value => [key, value]
  | .spread value => [value]

def Comparison.exprs : Comparison → List Expr
  | .mk _ right => [right]

def Argument.exprs : Argument → List Expr
  | .keyword _ value => [value]
  | .spread value => [value]

def ForClause.exprs : ForClause → List Expr
  | .mk _ target iter conditions => target :: iter :: conditions

def Param.exprs (p : Param) : List Expr := p.hint.toList

/-- The annotations and the defaults of parameters. -/
def Params.exprs : Params → List Expr
  | .mk positionalOnly positional variadic keywordOnly kwDefaults keywords defaults =>
    positionalOnly.flatMap Param.exprs ++ positional.flatMap Param.exprs ++ variadic.toList.flatMap Param.exprs
      ++ keywordOnly.flatMap Param.exprs ++ kwDefaults.flatMap Option.toList ++ keywords.toList.flatMap Param.exprs
      ++ defaults

def Expr.inner : Expr → List Expr
  | .boolOp _ values => values
  | .named target value => [target, value]
  | .binOp left _ right => [left, right]
  | .unary _ operand => [operand]
  | .lambda params body => params.exprs ++ [body]
  | .ifExp test body orelse => [test, body, orelse]
  | .dict items => items.flatMap DictItem.exprs
  | .set elts => elts
  | .listComp elt clauses => elt :: clauses.flatMap ForClause.exprs
  | .setComp elt clauses => elt :: clauses.flatMap ForClause.exprs
  | .dictComp key value clauses => key :: value :: clauses.flatMap ForClause.exprs
  | .generator elt clauses => elt :: clauses.flatMap ForClause.exprs
  | .await value => [value]
  | .yield value => value.toList
  | .yieldFrom value => [value]
  | .compare left rest => left :: rest.flatMap Comparison.exprs
  | .call func args keywords => func :: args ++ keywords.flatMap Argument.exprs
  | .formatted value _ format => value :: format.toList
  | .joined parts => parts
  | .literal _ => []
  | .attribute value _ => [value]
  | .subscript value index => [value, index]
  | .starred value => [value]
  | .name _ => []
  | .list elts => elts
  | .tuple elts => elts
  | .slice lower upper step => lower.toList ++ upper.toList ++ step.toList

theorem sizeOf_of_mem_flatMap {α : Type} [SizeOf α] {f : α → List Expr} (hf : ∀ {a x}, x ∈ f a → sizeOf x < sizeOf a)
    {l : List α} {x : Expr} (h : x ∈ l.flatMap f) : sizeOf x < sizeOf l := by
  obtain ⟨a, ha, hx⟩ := List.mem_flatMap.1 h
  exact Nat.lt_trans (hf hx) (List.sizeOf_lt_of_mem ha)

theorem sizeOf_of_mem_toList {o : Option Expr} {x : Expr} (h : x ∈ o.toList) : sizeOf x < sizeOf o := by
  rw [Option.mem_toList] at h
  cases h
  rw [Option.some.sizeOf_spec]
  omega

theorem DictItem.sizeOf_exprs {i : DictItem} {x : Expr} (h : x ∈ i.exprs) : sizeOf x < sizeOf i := by
  cases i <;> simp only [exprs, List.mem_cons, List.not_mem_nil, or_false] at h <;>
    simp only [entry.sizeOf_spec, spread.sizeOf_spec] <;> grind

theorem Comparison.sizeOf_exprs {c : Comparison} {x : Expr} (h : x ∈ c.exprs) : sizeOf x < sizeOf c := by
  cases c
  cases List.mem_singleton.1 h
  rw [mk.sizeOf_spec]
  omega

theorem Argument.sizeOf_exprs {a : Argument} {x : Expr} (h : x ∈ a.exprs) : sizeOf x < sizeOf a := by
  cases a <;> cases List.mem_singleton.1 h <;> simp only [keyword.sizeOf_spec, spread.sizeOf_spec] <;> omega

theorem ForClause.sizeOf_exprs {c : ForClause} {x : Expr} (h : x ∈ c.exprs) : sizeOf x < sizeOf c := by
  cases c with
  | mk isAsync target iter conditions =>
    rw [mk.sizeOf_spec]
    rcases List.mem_cons.1 h with rfl | h
    · omega
    · rcases List.mem_cons.1 h with rfl | h
      · omega
      · have := List.sizeOf_lt_of_mem h
        omega

theorem Param.sizeOf_exprs {p : Param} {x : Expr} (h : x ∈ p.exprs) : sizeOf x < sizeOf p := by
  cases p with
  | mk name hint =>
    have : sizeOf x < sizeOf hint := sizeOf_of_mem_toList h
    rw [mk.sizeOf_spec]
    omega

theorem Params.sizeOf_exprs {ps : Params} {x : Expr} (h : x ∈ ps.exprs) : sizeOf x < sizeOf ps := by
  have hparams : ∀ {l : List Param}, x ∈ l.flatMap Param.exprs → sizeOf x < sizeOf l :=
    sizeOf_of_mem_flatMap Param.sizeOf_exprs
  have hparam : ∀ {o : Option Param}, x ∈ o.toList.flatMap Param.exprs → sizeOf x < sizeOf o := fun {o} ho => by
    cases o with
    | none => cases ho
    | some p =>
      have hp : x ∈ p.exprs := by simpa using ho
      have := Param.sizeOf_exprs hp
      rw [Option.some.sizeOf_spec]
      omega
  have hdefaults : ∀ {l : List (Option Expr)}, x ∈ l.flatMap Option.toList → sizeOf x < sizeOf l :=
    sizeOf_of_mem_flatMap sizeOf_of_mem_toList
  cases ps
  simp only [exprs, List.mem_append] at h
  rw [mk.sizeOf_spec]
  rcases h with (((((h | h) | h) | h) | h) | h) | h
  · have := hparams h
    omega
  · have := hparams h
    omega
  · have := hparam h
    omega
  · have := hparams h
    omega
  · have := hdefaults h
    omega
  · have := hparam h
    omega
  · have := List.sizeOf_lt_of_mem h
    omega

theorem Expr.sizeOf_inner {e x : Expr} (h : x ∈ e.inner) : sizeOf x < sizeOf e := by
  have hin : ∀ {l : List Expr}, x ∈ l → sizeOf x < sizeOf l := List.sizeOf_lt_of_mem
  have hclauses : ∀ {l : List ForClause}, x ∈ l.flatMap ForClause.exprs → sizeOf x < sizeOf l :=
    sizeOf_of_mem_flatMap ForClause.sizeOf_exprs
  cases e with
  | boolOp | set | joined | list | tuple =>
    simp only [inner] at h
    have := hin h
    simp only [boolOp.sizeOf_spec, set.sizeOf_spec, joined.sizeOf_spec, list.sizeOf_spec, tuple.sizeOf_spec]
    omega
  | lambda =>
    simp only [inner, List.mem_append, List.mem_singleton] at h
    have := h.imp Params.sizeOf_exprs id
    simp only [lambda.sizeOf_spec]
    grind
  | dict =>
    have := sizeOf_of_mem_flatMap DictItem.sizeOf_exprs h
    rw [dict.sizeOf_spec]
    omega
  | listComp | setComp | dictComp | generator =>
    simp only [inner, List.mem_cons] at h
    simp only [listComp.sizeOf_spec, setComp.sizeOf_spec, dictComp.sizeOf_spec, generator.sizeOf_spec]
    grind
  | yield =>
    have := sizeOf_of_mem_toList h
    rw [yield.sizeOf_spec]
    omega
  | compare =>
    simp only [inner, List.mem_cons] at h
    have := h.imp id (sizeOf_of_mem_flatMap Comparison.sizeOf_exprs)
    rw [compare.sizeOf_spec]
    grind
  | call =>
    simp only [inner, List.cons_append, List.mem_cons, List.mem_append] at h
    have := h.imp id (Or.imp hin (sizeOf_of_mem_flatMap Argument.sizeOf_exprs))
    rw [call.sizeOf_spec]
    grind
  | formatted =>
    simp only [inner, List.mem_cons] at h
    have := h.imp id sizeOf_of_mem_toList
    rw [formatted.sizeOf_spec]
    grind
  | slice =>
    simp only [inner, List.mem_append] at h
    have := h.imp (Or.imp sizeOf_of_mem_toList sizeOf_of_mem_toList) sizeOf_of_mem_toList
    rw [slice.sizeOf_spec]
    omega
  | literal | name => cases h
  | _ =>
    simp only [inner, List.mem_cons, List.not_mem_nil, or_false] at h
    simp only [named.sizeOf_spec, binOp.sizeOf_spec, unary.sizeOf_spec, ifExp.sizeOf_spec, await.sizeOf_spec,
      yieldFrom.sizeOf_spec, attribute.sizeOf_spec, subscript.sizeOf_spec, starred.sizeOf_spec]
    grind

/-- **What passes from the expressions inside an expression to it holds of every expression.** -/
theorem Expr.inner_induction {P : Expr → Prop} (h : ∀ e, (∀ x ∈ e.inner, P x) → P e) (e : Expr) : P e :=
  h e fun x _ => Expr.inner_induction h x
termination_by sizeOf e
decreasing_by exact Expr.sizeOf_inner ‹_›

def Expr.within (e : Expr) : List Expr := e :: e.inner.attach.flatMap fun x => x.1.within
termination_by sizeOf e
decreasing_by exact Expr.sizeOf_inner x.2

theorem Expr.within_eq (e : Expr) : e.within = e :: e.inner.flatMap Expr.within := by
  rw [within]
  simp

/-! ## Lambdas -/

/-- The expressions directly inside an expression that wait for a call: the body of a lambda. -/
def Expr.deferred : Expr → List Expr
  | .lambda _ body => [body]
  | _ => []

/-- The expressions directly inside an expression that do not wait for a call. -/
def Expr.prompt : Expr → List Expr
  | .lambda params _ => params.exprs
  | e => e.inner

theorem Expr.mem_inner_iff {e x : Expr} : x ∈ e.inner ↔ x ∈ e.prompt ∨ x ∈ e.deferred := by
  cases e with
  | lambda params body => exact List.mem_append
  | _ => exact (or_iff_left List.not_mem_nil).symm

/-- An expression and those anywhere inside it that are in the body of no lambda in it. -/
def Expr.present (e : Expr) : List Expr := e :: e.prompt.attach.flatMap fun x => x.1.present
termination_by sizeOf e
decreasing_by exact Expr.sizeOf_inner (Expr.mem_inner_iff.2 (.inl x.2))

theorem Expr.present_eq (e : Expr) : e.present = e :: e.prompt.flatMap Expr.present := by
  rw [present]
  simp

/-- **What is inside an expression** is outside the lambdas in it or in the body of one of them. -/
theorem Expr.mem_within_iff {e y : Expr} :
    y ∈ e.within ↔ y ∈ e.present ∨ ∃ l ∈ e.present, ∃ b ∈ l.deferred, y ∈ b.within := by
  induction e using Expr.inner_induction with
  | h e ih =>
    have hprompt : ∀ x ∈ e.prompt,
        (y ∈ x.within ↔ y ∈ x.present ∨ ∃ l ∈ x.present, ∃ b ∈ l.deferred, y ∈ b.within) :=
      fun x hx => ih x (mem_inner_iff.2 (.inl hx))
    rw [within_eq, present_eq]
    simp only [List.mem_cons, List.mem_flatMap, mem_inner_iff, exists_eq_or_imp]
    constructor
    · rintro (rfl | ⟨x, hx | hx, hy⟩)
      · exact .inl (.inl rfl)
      · rcases (hprompt x hx).1 hy with hy | ⟨l, hl, hb⟩
        · exact .inl (.inr ⟨x, hx, hy⟩)
        · exact .inr (.inr ⟨l, ⟨x, hx, hl⟩, hb⟩)
      · exact .inr (.inl ⟨x, hx, hy⟩)
    · rintro ((rfl | ⟨x, hx, hy⟩) | ⟨b, hb, hy⟩ | ⟨l, ⟨x, hx, hl⟩, hb⟩)
      · exact .inl rfl
      · exact .inr ⟨x, .inl hx, (hprompt x hx).2 (.inl hy)⟩
      · exact .inr ⟨b, .inr hb, hy⟩
      · exact .inr ⟨x, .inl hx, (hprompt x hx).2 (.inr ⟨l, hl, hb⟩)⟩

/-! ## The expressions of a statement -/

mutual

/-- The expressions in a pattern. -/
def Pattern.exprs : Pattern → List Expr
  | .value e => [e]
  | .singleton _ => []
  | .sequence ps => patternExprs ps
  | .mapping keys ps _ => keys ++ patternExprs ps
  | .classOf cls ps _ named => cls :: patternExprs ps ++ patternExprs named
  | .star _ => []
  | .capture none _ => []
  | .capture (some p) _ => p.exprs
  | .alternatives ps => patternExprs ps

def patternExprs : List Pattern → List Expr
  | [] => []
  | p :: ps => p.exprs ++ patternExprs ps

end

def WithItem.exprs (w : WithItem) : List Expr := w.context :: w.target.toList

def Case.exprs : Case → List Expr
  | .mk pattern guard _ => pattern.exprs ++ guard.toList

def Handler.exprs : Handler → List Expr
  | .mk type _ _ => type.toList

/-- The expressions of a statement that are in none of the statements inside it. -/
def Stmt.exprs : Stmt → List Expr
  | .funcDef _ _ _ params _ decorators returns => params.exprs ++ decorators ++ returns.toList
  | .classDef _ _ bases keywords _ decorators => bases ++ keywords.flatMap Argument.exprs ++ decorators
  | .ret value => value.toList
  | .delete targets => targets
  | .assign targets value => targets ++ [value]
  | .augAssign target _ value => [target, value]
  | .annAssign target hint value => target :: hint :: value.toList
  | .forLoop _ target iter _ _ => [target, iter]
  | .whileLoop test _ _ => [test]
  | .ifElse test _ _ => [test]
  | .withBlock _ items _ => items.flatMap WithItem.exprs
  | .matchCases subject cases => subject :: cases.flatMap Case.exprs
  | .raise exc cause => exc.toList ++ cause.toList
  | .tryExcept _ _ handlers _ _ => handlers.flatMap Handler.exprs
  | .assertion test msg => test :: msg.toList
  | .expr value => [value]
  | .importNames _ | .importFrom _ _ _ | .globalNames _ | .nonlocalNames _ | .pass | .breakLoop | .continueLoop => []

/-! ## Yields in a tree -/

def Label.isYield : Label → Bool
  | .yield => true
  | _ => false

def Expr.isYield : Expr → Bool
  | .yield _ => true
  | _ => false

def Expr.isYieldFrom : Expr → Bool
  | .yieldFrom _ => true
  | _ => false

def yieldsBelow (ns : List Node) : Bool := (Node.preorderOf ns).any fun m => m.label.isYield

/-- Whether a node for a `yield` is in a tree. -/
def Node.yields (n : Node) : Bool := n.preorder.any fun m => m.label.isYield

@[simp] theorem yieldsBelow_nil : yieldsBelow [] = false := rfl

@[simp] theorem yieldsBelow_cons (n : Node) (ns : List Node) : yieldsBelow (n :: ns) = (n.yields || yieldsBelow ns) := by
  simp [yieldsBelow, Node.preorderOf, Node.yields]

@[simp] theorem yieldsBelow_append (ns ms : List Node) : yieldsBelow (ns ++ ms) = (yieldsBelow ns || yieldsBelow ms) := by
  simp [yieldsBelow, Node.preorderOf_append]

@[simp] theorem Node.yields_mk (l : Label) (cs : List Node) : (Node.mk l cs).yields = (l.isYield || yieldsBelow cs) := by
  simp [Node.yields, Node.preorder, yieldsBelow, Node.label]

@[simp] theorem Node.yields_leaf : Node.leaf.yields = false := rfl

@[simp] theorem yieldsBelow_nodesOf (es : List Expr) : yieldsBelow (nodesOf es) = es.any fun e => e.node.yields := by
  induction es with
  | nil => rfl
  | cons e es ih => simp [nodesOf, ih]

@[simp] theorem yieldsBelow_optionNodes (o : Option Expr) :
    yieldsBelow (optionNodes o) = o.toList.any fun e => e.node.yields := by
  cases o <;> simp [optionNodes]

/-- The keys of a dictionary stand before its values. -/
theorem yieldsBelow_itemNodes (items : List DictItem) : (yieldsBelow (keyNodes items) || yieldsBelow (valueNodes items)) =
    (items.flatMap DictItem.exprs).any fun e => e.node.yields := by
  induction items with
  | nil => rfl
  | cons item rest ih =>
    cases item with
    | entry key value =>
      simp only [keyNodes, valueNodes, yieldsBelow_cons, List.flatMap_cons, DictItem.exprs, List.any_append, List.any_cons,
        List.any_nil, ← ih]
      grind
    | spread value =>
      simp only [keyNodes, valueNodes, yieldsBelow_cons, List.flatMap_cons, DictItem.exprs, List.any_append, List.any_cons,
        List.any_nil, ← ih]
      grind

@[simp] theorem yieldsBelow_comparisonNodes (rest : List Comparison) :
    yieldsBelow (comparisonNodes rest) = (rest.flatMap Comparison.exprs).any fun e => e.node.yields := by
  induction rest with
  | nil => rfl
  | cons comparison rest ih =>
    cases comparison
    simp [comparisonNodes, ih, Comparison.exprs]

@[simp] theorem yieldsBelow_argumentNodes (args : List Argument) :
    yieldsBelow (argumentNodes args) = (args.flatMap Argument.exprs).any fun e => e.node.yields := by
  induction args with
  | nil => rfl
  | cons arg rest ih => cases arg <;> simp [argumentNodes, ih, Argument.exprs, Label.isYield]

@[simp] theorem yieldsBelow_clauseNodes (clauses : List ForClause) :
    yieldsBelow (clauseNodes clauses) = (clauses.flatMap ForClause.exprs).any fun e => e.node.yields := by
  induction clauses with
  | nil => rfl
  | cons clause rest ih =>
    cases clause
    simp [clauseNodes, ih, ForClause.exprs, Label.isYield, Bool.or_assoc]

@[simp] theorem yieldsBelow_paramNodes (ps : List Param) :
    yieldsBelow (paramNodes ps) = (ps.flatMap Param.exprs).any fun e => e.node.yields := by
  induction ps with
  | nil => rfl
  | cons p rest ih =>
    cases p
    simp [paramNodes, ih, Param.exprs, Param.hint, Label.isYield]

@[simp] theorem yieldsBelow_paramNode? (p : Option Param) :
    yieldsBelow (paramNode? p) = (p.toList.flatMap Param.exprs).any fun e => e.node.yields := by
  rcases p with _ | ⟨name, hint⟩ <;> simp [paramNode?, Param.exprs, Param.hint, Label.isYield]

@[simp] theorem yieldsBelow_defaultNodes (es : List (Option Expr)) :
    yieldsBelow (defaultNodes es) = (es.flatMap Option.toList).any fun e => e.node.yields := by
  induction es with
  | nil => rfl
  | cons e rest ih => cases e <;> simp [defaultNodes, ih]

@[simp] theorem Params.yields_node (ps : Params) : ps.node.yields = ps.exprs.any fun e => e.node.yields := by
  cases ps
  simp [Params.node, Params.exprs, Label.isYield]

theorem Expr.yields_node (e : Expr) : e.node.yields = (e.isYield || e.inner.any fun x => x.node.yields) := by
  cases e with
  | dict items =>
    have hitems := yieldsBelow_itemNodes items
    rw [← yieldsBelow_append] at hitems
    rw [Expr.node, Node.yields_mk, hitems]
    rfl
  | _ => simp [Expr.node, Expr.inner, Expr.isYield, Label.isYield]

/-- **A tree of an expression has a node for each `yield` in it.** -/
theorem Expr.yields_node_iff (e : Expr) : e.node.yields = true ↔ ∃ y ∈ e.within, y.isYield = true := by
  induction e using Expr.inner_induction with
  | h e ih =>
    rw [e.yields_node, e.within_eq, Bool.or_eq_true, List.any_eq_true]
    simp only [List.mem_cons, List.mem_flatMap, exists_eq_or_imp]
    refine or_congr_right ⟨?_, ?_⟩
    · rintro ⟨x, hx, hyield⟩
      obtain ⟨y, hy, hyield⟩ := (ih x hx).1 hyield
      exact ⟨y, ⟨x, hx, hy⟩, hyield⟩
    · rintro ⟨y, ⟨x, hx, hy⟩, hyield⟩
      exact ⟨x, hx, (ih x hx).2 ⟨y, hy, hyield⟩⟩

mutual

@[simp] theorem Pattern.yields_node : ∀ (p : Pattern), p.node.yields = p.exprs.any fun e => e.node.yields
  | .value e => by simp [Pattern.node, Pattern.exprs, Label.isYield]
  | .singleton _ => by simp [Pattern.node, Pattern.exprs]
  | .sequence ps => by simp [Pattern.node, Pattern.exprs, Label.isYield, yieldsBelow_patternNodes ps]
  | .mapping keys ps _ => by simp [Pattern.node, Pattern.exprs, Label.isYield, yieldsBelow_patternNodes ps]
  | .classOf cls ps _ named => by
    simp [Pattern.node, Pattern.exprs, Label.isYield, yieldsBelow_patternNodes ps, yieldsBelow_patternNodes named]
  | .star _ => by simp [Pattern.node, Pattern.exprs]
  | .capture none _ => by simp [Pattern.node, Pattern.exprs]
  | .capture (some p) _ => by simp [Pattern.node, Pattern.exprs, Label.isYield, p.yields_node]
  | .alternatives ps => by simp [Pattern.node, Pattern.exprs, Label.isYield, yieldsBelow_patternNodes ps]

theorem yieldsBelow_patternNodes : ∀ (ps : List Pattern),
    yieldsBelow (patternNodes ps) = (patternExprs ps).any fun e => e.node.yields
  | [] => rfl
  | p :: ps => by simp [patternNodes, patternExprs, p.yields_node, yieldsBelow_patternNodes ps]

end

@[simp] theorem yieldsBelow_withNodes : ∀ (items : List WithItem),
    yieldsBelow (items.map WithItem.node) = (items.flatMap WithItem.exprs).any fun e => e.node.yields
  | [] => rfl
  | item :: items => by simp [WithItem.node, WithItem.exprs, Label.isYield, yieldsBelow_withNodes items, Bool.or_assoc]

@[simp] theorem yieldsBelow_stmtNodes (ss : List Stmt) : yieldsBelow (stmtNodes ss) = ss.any fun s => s.node.yields := by
  induction ss with
  | nil => rfl
  | cons s ss ih => simp [stmtNodes, ih]

theorem yieldsBelow_caseNodes (cs : List Case) : yieldsBelow (caseNodes cs) =
    (((cs.flatMap Case.exprs).any fun e => e.node.yields) || (cs.flatMap Case.body).any fun s => s.node.yields) := by
  induction cs with
  | nil => rfl
  | cons c rest ih =>
    obtain ⟨pattern, guard, body⟩ := c
    simp only [caseNodes, yieldsBelow_cons, Node.yields_mk, Label.isYield, List.cons_append, yieldsBelow_append,
      Pattern.yields_node, yieldsBelow_optionNodes, yieldsBelow_stmtNodes, ih, List.flatMap_cons, Case.exprs, Case.body,
      List.any_append]
    grind

theorem yieldsBelow_handlerNodes (handlers : List Handler) : yieldsBelow (handlerNodes handlers) =
    (((handlers.flatMap Handler.exprs).any fun e => e.node.yields) ||
      (handlers.flatMap Handler.body).any fun s => s.node.yields) := by
  induction handlers with
  | nil => rfl
  | cons handler rest ih =>
    obtain ⟨type, name, body⟩ := handler
    simp only [handlerNodes, yieldsBelow_cons, Node.yields_mk, Label.isYield, yieldsBelow_append,
      yieldsBelow_optionNodes, yieldsBelow_stmtNodes, ih, List.flatMap_cons, Handler.exprs, Handler.body, List.any_append]
    grind

theorem Stmt.yields_node (s : Stmt) :
    s.node.yields = ((s.exprs.any fun e => e.node.yields) || s.inner.any fun x => x.node.yields) := by
  cases s with
  | funcDef | classDef | tryExcept =>
    simp only [Stmt.node, Node.yields_mk, List.cons_append, yieldsBelow_cons, yieldsBelow_append, Params.yields_node,
      yieldsBelow_nodesOf, yieldsBelow_optionNodes, yieldsBelow_argumentNodes, yieldsBelow_stmtNodes,
      yieldsBelow_handlerNodes, Stmt.exprs, Stmt.inner, List.any_append, Label.isYield]
    grind
  | matchCases subject cases =>
    simp [Stmt.node, Stmt.exprs, Stmt.inner, Label.isYield, yieldsBelow_caseNodes, Bool.or_assoc]
  | forLoop isAsync | withBlock isAsync =>
    cases isAsync <;> simp [Stmt.node, Stmt.exprs, Stmt.inner, Label.isYield, Bool.or_assoc]
  | _ => simp [Stmt.node, Stmt.exprs, Stmt.inner, Label.isYield]

/-- A `yield` is anywhere in some expressions. -/
def Yielding (es : List Expr) : Prop := ∃ e ∈ es, ∃ y ∈ e.within, y.isYield = true

/-- **A tree of a statement has a node for each `yield` in the expressions of the statements in it.** -/
theorem Stmt.yields_node_iff (s : Stmt) : s.node.yields = true ↔ Yielding (s.endings.flatMap Stmt.exprs) := by
  have hexprs : ∀ x : Stmt, (x.exprs.any fun e => e.node.yields) = true ↔ Yielding x.exprs := fun x => by
    simp only [List.any_eq_true, Expr.yields_node_iff, Yielding]
  induction s using Stmt.inner_induction with
  | h s ih =>
    rw [s.yields_node, s.endings_eq, Bool.or_eq_true, hexprs, List.any_eq_true]
    unfold Yielding
    simp only [List.flatMap_append, List.flatMap_singleton, List.mem_append, List.mem_flatMap, or_and_right, exists_or]
    rw [or_comm]
    refine or_congr_left ⟨?_, ?_⟩
    · rintro ⟨x, hx, hyield⟩
      obtain ⟨e, he, hy⟩ := (ih x hx).1 hyield
      obtain ⟨t, ht, he⟩ := List.mem_flatMap.1 he
      exact ⟨e, ⟨t, ⟨x, hx, ht⟩, he⟩, hy⟩
    · rintro ⟨e, ⟨t, ⟨x, hx, ht⟩, he⟩, hy⟩
      exact ⟨x, hx, (ih x hx).2 ⟨e, List.mem_flatMap.2 ⟨t, ht, he⟩, hy⟩⟩

end Source
end DocReview
