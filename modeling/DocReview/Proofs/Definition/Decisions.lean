import Mathlib.Algebra.GroupWithZero.Nat
import DocReview.Definition.Measure
import DocReview.Proofs.Source.Bodies
/-!
# Decisions — where the decision points of a program are counted

A visit carries one score through the tree of a program, and puts it aside at each plain function.  What it finds is read
off the statements (`visit_node`): the plain functions in the order in which they end, each with the decision points that
are in it and in no plain function inside it.  So every plain function of the tree is listed once
(`names_cyclomatic_perm`), and every decision point is counted for the innermost plain function around it, or is outside of
all of them (`excess_endings`).
-/
namespace DocReview
namespace Source

/-! ## Decision points of statements -/

/-- The statements directly inside a statement, unless it is a plain function. -/
def Stmt.alongside : Stmt → List Stmt
  | .funcDef false _ _ _ _ _ _ => []
  | s => s.inner

theorem Stmt.mem_inner_of_alongside {s x : Stmt} (h : x ∈ s.alongside) : x ∈ s.inner := by
  unfold alongside at h
  split at h
  · cases h
  · exact h

/-- A statement and those anywhere inside it that are in no plain function inside it; of a plain function, the statement
alone. -/
def Stmt.entered (s : Stmt) : List Stmt := s :: s.alongside.attach.flatMap fun x => x.1.entered
termination_by sizeOf s
decreasing_by exact Stmt.sizeOf_inner (Stmt.mem_inner_of_alongside x.2)

theorem Stmt.entered_eq (s : Stmt) : s.entered = s :: s.alongside.flatMap Stmt.entered := by
  rw [entered]
  simp

/-- The decision points that a statement is by itself: a branch or a loop is one, and a `try` is one for each handler. -/
def Stmt.decisions : Stmt → Nat
  | .ifElse .. | .whileLoop .. => 1
  | .forLoop isAsync .. => if isAsync then 0 else 1
  | .tryExcept grouped _ handlers _ _ => if grouped then 0 else handlers.length
  | _ => 0

/-- The decision points that some statements are by themselves. -/
def decisions (ss : List Stmt) : Nat := (ss.map Stmt.decisions).sum

@[simp] theorem decisions_nil : decisions [] = 0 := rfl

@[simp] theorem decisions_cons (s : Stmt) (ss : List Stmt) : decisions (s :: ss) = s.decisions + decisions ss := by
  simp [decisions]

@[simp] theorem decisions_append (ss ts : List Stmt) : decisions (ss ++ ts) = decisions ss + decisions ts := by
  simp [decisions]

/-! ## Decision points of a tree -/

/-- The decision points that a node is by itself. -/
def Label.decisions : Label → Nat
  | .ifElse | .forLoop | .whileLoop => 1
  | .tryExcept handlers => handlers
  | _ => 0

/-- The name of a plain function. -/
def Label.functionName? : Label → Option String
  | .function false name _ _ => some name
  | _ => none

theorem Stmt.decisions_label (s : Stmt) : s.node.label.decisions = s.decisions := by
  cases s with
  | forLoop isAsync => cases isAsync <;> rfl
  | withBlock isAsync => cases isAsync <;> rfl
  | tryExcept grouped => cases grouped <;> rfl
  | _ => rfl

theorem Label.decisions_of_isStatement {l : Label} (h : l.isStatement = false) : l.decisions = 0 := by
  cases l with
  | ifElse | forLoop | whileLoop | tryExcept => cases h
  | _ => rfl

theorem Label.functionName?_of_isStatement {l : Label} (h : l.isStatement = false) : l.functionName? = none := by
  cases l with
  | function => cases h
  | _ => rfl

theorem sum_decisions_filter : ∀ (ls : List Label),
    ((ls.filter Label.isStatement).map Label.decisions).sum = (ls.map Label.decisions).sum
  | [] => rfl
  | l :: ls => by
    have ih := sum_decisions_filter ls
    cases hl : l.isStatement with
    | true => rw [List.filter_cons_of_pos hl, List.map_cons, List.map_cons, List.sum_cons, List.sum_cons, ih]
    | false =>
      rw [List.filter_cons_of_neg (by rw [hl]; exact Bool.false_ne_true), List.map_cons, List.sum_cons, ih,
        Label.decisions_of_isStatement hl, Nat.zero_add]

theorem filterMap_functionName?_filter : ∀ (ls : List Label),
    (ls.filter Label.isStatement).filterMap Label.functionName? = ls.filterMap Label.functionName?
  | [] => rfl
  | l :: ls => by
    have ih := filterMap_functionName?_filter ls
    cases hl : l.isStatement with
    | true => rw [List.filter_cons_of_pos hl, List.filterMap_cons, List.filterMap_cons, ih]
    | false =>
      rw [List.filter_cons_of_neg (by rw [hl]; exact Bool.false_ne_true),
        List.filterMap_cons_none (Label.functionName?_of_isStatement hl), ih]

/-- **The decision points of a tree are those of its statements.** -/
theorem sum_decisions_walk (body : List Stmt) :
    ((programNode body).walk.map fun n => n.label.decisions).sum = decisions (body.flatMap Stmt.endings) := by
  have hperm := ((statementLabels_walk body).map Label.decisions).sum_nat
  rw [sum_decisions_filter, sum_decisions_filter, List.map_map, List.map_map] at hperm
  unfold decisions
  rw [← funext Stmt.decisions_label]
  exact hperm

end Source

namespace Definition

open Source

/-! ## What a visit does at a node -/

/-- Where no plain function starts, a visit counts the node and goes on with what is below. -/
theorem visit_of_ne_function {l : Label} (hl : l.functionName? = none) (cs : List Node) (t : Tally) :
    visit (.mk l cs) t = visitAll cs ⟨t.ended, t.score + l.decisions⟩ := by
  cases l with
  | function isAsync name line size =>
    cases isAsync with
    | false => cases hl
    | true => rw [visit] <;> first | rfl | exact nofun
  | _ => rw [visit] <;> first | rfl | exact nofun

theorem visitAll_append : ∀ (ns ms : List Node) (t : Tally), visitAll (ns ++ ms) t = visitAll ms (visitAll ns t)
  | [], _, _ => rfl
  | n :: ns, ms, t => by rw [List.cons_append, visitAll, visitAll, visitAll_append ns ms]

mutual

theorem visit_of_count : ∀ {n : Node}, n.count Label.isStatement = 0 → ∀ t : Tally, visit n t = t
  | .mk l cs, h, t => by
    rw [Node.count_mk] at h
    have hl : l.isStatement = false := Bool.eq_false_iff.2 fun hl => by
      rw [if_pos hl] at h
      omega
    rw [visit_of_ne_function (Label.functionName?_of_isStatement hl), Label.decisions_of_isStatement hl]
    exact visitAll_of_statementCount (by omega) t

theorem visitAll_of_statementCount : ∀ {ns : List Node}, statementCount ns = 0 → ∀ t : Tally, visitAll ns t = t
  | [], _, _ => rfl
  | n :: ns, h, t => by
    rw [statementCount_cons] at h
    have hn := visit_of_count (n := n) (by omega) t
    rw [visitAll, hn]
    exact visitAll_of_statementCount (by omega) t

end

theorem traverses_visitAll : Traverses visitAll where
  append := visitAll_append
  other cs t := visit_of_ne_function (l := .other) rfl cs t
  bare := visitAll_of_statementCount

/-! ## What a visit finds -/

/-- A plain function with one more than the decision points that are in it and in no plain function inside it. -/
def scored? : Stmt → Option Scored
  | .funcDef false _ name _ body _ _ => some ⟨name, 1 + decisions (body.flatMap Stmt.entered)⟩
  | _ => none

def scoresOf (ss : List Stmt) : List Scored := ss.filterMap scored?

theorem scoresOf_append (ss ts : List Stmt) : scoresOf (ss ++ ts) = scoresOf ss ++ scoresOf ts := List.filterMap_append

theorem name_scored? (s : Stmt) : (scored? s).map Scored.name = s.node.label.functionName? := by
  cases s with
  | funcDef isAsync => cases isAsync <;> rfl
  | forLoop isAsync => cases isAsync <;> rfl
  | withBlock isAsync => cases isAsync <;> rfl
  | tryExcept grouped => cases grouped <;> rfl
  | _ => rfl

/-- A statement is a plain function, or a visit goes on with what is inside it. -/
theorem function_or_alongside (s : Stmt) :
    (∃ span name params body decorators returns, s = .funcDef false span name params body decorators returns) ∨
      scored? s = none ∧ s.alongside = s.inner := by
  cases s with
  | funcDef isAsync span name params body decorators returns =>
    cases isAsync with
    | false => exact .inl ⟨span, name, params, body, decorators, returns, rfl⟩
    | true => exact .inr ⟨rfl, rfl⟩
  | _ => exact .inr ⟨rfl, rfl⟩

/-- What a visit has found after more functions have ended and more decision points were met. -/
def Tally.add (t : Tally) (ended : List Scored) (points : Nat) : Tally := ⟨t.ended ++ ended, t.score + points⟩

theorem Tally.add_add (t : Tally) (fs gs : List Scored) (m n : Nat) : (t.add fs m).add gs n = t.add (fs ++ gs) (m + n) := by
  simp [add, Nat.add_assoc]

theorem visitAll_stmtNodes : ∀ {ss : List Stmt},
    (∀ s ∈ ss, ∀ t : Tally, visit s.node t = t.add (scoresOf s.endings) (decisions s.entered)) → ∀ t : Tally,
      visitAll (stmtNodes ss) t = t.add (scoresOf (ss.flatMap Stmt.endings)) (decisions (ss.flatMap Stmt.entered))
  | [], _, t => by simp [stmtNodes, visitAll, Tally.add, scoresOf]
  | s :: ss, h, t => by
    have hs := h s List.mem_cons_self t
    have hss := visitAll_stmtNodes fun x hx => h x (List.mem_cons_of_mem s hx)
    rw [stmtNodes, visitAll, hs, hss, Tally.add_add, List.flatMap_cons, List.flatMap_cons, scoresOf_append, decisions_append]

theorem visit_of_scored?_none {s : Stmt} (hs : scored? s = none) (t : Tally) :
    visit s.node t = visitAll (stmtNodes s.inner) ⟨t.ended, t.score + s.decisions⟩ := by
  have hlabel : s.node.label.functionName? = none := by rw [← name_scored?, hs]; rfl
  rw [← traverses_visitAll.children, ← Stmt.decisions_label, ← visit_of_ne_function hlabel]
  cases s.node
  rfl

theorem visit_function (span : Span) (name : String) (params : Params) (body : List Stmt) (decorators : List Expr)
    (returns : Option Expr) (t : Tally) : visit (Stmt.funcDef false span name params body decorators returns).node t =
      ⟨(visitAll (stmtNodes body) ⟨t.ended, 1⟩).ended ++ [⟨name, (visitAll (stmtNodes body) ⟨t.ended, 1⟩).score⟩], t.score⟩ := by
  have hchildren := traverses_visitAll.children (.funcDef false span name params body decorators returns) ⟨t.ended, 1⟩
  rw [Stmt.inner] at hchildren
  rw [← hchildren]
  rfl

/-- **A visit of a statement finds the plain functions in it**, in the order in which they end, and the decision points that
are in none of them. -/
theorem visit_node (s : Stmt) : ∀ t : Tally, visit s.node t = t.add (scoresOf s.endings) (decisions s.entered) := by
  -- what is found inside is the same from every state, so that a function can start from a state of its own
  induction s using Stmt.inner_induction with
  | h s ih =>
    intro t
    have hinner := visitAll_stmtNodes ih
    rw [s.endings_eq, s.entered_eq, scoresOf_append, decisions_cons]
    rcases function_or_alongside s with ⟨span, name, params, body, decorators, returns, rfl⟩ | ⟨hscored, halong⟩
    · rw [Stmt.inner] at hinner
      rw [visit_function, hinner]
      simp [Tally.add, scoresOf, scored?, Stmt.inner, Stmt.alongside, Stmt.decisions]
    · rw [visit_of_scored?_none hscored, hinner, halong]
      simp [Tally.add, scoresOf, hscored, Nat.add_assoc]

theorem cyclomatic_eq (body : List Stmt) : cyclomatic (programNode body) = scoresOf (body.flatMap Stmt.endings) := by
  have hnodes : ∀ s ∈ body, ∀ t : Tally, visit s.node t = t.add (scoresOf s.endings) (decisions s.entered) :=
    fun s _ => visit_node s
  have hvisit := visitAll_stmtNodes hnodes ⟨[], 0⟩
  unfold cyclomatic programNode
  rw [visit_of_ne_function (l := .other) rfl]
  exact congrArg Tally.ended hvisit

/-- **Every plain function of a tree is listed once.** -/
theorem names_cyclomatic_perm (body : List Stmt) : ((cyclomatic (programNode body)).map Scored.name).Perm
    ((programNode body).walk.filterMap fun n => n.label.functionName?) := by
  have hwalk := (statementLabels_walk body).filterMap Label.functionName?
  rw [filterMap_functionName?_filter, filterMap_functionName?_filter, List.filterMap_map, List.filterMap_map] at hwalk
  rw [cyclomatic_eq, scoresOf, List.map_filterMap, funext name_scored?]
  exact hwalk.symm

/-! ## Where decision points are counted -/

def excess (fs : List Scored) : Nat := (fs.map fun f => f.score - 1).sum

theorem excess_append (fs gs : List Scored) : excess (fs ++ gs) = excess fs + excess gs := by
  simp [excess]

theorem excess_flatMap : ∀ {ss : List Stmt},
    (∀ s ∈ ss, excess (scoresOf s.endings) + decisions s.entered = decisions s.endings) →
      excess (scoresOf (ss.flatMap Stmt.endings)) + decisions (ss.flatMap Stmt.entered) = decisions (ss.flatMap Stmt.endings)
  | [], _ => rfl
  | s :: ss, h => by
    have hs := h s List.mem_cons_self
    have hss := excess_flatMap fun x hx => h x (List.mem_cons_of_mem s hx)
    rw [List.flatMap_cons, List.flatMap_cons, scoresOf_append, excess_append, decisions_append, decisions_append]
    omega

/-- **Every decision point in a statement is counted for a plain function in it, or is in none.** -/
theorem excess_endings (s : Stmt) : excess (scoresOf s.endings) + decisions s.entered = decisions s.endings := by
  induction s using Stmt.inner_induction with
  | h s ih =>
    have hinner := excess_flatMap ih
    rw [s.endings_eq, s.entered_eq, scoresOf_append, excess_append, decisions_cons, decisions_append]
    rcases function_or_alongside s with ⟨span, name, params, body, decorators, returns, rfl⟩ | ⟨hscored, halong⟩
    · -- the points next to the function become its own score, and outside of it there are none
      have hown : excess (scoresOf [.funcDef false span name params body decorators returns]) =
          decisions (body.flatMap Stmt.entered) := by simp [excess, scoresOf, scored?]
      rw [Stmt.inner] at hinner
      simp only [hown, Stmt.inner, Stmt.alongside, List.flatMap_nil, decisions_cons, decisions_nil]
      omega
    · have hown : excess (scoresOf [s]) = 0 := by simp [excess, scoresOf, hscored]
      rw [hown, halong, decisions_cons, decisions_nil]
      omega

/-- **A visit computes the cyclomatic complexity of every plain function.**  For the statements of any program, the visit
lists the plain functions anywhere in them in the order in which they end; each has one more than the decision points that
are in its body and in no plain function inside it.  The names are those of the plain functions of the tree, once for each;
and the points counted for the functions, with those outside of all functions, are all decision points of the tree. -/
theorem cyclomatic_counts_decisions (body : List Stmt) :
    cyclomatic (programNode body) = (body.flatMap Stmt.endings).filterMap scored? ∧
      ((cyclomatic (programNode body)).map Scored.name).Perm
        ((programNode body).walk.filterMap fun n => n.label.functionName?) ∧
      ((cyclomatic (programNode body)).map fun f => f.score - 1).sum + decisions (body.flatMap Stmt.entered) =
        ((programNode body).walk.map fun n => n.label.decisions).sum := by
  refine ⟨cyclomatic_eq body, names_cyclomatic_perm body, ?_⟩
  rw [sum_decisions_walk, cyclomatic_eq]
  exact excess_flatMap fun s _ => excess_endings s

end Definition
end DocReview
