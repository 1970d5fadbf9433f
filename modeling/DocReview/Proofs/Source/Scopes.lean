import Mathlib.Data.List.Perm.Basic
import DocReview.Proofs.Source.Subexpressions
/-!
# Scopes — what is in a statement itself, and what is behind something in it

Some statements may be shut: such a statement is met, and those inside it are not (`Stmt.reached`).  With the definitions
shut, what is met in a function is its own scope.  The statements anywhere inside are those that are met and those behind
one that is shut (`endings_perm_reached`).  To replace the blocks of the functions that are shut by a `pass` takes away what
is behind them, and nothing else (`flatMap_endings_emptied`).
-/
namespace DocReview
namespace Source

/-! ## Statements that are met -/

def Stmt.opened (shut : Stmt → Bool) (s : Stmt) : List Stmt := if shut s then [] else s.inner

theorem Stmt.mem_inner_of_opened {shut : Stmt → Bool} {s x : Stmt} (h : x ∈ s.opened shut) : x ∈ s.inner := by
  unfold opened at h
  split at h
  · cases h
  · exact h

/-- A statement and those anywhere inside it that are not inside one that is shut. -/
def Stmt.reached (shut : Stmt → Bool) (s : Stmt) : List Stmt := s :: (s.opened shut).attach.flatMap fun x => x.1.reached shut
termination_by sizeOf s
decreasing_by exact Stmt.sizeOf_inner (Stmt.mem_inner_of_opened x.2)

theorem Stmt.reached_eq (shut : Stmt → Bool) (s : Stmt) :
    s.reached shut = s :: (s.opened shut).flatMap (Stmt.reached shut) := by
  rw [reached]
  simp

def Stmt.behind (shut : Stmt → Bool) (s : Stmt) : List Stmt := if shut s then s.inner.flatMap Stmt.endings else []

theorem flatMap_endings_perm {shut : Stmt → Bool} {ss : List Stmt}
    (h : ∀ s ∈ ss, s.endings.Perm (s.reached shut ++ (s.reached shut).flatMap (Stmt.behind shut))) :
    (ss.flatMap Stmt.endings).Perm
      (ss.flatMap (Stmt.reached shut) ++ (ss.flatMap (Stmt.reached shut)).flatMap (Stmt.behind shut)) := by
  rw [List.flatMap_assoc]
  exact (List.Perm.flatMap_left ss h).trans (List.flatMap_append_perm ss _ _).symm

theorem Stmt.endings_perm_reached (shut : Stmt → Bool) (s : Stmt) :
    s.endings.Perm (s.reached shut ++ (s.reached shut).flatMap (Stmt.behind shut)) := by
  induction s using Stmt.inner_induction with
  | h s ih =>
    rw [s.endings_eq, s.reached_eq, List.flatMap_cons]
    by_cases hs : shut s = true
    · -- nothing inside is met, and all of it is behind the statement
      rw [opened, behind, if_pos hs, if_pos hs, List.flatMap_nil, List.flatMap_nil, List.append_nil]
      exact List.perm_append_comm
    · rw [opened, behind, if_neg hs, if_neg hs, List.nil_append, List.cons_append]
      exact List.perm_append_comm.trans ((flatMap_endings_perm ih).cons s)

/-- **The statements anywhere inside some statements** are those that are met and those behind one of them. -/
theorem endings_perm_reached (shut : Stmt → Bool) (ss : List Stmt) :
    (ss.flatMap Stmt.endings).Perm
      (ss.flatMap (Stmt.reached shut) ++ (ss.flatMap (Stmt.reached shut)).flatMap (Stmt.behind shut)) :=
  flatMap_endings_perm fun s _ => s.endings_perm_reached shut

/-! ## Functions without their blocks -/

def Stmt.isFunction : Stmt → Bool
  | .funcDef .. => true
  | _ => false

def Stmt.isDefinition : Stmt → Bool
  | .funcDef .. | .classDef .. => true
  | _ => false

mutual

/-- A statement in which the blocks of some functions are replaced by a `pass`. -/
def Stmt.emptied (chosen : Stmt → Bool) : Stmt → Stmt
  | .funcDef isAsync span name params body decorators returns =>
    .funcDef isAsync span name params
      (if chosen (.funcDef isAsync span name params body decorators returns) then [.pass] else emptiedAll chosen body)
      decorators returns
  | .classDef span name bases keywords body decorators =>
    .classDef span name bases keywords (emptiedAll chosen body) decorators
  | .forLoop isAsync target iter body orelse =>
    .forLoop isAsync target iter (emptiedAll chosen body) (emptiedAll chosen orelse)
  | .whileLoop test body orelse => .whileLoop test (emptiedAll chosen body) (emptiedAll chosen orelse)
  | .ifElse test body orelse => .ifElse test (emptiedAll chosen body) (emptiedAll chosen orelse)
  | .withBlock isAsync items body => .withBlock isAsync items (emptiedAll chosen body)
  | .matchCases subject cases => .matchCases subject (emptiedCases chosen cases)
  | .tryExcept grouped body handlers orelse final =>
    .tryExcept grouped (emptiedAll chosen body) (emptiedHandlers chosen handlers) (emptiedAll chosen orelse)
      (emptiedAll chosen final)
  | s => s

def emptiedAll (chosen : Stmt → Bool) : List Stmt → List Stmt
  | [] => []
  | s :: ss => s.emptied chosen :: emptiedAll chosen ss

def emptiedCases (chosen : Stmt → Bool) : List Case → List Case
  | [] => []
  | .mk pattern guard body :: rest => .mk pattern guard (emptiedAll chosen body) :: emptiedCases chosen rest

def emptiedHandlers (chosen : Stmt → Bool) : List Handler → List Handler
  | [] => []
  | .mk type name body :: rest => .mk type name (emptiedAll chosen body) :: emptiedHandlers chosen rest

end

section Emptied

variable (chosen : Stmt → Bool)

theorem emptiedAll_eq_map (ss : List Stmt) : emptiedAll chosen ss = ss.map (Stmt.emptied chosen) := by
  induction ss with
  | nil => rfl
  | cons s ss ih => rw [emptiedAll, ih, List.map_cons]

theorem body_emptiedCases (cs : List Case) :
    (emptiedCases chosen cs).flatMap Case.body = (cs.flatMap Case.body).map (Stmt.emptied chosen) := by
  induction cs with
  | nil => rfl
  | cons c rest ih =>
    obtain ⟨pattern, guard, body⟩ := c
    rw [emptiedCases, List.flatMap_cons, List.flatMap_cons, ih, List.map_append, Case.body, Case.body, emptiedAll_eq_map]

theorem exprs_emptiedCases (cs : List Case) : (emptiedCases chosen cs).flatMap Case.exprs = cs.flatMap Case.exprs := by
  induction cs with
  | nil => rfl
  | cons c rest ih =>
    obtain ⟨pattern, guard, body⟩ := c
    rw [emptiedCases, List.flatMap_cons, List.flatMap_cons, ih, Case.exprs, Case.exprs]

theorem body_emptiedHandlers (handlers : List Handler) :
    (emptiedHandlers chosen handlers).flatMap Handler.body = (handlers.flatMap Handler.body).map (Stmt.emptied chosen) := by
  induction handlers with
  | nil => rfl
  | cons handler rest ih =>
    obtain ⟨type, name, body⟩ := handler
    rw [emptiedHandlers, List.flatMap_cons, List.flatMap_cons, ih, List.map_append, Handler.body, Handler.body,
      emptiedAll_eq_map]

theorem exprs_emptiedHandlers (handlers : List Handler) :
    (emptiedHandlers chosen handlers).flatMap Handler.exprs = handlers.flatMap Handler.exprs := by
  induction handlers with
  | nil => rfl
  | cons handler rest ih =>
    obtain ⟨type, name, body⟩ := handler
    rw [emptiedHandlers, List.flatMap_cons, List.flatMap_cons, ih, Handler.exprs, Handler.exprs]

/-- The functions that are chosen are shut. -/
def shutFunctions (s : Stmt) : Bool := s.isFunction && chosen s

theorem Stmt.inner_emptied (s : Stmt) :
    (s.emptied chosen).inner = if shutFunctions chosen s then [.pass] else s.inner.map (Stmt.emptied chosen) := by
  cases s with
  | funcDef isAsync span name params body decorators returns =>
    simp only [emptied, inner, shutFunctions, isFunction, Bool.true_and, emptiedAll_eq_map]
  | _ =>
    simp [emptied, inner, shutFunctions, isFunction, emptiedAll_eq_map, body_emptiedCases, body_emptiedHandlers]

theorem Stmt.exprs_emptied (s : Stmt) : (s.emptied chosen).exprs = s.exprs := by
  cases s with
  | matchCases => simp only [emptied, exprs, exprs_emptiedCases]
  | tryExcept => simp only [emptied, exprs, exprs_emptiedHandlers]
  | _ => rfl

/-- **To empty functions takes away what is behind them.** What is read off each statement by itself, and is nothing for a
`pass`, is afterwards what is read off the statements that are met. -/
theorem Stmt.flatMap_endings_emptied {α : Type} {g : Stmt → List α} (hpass : g .pass = [])
    (hkept : ∀ s : Stmt, g (s.emptied chosen) = g s) (s : Stmt) :
    ((s.emptied chosen).endings.flatMap g).Perm ((s.reached (shutFunctions chosen)).flatMap g) := by
  induction s using Stmt.inner_induction with
  | h s ih =>
    rw [endings_eq, inner_emptied, reached_eq, List.flatMap_append, List.flatMap_singleton, hkept, List.flatMap_cons]
    refine List.perm_append_comm.trans (List.Perm.append_left _ ?_)
    unfold opened
    split
    · have hpassed : Stmt.pass.endings = [.pass] := by rw [endings_eq]; rfl
      simp [hpassed, hpass]
    · rw [List.flatMap_map, List.flatMap_assoc, List.flatMap_assoc]
      exact List.Perm.flatMap_left _ ih

end Emptied

end Source
end DocReview
