import DocReview.Definition.Record
import DocReview.Proofs.Source.Scopes
/-!
# Contents — whose `raise` and `yield` the record of a function shows

A record is made by a walk over everything inside a function.  So `raises` lists what the function itself raises together
with what the definitions inside it raise (`raises_perm`), and `yields` is said for any `yield` inside it, also one in its
head, in a lambda or in a definition inside it, while a `yield from` does not count (`yields_iff`).  To empty functions in
which nothing is raised leaves the order of the walk as it is (`raises_emptied_eq`).  Where a record differs from what the
function does is said exactly in `record_shows_inside`.
-/
namespace DocReview
namespace Definition

open Source

/-! ## What is raised -/

def raisedText? : Label → Option String
  | .raise (some e) => e.print?
  | _ => none

theorem raises_eq (n : Node) : raises n = (n.walk.map Node.label).filterMap raisedText? := by
  rw [raises, List.filterMap_map]
  rfl

theorem raisedText?_of_isStatement {l : Label} (h : l.isStatement = false) : raisedText? l = none := by
  cases l with
  | raise => cases h
  | _ => rfl

theorem filterMap_raisedText?_filter (ls : List Label) :
    (ls.filter Label.isStatement).filterMap raisedText? = ls.filterMap raisedText? := by
  rw [List.filterMap_filter]
  refine List.filterMap_congr fun l _ => ?_
  cases hl : l.isStatement with
  | true => rfl
  | false => exact (raisedText?_of_isStatement hl).symm

def raisedBy (s : Stmt) : List String := (raisedText? s.node.label).toList

/-- The texts of what some statements raise by themselves. -/
def raisedIn (ss : List Stmt) : List String := ss.flatMap raisedBy

theorem raisedIn_append (ss ts : List Stmt) : raisedIn (ss ++ ts) = raisedIn ss ++ raisedIn ts := List.flatMap_append

theorem raisedIn_eq (ss : List Stmt) : raisedIn ss = (ss.map fun s => s.node.label).filterMap raisedText? := by
  rw [raisedIn, List.filterMap_map, List.filterMap_eq_flatMap_toList]
  rfl

theorem raised_preorder_perm (s : Stmt) :
    ((s.node.preorder.map Node.label).filterMap raisedText?).Perm (raisedIn s.endings) := by
  have hlabels := (s.statementLabels_perm).filterMap raisedText?
  have hpreorder : statementLabels [s.node] = (s.node.preorder.map Node.label).filter Label.isStatement := by
    rw [statementLabels, Node.preorderOf, Node.preorderOf, List.append_nil]
  rwa [hpreorder, filterMap_raisedText?_filter, filterMap_raisedText?_filter, ← raisedIn_eq] at hlabels

/-- **A record lists what is raised anywhere inside.** -/
theorem raises_perm (s : Stmt) : (raises s.node).Perm (raisedIn s.endings) := by
  rw [raises_eq]
  exact (((Node.walk_perm_preorder s.node).map Node.label).filterMap raisedText?).trans (raised_preorder_perm s)

theorem raisedIn_perm {ss ts : List Stmt} (h : ss.Perm ts) : (raisedIn ss).Perm (raisedIn ts) := h.flatMap_right _

/-- Some texts are as many as they are with others only if there are no others. -/
theorem perm_append_iff {xs ys zs : List String} (h : xs.Perm (ys ++ zs)) : ys.Perm xs ↔ zs = [] := by
  constructor
  · intro hperm
    have hlength := (hperm.trans h).length_eq
    rw [List.length_append] at hlength
    exact List.length_eq_zero_iff.1 (by omega)
  · rintro rfl
    rw [List.append_nil] at h
    exact h.symm

/-! ## What is yielded -/

theorem yielding_append {es fs : List Expr} : Yielding (es ++ fs) ↔ Yielding es ∨ Yielding fs := by
  simp only [Yielding, List.mem_append, or_and_right, exists_or]

theorem yielding_perm {ss ts : List Stmt} (h : ss.Perm ts) :
    Yielding (ss.flatMap Stmt.exprs) ↔ Yielding (ts.flatMap Stmt.exprs) := by
  simp only [Yielding, (h.flatMap_right Stmt.exprs).mem_iff]

theorem yields_eq (n : Node) : yields n = n.walk.any fun m => m.label.isYield := by
  refine congrArg n.walk.any (funext fun m => ?_)
  cases m.label <;> rfl

/-- **A record says that something is yielded if there is a `yield` anywhere inside.** -/
theorem yields_iff (s : Stmt) : yields s.node = true ↔ Yielding (s.endings.flatMap Stmt.exprs) := by
  rw [yields_eq, (Node.walk_perm_preorder s.node).any_eq]
  exact s.yields_node_iff

/-! ## The function itself -/

/-- The statements of a function itself: those in its block and in no definition there. -/
def ownStatements (s : Stmt) : List Stmt := s.inner.flatMap (Stmt.reached Stmt.isDefinition)

/-- The statements of the definitions in the block of a function. -/
def nestedStatements (s : Stmt) : List Stmt := (ownStatements s).flatMap (Stmt.behind Stmt.isDefinition)

/-- An expression of a kind is one of a function itself: it is in an expression of its statements, and in no lambda there. -/
def OwnHas (kind : Expr → Bool) (s : Stmt) : Prop :=
  ∃ e ∈ (ownStatements s).flatMap Stmt.exprs, ∃ y ∈ e.present, kind y = true

/-- A function is a generator: in its own block is a `yield` or a `yield from`. -/
def IsGenerator (s : Stmt) : Prop := OwnHas (fun y => y.isYield || y.isYieldFrom) s

def lambdaBodies (es : List Expr) : List Expr := (es.flatMap Expr.present).flatMap Expr.deferred

/-- A `yield` is in the head of a function, in a lambda of its own or in a definition in its block. -/
def YieldsElsewhere (s : Stmt) : Prop :=
  Yielding s.exprs ∨ Yielding (lambdaBodies ((ownStatements s).flatMap Stmt.exprs)) ∨
    Yielding ((nestedStatements s).flatMap Stmt.exprs)

theorem isGenerator_iff (s : Stmt) : IsGenerator s ↔ OwnHas Expr.isYield s ∨ OwnHas Expr.isYieldFrom s := by
  simp only [IsGenerator, OwnHas, Bool.or_eq_true, and_or_left, exists_or]

theorem yielding_iff_lambdas (es : List Expr) :
    Yielding es ↔ (∃ e ∈ es, ∃ y ∈ e.present, y.isYield = true) ∨ Yielding (lambdaBodies es) := by
  constructor
  · rintro ⟨e, he, y, hy, hyield⟩
    rcases Expr.mem_within_iff.1 hy with hy | ⟨l, hl, b, hb, hy⟩
    · exact .inl ⟨e, he, y, hy, hyield⟩
    · exact .inr ⟨b, List.mem_flatMap.2 ⟨l, List.mem_flatMap.2 ⟨e, he, hl⟩, hb⟩, y, hy, hyield⟩
  · rintro (⟨e, he, y, hy, hyield⟩ | ⟨b, hb, y, hy, hyield⟩)
    · exact ⟨e, he, y, Expr.mem_within_iff.2 (.inl hy), hyield⟩
    · obtain ⟨l, hl, hb⟩ := List.mem_flatMap.1 hb
      obtain ⟨e, he, hl⟩ := List.mem_flatMap.1 hl
      exact ⟨e, he, y, Expr.mem_within_iff.2 (.inr ⟨l, hl, b, hb, hy⟩), hyield⟩

theorem endings_perm_own (s : Stmt) : s.endings.Perm (ownStatements s ++ nestedStatements s ++ [s]) := by
  rw [s.endings_eq]
  exact (endings_perm_reached Stmt.isDefinition s.inner).append_right _

theorem yields_iff_own (s : Stmt) : yields s.node = true ↔ OwnHas Expr.isYield s ∨ YieldsElsewhere s := by
  have hown := yielding_iff_lambdas ((ownStatements s).flatMap Stmt.exprs)
  change _ ↔ OwnHas Expr.isYield s ∨ _ at hown
  rw [yields_iff, yielding_perm (endings_perm_own s), List.flatMap_append, List.flatMap_append, List.flatMap_singleton,
    yielding_append, yielding_append, hown]
  unfold YieldsElsewhere
  rw [or_comm, or_assoc, or_left_comm]

/-! ## Emptied functions -/

/-- The statements in the blocks of chosen functions, which are lost when these are emptied. -/
def lostStatements (chosen : Stmt → Bool) (s : Stmt) : List Stmt :=
  (s.reached (shutFunctions chosen)).flatMap (Stmt.behind (shutFunctions chosen))

theorem endings_perm_lost (chosen : Stmt → Bool) (s : Stmt) :
    s.endings.Perm (s.reached (shutFunctions chosen) ++ lostStatements chosen s) :=
  s.endings_perm_reached _

theorem raisedText?_emptied (chosen : Stmt → Bool) (s : Stmt) :
    raisedText? (s.emptied chosen).node.label = raisedText? s.node.label := by
  cases s with
  | forLoop isAsync => cases isAsync <;> rfl
  | withBlock isAsync => cases isAsync <;> rfl
  | tryExcept grouped => cases grouped <;> rfl
  | _ => rfl

theorem raisedBy_emptied (chosen : Stmt → Bool) (s : Stmt) : raisedBy (s.emptied chosen) = raisedBy s :=
  congrArg Option.toList (raisedText?_emptied chosen s)

theorem raises_emptied (chosen : Stmt → Bool) (s : Stmt) :
    (raises (s.emptied chosen).node).Perm (raisedIn (s.reached (shutFunctions chosen))) :=
  (raises_perm _).trans (Stmt.flatMap_endings_emptied chosen rfl (raisedBy_emptied chosen) s)

theorem lostStatements_eq (chosen : Stmt → Bool) (s : Stmt) : lostStatements chosen s =
    s.behind (shutFunctions chosen) ++ (s.opened (shutFunctions chosen)).flatMap (lostStatements chosen) := by
  rw [lostStatements, s.reached_eq, List.flatMap_cons, List.flatMap_assoc]
  rfl

theorem raisedIn_flatMap_eq_nil {f : Stmt → List Stmt} {ss : List Stmt} :
    raisedIn (ss.flatMap f) = [] ↔ ∀ s ∈ ss, raisedIn (f s) = [] := by
  rw [raisedIn, List.flatMap_assoc, List.flatMap_eq_nil_iff]
  rfl

/-! ### In the order of the walk -/

section Levels

variable {chosen : Stmt → Bool}

theorem sameLevels_of_raisedIn {s : Stmt} (h : raisedIn s.endings = []) : Node.SameLevels raisedText? [s.node] [] := by
  have hnone := raised_preorder_perm s
  rw [h, List.perm_nil, List.filterMap_eq_nil_iff] at hnone
  refine Node.sameLevels_nil fun n hn => hnone n.label (List.mem_map_of_mem ?_)
  rwa [Node.preorderOf, Node.preorderOf, List.append_nil] at hn

theorem sameLevels_stmtNodes_nil : ∀ {ss : List Stmt}, (∀ s ∈ ss, raisedIn s.endings = []) →
    Node.SameLevels raisedText? (stmtNodes ss) []
  | [], _ => .refl _
  | _ :: _, h =>
    (sameLevels_of_raisedIn (h _ List.mem_cons_self)).append
      (sameLevels_stmtNodes_nil fun s hs => h s (List.mem_cons_of_mem _ hs))

/-- A statement raises the same on each level of its tree when functions in it are emptied. -/
def KeepsLevels (chosen : Stmt → Bool) (s : Stmt) : Prop :=
  Node.SameLevels raisedText? [s.node] [(s.emptied chosen).node]

theorem sameLevels_stmtNodes : ∀ {ss : List Stmt}, (∀ s ∈ ss, KeepsLevels chosen s) →
    Node.SameLevels raisedText? (stmtNodes ss) (stmtNodes (emptiedAll chosen ss))
  | [], _ => .refl _
  | _ :: _, h =>
    (h _ List.mem_cons_self).append (sameLevels_stmtNodes fun s hs => h s (List.mem_cons_of_mem _ hs))

theorem sameLevels_caseNodes : ∀ {cases : List Case}, (∀ s ∈ cases.flatMap Case.body, KeepsLevels chosen s) →
    Node.SameLevels raisedText? (caseNodes cases) (caseNodes (emptiedCases chosen cases))
  | [], _ => .refl _
  | .mk pattern guard body :: rest, h => by
    rw [List.flatMap_cons, List.forall_mem_append] at h
    exact (((Node.SameLevels.refl _).append (sameLevels_stmtNodes h.1)).below .other).append (sameLevels_caseNodes h.2)

theorem sameLevels_handlerNodes : ∀ {handlers : List Handler}, (∀ s ∈ handlers.flatMap Handler.body, KeepsLevels chosen s) →
    Node.SameLevels raisedText? (handlerNodes handlers) (handlerNodes (emptiedHandlers chosen handlers))
  | [], _ => .refl _
  | .mk type name body :: rest, h => by
    rw [List.flatMap_cons, List.forall_mem_append] at h
    exact (((Node.SameLevels.refl _).append (sameLevels_stmtNodes h.1)).below .other).append (sameLevels_handlerNodes h.2)

/-- What is below a statement that is not emptied itself, one block after the other. -/
theorem sameLevels_children {s : Stmt} (hshut : shutFunctions chosen s = false) (h : ∀ x ∈ s.inner, KeepsLevels chosen x) :
    Node.SameLevels raisedText? s.node.children (s.emptied chosen).node.children := by
  have same : ∀ ns : List Node, Node.SameLevels raisedText? ns ns := Node.SameLevels.refl
  cases s with
  | funcDef isAsync span name params body decorators returns =>
    rw [Stmt.emptied, if_neg (by simpa [shutFunctions, Stmt.isFunction] using hshut)]
    exact (((same [_]).append (sameLevels_stmtNodes h)).append (same _)).append (same _)
  | classDef span name bases keywords body decorators =>
    exact ((same (_ ++ _)).append (sameLevels_stmtNodes h)).append (same _)
  | forLoop isAsync target iter body orelse =>
    obtain ⟨hbody, horelse⟩ := List.forall_mem_append.1 h
    exact ((same [_, _]).append (sameLevels_stmtNodes hbody)).append (sameLevels_stmtNodes horelse)
  | whileLoop test body orelse =>
    obtain ⟨hbody, horelse⟩ := List.forall_mem_append.1 h
    exact ((same [_]).append (sameLevels_stmtNodes hbody)).append (sameLevels_stmtNodes horelse)
  | ifElse test body orelse =>
    obtain ⟨hbody, horelse⟩ := List.forall_mem_append.1 h
    exact ((same [_]).append (sameLevels_stmtNodes hbody)).append (sameLevels_stmtNodes horelse)
  | withBlock isAsync items body => exact (same _).append (sameLevels_stmtNodes h)
  | matchCases subject cases => exact (same [_]).append (sameLevels_caseNodes h)
  | tryExcept grouped body handlers orelse final =>
    obtain ⟨hrest, hfinal⟩ := List.forall_mem_append.1 h
    obtain ⟨hrest, horelse⟩ := List.forall_mem_append.1 hrest
    obtain ⟨hbody, hhandlers⟩ := List.forall_mem_append.1 hrest
    exact (((sameLevels_stmtNodes hbody).append (sameLevels_handlerNodes hhandlers)).append
      (sameLevels_stmtNodes horelse)).append (sameLevels_stmtNodes hfinal)
  | _ => exact .refl _

/-- What is below a function that is emptied and raises nothing in its block. -/
theorem sameLevels_children_of_shut {s : Stmt} (hshut : shutFunctions chosen s = true)
    (h : ∀ x ∈ s.inner, raisedIn x.endings = []) :
    Node.SameLevels raisedText? s.node.children (s.emptied chosen).node.children := by
  have same : ∀ ns : List Node, Node.SameLevels raisedText? ns ns := Node.SameLevels.refl
  have hpass : ∀ x ∈ [Stmt.pass], raisedIn x.endings = [] := by
    rw [List.forall_mem_singleton, Stmt.endings_eq]
    rfl
  cases s with
  | funcDef isAsync span name params body decorators returns =>
    rw [Stmt.emptied, if_pos (by simpa [shutFunctions, Stmt.isFunction] using hshut)]
    have hbody := (sameLevels_stmtNodes_nil h).trans (sameLevels_stmtNodes_nil hpass).symm
    exact (((same [_]).append hbody).append (same _)).append (same _)
  | _ => cases hshut

/-- **What is raised stays in its order** when functions are emptied in whose blocks nothing is raised. -/
theorem raises_emptied_eq {s : Stmt} (h : raisedIn (lostStatements chosen s) = []) :
    raises (s.emptied chosen).node = raises s.node := by
  have hlevels : KeepsLevels chosen s := by
    induction s using Stmt.inner_induction with
    | h s ih =>
      rw [lostStatements_eq, raisedIn_append, List.append_eq_nil_iff, raisedIn_flatMap_eq_nil] at h
      obtain ⟨hbehind, hopened⟩ := h
      refine .mk (raisedText?_emptied chosen s).symm ?_
      cases hshut : shutFunctions chosen s with
      | true =>
        rw [Stmt.behind, if_pos hshut, raisedIn_flatMap_eq_nil] at hbehind
        exact sameLevels_children_of_shut hshut hbehind
      | false =>
        rw [Stmt.opened, if_neg (by rw [hshut]; exact Bool.false_ne_true)] at hopened
        exact sameLevels_children hshut fun x hx => ih x hx (hopened x hx)
  exact hlevels.filterMap_walk.symm

end Levels

theorem yields_emptied (chosen : Stmt → Bool) (s : Stmt) :
    yields (s.emptied chosen).node = true ↔ Yielding ((s.reached (shutFunctions chosen)).flatMap Stmt.exprs) := by
  have hexprs := Stmt.flatMap_endings_emptied chosen (g := Stmt.exprs) rfl (Stmt.exprs_emptied chosen) s
  rw [yields_iff]
  simp only [Yielding, hexprs.mem_iff]

/-- A record says what is raised and yielded in the function; the function itself is no `raise`, and still has a record when
functions are emptied. -/
theorem functionRecord?_emptied (chosen : Stmt → Bool) {s : Stmt} {r : FunctionRecord} (h : functionRecord? s = some r) :
    r.raises = raises s.node ∧ r.yields = yields s.node ∧ raisedBy s = [] ∧ ∃ r', functionRecord? (s.emptied chosen) = some r' ∧
      r'.raises = raises (s.emptied chosen).node ∧ r'.yields = yields (s.emptied chosen).node := by
  cases s with
  | funcDef isAsync =>
    cases isAsync with
    | true => cases h
    | false =>
      cases h
      exact ⟨rfl, rfl, rfl, _, rfl, rfl, rfl⟩
  | _ => cases h

/-- What a record still shows when functions are emptied. -/
theorem functionRecord?_lost (chosen : Stmt → Bool) {s : Stmt} {r : FunctionRecord} (h : functionRecord? s = some r) :
    ∃ r', functionRecord? (s.emptied chosen) = some r' ∧
      (r'.raises = r.raises ↔ raisedIn (lostStatements chosen s) = []) ∧
      (r'.raises.Perm r.raises ↔ raisedIn (lostStatements chosen s) = []) ∧
      (r'.yields = r.yields ↔ (Yielding ((lostStatements chosen s).flatMap Stmt.exprs) →
        Yielding ((s.reached (shutFunctions chosen)).flatMap Stmt.exprs))) := by
  obtain ⟨hraises, hyields, -, r', hr', hraises', hyields'⟩ := functionRecord?_emptied chosen h
  have hkept : r.raises.Perm (r'.raises ++ raisedIn (lostStatements chosen s)) := by
    have hperm := raisedIn_perm (endings_perm_lost chosen s)
    rw [raisedIn_append] at hperm
    rw [hraises, hraises']
    exact ((raises_perm s).trans hperm).trans ((raises_emptied chosen s).symm.append_right _)
  have hall : r.yields = true ↔ Yielding ((s.reached (shutFunctions chosen)).flatMap Stmt.exprs) ∨
      Yielding ((lostStatements chosen s).flatMap Stmt.exprs) := by
    rw [hyields, yields_iff, yielding_perm (endings_perm_lost chosen s), List.flatMap_append, yielding_append]
  have hrest : r'.yields = true ↔ Yielding ((s.reached (shutFunctions chosen)).flatMap Stmt.exprs) := by
    rw [hyields']
    exact yields_emptied chosen s
  have hsame : r'.raises = r.raises ↔ raisedIn (lostStatements chosen s) = [] := by
    refine ⟨fun heq => (perm_append_iff hkept).1 (.of_eq heq), fun hlost => ?_⟩
    rw [hraises, hraises']
    exact raises_emptied_eq hlost
  refine ⟨r', hr', hsame, perm_append_iff hkept, ?_⟩
  rw [Bool.eq_iff_iff, hall, hrest]
  exact iff_self_or

/-- **Whose `raise` and `yield` a record shows.** For every function with a record: `yields` is said exactly if a `yield` is
in the function itself or elsewhere inside, in its head, a lambda or a definition in its block; so it says whether the
function is a generator exactly if a `yield` is in the function itself, or a `yield from` is in it just in case a `yield`
is elsewhere.  `raises` lists what the function itself raises and what definitions in its block raise, so it lists only the
former exactly if these raise nothing.  When the blocks of some functions inside are replaced by a `pass`, `raises` stays as
it is, in its order, exactly if nothing was raised there, and otherwise it does not even list the same in another order;
`yields` stays exactly if a `yield` there was not the only one. -/
theorem record_shows_inside {s : Stmt} {r : FunctionRecord} (h : functionRecord? s = some r) :
    (r.yields = true ↔ OwnHas Expr.isYield s ∨ YieldsElsewhere s) ∧
      ((r.yields = true ↔ IsGenerator s) ↔ OwnHas Expr.isYield s ∨ (OwnHas Expr.isYieldFrom s ↔ YieldsElsewhere s)) ∧
      r.raises.Perm (raisedIn (ownStatements s) ++ raisedIn (nestedStatements s)) ∧
      ((raisedIn (ownStatements s)).Perm r.raises ↔ raisedIn (nestedStatements s) = []) ∧
      ∀ chosen : Stmt → Bool, ∃ r', functionRecord? (s.emptied chosen) = some r' ∧
        (r'.raises = r.raises ↔ raisedIn (lostStatements chosen s) = []) ∧
        (r'.raises.Perm r.raises ↔ raisedIn (lostStatements chosen s) = []) ∧
        (r'.yields = r.yields ↔ (Yielding ((lostStatements chosen s).flatMap Stmt.exprs) →
          Yielding ((s.reached (shutFunctions chosen)).flatMap Stmt.exprs))) := by
  obtain ⟨hraises, hyields, hself, -⟩ := functionRecord?_emptied (fun _ => false) h
  have howned : r.raises.Perm (raisedIn (ownStatements s) ++ raisedIn (nestedStatements s)) := by
    have hperm := raisedIn_perm (endings_perm_own s)
    have hlast : raisedIn [s] = [] := by rw [raisedIn, List.flatMap_singleton, hself]
    rw [raisedIn_append, raisedIn_append, hlast, List.append_nil] at hperm
    rw [hraises]
    exact (raises_perm s).trans hperm
  have hown : r.yields = true ↔ OwnHas Expr.isYield s ∨ YieldsElsewhere s := by
    rw [hyields]
    exact yields_iff_own s
  refine ⟨hown, ?_, howned, perm_append_iff howned, fun chosen => functionRecord?_lost chosen h⟩
  rw [hown, isGenerator_iff]
  by_cases hyield : OwnHas Expr.isYield s
  · simp [hyield]
  · simp only [hyield, false_or]
    exact Iff.comm

def sampleNested : Stmt :=
  .funcDef false ⟨1, 5, 0⟩ "f" .empty
    [.funcDef false ⟨2, 4, 4⟩ "g" .empty [.raise (some (.name "ValueError")) none, .expr (.yield none)] [] none,
      .ret (some (.name "g"))] [] none

/-- A function has no function directly in its block. -/
def innermost (s : Stmt) : Bool := !s.inner.any Stmt.isFunction

/-- The function is no generator and raises nothing, but its record says that it yields and raises something, and this
changes with the block of the function in it. -/
theorem record_shows_inside_sample : ∃ r, functionRecord? sampleNested = some r ∧ r.yields = true ∧
    r.raises = ["ValueError"] ∧ ¬ IsGenerator sampleNested ∧ raisedIn (ownStatements sampleNested) = [] ∧
      ∃ r', functionRecord? (sampleNested.emptied innermost) = some r' ∧ ¬ r'.raises.Perm r.raises ∧
        r'.yields ≠ r.yields := by
  have hown : ownStatements sampleNested = sampleNested.inner := by
    simp [ownStatements, sampleNested, Stmt.inner, Stmt.reached_eq, Stmt.opened, Stmt.isDefinition]
  have hexprs : sampleNested.inner.flatMap Stmt.exprs = [.name "g"] := rfl
  have hgenerator : ¬ IsGenerator sampleNested := by
    rintro ⟨e, he, y, hy, hkind⟩
    rw [hown, hexprs] at he
    cases List.mem_singleton.1 he
    rw [Expr.present_eq] at hy
    cases List.mem_singleton.1 hy
    cases hkind
  have hreached : sampleNested.reached (shutFunctions innermost) = sampleNested :: sampleNested.inner := by
    simp [sampleNested, Stmt.inner, Stmt.reached_eq, Stmt.opened, shutFunctions, Stmt.isFunction, innermost]
  have hlost : lostStatements innermost sampleNested = [.raise (some (.name "ValueError")) none, .expr (.yield none)] := by
    rw [lostStatements, hreached]
    simp [sampleNested, Stmt.inner, Stmt.behind, shutFunctions, Stmt.isFunction, innermost, Stmt.endings_eq]
  obtain ⟨-, -, -, -, hemptied⟩ := record_shows_inside (s := sampleNested) rfl
  obtain ⟨r', hr', -, hraises, hyields⟩ := hemptied innermost
  refine ⟨_, rfl, rfl, rfl, hgenerator, by rw [hown]; rfl, r', hr', ?_, ?_⟩
  · rw [hraises, hlost]
    exact List.cons_ne_nil "ValueError" []
  · intro heq
    have hyield : Yielding ((lostStatements innermost sampleNested).flatMap Stmt.exprs) := by
      rw [hlost]
      exact ⟨.yield none, by simp [Stmt.exprs], .yield none, by rw [Expr.within_eq]; exact List.mem_cons_self, rfl⟩
    obtain ⟨e, he, y, hy, hkind⟩ := hyields.1 heq hyield
    rw [hreached, List.flatMap_cons, hexprs] at he
    cases List.mem_singleton.1 he
    rw [Expr.within_eq] at hy
    cases List.mem_singleton.1 hy
    cases hkind

end Definition
end DocReview
