import Mathlib.Data.List.Chain
import Mathlib.Order.Bounds.Defs
import DocReview.Definition.Measure
import DocReview.Proofs.Source.Tree
/-!
# Nesting — how deep control flow is nested, and how much of it there is

Two numbers are read off the tree of a function.  The nesting depth is a maximum that a descent carries from node to node
(`deepest_eq`), and it is the greatest number of nested statements on a way down (`nestingDepth_isGreatest`).  The
complexity counts the branches that come out of a queue.  Every statement that nests is such a branch, so the first number is
never more than the second (`nesting_fits_complexity`).
-/
namespace DocReview
namespace Source

/-- A way down from a node: it begins there, and each node is followed by one directly below it. -/
def Node.IsPath (n : Node) (path : List Node) : Prop :=
  path.head? = some n ∧ path.IsChain fun parent child => child ∈ parent.children

theorem Node.isPath_singleton (n : Node) : n.IsPath [n] := ⟨rfl, .singleton n⟩

theorem Node.isPath_cons {n c : Node} (hc : c ∈ n.children) {path : List Node} (h : c.IsPath path) : n.IsPath (n :: path) := by
  obtain ⟨hhead, hchain⟩ := h
  cases path with
  | nil => cases hhead
  | cons m path =>
    obtain rfl : m = c := Option.some.inj hhead
    exact ⟨rfl, List.isChain_cons_cons.2 ⟨hc, hchain⟩⟩

theorem Node.IsPath.cases {n : Node} {path : List Node} (h : n.IsPath path) :
    path = [n] ∨ ∃ c ∈ n.children, ∃ rest, c.IsPath rest ∧ path = n :: rest := by
  obtain ⟨hhead, hchain⟩ := h
  match path, hhead, hchain with
  | [m], hhead, _ => exact .inl (congrArg (fun x => [x]) (Option.some.inj hhead))
  | m :: c :: rest, hhead, hchain =>
    obtain rfl : m = n := Option.some.inj hhead
    obtain ⟨hc, hrest⟩ := List.isChain_cons_cons.1 hchain
    exact .inr ⟨c, hc, c :: rest, ⟨rfl, hrest⟩, rfl⟩

end Source

namespace Definition

open Source

/-- The control flow that nests, on a way down. -/
def blocksOn (path : List Node) : Nat := path.countP fun m => isBlock m.label

mutual

/-- The most control flow that nests on a way down from a node. -/
def blockHeight : Node → Nat
  | .mk l cs => (if isBlock l then 1 else 0) + blockHeightOf cs

def blockHeightOf : List Node → Nat
  | [] => 0
  | n :: ns => max (blockHeight n) (blockHeightOf ns)

end

theorem blockHeight_eq (n : Node) : blockHeight n = (if isBlock n.label then 1 else 0) + blockHeightOf n.children := by
  cases n with
  | mk l cs => rw [blockHeight, Node.label, Node.children]

theorem blockHeight_le_of_mem {n : Node} : ∀ {ns : List Node}, n ∈ ns → blockHeight n ≤ blockHeightOf ns
  | m :: ns, h => by
    rw [blockHeightOf]
    rcases List.mem_cons.1 h with rfl | h
    · exact Nat.le_max_left _ _
    · exact Nat.le_trans (blockHeight_le_of_mem h) (Nat.le_max_right _ _)

/-! ## The shared maximum -/

mutual

/-- What the descent returns: the maximum so far, or the depth with what is below if that is more. -/
theorem deepest_eq : ∀ (n : Node) {depth best : Nat}, depth ≤ best →
    deepest depth best n = max best (depth + blockHeight n)
  | .mk l cs, depth, best, h => by
    rw [deepest, blockHeight]
    by_cases hl : isBlock l = true
    · have hcs := deepestAll_eq cs (Nat.le_max_right best (depth + 1))
      rw [if_pos hl, if_pos hl, hcs]
      omega
    · have hcs := deepestAll_eq cs h
      rw [if_neg hl, if_neg hl, hcs, Nat.zero_add]

theorem deepestAll_eq : ∀ (ns : List Node) {depth best : Nat}, depth ≤ best →
    deepestAll depth best ns = max best (depth + blockHeightOf ns)
  | [], depth, best, h => by
    rw [deepestAll, blockHeightOf]
    omega
  | n :: ns, depth, best, h => by
    have hn := deepest_eq n h
    have hle : depth ≤ max best (depth + blockHeight n) := by omega
    have hns := deepestAll_eq ns hle
    rw [deepestAll, hn, hns, blockHeightOf]
    omega

end

theorem nestingDepth_eq (n : Node) : nestingDepth n = blockHeight n := by
  rw [nestingDepth, deepest_eq n (Nat.le_refl 0)]
  omega

/-! ## The ways down -/

theorem blocksOn_cons (n : Node) (path : List Node) :
    blocksOn (n :: path) = (if isBlock n.label then 1 else 0) + blocksOn path := by
  rw [blocksOn, List.countP_cons, Nat.add_comm]
  rfl

theorem blocksOn_le {path : List Node} : ∀ {n : Node}, n.IsPath path → blocksOn path ≤ blockHeight n := by
  induction path with
  | nil =>
    intro n h
    cases h.1
  | cons m path ih =>
    intro n h
    rw [blockHeight_eq]
    rcases h.cases with hone | ⟨c, hc, rest, hrest, heq⟩
    · rw [hone, blocksOn_cons]
      exact Nat.add_le_add_left (Nat.zero_le _) _
    · obtain ⟨rfl, rfl⟩ := List.cons.inj heq
      rw [blocksOn_cons]
      have := ih hrest
      have := blockHeight_le_of_mem hc
      omega

mutual

theorem exists_path : ∀ n : Node, ∃ path, n.IsPath path ∧ blocksOn path = blockHeight n
  | .mk l cs => by
    rcases exists_path_below cs with hzero | ⟨c, hc, path, hpath, hblocks⟩
    · refine ⟨[.mk l cs], Node.isPath_singleton _, ?_⟩
      rw [blocksOn_cons, blockHeight_eq]
      exact congrArg _ hzero.symm
    · refine ⟨.mk l cs :: path, Node.isPath_cons hc hpath, ?_⟩
      rw [blocksOn_cons, hblocks, blockHeight_eq]
      rfl

theorem exists_path_below : ∀ ns : List Node,
    blockHeightOf ns = 0 ∨ ∃ n ∈ ns, ∃ path, n.IsPath path ∧ blocksOn path = blockHeightOf ns
  | [] => .inl rfl
  | n :: ns => by
    rw [blockHeightOf]
    rcases Nat.le_total (blockHeightOf ns) (blockHeight n) with hle | hle
    · obtain ⟨path, hpath, hblocks⟩ := exists_path n
      rw [Nat.max_eq_left hle]
      exact .inr ⟨n, List.mem_cons_self, path, hpath, hblocks⟩
    · rw [Nat.max_eq_right hle]
      rcases exists_path_below ns with hzero | ⟨m, hm, path, hpath, hblocks⟩
      · exact .inl hzero
      · exact .inr ⟨m, List.mem_cons_of_mem n hm, path, hpath, hblocks⟩

end

/-- **The nesting depth is the greatest number of nested statements on a way down.** -/
theorem nestingDepth_isGreatest (n : Node) : IsGreatest {k | ∃ path, n.IsPath path ∧ blocksOn path = k} (nestingDepth n) := by
  rw [nestingDepth_eq]
  refine ⟨exists_path n, ?_⟩
  rintro k ⟨path, hpath, rfl⟩
  exact blocksOn_le hpath

/-! ## Depth and complexity -/

mutual

/-- Nesting is counted once on each way, so it is at most all there is, and none only if there is none. -/
theorem blockHeight_count : ∀ n : Node, blockHeight n ≤ n.count isBlock ∧ (blockHeight n = 0 → n.count isBlock = 0)
  | .mk l cs => by
    have hcs := blockHeightOf_countAll cs
    rw [blockHeight, Node.count]
    by_cases hl : isBlock l = true
    · simp only [hl, ↓reduceIte]
      omega
    · simp only [hl, Bool.false_eq_true, ↓reduceIte]
      omega

theorem blockHeightOf_countAll : ∀ ns : List Node,
    blockHeightOf ns ≤ Node.countAll isBlock ns ∧ (blockHeightOf ns = 0 → Node.countAll isBlock ns = 0)
  | [] => ⟨Nat.le_refl 0, fun _ => rfl⟩
  | n :: ns => by
    have hn := blockHeight_count n
    have hns := blockHeightOf_countAll ns
    rw [blockHeightOf, Node.countAll]
    omega

end

theorem nestingDepth_eq_zero_iff (n : Node) : nestingDepth n = 0 ↔ ∀ m ∈ Node.fromQueue [n], isBlock m.label = false := by
  have hcount := blockHeight_count n
  have hzero : nestingDepth n = 0 ↔ n.count isBlock = 0 := by
    rw [nestingDepth_eq]
    omega
  rw [hzero, Node.count_eq_countP_fromQueue, List.countP_eq_zero]
  simp only [Bool.not_eq_true]

theorem isBranch_of_isBlock {l : Label} (h : isBlock l = true) : isBranch l = true := by
  cases l with
  | comprehension | conditional => rfl
  | _ => exact h

theorem nestingDepth_le_count (n : Node) : nestingDepth n ≤ n.count isBranch := by
  have hblocks : n.count isBlock ≤ n.count isBranch := by
    rw [Node.count_eq_countP_fromQueue, Node.count_eq_countP_fromQueue]
    exact List.countP_mono_left fun m _ h => isBranch_of_isBlock h
  have hheight := (blockHeight_count n).1
  rw [nestingDepth_eq]
  omega

/-- **Nesting depth and complexity fit together.**  For every plain function that does not end before it begins, the nesting
depth is the greatest number of statements that nest on a way down its tree, and zero exactly if a walk through it meets
none.  The complexity counts the branches that the walk meets and the tens of lines, and is never less than the depth or than
one. -/
theorem nesting_fits_complexity {span : Span} (hspan : span.line ≤ span.endLine) (name : String) (params : Params)
    (body : List Stmt) (decorators : List Expr) (returns : Option Expr) :
    let n := (Stmt.funcDef false span name params body decorators returns).node
    IsGreatest {k | ∃ path, n.IsPath path ∧ blocksOn path = k} (nestingDepth n) ∧
      (nestingDepth n = 0 ↔ ∀ m ∈ Node.fromQueue [n], isBlock m.label = false) ∧
      (complexity span n : ℤ) = max 1 (((Node.fromQueue [n]).countP fun m => isBranch m.label : ℕ) +
        ((span.endLine : ℤ) - span.line) / 10) ∧
      nestingDepth n ≤ complexity span n ∧ 1 ≤ complexity span n := by
  intro n
  have hdepth := nestingDepth_le_count n
  refine ⟨nestingDepth_isGreatest n, nestingDepth_eq_zero_iff n, ?_, ?_, Nat.le_max_left _ _⟩
  · rw [complexity, Node.count_eq_countP_fromQueue]
    omega
  · rw [complexity]
    omega

def nestedFunction : Stmt :=
  .funcDef false ⟨1, 24, 0⟩ "f" (.mk [] [] none [] [] none [])
    [.forLoop false (.name "x") (.name "xs") [.ifElse (.name "x") [.pass] []] []] [] none

theorem nesting_fits_complexity_sample :
    (1 : Nat) ≤ 24 ∧ nestingDepth nestedFunction.node = 2 ∧ complexity ⟨1, 24, 0⟩ nestedFunction.node = 4 ∧
      (∃ path, nestedFunction.node.IsPath path ∧ blocksOn path = 2) ∧
      ¬ ∀ m ∈ Node.fromQueue [nestedFunction.node], isBlock m.label = false := by
  have hspan : (⟨1, 24, 0⟩ : Span).line ≤ (⟨1, 24, 0⟩ : Span).endLine := by decide
  have hdepth : nestingDepth nestedFunction.node = 2 := by decide
  obtain ⟨hgreatest, hzero, -, -, -⟩ := nesting_fits_complexity hspan "f" (.mk [] [] none [] [] none [])
    [.forLoop false (.name "x") (.name "xs") [.ifElse (.name "x") [.pass] []] []] [] none
  refine ⟨hspan, hdepth, by decide, hdepth ▸ hgreatest.1, fun h => ?_⟩
  have := hzero.2 h
  rw [nestedFunction] at hdepth
  omega

end Definition
end DocReview
