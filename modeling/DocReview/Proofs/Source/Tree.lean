import DocReview.Source.Node
/-!
# Tree — the nodes of a program, whatever the order they are met in

A walk meets the nodes of a tree level by level.  It meets the same nodes as a descent that takes each node before those
below it (`walk_perm_preorder`), so what a walk finds can be found by recursion on the tree.  The order is that of a queue
into which the nodes below a node are put when it is taken out (`fromQueue_eq_walk`).  Two trees give the same on a walk if
they do on each level (`SameLevels`), and this can be found by recursion, too.
-/
namespace DocReview
namespace Source
namespace Node

mutual

def preorder : Node → List Node
  | .mk l cs => .mk l cs :: preorderOf cs

def preorderOf : List Node → List Node
  | [] => []
  | n :: ns => n.preorder ++ preorderOf ns

end

theorem flatten_joinLevels_perm : ∀ (xs ys : List (List Node)),
    (joinLevels xs ys).flatten.Perm (xs.flatten ++ ys.flatten)
  | [], ys => by rw [joinLevels, List.flatten_nil, List.nil_append]
  | x :: xs, [] => by rw [joinLevels, List.flatten_nil, List.append_nil]; exact nofun
  | x :: xs, y :: ys => by
    rw [joinLevels, List.flatten_cons, List.flatten_cons, List.flatten_cons, List.append_assoc, List.append_assoc]
    refine List.Perm.append_left x (List.Perm.trans ((flatten_joinLevels_perm xs ys).append_left y) ?_)
    -- the levels below change places with the second list's first level
    rw [← List.append_assoc, ← List.append_assoc]
    exact List.perm_append_comm.append_right _

mutual

theorem flatten_levels_perm : ∀ (n : Node), n.levels.flatten.Perm n.preorder
  | .mk l cs => by
    rw [levels, preorder, List.flatten_cons, List.singleton_append]
    exact (flatten_levelsOf_perm cs).cons _

theorem flatten_levelsOf_perm : ∀ (ns : List Node), (levelsOf ns).flatten.Perm (preorderOf ns)
  | [] => .nil
  | n :: ns => by
    rw [levelsOf, preorderOf]
    exact (flatten_joinLevels_perm _ _).trans ((flatten_levels_perm n).append (flatten_levelsOf_perm ns))

end

/-- **A walk meets the nodes of a descent.** -/
theorem walk_perm_preorder (n : Node) : n.walk.Perm n.preorder := flatten_levels_perm n

theorem preorderOf_append : ∀ (ns ms : List Node), preorderOf (ns ++ ms) = preorderOf ns ++ preorderOf ms
  | [], _ => rfl
  | n :: ns, ms => by rw [List.cons_append, preorderOf, preorderOf, preorderOf_append ns ms, List.append_assoc]

/-! ## Counting -/

mutual

theorem count_eq_countP_preorder (p : Label → Bool) : ∀ n : Node, n.count p = n.preorder.countP fun m => p m.label
  | .mk l cs => by
    have hcs := countAll_eq_countP_preorderOf p cs
    rw [count, preorder, List.countP_cons, hcs, Nat.add_comm, label]

theorem countAll_eq_countP_preorderOf (p : Label → Bool) : ∀ ns : List Node,
    countAll p ns = (preorderOf ns).countP fun m => p m.label
  | [] => rfl
  | n :: ns => by
    rw [countAll, preorderOf, List.countP_append, count_eq_countP_preorder p n, countAll_eq_countP_preorderOf p ns]

end

/-! ## A queue -/

/-- The nodes in the order in which they are taken from a queue, when those below a node are put at its end. -/
def fromQueue : List Node → List Node
  | [] => []
  | .mk l cs :: rest => .mk l cs :: fromQueue (rest ++ cs)
termination_by queue => (preorderOf queue).length
decreasing_by
  simp only [preorderOf_append, preorderOf, preorder, List.length_append, List.length_cons]
  omega

theorem fromQueue_cons (n : Node) (ns : List Node) : fromQueue (n :: ns) = n :: fromQueue (ns ++ n.children) := by
  cases n with
  | mk l cs => rw [fromQueue, children]

/-- Nodes at the front of a queue are taken one after the other, and those below them then stand behind the rest. -/
theorem fromQueue_append : ∀ (ns ms : List Node), fromQueue (ns ++ ms) = ns ++ fromQueue (ms ++ ns.flatMap children)
  | [], ms => by simp
  | n :: ns, ms => by
    have ih := fromQueue_append ns (ms ++ n.children)
    rw [← List.append_assoc] at ih
    rw [List.cons_append, fromQueue_cons, ih, List.flatMap_cons, List.append_assoc, List.cons_append]

theorem joinLevels_nil (xs : List (List Node)) : joinLevels xs [] = xs := by
  cases xs <;> rfl

theorem joinLevels_assoc : ∀ (xs ys zs : List (List Node)),
    joinLevels (joinLevels xs ys) zs = joinLevels xs (joinLevels ys zs)
  | [], _, _ => rfl
  | _ :: _, [], _ => by rw [joinLevels_nil]; rfl
  | _ :: _, _ :: _, [] => by rw [joinLevels_nil, joinLevels_nil]
  | x :: xs, y :: ys, z :: zs => by simp only [joinLevels, joinLevels_assoc xs ys zs, List.append_assoc]

theorem levelsOf_append : ∀ (ns ms : List Node), levelsOf (ns ++ ms) = joinLevels (levelsOf ns) (levelsOf ms)
  | [], _ => rfl
  | n :: ns, ms => by rw [List.cons_append, levelsOf, levelsOf, levelsOf_append ns ms, joinLevels_assoc]

theorem levels_eq (n : Node) : n.levels = [n] :: levelsOf n.children := by
  cases n with
  | mk l cs => rw [levels, children]

theorem levelsOf_eq_cons : ∀ {ns : List Node}, ns ≠ [] → levelsOf ns = ns :: levelsOf (ns.flatMap children)
  | [], h => absurd rfl h
  | [n], _ => by rw [levelsOf, levelsOf, joinLevels_nil, levels_eq, List.flatMap_singleton]
  | n :: m :: ns, _ => by
    have ih := levelsOf_eq_cons (List.cons_ne_nil m ns)
    rw [levelsOf, ih, levels_eq, joinLevels, ← levelsOf_append, List.flatMap_cons (x := n)]
    rfl

theorem length_preorderOf_children : ∀ (ns : List Node),
    (preorderOf ns).length = ns.length + (preorderOf (ns.flatMap children)).length
  | [] => rfl
  | .mk l cs :: ns => by
    have ih := length_preorderOf_children ns
    simp only [preorderOf, preorder, preorderOf_append, List.flatMap_cons, children, List.length_append, List.length_cons]
    omega

/-- **A queue gives the nodes level by level.** -/
theorem fromQueue_eq_flatten (ns : List Node) : fromQueue ns = (levelsOf ns).flatten := by
  by_cases hns : ns = []
  · rw [hns, fromQueue]
    rfl
  · have hlength : ns.length ≠ 0 := fun h => hns (List.length_eq_zero_iff.1 h)
    have hbelow := fromQueue_eq_flatten (ns.flatMap children)
    have hfront := fromQueue_append ns []
    rw [List.append_nil, List.nil_append] at hfront
    rw [levelsOf_eq_cons hns, List.flatten_cons, hfront, hbelow]
termination_by (preorderOf ns).length
decreasing_by
  have := length_preorderOf_children ns
  omega

theorem fromQueue_eq_walk (n : Node) : fromQueue [n] = n.walk := by
  rw [fromQueue_eq_flatten, levelsOf, levelsOf, joinLevels_nil]
  rfl

/-- **A queue gives every node of a tree once.** -/
theorem fromQueue_perm_preorder (n : Node) : (fromQueue [n]).Perm n.preorder := by
  rw [fromQueue_eq_walk]
  exact walk_perm_preorder n

theorem count_eq_countP_fromQueue (p : Label → Bool) (n : Node) : n.count p = (fromQueue [n]).countP fun m => p m.label := by
  rw [count_eq_countP_preorder, (fromQueue_perm_preorder n).countP_eq]

/-! ## Level by level -/

/-- The nodes so many levels below some nodes. -/
def atLevel : Nat → List Node → List Node
  | 0, ns => ns
  | i + 1, ns => atLevel i (ns.flatMap children)

theorem atLevel_append : ∀ (i : Nat) (ns ms : List Node), atLevel i (ns ++ ms) = atLevel i ns ++ atLevel i ms
  | 0, _, _ => rfl
  | i + 1, ns, ms => by rw [atLevel, List.flatMap_append, atLevel_append i, atLevel, atLevel]

theorem atLevel_subset : ∀ (i : Nat) (ns : List Node), atLevel i ns ⊆ preorderOf ns
  | 0, [] => fun _ h => h
  | 0, .mk l cs :: ns => by
    rw [preorderOf, preorder]
    exact List.cons_subset_cons _ (List.Subset.trans (atLevel_subset 0 ns) (List.subset_append_right _ _))
  | i + 1, [] => fun x h => atLevel_subset i [] h
  | i + 1, .mk l cs :: ns => by
    have hcs := atLevel_subset i cs
    have hns := atLevel_subset (i + 1) ns
    rw [atLevel] at hns
    rw [atLevel, List.flatMap_cons, children, atLevel_append, preorderOf, preorder, List.cons_append]
    refine List.append_subset.2 ⟨fun x hx => ?_, fun x hx => ?_⟩
    · exact List.mem_cons_of_mem _ (List.mem_append_left _ (hcs hx))
    · exact List.mem_cons_of_mem _ (List.mem_append_right _ (hns hx))

variable {α : Type} {read : Label → Option α} {ns ms ns' ms' : List Node}

/-- The same is read off the labels of two lists of nodes on each level below them. -/
def SameLevels (read : Label → Option α) (ns ms : List Node) : Prop :=
  ∀ i, (atLevel i ns).filterMap (fun n => read n.label) = (atLevel i ms).filterMap fun n => read n.label

theorem SameLevels.refl (ns : List Node) : SameLevels read ns ns := fun _ => rfl

theorem SameLevels.symm (h : SameLevels read ns ms) : SameLevels read ms ns := fun i => (h i).symm

theorem SameLevels.trans (h : SameLevels read ns ms) (h' : SameLevels read ms ms') : SameLevels read ns ms' := fun i =>
  (h i).trans (h' i)

theorem SameLevels.append (h : SameLevels read ns ms) (h' : SameLevels read ns' ms') :
    SameLevels read (ns ++ ns') (ms ++ ms') := by
  intro i
  rw [atLevel_append, atLevel_append, List.filterMap_append, List.filterMap_append, h i, h' i]

theorem SameLevels.mk {n m : Node} (hlabel : read n.label = read m.label) (h : SameLevels read n.children m.children) :
    SameLevels read [n] [m] := by
  intro i
  cases i with
  | zero => simp only [atLevel, List.filterMap_cons, hlabel, List.filterMap_nil]
  | succ i =>
    rw [atLevel, atLevel, List.flatMap_singleton, List.flatMap_singleton]
    exact h i

theorem SameLevels.below (l : Label) (h : SameLevels read ns ms) : SameLevels read [.mk l ns] [.mk l ms] := .mk rfl h

theorem sameLevels_nil (h : ∀ n ∈ preorderOf ns, read n.label = none) : SameLevels read ns [] := by
  have hnone : ∀ i, atLevel i [] = [] := fun i => List.subset_nil.1 (atLevel_subset i [])
  intro i
  rw [hnone, List.filterMap_nil, List.filterMap_eq_nil_iff]
  exact fun n hn => h n (atLevel_subset i ns hn)

theorem flatten_levelsOf (ns : List Node) : (levelsOf ns).flatten = ns ++ (levelsOf (ns.flatMap children)).flatten := by
  by_cases hns : ns = []
  · rw [hns]
    rfl
  · rw [levelsOf_eq_cons hns, List.flatten_cons]

/-- **What is read off level by level is the same** where it is on each level, also if one tree is deeper. -/
theorem SameLevels.filterMap_flatten (ns ms : List Node) (h : SameLevels read ns ms) :
    (levelsOf ns).flatten.filterMap (fun n => read n.label) = (levelsOf ms).flatten.filterMap fun n => read n.label := by
  by_cases hempty : ns.length + ms.length = 0
  · have hns : ns = [] := List.length_eq_zero_iff.1 (by omega)
    have hms : ms = [] := List.length_eq_zero_iff.1 (by omega)
    rw [hns, hms]
  · have hbelow := SameLevels.filterMap_flatten (ns.flatMap children) (ms.flatMap children) fun i => h (i + 1)
    rw [flatten_levelsOf ns, flatten_levelsOf ms, List.filterMap_append, List.filterMap_append, hbelow]
    exact congrArg (· ++ _) (h 0)
termination_by (preorderOf ns).length + (preorderOf ms).length
decreasing_by
  have hns := length_preorderOf_children ns
  have hms := length_preorderOf_children ms
  omega

theorem SameLevels.filterMap_walk {n m : Node} (h : SameLevels read [n] [m]) :
    n.walk.filterMap (fun x => read x.label) = m.walk.filterMap fun x => read x.label := by
  rw [← fromQueue_eq_walk, ← fromQueue_eq_walk, fromQueue_eq_flatten, fromQueue_eq_flatten]
  exact h.filterMap_flatten

end Node
end Source
end DocReview
