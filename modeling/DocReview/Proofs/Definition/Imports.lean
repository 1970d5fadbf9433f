import Mathlib.Data.List.Sort
import DocReview.Definition.Record
import DocReview.Proofs.Source.Bodies
/-!
# Imports — the names that a program imports, as a sorted set

Names are put one by one into a list that stays strictly sorted (`pairwise_insertName`) and holds what was put into it
(`mem_insertName`).  A walk meets the import statements wherever they stand, and no other node has names to put there
(`mem_names_walk`).  So the list is determined by the names alone, and the order of the statements leaves no trace in it
(`importedNames_canonical`).
-/
namespace DocReview
namespace Source

/-- A statement imports a name: that of an alias, behind the module it is taken from if that has a name. -/
inductive Stmt.Imports : Stmt → String → Prop
  | plain {names : List Alias} {a : Alias} (h : a ∈ names) : Imports (.importNames names) a.name
  | fromModule {m : String} {names : List Alias} {level : Nat} {a : Alias} (hm : m ≠ "") (h : a ∈ names) :
      Imports (.importFrom (some m) names level) (m ++ "." ++ a.name)
  | fromUnnamed {module : Option String} {names : List Alias} {level : Nat} {a : Alias} (hm : module.getD "" = "")
      (h : a ∈ names) : Imports (.importFrom module names level) a.name

def Label.names : Label → List String
  | .imports names => names
  | _ => []

theorem Label.isStatement_of_mem_names {l : Label} {name : String} (h : name ∈ l.names) : l.isStatement = true := by
  cases l with
  | imports => rfl
  | _ => cases h

theorem mem_importedFrom {module : Option String} {names : List Alias} (level : Nat) {name : String} :
    name ∈ importedFrom module names ↔ (Stmt.importFrom module names level).Imports name := by
  unfold importedFrom
  dsimp only
  rw [List.mem_map]
  constructor
  · rintro ⟨a, ha, rfl⟩
    by_cases hm : module.getD "" = ""
    · rw [if_pos hm]
      exact .fromUnnamed hm ha
    · rw [if_neg hm]
      cases module with
      | none => exact absurd rfl hm
      | some m => exact .fromModule hm ha
  · rintro (_ | ⟨hm, ha⟩ | ⟨hm, ha⟩)
    · exact ⟨_, ha, if_neg hm⟩
    · exact ⟨_, ha, if_pos hm⟩

theorem Stmt.mem_names_label (s : Stmt) {name : String} : name ∈ s.node.label.names ↔ s.Imports name := by
  have hnone : ∀ {l : Label}, l.names = [] → (∀ n, ¬ s.Imports n) → (name ∈ l.names ↔ s.Imports name) := by
    intro l hl hs
    simp [hl, hs]
  cases s with
  | importNames names =>
    rw [node, Node.label, Label.names]
    constructor
    · intro h
      obtain ⟨a, ha, rfl⟩ := List.mem_map.1 h
      exact .plain ha
    · rintro ⟨ha⟩
      exact List.mem_map.2 ⟨_, ha, rfl⟩
  | importFrom module names level => exact mem_importedFrom level
  | forLoop isAsync => cases isAsync <;> exact hnone rfl nofun
  | withBlock isAsync => cases isAsync <;> exact hnone rfl nofun
  | tryExcept grouped => cases grouped <;> exact hnone rfl nofun
  | _ => exact hnone rfl nofun

theorem exists_mem_names_filter {ls : List Label} {name : String} :
    (∃ l ∈ ls.filter Label.isStatement, name ∈ l.names) ↔ ∃ l ∈ ls, name ∈ l.names := by
  constructor
  · rintro ⟨l, hl, hname⟩
    exact ⟨l, (List.mem_filter.1 hl).1, hname⟩
  · rintro ⟨l, hl, hname⟩
    exact ⟨l, List.mem_filter.2 ⟨hl, Label.isStatement_of_mem_names hname⟩, hname⟩

/-- **A walk meets what the statements import**, however deep they stand. -/
theorem mem_names_walk (body : List Stmt) {name : String} :
    name ∈ ((programNode body).walk.flatMap fun n => n.label.names) ↔ ∃ s ∈ body.flatMap Stmt.endings, s.Imports name := by
  have hlabels : ∀ {α : Type} (label : α → Label) {l : List α},
      (∃ x ∈ l, name ∈ (label x).names) ↔ ∃ y ∈ (l.map label).filter Label.isStatement, name ∈ y.names := by
    intro α label l
    rw [exists_mem_names_filter]
    simp
  rw [List.mem_flatMap, hlabels Node.label]
  simp only [← Stmt.mem_names_label]
  rw [hlabels fun s : Stmt => s.node.label]
  simp only [(statementLabels_walk body).mem_iff]

end Source

namespace Definition

open Source

/-! ## A sorted list of names -/

@[simp] theorem mem_insertName {x name : String} : ∀ {ns : List String}, x ∈ insertName name ns ↔ x = name ∨ x ∈ ns
  | [] => by simp [insertName]
  | n :: ns => by
    have ih : x ∈ insertName name ns ↔ x = name ∨ x ∈ ns := mem_insertName
    rw [insertName]
    split
    · simp
    · split
      · rename_i heq
        simp [heq]
      · simp only [List.mem_cons, ih]
        exact or_left_comm

theorem pairwise_insertName {name : String} : ∀ {ns : List String}, ns.Pairwise (· < ·) →
    (insertName name ns).Pairwise (· < ·)
  | [], _ => by simp [insertName]
  | n :: ns, h => by
    obtain ⟨hfirst, hrest⟩ := List.pairwise_cons.1 h
    rw [insertName]
    by_cases hlt : name < n
    · rw [if_pos hlt]
      refine List.pairwise_cons.2 ⟨fun x hx => ?_, h⟩
      rcases List.mem_cons.1 hx with rfl | hx
      · exact hlt
      · exact String.lt_trans hlt (hfirst x hx)
    · rw [if_neg hlt]
      by_cases heq : name = n
      · rwa [if_pos heq]
      · rw [if_neg heq]
        -- neither before the first name nor equal to it: it goes somewhere behind
        have hgt : n < name := (Std.lt_trichotomy name n).resolve_left hlt |>.resolve_left heq
        refine List.pairwise_cons.2 ⟨fun x hx => ?_, pairwise_insertName hrest⟩
        rcases mem_insertName.1 hx with rfl | hx
        · exact hgt
        · exact hfirst x hx

theorem foldl_insertName : ∀ (names : List String) {acc : List String}, acc.Pairwise (· < ·) →
    (names.foldl (fun acc name => insertName name acc) acc).Pairwise (· < ·) ∧
      ∀ x, x ∈ names.foldl (fun acc name => insertName name acc) acc ↔ x ∈ names ∨ x ∈ acc
  | [], acc, h => ⟨h, by simp⟩
  | name :: names, acc, h => by
    have hacc : (insertName name acc).Pairwise (· < ·) := pairwise_insertName h
    obtain ⟨hsorted, hmem⟩ := foldl_insertName names hacc
    refine ⟨hsorted, fun x => ?_⟩
    rw [List.foldl_cons, hmem, mem_insertName, List.mem_cons, or_left_comm, or_assoc]

/-! ## The imported names of a program -/

theorem importedNames_eq (program : Node) : importedNames program =
    (program.walk.flatMap fun n => n.label.names).foldl (fun acc name => insertName name acc) [] := rfl

theorem pairwise_importedNames (program : Node) : (importedNames program).Pairwise (· < ·) :=
  (foldl_insertName _ .nil).1

theorem mem_importedNames {body : List Stmt} {name : String} :
    name ∈ importedNames (programNode body) ↔ ∃ s ∈ body.flatMap Stmt.endings, s.Imports name := by
  rw [importedNames_eq, (foldl_insertName _ .nil).2, mem_names_walk]
  simp

/-- Programs with the same import statements, wherever these stand, have the same list. -/
theorem importedNames_congr {body body' : List Stmt} (h : ∀ s name, Stmt.Imports s name →
    (s ∈ body'.flatMap Stmt.endings ↔ s ∈ body.flatMap Stmt.endings)) :
    importedNames (programNode body') = importedNames (programNode body) := by
  refine (pairwise_importedNames _).eq_of_mem_iff (pairwise_importedNames _) fun name => ?_
  rw [mem_importedNames, mem_importedNames]
  constructor
  · rintro ⟨s, hs, himports⟩
    exact ⟨s, (h s name himports).1 hs, himports⟩
  · rintro ⟨s, hs, himports⟩
    exact ⟨s, (h s name himports).2 hs, himports⟩

/-- **The imported names of a program are a set in canonical form.**  For the statements of every program, the list is
strictly increasing, so no name is there twice; a name is in it exactly if an import statement has it, at whatever depth
this stands and in whatever body or branch.  So the list is the same for the statements in any other order, and for every
program that has the same import statements in other places. -/
theorem importedNames_canonical (body : List Stmt) :
    (importedNames (programNode body)).Pairwise (· < ·) ∧
      (∀ name, name ∈ importedNames (programNode body) ↔ ∃ s ∈ body.flatMap Stmt.endings, s.Imports name) ∧
      (∀ body' : List Stmt, body'.Perm body → importedNames (programNode body') = importedNames (programNode body)) ∧
      ∀ body' : List Stmt, (∀ s name, Stmt.Imports s name →
          (s ∈ body'.flatMap Stmt.endings ↔ s ∈ body.flatMap Stmt.endings)) →
        importedNames (programNode body') = importedNames (programNode body) := by
  refine ⟨pairwise_importedNames _, fun name => mem_importedNames, fun body' hperm => ?_, fun body' => importedNames_congr⟩
  exact importedNames_congr fun s _ _ => (hperm.flatMap_right Stmt.endings).mem_iff

/-- An import in a handler in a function, and one from a module that is there twice. -/
def sampleImports : List Stmt :=
  [.funcDef false ⟨1, 5, 0⟩ "f" .empty
      [.tryExcept false [.importNames [⟨"os.path", none⟩]] [.mk none none [.importFrom none [⟨"a", none⟩] 1]] [] []] [] none,
    .importFrom (some "m") [⟨"x", some "y"⟩, ⟨"x", none⟩] 0]

theorem importedNames_canonical_sample :
    importedNames (programNode sampleImports) = ["a", "m.x", "os.path"] ∧ sampleImports.reverse.Perm sampleImports ∧
      importedNames (programNode sampleImports.reverse) = ["a", "m.x", "os.path"] ∧
      ∃ s ∈ sampleImports.flatMap Stmt.endings, s.Imports "a" := by
  have hnames : importedNames (programNode sampleImports) = ["a", "m.x", "os.path"] := by decide +kernel
  obtain ⟨-, hmem, hperm, -⟩ := importedNames_canonical sampleImports
  refine ⟨hnames, List.reverse_perm _, ?_, (hmem "a").1 (by simp [hnames])⟩
  rw [hperm _ (List.reverse_perm _), hnames]

end Definition
end DocReview
