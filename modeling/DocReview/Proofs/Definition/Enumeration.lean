import Mathlib.Data.Multiset.AddSub
import Mathlib.Data.Multiset.MapFold
import DocReview.Proofs.Coverage.Account
import DocReview.Proofs.Definition.Decisions
import DocReview.Proofs.Source.Defined
/-!
# Enumeration — three ways to list the definitions of a file

The sizes of definitions are met on a walk by levels, the functions with their cyclomatic complexity on a visit that lists
each when it ends, and the records by two loops over the bodies of the file and its classes.  All three are read off the
definitions in the statements: the walk lists all of them (`sizes_perm_defined`), the visit those that are plain
functions (`cyclomatic_perm_defined`), and the records some of them (`placesOf_subperm_defined`).
-/
namespace DocReview
namespace Definition

open Source

/-! ## The walk -/

/-- The name and the line of a definition. -/
def Sized.place (s : Sized) : String × Nat := (s.name, s.line)

theorem place_sizeOf? (n : Node) : (sizeOf? n).map Sized.place = n.label.defined?.map Defined.place := by
  unfold sizeOf?
  cases n.label <;> rfl

/-- **A walk lists the definitions in the statements.** -/
theorem sizes_perm_defined (body : List Stmt) :
    ((sizes (programNode body)).map Sized.place).Perm ((definedIn body).map Defined.place) := by
  have hwalk := (Node.walk_perm_preorder (programNode body)).filterMap fun n => n.label.defined?.map Defined.place
  rw [← List.map_filterMap (l := (programNode body).preorder), ← definedBelow_singleton, definedBelow_program] at hwalk
  unfold sizes
  rw [List.map_filterMap]
  simpa only [place_sizeOf?] using hwalk

/-! ## The visit -/

/-- The names of the definitions of a kind. -/
def namesOf (kind : DefinitionKind) (ds : List Defined) : List String := (ds.filter fun d => d.kind = kind).map Defined.name

theorem namesOf_defined? (ns : List Node) :
    namesOf .function (ns.filterMap fun n => n.label.defined?) = ns.filterMap fun n => n.label.functionName? := by
  unfold namesOf
  rw [List.filter_filterMap, List.map_filterMap]
  refine List.filterMap_congr fun n _ => ?_
  cases n.label with
  | function isAsync => cases isAsync <;> rfl
  | _ => rfl

/-- **A visit lists the plain functions in the statements.** -/
theorem cyclomatic_perm_defined (body : List Stmt) :
    ((cyclomatic (programNode body)).map Scored.name).Perm (namesOf .function (definedIn body)) := by
  have hwalk := (Node.walk_perm_preorder (programNode body)).filterMap fun n => n.label.functionName?
  rw [← namesOf_defined? (programNode body).preorder, ← definedBelow_singleton, definedBelow_program] at hwalk
  exact (names_cyclomatic_perm body).trans hwalk

theorem names_eq_add_kinds : ∀ (ds : List Defined),
    (↑(ds.map Defined.name) : Multiset String) = ↑(namesOf .function ds) + ↑(namesOf .asyncFunction ds) +
      ↑(namesOf .classDef ds)
  | [] => rfl
  | d :: ds => by
    have ih := names_eq_add_kinds ds
    obtain ⟨kind, name, line⟩ := d
    unfold namesOf at ih ⊢
    cases kind <;> simp [ih, ← Multiset.cons_coe]

/-! ## The records -/

def placesOfClass (c : ClassRecord) : List (String × Nat) := (c.name, c.line) :: c.methods.map fun m => (m.name, m.line)

/-- The names and lines of the functions, classes and methods of a file. -/
def placesOf (r : FileRecord) : List (String × Nat) :=
  r.functions.map (fun f => (f.name, f.line)) ++ r.classes.flatMap placesOfClass

theorem length_placesOf (r : FileRecord) : (placesOf r).length = Coverage.definitionCount r := by
  rw [placesOf, List.length_append, List.length_map, List.length_flatMap, Coverage.definitionCount]
  congr 2
  refine List.map_congr_left fun c _ => ?_
  rw [placesOfClass, List.length_cons, List.length_map, Nat.add_comm]

theorem methods_sublist_defined (attributes : List String) (body : List Stmt) :
    ((body.filterMap (methodRecord? attributes)).map fun m => (m.name, m.line)).Sublist
      ((definedIn body).map Defined.place) := by
  induction body with
  | nil => exact .slnil
  | cons s ss ih =>
    rw [definedIn, List.map_append, List.filterMap_cons]
    split
    · exact ih.trans (List.sublist_append_right _ _)
    · rename_i m hm
      obtain ⟨rest, hrest⟩ : ∃ rest, s.defined.map Defined.place = (m.name, m.line) :: rest := by
        unfold methodRecord? at hm
        split at hm
        · cases hm
          exact ⟨_, rfl⟩
        · cases hm
      rw [hrest, List.map_cons, List.cons_append]
      exact (ih.trans (List.sublist_append_right _ _)).cons_cons _

def placesAt (s : Stmt) : List (String × Nat) :=
  (functionRecord? s).toList.map (fun f => (f.name, f.line)) ++ (classRecord? s).toList.flatMap placesOfClass

theorem placesAt_sublist (s : Stmt) : (placesAt s).Sublist (s.defined.map Defined.place) := by
  cases s with
  | funcDef isAsync span name params body decorators returns =>
    cases isAsync with
    | true => exact List.nil_sublist _
    | false => exact (List.nil_sublist _).cons_cons (name, span.line)
  | classDef span name bases keywords body decorators =>
    have h : placesAt (.classDef span name bases keywords body decorators) =
        (name, span.line) :: (body.filterMap (methodRecord? (classAttributes body))).map fun m => (m.name, m.line) := by
      simp [placesAt, functionRecord?, classRecord?, placesOfClass]
    rw [h, Stmt.defined, List.map_cons]
    exact (methods_sublist_defined _ body).cons_cons _
  | _ => exact List.nil_sublist _

/-- **The records of a file are of definitions in its statements**, each of them of another one. -/
theorem placesOf_subperm_defined (path : String) (body : List Stmt) :
    (placesOf (fileRecord path body)).Subperm ((definedIn body).map Defined.place) := by
  induction body with
  | nil => exact List.Sublist.subperm (List.nil_sublist _)
  | cons s ss ih =>
    have hplaces : (placesOf (fileRecord path (s :: ss))).Perm (placesAt s ++ placesOf (fileRecord path ss)) := by
      have hf : functionRecords (s :: ss) = (functionRecord? s).toList ++ functionRecords ss := by
        unfold functionRecords
        cases h : functionRecord? s <;> simp [h]
      have hc : classRecords (s :: ss) = (classRecord? s).toList ++ classRecords ss := by
        unfold classRecords
        cases h : classRecord? s <;> simp [h]
      unfold placesOf placesAt fileRecord
      simp only [hf, hc, List.map_append, List.flatMap_append, List.append_assoc]
      refine List.Perm.append_left _ ?_
      rw [← List.append_assoc, ← List.append_assoc]
      exact List.perm_append_comm.append_right _
    rw [definedIn, List.map_append]
    exact hplaces.subperm.trans ((placesAt_sublist s).subperm.append ih)

/-! ## All three together -/

/-- **The enumerations of definitions agree.** For every source file that parses, the names of the sized definitions are
those of the functions with a cyclomatic complexity together with those of the asynchronous functions and the classes in
its statements; and the functions, classes and methods of its record are among the sized definitions, by name and line, so
that its coverage never counts more items than there are sized definitions. -/
theorem enumerations_agree {d : Disk} {path : String} {cs : List Char} {body : List Stmt}
    (hread : d.readText path = .ok cs) (hparse : Source.parse cs = .ok body) :
    ∃ index ms r file, Scan.metrics d path = .ok (index, ms) ∧ Scan.file d path = .ok r ∧
      Coverage.fileCoverage r.value = .ok file ∧
      (↑(ms.map Sized.name) : Multiset String) = ↑((Scan.complexities cs).map Scored.name) +
        ↑(namesOf .asyncFunction (definedIn body)) + ↑(namesOf .classDef (definedIn body)) ∧
      (↑(placesOf r) : Multiset (String × Nat)) ≤ ↑(ms.map Sized.place) ∧ file.2.total ≤ ms.length := by
  have hprogram : Scan.program d path = .ok body :=
    Result.bind_eq_ok_iff.2 ⟨cs, hread, by rw [hparse]; rfl⟩
  have hmetrics : Scan.metrics d path =
      .ok (maintainability (sizes (programNode body)), sizes (programNode body)) :=
    Result.bind_eq_ok_iff.2 ⟨body, hprogram, rfl⟩
  have hfile : Scan.file d path = .ok (fileRecord path body) := Result.bind_eq_ok_iff.2 ⟨body, hprogram, rfl⟩
  have hnames : ((sizes (programNode body)).map Sized.name).Perm ((definedIn body).map Defined.name) := by
    have h := (sizes_perm_defined body).map Prod.fst
    rwa [List.map_map, List.map_map] at h
  have hplaces : (placesOf (fileRecord path body)).Subperm ((sizes (programNode body)).map Sized.place) :=
    (placesOf_subperm_defined path body).trans (sizes_perm_defined body).symm.subperm
  refine ⟨_, _, _, _, hmetrics, hfile, Coverage.fileCoverage_value _, ?_, Multiset.coe_le.2 hplaces, ?_⟩
  · rw [Scan.complexities, hparse, Multiset.coe_eq_coe.2 hnames, names_eq_add_kinds,
      Multiset.coe_eq_coe.2 (cyclomatic_perm_defined body)]
  · have hlength := hplaces.length_le
    rw [length_placesOf, List.length_map] at hlength
    exact (Coverage.lists_coverageOf (fileRecord path body)).total_definitions ▸ hlength

def sampleText : List Char := "class A:\n def m(self): pass\nasync def g():\n def h(): pass\n".toList

theorem parse_sampleText : ∃ body, Source.parse sampleText = .ok body ∧
    definedIn body = [⟨.classDef, "A", 1⟩, ⟨.function, "m", 2⟩, ⟨.asyncFunction, "g", 3⟩, ⟨.function, "h", 4⟩] := by
  have h : ((Source.parse sampleText).toOption.any fun body => decide (definedIn body =
      [⟨.classDef, "A", 1⟩, ⟨.function, "m", 2⟩, ⟨.asyncFunction, "g", 3⟩, ⟨.function, "h", 4⟩])) = true := by
    decide +kernel
  obtain ⟨body, hparse, hdefined⟩ := Result.any_toOption_iff.1 h
  exact ⟨body, hparse, of_decide_eq_true hdefined⟩

/-- All four definitions are sized; two of them have a cyclomatic complexity, and the record has the class and its
method. -/
theorem enumerations_agree_sample :
    (Disk.mk (.dir [("m.py", .file (.text sampleText))])).readText "m.py" = .ok sampleText ∧
      ∃ body index ms r file, Source.parse sampleText = .ok body ∧
        Scan.metrics ⟨.dir [("m.py", .file (.text sampleText))]⟩ "m.py" = .ok (index, ms) ∧
        Scan.file ⟨.dir [("m.py", .file (.text sampleText))]⟩ "m.py" = .ok r ∧
        Coverage.fileCoverage r.value = .ok file ∧ (↑(ms.map Sized.name) : Multiset String) = ↑["m", "h", "g", "A"] ∧
        file.2.total ≤ ms.length := by
  have hread : (Disk.mk (.dir [("m.py", .file (.text sampleText))])).readText "m.py" = .ok sampleText :=
    Result.bind_eq_ok_iff.2 ⟨.text sampleText, rfl, congrArg Except.ok (by decide +kernel)⟩
  obtain ⟨body, hparse, hdefined⟩ := parse_sampleText
  obtain ⟨index, ms, r, file, hmetrics, hfile, hcoverage, hnames, -, htotal⟩ := enumerations_agree hread hparse
  rw [Scan.complexities, hparse, Multiset.coe_eq_coe.2 (cyclomatic_perm_defined body), hdefined] at hnames
  exact ⟨hread, body, index, ms, r, file, hparse, hmetrics, hfile, hcoverage, hnames, htotal⟩

end Definition
end DocReview
