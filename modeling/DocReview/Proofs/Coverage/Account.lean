import Mathlib.Algebra.BigOperators.Group.List.Basic
import Mathlib.Algebra.GroupWithZero.Nat
import Mathlib.Algebra.Order.Group.Nat
import DocReview.Proofs.Coverage.Counters
import DocReview.Proofs.Scan.Selection
/-!
# Account — coverage counts every definition once

The items of a file's coverage are the functions of its record, and its classes each followed by its methods
(`fileItems_value`).  Under distinct paths the report lists the files one by one (`foldl_enter`), so its summary adds up
what it lists, in whatever order the files are (`coverage_accounts_once`).
-/
namespace DocReview
namespace Coverage

open Definition (FunctionRecord MethodRecord ClassRecord FileRecord)

/-! ## The items of a record -/

def functionItem (f : FunctionRecord) : Item := ⟨.function, .str f.name, .int f.line, .bool f.hasDocstring⟩

def methodItem (owner : String) (m : MethodRecord) : Item :=
  ⟨.method (.str owner), .str m.name, .int m.line, .bool m.hasDocstring⟩

def itemsOfClass (c : ClassRecord) : List Item :=
  ⟨.classDef, .str c.name, .int c.line, .bool c.hasDocstring⟩ :: c.methods.map (methodItem c.name)

/-- The functions of a file and then its classes, each with its methods. -/
def itemsOf (r : FileRecord) : List Item := r.functions.map functionItem ++ r.classes.flatMap itemsOfClass

def definitionCount (r : FileRecord) : Nat :=
  r.functions.length + (r.classes.map fun c => 1 + c.methods.length).sum

theorem length_itemsOf (r : FileRecord) : (itemsOf r).length = definitionCount r := by
  rw [itemsOf, List.length_append, List.length_map, List.length_flatMap, definitionCount]
  congr 2
  refine List.map_congr_left fun c _ => ?_
  rw [itemsOfClass, List.length_cons, List.length_map, Nat.add_comm]

/-- How many definitions of a record are documented. -/
def documentedCount (r : FileRecord) : Nat :=
  r.functions.countP FunctionRecord.hasDocstring +
    (r.classes.map fun c => c.hasDocstring.toNat + c.methods.countP MethodRecord.hasDocstring).sum

theorem countP_itemsOf (r : FileRecord) : (itemsOf r).countP (fun i => i.hasDoc.truthy) = documentedCount r := by
  rw [itemsOf, List.countP_append, List.countP_map, List.countP_flatMap, documentedCount]
  congr 2
  refine List.map_congr_left fun c _ => ?_
  rw [Function.comp_apply, itemsOfClass, List.countP_cons, List.countP_map, Nat.add_comm]
  congr 1
  cases h : c.hasDocstring <;> simp [Value.truthy]

theorem classItems_value (c : ClassRecord) : classItems c.value = .ok (itemsOfClass c) := by
  have hmethods : (c.methods.map MethodRecord.value).mapM (itemOf (.method (.str c.name))) =
      .ok (c.methods.map (methodItem c.name)) :=
    Result.mapM_map_eq_ok fun m _ => rfl
  unfold classItems
  refine Result.bind_eq_ok_iff.2 ⟨_, rfl, Result.bind_eq_ok_iff.2 ⟨_, rfl, Result.bind_eq_ok_iff.2 ⟨_, rfl, ?_⟩⟩⟩
  exact Result.bind_eq_ok_iff.2 ⟨_, hmethods, rfl⟩

/-- **The items of a file are those its record describes.** -/
theorem fileItems_value (r : FileRecord) : fileItems r.value = .ok (itemsOf r) := by
  have hfunctions : (r.functions.map FunctionRecord.value).mapM (itemOf .function) =
      .ok (r.functions.map functionItem) :=
    Result.mapM_map_eq_ok fun f _ => rfl
  have hclasses : (r.classes.map ClassRecord.value).mapM classItems = .ok (r.classes.map itemsOfClass) :=
    Result.mapM_map_eq_ok fun c _ => classItems_value c
  unfold fileItems
  refine Result.bind_eq_ok_iff.2 ⟨_, rfl, Result.bind_eq_ok_iff.2 ⟨_, rfl, Result.bind_eq_ok_iff.2 ⟨_, rfl, ?_⟩⟩⟩
  refine Result.bind_eq_ok_iff.2 ⟨_, hfunctions, Result.bind_eq_ok_iff.2 ⟨_, rfl, ?_⟩⟩
  exact Result.bind_eq_ok_iff.2 ⟨_, hclasses, by rw [itemsOf, List.flatMap_def]; rfl⟩

def coverageOf (r : FileRecord) : String × FileCoverage := (r.path, .ofItems (itemsOf r))

theorem fileCoverage_value (r : FileRecord) : fileCoverage r.value = .ok (coverageOf r) := by
  rw [fileCoverage_eq]
  exact Result.bind_eq_ok_iff.2 ⟨.str r.path, rfl, Result.bind_eq_ok_iff.2 ⟨_, fileItems_value r, rfl⟩⟩

/-! ## The report of records -/

theorem enter_of_notMem {α : Type} {path : String} {a : α} : ∀ {l : List (String × α)},
    path ∉ l.map Prod.fst → enter path a l = l ++ [(path, a)]
  | [], _ => rfl
  | (p, g) :: l, h => by
    rw [List.map_cons, List.mem_cons, not_or] at h
    rw [enter, if_neg (Ne.symm h.1), enter_of_notMem h.2, List.cons_append]

/-- Under distinct paths every file gets a place of its own. -/
theorem foldl_enter : ∀ {l entered : List (String × FileCoverage)}, ((entered ++ l).map Prod.fst).Nodup →
    l.foldl (fun files p => enter p.1 p.2 files) entered = entered ++ l
  | [], entered, _ => by rw [List.foldl_nil, List.append_nil]
  | p :: l, entered, h => by
    have hp : p.1 ∉ entered.map Prod.fst := by
      rw [List.map_append, List.map_cons, List.nodup_append] at h
      exact fun hmem => h.2.2 _ hmem _ List.mem_cons_self rfl
    rw [List.foldl_cons, enter_of_notMem hp, foldl_enter]
    · rw [List.append_assoc, List.singleton_append]
    · rwa [List.append_assoc, List.singleton_append]

/-- **The report of records**, whatever their paths. -/
theorem compute_value (rs : List FileRecord) :
    compute (.list (rs.map FileRecord.value)) =
      .ok ⟨(rs.map coverageOf).foldl (fun files p => enter p.1 p.2 files) [], summaryOf (rs.map coverageOf)⟩ :=
  compute_of_covered (Result.mapM_map_eq_ok fun r _ => fileCoverage_value r)

theorem summaryOf_perm {files files' : List (String × FileCoverage)} (h : files'.Perm files) :
    summaryOf files' = summaryOf files := by
  have htotal := (h.map fun p => p.2.total).sum_eq
  have hdocumented := (h.map fun p => p.2.documented).sum_eq
  unfold summaryOf
  rw [htotal, hdocumented]

/-! ## What a report accounts for -/

/-- What a report lists for a record: its own items, each counted once, and of them the documented ones. -/
structure Lists (r : FileRecord) (file : String × FileCoverage) : Prop where
  path : file.1 = r.path
  items : file.2.items = itemsOf r
  total_items : file.2.total = file.2.items.length
  total_definitions : file.2.total = definitionCount r
  documented_items : file.2.documented = file.2.items.countP fun i => i.hasDoc.truthy
  documented_definitions : file.2.documented = documentedCount r
  documented_le : file.2.documented ≤ file.2.total

/-- A report of records has one file for each, its summary adds up what the files have, and it would be the same in
every other order. -/
structure Accounts (rs : List FileRecord) (report : Report) : Prop where
  computed : compute (.list (rs.map FileRecord.value)) = .ok report
  files : List.Forall₂ Lists rs report.files
  total : report.summary.total = (report.files.map fun p => p.2.total).sum
  documented : report.summary.documented = (report.files.map fun p => p.2.documented).sum
  reordered : ∀ rs' : List FileRecord, rs'.Perm rs →
    ∃ report', compute (.list (rs'.map FileRecord.value)) = .ok report' ∧ report'.summary = report.summary

theorem lists_coverageOf (r : FileRecord) : Lists r (coverageOf r) where
  path := rfl
  items := rfl
  total_items := rfl
  total_definitions := length_itemsOf r
  documented_items := rfl
  documented_definitions := countP_itemsOf r
  documented_le := List.countP_le_length

theorem accounts_of_distinct {rs : List FileRecord} (h : (rs.map FileRecord.path).Nodup) :
    Accounts rs ⟨rs.map coverageOf, summaryOf (rs.map coverageOf)⟩ where
  computed := by
    have hpaths : ((([] : List (String × FileCoverage)) ++ rs.map coverageOf).map Prod.fst).Nodup := by
      rw [List.nil_append, List.map_map]
      exact h
    rw [compute_value, foldl_enter hpaths, List.nil_append]
  files := by
    rw [List.forall₂_map_right_iff, List.forall₂_same]
    exact fun r _ => lists_coverageOf r
  total := rfl
  documented := rfl
  reordered rs' hperm := ⟨_, compute_value rs', summaryOf_perm (hperm.map coverageOf)⟩

/-- **Coverage accounts for everything once.** For records with distinct paths, and so for those that a scan of a
directory tree gives, the report has one file for each record, with all its functions, classes and methods; its summary
adds up the files and does not depend on their order. -/
theorem coverage_accounts_once :
    (∀ rs : List FileRecord, (rs.map FileRecord.path).Nodup → ∃ report, Accounts rs report) ∧
      ∀ (d : Disk) (root : String) (es : List (String × Entry)), d.root.IsTree → d.find root = .ok (.dir es) →
        ∃ rs report, Scan.records d root = .ok rs ∧ Accounts rs report := by
  refine ⟨fun rs h => ⟨_, accounts_of_distinct h⟩, fun d root es tree hroot => ?_⟩
  have hscan : Scan.records d root = _ := Scan.records_eq_locations tree hroot
  exact ⟨_, _, hscan, accounts_of_distinct (Scan.nodup_paths tree hroot hscan)⟩

def sampleRecord (path : String) : FileRecord :=
  ⟨path, [⟨"f", 1, 2, [], [], none, false, 1, 0, [], false, 4⟩],
    [⟨"C", 4, 7, true, [⟨"m", 6, 7, [], none, false, 1, 0, [], 8⟩]⟩], [], false⟩

/-- Two such files have six items, two of them documented. -/
theorem coverage_accounts_once_sample :
    (["a.py", "b.py"].map fun path => (sampleRecord path).path).Nodup ∧
      ∃ report, Accounts (["a.py", "b.py"].map sampleRecord) report ∧ report.summary.total = 6 ∧
        report.summary.documented = 2 := by
  have hdistinct : ((["a.py", "b.py"].map sampleRecord).map FileRecord.path).Nodup := by decide
  obtain ⟨report, h⟩ := coverage_accounts_once.1 _ hdistinct
  refine ⟨hdistinct, report, h, ?_⟩
  have hreport := h.computed.symm.trans (compute_value _)
  cases hreport
  exact ⟨rfl, rfl⟩

end Coverage
end DocReview
