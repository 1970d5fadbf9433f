import DocReview.Proofs.Coverage.Account
import DocReview.Proofs.Screen
import DocReview.Proofs.Value
import DocReview.Report.Rows
import DocReview.Review.Feature
/-!
# Export — the rows of an export are the items of the coverage

The rows that are exported (`rows_value`) are the items of the coverage report less the methods, one by one and in the
same order: the same name, the same kind of definition and the same status (`Shows`).  So an export counts fewer items
than the coverage does, by the number of methods, and fewer documented ones, by the number of documented methods
(`export_shows_coverage`).
-/
namespace DocReview

namespace Report

open Definition (Argument FunctionRecord MethodRecord ClassRecord FileRecord)
open Coverage (Item itemsOf itemsOfClass functionItem methodItem coverageOf summaryOf)

/-! ## The rows of records -/

def argumentText (f : FunctionRecord) : String :=
  String.ofList (Text.joinWith ", ".toList (f.args.map fun a => a.name.toList))

def functionRowOf (file : String) (f : FunctionRecord) : Row := ⟨file, false, .str f.name, argumentText f, f.hasDocstring⟩

def classRowOf (file : String) (c : ClassRecord) : Row := ⟨file, true, .str c.name, "", c.hasDocstring⟩

def rowsOf (r : FileRecord) : List Row :=
  r.functions.map (functionRowOf (Path.name r.path)) ++ r.classes.map (classRowOf (Path.name r.path))

theorem argumentNames_value (f : FunctionRecord) : argumentNames f.value = .ok (argumentText f) := by
  have hnames : (f.args.map Argument.value).mapM (fun a => a.field "name") = .ok (f.args.map fun a => .str a.name) :=
    Result.mapM_map_eq_ok fun a _ => rfl
  have htexts := Value.itemTexts_strings 0 (f.args.map Argument.name)
  rw [List.map_map, List.map_map] at htexts
  refine Result.bind_eq_ok_iff.2 ⟨_, rfl, Result.bind_eq_ok_iff.2 ⟨_, rfl, Result.bind_eq_ok_iff.2 ⟨_, hnames, ?_⟩⟩⟩
  exact Result.bind_eq_ok_iff.2 ⟨_, htexts, rfl⟩

theorem functionRow_value (file : String) (f : FunctionRecord) : functionRow file f.value = .ok (functionRowOf file f) :=
  Result.bind_eq_ok_iff.2 ⟨_, argumentNames_value f, rfl⟩

theorem fileRows_eq (r : FileRecord) : fileRows r.value = .ok (rowsOf r) := by
  have hfunctions : (r.functions.map FunctionRecord.value).mapM (functionRow (Path.name r.path)) =
      .ok (r.functions.map (functionRowOf (Path.name r.path))) :=
    Result.mapM_map_eq_ok fun f _ => functionRow_value _ f
  have hclasses : (r.classes.map ClassRecord.value).mapM (classRow (Path.name r.path)) =
      .ok (r.classes.map (classRowOf (Path.name r.path))) :=
    Result.mapM_map_eq_ok fun c _ => rfl
  refine Result.bind_eq_ok_iff.2 ⟨_, rfl, Result.bind_eq_ok_iff.2 ⟨_, rfl, Result.bind_eq_ok_iff.2 ⟨_, rfl, ?_⟩⟩⟩
  refine Result.bind_eq_ok_iff.2 ⟨_, rfl, Result.bind_eq_ok_iff.2 ⟨_, hfunctions, Result.bind_eq_ok_iff.2 ⟨_, rfl, ?_⟩⟩⟩
  exact Result.bind_eq_ok_iff.2 ⟨_, rfl, Result.bind_eq_ok_iff.2 ⟨_, hclasses, rfl⟩⟩

/-- **The rows of records** are those of their files, one file after the other. -/
theorem rows_value (rs : List FileRecord) : rows (.list (rs.map FileRecord.value)) = .ok (rs.flatMap rowsOf) := by
  have hfiles : (rs.map FileRecord.value).mapM fileRows = .ok (rs.map rowsOf) :=
    Result.mapM_map_eq_ok fun r _ => fileRows_eq r
  refine Result.bind_eq_ok_iff.2 ⟨_, rfl, Result.bind_eq_ok_iff.2 ⟨_, hfiles, ?_⟩⟩
  rw [List.flatMap_def]
  rfl

/-! ## Items with and without methods -/

/-- Whether an item is a method of a class. -/
def isMethod (i : Item) : Bool :=
  match i.role with
  | .method _ => true
  | _ => false

/-- The methods of a file's classes. -/
def methodsOf (r : FileRecord) : List MethodRecord := r.classes.flatMap ClassRecord.methods

def classItem (c : ClassRecord) : Item := ⟨.classDef, .str c.name, .int c.line, .bool c.hasDocstring⟩

theorem plain_items (r : FileRecord) :
    (itemsOf r).filter (fun i => !isMethod i) = r.functions.map functionItem ++ r.classes.map classItem := by
  have hfunctions : (r.functions.map functionItem).filter (fun i => !isMethod i) = r.functions.map functionItem :=
    List.filter_eq_self.2 fun i hi => by
      obtain ⟨f, -, rfl⟩ := List.mem_map.1 hi
      rfl
  have hclass : ∀ c : ClassRecord, (itemsOfClass c).filter (fun i => !isMethod i) = [classItem c] := by
    intro c
    have hmethods : (c.methods.map (methodItem c.name)).filter (fun i => !isMethod i) = [] :=
      List.filter_eq_nil_iff.2 fun i hi => by
        obtain ⟨m, -, rfl⟩ := List.mem_map.1 hi
        simp [isMethod, methodItem]
    rw [itemsOfClass, List.filter_cons_of_pos rfl, hmethods]
    rfl
  rw [itemsOf, List.filter_append, hfunctions, List.filter_flatMap]
  simp only [hclass]
  rw [List.map_eq_flatMap (f := classItem)]

theorem method_items (r : FileRecord) :
    (itemsOf r).filter isMethod = r.classes.flatMap fun c => c.methods.map (methodItem c.name) := by
  have hfunctions : (r.functions.map functionItem).filter isMethod = [] :=
    List.filter_eq_nil_iff.2 fun i hi => by
      obtain ⟨f, -, rfl⟩ := List.mem_map.1 hi
      simp [isMethod, functionItem]
  have hclass : ∀ c : ClassRecord, (itemsOfClass c).filter isMethod = c.methods.map (methodItem c.name) := by
    intro c
    rw [itemsOfClass, List.filter_cons_of_neg (by simp [isMethod])]
    exact List.filter_eq_self.2 fun i hi => by
      obtain ⟨m, -, rfl⟩ := List.mem_map.1 hi
      rfl
  rw [itemsOf, List.filter_append, hfunctions, List.nil_append, List.filter_flatMap]
  simp only [hclass]

theorem countP_method_items (r : FileRecord) :
    ((itemsOf r).filter isMethod).countP (fun i => i.hasDoc.truthy) = (methodsOf r).countP MethodRecord.hasDocstring := by
  rw [method_items, methodsOf, List.countP_flatMap, List.countP_flatMap]
  congr 1
  refine List.map_congr_left fun c _ => ?_
  exact List.countP_map

theorem length_method_items (r : FileRecord) : ((itemsOf r).filter isMethod).length = (methodsOf r).length := by
  rw [method_items, methodsOf, List.length_flatMap, List.length_flatMap]
  congr 1
  refine List.map_congr_left fun c _ => ?_
  exact List.length_map _

/-! ## Rows and items -/

/-- A row shows an item: as data, they have the same name, are of the same kind, and the row says that a docstring is there
exactly if the item has one. -/
structure Shows (i : Item) (row : Row) : Prop where
  name : ∃ name, i.value.field "name" = .ok (.str name) ∧ row.value.field "Name" = .ok (.str name)
  kind : i.value.field "type" = .ok (.str "function") ∧ row.value.field "Type" = .ok (.str "Function") ∨
    i.value.field "type" = .ok (.str "class") ∧ row.value.field "Type" = .ok (.str "Class")
  status : i.value.field "has_doc" = .ok (.bool true) ↔ row.value.field "Docstring" = .ok (.str "Present")

theorem status_iff {hasDoc : Value} {row : Row} (h : hasDoc = .bool row.documented) :
    (Except.ok hasDoc : Except Fault Value) = .ok (.bool true) ↔
      (Except.ok (.str row.status) : Except Fault Value) = .ok (.str "Present") := by
  rw [h, Row.status]
  cases row.documented with
  | true => simp
  | false => simp

theorem shows_function (file : String) (f : FunctionRecord) : Shows (functionItem f) (functionRowOf file f) where
  name := ⟨f.name, rfl, rfl⟩
  kind := Or.inl ⟨rfl, rfl⟩
  status := status_iff rfl

theorem shows_class (file : String) (c : ClassRecord) : Shows (classItem c) (classRowOf file c) where
  name := ⟨c.name, rfl, rfl⟩
  kind := Or.inr ⟨rfl, rfl⟩
  status := status_iff rfl

theorem shows_rowsOf (r : FileRecord) : List.Forall₂ Shows ((itemsOf r).filter fun i => !isMethod i) (rowsOf r) := by
  rw [plain_items, rowsOf]
  refine List.rel_append ?_ ?_
  · rw [List.forall₂_map_left_iff, List.forall₂_map_right_iff, List.forall₂_same]
    exact fun f _ => shows_function _ f
  · rw [List.forall₂_map_left_iff, List.forall₂_map_right_iff, List.forall₂_same]
    exact fun c _ => shows_class _ c

theorem countP_rowsOf (r : FileRecord) :
    ((itemsOf r).filter fun i => !isMethod i).countP (fun i => i.hasDoc.truthy) = (rowsOf r).countP Row.documented := by
  rw [plain_items, rowsOf, List.countP_append, List.countP_append]
  simp only [List.countP_map]
  rfl

theorem shows_rows (rs : List FileRecord) :
    List.Forall₂ Shows ((rs.flatMap itemsOf).filter fun i => !isMethod i) (rs.flatMap rowsOf) := by
  rw [List.filter_flatMap]
  induction rs with
  | nil => exact .nil
  | cons r rs ih =>
    rw [List.flatMap_cons, List.flatMap_cons]
    exact List.rel_append (shows_rowsOf r) ih

theorem length_itemsOf_rows (r : FileRecord) : (itemsOf r).length = (rowsOf r).length + (methodsOf r).length := by
  rw [← length_method_items, ← (shows_rowsOf r).length_eq, Nat.add_comm]
  exact List.length_eq_length_filter_add _

theorem countP_itemsOf_rows (r : FileRecord) : (itemsOf r).countP (fun i => i.hasDoc.truthy) =
    (rowsOf r).countP Row.documented + (methodsOf r).countP MethodRecord.hasDocstring := by
  rw [← countP_method_items, ← countP_rowsOf, Nat.add_comm]
  exact List.countP_eq_countP_filter_add _ _ _

/-- **The summary of a report counts the rows and the methods.** -/
theorem summaryOf_rows (rs : List FileRecord) :
    (summaryOf (rs.map coverageOf)).total = (rs.flatMap rowsOf).length + (rs.flatMap methodsOf).length ∧
      (summaryOf (rs.map coverageOf)).documented = (rs.flatMap rowsOf).countP Row.documented +
        (rs.flatMap methodsOf).countP MethodRecord.hasDocstring := by
  induction rs with
  | nil => exact ⟨rfl, rfl⟩
  | cons r rs ih =>
    have htotal : (summaryOf ((r :: rs).map coverageOf)).total =
        (itemsOf r).length + (summaryOf (rs.map coverageOf)).total := List.sum_cons
    have hdocumented : (summaryOf ((r :: rs).map coverageOf)).documented =
        (itemsOf r).countP (fun i => i.hasDoc.truthy) + (summaryOf (rs.map coverageOf)).documented := List.sum_cons
    rw [htotal, hdocumented, ih.1, ih.2, length_itemsOf_rows, countP_itemsOf_rows]
    simp only [List.flatMap_cons, List.length_append, List.countP_append]
    omega

/-! ## The panel -/

open Screen Review

def exportHeading : List Element :=
  [.markdown "## 📤 Export Data", .caption "Download analysis results in JSON or CSV format",
    .markdown "### 📊 Export Summary"]

def exportFiles (exported : List Row) : List Element :=
  [.download "📥 Export as JSON" (String.ofList (Json.indented (.list (exported.map Row.value)))) "docstring_report.json"
      "application/json",
    .download "📥 Export as CSV" (exportCsv exported) "docstring_report.csv" "text/csv"]

/-- A text says a number behind a label: all its digits, and no other digit behind them. -/
def Says (text label : String) (n : Nat) : Prop :=
  ∃ before after, text = before ++ (label ++ (toString n ++ after)) ∧ ∀ c ∈ after.toList.head?, c.isDigit = false

theorem says_here {label after : String} {n : Nat} (h : ∀ c ∈ after.toList.head?, c.isDigit = false) :
    Says (label ++ (toString n ++ after)) label n := ⟨"", after, String.empty_append.symm, h⟩

theorem Says.behind {text label : String} {n : Nat} (h : Says text label n) (first : String) :
    Says (first ++ text) label n := by
  obtain ⟨before, after, rfl, hafter⟩ := h
  exact ⟨first ++ before, after, String.append_assoc.symm, hafter⟩

/-- A text counts items, those that are documented and those that are not. -/
structure SaysCounts (text : String) (n m : Nat) : Prop where
  total : Says text "• **Total Items:** " n
  documented : Says text "• **Documented:** " m
  missing : Says text "• **Missing Docstrings:** " (n - m)

theorem saysCounts_lines (gap : String) (hgap : ∀ c ∈ gap.toList.head?, c.isDigit = false) (n m : Nat) :
    SaysCounts (gap ++ "• **Total Items:** " ++ toString n ++ "  " ++ gap ++ "• **Documented:** " ++ toString m ++ "  "
      ++ gap ++ "• **Missing Docstrings:** " ++ toString (n - m) ++ gap) n m := by
  have hblank : ∀ (rest : String), ∀ c ∈ ("  " ++ rest).toList.head?, c.isDigit = false := by
    intro rest c hc
    rw [String.toList_append] at hc
    cases hc
    decide
  simp only [String.append_assoc]
  constructor
  · exact (says_here (hblank _)).behind gap
  · iterate 5 refine Says.behind ?_ _
    exact says_here (hblank _)
  · iterate 9 refine Says.behind ?_ _
    exact says_here hgap

/-- **The summary of an export says what it is given.** -/
theorem saysCounts_exportSummary (n m : Nat) : SaysCounts (exportSummary n m) n m := by
  refine saysCounts_lines "\n                    " (fun c hc => ?_) n m
  cases hc
  decide

theorem draws_exportPanel (a : Answers) (rs : List FileRecord) :
    (exportPanel (.list (rs.map FileRecord.value))).Draws a () (exportHeading ++
      .info (exportSummary (rs.flatMap rowsOf).length ((rs.flatMap rowsOf).countP Row.documented)) ::
        exportFiles (rs.flatMap rowsOf)) := by
  simp only [exportHeading, List.cons_append, List.nil_append]
  unfold exportPanel
  refine draws_bind (draws_put _) (draws_bind (draws_put _) (draws_bind (draws_check (rows_value rs)) ?_))
  exact draws_bind (draws_put _) (draws_bind (draws_put _) (draws_bind (draws_put _) (draws_put _)))

/-- **An export shows the items of the coverage, less the methods.** For records with distinct paths there are a report and
rows.  The items of all files of the report without the methods, and the rows, match one by one in name, kind and status.
So the panel of the export counts as many items as the summary of the report less the methods, and as many documented ones
less the documented methods, and says these numbers. -/
theorem export_shows_coverage {rs : List FileRecord} (h : (rs.map FileRecord.path).Nodup) :
    ∃ report exported, Coverage.compute (.list (rs.map FileRecord.value)) = .ok report ∧
      rows (.list (rs.map FileRecord.value)) = .ok exported ∧
      List.Forall₂ Shows ((report.files.flatMap fun f => f.2.items).filter fun i => !isMethod i) exported ∧
      report.summary.total = exported.length + (rs.flatMap methodsOf).length ∧
      report.summary.documented =
        exported.countP Row.documented + (rs.flatMap methodsOf).countP MethodRecord.hasDocstring ∧
      ∀ a, ∃ before n m after, n = report.summary.total - (rs.flatMap methodsOf).length ∧
        m = report.summary.documented - (rs.flatMap methodsOf).countP MethodRecord.hasDocstring ∧
        (exportPanel (.list (rs.map FileRecord.value))).Draws a () (before ++ .info (exportSummary n m) :: after) ∧
        SaysCounts (exportSummary n m) n m := by
  obtain ⟨htotal, hdocumented⟩ := summaryOf_rows rs
  refine ⟨_, rs.flatMap rowsOf, (Coverage.accounts_of_distinct h).computed, rows_value rs, ?_, htotal, hdocumented, fun a => ?_⟩
  · rw [List.flatMap_map]
    exact shows_rows rs
  · refine ⟨exportHeading, _, _, exportFiles _, ?_, ?_, draws_exportPanel a rs, saysCounts_exportSummary _ _⟩
    · rw [htotal, Nat.add_sub_cancel]
    · rw [hdocumented, Nat.add_sub_cancel]

/-- Two files with a function and a class with a method each: six items, of which four have rows. -/
theorem export_shows_coverage_sample :
    ((["a.py", "b.py"].map Coverage.sampleRecord).map FileRecord.path).Nodup ∧
      ∃ report exported, Coverage.compute (.list ((["a.py", "b.py"].map Coverage.sampleRecord).map FileRecord.value)) =
          .ok report ∧ report.summary.total = 6 ∧ exported.length = 4 ∧
        List.Forall₂ Shows ((report.files.flatMap fun f => f.2.items).filter fun i => !isMethod i) exported := by
  have hdistinct : ((["a.py", "b.py"].map Coverage.sampleRecord).map FileRecord.path).Nodup := by decide
  obtain ⟨report, exported, hreport, hrows, hshows, htotal, -, -⟩ := export_shows_coverage hdistinct
  rw [rows_value] at hrows
  cases hrows
  exact ⟨hdistinct, report, _, hreport, htotal, rfl, hshows⟩

end Report
end DocReview
