import DocReview.Proofs.Report.Export
import DocReview.Proofs.Review.Suggestions
import DocReview.Proofs.Suggestion.Layout
import DocReview.Proofs.TestRun.Grouping
/-!
# Panels — parts of a view that always end

What a view draws from the records of scanned files it can always draw: the summary of their report, the outline of one of
them, and the panels of the features.  What it draws from the report of a test run it can draw if the report is there; the
chart of results can only be drawn of a report that is empty or has tests (`dashboardFault?`).
-/
namespace DocReview
namespace Review

open Screen
open Definition (FileRecord FunctionRecord ClassRecord MethodRecord Argument)

variable {a : Answers} {P : Memory → Disk → Prop} {E : Halt → Memory → Disk → Prop}

/-! ## The report -/

theorem divide_float (x : Binary64) : ∃ y, (Value.float x).divide 100 = .ok y := by
  have hfinite : (Binary64.ofInt 100).isFinite = true := by decide
  refine ⟨.float (Binary64.div x (Binary64.ofInt 100)), ?_⟩
  unfold Value.divide Value.number? Value.Number.divide Value.Number.toDouble
  simp [hfinite, bind, Except.bind, pure, Except.pure]

theorem lands_reportSummary (report : Coverage.Report) : (reportSummary report.value).Lands a P (fun _ => P) E := by
  obtain ⟨y, hy⟩ := divide_float report.summary.percent
  refine lands_after (draws_check rfl) (lands_after (draws_check rfl) (lands_after (draws_put _) (lands_after (draws_check rfl)
    (lands_after (draws_put _) (lands_after (draws_check rfl) (lands_after (draws_put _) (lands_after (draws_check hy) ?_)))))))
  exact lands_of_draws (draws_put _) fun _ _ h => h

theorem coverageRows_value (files : List (String × Coverage.FileCoverage)) :
    ∃ rows, (files.map fun p => (p.1, p.2.value)).mapM coverageRow = .ok rows :=
  Result.exists_mapM_ok (List.forall_mem_map.2 fun _ _ => ⟨_, rfl⟩)

theorem lands_codeMetrics : codeMetrics.Lands a P (fun _ => P) E := by
  refine lands_after (draws_put _) (lands_bind lands_memory fun m => ?_)
  dsimp only
  refine lands_ite (fun _ => lands_bind lands_disk fun d => ?_) fun _ => lands_of_draws (draws_put _) fun _ _ h => h.2
  refine lands_of_imp (R := P) ?_ fun _ _ h => h.2.2
  split
  · exact lands_after (draws_put _) (lands_after (draws_put _) (lands_of_draws (draws_put _) fun _ _ h => h))
  · exact lands_after (draws_put _) (lands_of_draws (draws_put _) fun _ _ h => h)

theorem lands_coverage (report : Coverage.Report) : (coverage report.value).Lands a P (fun _ => P) E := by
  obtain ⟨y, hy⟩ := divide_float report.summary.percent
  obtain ⟨rows, hrows⟩ := coverageRows_value report.files
  refine lands_after (draws_put _) ?_
  refine lands_after (draws_check rfl) (lands_after (draws_check rfl) (lands_after (draws_put _) (lands_after (draws_check rfl)
    (lands_after (draws_put _) (lands_after (draws_check rfl) (lands_after (draws_put _) (lands_after (draws_check hy) ?_)))))))
  exact lands_after (draws_put _) (lands_after (draws_check hrows) (lands_after (draws_put _) lands_codeMetrics))

/-! ## The outline -/

theorem exists_mapM_values {α β : Type} (value : α → Value) {f : Value → Except Fault β} (h : ∀ x, ∃ b, f (value x) = .ok b)
    (l : List α) : ∃ bs, (l.map value).mapM f = .ok bs :=
  Result.exists_mapM_ok (List.forall_mem_map.2 fun x _ => h x)

theorem functionLine_value (f : FunctionRecord) : ∃ s, functionLine f.value = .ok s :=
  Result.exists_bind (Report.argumentNames_value f) ⟨_, rfl⟩

theorem classLines_value (c : ClassRecord) : ∃ ls, classLines c.value = .ok ls := by
  obtain ⟨methods, hmethods⟩ := exists_mapM_values MethodRecord.value (f := methodLine) (fun _ => ⟨_, rfl⟩) c.methods
  refine Result.exists_bind rfl (Result.exists_bind rfl ?_)
  exact Result.exists_bind rfl (Result.exists_bind rfl (Result.exists_bind hmethods ⟨_, rfl⟩))

theorem outline_value (r : FileRecord) : ∃ s, outline r.value = .ok s := by
  obtain ⟨functions, hfunctions⟩ := exists_mapM_values FunctionRecord.value functionLine_value r.functions
  obtain ⟨classes, hclasses⟩ := exists_mapM_values ClassRecord.value classLines_value r.classes
  refine Result.exists_bind rfl (Result.exists_bind rfl (Result.exists_bind rfl ?_))
  refine Result.exists_bind rfl (Result.exists_bind rfl (Result.exists_bind hfunctions ?_))
  exact Result.exists_bind rfl (Result.exists_bind rfl (Result.exists_bind hclasses ⟨_, rfl⟩))

theorem lands_outlinePanel {records : List FileRecord}
    (h : ∀ m d, P m d → ∃ r ∈ records, m.selectedFile = some (.str r.path)) :
    (outlinePanel (resultsOf records)).Lands a P (fun _ => P) E := by
  refine lands_after (draws_put _) (lands_bind lands_memory fun m => ?_)
  dsimp only
  refine lands_ite (fun _ => ?_) fun _ => lands_of_draws (draws_put _) fun _ _ h => h.2
  rintro p ⟨rfl, hp⟩
  obtain ⟨r, hr, hsel⟩ := h _ _ hp
  obtain ⟨found, hfound⟩ := recordOf?_path hr
  obtain ⟨s, hs⟩ := outline_value found
  have hfind : (do recordOf? (p.memory.selectedFile.getD .none) (← (resultsOf records).elements) : Except Fault _) =
      .ok (some found.value) := by
    rw [hsel]
    exact hfound
  refine lands_after (draws_check hfind) ?_ p hp
  exact lands_after (draws_check hs) (lands_of_draws (draws_put _) fun _ _ h => h)

/-! ## The features -/

theorem lands_featureButtons (h : ∀ m d v, P m d → P { m with activeFeature := v } d) :
    featureButtons.Lands a P (fun _ => P) E := by
  refine lands_after (draws_put _) (lands_after (draws_put _) (lands_after (draws_put _) (lands_bind
    (lands_forM fun f _ => lands_after (draws_button _ _) (lands_ite (fun _ => ?_) fun _ => lands_pure fun _ _ h => h))
    fun _ => lands_of_draws (draws_put _) fun _ _ h => h)))
  exact lands_remember fun m d hp => h m d _ hp

theorem filterRows_value (onlyMissing : Bool) (r : FileRecord) : ∃ rows, filterRows onlyMissing r.value = .ok rows := by
  obtain ⟨rows, hrows⟩ := exists_mapM_values FunctionRecord.value (f := filterRow? onlyMissing r.value) (fun f => by
    refine Result.exists_bind rfl ?_
    dsimp only
    split
    · exact ⟨_, rfl⟩
    · exact ⟨_, rfl⟩) r.functions
  exact Result.exists_bind rfl (Result.exists_bind rfl (Result.exists_bind hrows ⟨_, rfl⟩))

theorem draws_choose (label : String) (options : List String) : ∃ v, (choose label options).Draws a v [.choice label options v] :=
  ⟨_, fun _ => rfl⟩

theorem lands_filterPanel (records : List FileRecord) : (filterPanel (resultsOf records)).Lands a P (fun _ => P) E := by
  obtain ⟨status, hstatus⟩ := draws_choose (a := a) "Documentation status" ["All", "Missing Docstring"]
  obtain ⟨rows, hrows⟩ := exists_mapM_values FileRecord.value (filterRows_value (status.isText "Missing Docstring")) records
  refine lands_after (draws_put _) (lands_after hstatus (lands_after (draws_check (x := rows) ?_) ?_))
  · exact hrows
  · exact lands_of_draws (draws_put _) fun _ _ h => h

theorem searchRows_value (query : List Char) (r : FileRecord) : ∃ rows, searchRows query r.value = .ok rows := by
  have hrow : ∀ (file role : String) (v : Value) (name : String) (documented : Bool), v.field "name" = .ok (.str name) →
      v.field "has_docstring" = .ok (.bool documented) → ∃ row, searchRow? query file role v = .ok row := by
    intro file role v name documented hname hdoc
    refine Result.exists_bind hname (Result.exists_bind rfl ?_)
    split
    · exact Result.exists_bind hdoc ⟨_, rfl⟩
    · exact ⟨_, rfl⟩
  obtain ⟨functions, hfunctions⟩ := exists_mapM_values FunctionRecord.value (f := searchRow? query (Path.name r.path) "Function")
    (fun f => hrow _ _ f.value f.name f.hasDocstring rfl rfl) r.functions
  obtain ⟨classes, hclasses⟩ := exists_mapM_values ClassRecord.value (f := searchRow? query (Path.name r.path) "Class")
    (fun c => hrow _ _ c.value c.name c.hasDocstring rfl rfl) r.classes
  refine Result.exists_bind rfl (Result.exists_bind rfl (Result.exists_bind rfl (Result.exists_bind hfunctions ?_)))
  exact Result.exists_bind rfl (Result.exists_bind rfl (Result.exists_bind hclasses ⟨_, rfl⟩))

theorem lands_searchPanel (records : List FileRecord) : (searchPanel (resultsOf records)).Lands a P (fun _ => P) E := by
  refine lands_after (draws_put _) (lands_after (draws_put _) (lands_after (draws_textField _ _) ?_))
  dsimp only
  refine lands_ite (fun _ => ?_) fun _ => lands_pure fun _ _ h => h
  obtain ⟨rows, hrows⟩ := exists_mapM_values FileRecord.value (searchRows_value (Text.lower (Text.trim
    ((lookup? "Enter function or class name" a.texts).getD "").toList))) records
  refine lands_after (draws_check (x := rows) hrows) (lands_ite (fun _ => lands_of_draws (draws_put _) fun _ _ h => h)
    fun _ => ?_)
  exact lands_after (draws_put _) (lands_of_draws (draws_put _) fun _ _ h => h)

theorem lands_exportPanel (records : List FileRecord) : (exportPanel (resultsOf records)).Lands a P (fun _ => P) E :=
  lands_of_draws (Report.draws_exportPanel a records) fun _ _ h => h

theorem lands_helpPanel : helpPanel.Lands a P (fun _ => P) E :=
  lands_after (draws_put _) (lands_after (draws_put _) (lands_forM fun _ _ => lands_of_draws (draws_put _) fun _ _ h => h))

theorem lands_whenOpen (f : Feature) {panel rest : Draw Unit} (hp : panel.Lands a P (fun _ => P) E)
    (hr : rest.Lands a P (fun _ => P) E) :
    (isOpen f >>= fun b => if b = true then panel >>= fun _ => rest else rest).Lands a P (fun _ => P) E := by
  have hopen : (isOpen f).Lands a P (fun _ => P) E := lands_of_ok fun p hp => ⟨_, p, rfl, hp⟩
  exact lands_bind hopen fun _ => lands_ite (fun _ => lands_bind hp fun _ => hr) fun _ => hr

theorem lands_featurePanel (records : List FileRecord) : (featurePanel (resultsOf records)).Lands a P (fun _ => P) E := by
  unfold featurePanel
  refine lands_whenOpen .filters (lands_filterPanel records) (lands_whenOpen .search (lands_searchPanel records)
    (lands_whenOpen .export (lands_exportPanel records) ?_))
  have hopen : (isOpen .help).Lands a P (fun _ => P) E := lands_of_ok fun p hp => ⟨_, p, rfl, hp⟩
  exact lands_bind hopen fun _ => lands_ite (fun _ => lands_helpPanel) fun _ => lands_pure fun _ _ h => h

/-! ## Test results -/

/-- A test: its identifier is a text, and what its call crashed with is a mapping, if these are there. -/
structure IsTest (test : Value) : Prop where
  identifier : ∃ s, test.get "nodeid" (.str "") = .ok (.str s)
  crash : ∃ call fields, test.get "call" (.dict []) = .ok call ∧ call.get "crash" (.dict []) = .ok (.dict fields)

/-- The report of a test run: a mapping that lists the given tests, if any. -/
structure IsTestReport (report : Value) (tests : List Value) : Prop where
  listed : report.get "tests" (.list []) = .ok (.list tests)
  each : ∀ t ∈ tests, IsTest t

/-- Why the dashboard cannot be drawn with the report of a test run: it is missing, or it has something but no tests. -/
def dashboardFault? : Value → Option Fault
  | .dict [] => none
  | .dict fields =>
    match Value.lookup? "tests" fields with
    | some (.list (_ :: _)) => none
    | _ => some (.noColumn "File")
  | v => some (.lacks v.kind "get")

/-- Why the results of a validation cannot be drawn with the report of a test run: it is missing. -/
def validationFault? : Value → Option Fault
  | .dict _ => none
  | v => some (.lacks v.kind "get")

theorem get_of_isTest {test : Value} (h : IsTest test) (key : String) (missing : Value) :
    ∃ v, test.get key missing = .ok v := by
  obtain ⟨⟨s, hs⟩, -⟩ := h
  cases test with
  | dict fields => exact ⟨_, rfl⟩
  | _ => cases hs

section Tests

variable {report : Value} {tests : List Value} (h : IsTestReport report tests)

include h

theorem tests_eq : TestRun.tests report = .ok tests := Result.bind_eq_ok_iff.2 ⟨_, h.listed, rfl⟩

theorem summarize_isTestReport : ∃ files, TestRun.summarize report = .ok files ∧ (files = [] ↔ tests = []) := by
  refine ⟨_, TestRun.summarize_eq h.listed fun t ht => (h.each t ht).identifier, ?_⟩
  have htotal := TestRun.sum_total_group (tests.map TestRun.outcomeAt)
  rw [List.length_map] at htotal
  constructor
  · intro hnil
    rw [hnil] at htotal
    exact List.length_eq_zero_iff.1 htotal.symm
  · rintro rfl
    rfl

theorem dashboardFault?_eq :
    dashboardFault? report = if report.truthy && tests.isEmpty then some (.noColumn "File") else none := by
  obtain ⟨hl, -⟩ := h
  cases report with
  | dict fields =>
    cases fields with
    | nil => rfl
    | cons f fields =>
      have hlist : (Value.lookup? "tests" (f :: fields)).getD (.list []) = .list tests := Except.ok.inj hl
      unfold dashboardFault?
      dsimp only
      cases hfound : Value.lookup? "tests" (f :: fields) with
      | none =>
        rw [hfound] at hlist
        cases hlist
        rfl
      | some w =>
        rw [hfound] at hlist
        cases hlist
        cases tests <;> rfl
  | _ => cases hl

theorem validationFault?_eq : validationFault? report = none := by
  obtain ⟨hl, -⟩ := h
  cases report with
  | dict fields => rfl
  | _ => cases hl

theorem errorText_isTest {t : Value} (ht : t ∈ tests) : ∃ v, errorText t = .ok v := by
  obtain ⟨long, hlong⟩ := get_of_isTest (h.each t ht) "longreprtext" .none
  obtain ⟨short, hshort⟩ := get_of_isTest (h.each t ht) "longrepr" .none
  obtain ⟨call, fields, hcall, hcrash⟩ := (h.each t ht).crash
  refine Result.exists_bind hlong ?_
  split
  · exact ⟨_, rfl⟩
  · refine Result.exists_bind hshort ?_
    split
    · exact ⟨_, rfl⟩
    · exact Result.exists_bind (Result.bind_eq_ok_iff.2 ⟨_, hcall, Result.bind_eq_ok_iff.2 ⟨_, hcrash, rfl⟩⟩) ⟨_, rfl⟩

theorem failedIn_isTest (file : String) {t : Value} (ht : t ∈ tests) : ∃ b, failedIn file t = .ok b := by
  obtain ⟨s, hs⟩ := (h.each t ht).identifier
  obtain ⟨o, ho⟩ := get_of_isTest (h.each t ht) "outcome" .none
  refine Result.exists_bind ho ?_
  split
  · exact Result.exists_bind hs (Result.exists_bind rfl ⟨_, rfl⟩)
  · exact ⟨_, rfl⟩

theorem lands_failureBlock (file : String) (s : TestRun.FileSummary) :
    (failureBlock report file s).Lands a P (fun _ => P) E := by
  refine lands_ite (fun _ => ?_) fun _ => lands_pure fun _ _ h => h
  refine lands_after (draws_put _) (lands_after (draws_check (tests_eq h)) (lands_forM fun t ht => ?_))
  obtain ⟨b, hb⟩ := failedIn_isTest h file ht
  obtain ⟨v, hv⟩ := errorText_isTest h ht
  refine lands_after (draws_check hb) (lands_ite (fun _ => ?_) fun _ => lands_pure fun _ _ h => h)
  exact lands_after (draws_check hv) (lands_of_draws (draws_put _) fun _ _ h => h)

theorem lands_testFailures : (testFailures report).Lands a P (fun _ => P) E := by
  obtain ⟨files, hfiles, -⟩ := summarize_isTestReport h
  exact lands_after (draws_put _) (lands_after (draws_check hfiles) (lands_forM fun p _ => lands_failureBlock h p.1 p.2))

theorem lands_testSummary (hok : dashboardFault? report = none) : (testSummary report).Lands a P (fun _ => P) E := by
  obtain ⟨files, hfiles, hne⟩ := summarize_isTestReport h
  refine lands_ite (fun htrue => ?_) fun _ => lands_of_draws (draws_put _) fun _ _ h => h
  have hfound : files ≠ [] := by
    rintro rfl
    rw [dashboardFault?_eq h, htrue, hne.1 rfl] at hok
    cases hok
  have hframe : ∃ frame, outcomeFrame files = .ok frame := by
    unfold outcomeFrame
    rw [if_neg (by simpa using hfound)]
    exact ⟨_, rfl⟩
  obtain ⟨frame, hframe⟩ := hframe
  refine lands_after (draws_check hfiles) (lands_after (draws_check hframe) (lands_after (draws_put _) (lands_after
    (draws_put _) (lands_after (draws_put _) ?_))))
  exact lands_of_draws (draws_put _) fun _ _ h => h

end Tests

/-- **Where the dashboard has a fault, drawing the test results ends with it.** -/
theorem lands_testPanels_fault {report : Value} {f : Fault} {k : Unit → Draw Unit} {Q : Unit → Memory → Disk → Prop}
    (h : report = .none ∨ ∃ tests, IsTestReport report tests) (hf : dashboardFault? report = some f)
    (hE : ∀ m d, P m d → E (.fault f) m d) :
    (testSummary report >>= fun _ => testFailures report >>= k).Lands a P Q E := by
  rcases h with rfl | ⟨tests, h⟩
  · cases hf
    refine lands_after (draws_put _) (lands_bind (Q := fun _ _ _ => False) ?_ fun _ p hp => hp.elim)
    exact lands_after (draws_put _) (lands_check_error rfl hE)
  · rw [dashboardFault?_eq h] at hf
    split at hf
    · rename_i hempty
      cases hf
      obtain ⟨htrue, hnil⟩ := Bool.and_eq_true_iff.1 hempty
      obtain ⟨files, hfiles, hne⟩ := summarize_isTestReport h
      obtain rfl := hne.2 (List.isEmpty_iff.1 hnil)
      refine lands_bind (Q := fun _ _ _ => False) ?_ fun _ p hp => hp.elim
      unfold testSummary
      rw [if_pos htrue]
      exact lands_after (draws_check hfiles) (lands_check_error rfl hE)
    · cases hf

end Review
end DocReview
