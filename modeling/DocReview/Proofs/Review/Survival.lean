import DocReview.Proofs.Issue.Severity
import DocReview.Proofs.Json.Escapes
import DocReview.Proofs.Review.Panels
import DocReview.Proofs.Scan.Held
/-!
# Survival — which runs end by themselves

Let the sources be in order, a key be set, the language model answer in the documented form, and the report of a test run
be one or be missing.  A run then scans, proposes docstrings and draws its view, and ends by itself or asks for another
run; or it ends with a fault that only the report of the test run is the reason for (`run_ends_unless_reported`).  What is
remembered of a validation is always what a checker gave (`checked_memoryAfter`).
-/
namespace DocReview
namespace Review

open Screen
open Definition (FileRecord FunctionRecord)

/-! ## What is remembered of a validation -/

/-- What is remembered of a validation is nothing, or what a checker gave. -/
def Checked (m : Memory) : Prop := m.validation = none ∨ ∃ r : Issue.Result, m.validation = some r.value

def Validates (p q : Page) : Prop :=
  q.memory.validation = p.memory.validation ∨ ∃ r : Issue.Result, q.memory.validation = some r.value

theorem Validates.preorder : Screen.Preorder Validates where
  refl _ := Or.inl rfl
  trans h₁ h₂ := h₂.elim (fun h => h₁.imp h.trans fun ⟨r, hr⟩ => ⟨r, h.trans hr⟩) Or.inr

theorem Validates.checked {p q : Page} (h : Validates p q) (hp : Checked p.memory) : Checked q.memory :=
  h.elim (fun heq => hp.imp heq.trans fun ⟨r, hr⟩ => ⟨r, heq.trans hr⟩) Or.inr

theorem validates_of_calm {α : Type} {allowed : Element → Bool} {m : Draw α} (h : m.Moves (Calm allowed)) :
    m.Moves Validates := fun a p => (h a p).validation

theorem validates_put (e : Element) : (put e).Moves Validates := moves_put fun _ => Or.inl rfl

theorem validates_remember {f : Memory → Memory} (h : ∀ m, (f m).validation = m.validation) :
    (remember f).Moves Validates := moves_remember fun p => Or.inl (h p.memory)

theorem validates_button (label : String) (key : Option String) : (button label key).Moves Validates :=
  fun _ _ => Or.inl rfl

theorem validates_keep (s : Scanned) : (keep s).Moves Validates := fun _ _ => Or.inl rfl

theorem validates_fileLine (file : String) (coverage : Value) : (fileLine file coverage).Moves Validates := by
  have hR := Validates.preorder
  refine moves_bind hR (moves_check hR _) fun _ => moves_bind hR (validates_put _) fun _ =>
    moves_bind hR (moves_check hR _) fun _ => moves_bind hR (validates_put _) fun _ => ?_
  exact moves_bind hR (validates_button _ _) fun _ =>
    moves_ite (validates_remember fun _ => rfl) (moves_pure hR _)

theorem validates_quickMetrics (report : Value) : (quickMetrics report).Moves Validates := by
  have hR := Validates.preorder
  refine moves_bind hR (moves_check hR _) fun _ => moves_bind hR (moves_check hR _) fun _ =>
    moves_bind hR (moves_check hR _) fun _ => moves_bind hR (validates_put _) fun _ =>
    moves_bind hR (validates_put _) fun _ => moves_bind hR (moves_check hR _) fun _ =>
    moves_bind hR (validates_put _) fun _ => moves_bind hR (validates_put _) fun _ =>
    moves_bind hR (validates_put _) fun _ => ?_
  exact moves_bind hR (moves_check hR _) fun _ => moves_bind hR (moves_check hR _) fun _ =>
    moves_forM hR _ fun p _ => validates_fileLine p.1 p.2

theorem validates_opening : opening.Moves Validates := by
  have hR := Validates.preorder
  refine moves_bind hR (moves_disk hR) fun d => ?_
  split
  · refine moves_bind hR (validates_keep _) fun _ => ?_
    split
    · exact moves_bind hR (validates_remember fun _ => rfl) fun _ => moves_pure hR _
    · exact moves_bind hR (validates_remember fun _ => rfl) fun _ => moves_bind hR (validates_put _) fun _ => moves_pure hR _
  · refine moves_bind hR (validates_put _) fun _ => moves_bind hR (validates_put _) fun _ =>
      moves_bind hR (moves_memory hR) fun m => ?_
    dsimp only
    split
    · exact moves_bind hR (validates_quickMetrics _) fun _ => moves_pure hR _
    · exact moves_bind hR (validates_put _) fun _ => moves_pure hR _

theorem validates_scanOnDemand (path : String) (results : Value) : (scanOnDemand path results).Moves Validates := by
  have hR := Validates.preorder
  refine moves_bind hR (validates_button _ _) fun _ => moves_ite ?_ (moves_pure hR _)
  refine moves_bind hR (moves_disk hR) fun d => moves_bind hR (moves_check hR _) fun s =>
    moves_bind hR (validates_keep s) fun _ => ?_
  dsimp only
  split
  · exact moves_bind hR (validates_remember fun _ => rfl) fun _ => moves_bind hR (validates_put _) fun _ => moves_pure hR _
  · exact moves_bind hR (validates_put _) fun _ => moves_pure hR _

theorem validates_navigation : navigation.Moves Validates := by
  have hR := Validates.preorder
  refine moves_bind hR (validates_put _) fun _ => moves_bind hR (validates_remember fun _ => rfl) fun _ =>
    moves_forM hR _ fun v _ => ?_
  exact moves_bind hR (validates_button _ _) fun _ => moves_ite (validates_remember fun _ => rfl) (moves_pure hR _)

theorem validates_fileList (report : Value) : (fileList report).Moves Validates := by
  have hR := Validates.preorder
  refine moves_ite (moves_bind hR (moves_check hR _) fun files => moves_forM hR _ fun f _ => ?_) (moves_pure hR _)
  exact moves_bind hR (moves_check hR _) fun _ => moves_bind hR (validates_button _ _) fun _ =>
    moves_ite (validates_remember fun _ => rfl) (moves_pure hR _)

theorem validates_sidebar (results : Value) : (sidebar results).Moves Validates := by
  have hR := Validates.preorder
  refine moves_bind hR (validates_put _) fun _ => moves_bind hR (fun _ _ => Or.inl rfl) fun path =>
    moves_bind hR (fun _ _ => Or.inl rfl) fun style => moves_bind hR (validates_scanOnDemand path results) fun _ =>
    moves_bind hR (validates_put _) fun _ => moves_bind hR validates_navigation fun _ => ?_
  exact moves_bind hR (moves_memory hR) fun _ => moves_bind hR (validates_put _) fun _ => moves_bind hR (validates_put _)
    fun _ => moves_bind hR (moves_memory hR) fun m => moves_bind hR (validates_fileList _) fun _ => moves_pure hR _

theorem validates_app : app.Moves Validates := by
  have hR := Validates.preorder
  refine moves_bind hR (validates_remember fun _ => rfl) fun _ => moves_bind hR (validates_put _) fun _ =>
    moves_bind hR (validates_put _) fun _ => moves_bind hR validates_opening fun results =>
    moves_bind hR (validates_sidebar results) fun s => moves_ite ?_ (moves_pure hR _)
  have proposing : (proposals s.style s.results).Moves Validates := validates_of_calm (calm_proposals _ _)
  have rest : (testResults >>= fun _ => proposals s.style s.results >>= fun _ => pure ()).Moves Validates :=
    moves_bind hR (validates_of_calm calm_testResults) fun _ => moves_bind hR proposing fun _ => moves_pure hR _
  refine moves_bind hR proposing fun ps => ?_
  dsimp only
  split
  · exact moves_bind hR (validates_of_calm (calm_draw s ps _)) fun _ => rest
  · exact rest

theorem checked_foldl : ∀ (history : List (Answers × Disk)) (m : Memory), Checked m →
    Checked (history.foldl (fun m r => (run app r.1 m r.2).page.memory) m)
  | [], _, h => h
  | r :: history, m, h => by
    refine checked_foldl history _ ?_
    dsimp only
    rw [run_eq]
    exact (validates_app r.1 { memory := m, disk := r.2 }).checked h

/-- **After any runs what is remembered of a validation is what a checker gave.** -/
theorem checked_memoryAfter (history : List (Answers × Disk)) : Checked (memoryAfter history) :=
  checked_foldl history {} (Or.inl rfl)

/-! ## What a run is given -/

def chosenStyle (a : Answers) : Value := (lookup? "Docstring Style" a.choices).getD (.str "google")

/-- What a run is given from outside is in order: a key is set, the style is one of those offered, the language model answers
every prompt in the documented form, and the checker writes text.  No answer holds half a pair of units: text with one is no
text that a file can hold. -/
structure Supplied (a : Answers) : Prop where
  key : ∃ key, a.apiKey = some key ∧ key ≠ ""
  style : ∃ style, Suggestion.Style.ofValue (chosenStyle a) = .ok style
  replies : ∀ prompt, ∃ v, Json.read (a.answer prompt).toList = .ok v ∧ Suggestion.Documented v
  paired : ∀ prompt, Json.inPairs (Json.writtenUnits (a.answer prompt).toList) = true
  checker : ∃ cs, (a.check.stderr.orElse a.check.stdout).textFor "splitlines" = .ok cs

theorem docstringFor_supplied {a : Answers} (h : Supplied a) (f : FunctionRecord) :
    ∃ doc, docstringFor a (chosenStyle a) f = .ok doc := by
  obtain ⟨key, hkey, hne⟩ := h.key
  obtain ⟨style, hstyle⟩ := h.style
  obtain ⟨v, hread, hv⟩ := h.replies (Suggestion.Subject.ofFunction f).prompt
  obtain ⟨body, hbody⟩ := Suggestion.layout_documented style f hv
  have hcontent : (Suggestion.ask a.apiKey a.answer f.value).content = .ok v := by
    rw [hkey, Suggestion.ask_value f hne]
    exact Suggestion.contentOf_json hread
  exact Result.exists_bind hcontent (Result.exists_bind hstyle ⟨_, hbody⟩)

def docOf (a : Answers) (f : FunctionRecord) : String := (docstringFor a (chosenStyle a) f).toOption.getD ""

theorem docstringFor_eq {a : Answers} (h : Supplied a) (f : FunctionRecord) :
    docstringFor a (chosenStyle a) f = .ok (docOf a f) := by
  obtain ⟨doc, hdoc⟩ := docstringFor_supplied h f
  unfold docOf
  rw [hdoc]
  rfl

/-! ## From the start to the view -/

/-- The results of a scan and their report are remembered, with a file of them selected if there is any; the files are on
the disk, and so is the report of a test run. -/
structure Shown (tests : Value) (records : List FileRecord) (report : Coverage.Report) (m : Memory) (d : Disk) : Prop where
  scan : m.lastScan = some (resultsOf records)
  computed : Coverage.compute (resultsOf records) = .ok report
  stored : m.lastReport = some report.value
  selected : records ≠ [] → ∃ r ∈ records, m.selectedFile = some (.str r.path)
  checked : Checked m
  sources : Scan.Sources d
  held : ∀ r ∈ records, Scan.Held d r
  tests : Report.loadTestResults d = .ok tests

section Stages

variable {a : Answers} {tests : Value} {E : Halt → Memory → Disk → Prop}

def Before (tests : Value) (m : Memory) (d : Disk) : Prop :=
  Checked m ∧ Scan.Sources d ∧ Report.loadTestResults d = .ok tests

def Scanning (tests : Value) (results : Value) (m : Memory) (d : Disk) : Prop :=
  ∃ records report, results = resultsOf records ∧ Shown tests records report m d

/-- What a scan found is remembered and stored; which file is selected is still open. -/
structure Keeping (tests : Value) (s : Scanned) (records : List FileRecord) (report : Coverage.Report) (m : Memory)
    (d : Disk) : Prop where
  results : s.results = resultsOf records
  first : s.first = records.head?.map FileRecord.path
  scan : m.lastScan = some (resultsOf records)
  computed : Coverage.compute (resultsOf records) = .ok report
  stored : m.lastReport = some report.value
  checked : Checked m
  sources : Scan.Sources d
  held : ∀ r ∈ records, Scan.Held d r
  tests : Report.loadTestResults d = .ok tests

/-- **A scan of any path succeeds**, and what it found can be kept. -/
theorem keeping_scan {m : Memory} {d : Disk} (h : Before tests m d) (path : String) :
    ∃ s records report, scan d path = .ok s ∧
      Keeping tests s records report { m with lastScan := some s.results, lastReport := some s.report } s.disk := by
  obtain ⟨hchecked, hsources, htests⟩ := h
  obtain ⟨records, hrecords, hheld⟩ := Scan.records_held hsources path
  obtain ⟨report, hreport⟩ : ∃ report, Coverage.compute (resultsOf records) = .ok report := ⟨_, Coverage.compute_value records⟩
  have hstore := Report.store_coverage hsources.free report.value
  have hbeside : ¬ Disk.parts Report.testResultsPath <+: Report.coveragePlace := by decide
  have hload : Report.loadTestResults (d.withFile Report.coveragePlace (.text (Json.indented report.value))) = _ :=
    Report.loadTestResults_congr (Entry.at?_set_free hsources.free hbeside)
  refine ⟨⟨resultsOf records, report.value, records.head?.map FileRecord.path, _⟩, records, report, ?_,
    rfl, rfl, rfl, hreport, rfl, hchecked, hsources.store _, fun r hr => (hheld r hr).store hsources _, hload.trans htests⟩
  refine Result.bind_eq_ok_iff.2 ⟨records, hrecords, Result.bind_eq_ok_iff.2 ⟨report, hreport, ?_⟩⟩
  exact Result.bind_eq_ok_iff.2 ⟨_, hstore, rfl⟩

section Kept

variable {s : Scanned} {records : List FileRecord} {report : Coverage.Report}

theorem Keeping.unselected {m : Memory} {d : Disk} (h : Keeping tests s records report m d) (hnone : s.first = none)
    (file : Option Value) : Scanning tests s.results { m with selectedFile := file } d := by
  have hnil : records = [] := by
    rw [h.first, Option.map_eq_none_iff, List.head?_eq_none_iff] at hnone
    exact hnone
  exact ⟨records, report, h.results, h.scan, h.computed, h.stored, fun hne => absurd hnil hne, h.checked, h.sources, h.held,
    h.tests⟩

theorem Keeping.selected {m : Memory} {d : Disk} (h : Keeping tests s records report m d) {path : String}
    (hsome : s.first = some path) : Scanning tests s.results { m with selectedFile := some (.str path) } d := by
  rw [h.first, Option.map_eq_some_iff] at hsome
  obtain ⟨r, hr, rfl⟩ := hsome
  exact ⟨records, report, h.results, h.scan, h.computed, h.stored, fun _ => ⟨r, List.mem_of_head? hr, rfl⟩, h.checked,
    h.sources, h.held, h.tests⟩

theorem lands_keep {α : Type} {Q : α → Memory → Disk → Prop} {k : Unit → Draw α} {p : Page}
    (h : Keeping tests s records report { p.memory with lastScan := some s.results, lastReport := some s.report } s.disk)
    (hk : (k ()).Lands a (Keeping tests s records report) Q E) :
    (keep s >>= k).Lands a (fun m d => m = p.memory ∧ d = p.disk) Q E := by
  have hkeep : (keep s).Lands a (fun m d => m = p.memory ∧ d = p.disk) (fun _ => Keeping tests s records report) E :=
    lands_of_ok fun q hq => by
      rw [← hq.1] at h
      exact ⟨(), _, rfl, h⟩
  exact lands_bind hkeep fun _ => hk

end Kept

theorem lands_opening : opening.Lands a (Before tests) (Scanning tests) E := by
  refine lands_bind lands_disk fun d => ?_
  rintro p ⟨rfl, hp⟩
  obtain ⟨s, records, report, hscan, hkeep⟩ := keeping_scan hp defaultPath
  rw [hscan]
  refine lands_keep hkeep ?_ p ⟨rfl, rfl⟩
  split
  · rename_i path hpath
    exact lands_bind (lands_remember fun m d h => h.selected hpath) fun _ => lands_pure fun _ _ h => h
  · rename_i hnone
    exact lands_bind (lands_remember (R := fun _ => Scanning tests s.results) fun m d h => h.unselected hnone none) fun _ =>
      lands_after (draws_put _) (lands_pure fun _ _ h => h)

theorem lands_scanOnDemand (path : String) (results : Value) :
    (scanOnDemand path results).Lands a (Scanning tests results) (Scanning tests) E := by
  refine lands_after (draws_button _ _) (lands_ite (fun _ => ?_) fun _ => lands_pure fun _ _ h => h)
  refine lands_bind lands_disk fun d => ?_
  rintro p ⟨rfl, _, _, _, hp⟩
  obtain ⟨s, records, report, hscan, hkeep⟩ := keeping_scan ⟨hp.checked, hp.sources, hp.tests⟩ path
  refine lands_after (draws_check hscan) (lands_keep hkeep ?_) p ⟨rfl, rfl⟩
  dsimp only
  split
  · rename_i first hfirst
    exact lands_bind (lands_remember fun m d h => h.selected hfirst) fun _ =>
      lands_after (draws_put _) (lands_pure fun _ _ h => h)
  · rename_i hnone
    have hfirst : s.first = none := Option.eq_none_iff_forall_ne_some.2 hnone
    exact lands_after (draws_put _) (lands_pure fun m d h => h.unselected hfirst m.selectedFile)

theorem Scanning.of_view {results : Value} {m : Memory} {d : Disk} (h : Scanning tests results m d) (v : Option Value) :
    Scanning tests results { m with view := v } d := by
  obtain ⟨records, report, hres, h⟩ := h
  exact ⟨records, report, hres, h.scan, h.computed, h.stored, h.selected, h.checked, h.sources, h.held, h.tests⟩

theorem lands_navigation (results : Value) :
    navigation.Lands a (Scanning tests results) (fun _ => Scanning tests results) E := by
  refine lands_after (draws_put _) (lands_bind (lands_remember (R := fun _ => Scanning tests results) fun _ _ h => h.of_view _)
    fun _ => lands_forM fun v _ => ?_)
  exact lands_after (draws_button _ _) (lands_ite (fun _ => lands_remember fun _ _ h => h.of_view _)
    fun _ => lands_pure fun _ _ h => h)

structure Faced (tests : Value) (a : Answers) (s : Setting) (records : List FileRecord) (report : Coverage.Report)
    (m : Memory) (d : Disk) : Prop where
  shown : Shown tests records report m d
  results : s.results = resultsOf records
  report : s.report = report.value
  style : s.style = chosenStyle a
  view : s.view = View.ofValue? (m.view.getD .none)

theorem Shown.select {records : List FileRecord} {report : Coverage.Report} {m : Memory} {d : Disk}
    (h : Shown tests records report m d) {file : String} (hf : file ∈ report.files.map Prod.fst) :
    Shown tests records report { m with selectedFile := some (.str file) } d := by
  obtain ⟨r, hr, rfl⟩ := mem_files_of_compute h.computed hf
  exact ⟨h.scan, h.computed, h.stored, fun _ => ⟨r, hr, rfl⟩, h.checked, h.sources, h.held, h.tests⟩

theorem lands_sidebar (results : Value) :
    (sidebar results).Lands a (Scanning tests results) (fun s m d => ∃ records report, Faced tests a s records report m d)
      E := by
  have hchoose : (choose "Docstring Style" ["google", "numpy", "rest"]).Draws a (chosenStyle a)
      [.choice "Docstring Style" ["google", "numpy", "rest"] (chosenStyle a)] := fun _ => rfl
  refine lands_after (draws_put _) (lands_after (draws_textField _ _) (lands_after hchoose (lands_bind
    (lands_scanOnDemand _ results) fun found => lands_after (draws_put _) (lands_bind (lands_navigation found) fun _ => ?_))))
  refine lands_bind lands_memory fun m => ?_
  dsimp only
  refine lands_after (draws_put _) (lands_after (draws_put _) ?_)
  rintro p ⟨rfl, records, report, rfl, hshown⟩
  have hreport : p.memory.lastReport.getD .none = report.value := by rw [hshown.stored]; rfl
  -- the buttons of the files leave the view and select files of the report
  have hfiles : (fileList report.value).Lands a
      (fun m d => m.view = p.memory.view ∧ Shown tests records report m d)
      (fun _ m d => m.view = p.memory.view ∧ Shown tests records report m d) E := by
    refine lands_ite (fun _ => ?_) fun _ => lands_pure fun _ _ h => h
    refine lands_after (draws_check rfl) (lands_forM fun f hf => ?_)
    rw [List.map_map, List.mem_map] at hf
    obtain ⟨y, hy, rfl⟩ := hf
    refine lands_after (draws_check rfl) (lands_after (draws_button _ _) (lands_ite (fun _ => ?_)
      fun _ => lands_pure fun _ _ h => h))
    exact lands_remember fun m d h => ⟨h.1, h.2.select (List.mem_map_of_mem hy)⟩
  have hrest : ∀ setting : Setting, setting.results = resultsOf records → setting.report = report.value →
      setting.style = chosenStyle a → setting.view = View.ofValue? (p.memory.view.getD .none) →
      (fileList report.value >>= fun _ => pure setting).Lands a
        (fun m d => m.view = p.memory.view ∧ Shown tests records report m d)
        (fun s m d => ∃ records report, Faced tests a s records report m d) E := by
    intro setting hres hrep hstyle hview
    refine lands_bind hfiles fun _ => lands_pure fun m d h => ⟨records, report, h.2, hres, hrep, hstyle, ?_⟩
    rw [h.1, hview]
  rw [exec_bind_ok (exec_memory a p), hreport]
  exact hrest _ rfl rfl rfl rfl p ⟨rfl, hshown⟩

end Stages

/-! ## The view -/

/-- The fault that the report of a test run leads to in a run that remembers this at its end.  There is one only if there is
something to view, on the dashboard, or beside the results of a validation. -/
def reportFault? (tests : Value) (m : Memory) : Option Fault :=
  if (m.lastScan.getD .none).truthy then
    match View.ofValue? (m.view.getD .none) with
    | some .dashboard => dashboardFault? tests
    | some .validation => if m.validation.isSome then validationFault? tests else none
    | _ => none
  else none

/-- A run that is cut short asks for another one, from the docstring view, or has the fault that the report leads to. -/
def Ending (tests : Value) : Halt → Memory → Disk → Prop
  | .rerun, m, _ => reportFault? tests m = none ∧ m.view = some (.str View.docstrings.label)
  | .stop, _, _ => False
  | .fault f, m, _ => reportFault? tests m = some f

theorem ofValue?_label (v : View) : View.ofValue? (.str v.label) = some v := by cases v <;> decide

section Views

variable {a : Answers} {tests : Value} {records : List FileRecord} {report : Coverage.Report}

structure Viewed (tests : Value) (records : List FileRecord) (report : Coverage.Report) (v : View) (m : Memory) (d : Disk) :
    Prop where
  shown : Shown tests records report m d
  view : m.view = some (.str v.label)
  found : records ≠ []

theorem Viewed.fault {v : View} {m : Memory} {d : Disk} (h : Viewed tests records report v m d) :
    reportFault? tests m = match v with
      | .dashboard => dashboardFault? tests
      | .validation => if m.validation.isSome then validationFault? tests else none
      | _ => none := by
  have htrue : (resultsOf records).truthy = true := by
    unfold resultsOf Value.truthy
    simpa using h.found
  unfold reportFault?
  rw [h.shown.scan, h.view, Option.getD_some, Option.getD_some, if_pos htrue, ofValue?_label]
  cases v <;> rfl

theorem Viewed.of_feature {v : View} {m : Memory} {d : Disk} (h : Viewed tests records report v m d) (f : Option Value) :
    Viewed tests records report v { m with activeFeature := f } d :=
  ⟨⟨h.shown.scan, h.shown.computed, h.shown.stored, h.shown.selected, h.shown.checked, h.shown.sources, h.shown.held,
    h.shown.tests⟩, h.view, h.found⟩

def Drawn (tests : Value) (records : List FileRecord) (report : Coverage.Report) (m : Memory) (d : Disk) : Prop :=
  Shown tests records report m d ∧ reportFault? tests m = none

theorem lands_testResults {P : Memory → Disk → Prop} {E : Halt → Memory → Disk → Prop}
    (h : ∀ m d, P m d → Report.loadTestResults d = .ok tests) :
    testResults.Lands a P (fun v m d => v = tests ∧ P m d) E := by
  refine lands_of_ok fun p hp => ⟨tests, p, ?_, rfl, hp⟩
  unfold testResults
  rw [exec_bind_ok (exec_disk a p), h _ _ hp]
  rfl

theorem lands_dashboard (ht : tests = .none ∨ ∃ ts, IsTestReport tests ts) {s : Setting} (hres : s.results = resultsOf records)
    (hrep : s.report = report.value) :
    (dashboard s).Lands a (Viewed tests records report .dashboard) (fun _ => Drawn tests records report) (Ending tests) := by
  unfold dashboard
  rw [hres, hrep]
  refine lands_after (draws_put _) (lands_bind (lands_reportSummary report) fun _ => lands_bind
    (lands_outlinePanel fun m d h => h.shown.selected h.found) fun _ => lands_bind
    (lands_testResults fun m d h => h.shown.tests) fun v => lands_of_and ?_)
  rintro rfl
  cases hfault : dashboardFault? v with
  | some f => exact lands_testPanels_fault ht hfault fun m d h => h.fault.trans hfault
  | none =>
    obtain ⟨ts, hts⟩ := ht.resolve_left fun hnone => by
      rw [hnone] at hfault
      cases hfault
    refine lands_bind (lands_testSummary hts hfault) fun _ => lands_bind (lands_testFailures hts) fun _ =>
      lands_bind (lands_featureButtons fun m d f h => h.of_feature f) fun _ => ?_
    exact lands_weaken (lands_featurePanel records) fun _ _ _ h => ⟨h.shown, h.fault.trans hfault⟩

theorem lands_viewedCoverage :
    (coverage report.value).Lands a (Viewed tests records report .coverage) (fun _ => Drawn tests records report)
      (Ending tests) :=
  lands_weaken (lands_coverage report) fun _ _ _ h => ⟨h.shown, h.fault⟩

theorem lands_proposalCard {ps : Proposals} {doc : FunctionRecord → String} {r : FileRecord} (hr : r ∈ records)
    {f : FunctionRecord} (hf : f ∈ r.functions) (n : Nat) :
    (proposalCard ps n (proposalFor doc r.path f)).Lands a (Viewed tests records report .docstrings)
      (fun _ => Viewed tests records report .docstrings) (Ending tests) := by
  have haccept : (accept (proposalFor doc r.path f)).Lands a (Viewed tests records report .docstrings)
      (fun _ _ _ => False) (Ending tests) := by
    refine lands_of_error fun p hp => ?_
    obtain ⟨d', hd'⟩ := (hp.shown.held r hr).insertInFile hp.shown.sources hf (doc f)
    refine ⟨.rerun, { p with drawn := .success "Docstring applied successfully" :: p.drawn, disk := d' }, ?_, hp.fault, hp.view⟩
    have hpath : Path.ofValue (proposalFor doc r.path f).file = .ok r.path := rfl
    have hinsert : Suggestion.insertInFile p.disk r.path (proposalFor doc r.path f).line (proposalFor doc r.path f).indent
        (.str (proposalFor doc r.path f).docstring) = .ok d' := hd'
    simp only [accept, exec_bind, hpath, exec_check_ok, exec_disk, hinsert, exec_setDisk, exec_put, exec_throw]
  refine lands_after (draws_put _) (lands_after (draws_put _) (lands_after (draws_put _) (lands_after (draws_put _)
    (lands_after (draws_put _) (lands_after (draws_put _) (lands_after (draws_button _ _) (lands_ite (fun _ => ?_)
    fun _ => ?_)))))))
  · exact lands_bind haccept fun _ p hp => hp.elim
  · exact lands_after (draws_button _ _) (lands_of_draws (draws_put _) fun _ _ h => h)

theorem lands_docstrings :
    (docstrings (proposed (docOf a) records)).Lands a (Viewed tests records report .docstrings)
      (fun _ => Drawn tests records report) (Ending tests) := by
  refine lands_weaken (R := fun _ => Viewed tests records report .docstrings) ?_ fun _ _ _ h => ⟨h.shown, h.fault⟩
  by_cases hne : suggestionsOf (docOf a) records = []
  · have hempty : (proposed (docOf a) records).files.isEmpty = true := List.isEmpty_iff.2 hne
    unfold docstrings
    rw [if_pos hempty]
    exact lands_after (draws_put _) (lands_after (draws_put _) (lands_of_draws (draws_put _) fun _ _ h => h))
  · rw [docstrings_eq hne]
    refine lands_after (draws_put _) (lands_after (draws_put _) (lands_after (draws_textField _ _) (lands_forM fun f hf => ?_)))
    obtain ⟨r, hr, -, rfl⟩ := mem_suggestionsOf hf
    refine lands_after (draws_check rfl) (lands_after (draws_put _) (lands_forM fun p hp => ?_))
    obtain ⟨f, hf, hp⟩ := List.mem_map.1 (List.fst_mem_of_mem_zipIdx hp)
    refine lands_after (draws_check (isWanted_proposed hne a)) (lands_ite (fun _ => ?_) fun _ => lands_pure fun _ _ h => h)
    rw [← hp]
    exact lands_proposalCard hr (List.mem_filter.1 hf).1 p.2

/-! ### Validation -/

theorem classifyAll_strings (issues : List (List String)) : ∃ errors warnings,
    Issue.classifyAll (issues.map .strings) = .ok (errors, warnings) ∧
      (∀ e ∈ errors, ∃ ss, e = Value.strings ss) ∧ ∀ w ∈ warnings, ∃ ss, w = Value.strings ss := by
  have hblocks : ∀ (blocks : List (List String)), ∀ e ∈ blocks.map Value.strings, ∃ ss, e = Value.strings ss := by
    intro blocks e he
    obtain ⟨ss, -, rfl⟩ := List.mem_map.1 he
    exact ⟨ss, rfl⟩
  exact ⟨_, _, Issue.classifyAll_strings_eq issues, hblocks _, hblocks _⟩

theorem lands_issues {P : Memory → Disk → Prop} {E : Halt → Memory → Disk → Prop} {issues : List Value}
    (h : ∀ e ∈ issues, ∃ ss, e = Value.strings ss) (element : String → Element) :
    (issues.forM fun e => do put (element (← check (e.joinElements "\n")))).Lands a P (fun _ => P) E := by
  refine lands_forM fun e he => ?_
  obtain ⟨ss, rfl⟩ := h e he
  obtain ⟨s, hs⟩ := Value.join_texts (Value.texts_map id ss) "\n"
  exact lands_after (draws_check (x := s) hs) (lands_of_draws (draws_put _) fun _ _ h => h)

theorem lands_validate (ha : Supplied a) (path : String) {E : Halt → Memory → Disk → Prop} :
    (validate path).Lands a (Viewed tests records report .validation) (fun _ => Viewed tests records report .validation)
      E := by
  obtain ⟨cs, hcs⟩ := ha.checker
  obtain ⟨r, hr⟩ : ∃ r, a.check.result = .ok r := Result.exists_bind hcs ⟨_, rfl⟩
  have hread : (read : Draw Answers).Draws a a [] := fun _ => rfl
  refine lands_after (draws_put _) (lands_after hread (lands_after (draws_check hr) (lands_remember fun m d h => ?_)))
  exact ⟨⟨h.shown.scan, h.shown.computed, h.shown.stored, h.shown.selected, Or.inr ⟨r, rfl⟩, h.shown.sources, h.shown.held,
    h.shown.tests⟩, h.view, h.found⟩

theorem lands_issueSummary {P : Memory → Disk → Prop} {E : Halt → Memory → Disk → Prop} (issues : Value)
    (errors warnings : List Value) : (issueSummary issues errors warnings).Lands a P (fun _ => P) E :=
  lands_after (draws_put _) (lands_after (draws_put _) (lands_after (draws_put _)
    (lands_of_draws (draws_put _) fun _ _ h => h)))

/-- The result of a checker is shown up to the results of a test run, and to the end if they are there. -/
theorem lands_resultPanel (ht : tests = .none ∨ ∃ ts, IsTestReport tests ts) (r : Issue.Result) :
    (resultPanel r.value).Lands a (fun m d => m.validation = some r.value ∧ Viewed tests records report .validation m d)
      (fun _ => Drawn tests records report) (Ending tests) := by
  obtain ⟨errors, warnings, hclassify, herrors, hwarnings⟩ := classifyAll_strings r.issues
  refine lands_ite (fun _ => ?_) fun h => absurd rfl h
  refine lands_after (draws_check rfl) (lands_after (draws_check hclassify) (lands_bind (lands_issueSummary _ _ _) fun _ =>
    lands_bind (lands_issues herrors .error) fun _ => lands_bind (lands_issues hwarnings .warning) fun _ =>
    lands_bind (lands_testResults fun m d h => h.2.shown.tests) fun v => lands_of_and ?_))
  rintro rfl
  have hfault : ∀ {m d}, m.validation = some r.value ∧ Viewed v records report .validation m d →
      reportFault? v m = validationFault? v := fun h => by
    rw [h.2.fault]
    simp [h.1]
  rcases ht with rfl | ⟨ts, hts⟩
  · exact lands_check_error rfl fun m d h => hfault h
  · refine lands_after (draws_check (tests_eq hts)) (lands_weaken (lands_forM fun t htest => ?_) fun _ m d h =>
      ⟨h.2.shown, (hfault h).trans (validationFault?_eq hts)⟩)
    obtain ⟨o, ho⟩ := get_of_isTest (hts.each t htest) "outcome" .none
    exact lands_after (draws_check ho) (lands_pure fun _ _ h => h)

theorem lands_validation (ha : Supplied a) (ht : tests = .none ∨ ∃ ts, IsTestReport tests ts) (path : String) :
    (validation path).Lands a (Viewed tests records report .validation) (fun _ => Drawn tests records report)
      (Ending tests) := by
  have rest : (memory >>= fun m => resultPanel (m.validation.getD .none)).Lands a (Viewed tests records report .validation)
      (fun _ => Drawn tests records report) (Ending tests) := by
    intro p hp
    rw [exec_bind_ok (exec_memory a p)]
    rcases hp.shown.checked with hnone | ⟨r, hsome⟩
    · have hinfo : (resultPanel .none).Lands a
          (fun m d => m.validation = none ∧ Viewed tests records report .validation m d)
          (fun _ => Drawn tests records report) (Ending tests) :=
        lands_of_draws (draws_put _) fun m d h => ⟨h.2.shown, by rw [h.2.fault]; simp [h.1]⟩
      rw [hnone]
      exact hinfo p ⟨hnone, hp⟩
    · rw [hsome]
      exact lands_resultPanel ht r p ⟨hsome, hp⟩
  rw [validation_eq]
  refine lands_after (draws_put _) (lands_after (draws_button _ _) (lands_ite (fun _ => ?_) fun _ => rest))
  exact lands_bind (lands_validate ha path) fun _ => rest

/-- **Every view can be drawn**, up to the fault that the report of a test run leads to. -/
theorem lands_draw (ha : Supplied a) (ht : tests = .none ∨ ∃ ts, IsTestReport tests ts) {s : Setting}
    (hres : s.results = resultsOf records) (hrep : s.report = report.value) (v : View) :
    (draw s (proposed (docOf a) records) v).Lands a (Viewed tests records report v) (fun _ => Drawn tests records report)
      (Ending tests) :=
  match v with
  | .dashboard => lands_dashboard ht hres hrep
  | .docstrings => lands_docstrings
  | .validation => lands_validation ha ht s.path
  | .coverage => by
    unfold draw
    rw [hrep]
    exact lands_viewedCoverage

end Views

/-! ## A whole run -/

theorem lands_proposals {a : Answers} (ha : Supplied a) {P : Memory → Disk → Prop} {E : Halt → Memory → Disk → Prop}
    (records : List FileRecord) :
    (proposals (chosenStyle a) (resultsOf records)).Lands a P (fun ps m d => ps = proposed (docOf a) records ∧ P m d) E := by
  have hgives : (proposals (chosenStyle a) (resultsOf records)).Gives a (proposed (docOf a) records) :=
    gives_proposals fun _ _ f _ _ => docstringFor_eq ha f
  refine lands_of_ok fun p hp => ?_
  obtain ⟨q, hq⟩ := hgives p
  have hadds : Adds (fun _ => true) p ((proposals (chosenStyle a) (resultsOf records)).exec a p).2 :=
    adds_proposals (fun _ => rfl) _ _ a p
  rw [hq] at hadds
  exact ⟨_, q, hq, rfl, hadds.memory ▸ hadds.disk ▸ hp⟩

theorem lands_viewing {a : Answers} {tests : Value} {records : List FileRecord} {report : Coverage.Report} {s : Setting}
    (ha : Supplied a) (ht : tests = .none ∨ ∃ ts, IsTestReport tests ts) (htrue : s.results.truthy = true) :
    (fromView (s, some (proposed (docOf a) records))).Lands a (Faced tests a s records report)
      (fun _ m _ => reportFault? tests m = none) (Ending tests) := by
  intro p hp
  -- what follows the view changes nothing
  have tail : ((do let _ ← testResults; let _ ← proposals s.style s.results) : Draw Unit).Lands a (Drawn tests records report)
      (fun _ m _ => reportFault? tests m = none) (Ending tests) := by
    rw [hp.style, hp.results]
    exact lands_bind (lands_testResults fun m d h => h.1.tests) fun _ => lands_bind (lands_proposals ha records)
      fun _ => lands_pure fun m d h => h.2.2.2
  cases hview : s.view with
  | none =>
    have hnone : reportFault? tests p.memory = none := by
      unfold reportFault?
      rw [← hp.view, hview]
      exact ite_self _
    rw [fromView, hview]
    exact tail p ⟨hp.shown, hnone⟩
  | some v =>
    have hmem : p.memory.view = some (.str v.label) := View.ofValue?_eq_some (hp.view.symm.trans hview)
    have hfound : records ≠ [] := by
      rintro rfl
      rw [hp.results] at htrue
      cases htrue
    rw [fromView, hview]
    exact lands_bind (lands_draw ha ht hp.results hp.report v) (fun _ => tail) p ⟨hp.shown, hmem, hfound⟩

theorem lands_app {a : Answers} {tests : Value} (ha : Supplied a) (ht : tests = .none ∨ ∃ ts, IsTestReport tests ts) :
    app.Lands a (Before tests) (fun _ m _ => reportFault? tests m = none) (Ending tests) := by
  refine lands_bind (lands_remember (R := fun _ => Before tests) fun _ _ h => h) fun _ => lands_after (draws_put _)
    (lands_after (draws_put _) (lands_bind lands_opening fun results => lands_bind (lands_sidebar results) fun s => ?_))
  refine lands_of_exists fun records => lands_of_exists fun report => lands_ite (fun htrue => ?_) fun hfalse => ?_
  · intro p hp
    have hproposals := lands_proposals (E := Ending tests) (P := Faced tests a s records report) ha records
    rw [← hp.style, ← hp.results] at hproposals
    have hview : (proposals s.style s.results >>= fun ps => fromView (s, some ps)).Lands a (Faced tests a s records report)
        (fun _ m _ => reportFault? tests m = none) (Ending tests) := by
      refine lands_bind hproposals fun ps => lands_of_and ?_
      rintro rfl
      exact lands_viewing ha ht htrue
    exact hview p hp
  · refine lands_pure fun m d h => ?_
    unfold reportFault?
    rw [h.shown.scan, Option.getD_some, ← h.results, if_neg hfalse]

/-- **A run ends by itself, asks for another run, or has a fault by the report of a test run.** Let the source files of a
disk be in order, and the report of a test run be missing or be one.  A run that is supplied with what it needs from
outside, after any runs before it, then has a fault exactly if the report leads to one: on the dashboard if the report is
missing, or has something but no tests, and in the validation view if it is missing while there is a result to show; each
if there is anything to view.  Otherwise it ends by itself, or by a docstring that was accepted. -/
theorem run_ends_unless_reported (history : List (Answers × Disk)) {a : Answers} {d : Disk} {tests : Value} (ha : Supplied a)
    (hd : Scan.Sources d) (hload : Report.loadTestResults d = .ok tests)
    (ht : tests = .none ∨ ∃ ts, IsTestReport tests ts) :
    (∀ f, (run app a (memoryAfter history) d).halt = some (.fault f) ↔
        reportFault? tests (run app a (memoryAfter history) d).page.memory = some f) ∧
      (reportFault? tests (run app a (memoryAfter history) d).page.memory = none →
        (run app a (memoryAfter history) d).halt = none ∨
          (run app a (memoryAfter history) d).halt = some .rerun ∧
            (run app a (memoryAfter history) d).page.memory.view = some (.str View.docstrings.label)) := by
  have start : Before tests (memoryAfter history) d := ⟨checked_memoryAfter history, hd, hload⟩
  obtain ⟨hok, herr⟩ := lands_app ha ht { memory := memoryAfter history, disk := d } start
  rw [run_eq]
  cases hrun : app.exec a { memory := memoryAfter history, disk := d } with
  | mk r q =>
    cases r with
    | ok x =>
      have hnone := hok x q hrun
      dsimp only
      rw [hnone]
      exact ⟨fun f => ⟨fun h => (by cases h), fun h => (by cases h)⟩, fun _ => Or.inl rfl⟩
    | error e =>
      have hend := herr e q hrun
      cases e with
      | rerun =>
        dsimp only
        rw [hend.1]
        exact ⟨fun f => ⟨fun h => (by cases h), fun h => (by cases h)⟩, fun _ => Or.inr ⟨rfl, hend.2⟩⟩
      | stop => exact hend.elim
      | fault f =>
        have hsome : reportFault? tests q.memory = some f := hend
        dsimp only
        rw [hsome]
        refine ⟨fun g => ⟨fun h => ?_, fun h => ?_⟩, fun h => by cases h⟩
        · cases h
          rfl
        · cases h
          rfl

def sampleSource : List Char := "def f():\n    \"F.\"\n".toList

def sampleDisk : Disk := ⟨.dir [("examples", .dir [("m.py", .file (.text sampleSource))])]⟩

def sampleAnswers : Answers :=
  { apiKey := some "key", reply := "\x7b\"summary\": \"F.\", \"args\": \x7b\x7d, \"returns\": \"\", \"raises\": \x7b\x7d\x7d" }

theorem reviewable_sampleSource : Scan.Reviewable (.text sampleSource) := by
  have h : ((Source.parse sampleSource).toOption.any fun body =>
      (Definition.functionRecords body).all fun f => decide ((f.indent : Int) ≤ Suggestion.maxCount)) = true := by
    decide +kernel
  obtain ⟨body, hparse, hindents⟩ := Result.any_toOption_iff.1 h
  refine ⟨sampleSource, body, congrArg Except.ok (by decide +kernel), hparse, fun f hf => ?_⟩
  exact of_decide_eq_true (List.all_eq_true.1 hindents f hf)

theorem sources_sampleDisk : Scan.Sources sampleDisk where
  tree := by
    have name : ∀ n ∈ ["examples", "m.py"], Entry.IsName n := by
      intro n hn
      refine ⟨?_, ?_, ?_, ?_⟩ <;> revert n <;> decide
    simp only [sampleDisk, Entry.IsTree.dir_iff, List.forall_mem_cons, List.map_cons, List.map_nil]
    refine ⟨by decide, ⟨name _ (by simp), ?_⟩, ⟨by decide, ⟨name _ (by simp), ?_⟩, .file _, ?_⟩, ?_⟩ <;>
      exact fun _ h => by cases h
  free := fun e h => by cases h
  reviewable names c h _ := by
    have hc : c = .text sampleSource := by
      match names, h with
      | [], h => cases h
      | [_], h =>
        obtain ⟨e, he, hat⟩ := Option.bind_eq_some_iff.1 h
        cases List.mem_singleton.1 (Entry.mem_of_lookup? he)
        cases hat
      | _ :: _ :: names, h =>
        obtain ⟨e, he, h⟩ := Option.bind_eq_some_iff.1 h
        cases List.mem_singleton.1 (Entry.mem_of_lookup? he)
        obtain ⟨e, he, h⟩ := Option.bind_eq_some_iff.1 h
        cases List.mem_singleton.1 (Entry.mem_of_lookup? he)
        cases names with
        | nil => cases h; rfl
        | cons => cases h
    rw [hc]
    exact reviewable_sampleSource

theorem supplied_sampleAnswers : Supplied sampleAnswers where
  key := ⟨"key", rfl, by decide⟩
  style := ⟨_, rfl⟩
  replies prompt := by
    have h : ((Json.read sampleAnswers.reply.toList).toOption.any fun v => decide (Suggestion.Documented v)) = true := by
      decide +kernel
    obtain ⟨v, hread, hv⟩ := Result.any_toOption_iff.1 h
    exact ⟨v, hread, of_decide_eq_true hv⟩
  paired prompt := by
    change Json.inPairs (Json.writtenUnits sampleAnswers.reply.toList) = true
    decide +kernel
  checker := ⟨[], rfl⟩

/-- Without a report of a test run the dashboard of a scanned function has a fault. -/
theorem run_without_report_sample :
    Supplied sampleAnswers ∧ Scan.Sources sampleDisk ∧ Report.loadTestResults sampleDisk = .ok .none ∧
      (run app sampleAnswers (memoryAfter []) sampleDisk).halt = some (.fault (.lacks .none "get")) := by
  have hload : Report.loadTestResults sampleDisk = .ok .none := rfl
  have hscan : ((run app sampleAnswers (memoryAfter []) sampleDisk).page.memory.lastScan.getD .none).truthy = true := by
    decide +kernel
  have hview : View.ofValue? ((run app sampleAnswers (memoryAfter []) sampleDisk).page.memory.view.getD .none) =
      some .dashboard := by decide +kernel
  have hfault : reportFault? .none (run app sampleAnswers (memoryAfter []) sampleDisk).page.memory =
      some (.lacks .none "get") := by
    unfold reportFault?
    rw [if_pos hscan, hview]
    rfl
  refine ⟨supplied_sampleAnswers, sources_sampleDisk, hload, ?_⟩
  exact ((run_ends_unless_reported [] supplied_sampleAnswers sources_sampleDisk hload (Or.inl rfl)).1 _).2 hfault

end Review
end DocReview
