import DocReview.Review.Feature
import DocReview.Review.Outline
import DocReview.Review.Proposal
import DocReview.Review.Sidebar
import DocReview.Review.TestPanel
import DocReview.Suggestion.Insertion
/-!
# Views — the parts of the app

The dashboard shows the last report, an outline of the selected file, test results and tools; the docstring view shows
proposals and applies those that are accepted; the validation view shows what a style checker found; the coverage view
shows the report file by file and the sizes of the definitions in the selected file.
-/
namespace DocReview.Review

open Screen

/-! ## Dashboard -/

def reportSummary (report : Value) : Draw Unit := do
  if report.truthy then
    let summary ← check (report.field "summary")
    let files ← check (do (← report.get "files" (.dict [])).size)
    put (.metric "Files Scanned" (.int files))
    let percent ← check (summary.get "coverage_percent" (.int 0))
    put (.metric "Coverage %" percent)
    put (.metric "Total Items" (← check (summary.get "total_items" (.int 0))))
    put (.progress (← check (percent.divide 100)))
  else put (.info "Run scan to view dashboard")

def dashboard (s : Setting) : Draw Unit := do
  put (.markdown "## 📊 Project Dashboard")
  reportSummary s.report
  outlinePanel s.results
  let tests ← testResults
  testSummary tests
  testFailures tests
  featureButtons
  featurePanel s.results

/-! ## Docstrings -/

/-- Whether proposals are shown: the name of the last function looked at contains the text searched for. -/
def isWanted (search : String) (ps : Proposals) : Except Fault Bool := do
  if search = "" then return true
  match ps.lastFunction with
  | some f =>
    let name ← (← f.field "name").textFor "lower"
    return Text.occursIn (Text.lower search.toList) (Text.lower name)
  | none => throw (.unbound "fn")

def proposalKey (action : String) (p : Proposal) (number : Nat) : String :=
  action ++ "-" ++ p.file.text ++ "-" ++ p.line.text ++ "-" ++ toString number

/-- Puts an accepted docstring into its file, and ends the run. -/
def accept (p : Proposal) : Draw Unit := do
  let path ← check (Path.ofValue p.file)
  setDisk (← check (Suggestion.insertInFile (← disk) path p.line p.indent (.str p.docstring)))
  put (.success "Docstring applied successfully")
  throw .rerun

/-- A proposal beside what there is; the docstring shown is the last that was generated. -/
def proposalCard (ps : Proposals) (number : Nat) (p : Proposal) : Draw Unit := do
  put (.markdown "<div class=\"ui-card\">")
  put (.markdown ("### `" ++ p.name.text ++ "` <span class='status-error'>Missing Docstring</span>"))
  put (.markdown "**Original**")
  put (.code (p.existing.orElse (.str "No docstring found")))
  put (.markdown "**Revised (AI)**")
  put (.code (.str (ps.lastDocstring.getD "")))
  if ← button "✅ Accept" (some (proposalKey "accept" p number)) then accept p
  let _ ← button "❌ Reject" (some (proposalKey "reject" p number))
  put (.markdown "</div>")

def docstrings (ps : Proposals) : Draw Unit := do
  put (.markdown "## 🧩 Docstring Review")
  if ps.files.isEmpty then
    put (.success "All functions have docstrings 🎉")
    put (.success "All functions already have docstrings 🎉")
  else
    put (.markdown "## ")
    let search ← textField "🔍 Search function"
    ps.files.forM fun f => do
      put (.markdown ("### 📄 " ++ Path.name (← check (Path.ofValue f.1))))
      f.2.zipIdx.forM fun p => do
        if ← check (isWanted search ps) then proposalCard ps p.2 p.1

/-! ## Validation -/

/-- Starts the style checker on a path and remembers what it found. -/
def validate (path : String) : Draw Unit := do
  put (.checked path)
  let result ← check (← read).check.result
  remember fun m => { m with validation := some result.value }

def issueSummary (issues : Value) (errors warnings : List Value) : Draw Unit := do
  put (.metric "Errors" (.int errors.length))
  put (.metric "Warnings" (.int warnings.length))
  put (.metric "Status" (.str (if issues.truthy then "❌ Issues" else "✅ Clean")))
  put (.countChart [("Errors", errors.length), ("Warnings", warnings.length)])

def validation (path : String) : Draw Unit := do
  put (.markdown "## 🧪 Validation Results (PEP 257)")
  if ← button "Run Validation" then validate path
  let result := (← memory).validation.getD .none
  if result.truthy then
    let issues ← check (result.field "issues")
    let (errors, warnings) ← check (Issue.classify issues)
    issueSummary issues errors warnings
    errors.forM fun e => do put (.error (← check (e.joinElements "\n")))
    warnings.forM fun w => do put (.warning (← check (w.joinElements "\n")))
    let tests ← check (TestRun.tests (← testResults))
    tests.forM fun t => do
      let _ ← check (t.get "outcome")
  else put (.info "Run validation to see results.")

/-! ## Coverage -/

def coverageRow (p : String × Value) : Except Fault Value := do
  return .dict
    [("File", .str (Path.name p.1)), ("Items", ← p.2.field "total_items"), ("Docs", ← p.2.field "doc_count"),
      ("Coverage %", ← p.2.field "coverage_percent")]

def sizeRow (d : Definition.Sized) : Value :=
  .dict
    [("Name", .str d.name), ("Type", .str (if d.isClass then "Class" else "Function")), ("Line", .int d.line),
      ("Complexity", .int d.size)]

def codeMetrics : Draw Unit := do
  put (.markdown "## 📐 Code Metrics")
  let selected := (← memory).selectedFile.getD .none
  if selected.truthy then
    let d ← disk
    match (do Scan.metrics d (← Path.ofValue selected) : Except Fault (Nat × List Definition.Sized)) with
    | .ok (index, sizes) =>
      put (.metric "Maintainability Index" (.int index))
      put (.markdown "### 🔍 Function / Class Breakdown")
      put (.table (sizes.map sizeRow))
    | .error f =>
      put (.error "Unable to compute metrics for this file.")
      put (.text f.message)
  else put (.info "Select a file from the sidebar to view code metrics.")

def coverage (report : Value) : Draw Unit := do
  put (.markdown "## 📈 Coverage Report")
  if report.truthy then
    let summary ← check (report.field "summary")
    put (.metric "Total Items" (← check (summary.field "total_items")))
    put (.metric "Documented" (← check (summary.field "total_docs")))
    let percent ← check (summary.field "coverage_percent")
    put (.metric "Coverage %" percent)
    put (.progress (← check (percent.divide 100)))
    let rows ← check (do (← (← report.field "files").entries).mapM coverageRow)
    put (.table rows)
    codeMetrics
  else put (.info "Run scan to view coverage")

end DocReview.Review
