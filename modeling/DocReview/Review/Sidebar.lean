import DocReview.Review.Opening
/-!
# Sidebar — what to scan and what to look at
-/
namespace DocReview.Review

open Screen

inductive View where
  | dashboard
  | docstrings
  | validation
  | coverage
  deriving DecidableEq

namespace View

def label : View → String
  | .dashboard => "📊 Dashboard"
  | .docstrings => "🧩 Docstrings"
  | .validation => "🧪 Validation"
  | .coverage => "📈 Coverage"

def all : List View := [.dashboard, .docstrings, .validation, .coverage]

def ofValue? (v : Value) : Option View := all.find? fun w => v.isText w.label

end View

structure Setting where
  path : String
  style : Value
  view : Option View
  results : Value
  report : Value

/-- Scans the chosen path when asked to; gives the results to work with. -/
def scanOnDemand (path : String) (results : Value) : Draw Value := do
  if ← button "🚀 Scan Project" then
    let s ← check (scan (← disk) path)
    keep s
    if let some first := s.first then remember fun m => { m with selectedFile := some (.str first) }
    put (.success "Scan completed")
    return s.results
  else return results

def navigation : Draw Unit := do
  put (.markdown "## 🧭 Navigation")
  remember fun m => { m with view := some (m.view.getD (.str View.dashboard.label)) }
  View.all.forM fun v => do
    if ← button v.label then remember fun m => { m with view := some (.str v.label) }

def fileList (report : Value) : Draw Unit := do
  if report.truthy then
    let files ← check (do (← report.get "files" (.dict [])).elements)
    files.forM fun f => do
      let path ← check (Path.ofValue f)
      if ← button (Path.name path) (some ("file-" ++ path)) then
        remember fun m => { m with selectedFile := some f }

def sidebar (results : Value) : Draw Setting := do
  put (.markdown "## 🔍 Project Control")
  let path ← textField "Scan Path" defaultPath
  let style ← choose "Docstring Style" ["google", "numpy", "rest"]
  let results ← scanOnDemand path results
  put .divider
  navigation
  let view := (← memory).view.getD .none
  put .divider
  put (.markdown "## 📁 Files")
  let report := (← memory).lastReport.getD .none
  fileList report
  return ⟨path, style, View.ofValue? view, results, report⟩

end DocReview.Review
