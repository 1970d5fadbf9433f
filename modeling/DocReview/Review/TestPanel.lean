import DocReview.Report.Store
import DocReview.Screen.Page
import DocReview.TestRun
/-!
# TestPanel — the results of the last test run
-/
namespace DocReview.Review

open Screen

def testResults : Draw Value := do check (Report.loadTestResults (← disk))

private def count (n : Nat) : Value := .int n

def outcomeFrame (files : List (String × TestRun.FileSummary)) : Except Fault Frame :=
  if files.isEmpty then .error (.noColumn "File")
  else
    .ok ⟨files.map fun p => .str (Path.stem p.1), ["Passed", "Failed"],
      files.map fun p => [count p.2.passed, count p.2.failed]⟩

def summaryRow (p : String × TestRun.FileSummary) : Value :=
  .dict
    [("File", .str p.1), ("Total", count p.2.total), ("Passed", count p.2.passed), ("Failed", count p.2.failed)]

def testSummary (results : Value) : Draw Unit := do
  if results.truthy then
    let files ← check (TestRun.summarize results)
    let frame ← check (outcomeFrame files)
    put (.markdown "## 📊 Test Execution Results (File-wise)")
    put (.frameChart frame)
    put (.markdown "### 📄 Test Results by File")
    put (.table (files.map summaryRow))
  else put (.info "Run pytest with --json-report")

/-- Whether a test failed and its identifier starts with the name of a file. -/
def failedIn (file : String) (test : Value) : Except Fault Bool := do
  if (← test.get "outcome").isText "failed" then
    return file.toList.isPrefixOf (← (← test.get "nodeid" (.str "")).textFor "startswith")
  else return false

def crashMessage (test : Value) : Except Fault Value := do
  (← (← test.get "call" (.dict [])).get "crash" (.dict [])).get "message"

/-- What is known about the failure of a test: the first of its descriptions that says something. -/
def errorText (test : Value) : Except Fault Value := do
  let long ← test.get "longreprtext"
  if long.truthy then return long
  let short ← test.get "longrepr"
  if short.truthy then return short
  return (← crashMessage test).orElse (.str "No error details provided by pytest")

def failureBlock (results : Value) (file : String) (s : TestRun.FileSummary) : Draw Unit := do
  if 0 < s.failed then
    put (.expander ("📄 " ++ file ++ " — ❌ " ++ toString s.failed ++ " failed"))
    (← check (TestRun.tests results)).forM fun test => do
      if ← check (failedIn file test) then put (.code (← check (errorText test)))

def testFailures (results : Value) : Draw Unit := do
  put (.markdown "### ❌ Errors by Test File")
  (← check (TestRun.summarize results)).forM fun p => failureBlock results p.1 p.2

end DocReview.Review
