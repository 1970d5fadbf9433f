import DocReview.Value.Access
/-!
# TestRun — results of a test run, by file

A test is known by an identifier whose part before the first `::` names its file.  Each file has a summary: how many
tests it has, how many passed and failed, and the errors of those that failed, in order.
-/
namespace DocReview.TestRun

structure FileSummary where
  total : Nat := 0
  passed : Nat := 0
  failed : Nat := 0
  errors : List Value := []

structure Outcome where
  file : String
  passed : Bool
  failed : Bool
  error : Value

def beforeColons : List Char → List Char
  | [] => []
  | ':' :: ':' :: _ => []
  | c :: cs => c :: beforeColons cs

def outcomeOf (test : Value) : Except Fault Outcome := do
  let identifier ← test.get "nodeid" (.str "")
  let outcome ← test.get "outcome" (.str "")
  let error ← test.get "longrepr" (.str "")
  let cs ← identifier.textFor "split"
  return ⟨String.ofList (beforeColons cs), outcome.isText "passed", outcome.isText "failed", error⟩

def FileSummary.count (s : FileSummary) (o : Outcome) : FileSummary :=
  { total := s.total + 1
    passed := if o.passed then s.passed + 1 else s.passed
    failed := if o.failed then s.failed + 1 else s.failed
    errors := if o.failed then s.errors ++ [o.error] else s.errors }

def enter (o : Outcome) : List (String × FileSummary) → List (String × FileSummary)
  | [] => [(o.file, FileSummary.count {} o)]
  | (f, s) :: rest => if f = o.file then (f, s.count o) :: rest else (f, s) :: enter o rest

def tests (run : Value) : Except Fault (List Value) := do (← run.get "tests" (.list [])).elements

/-- The summary of each file, in the order in which files first occur. -/
def summarize (run : Value) : Except Fault (List (String × FileSummary)) := do
  return (← (← tests run).mapM outcomeOf).foldl (fun files o => enter o files) []

def FileSummary.value (s : FileSummary) : Value :=
  .dict [("total", .int s.total), ("passed", .int s.passed), ("failed", .int s.failed), ("errors", .list s.errors)]

end DocReview.TestRun
