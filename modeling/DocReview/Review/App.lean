import DocReview.Review.Views
/-!
# App — reviewing documentation

A run scans the sources, draws the sidebar, has docstrings proposed for all functions without one, and draws the chosen
view.  Once it is drawn the docstrings are proposed again.
-/
namespace DocReview.Review

open Screen

def draw (s : Setting) (ps : Proposals) : View → Draw Unit
  | .dashboard => dashboard s
  | .docstrings => docstrings ps
  | .validation => validation s.path
  | .coverage => coverage s.report

def app : Draw Unit := do
  remember fun m => { m with activeFeature := some (m.activeFeature.getD .none) }
  put (.page "Milestone 1: Parser & Baseline Generator ")
  put (.title "AI-Powered Code Reviewer by Pavithra Kotha")
  let s ← sidebar (← opening)
  if s.results.truthy then
    let ps ← proposals s.style s.results
    if let some v := s.view then draw s ps v
    let _ ← testResults
    let _ ← proposals s.style s.results

end DocReview.Review
