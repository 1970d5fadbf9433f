import DocReview.Proofs.Screen
import DocReview.Review.App
/-!
# Calm — what drawing a view leaves alone

Once the sidebar is drawn a run leaves alone what is remembered about scans: the results, their report, the selected
file and the view.  Proposing docstrings and drawing any view are calm in this sense (`calm_proposals`, `calm_draw`), and
only the validation view draws warnings; the outline of the selected file draws one only where that file is missing.
-/
namespace DocReview
namespace Review

open Screen

/-- What is remembered about scans and views is as before, what is remembered of a validation is as before or what a checker
gave, and all that is newly drawn is allowed. -/
structure Calm (allowed : Element → Bool) (p q : Page) : Prop where
  view : q.memory.view = p.memory.view
  lastScan : q.memory.lastScan = p.memory.lastScan
  lastReport : q.memory.lastReport = p.memory.lastReport
  selectedFile : q.memory.selectedFile = p.memory.selectedFile
  validation : q.memory.validation = p.memory.validation ∨ ∃ r : Issue.Result, q.memory.validation = some r.value
  drawn : ∀ e ∈ q.drawn, e ∈ p.drawn ∨ allowed e = true

def isQuiet : Element → Bool
  | .warning _ => false
  | _ => true

namespace Calm

variable {allowed : Element → Bool} {α β : Type}

theorem preorder (allowed : Element → Bool) : Screen.Preorder (Calm allowed) where
  refl _ := ⟨rfl, rfl, rfl, rfl, Or.inl rfl, fun _ h => Or.inl h⟩
  trans h₁ h₂ :=
    ⟨h₂.view.trans h₁.view, h₂.lastScan.trans h₁.lastScan, h₂.lastReport.trans h₁.lastReport,
      h₂.selectedFile.trans h₁.selectedFile, h₂.validation.elim (fun h => h ▸ h₁.validation) Or.inr,
      fun e he => (h₂.drawn e he).elim (h₁.drawn e) Or.inr⟩

theorem weaken {p q : Page} (h : Calm isQuiet p q) : Calm (fun _ => true) p q :=
  ⟨h.view, h.lastScan, h.lastReport, h.selectedFile, h.validation, fun _ _ => Or.inr rfl⟩

theorem weakened {m : Draw α} (h : m.Moves (Calm isQuiet)) : m.Moves (Calm fun _ => true) := fun a p => (h a p).weaken

theorem pure (x : α) : (Pure.pure x : Draw α).Moves (Calm allowed) := moves_pure (preorder allowed) x

theorem throw (h : Halt) : (MonadExcept.throw h : Draw α).Moves (Calm allowed) := moves_throw (preorder allowed) h

theorem check (r : Except Fault α) : (Screen.check r).Moves (Calm allowed) := moves_check (preorder allowed) r

theorem bind {m : Draw α} {f : α → Draw β} (hm : m.Moves (Calm allowed)) (hf : ∀ x, (f x).Moves (Calm allowed)) :
    (m >>= f).Moves (Calm allowed) := moves_bind (preorder allowed) hm hf

theorem bind_at {m : Draw α} {f : α → Draw β} {a : Answers} {p : Page} (hm : Calm allowed p (m.exec a p).2)
    (hf : ∀ x p', Calm allowed p p' → Calm allowed p' ((f x).exec a p').2) : Calm allowed p ((m >>= f).exec a p).2 := by
  rw [exec_bind]
  cases hx : m.exec a p with
  | mk r p' =>
    rw [hx] at hm
    cases r with
    | ok x => exact (preorder allowed).trans hm (hf x p' hm)
    | error e => exact hm

theorem memory : Screen.memory.Moves (Calm allowed) := moves_memory (preorder allowed)

theorem disk : Screen.disk.Moves (Calm allowed) := moves_disk (preorder allowed)

theorem read : (MonadReaderOf.read : Draw Answers).Moves (Calm allowed) := moves_read (preorder allowed)

theorem forM {f : α → Draw PUnit} {l : List α} (h : ∀ x ∈ l, (f x).Moves (Calm allowed)) :
    (l.forM f).Moves (Calm allowed) := moves_forM (preorder allowed) l h

theorem put {e : Element} (h : allowed e = true) : (Screen.put e).Moves (Calm allowed) := by
  refine moves_put fun p => ⟨rfl, rfl, rfl, rfl, Or.inl rfl, fun x hx => ?_⟩
  rcases List.mem_cons.1 hx with rfl | hx
  · exact Or.inr h
  · exact Or.inl hx

theorem setDisk (d : Disk) : (Screen.setDisk d).Moves (Calm allowed) :=
  moves_setDisk fun _ => ⟨rfl, rfl, rfl, rfl, Or.inl rfl, fun _ h => Or.inl h⟩

/-- Of what is remembered, the open feature and the validation may change. -/
theorem remember {f : Memory → Memory} (hv : ∀ m, (f m).view = m.view) (hs : ∀ m, (f m).lastScan = m.lastScan)
    (hr : ∀ m, (f m).lastReport = m.lastReport) (hf : ∀ m, (f m).selectedFile = m.selectedFile)
    (hc : ∀ m, (f m).validation = m.validation ∨ ∃ r : Issue.Result, (f m).validation = some r.value) :
    (Screen.remember f).Moves (Calm allowed) :=
  moves_remember fun p => ⟨hv p.memory, hs p.memory, hr p.memory, hf p.memory, hc p.memory, fun _ h => Or.inl h⟩

theorem ite {c : Prop} [Decidable c] {m n : Draw α} (hm : m.Moves (Calm allowed)) (hn : n.Moves (Calm allowed)) :
    (if c then m else n).Moves (Calm allowed) := moves_ite hm hn

theorem button (label : String) (key : Option String) (h : ∀ b, allowed (.button label key b) = true) :
    (Screen.button label key).Moves (Calm allowed) :=
  bind read fun _ => bind (put (h _)) fun _ => pure _

theorem textField (label initial : String) (h : ∀ v, allowed (.input label v) = true) :
    (Screen.textField label initial).Moves (Calm allowed) :=
  bind read fun _ => bind (put (h _)) fun _ => pure _

theorem choose (label : String) (options : List String) (h : ∀ v, allowed (.choice label options v) = true) :
    (Screen.choose label options).Moves (Calm allowed) :=
  bind read fun _ => bind (put (h _)) fun _ => pure _

end Calm

/-! ## Proposals -/

/-- Only the page is touched, and all that is newly drawn is allowed. -/
structure Adds (allowed : Element → Bool) (p q : Page) : Prop where
  memory : q.memory = p.memory
  disk : q.disk = p.disk
  drawn : ∀ e ∈ q.drawn, e ∈ p.drawn ∨ allowed e = true

theorem Adds.preorder (allowed : Element → Bool) : Screen.Preorder (Adds allowed) where
  refl _ := ⟨rfl, rfl, fun _ h => Or.inl h⟩
  trans h₁ h₂ :=
    ⟨h₂.memory.trans h₁.memory, h₂.disk.trans h₁.disk, fun e he => (h₂.drawn e he).elim (h₁.drawn e) Or.inr⟩

theorem Adds.calm {allowed : Element → Bool} {p q : Page} (h : Adds allowed p q) : Calm allowed p q := by
  obtain ⟨hm, -, hd⟩ := h
  exact ⟨by rw [hm], by rw [hm], by rw [hm], by rw [hm], Or.inl (by rw [hm]), hd⟩

section Adding

variable {allowed : Element → Bool} (hasked : ∀ subject, allowed (.asked subject) = true)

include hasked

theorem adds_generate (record style : Value) : (generate record style).Moves (Adds allowed) := by
  have hR := Adds.preorder allowed
  have hput : ∀ subject, (put (.asked subject)).Moves (Adds allowed) := fun subject =>
    moves_put fun p => ⟨rfl, rfl, fun x hx => (List.mem_cons.1 hx).elim (fun h => Or.inr (h ▸ hasked subject)) Or.inl⟩
  refine moves_bind hR (moves_read hR) fun a => ?_
  dsimp only
  split
  · exact moves_bind hR (hput _) fun _ => moves_bind hR (moves_check hR _) fun _ => moves_check hR _
  · exact moves_bind hR (moves_check hR _) fun _ => moves_check hR _

theorem adds_propose (style file function : Value) : (propose style file function).Moves (Adds allowed) :=
  moves_bind (Adds.preorder allowed) (adds_generate hasked function style) fun _ => moves_check (Adds.preorder allowed) _

theorem adds_proposeAll (style file : Value) : ∀ (fs : List Value) (found : List Proposal) (seen : Proposals),
    (proposeAll style file fs found seen).Moves (Adds allowed)
  | [], _, _ => moves_pure (Adds.preorder allowed) _
  | f :: fs, _, _ => by
    have hR := Adds.preorder allowed
    refine moves_bind hR (moves_check hR _) fun _ => moves_ite (adds_proposeAll style file fs _ _) ?_
    exact moves_bind hR (adds_propose hasked style file f) fun _ => adds_proposeAll style file fs _ _

theorem adds_proposeFile (style : Value) (before : Proposals) (record : Value) :
    (proposeFile style before record).Moves (Adds allowed) := by
  have hR := Adds.preorder allowed
  refine moves_bind hR (moves_check hR _) fun file => moves_bind hR (moves_check hR _) fun fs =>
    moves_bind hR (adds_proposeAll hasked style file fs [] before) fun r => ?_
  dsimp only
  split
  · exact moves_pure hR _
  · split
    · exact moves_bind hR (moves_throw hR _) fun _ => moves_pure hR _
    · exact moves_pure hR _

theorem adds_proposals (style results : Value) : (proposals style results).Moves (Adds allowed) := by
  have hR := Adds.preorder allowed
  exact moves_bind hR (moves_check hR _) fun rs => moves_foldlM hR (adds_proposeFile hasked style) rs {}

end Adding

theorem calm_proposals (style results : Value) : (proposals style results).Moves (Calm isQuiet) := fun a p =>
  (adds_proposals (fun _ => rfl) style results a p).calm

/-! ## Views -/

theorem calm_testResults : testResults.Moves (Calm isQuiet) := Calm.bind Calm.disk fun _ => Calm.check _

theorem calm_testSummary (results : Value) : (testSummary results).Moves (Calm isQuiet) := by
  refine Calm.ite ?_ (Calm.put rfl)
  exact Calm.bind (Calm.check _) fun _ => Calm.bind (Calm.check _) fun _ => Calm.bind (Calm.put rfl) fun _ =>
    Calm.bind (Calm.put rfl) fun _ => Calm.bind (Calm.put rfl) fun _ => Calm.put rfl

theorem calm_failureBlock (results : Value) (file : String) (s : TestRun.FileSummary) :
    (failureBlock results file s).Moves (Calm isQuiet) := by
  refine Calm.ite ?_ (Calm.pure _)
  refine Calm.bind (Calm.put rfl) fun _ => Calm.bind (Calm.check _) fun tests => Calm.forM fun t _ => ?_
  exact Calm.bind (Calm.check _) fun _ => Calm.ite (Calm.bind (Calm.check _) fun _ => Calm.put rfl) (Calm.pure _)

theorem calm_testFailures (results : Value) : (testFailures results).Moves (Calm isQuiet) :=
  Calm.bind (Calm.put rfl) fun _ => Calm.bind (Calm.check _) fun _ => Calm.forM fun p _ =>
    calm_failureBlock results p.1 p.2

theorem calm_featureButtons : featureButtons.Moves (Calm isQuiet) := by
  refine Calm.bind (Calm.put rfl) fun _ => Calm.bind (Calm.put rfl) fun _ => Calm.bind (Calm.put rfl) fun _ =>
    Calm.bind (Calm.forM fun f _ => ?_) fun _ => Calm.put rfl
  refine Calm.bind (Calm.button _ _ fun _ => rfl) fun _ => Calm.ite ?_ (Calm.pure _)
  exact Calm.remember (fun _ => rfl) (fun _ => rfl) (fun _ => rfl) (fun _ => rfl) fun _ => Or.inl rfl

theorem calm_filterPanel (results : Value) : (filterPanel results).Moves (Calm isQuiet) :=
  Calm.bind (Calm.put rfl) fun _ => Calm.bind (Calm.choose _ _ fun _ => rfl) fun _ =>
    Calm.bind (Calm.check _) fun _ => Calm.put rfl

theorem calm_searchPanel (results : Value) : (searchPanel results).Moves (Calm isQuiet) := by
  refine Calm.bind (Calm.put rfl) fun _ => Calm.bind (Calm.put rfl) fun _ =>
    Calm.bind (Calm.textField _ _ fun _ => rfl) fun _ => Calm.ite ?_ (Calm.pure _)
  refine Calm.bind (Calm.check _) fun _ => Calm.ite (Calm.put rfl) ?_
  exact Calm.bind (Calm.put rfl) fun _ => Calm.put rfl

theorem calm_exportPanel (results : Value) : (exportPanel results).Moves (Calm isQuiet) :=
  Calm.bind (Calm.put rfl) fun _ => Calm.bind (Calm.put rfl) fun _ => Calm.bind (Calm.check _) fun _ =>
    Calm.bind (Calm.put rfl) fun _ => Calm.bind (Calm.put rfl) fun _ => Calm.bind (Calm.put rfl) fun _ => Calm.put rfl

theorem calm_helpPanel : helpPanel.Moves (Calm isQuiet) :=
  Calm.bind (Calm.put rfl) fun _ => Calm.bind (Calm.put rfl) fun _ => Calm.forM fun _ _ => Calm.put rfl

theorem calm_isOpen (f : Feature) : (isOpen f).Moves (Calm isQuiet) := Calm.bind Calm.memory fun _ => Calm.pure _

theorem calm_whenOpen (f : Feature) {panel rest : Draw Unit} (hp : panel.Moves (Calm isQuiet))
    (hr : rest.Moves (Calm isQuiet)) :
    (isOpen f >>= fun b => if b = true then panel >>= fun _ => rest else rest).Moves (Calm isQuiet) :=
  Calm.bind (calm_isOpen f) fun _ => Calm.ite (Calm.bind hp fun _ => hr) hr

theorem calm_featurePanel (results : Value) : (featurePanel results).Moves (Calm isQuiet) := by
  unfold featurePanel
  refine calm_whenOpen .filters (calm_filterPanel results) (calm_whenOpen .search (calm_searchPanel results)
    (calm_whenOpen .export (calm_exportPanel results) ?_))
  exact Calm.bind (calm_isOpen .help) fun _ => Calm.ite calm_helpPanel (Calm.pure _)

theorem calm_reportSummary (report : Value) : (reportSummary report).Moves (Calm isQuiet) := by
  refine Calm.ite ?_ (Calm.put rfl)
  exact Calm.bind (Calm.check _) fun _ => Calm.bind (Calm.check _) fun _ => Calm.bind (Calm.put rfl) fun _ =>
    Calm.bind (Calm.check _) fun _ => Calm.bind (Calm.put rfl) fun _ => Calm.bind (Calm.check _) fun _ =>
    Calm.bind (Calm.put rfl) fun _ => Calm.bind (Calm.check _) fun _ => Calm.put rfl

/-- If there is something to outline, it is there: the selected file has a record among the results. -/
def Outlined (selected results : Value) : Prop :=
  selected.truthy = true → results.truthy = true → ∃ records record, results.elements = .ok records ∧
    recordOf? selected records = .ok (some record) ∧ record.truthy = true

theorem calm_outlinePanel (results : Value) : (outlinePanel results).Moves (Calm fun _ => true) := by
  have missing : outlinePanel.missing.Moves (Calm fun _ => true) := Calm.bind (Calm.put rfl) fun _ => Calm.throw _
  refine Calm.bind (Calm.put rfl) fun _ => Calm.bind Calm.memory fun m => Calm.ite ?_ (Calm.put rfl)
  refine Calm.bind (Calm.check _) fun r => ?_
  split
  · exact Calm.ite (Calm.bind (Calm.check _) fun _ => Calm.put rfl) missing
  · exact missing

theorem quiet_outlinePanel {results : Value} {a : Answers} {p : Page}
    (h : Outlined (p.memory.selectedFile.getD .none) results) : Calm isQuiet p ((outlinePanel results).exec a p).2 := by
  refine Calm.bind_at (Calm.put rfl a p) fun _ p' hp => ?_
  rw [exec_bind_ok (exec_memory a p'), hp.selectedFile]
  dsimp only
  split
  · rename_i ht
    rw [Bool.and_eq_true] at ht
    obtain ⟨records, record, he, hr, htrue⟩ := h ht.1 ht.2
    have hfind : (do recordOf? (p.memory.selectedFile.getD .none) (← results.elements) : Except Fault _) =
        .ok (some record) := by rw [he]; exact hr
    rw [hfind, exec_bind_ok (exec_check_ok _ a p')]
    dsimp only
    rw [if_pos htrue]
    exact Calm.bind (Calm.check _) (fun _ => Calm.put rfl) a p'
  · exact Calm.put rfl a p'

theorem calm_dashboardTools (results : Value) :
    (testResults >>= fun tests => testSummary tests >>= fun _ => testFailures tests >>= fun _ => featureButtons >>=
      fun _ => featurePanel results).Moves (Calm isQuiet) :=
  Calm.bind calm_testResults fun tests => Calm.bind (calm_testSummary tests) fun _ =>
    Calm.bind (calm_testFailures tests) fun _ => Calm.bind calm_featureButtons fun _ => calm_featurePanel results

theorem calm_dashboard (s : Setting) : (dashboard s).Moves (Calm fun _ => true) :=
  Calm.bind (Calm.put rfl) fun _ => Calm.bind (Calm.weakened (calm_reportSummary s.report)) fun _ =>
    Calm.bind (calm_outlinePanel s.results) fun _ => Calm.weakened (calm_dashboardTools s.results)

theorem quiet_dashboard {s : Setting} {a : Answers} {p : Page}
    (h : Outlined (p.memory.selectedFile.getD .none) s.results) : Calm isQuiet p ((dashboard s).exec a p).2 := by
  refine Calm.bind_at (Calm.put rfl a p) fun _ p₁ h₁ => Calm.bind_at (calm_reportSummary s.report a p₁) fun _ p₂ h₂ => ?_
  rw [← h₁.selectedFile, ← h₂.selectedFile] at h
  exact Calm.bind_at (quiet_outlinePanel h) fun _ p₃ _ => calm_dashboardTools s.results a p₃

theorem calm_accept (p : Proposal) : (accept p).Moves (Calm isQuiet) :=
  Calm.bind (Calm.check _) fun _ => Calm.bind Calm.disk fun _ => Calm.bind (Calm.check _) fun d =>
    Calm.bind (Calm.setDisk d) fun _ => Calm.bind (Calm.put rfl) fun _ => Calm.throw _

theorem calm_proposalCard (ps : Proposals) (number : Nat) (p : Proposal) :
    (proposalCard ps number p).Moves (Calm isQuiet) := by
  have last : (button "❌ Reject" (some (proposalKey "reject" p number)) >>= fun _ =>
      put (.markdown "</div>")).Moves (Calm isQuiet) :=
    Calm.bind (Calm.button _ _ fun _ => rfl) fun _ => Calm.put rfl
  refine Calm.bind (Calm.put rfl) fun _ => Calm.bind (Calm.put rfl) fun _ => Calm.bind (Calm.put rfl) fun _ =>
    Calm.bind (Calm.put rfl) fun _ => Calm.bind (Calm.put rfl) fun _ => Calm.bind (Calm.put rfl) fun _ =>
    Calm.bind (Calm.button _ _ fun _ => rfl) fun _ => ?_
  exact Calm.ite (Calm.bind (calm_accept p) fun _ => last) last

theorem calm_docstrings (ps : Proposals) : (docstrings ps).Moves (Calm isQuiet) := by
  refine Calm.bind (Calm.put rfl) fun _ => Calm.ite (Calm.bind (Calm.put rfl) fun _ => Calm.put rfl) ?_
  refine Calm.bind (Calm.put rfl) fun _ => Calm.bind (Calm.textField _ _ fun _ => rfl) fun _ => Calm.forM fun f _ => ?_
  refine Calm.bind (Calm.check _) fun _ => Calm.bind (Calm.put rfl) fun _ => Calm.forM fun p _ => ?_
  exact Calm.bind (Calm.check _) fun _ => Calm.ite (calm_proposalCard ps p.2 p.1) (Calm.pure _)

def resultPanel (result : Value) : Draw Unit := do
  if result.truthy then
    let issues ← check (result.field "issues")
    let (errors, warnings) ← check (Issue.classify issues)
    issueSummary issues errors warnings
    errors.forM fun e => do put (.error (← check (e.joinElements "\n")))
    warnings.forM fun w => do put (.warning (← check (w.joinElements "\n")))
    let tests ← check (TestRun.tests (← testResults))
    tests.forM fun t => do
      let _ ← check (t.get "outcome")
  else put (.info "Run validation to see results.")

theorem validation_eq (path : String) :
    validation path = (do
      put (.markdown "## 🧪 Validation Results (PEP 257)")
      if ← button "Run Validation" then validate path
      resultPanel ((← memory).validation.getD .none)) := rfl

theorem calm_validation (path : String) : (validation path).Moves (Calm fun _ => true) := by
  have rest : (memory >>= fun m => resultPanel (m.validation.getD .none)).Moves (Calm fun _ => true) := by
    refine Calm.bind Calm.memory fun m => Calm.ite ?_ (Calm.put rfl)
    refine Calm.bind (Calm.check _) fun _ => Calm.bind (Calm.check _) fun _ => Calm.bind ?_ fun _ => ?_
    · exact Calm.bind (Calm.put rfl) fun _ => Calm.bind (Calm.put rfl) fun _ => Calm.bind (Calm.put rfl) fun _ =>
        Calm.put rfl
    · refine Calm.bind (Calm.forM fun _ _ => Calm.bind (Calm.check _) fun _ => Calm.put rfl) fun _ =>
        Calm.bind (Calm.forM fun _ _ => Calm.bind (Calm.check _) fun _ => Calm.put rfl) fun _ => ?_
      exact Calm.bind (Calm.bind Calm.disk fun _ => Calm.check _) fun _ => Calm.bind (Calm.check _) fun _ =>
        Calm.forM fun _ _ => Calm.bind (Calm.check _) fun _ => Calm.pure _
  have first : (validate path).Moves (Calm fun _ => true) :=
    Calm.bind (Calm.put rfl) fun _ => Calm.bind Calm.read fun _ => Calm.bind (Calm.check _) fun result =>
      Calm.remember (fun _ => rfl) (fun _ => rfl) (fun _ => rfl) (fun _ => rfl) fun _ => Or.inr ⟨result, rfl⟩
  exact Calm.bind (Calm.put rfl) fun _ => Calm.bind (Calm.button _ _ fun _ => rfl) fun _ =>
    Calm.ite (Calm.bind first fun _ => rest) rest

theorem calm_codeMetrics : codeMetrics.Moves (Calm isQuiet) := by
  refine Calm.bind (Calm.put rfl) fun _ => Calm.bind Calm.memory fun _ => Calm.ite ?_ (Calm.put rfl)
  refine Calm.bind Calm.disk fun _ => ?_
  split
  · exact Calm.bind (Calm.put rfl) fun _ => Calm.bind (Calm.put rfl) fun _ => Calm.put rfl
  · exact Calm.bind (Calm.put rfl) fun _ => Calm.put rfl

theorem calm_coverage (report : Value) : (coverage report).Moves (Calm isQuiet) := by
  refine Calm.bind (Calm.put rfl) fun _ => Calm.ite ?_ (Calm.put rfl)
  exact Calm.bind (Calm.check _) fun _ => Calm.bind (Calm.check _) fun _ => Calm.bind (Calm.put rfl) fun _ =>
    Calm.bind (Calm.check _) fun _ => Calm.bind (Calm.put rfl) fun _ => Calm.bind (Calm.check _) fun _ =>
    Calm.bind (Calm.put rfl) fun _ => Calm.bind (Calm.check _) fun _ => Calm.bind (Calm.put rfl) fun _ =>
    Calm.bind (Calm.check _) fun _ => Calm.bind (Calm.put rfl) fun _ => calm_codeMetrics

/-- **Drawing a view leaves alone what is remembered about scans.** -/
theorem calm_draw (s : Setting) (ps : Proposals) (v : View) : (draw s ps v).Moves (Calm fun _ => true) :=
  match v with
  | .dashboard => calm_dashboard s
  | .docstrings => Calm.weakened (calm_docstrings ps)
  | .validation => calm_validation s.path
  | .coverage => Calm.weakened (calm_coverage s.report)

end Review
end DocReview
