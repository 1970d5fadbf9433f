import DocReview.Proofs.Coverage.Account
import DocReview.Proofs.Review.Calm
/-!
# Consistency — what is remembered about scans fits together

The results of the last scan, their report and the selected file are remembered by several parts of a run, each of which
may be cut short.  Still they fit together after every run and whenever a view is drawn: the report is that of the
results, and a file of the results is selected if there is any (`Consistent`).  So the dashboard never looks for an
outline that is not there.
-/
namespace DocReview
namespace Review

open Screen
open Definition (FileRecord)

/-- The results of a scan, as data. -/
def resultsOf (records : List FileRecord) : Value := .list (records.map FileRecord.value)

/-- Nothing is remembered of a scan, or the results of one with their report; if there are results, the selected file is
the path of one of them. -/
inductive Consistent (m : Memory) : Prop
  | fresh (scan : m.lastScan = none) (report : m.lastReport = none)
  | scanned (records : List FileRecord) (report : Coverage.Report) (scan : m.lastScan = some (resultsOf records))
      (computed : Coverage.compute (resultsOf records) = .ok report) (stored : m.lastReport = some report.value)
      (selected : records ≠ [] → ∃ r ∈ records, m.selectedFile = some (.str r.path))

/-! ## The files of a report -/

theorem mem_enter {path file : String} {c : Coverage.FileCoverage} : ∀ {l : List (String × Coverage.FileCoverage)},
    file ∈ (Coverage.enter path c l).map Prod.fst → file = path ∨ file ∈ l.map Prod.fst
  | [], h => by
    rw [Coverage.enter, List.map_singleton, List.mem_singleton] at h
    exact Or.inl h
  | (p, g) :: l, h => by
    rw [Coverage.enter] at h
    split at h
    · exact Or.inr h
    · rcases List.mem_cons.1 h with h | h
      · exact Or.inr (h ▸ List.mem_cons_self)
      · exact (mem_enter h).imp id (List.mem_cons_of_mem _)

theorem mem_entered {file : String} : ∀ {covered entered : List (String × Coverage.FileCoverage)},
    file ∈ (covered.foldl (fun files p => Coverage.enter p.1 p.2 files) entered).map Prod.fst →
      file ∈ covered.map Prod.fst ∨ file ∈ entered.map Prod.fst
  | [], _, h => Or.inr h
  | c :: covered, entered, h => by
    rw [List.foldl_cons] at h
    rcases mem_entered h with h | h
    · exact Or.inl (List.mem_cons_of_mem _ h)
    · rcases mem_enter h with rfl | h
      · exact Or.inl List.mem_cons_self
      · exact Or.inr h

theorem mem_files_of_compute {records : List FileRecord} {report : Coverage.Report}
    (h : Coverage.compute (resultsOf records) = .ok report) {file : String} (hf : file ∈ report.files.map Prod.fst) :
    ∃ r ∈ records, r.path = file := by
  cases h.symm.trans (Coverage.compute_value records)
  rcases mem_entered hf with hf | hf
  · rw [List.map_map] at hf
    exact List.mem_map.1 hf
  · cases hf

theorem mem_insertByCoverage {key : Value} {entry : String × Value} : ∀ {l l' : List (Value × String × Value)},
    insertByCoverage key entry l = .ok l' → ∀ x ∈ l', x.2 = entry ∨ x ∈ l
  | [], l', h, x, hx => by
    cases h
    rw [List.mem_singleton.1 hx]
    exact Or.inl rfl
  | (k, e) :: l, l', h, x, hx => by
    obtain ⟨before, -, h⟩ := Result.bind_eq_ok_iff.1 h
    split at h
    · cases h
      rcases List.mem_cons.1 hx with rfl | hx
      · exact Or.inl rfl
      · exact Or.inr hx
    · obtain ⟨rest, hrest, h⟩ := Result.bind_eq_ok_iff.1 h
      cases h
      rcases List.mem_cons.1 hx with rfl | hx
      · exact Or.inr List.mem_cons_self
      · exact (mem_insertByCoverage hrest x hx).imp id (List.mem_cons_of_mem _)

theorem mem_sortedByCoverage : ∀ {keyed acc sorted : List (Value × String × Value)},
    keyed.foldlM (fun acc p => insertByCoverage p.1 p.2 acc) acc = .ok sorted →
      ∀ x ∈ sorted.map Prod.snd, x ∈ keyed.map Prod.snd ∨ x ∈ acc.map Prod.snd
  | [], acc, sorted, h, x, hx => by
    cases h
    exact Or.inr hx
  | k :: keyed, acc, sorted, h, x, hx => by
    rw [List.foldlM_cons] at h
    obtain ⟨acc', hacc, h⟩ := Result.bind_eq_ok_iff.1 h
    rcases mem_sortedByCoverage h x hx with hx | hx
    · exact Or.inl (List.mem_cons_of_mem _ hx)
    · obtain ⟨y, hy, rfl⟩ := List.mem_map.1 hx
      rcases mem_insertByCoverage hacc y hy with hy | hy
      · exact Or.inl (hy ▸ List.mem_cons_self)
      · exact Or.inr (List.mem_map_of_mem hy)

theorem mem_of_byCoverage {files sorted : List (String × Value)} (h : byCoverage files = .ok sorted)
    {x : String × Value} (hx : x ∈ sorted) : x ∈ files := by
  unfold byCoverage at h
  obtain ⟨keyed, hkeyed, h⟩ := Result.bind_eq_ok_iff.1 h
  obtain ⟨sorted', hsorted, h⟩ := Result.bind_eq_ok_iff.1 h
  cases h
  have entries : files = keyed.map Prod.snd := by
    rw [← List.forall₂_eq_eq_eq, List.forall₂_map_right_iff]
    refine (Result.mapM_eq_ok_iff.1 hkeyed).imp fun p k hk => ?_
    obtain ⟨v, -, hk⟩ := Result.bind_eq_ok_iff.1 hk
    cases hk
    rfl
  rcases mem_sortedByCoverage hsorted x hx with hx | hx
  · exact entries ▸ hx
  · cases hx

/-! ## Selecting a file -/

/-- Of what is remembered about scans and views only the selection changes, to one of the given files; nothing newly drawn
is a warning. -/
structure Selects (files : List String) (p q : Page) : Prop where
  view : q.memory.view = p.memory.view
  lastScan : q.memory.lastScan = p.memory.lastScan
  lastReport : q.memory.lastReport = p.memory.lastReport
  selectedFile : q.memory.selectedFile = p.memory.selectedFile ∨ ∃ f ∈ files, q.memory.selectedFile = some (.str f)
  drawn : ∀ e ∈ q.drawn, e ∈ p.drawn ∨ isQuiet e = true

theorem Selects.preorder (files : List String) : Screen.Preorder (Selects files) where
  refl _ := ⟨rfl, rfl, rfl, Or.inl rfl, fun _ h => Or.inl h⟩
  trans h₁ h₂ :=
    ⟨h₂.view.trans h₁.view, h₂.lastScan.trans h₁.lastScan, h₂.lastReport.trans h₁.lastReport,
      h₂.selectedFile.elim (fun h => h ▸ h₁.selectedFile) Or.inr, fun e he => (h₂.drawn e he).elim (h₁.drawn e) Or.inr⟩

theorem selects_of_calm {α : Type} {files : List String} {m : Draw α} (h : m.Moves (Calm isQuiet)) :
    m.Moves (Selects files) := fun a p =>
  ⟨(h a p).view, (h a p).lastScan, (h a p).lastReport, Or.inl (h a p).selectedFile, (h a p).drawn⟩

theorem selects_file {files : List String} {file : String} (h : file ∈ files) :
    (remember fun m => { m with selectedFile := some (.str file) }).Moves (Selects files) :=
  moves_remember fun _ => ⟨rfl, rfl, rfl, Or.inr ⟨file, h, rfl⟩, fun _ h => Or.inl h⟩

theorem selects_fileLine {files : List String} {file : String} (h : file ∈ files) (coverage : Value) :
    (fileLine file coverage).Moves (Selects files) := by
  have hR := Selects.preorder files
  refine moves_bind hR (moves_check hR _) fun _ => moves_bind hR (selects_of_calm (Calm.put rfl)) fun _ =>
    moves_bind hR (moves_check hR _) fun _ => moves_bind hR (selects_of_calm (Calm.put rfl)) fun _ => ?_
  exact moves_bind hR (selects_of_calm (Calm.button _ _ fun _ => rfl)) fun _ =>
    moves_ite (selects_file h) (moves_pure hR _)

theorem selects_quickMetrics (report : Coverage.Report) :
    (quickMetrics report.value).Moves (Selects (report.files.map Prod.fst)) := by
  have hR := Selects.preorder (report.files.map Prod.fst)
  refine moves_bind hR (moves_check hR _) fun _ => moves_bind hR (moves_check hR _) fun _ =>
    moves_bind hR (moves_check hR _) fun _ => moves_bind hR (selects_of_calm (Calm.put rfl)) fun _ =>
    moves_bind hR (selects_of_calm (Calm.put rfl)) fun _ => moves_bind hR (moves_check hR _) fun _ =>
    moves_bind hR (selects_of_calm (Calm.put rfl)) fun _ => moves_bind hR (selects_of_calm (Calm.put rfl)) fun _ =>
    moves_bind hR (selects_of_calm (Calm.put rfl)) fun _ => moves_check_bind hR fun files hfiles =>
    moves_check_bind hR fun sorted hsorted => moves_forM hR _ fun x hx => selects_fileLine ?_ x.2
  cases hfiles
  have hx := mem_of_byCoverage hsorted hx
  rw [List.mem_map] at hx
  obtain ⟨y, hy, rfl⟩ := hx
  exact List.mem_map_of_mem hy

theorem selects_fileList (report : Coverage.Report) :
    (fileList report.value).Moves (Selects (report.files.map Prod.fst)) := by
  have hR := Selects.preorder (report.files.map Prod.fst)
  refine moves_ite (moves_check_bind hR fun files hfiles => moves_forM hR _ fun f hf => ?_) (moves_pure hR _)
  cases hfiles
  rw [List.map_map, List.mem_map] at hf
  obtain ⟨y, hy, rfl⟩ := hf
  exact moves_bind hR (moves_check hR _) fun _ => moves_bind hR (selects_of_calm (Calm.button _ _ fun _ => rfl)) fun _ =>
    moves_ite (selects_file (List.mem_map_of_mem hy)) (moves_pure hR _)

/-! ## A run, part by part -/

/-- Consistent so far, and no warning drawn. -/
def Sound (p : Page) : Prop := Consistent p.memory ∧ ∀ e ∈ p.drawn, isQuiet e = true

theorem drawn_quiet {p q : Page} (h : ∀ e ∈ p.drawn, isQuiet e = true)
    (h' : ∀ e ∈ q.drawn, e ∈ p.drawn ∨ isQuiet e = true) : ∀ e ∈ q.drawn, isQuiet e = true :=
  fun e he => (h' e he).elim (h e) id

theorem Consistent.of_eq {m m' : Memory} (h : Consistent m) (scan : m'.lastScan = m.lastScan)
    (report : m'.lastReport = m.lastReport) (selected : m'.selectedFile = m.selectedFile) : Consistent m' := by
  cases h with
  | fresh s r => exact .fresh (scan.trans s) (report.trans r)
  | scanned rs rep s c st sel =>
    exact .scanned rs rep (scan.trans s) c (report.trans st) fun hne => selected ▸ sel hne

theorem Sound.of_calm {p q : Page} (h : Sound p) (hc : Calm isQuiet p q) : Sound q :=
  ⟨h.1.of_eq hc.lastScan hc.lastReport hc.selectedFile, drawn_quiet h.2 hc.drawn⟩

/-- The page is sound, and the view, the results and the report that are remembered are the given ones. -/
structure Recalls (m : Memory) (p : Page) : Prop where
  sound : Sound p
  view : p.memory.view = m.view
  lastScan : p.memory.lastScan = m.lastScan
  lastReport : p.memory.lastReport = m.lastReport

/-- A part that lets files of the remembered report be selected, if there is one, keeps a page sound. -/
theorem meets_selecting (part : Value → Draw Unit) (hnone : (part .none).Moves (Calm isQuiet))
    (hsome : ∀ report : Coverage.Report, (part report.value).Moves (Selects (report.files.map Prod.fst)))
    (m : Memory) (a : Answers) :
    (part (m.lastReport.getD .none)).Meets a (fun p => Sound p ∧ m = p.memory) (fun _ => Recalls m) Sound := by
  refine meets_of_page ?_ fun _ h => h.sound
  rintro p ⟨⟨hc, hd⟩, rfl⟩
  cases hc with
  | fresh scan report =>
    have hm := hnone a p
    rw [report]
    exact ⟨Sound.of_calm ⟨.fresh scan report, hd⟩ hm, hm.view, hm.lastScan, hm.lastReport⟩
  | scanned records report scan computed stored selected =>
    have hm := hsome report a p
    rw [stored]
    refine ⟨⟨.scanned records report (hm.lastScan.trans scan) computed (hm.lastReport.trans stored) fun hne => ?_,
      drawn_quiet hd hm.drawn⟩, hm.view, hm.lastScan, hm.lastReport⟩
    rcases hm.selectedFile with hsel | ⟨f, hf, hsel⟩
    · obtain ⟨r, hr, hrs⟩ := selected hne
      exact ⟨r, hr, hsel.trans hrs⟩
    · obtain ⟨r, hr, rfl⟩ := mem_files_of_compute computed hf
      exact ⟨r, hr, hsel⟩

theorem scan_eq_ok {d : Disk} {path : String} {s : Scanned} (h : scan d path = .ok s) :
    ∃ records report, s.results = resultsOf records ∧ Coverage.compute (resultsOf records) = .ok report ∧
      s.report = report.value ∧ s.first = records.head?.map FileRecord.path := by
  obtain ⟨records, -, h⟩ := Result.bind_eq_ok_iff.1 h
  obtain ⟨report, hreport, h⟩ := Result.bind_eq_ok_iff.1 h
  obtain ⟨disk, -, h⟩ := Result.bind_eq_ok_iff.1 h
  cases h
  exact ⟨records, report, rfl, hreport, rfl, rfl⟩

/-- The results of a scan and their report are remembered; which file is selected is still open. -/
structure Kept (s : Scanned) (p : Page) : Prop where
  lastScan : p.memory.lastScan = some s.results
  lastReport : p.memory.lastReport = some s.report
  quiet : ∀ e ∈ p.drawn, isQuiet e = true

/-- The results that a part of a run works with are those that are remembered. -/
def Holds (results : Value) (p : Page) : Prop := Sound p ∧ results = p.memory.lastScan.getD .none

theorem Kept.holds {d : Disk} {path : String} {s : Scanned} {p : Page} (hk : Kept s p) (h : scan d path = .ok s)
    (hs : ∀ first, s.first = some first → p.memory.selectedFile = some (.str first)) : Holds s.results p := by
  obtain ⟨records, report, hres, hcomp, hrep, hfirst⟩ := scan_eq_ok h
  refine ⟨⟨.scanned records report (hres ▸ hk.lastScan) hcomp (hrep ▸ hk.lastReport) fun hne => ?_, hk.quiet⟩, ?_⟩
  · cases records with
    | nil => exact absurd rfl hne
    | cons r rs => exact ⟨r, List.mem_cons_self, hs r.path hfirst⟩
  · rw [hk.lastScan, Option.getD_some]

theorem meets_keep (s : Scanned) (a : Answers) : (keep s).Meets a Sound (fun _ => Kept s) Sound :=
  meets_of_exec (fun _ => rfl : ∀ p, (keep s).exec a p = (.ok (), _)) fun _ hp => ⟨rfl, rfl, hp.2⟩

theorem Holds.of_calm {results : Value} {p q : Page} (h : Holds results p) (hc : Calm isQuiet p q) : Holds results q :=
  ⟨h.1.of_calm hc, hc.lastScan.symm ▸ h.2⟩

theorem meets_of_calm {α : Type} {m : Draw α} (hm : m.Moves (Calm isQuiet)) (a : Answers) :
    m.Meets a Sound (fun _ => Sound) Sound :=
  meets_of_page (fun p hp => hp.of_calm (hm a p)) fun _ h => h

theorem holds_of_calm {α : Type} {m : Draw α} (hm : m.Moves (Calm isQuiet)) (results : Value) (a : Answers) :
    m.Meets a (Holds results) (fun _ => Holds results) Sound :=
  meets_of_page (fun p hp => hp.of_calm (hm a p)) fun _ h => h.1

theorem meets_opening (a : Answers) : opening.Meets a Sound Holds Sound := by
  refine meets_bind (meets_of_calm Calm.disk a) fun d => ?_
  dsimp only
  split
  · rename_i s hs
    refine meets_bind (meets_keep s a) fun _ => ?_
    split
    · rename_i path hpath
      refine meets_bind (Q := fun _ => Holds s.results) (meets_of_exec (exec_remember _ a) fun p hk => ?_) fun _ =>
        meets_of_exec (exec_pure _ a) fun _ h => h
      exact Kept.holds ⟨hk.lastScan, hk.lastReport, hk.quiet⟩ hs fun first hfirst =>
        congrArg (fun f => f.map Value.str) (hpath.symm.trans hfirst)
    · rename_i hnone
      refine meets_bind (Q := fun _ => Holds s.results) (meets_of_exec (exec_remember _ a) fun p hk => ?_) fun _ =>
        meets_bind (holds_of_calm (Calm.put rfl) s.results a) fun _ => meets_of_exec (exec_pure _ a) fun _ h => h
      exact Kept.holds ⟨hk.lastScan, hk.lastReport, hk.quiet⟩ hs fun first hfirst => by simp [hnone] at hfirst
  · refine meets_bind (meets_of_calm (Calm.put rfl) a) fun _ => meets_bind (meets_of_calm (Calm.put rfl) a) fun _ =>
      meets_bind (Q := fun m p => Sound p ∧ m = p.memory) (meets_of_exec (exec_memory a) fun _ h => ⟨h, rfl⟩) fun m => ?_
    -- the coverage last reported, or a hint where there is none
    have hjoin : ∀ (report : Value) (k : Unit → Draw Value), (if report.truthy = true then quickMetrics report >>= k
        else put (.info "No scan run yet. Enter path and click Scan.") >>= k) =
        (if report.truthy = true then quickMetrics report
          else put (.info "No scan run yet. Enter path and click Scan.")) >>= k := by
      intro report k
      split <;> rfl
    refine hjoin _ _ ▸ meets_bind (meets_selecting (fun report => if report.truthy = true then
      quickMetrics report else put (.info "No scan run yet. Enter path and click Scan.")) (Calm.put rfl)
      (fun report => selects_quickMetrics report) m a) fun _ => ?_
    exact meets_of_exec (exec_pure _ a) fun _ h => ⟨h.sound, h.lastScan ▸ rfl⟩

theorem meets_scanOnDemand (path : String) (results : Value) (a : Answers) :
    (scanOnDemand path results).Meets a (Holds results) Holds Sound := by
  refine meets_bind (holds_of_calm (Calm.button _ _ fun _ => rfl) results a) fun pressed => meets_ite (fun _ => ?_)
    fun _ => meets_of_exec (exec_pure _ a) fun _ h => h
  refine meets_bind (Q := fun _ => Sound) (meets_of_page (fun p hp => hp.1.of_calm (Calm.disk a p)) fun _ h => h)
    fun d => meets_check_bind (fun _ h => h) fun s hs => meets_bind (meets_keep s a) fun _ => ?_
  have rest : (put (.success "Scan completed") >>= fun _ => pure s.results).Meets a (Holds s.results) Holds Sound :=
    meets_bind (holds_of_calm (Calm.put rfl) s.results a) fun _ => meets_of_exec (exec_pure _ a) fun _ h => h
  dsimp only
  split
  · rename_i first hfirst
    refine meets_bind (Q := fun _ => Holds s.results) (meets_of_exec (exec_remember _ a) fun p hk => ?_) fun _ => rest
    exact Kept.holds ⟨hk.lastScan, hk.lastReport, hk.quiet⟩ hs fun path hpath =>
      congrArg (fun f => f.map Value.str) (hfirst.symm.trans hpath)
  · rename_i hnone
    exact fun p hk => rest p (Kept.holds hk hs fun path hpath => absurd hpath (hnone path))

theorem meets_navigation (results : Value) (a : Answers) :
    navigation.Meets a (Holds results) (fun _ => Holds results) Sound := by
  have turn : ∀ f : Memory → Memory, (∀ m, (f m).lastScan = m.lastScan) → (∀ m, (f m).lastReport = m.lastReport) →
      (∀ m, (f m).selectedFile = m.selectedFile) → (remember f).Meets a (Holds results) (fun _ => Holds results) Sound :=
    fun f hs hr hsel => meets_of_exec (exec_remember f a) fun p hp =>
      ⟨⟨hp.1.1.of_eq (hs _) (hr _) (hsel _), hp.1.2⟩, (hs p.memory).symm ▸ hp.2⟩
  refine meets_bind (holds_of_calm (Calm.put rfl) results a) fun _ =>
    meets_bind (turn _ (fun _ => rfl) (fun _ => rfl) fun _ => rfl) fun _ => meets_forM _ fun v _ => ?_
  exact meets_bind (holds_of_calm (Calm.button _ _ fun _ => rfl) results a) fun _ =>
    meets_ite (fun _ => turn _ (fun _ => rfl) (fun _ => rfl) fun _ => rfl) fun _ =>
      meets_of_exec (exec_pure _ a) fun _ h => h

structure Ready (s : Setting) (p : Page) : Prop where
  sound : Sound p
  results : s.results = p.memory.lastScan.getD .none
  report : s.report = p.memory.lastReport.getD .none
  view : s.view = View.ofValue? (p.memory.view.getD .none)

theorem Ready.of_calm {s : Setting} {p q : Page} (h : Ready s p) (hc : Calm isQuiet p q) : Ready s q :=
  ⟨h.sound.of_calm hc, hc.lastScan.symm ▸ h.results, hc.lastReport.symm ▸ h.report, hc.view.symm ▸ h.view⟩

theorem meets_sidebar (results : Value) (a : Answers) : (sidebar results).Meets a (Holds results) Ready Sound := by
  refine meets_bind (holds_of_calm (Calm.put rfl) results a) fun _ =>
    meets_bind (holds_of_calm (Calm.textField _ _ fun _ => rfl) results a) fun path =>
    meets_bind (holds_of_calm (Calm.choose _ _ fun _ => rfl) results a) fun style =>
    meets_bind (meets_scanOnDemand path results a) fun found =>
    meets_bind (holds_of_calm (Calm.put rfl) found a) fun _ => meets_bind (meets_navigation found a) fun _ => ?_
  refine meets_bind (Q := fun m p => Holds found p ∧ m.view = p.memory.view)
    (meets_of_exec (exec_memory a) fun _ h => ⟨h, rfl⟩) fun m => ?_
  have calm : ∀ e : Element, isQuiet e = true → (put e).Meets a (fun p => Holds found p ∧ m.view = p.memory.view)
      (fun _ p => Holds found p ∧ m.view = p.memory.view) Sound := fun e he =>
    meets_of_page (fun p hp => ⟨hp.1.of_calm (Calm.put he a p), hp.2⟩) fun _ h => h.1.1
  refine meets_bind (calm _ rfl) fun _ => meets_bind (calm _ rfl) fun _ =>
    meets_bind (Q := fun m' p => (Sound p ∧ m' = p.memory) ∧ found = m'.lastScan.getD .none ∧ m.view = m'.view)
      (meets_of_exec (exec_memory a) fun _ h => ⟨⟨h.1.1, rfl⟩, h.1.2, h.2⟩) fun m' p hp => ?_
  obtain ⟨hp, hfound, hview⟩ := hp
  refine meets_bind (meets_selecting fileList (Calm.pure _) selects_fileList m' a) (fun _ => ?_) p hp
  refine meets_of_exec (exec_pure _ a) fun q h => ⟨h.sound, ?_, ?_, ?_⟩
  · rw [h.lastScan, ← hfound]
  · rw [h.lastReport]
  · rw [h.view, ← hview]

/-- A run up to the view: what was chosen and, if there is something to view, the proposals. -/
def untilView : Draw (Setting × Option Proposals) := do
  remember fun m => { m with activeFeature := some (m.activeFeature.getD .none) }
  put (.page "Milestone 1: Parser & Baseline Generator ")
  put (.title "AI-Powered Code Reviewer by Pavithra Kotha")
  let s ← sidebar (← opening)
  if s.results.truthy then return (s, some (← proposals s.style s.results))
  else return (s, none)

def fromView : Setting × Option Proposals → Draw Unit
  | (s, some ps) => do
    if let some v := s.view then draw s ps v
    let _ ← testResults
    let _ ← proposals s.style s.results
  | (_, none) => pure ()

theorem app_eq : app = untilView >>= fromView := by
  unfold app untilView
  simp only [bind_assoc]
  congr 1; funext _; congr 1; funext _; congr 1; funext _; congr 1; funext _; congr 1; funext s
  split
  · rw [bind_assoc]
    rfl
  · rfl

theorem meets_untilView (a : Answers) :
    untilView.Meets a Sound (fun r p => Ready r.1 p ∧ (r.2 ≠ none → r.1.results.truthy = true)) Sound := by
  have activates : (remember fun m => { m with activeFeature := some (m.activeFeature.getD .none) }).Moves
      (Calm isQuiet) := Calm.remember (fun _ => rfl) (fun _ => rfl) (fun _ => rfl) (fun _ => rfl) fun _ => Or.inl rfl
  refine meets_bind (meets_of_calm activates a) fun _ =>
    meets_bind (meets_of_calm (Calm.put rfl) a) fun _ => meets_bind (meets_of_calm (Calm.put rfl) a) fun _ =>
    meets_bind (meets_opening a) fun results => meets_bind (meets_sidebar results a) fun s =>
    meets_ite (fun hres => ?_) fun _ => meets_of_exec (exec_pure _ a) fun _ h => ⟨h, fun hne => absurd rfl hne⟩
  exact meets_bind (Q := fun _ => Ready s) (meets_of_page (fun p hp => hp.of_calm (calm_proposals _ _ a p))
    fun _ h => h.sound) fun _ => meets_of_exec (exec_pure _ a) fun _ h => ⟨h, fun _ => hres⟩

/-! ## The view -/

theorem recordOf?_path {r : FileRecord} : ∀ {records : List FileRecord}, r ∈ records →
    ∃ found : FileRecord, recordOf? (.str r.path) (records.map FileRecord.value) = .ok (some found.value)
  | x :: records, hr => by
    by_cases hx : r.path = x.path
    · refine ⟨x, ?_⟩
      show (if decide (r.path = x.path) = true then _ else _) = _
      rw [if_pos (decide_eq_true hx)]
      rfl
    · rcases List.mem_cons.1 hr with rfl | hr
      · exact absurd rfl hx
      · obtain ⟨found, hfound⟩ := recordOf?_path hr
        refine ⟨found, ?_⟩
        show (if decide (r.path = x.path) = true then _ else _) = _
        rw [if_neg (by simpa using hx)]
        exact hfound

theorem Ready.outlined {s : Setting} {p : Page} (h : Ready s p) :
    Outlined (p.memory.selectedFile.getD .none) s.results := by
  intro _ hres
  rw [h.results] at hres ⊢
  cases h.sound.1 with
  | fresh scan report =>
    rw [scan] at hres
    cases hres
  | scanned records report scan computed stored selected =>
    rw [scan, Option.getD_some] at hres ⊢
    have hne : records ≠ [] := by
      rintro rfl
      cases hres
    obtain ⟨r, hr, hsel⟩ := selected hne
    obtain ⟨found, hfound⟩ := recordOf?_path hr
    rw [hsel, Option.getD_some]
    exact ⟨_, found.value, rfl, hfound, rfl⟩

/-- Consistent at the end of a run, with no warning drawn on the dashboard. -/
structure Settled (p : Page) : Prop where
  consistent : Consistent p.memory
  quiet : p.memory.view = some (.str View.dashboard.label) → ∀ e ∈ p.drawn, isQuiet e = true

theorem View.ofValue?_eq_some {w : Option Value} {v : View} (h : View.ofValue? (w.getD .none) = some v) :
    w = some (.str v.label) := by
  have hv := List.find?_some h
  cases w with
  | none => cases hv
  | some w =>
    cases w with
    | str t => rw [of_decide_eq_true hv]
    | _ => cases hv

theorem Ready.scanned {s : Setting} {p : Page} (h : Ready s p) (hres : s.results.truthy = true) :
    p.memory.lastScan = some s.results ∧ p.memory.lastReport = some s.report := by
  rw [h.results] at hres ⊢
  rw [h.report]
  cases h.sound.1 with
  | fresh scan report =>
    rw [scan] at hres
    cases hres
  | scanned records report scan computed stored selected =>
    rw [scan, stored]
    exact ⟨rfl, rfl⟩

theorem Sound.settled {p : Page} (h : Sound p) : Settled p := ⟨h.1, fun _ => h.2⟩

theorem Settled.of_calm {p q : Page} (h : Settled p) (hc : Calm isQuiet p q) : Settled q :=
  ⟨h.consistent.of_eq hc.lastScan hc.lastReport hc.selectedFile, fun hv =>
    drawn_quiet (h.quiet (hc.view.symm.trans hv)) hc.drawn⟩

theorem settled_draw {s : Setting} {p : Page} (h : Ready s p) (ps : Proposals) {v : View} (hv : s.view = some v)
    (a : Answers) : Settled ((draw s ps v).exec a p).2 := by
  by_cases hd : v = .dashboard
  · subst hd
    exact (h.sound.of_calm (quiet_dashboard h.outlined)).settled
  · have hc := calm_draw s ps v a p
    refine ⟨h.sound.1.of_eq hc.lastScan hc.lastReport hc.selectedFile, fun hview => absurd ?_ hd⟩
    have hp := h.view
    rw [← hc.view, hview, hv] at hp
    exact Option.some.inj hp

theorem meets_fromView (r : Setting × Option Proposals) (a : Answers) :
    (fromView r).Meets a (Ready r.1) (fun _ => Settled) Settled := by
  obtain ⟨s, ps⟩ := r
  cases ps with
  | none => exact meets_of_exec (exec_pure _ a) fun _ h => h.sound.settled
  | some ps =>
    have rest : (testResults >>= fun _ => proposals s.style s.results >>= fun _ => pure ()).Meets a Settled
        (fun _ => Settled) Settled :=
      meets_of_page (fun p hp => hp.of_calm (Calm.bind calm_testResults (fun _ =>
        Calm.bind (calm_proposals s.style s.results) fun _ => Calm.pure ()) a p)) fun _ h => h
    unfold fromView
    dsimp only
    split
    · rename_i v hv
      exact meets_bind (meets_of_page (fun p hp => settled_draw hp ps hv a) fun _ h => h) fun _ => rest
    · exact fun p hp => rest p hp.sound.settled

theorem settled_run {m : Memory} (h : Consistent m) (a : Answers) (d : Disk) : Settled (run app a m d).page := by
  rw [run_eq, app_eq]
  have start : Sound { memory := m, disk := d } := ⟨h, fun e he => by cases he⟩
  have before : untilView.Meets a Sound (fun r => Ready r.1) Settled := fun p hp =>
    ⟨fun r q hq => ((meets_untilView a p hp).1 r q hq).1, fun e q hq => ((meets_untilView a p hp).2 e q hq).settled⟩
  exact meets_exec (meets_bind before fun r => meets_fromView r a) start (fun _ _ h => h) fun _ h => h

/-! ## Runs -/

/-- What is remembered after some runs from the start, each with the disk it finds. -/
def memoryAfter (history : List (Answers × Disk)) : Memory :=
  history.foldl (fun m r => (run app r.1 m r.2).page.memory) {}

theorem consistent_foldl : ∀ (history : List (Answers × Disk)) (m : Memory), Consistent m →
    Consistent (history.foldl (fun m r => (run app r.1 m r.2).page.memory) m)
  | [], _, h => h
  | r :: history, _, h => consistent_foldl history _ (settled_run h r.1 r.2).consistent

theorem consistent_memoryAfter (history : List (Answers × Disk)) : Consistent (memoryAfter history) :=
  consistent_foldl history {} (.fresh rfl rfl)

/-- **What is remembered about scans always fits together.** After any runs, whatever the reader does in them and whatever
happens to the disk in between, the memory is consistent.  In a further run it is so when a view is drawn and when it has
been drawn, the view being given the remembered results and report; and where the view is the dashboard no warning is
drawn, so no outline is looked for in vain. -/
theorem memory_stays_consistent (history : List (Answers × Disk)) :
    Consistent (memoryAfter history) ∧
      ∀ (a : Answers) (d : Disk),
        (∀ s ps p v, untilView.exec a { memory := memoryAfter history, disk := d } = (.ok (s, some ps), p) →
          s.view = some v →
            Consistent p.memory ∧ p.memory.lastScan = some s.results ∧ p.memory.lastReport = some s.report ∧
              p.memory.view = some (.str v.label) ∧ Consistent ((draw s ps v).exec a p).2.memory) ∧
        ((run app a (memoryAfter history) d).page.memory.view = some (.str View.dashboard.label) →
          ∀ text, .warning text ∉ (run app a (memoryAfter history) d).elements) := by
  have h := consistent_memoryAfter history
  refine ⟨h, fun a d => ⟨fun s ps p v hp hv => ?_, fun hview text hmem => ?_⟩⟩
  · have start : Sound { memory := memoryAfter history, disk := d } := ⟨h, fun e he => by cases he⟩
    obtain ⟨ready, results⟩ := (meets_untilView a _ start).1 _ _ hp
    obtain ⟨scan, report⟩ := ready.scanned (results (Option.some_ne_none ps))
    exact ⟨ready.sound.1, scan, report, View.ofValue?_eq_some (ready.view.symm.trans hv),
      (settled_draw ready ps hv a).consistent⟩
  · have quiet := (settled_run h a d).quiet hview _ (List.mem_reverse.1 hmem)
    cases quiet

end Review
end DocReview
