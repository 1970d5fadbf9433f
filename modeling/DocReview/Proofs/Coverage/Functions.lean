import DocReview.Coverage.Functions
import DocReview.Proofs.Coverage.Account
import DocReview.Proofs.Coverage.Percent
import DocReview.Proofs.Value
/-!
# Functions — the coverage of functions alone and that of all items

A record that can be covered at all has its functions first among the items (`fileItems_cases`), so the coverage of functions
alone can be read off the other one, file by file (`ofRecord_of_fileCoverage`).  Both computations enter what they find under
the same paths, in step with each other (`foldl_enter_onFunctions`).  Where there are no classes the functions are all items,
and the percentages are the same; each of them is what part of its whole is documented, in percent (`coverages_agree`).
-/
namespace DocReview
namespace Coverage

open Definition (FileRecord)

/-! ## Functions among the items -/

def Item.isFunction (i : Item) : Bool :=
  match i.role with
  | .function => true
  | _ => false

def FileCoverage.functions (f : FileCoverage) : List Item := f.items.filter Item.isFunction

/-- The coverage of the functions alone, read off that of all items. -/
def FileCoverage.ofFunctions (f : FileCoverage) : FunctionCoverage :=
  ⟨f.functions.length, f.functions.countP fun i => i.hasDoc.truthy⟩

def onFunctions (file : String × FileCoverage) : String × FunctionCoverage := (file.1, file.2.ofFunctions)

theorem itemOf_eq_ok {role : Role} {record : Value} {i : Item} (h : itemOf role record = .ok i) :
    i.role = role ∧ record.get "has_docstring" = .ok i.hasDoc := by
  obtain ⟨name, -, h⟩ := Result.bind_eq_ok_iff.1 h
  obtain ⟨line, -, h⟩ := Result.bind_eq_ok_iff.1 h
  obtain ⟨doc, hdoc, h⟩ := Result.bind_eq_ok_iff.1 h
  cases h
  exact ⟨rfl, hdoc⟩

theorem role_of_mapM {role : Role} {records : List Value} {items : List Item}
    (h : records.mapM (itemOf role) = .ok items) : ∀ i ∈ items, i.role = role := by
  intro i hi
  obtain ⟨record, -, hrecord⟩ := Result.exists_of_mem_mapM h hi
  exact (itemOf_eq_ok hrecord).1

theorem isFunction_of_classItems {record : Value} {items : List Item} (h : classItems record = .ok items) :
    ∀ i ∈ items, i.isFunction = false := by
  obtain ⟨own, hown, h⟩ := Result.bind_eq_ok_iff.1 h
  obtain ⟨methods, -, h⟩ := Result.bind_eq_ok_iff.1 h
  obtain ⟨ms, -, h⟩ := Result.bind_eq_ok_iff.1 h
  obtain ⟨methodItems, hmethods, h⟩ := Result.bind_eq_ok_iff.1 h
  cases h
  refine List.forall_mem_cons.2 ⟨?_, fun i hi => ?_⟩
  · rw [Item.isFunction, (itemOf_eq_ok hown).1]
  · rw [Item.isFunction, role_of_mapM hmethods i hi]

def HasNoClasses (record : Value) : Prop := record.get "classes" (.list []) = .ok (.list [])

/-- **The items of a record are those of its functions and then others**; without classes there are no others. -/
theorem fileItems_cases {record : Value} {items : List Item} (h : fileItems record = .ok items) :
    ∃ functions fs own others, record.get "functions" (.list []) = .ok functions ∧ functions.elements = .ok fs ∧
      fs.mapM (itemOf .function) = .ok own ∧ items = own ++ others ∧ (∀ i ∈ others, i.isFunction = false) ∧
      (HasNoClasses record → others = []) := by
  obtain ⟨functions, hfunctions, h⟩ := Result.bind_eq_ok_iff.1 h
  obtain ⟨classes, hclasses, h⟩ := Result.bind_eq_ok_iff.1 h
  obtain ⟨fs, hfs, h⟩ := Result.bind_eq_ok_iff.1 h
  obtain ⟨own, hown, h⟩ := Result.bind_eq_ok_iff.1 h
  obtain ⟨cs, hcs, h⟩ := Result.bind_eq_ok_iff.1 h
  obtain ⟨groups, hgroups, h⟩ := Result.bind_eq_ok_iff.1 h
  cases h
  refine ⟨functions, fs, own, groups.flatten, hfunctions, hfs, hown, rfl, fun i hi => ?_, fun hnone => ?_⟩
  · obtain ⟨group, hgroup, hi⟩ := List.mem_flatten.1 hi
    obtain ⟨c, -, hc⟩ := Result.exists_of_mem_mapM hgroups hgroup
    exact isFunction_of_classItems hc i hi
  · rw [HasNoClasses, hclasses] at hnone
    cases hnone
    cases hcs
    cases hgroups
    rfl

theorem filter_isFunction {own others : List Item} (hown : ∀ i ∈ own, i.role = .function)
    (hothers : ∀ i ∈ others, i.isFunction = false) : (own ++ others).filter Item.isFunction = own := by
  have hkept : own.filter Item.isFunction = own :=
    List.filter_eq_self.2 fun i hi => by rw [Item.isFunction, hown i hi]
  have hnone : others.filter Item.isFunction = [] := List.filter_eq_nil_iff.2 fun i hi => by simp [hothers i hi]
  rw [List.filter_append, hkept, hnone, List.append_nil]

/-! ## File by file -/

/-- The path of a record, in words. -/
def pathText (record : Value) : String := ((record.get "path").toOption.getD .none).text

theorem fileCoverage_eq_ok {record : Value} {file : String × FileCoverage} (h : fileCoverage record = .ok file) :
    file.1 = pathText record ∧ fileItems record = .ok file.2.items ∧ file.2 = .ofItems file.2.items := by
  rw [fileCoverage_eq] at h
  obtain ⟨path, hpath, h⟩ := Result.bind_eq_ok_iff.1 h
  obtain ⟨items, hitems, h⟩ := Result.bind_eq_ok_iff.1 h
  cases h
  exact ⟨by rw [pathText, hpath]; rfl, hitems, rfl⟩

/-- **The functions that are counted alone are those among the items**, and so are the documented ones. -/
theorem ofRecord_of_fileCoverage {record : Value} {file : String × FileCoverage} (h : fileCoverage record = .ok file) :
    FunctionCoverage.ofRecord record = .ok (onFunctions file) := by
  rw [fileCoverage_eq] at h
  obtain ⟨path, hpath, h⟩ := Result.bind_eq_ok_iff.1 h
  obtain ⟨items, hitems, h⟩ := Result.bind_eq_ok_iff.1 h
  cases h
  obtain ⟨functions, fs, own, others, hfunctions, hfs, hown, rfl, hothers, -⟩ := fileItems_cases hitems
  have hdocumented : fs.mapM (fun f => do return (← f.get "has_docstring").truthy) =
      .ok (own.map fun i => i.hasDoc.truthy) := by
    refine Result.mapM_follows ?_ hown
    intro f i hi
    exact Result.bind_eq_ok_iff.2 ⟨_, (itemOf_eq_ok hi).2, rfl⟩
  have hlength : fs.length = own.length := (Result.mapM_eq_ok_iff.1 hown).length_eq
  have hfilter := filter_isFunction (role_of_mapM hown) hothers
  refine Result.bind_eq_ok_iff.2 ⟨_, hpath, Result.bind_eq_ok_iff.2 ⟨_, hfunctions, Result.bind_eq_ok_iff.2
    ⟨_, Value.size_of_elements hfs, Result.bind_eq_ok_iff.2 ⟨_, hfs, Result.bind_eq_ok_iff.2 ⟨_, hdocumented, ?_⟩⟩⟩⟩⟩
  rw [onFunctions, FileCoverage.ofFunctions, FileCoverage.functions, FileCoverage.ofItems, hfilter, hlength, List.countP_map]
  rfl

theorem ofFunctions_of_hasNoClasses {record : Value} {file : String × FileCoverage} (h : fileCoverage record = .ok file)
    (hnone : HasNoClasses record) : file.2.ofFunctions = ⟨file.2.total, file.2.documented⟩ := by
  obtain ⟨-, hitems, hfile⟩ := fileCoverage_eq_ok h
  obtain ⟨functions, fs, own, others, -, -, hown, heq, hothers, hnil⟩ := fileItems_cases hitems
  have hfilter := filter_isFunction (role_of_mapM hown) hothers
  rw [hnil hnone, List.append_nil] at heq hfilter
  rw [FileCoverage.ofFunctions, FileCoverage.functions, heq, hfilter, ← heq]
  rw [hfile]
  rfl

theorem percent_of_pos {total documented : Nat} (h : 0 < total) :
    (FunctionCoverage.mk total documented).percent.value = .float (percentOrFull documented total) := by
  have hne : total ≠ 0 := Nat.pos_iff_ne_zero.1 h
  rw [FunctionCoverage.percent, if_neg hne, percentOrFull, if_neg hne]
  rfl

theorem isPercentage_of_pos {total documented : Nat} (h : 0 < total) (hle : documented ≤ total) :
    IsPercentage (percentOrFull documented total) documented total := by
  have hne : total ≠ 0 := Nat.pos_iff_ne_zero.1 h
  rw [percentOrFull, if_neg hne]
  exact isPercentage_percent hle hne

/-! ## All files -/

theorem enter_onFunctions (path : String) (f : FileCoverage) : ∀ (files : List (String × FileCoverage)),
    enter path f.ofFunctions (files.map onFunctions) = (enter path f files).map onFunctions
  | [] => rfl
  | (p, g) :: files => by
    have ih := enter_onFunctions path f files
    rw [List.map_cons, enter, enter]
    by_cases hp : p = path
    · rw [if_pos hp]
      exact if_pos hp
    · rw [if_neg hp, List.map_cons, ← ih]
      exact if_neg hp

/-- The two computations enter their files in step. -/
theorem foldl_enter_onFunctions (covered entered : List (String × FileCoverage)) :
    (covered.map onFunctions).foldl (fun files p => enter p.1 p.2 files) (entered.map onFunctions) =
      (covered.foldl (fun files p => enter p.1 p.2 files) entered).map onFunctions := by
  rw [List.foldl_map]
  exact List.foldl_hom (List.map onFunctions) fun files p => enter_onFunctions p.1 p.2 files

theorem exists_reaches (percent : Value.Number) {threshold : Value} (h : threshold.number?.isSome) :
    ∃ b, FunctionCoverage.reaches percent threshold = .ok b := by
  obtain ⟨t, ht⟩ := Option.isSome_iff_exists.1 h
  unfold FunctionCoverage.reaches
  rw [ht]
  dsimp only
  split <;> exact ⟨_, rfl⟩

def functionsOf (files : List (String × FileCoverage)) : List Item := files.flatMap fun p => p.2.functions

/-- The totals of the functions alone, in step with the functions of the files. -/
theorem FunctionCoverage.foldl_add_onFunctions : ∀ (covered : List (String × FileCoverage)) (t : FunctionCoverage.Totals),
    let t' := (covered.map onFunctions).foldl FunctionCoverage.Totals.add t
    t'.files = (covered.map onFunctions).foldl (fun files p => enter p.1 p.2 files) t.files ∧
      t'.whole = ⟨t.whole.total + (functionsOf covered).length,
        t.whole.documented + (functionsOf covered).countP fun i => i.hasDoc.truthy⟩
  | [], _ => ⟨rfl, rfl⟩
  | p :: covered, t => by
    obtain ⟨hfiles, hwhole⟩ := foldl_add_onFunctions covered (t.add (onFunctions p))
    refine ⟨hfiles, hwhole.trans ?_⟩
    rw [functionsOf, functionsOf, List.flatMap_cons, List.length_append, List.countP_append, ← Nat.add_assoc, ← Nat.add_assoc]
    rfl

/-- **The coverage of functions alone is read off that of all items.** -/
theorem compute_functions {values : List Value} {covered : List (String × FileCoverage)}
    (h : values.mapM fileCoverage = .ok covered) {threshold : Value} (hthreshold : threshold.number?.isSome) :
    ∃ functions, FunctionCoverage.compute (.list values) threshold = .ok functions ∧
      functions.files = (covered.foldl (fun files p => enter p.1 p.2 files) []).map onFunctions ∧
      functions.whole = ⟨(functionsOf covered).length, (functionsOf covered).countP fun i => i.hasDoc.truthy⟩ := by
  have hcovered : values.mapM FunctionCoverage.ofRecord = .ok (covered.map onFunctions) :=
    Result.mapM_follows ofRecord_of_fileCoverage h
  have hloop : values.foldlM FunctionCoverage.addFile {} =
      values.mapM FunctionCoverage.ofRecord >>= fun cs => pure (cs.foldl FunctionCoverage.Totals.add {}) :=
    Result.foldlM_eq_bind (fun _ _ => rfl) values _
  rw [hcovered] at hloop
  obtain ⟨hfiles, hwhole⟩ := FunctionCoverage.foldl_add_onFunctions covered ⟨[], ⟨0, 0⟩⟩
  obtain ⟨meets, hmeets⟩ := exists_reaches (FunctionCoverage.percent _) hthreshold
  refine ⟨⟨_, _, meets⟩, Result.bind_eq_ok_iff.2 ⟨_, rfl, Result.bind_eq_ok_iff.2 ⟨_, hloop,
    Result.bind_eq_ok_iff.2 ⟨_, hmeets, rfl⟩⟩⟩, ?_, ?_⟩
  · exact hfiles.trans (foldl_enter_onFunctions covered [])
  · rw [hwhole, Nat.zero_add, Nat.zero_add]

/-! ## Records of the right shape -/

/-- A record whose functions, classes and methods are lists of mappings. What these have in them may be anything. -/
structure FileShaped (record : Value) : Prop where
  functions : ∃ fs, record.get "functions" (.list []) = .ok (.list fs) ∧ ∀ f ∈ fs, f.kind = .dict
  classes : ∃ cs, record.get "classes" (.list []) = .ok (.list cs) ∧ ∀ c ∈ cs,
    ∃ ms, c.get "methods" (.list []) = .ok (.list ms) ∧ ∀ m ∈ ms, m.kind = .dict

theorem fileShaped_value (r : FileRecord) : FileShaped r.value where
  functions := ⟨_, rfl, List.forall_mem_map.2 fun _ _ => rfl⟩
  classes := ⟨_, rfl, List.forall_mem_map.2 fun _ _ => ⟨_, rfl, List.forall_mem_map.2 fun _ _ => rfl⟩⟩

theorem exists_itemOf (role : Role) {record : Value} (h : record.kind = .dict) : ∃ i, itemOf role record = .ok i := by
  cases record with
  | dict fields => exact ⟨_, rfl⟩
  | _ => cases h

theorem exists_fileCoverage {record : Value} (h : FileShaped record) : ∃ file, fileCoverage record = .ok file := by
  obtain ⟨fs, hfunctions, hfs⟩ := h.functions
  obtain ⟨cs, hclasses, hcs⟩ := h.classes
  have hclass : ∀ c ∈ cs, ∃ items, classItems c = .ok items := by
    intro c hc
    obtain ⟨ms, hmethods, hms⟩ := hcs c hc
    obtain ⟨own, hown⟩ := exists_itemOf .classDef (Value.kind_of_get hmethods)
    obtain ⟨items, hitems⟩ := Result.exists_mapM_ok fun m hm => exists_itemOf (.method own.name) (hms m hm)
    exact ⟨_, Result.bind_eq_ok_iff.2 ⟨own, hown, Result.bind_eq_ok_iff.2 ⟨_, hmethods, Result.bind_eq_ok_iff.2
      ⟨ms, rfl, Result.bind_eq_ok_iff.2 ⟨items, hitems, rfl⟩⟩⟩⟩⟩
  obtain ⟨own, hown⟩ := Result.exists_mapM_ok fun f hf => exists_itemOf .function (hfs f hf)
  obtain ⟨groups, hgroups⟩ := Result.exists_mapM_ok hclass
  obtain ⟨path, hpath⟩ := Value.exists_get (Value.kind_of_get hfunctions) "path"
  rw [fileCoverage_eq]
  refine Result.exists_bind hpath (Result.exists_bind (a := own ++ groups.flatten) ?_ ⟨_, rfl⟩)
  exact Result.bind_eq_ok_iff.2 ⟨_, hfunctions, Result.bind_eq_ok_iff.2 ⟨_, hclasses, Result.bind_eq_ok_iff.2 ⟨_, rfl,
    Result.bind_eq_ok_iff.2 ⟨_, hown, Result.bind_eq_ok_iff.2 ⟨_, rfl, Result.bind_eq_ok_iff.2 ⟨_, hgroups, rfl⟩⟩⟩⟩⟩⟩

/-! ## Where the two computations agree -/

/-- What the two computations say of one file. -/
structure FileAgreement (record : Value) (f : FileCoverage) (c : FunctionCoverage) : Prop where
  total : c.total = f.functions.length
  documented : c.documented = f.functions.countP fun i => i.hasDoc.truthy
  percent : HasNoClasses record → 0 < c.total → c.percent.value = .float f.percent
  share : 0 < f.total → IsPercentage f.percent f.documented f.total
  functionShare : 0 < c.total → ∃ x, c.percent.value = .float x ∧ IsPercentage x c.documented c.total

/-- What they say of some files: both have each of them under its path and agree on it, and they agree on the whole. -/
structure Agreement (values : List Value) (report : Report) (functions : FunctionReport) : Prop where
  paths : report.files.map Prod.fst = values.map pathText
  functionPaths : functions.files.map Prod.fst = values.map pathText
  files : ∀ r ∈ values, ∃ f c, (pathText r, f) ∈ report.files ∧ (pathText r, c) ∈ functions.files ∧ FileAgreement r f c
  total : functions.whole.total = (functionsOf report.files).length
  documented : functions.whole.documented = (functionsOf report.files).countP fun i => i.hasDoc.truthy
  percent : (∀ r ∈ values, HasNoClasses r) → 0 < functions.whole.total →
    functions.whole.percent.value = .float report.summary.percent
  share : 0 < report.summary.total → IsPercentage report.summary.percent report.summary.documented report.summary.total
  functionShare : 0 < functions.whole.total →
    ∃ x, functions.whole.percent.value = .float x ∧ IsPercentage x functions.whole.documented functions.whole.total

theorem functionShare_of_le {c : FunctionCoverage} (hle : c.documented ≤ c.total) (hpos : 0 < c.total) :
    ∃ x, c.percent.value = .float x ∧ IsPercentage x c.documented c.total :=
  ⟨_, percent_of_pos hpos, isPercentage_of_pos hpos hle⟩

theorem fileAgreement_of_fileCoverage {record : Value} {file : String × FileCoverage} (h : fileCoverage record = .ok file) :
    FileAgreement record file.2 file.2.ofFunctions where
  total := rfl
  documented := rfl
  percent hnone hpos := by
    obtain ⟨-, -, hfile⟩ := fileCoverage_eq_ok h
    have hpercent : file.2.percent = percentOrFull file.2.documented file.2.total := by
      rw [hfile]
      rfl
    rw [ofFunctions_of_hasNoClasses h hnone] at hpos ⊢
    rw [percent_of_pos hpos, hpercent]
  share hpos := by
    obtain ⟨-, -, hfile⟩ := fileCoverage_eq_ok h
    rw [hfile] at hpos ⊢
    exact isPercentage_of_pos hpos List.countP_le_length
  functionShare := functionShare_of_le List.countP_le_length

theorem paths_of_covered {values : List Value} {covered : List (String × FileCoverage)}
    (h : values.mapM fileCoverage = .ok covered) : covered.map Prod.fst = values.map pathText := by
  rw [Result.mapM_eq_ok_iff] at h
  induction h with
  | nil => rfl
  | cons hfile _ ih => rw [List.map_cons, List.map_cons, ih, (fileCoverage_eq_ok hfile).1]

theorem summaryOf_le {values : List Value} {covered : List (String × FileCoverage)}
    (h : values.mapM fileCoverage = .ok covered) : (summaryOf covered).documented ≤ (summaryOf covered).total := by
  refine List.sum_le_sum fun p hp => ?_
  obtain ⟨r, -, hcovered⟩ := Result.exists_of_mem_mapM h hp
  rw [(fileCoverage_eq_ok hcovered).2.2]
  exact List.countP_le_length

/-- Without classes the functions of all files are all their items. -/
theorem summaryOf_of_hasNoClasses {values : List Value} {covered : List (String × FileCoverage)}
    (h : values.mapM fileCoverage = .ok covered) (hnone : ∀ r ∈ values, HasNoClasses r) :
    (functionsOf covered).length = (summaryOf covered).total ∧
      (functionsOf covered).countP (fun i => i.hasDoc.truthy) = (summaryOf covered).documented := by
  have hfile : ∀ p ∈ covered, p.2.ofFunctions = ⟨p.2.total, p.2.documented⟩ := by
    intro p hp
    obtain ⟨r, hr, hcovered⟩ := Result.exists_of_mem_mapM h hp
    exact ofFunctions_of_hasNoClasses hcovered (hnone r hr)
  rw [functionsOf, List.length_flatMap, List.countP_flatMap]
  constructor
  · exact congrArg List.sum (List.map_congr_left fun p hp => congrArg FunctionCoverage.total (hfile p hp))
  · exact congrArg List.sum (List.map_congr_left fun p hp => congrArg FunctionCoverage.documented (hfile p hp))

/-- **The two computations of coverage agree.**  For records of the right shape, with distinct paths, and any threshold that
is a number, both give a report.  In each file the functions counted alone are as many as the items that are functions, and
the documented ones as many as those of them that have documentation, and likewise in all files together.  A file without
classes that has a function has the same percentage in both, and so does the whole if there are no classes and some
function.  Every percentage of something is the documented part of it in percent, rounded to hundredths. -/
theorem coverages_agree {values : List Value} (shaped : ∀ r ∈ values, FileShaped r)
    (distinct : (values.map pathText).Nodup) (threshold : Value) (hthreshold : threshold.number?.isSome) :
    ∃ report functions, compute (.list values) = .ok report ∧
      FunctionCoverage.compute (.list values) threshold = .ok functions ∧ Agreement values report functions := by
  obtain ⟨covered, hcovered⟩ := Result.exists_mapM_ok fun r hr => exists_fileCoverage (shaped r hr)
  have hpaths := paths_of_covered hcovered
  have hfiles : covered.foldl (fun files p => enter p.1 p.2 files) [] = covered :=
    foldl_enter (by rw [List.nil_append, hpaths]; exact distinct)
  have hcompute := compute_of_covered hcovered
  obtain ⟨functions, hfunctions, hown, hwhole⟩ := compute_functions hcovered hthreshold
  rw [hfiles] at hcompute hown
  refine ⟨_, functions, hcompute, hfunctions, ?_⟩
  exact
    { paths := hpaths
      functionPaths := by rw [hown, List.map_map]; exact hpaths
      files := by
        intro r hr
        obtain ⟨file, hfile⟩ := exists_fileCoverage (shaped r hr)
        have hmem := Result.mem_of_mapM hcovered hr hfile
        rw [hown, ← (fileCoverage_eq_ok hfile).1]
        exact ⟨_, _, hmem, List.mem_map_of_mem hmem, fileAgreement_of_fileCoverage hfile⟩
      total := by rw [hwhole]
      documented := by rw [hwhole]
      percent := by
        intro hnone hpos
        obtain ⟨htotal, hdocumented⟩ := summaryOf_of_hasNoClasses hcovered hnone
        rw [hwhole, htotal, hdocumented] at hpos ⊢
        exact percent_of_pos hpos
      share := fun hpos => isPercentage_of_pos hpos (summaryOf_le hcovered)
      functionShare := functionShare_of_le (by rw [hwhole]; exact List.countP_le_length) }

def sampleFunctions : FileRecord :=
  ⟨"b.py", [⟨"g", 1, 2, [], [], none, true, 1, 0, [], false, 4⟩, ⟨"h", 4, 5, [], [], none, false, 1, 0, [], false, 4⟩],
    [], [], false⟩

/-- Beside a file with a class, three functions are counted alone, and three of the items are functions.  Without it the two
percentages are the same. -/
theorem coverages_agree_sample :
    (∀ r ∈ [sampleRecord "a.py", sampleFunctions].map FileRecord.value, FileShaped r) ∧
      (([sampleRecord "a.py", sampleFunctions].map FileRecord.value).map pathText).Nodup ∧
      (∃ report functions, compute (.list ([sampleRecord "a.py", sampleFunctions].map FileRecord.value)) = .ok report ∧
        FunctionCoverage.compute (.list ([sampleRecord "a.py", sampleFunctions].map FileRecord.value)) (.int 90) =
          .ok functions ∧
        report.summary.total = 5 ∧ functions.whole = ⟨3, 1⟩) ∧
      ∃ report functions, compute (.list [sampleFunctions.value]) = .ok report ∧
        FunctionCoverage.compute (.list [sampleFunctions.value]) = .ok functions ∧ functions.whole = ⟨2, 1⟩ ∧
        functions.whole.percent.value = .float report.summary.percent := by
  have hshaped : ∀ rs : List FileRecord, ∀ r ∈ rs.map FileRecord.value, FileShaped r := fun rs =>
    List.forall_mem_map.2 fun r _ => fileShaped_value r
  have hdistinct : (([sampleRecord "a.py", sampleFunctions].map FileRecord.value).map pathText).Nodup := by decide
  have hwhole : ∀ {c : FunctionCoverage} {m n : Nat}, c.total = m → c.documented = n → c = ⟨m, n⟩ := by
    rintro ⟨total, documented⟩ m n rfl rfl
    rfl
  refine ⟨hshaped _, hdistinct, ?_, ?_⟩
  · obtain ⟨report, functions, hreport, hfunctions, hagree⟩ := coverages_agree (hshaped _) hdistinct (.int 90) rfl
    refine ⟨report, functions, hreport, hfunctions, ?_⟩
    cases hreport.symm.trans (compute_value _)
    exact ⟨rfl, hwhole hagree.total hagree.documented⟩
  · obtain ⟨report, functions, hreport, hfunctions, hagree⟩ :=
      coverages_agree (hshaped [sampleFunctions]) (by decide) (.int 0) rfl
    refine ⟨report, functions, hreport, hfunctions, ?_⟩
    cases hreport.symm.trans (compute_value [sampleFunctions])
    have hcounts : functions.whole = ⟨2, 1⟩ := hwhole hagree.total hagree.documented
    refine ⟨hcounts, hagree.percent (List.forall_mem_singleton.2 rfl) ?_⟩
    rw [hcounts]
    decide

end Coverage
end DocReview
