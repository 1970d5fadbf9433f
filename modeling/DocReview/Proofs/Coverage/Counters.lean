import Mathlib.Algebra.BigOperators.Group.List.Basic
import Mathlib.Algebra.GroupWithZero.Nat
import DocReview.Coverage.Basic
import DocReview.Proofs.Result
/-!
# Counters — what the counters of coverage say at the end of their loops

Beside the list that the items of a file are put into, two counters go up.  After each item they say how many there are and
how many of them are documented (`Tally.InStep.count`), so they do when the loops over functions, classes and methods are
through (`countFile_eq`, `coverage_foldl`).  The totals of all files are in step with the files in the same way
(`Totals.foldl_add`), also where a path comes twice.
-/
namespace DocReview
namespace Coverage

/-! ## The items of a record -/

/-- The items of a class record: the class, then its methods. -/
def classItems (record : Value) : Except Fault (List Item) := do
  let item ← itemOf .classDef record
  let methods ← (← record.get "methods" (.list [])).elements
  return item :: (← methods.mapM (itemOf (.method item.name)))

/-- The items of a file record: functions, then classes with their methods. -/
def fileItems (record : Value) : Except Fault (List Item) := do
  let functions ← record.get "functions" (.list [])
  let classes ← record.get "classes" (.list [])
  let functionItems ← (← functions.elements).mapM (itemOf .function)
  let classItems ← (← classes.elements).mapM classItems
  return functionItems ++ classItems.flatten

/-- The coverage that a list of items has. -/
def FileCoverage.ofItems (items : List Item) : FileCoverage :=
  let documented := items.countP fun i => i.hasDoc.truthy
  ⟨items.length, documented, percentOrFull documented items.length, items⟩

/-! ## The counters of a file -/

/-- The counters say how many items there are, and how many of them are documented. -/
structure Tally.InStep (t : Tally) : Prop where
  total : t.total = t.items.length
  documented : t.documented = t.items.countP fun i => i.hasDoc.truthy

theorem Tally.InStep.count {t : Tally} (h : t.InStep) (i : Item) : (t.count i).InStep where
  total := by rw [Tally.count, h.total, List.length_append, List.length_singleton]
  documented := by
    rw [Tally.count, h.documented, List.countP_append, List.countP_singleton]
    split <;> rfl

theorem Tally.InStep.foldl : ∀ (items : List Item) {t : Tally}, t.InStep → (items.foldl Tally.count t).InStep
  | [], _, h => h
  | i :: items, _, h => InStep.foldl items (h.count i)

theorem Tally.items_foldl : ∀ (items : List Item) (t : Tally), (items.foldl Tally.count t).items = t.items ++ items
  | [], t => (List.append_nil t.items).symm
  | i :: items, t => by
    rw [List.foldl_cons, Tally.items_foldl items, Tally.count, List.append_assoc, List.singleton_append]

/-- **The counters of a file are those of its items**, once all are counted. -/
theorem coverage_foldl (items : List Item) : (items.foldl Tally.count {}).coverage = .ofItems items := by
  have hitems : (items.foldl Tally.count {}).items = items := Tally.items_foldl items {}
  obtain ⟨htotal, hdocumented⟩ := Tally.InStep.foldl items (t := {}) ⟨rfl, rfl⟩
  rw [hitems] at htotal hdocumented
  rw [Tally.coverage, htotal, hdocumented, hitems]
  rfl

theorem foldlM_countItem (role : Role) (records : List Value) (t : Tally) : records.foldlM (countItem role) t =
    records.mapM (itemOf role) >>= fun items => pure (items.foldl Tally.count t) :=
  Result.foldlM_eq_bind (fun _ _ => rfl) records t

theorem countClass_eq (t : Tally) (record : Value) :
    countClass t record = classItems record >>= fun items => pure (items.foldl Tally.count t) := by
  simp only [countClass, classItems, foldlM_countItem, bind_assoc, pure_bind, List.foldl_cons]

theorem foldlM_countClass (records : List Value) (t : Tally) : records.foldlM countClass t =
    records.mapM classItems >>= fun groups => pure (groups.flatten.foldl Tally.count t) := by
  simp only [List.foldl_flatten]
  exact Result.foldlM_eq_bind countClass_eq records t

/-- **The loops over a file count the items of its record**, one after the other. -/
theorem countFile_eq (record : Value) :
    countFile record = fileItems record >>= fun items => pure (items.foldl Tally.count {}) := by
  simp only [countFile, fileItems, foldlM_countItem, foldlM_countClass, bind_assoc, pure_bind, List.foldl_append]

theorem fileCoverage_eq (record : Value) : fileCoverage record =
    record.get "path" >>= fun path => fileItems record >>= fun items => pure (path.text, .ofItems items) := by
  simp only [fileCoverage, countFile_eq, bind_assoc, pure_bind, coverage_foldl]

/-! ## The totals of all files -/

/-- The counts of all files together. -/
def summaryOf (files : List (String × FileCoverage)) : Summary :=
  let items := (files.map fun p => p.2.total).sum
  let documented := (files.map fun p => p.2.documented).sum
  ⟨items, documented, percentOrFull documented items⟩

/-- **The totals add up the files**, entered one after the other. -/
theorem Totals.foldl_add : ∀ (covered : List (String × FileCoverage)) (t : Totals), covered.foldl Totals.add t =
    ⟨covered.foldl (fun files p => enter p.1 p.2 files) t.files, t.total + (covered.map fun p => p.2.total).sum,
      t.documented + (covered.map fun p => p.2.documented).sum⟩
  | [], _ => rfl
  | p :: covered, t => by
    rw [List.foldl_cons, Totals.foldl_add covered, List.map_cons, List.map_cons, List.sum_cons, List.sum_cons,
      ← Nat.add_assoc, ← Nat.add_assoc]
    rfl

theorem compute_of_covered {values : List Value} {covered : List (String × FileCoverage)}
    (h : values.mapM fileCoverage = .ok covered) :
    compute (.list values) = .ok ⟨covered.foldl (fun files p => enter p.1 p.2 files) [], summaryOf covered⟩ := by
  have hloop : values.foldlM addFile {} = values.mapM fileCoverage >>= fun covered => pure (covered.foldl Totals.add {}) :=
    Result.foldlM_eq_bind (fun _ _ => rfl) values _
  rw [h] at hloop
  change _ = Except.ok (covered.foldl Totals.add {}) at hloop
  rw [Totals.foldl_add, Nat.zero_add, Nat.zero_add] at hloop
  exact Result.bind_eq_ok_iff.2 ⟨_, rfl, Result.bind_eq_ok_iff.2 ⟨_, hloop, rfl⟩⟩

end Coverage
end DocReview
