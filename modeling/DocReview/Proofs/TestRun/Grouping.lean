import Mathlib.Algebra.GroupWithZero.Nat
import Mathlib.Data.List.Induction
import DocReview.Proofs.Result
import DocReview.TestRun
/-!
# Grouping — the tests of a run by their files

Tests of many files come in any order, and each is counted under its file when it comes.  One test adds its file at the end if
it is new (`keys_enter`), changes the summary of that file alone (`lookup_enter`), and adds one to all totals
(`sum_total_enter`).  So after a run the summary of a file is what its own tests make of it, in their order
(`lookup_group`), and tests of other files may stand between them in any way (`summarize_groups`).
-/
namespace DocReview
namespace TestRun

/-! ## One test -/

theorem keys_enter (o : Outcome) : ∀ files : List (String × FileSummary), (enter o files).map Prod.fst =
    if o.file ∈ files.map Prod.fst then files.map Prod.fst else files.map Prod.fst ++ [o.file]
  | [] => by simp [enter]
  | (f, s) :: files => by
    have ih := keys_enter o files
    rw [enter]
    by_cases hf : f = o.file
    · simp [hf]
    · have hfile : o.file ∈ ((f, s) :: files).map Prod.fst ↔ o.file ∈ files.map Prod.fst := by
        rw [List.map_cons, List.mem_cons, or_iff_right (Ne.symm hf)]
      rw [if_neg hf, List.map_cons, ih]
      by_cases hmem : o.file ∈ files.map Prod.fst
      · rw [if_pos hmem, if_pos (hfile.2 hmem), List.map_cons]
      · rw [if_neg hmem, if_neg fun h => hmem (hfile.1 h), List.map_cons, List.cons_append]

theorem lookup_enter (o : Outcome) (f : String) : ∀ files : List (String × FileSummary), (enter o files).lookup f =
    if f = o.file then some (((files.lookup f).getD {}).count o) else files.lookup f
  | [] => by
    by_cases hf : f = o.file
    · simp [enter, hf]
    · have hne : (f == o.file) = false := by simpa using hf
      simp [enter, List.lookup_cons, hf, hne]
  | (g, s) :: files => by
    have ih := lookup_enter o f files
    rw [enter]
    by_cases hfg : f = g
    · subst hfg
      by_cases hf : f = o.file
      · simp [hf]
      · simp [hf]
    · have hne : (f == g) = false := by simpa using hfg
      by_cases hg : g = o.file
      · have hf : f ≠ o.file := fun hf => hfg (hf.trans hg.symm)
        rw [if_pos hg, if_neg hf, List.lookup_cons, List.lookup_cons, hne]
      · rw [if_neg hg, List.lookup_cons, List.lookup_cons, hne, ih]

theorem sum_total_enter (o : Outcome) : ∀ files : List (String × FileSummary),
    ((enter o files).map fun p => p.2.total).sum = (files.map fun p => p.2.total).sum + 1
  | [] => rfl
  | (f, s) :: files => by
    have ih := sum_total_enter o files
    rw [enter]
    by_cases hf : f = o.file
    · simp [hf, FileSummary.count]
      omega
    · simp [hf, ih]
      omega

/-! ## All tests of a run -/

def group (os : List Outcome) : List (String × FileSummary) := os.foldl (fun files o => enter o files) []

theorem group_concat (os : List Outcome) (o : Outcome) : group (os ++ [o]) = enter o (group os) := by
  rw [group, List.foldl_append]
  rfl

def outcomesOf (f : String) (os : List Outcome) : List Outcome := os.filter fun o => o.file = f

theorem removeAll_singleton (f : String) (fs : List String) : [f].removeAll fs = if f ∈ fs then [] else [f] := by
  by_cases hf : f ∈ fs
  · simp [List.removeAll, hf]
  · simp [List.removeAll, hf]

theorem keys_group (os : List Outcome) : (group os).map Prod.fst = (os.map Outcome.file).eraseDups := by
  induction os using List.reverseRecOn with
  | nil => rfl
  | append_singleton os o ih =>
    rw [group_concat, keys_enter, ih, List.map_append, List.eraseDups_append, List.map_singleton, removeAll_singleton]
    by_cases hmem : o.file ∈ os.map Outcome.file
    · rw [if_pos (List.mem_eraseDups.2 hmem), if_pos hmem, List.eraseDups_nil, List.append_nil]
    · rw [if_neg (fun h => hmem (List.mem_eraseDups.1 h)), if_neg hmem]
      rfl

/-- **The summary of a file is made by its own outcomes.** -/
theorem lookup_group (f : String) (os : List Outcome) : (group os).lookup f =
    if (outcomesOf f os).isEmpty then none else some ((outcomesOf f os).foldl FileSummary.count {}) := by
  induction os using List.reverseRecOn with
  | nil => rfl
  | append_singleton os o ih =>
    rw [group_concat, lookup_enter, ih]
    by_cases hf : o.file = f
    · have hmine : outcomesOf f (os ++ [o]) = outcomesOf f os ++ [o] := by simp [outcomesOf, hf]
      rw [hmine, if_pos hf.symm, List.foldl_append]
      cases outcomesOf f os with
      | nil => rfl
      | cons o' os' => rfl
    · have hother : outcomesOf f (os ++ [o]) = outcomesOf f os := by simp [outcomesOf, hf]
      rw [hother, if_neg (Ne.symm hf)]

theorem sum_total_group (os : List Outcome) : ((group os).map fun p => p.2.total).sum = os.length := by
  induction os using List.reverseRecOn with
  | nil => rfl
  | append_singleton os o ih =>
    rw [group_concat, sum_total_enter, ih, List.length_append]
    rfl

theorem foldl_count (os : List Outcome) : os.foldl FileSummary.count {} =
    ⟨os.length, os.countP Outcome.passed, os.countP Outcome.failed, (os.filter Outcome.failed).map Outcome.error⟩ := by
  induction os using List.reverseRecOn with
  | nil => rfl
  | append_singleton os o ih =>
    rw [List.foldl_append, List.foldl_cons, List.foldl_nil, ih, FileSummary.count]
    cases hpassed : o.passed with
    | true => cases hfailed : o.failed <;> simp [hpassed, hfailed]
    | false => cases hfailed : o.failed <;> simp [hpassed, hfailed]

/-! ## The file of a test -/

/-- The part of an identifier before its first pair of colons; all of it if there is none. -/
def IsFilePart (identifier part : List Char) : Prop :=
  identifier = part ∧ ¬ "::".toList <:+: identifier ∨
    ∃ rest, identifier = part ++ "::".toList ++ rest ∧ ¬ "::".toList <:+: part ++ [':']

theorem isFilePart_beforeColons (cs : List Char) : IsFilePart cs (beforeColons cs) := by
  fun_induction beforeColons cs with
  | case1 => exact .inl ⟨rfl, by simp⟩
  | case2 cs => exact .inr ⟨cs, rfl, by simp [List.infix_cons_iff]⟩
  | case3 c cs hne ih =>
    have hpair : ∀ {ds : List Char}, ds.head? = cs.head? → ¬ "::".toList <:+: ds → ¬ "::".toList <:+: c :: ds := by
      intro ds hhead hds h
      rcases List.infix_cons_iff.1 h with h | h
      · obtain ⟨hc, tail, rfl⟩ := List.cons_prefix_cons.1 h
        obtain ⟨rest, hcs⟩ := List.head?_eq_some_iff.1 hhead.symm
        exact hne rest hc.symm hcs
      · exact hds h
    rcases ih with ⟨hall, hnone⟩ | ⟨rest, hcut, hfirst⟩
    · exact .inl ⟨congrArg (c :: ·) hall, hpair rfl hnone⟩
    · have hhead : (beforeColons cs ++ [':']).head? = cs.head? := by
        refine Eq.trans ?_ (congrArg List.head? hcut).symm
        cases beforeColons cs <;> rfl
      exact .inr ⟨rest, congrArg (c :: ·) hcut, hpair hhead hfirst⟩

/-! ## Tests as they are listed -/

def detail (key : String) (test : Value) : Value :=
  match test.get key (.str "") with
  | .ok v => v
  | .error _ => .str ""

def identifierOf (test : Value) : String :=
  match detail "nodeid" test with
  | .str s => s
  | _ => ""

def fileOf (test : Value) : String := String.ofList (beforeColons (identifierOf test).toList)

def hasOutcome (outcome : String) (test : Value) : Bool := (detail "outcome" test).isText outcome

/-- The tests of a file. -/
def testsOf (f : String) (tests : List Value) : List Value := tests.filter fun t => fileOf t = f

/-- The summary of some tests. -/
def summaryOf (tests : List Value) : FileSummary :=
  { total := tests.length
    passed := tests.countP (hasOutcome "passed")
    failed := tests.countP (hasOutcome "failed")
    errors := (tests.filter (hasOutcome "failed")).map (detail "longrepr") }

/-- A test whose identifier is a text. -/
def IsNamed (test : Value) : Prop := ∃ s, test.get "nodeid" (.str "") = .ok (.str s)

def outcomeAt (test : Value) : Outcome :=
  ⟨fileOf test, hasOutcome "passed" test, hasOutcome "failed" test, detail "longrepr" test⟩

theorem outcomeOf_eq {test : Value} (h : IsNamed test) : outcomeOf test = .ok (outcomeAt test) := by
  obtain ⟨s, hs⟩ := h
  cases test with
  | dict fields =>
    have hid : identifierOf (.dict fields) = s := by rw [identifierOf, detail, hs]
    refine Result.bind_eq_ok_iff.2 ⟨_, hs, Result.bind_eq_ok_iff.2 ⟨_, rfl, Result.bind_eq_ok_iff.2 ⟨_, rfl, ?_⟩⟩⟩
    rw [outcomeAt, fileOf, hid]
    rfl
  | _ => cases hs

theorem outcomesOf_map (f : String) (tests : List Value) :
    outcomesOf f (tests.map outcomeAt) = (testsOf f tests).map outcomeAt := by
  rw [outcomesOf, List.filter_map]
  rfl

theorem foldl_count_map (tests : List Value) : (tests.map outcomeAt).foldl FileSummary.count {} = summaryOf tests := by
  rw [foldl_count, summaryOf, List.length_map, List.countP_map, List.countP_map, List.filter_map, List.map_map]
  rfl

theorem isNamed_of_testsOf {tests tests' : List Value} (hsame : ∀ f, testsOf f tests' = testsOf f tests)
    (h : ∀ t ∈ tests, IsNamed t) : ∀ t ∈ tests', IsNamed t := by
  intro t ht
  have hmine : t ∈ testsOf (fileOf t) tests' := List.mem_filter.2 ⟨ht, by simp⟩
  rw [hsame] at hmine
  exact h t (List.mem_filter.1 hmine).1

theorem summarize_eq {run : Value} {tests : List Value} (hrun : run.get "tests" (.list []) = .ok (.list tests))
    (htests : ∀ t ∈ tests, IsNamed t) :
    summarize run = .ok (group (tests.map outcomeAt)) := by
  have hlisted : TestRun.tests run = .ok tests := Result.bind_eq_ok_iff.2 ⟨_, hrun, rfl⟩
  have houtcomes : tests.mapM outcomeOf = .ok (tests.map outcomeAt) :=
    Result.mapM_eq_ok_map fun t ht => outcomeOf_eq (htests t ht)
  exact Result.bind_eq_ok_iff.2 ⟨_, hlisted, Result.bind_eq_ok_iff.2 ⟨_, houtcomes, rfl⟩⟩

theorem lookup_group_map (f : String) (tests : List Value) : (group (tests.map outcomeAt)).lookup f =
    if (testsOf f tests).isEmpty then none else some (summaryOf (testsOf f tests)) := by
  rw [lookup_group, outcomesOf_map, foldl_count_map, List.isEmpty_map]

/-- **Test results are grouped without loss or cross-talk.**  For every list of tests whose identifiers are texts there
are summaries of the files of the tests, each file once, in the order in which they first occur; the file of a test
is what its identifier has before the first pair of colons.  The entry of a file is the summary of its own tests, in their
order, and a file without tests has none.  So the totals are the number of tests, and tests that are in another order, but
not within a file, give the same entries. -/
theorem summarize_groups {run : Value} {tests : List Value} (hrun : run.get "tests" (.list []) = .ok (.list tests))
    (htests : ∀ t ∈ tests, IsNamed t) : ∃ files, summarize run = .ok files ∧
      files.map Prod.fst = (tests.map fileOf).eraseDups ∧
      (∀ t ∈ tests, IsFilePart (identifierOf t).toList (fileOf t).toList) ∧
      (∀ f, files.lookup f = if (testsOf f tests).isEmpty then none else some (summaryOf (testsOf f tests))) ∧
      (files.map fun p => p.2.total).sum = tests.length ∧
      ∀ run' tests', run'.get "tests" (.list []) = .ok (.list tests') → (∀ f, testsOf f tests' = testsOf f tests) →
        ∃ files', summarize run' = .ok files' ∧ ∀ f, files'.lookup f = files.lookup f := by
  refine ⟨_, summarize_eq hrun htests, ?_, ?_, fun f => lookup_group_map f tests, ?_, ?_⟩
  · rw [keys_group, List.map_map]
    rfl
  · intro t _
    rw [fileOf, String.toList_ofList]
    exact isFilePart_beforeColons _
  · rw [sum_total_group, List.length_map]
  · intro run' tests' hrun' hsame
    refine ⟨_, summarize_eq hrun' (isNamed_of_testsOf hsame htests), fun f => ?_⟩
    rw [lookup_group_map, lookup_group_map, hsame]

def listedTest (identifier outcome error : String) : Value :=
  .dict [("nodeid", .str identifier), ("outcome", .str outcome), ("longrepr", .str error)]

def firstFailure : Value := listedTest "a.py::f" "failed" "first"

def secondFailure : Value := listedTest "a.py::C::g" "failed" "second"

def otherTest : Value := listedTest "b.py::h" "passed" ""

theorem isNamed_listedTest (identifier outcome error : String) : IsNamed (listedTest identifier outcome error) :=
  ⟨identifier, rfl⟩

theorem summarize_groups_sample : ∃ files,
    summarize (.dict [("tests", .list [firstFailure, otherTest, secondFailure])]) = .ok files ∧
      files.map Prod.fst = ["a.py", "b.py"] ∧
      files.lookup "a.py" = some ⟨2, 0, 2, [.str "first", .str "second"]⟩ ∧ files.lookup "b.py" = some ⟨1, 1, 0, []⟩ ∧
      ∃ files', summarize (.dict [("tests", .list [otherTest, firstFailure, secondFailure])]) = .ok files' ∧
        ∀ f, files'.lookup f = files.lookup f := by
  have hrun : (Value.dict [("tests", .list [firstFailure, otherTest, secondFailure])]).get "tests" (.list []) =
      .ok (.list [firstFailure, otherTest, secondFailure]) := rfl
  have htests : ∀ t ∈ [firstFailure, otherTest, secondFailure], IsNamed t := by
    intro t ht
    simp only [List.mem_cons, List.not_mem_nil, or_false] at ht
    rcases ht with rfl | rfl | rfl <;> exact isNamed_listedTest _ _ _
  obtain ⟨files, hfiles, hkeys, -, hentry, -, hsame⟩ := summarize_groups hrun htests
  refine ⟨files, hfiles, hkeys.trans (by decide), (hentry "a.py").trans rfl, (hentry "b.py").trans rfl, ?_⟩
  refine hsame _ _ rfl fun f => ?_
  have hother : fileOf otherTest = "b.py" := by decide
  by_cases hf : "b.py" = f
  · subst hf
    rfl
  · simp [testsOf, List.filter_cons, hother, hf]

end TestRun
end DocReview
