import DocReview.Proofs.Review.Panels
/-!
# Failures — whose errors are shown under a file

The failed tests of a run are counted under the part of their identifier before the first pair of colons, and shown under
every file whose name their identifier starts with (`testFailures_eq`).  A test is always shown where it is counted
(`counted_sublist_shown`).  It is shown under another file as well exactly if that file's name begins the name of its own, or
is its own with the first of the two colons (`prefix_identifier_iff`).  So a file shows the tests that are counted under it,
and as many of them as it says, exactly if no failed test of another file is named like that (`expander_shows_counted_iff`).
-/
namespace DocReview

/-! ## The file of an identifier -/

namespace TestRun

theorem beforeColons_begins (cs : List Char) : beforeColons cs <+: cs := by
  rcases isFilePart_beforeColons cs with ⟨hall, -⟩ | ⟨rest, hcut, -⟩
  · exact ⟨[], by rw [List.append_nil]; exact hall.symm⟩
  · rw [List.append_assoc] at hcut
    exact ⟨_, hcut.symm⟩

theorem colons_not_infix_beforeColons (cs : List Char) : ¬ "::".toList <:+: beforeColons cs := by
  intro h
  rcases isFilePart_beforeColons cs with ⟨hall, hnone⟩ | ⟨rest, -, hfirst⟩
  · rw [← hall] at h
    exact hnone h
  · exact hfirst (h.trans (List.prefix_append _ _).isInfix)

theorem colon_begins {cs part rest : List Char} (h : cs = part ++ "::".toList ++ rest) : part ++ [':'] <+: cs := by
  refine ⟨':' :: rest, ?_⟩
  rw [h, List.append_assoc, List.append_assoc]
  rfl

/-- **What begins an identifier**, where it has no pair of colons: it begins the name of the file, or it is that name with one
of the colons behind it. -/
theorem prefix_identifier_iff {f cs : List Char} (hf : ¬ "::".toList <:+: f) :
    f <+: cs ↔ f <+: beforeColons cs ∨ f = beforeColons cs ++ [':'] ∧ cs ≠ beforeColons cs := by
  constructor
  · intro h
    by_cases hlength : f.length ≤ (beforeColons cs).length
    · exact .inl (List.prefix_of_prefix_length_le h (beforeColons_begins cs) hlength)
    · right
      rcases isFilePart_beforeColons cs with ⟨hall, -⟩ | ⟨rest, hcut, -⟩
      · rw [← hall] at hlength
        exact absurd h.length_le hlength
      · -- one more colon would make a pair
        have hshort : f.length ≤ (beforeColons cs ++ [':']).length := by
          by_contra hlong
          have hpair : beforeColons cs ++ "::".toList <+: f := by
            refine List.prefix_of_prefix_length_le ⟨rest, hcut.symm⟩ h ?_
            have htwo : "::".toList.length = 2 := rfl
            simp only [List.length_append, List.length_singleton] at hlong ⊢
            omega
          exact hf ((List.suffix_append _ _).isInfix.trans hpair.isInfix)
        have hcolon : beforeColons cs ++ [':'] <+: cs := colon_begins hcut
        have hlengths : f.length = (beforeColons cs ++ [':']).length := by
          simp only [List.length_append, List.length_singleton] at hshort ⊢
          omega
        refine ⟨(List.prefix_of_prefix_length_le h hcolon hshort).eq_of_length hlengths, fun hall => ?_⟩
        have := hcolon.length_le
        rw [← hall] at this
        simp at this
  · rintro (h | ⟨rfl, hne⟩)
    · exact h.trans (beforeColons_begins cs)
    · rcases isFilePart_beforeColons cs with ⟨hall, -⟩ | ⟨rest, hcut, -⟩
      · exact absurd hall hne
      · exact colon_begins hcut

theorem toList_fileOf (test : Value) : (fileOf test).toList = beforeColons (identifierOf test).toList := by
  rw [fileOf, String.toList_ofList]

/-! ## The entries of a summary -/

theorem nodup_keys_group (os : List Outcome) : ((group os).map Prod.fst).Nodup := by
  induction os using List.reverseRecOn with
  | nil => exact List.nodup_nil
  | append_singleton os o ih =>
    rw [group_concat, keys_enter]
    by_cases hmem : o.file ∈ (group os).map Prod.fst
    · rw [if_pos hmem]
      exact ih
    · rw [if_neg hmem]
      refine List.nodup_append.2 ⟨ih, List.nodup_singleton _, fun f hf g hg => ?_⟩
      rw [List.mem_singleton.1 hg]
      exact fun heq => hmem (heq ▸ hf)

theorem lookup_of_mem {f : String} {s : FileSummary} : ∀ {files : List (String × FileSummary)},
    (files.map Prod.fst).Nodup → (f, s) ∈ files → files.lookup f = some s
  | (g, u) :: files, hnodup, hmem => by
    rw [List.map_cons, List.nodup_cons] at hnodup
    rw [List.lookup_cons]
    by_cases hfg : f = g
    · subst hfg
      rcases List.mem_cons.1 hmem with heq | hmem
      · simp [Prod.mk.inj heq]
      · exact absurd (List.mem_map.2 ⟨(f, s), hmem, rfl⟩) hnodup.1
    · have hne : (f == g) = false := by simpa using hfg
      rw [hne]
      refine lookup_of_mem hnodup.2 ((List.mem_cons.1 hmem).resolve_left ?_)
      intro heq
      exact hfg (Prod.mk.inj heq).1

theorem summaryOf_of_mem {f : String} {s : FileSummary} {tests : List Value}
    (h : (f, s) ∈ group (tests.map outcomeAt)) : s = summaryOf (testsOf f tests) ∧ ∃ t ∈ tests, fileOf t = f := by
  have hlookup := lookup_of_mem (nodup_keys_group _) h
  rw [lookup_group_map] at hlookup
  cases hmine : testsOf f tests with
  | nil =>
    rw [hmine] at hlookup
    cases hlookup
  | cons t ts =>
    rw [hmine] at hlookup
    have ht : t ∈ testsOf f tests := hmine ▸ List.mem_cons_self
    obtain ⟨htests, hfile⟩ := List.mem_filter.1 ht
    exact ⟨(Option.some.inj hlookup).symm, t, htests, of_decide_eq_true hfile⟩

end TestRun

namespace Review

open Screen TestRun

/-! ## What is counted and what is shown -/

/-- The failed tests that are counted under a file. -/
def countedIn (file : String) (tests : List Value) : List Value := (testsOf file tests).filter (hasOutcome "failed")

/-- The failed tests whose identifier starts with the name of a file. -/
def shownIn (file : String) (tests : List Value) : List Value :=
  tests.filter fun t => hasOutcome "failed" t && file.toList.isPrefixOf (identifierOf t).toList

theorem failedIn_eq (file : String) {test : Value} (h : IsNamed test) :
    failedIn file test = .ok (hasOutcome "failed" test && file.toList.isPrefixOf (identifierOf test).toList) := by
  obtain ⟨s, hs⟩ := h
  cases test with
  | dict fields =>
    have hid : identifierOf (.dict fields) = s := by rw [identifierOf, detail, hs]
    have houtcome : ((Value.lookup? "outcome" fields).getD .none).isText "failed" = hasOutcome "failed" (.dict fields) := by
      unfold hasOutcome detail Value.get
      dsimp only
      cases Value.lookup? "outcome" fields with
      | none => rfl
      | some v => rfl
    refine Result.bind_eq_ok_iff.2 ⟨_, rfl, ?_⟩
    rw [houtcome]
    by_cases hfailed : hasOutcome "failed" (.dict fields) = true
    · rw [if_pos hfailed, hfailed, Bool.true_and, hid]
      exact Result.bind_eq_ok_iff.2 ⟨_, hs, rfl⟩
    · rw [if_neg hfailed, Bool.eq_false_iff.2 hfailed, Bool.false_and]
      rfl
  | _ => cases hs

def showError (test : Value) : Draw Unit := do put (.code (← check (errorText test)))

/-- A file with the number of its failures, and the errors of some tests below it. -/
def expanderOf (file : String) (failures : Nat) (shown : List Value) : Draw Unit := do
  put (.expander ("📄 " ++ file ++ " — ❌ " ++ toString failures ++ " failed"))
  shown.forM showError

theorem forM_shown (file : String) : ∀ {tests : List Value}, (∀ t ∈ tests, IsNamed t) →
    (tests.forM fun t => do if ← check (failedIn file t) then showError t) = (shownIn file tests).forM showError
  | [], _ => rfl
  | t :: tests, h => by
    have ih := forM_shown file fun u hu => h u (List.mem_cons_of_mem t hu)
    have hhead := failedIn_eq file (h t List.mem_cons_self)
    unfold shownIn at ih ⊢
    rw [List.forM_eq_forM, List.forM_cons, ← List.forM_eq_forM, ih, hhead]
    by_cases hshown : (hasOutcome "failed" t && file.toList.isPrefixOf (identifierOf t).toList) = true
    · rw [List.filter_cons, if_pos hshown, hshown]
      rfl
    · rw [List.filter_cons, if_neg hshown, Bool.eq_false_iff.2 hshown]
      rfl

theorem failureBlock_eq {run : Value} {tests : List Value} (hrun : run.get "tests" (.list []) = .ok (.list tests))
    (htests : ∀ t ∈ tests, IsNamed t) (file : String) (s : FileSummary) :
    failureBlock run file s = if 0 < s.failed then expanderOf file s.failed (shownIn file tests) else pure () := by
  have hlisted : TestRun.tests run = .ok tests := Result.bind_eq_ok_iff.2 ⟨_, hrun, rfl⟩
  have hshown := forM_shown file htests
  unfold failureBlock expanderOf
  rw [hlisted, ← hshown]
  rfl

/-- **What is drawn about the failures of a run**: each file that has any, with their number and the errors of the tests whose
identifiers start with its name. -/
theorem testFailures_eq {run : Value} {tests : List Value} (hrun : run.get "tests" (.list []) = .ok (.list tests))
    (htests : ∀ t ∈ tests, IsNamed t) : testFailures run = (do
      put (.markdown "### ❌ Errors by Test File")
      (group (tests.map outcomeAt)).forM fun p =>
        if 0 < p.2.failed then expanderOf p.1 p.2.failed (shownIn p.1 tests) else pure ()) := by
  have hblock := fun p : String × FileSummary => failureBlock_eq hrun htests p.1 p.2
  unfold testFailures
  rw [summarize_eq hrun htests, funext hblock]
  rfl

/-! ## Where the two agree -/

/-- The name of a file begins the identifier of a test: it begins the name of the test's own file, or it is that name with
the first of the two colons behind it. -/
def Begins (file : String) (test : Value) : Prop :=
  file.toList <+: (fileOf test).toList ∨
    file.toList = (fileOf test).toList ++ [':'] ∧ (identifierOf test).toList ≠ (fileOf test).toList

theorem begins_self (test : Value) : Begins (fileOf test) test := .inl (List.prefix_refl _)

theorem isPrefixOf_iff_begins {file : String} {test : Value} (hfile : ∃ t, fileOf t = file) :
    file.toList.isPrefixOf (identifierOf test).toList = true ↔ Begins file test := by
  obtain ⟨t, rfl⟩ := hfile
  have hcolons : ¬ "::".toList <:+: (fileOf t).toList := by
    rw [toList_fileOf]
    exact colons_not_infix_beforeColons _
  rw [List.isPrefixOf_iff_prefix, prefix_identifier_iff hcolons, ← toList_fileOf]
  rfl

theorem countedIn_eq (file : String) (tests : List Value) :
    countedIn file tests = tests.filter fun t => hasOutcome "failed" t && decide (fileOf t = file) :=
  List.filter_filter

/-- **A test is shown where it is counted.** -/
theorem counted_sublist_shown {file : String} (hfile : ∃ t, fileOf t = file) (tests : List Value) :
    (countedIn file tests).Sublist (shownIn file tests) := by
  rw [countedIn_eq]
  refine List.monotone_filter_right _ fun t ht => ?_
  rw [Bool.and_eq_true, decide_eq_true_eq] at ht
  obtain ⟨hfailed, rfl⟩ := ht
  rw [hfailed, Bool.true_and]
  exact (isPrefixOf_iff_begins hfile).2 (begins_self t)

theorem shown_eq_counted_iff {file : String} (hfile : ∃ t, fileOf t = file) (tests : List Value) :
    shownIn file tests = countedIn file tests ↔
      ∀ t ∈ tests, hasOutcome "failed" t = true → Begins file t → fileOf t = file := by
  rw [countedIn_eq]
  constructor
  · intro heq t ht hfailed hbegins
    have hmem : t ∈ shownIn file tests :=
      List.mem_filter.2 ⟨ht, by rw [hfailed, Bool.true_and]; exact (isPrefixOf_iff_begins hfile).2 hbegins⟩
    rw [heq] at hmem
    have hcounted := (List.mem_filter.1 hmem).2
    rw [Bool.and_eq_true, decide_eq_true_eq] at hcounted
    exact hcounted.2
  · intro hown
    refine List.filter_congr fun t ht => ?_
    by_cases hfailed : hasOutcome "failed" t = true
    · rw [hfailed, Bool.true_and, Bool.true_and, Bool.eq_iff_iff, isPrefixOf_iff_begins hfile, decide_eq_true_eq]
      exact ⟨hown t ht hfailed, fun h => h ▸ begins_self t⟩
    · rw [Bool.eq_false_iff.2 hfailed, Bool.false_and, Bool.false_and]

/-- **When the failures that are shown under a file are its own.**  For every run whose tests have texts for identifiers,
the panel draws each file that has failures, with their number, and below it the errors of the failed tests whose
identifiers start with the file's name.  The number is that of the failed tests of the file itself, and all of these are
shown.  They are all that is shown, and as many as the number says, exactly if no failed test of another file has an
identifier that the name begins: its file's name does not start with it, and is not it without a colon at the end. -/
theorem expander_shows_counted_iff {run : Value} {tests : List Value}
    (hrun : run.get "tests" (.list []) = .ok (.list tests)) (htests : ∀ t ∈ tests, IsNamed t) :
    ∃ files, summarize run = .ok files ∧
      testFailures run = (do
        put (.markdown "### ❌ Errors by Test File")
        files.forM fun p => if 0 < p.2.failed then expanderOf p.1 p.2.failed (shownIn p.1 tests) else pure ()) ∧
      ∀ f s, (f, s) ∈ files →
        s.failed = (countedIn f tests).length ∧ (countedIn f tests).Sublist (shownIn f tests) ∧
        (shownIn f tests = countedIn f tests ↔
          ∀ t ∈ tests, hasOutcome "failed" t = true → Begins f t → fileOf t = f) ∧
        ((shownIn f tests).length = s.failed ↔ shownIn f tests = countedIn f tests) := by
  refine ⟨_, summarize_eq hrun htests, testFailures_eq hrun htests, fun f s hmem => ?_⟩
  obtain ⟨rfl, t, -, hfile⟩ := summaryOf_of_mem hmem
  have hcount : (summaryOf (testsOf f tests)).failed = (countedIn f tests).length := List.countP_eq_length_filter
  have hsublist := counted_sublist_shown ⟨t, hfile⟩ tests
  refine ⟨hcount, hsublist, shown_eq_counted_iff ⟨t, hfile⟩ tests, ?_⟩
  rw [hcount]
  constructor
  · exact fun hlength => (hsublist.eq_of_length hlength.symm).symm
  · exact fun heq => congrArg List.length heq

/-! ### A file whose name begins another's -/

def plainFailure : Value := listedTest "a.py::t" "failed" "first"

def longerFailure : Value := listedTest "a.pyx::u" "failed" "second"

/-- Both failures are shown under the first file, which counts one, and one of them under the second. -/
theorem expander_shows_other_file : ∃ files,
    summarize (.dict [("tests", .list [plainFailure, longerFailure])]) = .ok files ∧
      ("a.py", ⟨1, 0, 1, [.str "first"]⟩) ∈ files ∧ ("a.pyx", ⟨1, 0, 1, [.str "second"]⟩) ∈ files ∧
      (shownIn "a.py" [plainFailure, longerFailure]).length ≠ 1 ∧
      shownIn "a.pyx" [plainFailure, longerFailure] = countedIn "a.pyx" [plainFailure, longerFailure] := by
  have hrun : (Value.dict [("tests", .list [plainFailure, longerFailure])]).get "tests" (.list []) =
      .ok (.list [plainFailure, longerFailure]) := rfl
  have htests : ∀ t ∈ [plainFailure, longerFailure], IsNamed t := by
    intro t ht
    simp only [List.mem_cons, List.not_mem_nil, or_false] at ht
    rcases ht with rfl | rfl <;> exact isNamed_listedTest _ _ _
  have hsummary : summarize (.dict [("tests", .list [plainFailure, longerFailure])]) =
      .ok [("a.py", ⟨1, 0, 1, [.str "first"]⟩), ("a.pyx", ⟨1, 0, 1, [.str "second"]⟩)] := rfl
  obtain ⟨files, hfiles, -, heach⟩ := expander_shows_counted_iff hrun htests
  cases hfiles.symm.trans hsummary
  refine ⟨_, hsummary, List.mem_cons_self, List.mem_cons_of_mem _ List.mem_cons_self, ?_, ?_⟩
  · obtain ⟨-, -, hiff, hlength⟩ := heach "a.py" _ List.mem_cons_self
    intro hone
    have hown := hiff.1 (hlength.1 hone) longerFailure (by simp) rfl (.inl (by decide))
    exact absurd hown (by decide)
  · obtain ⟨-, -, hiff, -⟩ := heach "a.pyx" _ (List.mem_cons_of_mem _ List.mem_cons_self)
    refine hiff.2 fun t ht _ hbegins => ?_
    simp only [List.mem_cons, List.not_mem_nil, or_false] at ht
    rcases ht with rfl | rfl
    · exact absurd hbegins (by unfold Begins; decide)
    · decide

end Review
end DocReview
