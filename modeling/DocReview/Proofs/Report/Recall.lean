import DocReview.Proofs.Json.RoundTrip
import DocReview.Proofs.Report.Stored
import DocReview.Proofs.Text.Lines
/-!
# Recall — a stored report comes back

Whatever disk a report could be stored on, its text is found at its path (`find_store`).  That text has no carriage
return, so reading the file changes no line end in it (`textOf_indented`), and it is read as the value it was written for:
a report without doubles comes back as it was, with its keys in their order (`stored_value_reads_back`).
-/
namespace DocReview
namespace Report

open Entry (Free)
open Disk (parts)
open Json (Storable IsWritten)

/-- **What was stored is at its path.** -/
theorem find_store {path file : String} (hpath : IsReport path file) {d d' : Disk} {report : Value}
    (h : store d report path = .ok d') : d'.find path = .ok (.file (.text (Json.indented report))) := by
  obtain ⟨made, -, hwritten⟩ := Result.bind_eq_ok_iff.1 h
  rw [hpath.normal] at hwritten
  have hwrite : made.write path (.text (Json.indented report)) = .ok d' := by
    unfold Disk.writeText Disk.named at hwritten
    cases hw : made.write path (.text (Json.indented report)) with
    | error f =>
      rw [hw] at hwritten
      cases hwritten
    | ok d'' =>
      rw [hw] at hwritten
      cases hwritten
      rfl
  obtain ⟨free, rfl⟩ := Disk.write_eq_ok hpath.plain hpath.parts hwrite
  rw [Disk.find_plain hpath.plain, hpath.parts]
  exact Entry.at?_set_place free

theorem isWritten_indented {v : Value} (hv : Storable v) : ∀ c ∈ Json.indented v, IsWritten c :=
  Json.isWritten_render Json.isBlank_indented hv 0

theorem textOf_indented {v : Value} (hv : Storable v) :
    Disk.textOf (.text (Json.indented v)) = .ok (Json.indented v) := by
  have hreturn : '\r' ∉ Json.indented v := by
    intro hmem
    exact absurd (isWritten_indented hv _ hmem) (by decide)
  exact congrArg Except.ok (Text.foldNewlines_of_not_mem hreturn)

theorem load_store {path file : String} (hpath : IsReport path file) {d d' : Disk} {v : Value} (hv : Storable v)
    (h : store d v path = .ok d') : load d' path = .ok v := by
  have hread : d'.readText path = .ok (Json.indented v) := by
    unfold Disk.readText Disk.read
    rw [find_store hpath h]
    exact textOf_indented hv
  unfold load
  rw [hpath.normal, hread]
  have hvalue : Json.read (Json.indented v) = .ok v := Json.read_render Json.isBlank_indented hv
  simp only [bind, Except.bind, hvalue]
  rfl

/-- **The results of a test run come back as they were stored**: where nothing stands in the way they can be stored, and
wherever they were, the same value is loaded, its keys in the same order, from a text of ASCII characters. -/
theorem stored_value_reads_back {v : Value} (hv : Storable v) (d : Disk) :
    (Free (reportPlace "pytest_results.json") d.root → ∃ d', store d v testResultsPath = .ok d') ∧
    ∀ d', store d v testResultsPath = .ok d' →
      loadTestResults d' = .ok v ∧
      ∃ cs, d'.read testResultsPath = .ok (.text cs) ∧ ∀ c ∈ cs, c.toNat < 128 := by
  refine ⟨fun free => ⟨_, store_report isReport_testResults free v⟩, fun d' h => ⟨?_, Json.indented v, ?_, ?_⟩⟩
  · have hcontains : d'.contains testResultsPath = true := by
      unfold Disk.contains
      rw [find_store isReport_testResults h]
    unfold loadTestResults
    rw [if_pos hcontains]
    exact load_store isReport_testResults hv h
  · unfold Disk.read
    rw [find_store isReport_testResults h]
    rfl
  · intro c hc
    rcases isWritten_indented hv c hc with rfl | ⟨-, hc⟩
    · decide
    · exact Nat.lt_of_le_of_lt hc (by decide)

/-- Results with an empty list and an empty mapping inside, and with characters that have to be escaped. -/
def sampleResults : Value :=
  .dict [("é\"", .list []), ("a", .list [.int (-120), .str "😀\n\\", .dict []]), ("", .none), ("b", .bool true)]

theorem storable_sampleResults : Storable sampleResults := by
  have hlist : Storable (.list [.int (-120), .str "😀\n\\", .dict []]) := by
    refine .list fun v hv => ?_
    simp only [List.mem_cons, List.not_mem_nil, or_false] at hv
    rcases hv with rfl | rfl | rfl
    · exact .int (by decide)
    · exact .str _
    · exact .dict (by decide) (by simp)
  refine .dict (by decide) fun p hp => ?_
  simp only [List.mem_cons, List.not_mem_nil, or_false] at hp
  rcases hp with rfl | rfl | rfl | rfl
  · exact .list (by simp)
  · exact hlist
  · exact .none
  · exact .bool true

/-- On an empty disk the directories are made first. -/
theorem stored_value_reads_back_sample : Storable sampleResults ∧
    ∃ d', store ⟨.dir []⟩ sampleResults testResultsPath = .ok d' ∧ loadTestResults d' = .ok sampleResults ∧
      ∃ cs, d'.read testResultsPath = .ok (.text cs) ∧ ∀ c ∈ cs, c.toNat < 128 := by
  obtain ⟨hstore, hback⟩ := stored_value_reads_back storable_sampleResults ⟨.dir []⟩
  obtain ⟨d', hd'⟩ := hstore fun e he => by cases he
  exact ⟨storable_sampleResults, d', hd', hback d' hd'⟩

end Report
end DocReview
