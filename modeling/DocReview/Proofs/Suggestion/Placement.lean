import DocReview.Proofs.Source.Position
import DocReview.Proofs.Suggestion.Acceptance
/-!
# Placement — the line that a docstring is put behind

The line of a function is counted by line feeds, and its `def` stands there.  A docstring is put behind as many lines of the
file as that, but these are also ended by the other line ends.  So the lines before it are those up to the `def` exactly if
there is no other line end in them (`insertion_point_iff`).
-/
namespace DocReview.Suggestion

open Definition (FileRecord FunctionRecord functionRecords)
open Source (byteCount)
open Text (splitLines splitOn separators)

theorem return_not_mem_readText {d : Disk} {path : String} {text : List Char} (h : d.readText path = .ok text) :
    '\r' ∉ text := by
  obtain ⟨-, c, -, -, hc⟩ := Disk.readText_eq_ok_iff.1 h
  obtain ⟨t, -, rfl⟩ := Disk.textOf_eq_ok_iff.1 hc
  exact Text.return_not_mem_foldNewlines t

/-- **The line of a function is the line of its `def`**, and the function is set in by what stands before that. -/
theorem exists_def_line {text : List Char} {body : List Source.Stmt} (hreturn : '\r' ∉ text)
    (hparse : Source.parse text = .ok body) {f : FunctionRecord} (hf : f ∈ functionRecords body) :
    ∃ ls before after rest, splitOn '\n' text = (ls ++ [before ++ "def".toList ++ after]) ++ rest ∧
      f.line = ls.length + 1 ∧ f.indent = byteCount before + 4 := by
  obtain ⟨-, hacc⟩ := Source.parse_eq_ok_iff.1 hparse
  obtain ⟨l, m, hrecords⟩ := List.append_of_mem hf
  obtain ⟨_, span, _, _, _, _, _, _, rfl, -, -, -, hline, hindent⟩ := exists_of_functionRecords hrecords
  obtain ⟨pre, post, hT, hspan, hcol⟩ := hacc.exists_def
  rw [Text.programText_eq_ended, Text.foldNewlines_of_not_mem hreturn] at hT
  have hword : '\n' ∉ "def".toList := by decide
  obtain ⟨post, rfl⟩ := Text.exists_of_ended hT (by decide) hword
  obtain ⟨ls, before, after, rest, hsplit, hpre, hbefore, hcount⟩ := Text.exists_line pre post hword
  refine ⟨ls, before, after, rest, hsplit, by omega, ?_⟩
  rw [hindent, hcol, hpre, Source.colAfter_line _ hbefore]

/-- **A docstring is put behind the `def` of its function exactly if line feeds alone end the lines up to there.**  The
lines up to the one that the record names, counted by line feeds, end with the line of the `def`; those that a docstring is
put behind are the same exactly if there is no other line end in them. -/
theorem insertion_point_iff {d : Disk} {path : String} {text : List Char} {r : FileRecord}
    (hread : d.readText path = .ok text) (hfile : Scan.file d path = .ok r) {f : FunctionRecord} (hf : f ∈ r.functions) :
    let lines := (splitOn '\n' text).take f.line
    lines.length = f.line ∧
    (∃ before after, lines[f.line - 1]? = some (before ++ "def".toList ++ after) ∧ f.indent = byteCount before + 4) ∧
    ((splitLines text).take f.line = lines ↔ ∀ l ∈ lines, ∀ c ∈ separators, c ∉ l) := by
  intro lines
  rw [file_eq hread] at hfile
  cases hparse : Source.parse text with
  | error e =>
    rw [hparse] at hfile
    cases hfile
  | ok body =>
    rw [hparse] at hfile
    cases hfile
    obtain ⟨ls, before, after, rest, hsplit, hline, hindent⟩ := exists_def_line (return_not_mem_readText hread) hparse hf
    have hlength : (ls ++ [before ++ "def".toList ++ after]).length = f.line := by
      rw [List.length_append, hline]
      rfl
    have hlines : lines = ls ++ [before ++ "def".toList ++ after] := by
      change (splitOn '\n' text).take f.line = _
      rw [hsplit, ← hlength, List.take_left]
    have hlast : (ls ++ [before ++ "def".toList ++ after]).getLast? ≠ some [] := by simp
    rw [hlines]
    refine ⟨hlength, ⟨before, after, ?_, hindent⟩, ?_⟩
    · rw [hline, Nat.add_sub_cancel]
      simp
    · have hiff := Text.take_splitLines_iff hsplit hlast
      rwa [hlength] at hiff

/-! ### A line end of another kind before a function -/

def pageText (c : Char) : List Char := "# a".toList ++ c :: "b\ndef f():\n    return 1\n".toList

def pageFunction : FunctionRecord := { blockFunction with line := 2, endLine := 3 }

theorem readText_pageText : ∀ c ∈ [' ', '\x0c'], (oneFile (pageText c)).readText "m.py" = .ok (pageText c) := by
  have h : [' ', '\x0c'].all (fun c => !(pageText c).contains '\r') = true := by decide +kernel
  intro c hc
  have hreturn := List.all_eq_true.1 h c hc
  exact readText_oneFile (by simpa using hreturn)

theorem file_pageText : ∀ c ∈ [' ', '\x0c'],
    Scan.file (oneFile (pageText c)) "m.py" = .ok ⟨"m.py", [pageFunction], [], [], false⟩ := by
  have h : [' ', '\x0c'].all (fun c =>
      (Scan.file (oneFile (pageText c)) "m.py").toOption = some ⟨"m.py", [pageFunction], [], [], false⟩) = true := by
    decide +kernel
  exact fun c hc => Result.toOption_eq_some_iff.1 (of_decide_eq_true (List.all_eq_true.1 h c hc))

/-- The lines up to a `def` are found below a comment with a blank in it, and not below one with a form feed. -/
theorem insertion_point_sample :
    (splitLines (pageText ' ')).take 2 = (splitOn '\n' (pageText ' ')).take 2 ∧
    (splitLines (pageText '\x0c')).take 2 ≠ (splitOn '\n' (pageText '\x0c')).take 2 := by
  have hsample := fun (c : Char) (hc : c ∈ [' ', '\x0c']) =>
    (insertion_point_iff (readText_pageText c hc) (file_pageText c hc) (List.mem_singleton_self pageFunction)).2.2
  constructor
  · refine (hsample ' ' (by decide)).2 fun l hl c hc => ?_
    have hplain : ((splitOn '\n' (pageText ' ')).take 2).all (fun l => separators.all fun c => !l.contains c) = true := by
      decide +kernel
    have := List.all_eq_true.1 (List.all_eq_true.1 hplain l hl) c hc
    simpa using this
  · intro h
    have hsep := (hsample '\x0c' (by decide)).1 h _ List.mem_cons_self '\x0c' (by decide)
    exact hsep (by decide)

end DocReview.Suggestion
