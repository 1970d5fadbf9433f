import DocReview.Proofs.Suggestion.Effect
/-!
# Acceptance — a suggestion in its file

A docstring that is laid out for a function of a file can always be put into the file.  The file is read again, with the
function documented and all else as it was, exactly if the block of the function is set in by four blanks more than the
function; otherwise the file is refused from then on (`acceptance_documents`).
-/
namespace DocReview.Suggestion

open Definition (FileRecord FunctionRecord fileRecord)
open Text (Over)

theorem file_eq {d : Disk} {path : String} {text : List Char} (h : d.readText path = .ok text) :
    Scan.file d path = ((Source.parse text).map (fileRecord path)).mapError Fault.refused := by
  unfold Scan.file Scan.program
  rw [h]
  change (Source.parse text).mapError Fault.refused >>= (fun body => pure (fileRecord path body)) = _
  cases Source.parse text <;> rfl

/-- **A docstring that is put into a file is read with it.** -/
theorem readText_insertInFile {d : Disk} {path : String} {text : List Char} (h : d.readText path = .ok text)
    {f : FunctionRecord} (hindent : (f.indent : Int) ≤ maxCount) (docstring : String) :
    ∃ d', insertInFile d path (.int f.line) (.int f.indent) (.str docstring) = .ok d' ∧
      d'.readText path = .ok (withDocstring text f docstring) := by
  obtain ⟨names, c, hl, hc, hcs⟩ := Disk.readText_eq_ok_iff.1 h
  refine ⟨_, insertInFile_eq_ok hl hc hcs (.of_natCast hindent) _ docstring, ?_⟩
  exact Disk.readText_eq_ok_iff.2
    ⟨names, _, (Scan.locate_set hc path).trans hl, Entry.at?_set_self hc, textOf_insertLines _ _ _ _⟩

/-- Content of the documented form that can be shown between quotes and has something to say. Its texts are made of
characters, so that a docstring made of them can be written. -/
structure Presentable (content : Value) : Prop extends ContentOver isQuotable content where
  summarized : ∃ s, content.field "summary" = .ok (.str s) ∧ ∃ c ∈ s.toList, Text.isBlank c = false

/-- **A docstring that is put into a file documents its function, exactly if the block of the function is set in by four
blanks.**  It can be laid out in every style and put into the file.  Then the file is read again, with the same functions and
classes, of which the function alone has become documented; or it is refused. -/
theorem acceptance_documents {d : Disk} {path : String} {text : List Char} {r : FileRecord} {before after : List FunctionRecord}
    {f : FunctionRecord} {content : Value} (hread : d.readText path = .ok text) (hfile : Scan.file d path = .ok r)
    (hf : r.functions = before ++ f :: after) (hs : Separable text f) (hindent : (f.indent : Int) ≤ maxCount)
    (hrecord : RecordOver isQuotable f) (hcontent : Presentable content) (style : Style) :
    ∃ docstring d', style.layout f.value content = .ok docstring ∧
      insertInFile d path (.int f.line) (.int f.indent) (.str docstring) = .ok d' ∧
      (Aligned text f → ∃ r', Scan.file d' path = .ok r' ∧
        r'.functions.map functionOutline = before.map functionOutline ++ (f.name, true) :: after.map functionOutline ∧
        r'.classes.map classOutline = r.classes.map classOutline) ∧
      (¬ Aligned text f → ∃ refusal, Scan.file d' path = .error (.refused refusal)) := by
  obtain ⟨inner, hlayout, hover, hshown⟩ := layout_over (fun _ h => h) style hrecord hcontent.toContentOver
  obtain ⟨d', hd', hread'⟩ := readText_insertInFile hread hindent (tripleQuoted inner)
  obtain ⟨s, hs', c, hc, hblank⟩ := hcontent.summarized
  rw [file_eq hread] at hfile
  cases hparse : Source.parse text with
  | error e =>
    rw [hparse] at hfile
    cases hfile
  | ok body =>
    rw [hparse] at hfile
    cases hfile
    obtain ⟨haligned, hrefused⟩ := insert_documents hparse hf hs hover ⟨c, hshown s hs' c hc hblank, hblank⟩
    refine ⟨_, d', hlayout, hd', fun h => ?_, fun h => ?_⟩
    · obtain ⟨body', hbody', hfunctions, hclasses⟩ := haligned h
      refine ⟨fileRecord path body', ?_, hfunctions, hclasses⟩
      rw [file_eq hread', hbody']
      rfl
    · rw [file_eq hread']
      cases hbody' : Source.parse (withDocstring text f (tripleQuoted inner)) with
      | ok body' => exact absurd hbody' (hrefused h body')
      | error e => exact ⟨e, rfl⟩

/-! ### Blocks set in by two blanks and by four -/

def blockText (k : Nat) : List Char := "def f():\n".toList ++ (List.replicate k ' ' ++ "return 1\n".toList)

def blockDisk (k : Nat) : Disk := ⟨.dir [("m.py", .file (.text (blockText k)))]⟩

def blockFunction : FunctionRecord where
  name := "f"
  line := 1
  endLine := 2
  args := []
  defaults := []
  returns := none
  hasDocstring := false
  complexity := 1
  nestingDepth := 0
  raises := []
  yields := false
  indent := 4

def blockContent : Value :=
  .dict [("summary", .str "Return one."), ("args", .dict []), ("returns", .str "The number one."), ("raises", .dict [])]

theorem presentable_blockContent : Presentable blockContent where
  summary := ⟨_, rfl, by decide⟩
  args := ⟨_, rfl, by simp⟩
  returns := ⟨_, rfl, by decide⟩
  raises := ⟨_, rfl, by simp⟩
  summarized := ⟨_, rfl, 'R', by decide, by decide⟩

theorem recordOver_blockFunction : RecordOver isQuotable blockFunction where
  names := by decide
  hints := by decide
  returns := by decide

theorem separable_blockText : ∀ k ∈ [2, 4], Separable (blockText k) blockFunction := by
  have hends : ∀ k ∈ [2, 4], (blockText k).all (fun c => !Text.isLineEnd c || c = '\n' || c = '\r') = true := by
    decide +kernel
  have hfinished : ∀ k ∈ [2, 4], ['\\', '\n', '\n'].isSuffixOf (Source.programText (blockText k)) = false := by decide +kernel
  have hline : ∀ k ∈ [2, 4], ∃ t ∈ Source.tokens (Source.programText (blockText k)), t.tok = .newline ∧ t.line = 1 := by
    decide +kernel
  refine fun k hk => ⟨fun c hc hend => ?_, fun h => ?_, hline k hk⟩
  · have hc := List.all_eq_true.1 (hends k hk) c hc
    simpa [hend] using hc
  · rw [← List.isSuffixOf_iff_suffix, hfinished k hk] at h
    cases h

theorem aligned_blockText : ∀ k ∈ [2, 4], (Aligned (blockText k) blockFunction ↔ k = 4) := by
  have hrest : ∀ k ∈ [2, 4], Text.unlines ((Text.splitLines (blockText k)).drop blockFunction.line) =
      List.replicate k ' ' ++ 'r' :: "eturn 1\n".toList := by
    decide +kernel
  intro k hk
  unfold Aligned
  rw [hrest k hk, Source.columns?_blanks k (by decide) (by decide) (by decide) (by decide) rfl]
  simp [blockFunction]

theorem readText_blockDisk : ∀ k ∈ [2, 4], (blockDisk k).readText "m.py" = .ok (blockText k) := by
  have h : ∀ k ∈ [2, 4], ((blockDisk k).readText "m.py").toOption = some (blockText k) := by decide +kernel
  exact fun k hk => Result.toOption_eq_some_iff.1 (h k hk)

theorem file_blockDisk : ∀ k ∈ [2, 4], Scan.file (blockDisk k) "m.py" = .ok ⟨"m.py", [blockFunction], [], [], false⟩ := by
  have h : ∀ k ∈ [2, 4], (Scan.file (blockDisk k) "m.py").toOption = some ⟨"m.py", [blockFunction], [], [], false⟩ := by
    decide +kernel
  exact fun k hk => Result.toOption_eq_some_iff.1 (h k hk)

/-- A docstring that is accepted for a function of a file documents it if its block is set in by four blanks, and makes an
end of the file if it is set in by two. -/
theorem acceptance_sample :
    (∃ docstring d' r', Style.google.layout blockFunction.value blockContent = .ok docstring ∧
      insertInFile (blockDisk 4) "m.py" (.int 1) (.int 4) (.str docstring) = .ok d' ∧
      Scan.file d' "m.py" = .ok r' ∧ r'.functions.map functionOutline = [("f", true)]) ∧
    (∃ docstring d' refusal, Style.google.layout blockFunction.value blockContent = .ok docstring ∧
      insertInFile (blockDisk 2) "m.py" (.int 1) (.int 4) (.str docstring) = .ok d' ∧
      Scan.file d' "m.py" = .error (.refused refusal)) := by
  have hsample := fun (k : Nat) (hk : k ∈ [2, 4]) => acceptance_documents
    (readText_blockDisk k hk) (file_blockDisk k hk) (List.nil_append [blockFunction]).symm (separable_blockText k hk) (by decide) recordOver_blockFunction
    presentable_blockContent .google
  constructor
  · obtain ⟨docstring, d', hlayout, hinsert, haccepted, -⟩ := hsample 4 (by decide)
    obtain ⟨r', hfile, hfunctions, -⟩ := haccepted ((aligned_blockText 4 (by decide)).2 rfl)
    exact ⟨docstring, d', r', hlayout, hinsert, hfile, hfunctions⟩
  · obtain ⟨docstring, d', hlayout, hinsert, -, hrefused⟩ := hsample 2 (by decide)
    obtain ⟨refusal, hfile⟩ := hrefused fun h => absurd ((aligned_blockText 2 (by decide)).1 h) (by decide)
    exact ⟨docstring, d', refusal, hlayout, hinsert, hfile⟩

end DocReview.Suggestion
