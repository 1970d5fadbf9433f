import Mathlib.Data.List.DropRight
import DocReview.Issue
import DocReview.Proofs.Result
import DocReview.Proofs.Text.Joined
/-!
# Blocks — the issues in what a checker wrote

The lines that say something are cut where a blank line stands between two of them.  Nothing is lost: one after the other,
the issues are these lines (`flatten_blocksFrom`), and a cut is made at blank lines only and at all of them
(`together_blocksFrom_iff`).  Issues that are written out again, with a blank line between them, are read as the same issues
(`split_render`).
-/
namespace DocReview
namespace Text

theorem trimEnd_trimEnd (cs : List Char) : trimEnd (trimEnd cs) = trimEnd cs := List.rdropWhile_idempotent isBlank cs

theorem mem_of_mem_trimEnd {c : Char} {cs : List Char} (h : c ∈ trimEnd cs) : c ∈ cs :=
  (List.rdropWhile_prefix isBlank (l := cs)).subset h

theorem trimEnd_eq_nil_iff {cs : List Char} : trimEnd cs = [] ↔ allBlank cs = true := by
  rw [allBlank, List.all_eq_true]
  exact List.rdropWhile_eq_nil_iff

theorem allBlank_trimEnd (cs : List Char) : allBlank (trimEnd cs) = allBlank cs := by
  rw [Bool.eq_iff_iff, ← trimEnd_eq_nil_iff, ← trimEnd_eq_nil_iff, trimEnd_trimEnd]

end Text

namespace Issue

/-! ## Reading lines -/

/-- The lines that say something, each without blanks at its end. -/
def kept (lines : List (List Char)) : List (List Char) := (lines.filter fun l => !Text.allBlank l).map Text.trimEnd

theorem kept_blank {l : List Char} (h : Text.allBlank l = true) (ls : List (List Char)) : kept (l :: ls) = kept ls := by
  simp [kept, h]

theorem kept_line {l : List Char} (h : Text.allBlank l = false) (ls : List (List Char)) :
    kept (l :: ls) = Text.trimEnd l :: kept ls := by
  simp [kept, h]

def flush (block : List (List Char)) : List (List (List Char)) := if block = [] then [] else [block.reverse]

theorem flush_cons (l : List Char) (block : List (List Char)) : flush (l :: block) = [block.reverse ++ [l]] := by
  simp [flush]

theorem flatten_flush (block : List (List Char)) : (flush block).flatten = block.reverse := by
  cases block with
  | nil => rfl
  | cons l block => simp [flush]

theorem nil_not_mem_flush (block : List (List Char)) : [] ∉ flush block := by
  cases block with
  | nil => exact List.not_mem_nil
  | cons l block => simp [flush]

theorem blocksFrom_nil (block : List (List Char)) : blocksFrom block [] = flush block := by
  cases block with
  | nil => rfl
  | cons l block => rfl

theorem blocksFrom_blank {l : List Char} (h : Text.allBlank l = true) (block ls : List (List Char)) :
    blocksFrom block (l :: ls) = flush block ++ blocksFrom [] ls := by
  cases block with
  | nil => simp [blocksFrom, flush, h]
  | cons m block => simp [blocksFrom, flush, h]

theorem blocksFrom_line {l : List Char} (h : Text.allBlank l = false) (block ls : List (List Char)) :
    blocksFrom block (l :: ls) = blocksFrom (Text.trimEnd l :: block) ls := by
  simp [blocksFrom, h]

/-- **The issues are the lines that say something, one after the other.** -/
theorem flatten_blocksFrom : ∀ (ls block : List (List Char)), (blocksFrom block ls).flatten = block.reverse ++ kept ls
  | [], block => by rw [blocksFrom_nil, flatten_flush, kept, List.filter_nil, List.map_nil, List.append_nil]
  | l :: ls, block => by
    cases hl : Text.allBlank l with
    | true => rw [blocksFrom_blank hl, List.flatten_append, flatten_flush, flatten_blocksFrom ls, kept_blank hl]; rfl
    | false => rw [blocksFrom_line hl, flatten_blocksFrom ls, kept_line hl]; simp

theorem nil_not_mem_blocksFrom : ∀ (ls block : List (List Char)), [] ∉ blocksFrom block ls
  | [], block => by
    rw [blocksFrom_nil]
    exact nil_not_mem_flush block
  | l :: ls, block => by
    cases hl : Text.allBlank l with
    | true =>
      rw [blocksFrom_blank hl, List.mem_append]
      exact fun h => h.elim (nil_not_mem_flush block) (nil_not_mem_blocksFrom ls [])
    | false =>
      rw [blocksFrom_line hl]
      exact nil_not_mem_blocksFrom ls _

/-- After some lines, some issues are done and one has begun, and together they hold what was read. -/
theorem exists_read : ∀ (pre block : List (List Char)), ∃ done begun,
    (∀ ls, blocksFrom block (pre ++ ls) = done ++ blocksFrom begun ls) ∧
      done.flatten ++ begun.reverse = block.reverse ++ kept pre
  | [], block => ⟨[], block, fun _ => rfl, by simp [kept]⟩
  | l :: pre, block => by
    cases hl : Text.allBlank l with
    | true =>
      obtain ⟨done, begun, hread, hlines⟩ := exists_read pre []
      refine ⟨flush block ++ done, begun, fun ls => ?_, ?_⟩
      · rw [List.cons_append, blocksFrom_blank hl, hread, List.append_assoc]
      · rw [List.flatten_append, flatten_flush, List.append_assoc, hlines, kept_blank hl]
        rfl
    | false =>
      obtain ⟨done, begun, hread, hlines⟩ := exists_read pre (Text.trimEnd l :: block)
      refine ⟨done, begun, fun ls => ?_, ?_⟩
      · rw [List.cons_append, blocksFrom_line hl, hread]
      · rw [hlines, kept_line hl]
        simp

theorem exists_begun : ∀ (ls : List (List Char)) {block : List (List Char)}, block ≠ [] →
    ∃ back rest, blocksFrom block ls = (block.reverse ++ back) :: rest
  | [], block, h => ⟨[], [], by simp [blocksFrom_nil, flush, h]⟩
  | l :: ls, block, h => by
    cases hl : Text.allBlank l with
    | true => exact ⟨[], blocksFrom [] ls, by simp [blocksFrom_blank hl, flush, h]⟩
    | false =>
      obtain ⟨back, rest, hread⟩ := exists_begun ls (List.cons_ne_nil (Text.trimEnd l) block)
      exact ⟨Text.trimEnd l :: back, rest, by rw [blocksFrom_line hl, hread]; simp⟩

/-! ## Lines of one issue -/

/-- Two lines that follow each other in the issues, behind the lines `before`, are in one issue. -/
def Together (issues : List (List (List Char))) (before : List (List Char)) (l m : List Char) : Prop :=
  ∃ done front back rest, issues = done ++ (front ++ l :: m :: back) :: rest ∧ done.flatten ++ front = before

theorem place_unique {l l' : List Char} {front back front' back' : List (List Char)} {rest rest' : List (List (List Char))}
    {done done' : List (List (List Char))}
    (hissues : done ++ (front ++ l :: back) :: rest = done' ++ (front' ++ l' :: back') :: rest')
    (hbefore : (done.flatten ++ front).length = (done'.flatten ++ front').length) :
    front.length = front'.length ∧ front ++ l :: back = front' ++ l' :: back' := by
  induction done generalizing done' with
  | nil =>
    cases done' with
    | nil => exact ⟨hbefore, (List.cons.inj hissues).1⟩
    | cons issue done' =>
      obtain ⟨rfl, -⟩ := List.cons.inj hissues
      simp only [List.flatten_cons, List.flatten_nil, List.length_append, List.length_cons, List.length_nil] at hbefore
      omega
  | cons issue done ih =>
    cases done' with
    | nil =>
      obtain ⟨rfl, -⟩ := List.cons.inj hissues
      simp only [List.flatten_cons, List.flatten_nil, List.length_append, List.length_cons, List.length_nil] at hbefore
      omega
    | cons issue' done' =>
      obtain ⟨rfl, htail⟩ := List.cons.inj hissues
      refine ih htail ?_
      simp only [List.flatten_cons, List.length_append] at hbefore ⊢
      omega

theorem not_together {done rest : List (List (List Char))} {front : List (List Char)} (l m : List Char) :
    ¬ Together (done ++ (front ++ [l]) :: rest) (done.flatten ++ front) l m := by
  rintro ⟨done', front', back', rest', hissues, hbefore⟩
  obtain ⟨hfront, hissue⟩ := place_unique hissues (congrArg List.length hbefore.symm)
  have hlength := congrArg List.length hissue
  simp only [List.length_append, List.length_cons, List.length_nil] at hlength
  omega

/-- **Two lines that say something and have only blank lines between them are in one issue exactly if there are none.** -/
theorem together_blocksFrom_iff {l m : List Char} (hl : Text.allBlank l = false) (hm : Text.allBlank m = false)
    (pre : List (List Char)) {gap : List (List Char)} (hgap : ∀ b ∈ gap, Text.allBlank b = true) (post : List (List Char)) :
    Together (blocksFrom [] (pre ++ l :: (gap ++ m :: post))) (kept pre) (Text.trimEnd l) (Text.trimEnd m) ↔ gap = [] := by
  obtain ⟨done, begun, hread, hbefore⟩ := exists_read pre []
  rw [List.reverse_nil, List.nil_append] at hbefore
  rw [hread, blocksFrom_line hl]
  constructor
  · intro h
    cases gap with
    | nil => rfl
    | cons b gap =>
      rw [List.cons_append, blocksFrom_blank (hgap b List.mem_cons_self), flush_cons, ← hbefore] at h
      exact absurd h (not_together _ _)
  · rintro rfl
    obtain ⟨back, rest, hnext⟩ := exists_begun post (List.cons_ne_nil (Text.trimEnd m) (Text.trimEnd l :: begun))
    refine ⟨done, begun.reverse, back, rest, ?_, hbefore⟩
    rw [List.nil_append, blocksFrom_line hm, hnext]
    simp

/-! ## Issues written out -/

/-- Issues as a checker writes them: the lines of each, and a blank line between two of them. -/
def render (issues : List (List (List Char))) : List Char :=
  Text.joinWith ['\n', '\n'] (issues.map (Text.joinWith ['\n']))

/-- What is found as an issue: some lines that say something, each without blanks at its end. -/
structure IsIssue (issue : List (List Char)) : Prop where
  ne_nil : issue ≠ []
  nonblank : ∀ l ∈ issue, Text.allBlank l = false
  trimmed : ∀ l ∈ issue, Text.trimEnd l = l
  plain : ∀ l ∈ issue, ∀ c ∈ l, Text.isLineEnd c = false

theorem isIssue_of_mem_split {text : List Char} {issue : List (List Char)} (h : issue ∈ split text) : IsIssue issue := by
  have hline : ∀ l ∈ issue, ∃ line ∈ Text.splitLines text, Text.allBlank line = false ∧ Text.trimEnd line = l := by
    intro l hl
    have hmem : l ∈ (split text).flatten := List.mem_flatten.2 ⟨issue, h, hl⟩
    rw [split, flatten_blocksFrom, List.reverse_nil, List.nil_append, kept] at hmem
    obtain ⟨line, hline, htrim⟩ := List.mem_map.1 hmem
    obtain ⟨hline, hnonblank⟩ := List.mem_filter.1 hline
    exact ⟨line, hline, by simpa using hnonblank, htrim⟩
  refine ⟨?_, ?_, ?_, ?_⟩
  · rintro rfl
    exact nil_not_mem_blocksFrom _ _ h
  · intro l hl
    obtain ⟨line, -, hnonblank, rfl⟩ := hline l hl
    rw [Text.allBlank_trimEnd, hnonblank]
  · intro l hl
    obtain ⟨line, -, -, rfl⟩ := hline l hl
    exact Text.trimEnd_trimEnd line
  · intro l hl c hc
    obtain ⟨line, hmem, -, rfl⟩ := hline l hl
    exact (Text.mem_splitLines hmem (Text.mem_of_mem_trimEnd hc)).2

theorem blocksFrom_lines : ∀ {issue : List (List Char)}, (∀ l ∈ issue, Text.allBlank l = false) →
    (∀ l ∈ issue, Text.trimEnd l = l) → ∀ block ls, blocksFrom block (issue ++ ls) = blocksFrom (issue.reverse ++ block) ls
  | [], _, _, _, _ => rfl
  | l :: issue, hnonblank, htrimmed, block, ls => by
    have ih := blocksFrom_lines (fun m hm => hnonblank m (List.mem_cons_of_mem l hm))
      (fun m hm => htrimmed m (List.mem_cons_of_mem l hm)) (l :: block) ls
    rw [List.cons_append, blocksFrom_line (hnonblank l List.mem_cons_self), htrimmed l List.mem_cons_self, ih]
    simp

theorem flush_reverse {issue : List (List Char)} (h : issue ≠ []) : flush issue.reverse = [issue] := by
  simp [flush, h]

theorem split_single {issue : List (List Char)} (h : IsIssue issue) : split (Text.joinWith ['\n'] issue) = [issue] := by
  have hlast : issue.getLast? ≠ some [] := by
    intro hnil
    have hnonblank := h.nonblank [] (List.mem_of_getLast? hnil)
    cases hnonblank
  have hread := blocksFrom_lines h.nonblank h.trimmed [] []
  rw [List.append_nil, List.append_nil, blocksFrom_nil, flush_reverse h.ne_nil] at hread
  rw [split, Text.splitLines_joinWith h.plain, Text.reread, if_neg hlast, hread]

theorem split_unlines {issue : List (List Char)} (h : IsIssue issue) (rest : List Char) :
    split (Text.unlines issue ++ '\n' :: rest) = issue :: split rest := by
  have hplain : ∀ l ∈ issue ++ [[]], ∀ c ∈ l, Text.isLineEnd c = false := by
    intro l hl c hc
    rcases List.mem_append.1 hl with hl | hl
    · exact h.plain l hl c hc
    · rw [List.mem_singleton.1 hl] at hc
      cases hc
  have hlines := Text.splitLines_unlines_append rest hplain
  rw [Text.unlines_append, List.append_assoc, List.append_assoc] at hlines
  have hread := blocksFrom_lines h.nonblank h.trimmed [] ([] :: Text.splitLines rest)
  rw [blocksFrom_blank rfl, List.append_nil, flush_reverse h.ne_nil] at hread
  rw [split]
  exact (congrArg (blocksFrom []) hlines).trans hread

/-- **Issues that are written out are read as the same issues.** -/
theorem split_render : ∀ {issues : List (List (List Char))}, (∀ issue ∈ issues, IsIssue issue) → split (render issues) = issues
  | [], _ => rfl
  | [issue], h => split_single (h issue List.mem_cons_self)
  | issue :: next :: issues, h => by
    have hissue := h issue List.mem_cons_self
    have ih := split_render fun i hi => h i (List.mem_cons_of_mem issue hi)
    have hrender : render (issue :: next :: issues) = Text.unlines issue ++ '\n' :: render (next :: issues) := by
      obtain ⟨lines, l, rfl⟩ := (List.eq_nil_or_concat' issue).resolve_left hissue.ne_nil
      rw [render, List.map_cons, List.map_cons, Text.joinWith, Text.joinWith_concat, Text.unlines_append]
      · simp [render]
      · simp
    rw [hrender, split_unlines hissue, ih]

/-! ## What a checker gave back -/

theorem result_texts (out err : String) (status : Value) : ∃ passed, Checked.result ⟨.str out, .str err, status⟩ =
    .ok ⟨passed, (split (if err = "" then out else err).toList).map fun issue => issue.map String.ofList⟩ := by
  have htext : ((Value.str err).orElse (.str out)).textFor "splitlines" = .ok (if err = "" then out else err).toList := by
    by_cases herr : err = ""
    · simp [Value.orElse, Value.truthy, Value.textFor, herr]
    · simp [Value.orElse, Value.truthy, Value.textFor, herr]
  exact ⟨_, Result.bind_eq_ok_iff.2 ⟨_, htext, rfl⟩⟩

/-- **Cutting the output of a checker into issues loses nothing and is a normal form.**  Whatever a checker wrote, the issues
are the lines of its text that say something, each without blanks at its end, in order, and no issue is empty.  Two such lines
with only blank lines between them are in one issue exactly if there are none.  The issues written out with a blank line
between them are read as the same issues. -/
theorem issues_normal_form (out err : String) (status : Value) :
    let text := (if err = "" then out else err).toList
    let lines := Text.splitLines text
    let issues := split text
    (∃ passed, Checked.result ⟨.str out, .str err, status⟩ =
      .ok ⟨passed, issues.map fun issue => issue.map String.ofList⟩) ∧
    issues.flatten = (lines.filter fun l => !Text.allBlank l).map Text.trimEnd ∧
    [] ∉ issues ∧
    (∀ pre l gap m post, lines = pre ++ l :: (gap ++ m :: post) → Text.allBlank l = false → Text.allBlank m = false →
      (∀ b ∈ gap, Text.allBlank b = true) →
        (Together issues (kept pre) (Text.trimEnd l) (Text.trimEnd m) ↔ gap = [])) ∧
    split (render issues) = issues := by
  intro text lines issues
  refine ⟨result_texts out err status, flatten_blocksFrom lines [], nil_not_mem_blocksFrom lines [], ?_,
    split_render fun issue => isIssue_of_mem_split⟩
  intro pre l gap m post hlines hl hm hgap
  have hissues : issues = blocksFrom [] (pre ++ l :: (gap ++ m :: post)) := congrArg (blocksFrom []) hlines
  rw [hissues]
  exact together_blocksFrom_iff hl hm pre hgap post

/-- A block of two lines, a line of white space that ends no line, and a block of one line. -/
def twoBlocks : String := "p\n m\x1f\n\x1f\nq"

theorem issues_normal_form_sample :
    Text.splitLines twoBlocks.toList = [['p'], [' ', 'm', '\x1f'], ['\x1f'], ['q']] ∧
      Together (split twoBlocks.toList) [] ['p'] [' ', 'm'] ∧
      ¬ Together (split twoBlocks.toList) [['p']] [' ', 'm'] ['q'] ∧
      split (render (split twoBlocks.toList)) = split twoBlocks.toList := by
  have hlines : Text.splitLines twoBlocks.toList = [['p'], [' ', 'm', '\x1f'], ['\x1f'], ['q']] := by decide
  obtain ⟨-, -, -, htogether, hsame⟩ := issues_normal_form twoBlocks "" (.int 0)
  rw [if_pos rfl] at htogether hsame
  refine ⟨hlines, ?_, ?_, hsame⟩
  · have hnone : ∀ b ∈ ([] : List (List Char)), Text.allBlank b = true := fun b hb => by cases hb
    exact (htogether [] ['p'] [] [' ', 'm', '\x1f'] [['\x1f'], ['q']] hlines rfl rfl hnone).2 rfl
  · have hblank : ∀ b ∈ [['\x1f']], Text.allBlank b = true := fun b hb => by rw [List.mem_singleton.1 hb]; rfl
    intro h
    exact absurd ((htogether [['p']] [' ', 'm', '\x1f'] [['\x1f']] ['q'] [] hlines rfl rfl hblank).1 h) (by simp)

end Issue
end DocReview
