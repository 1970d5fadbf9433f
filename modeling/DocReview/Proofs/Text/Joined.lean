import DocReview.Proofs.Disk
import DocReview.Proofs.Text.Lines
/-!
# Joined — lines that are joined and cut again

Lines that are joined by line feeds and cut again are the same lines, but for an empty last one (`splitLines_joinWith`).
The other way round, the lines of a text give back the text exactly if nothing but line feeds ends a line in it, and the
last line has no end (`joinWith_splitLines_iff`).
-/
namespace DocReview.Text

/-! ## The ends of lines -/

/-- What ends a line other than a line feed. -/
def separators : List Char := ['\r', '\x0b', '\x0c', '\x1c', '\x1d', '\x1e', '\u0085', '\u2028', '\u2029']

theorem isLineEnd_iff {c : Char} : isLineEnd c = true ↔ c = '\n' ∨ c ∈ separators := by
  constructor
  · intro h
    have hcode : c.toNat ∈ [10, 13, 11, 12, 28, 29, 30, 0x85, 0x2028, 0x2029] := by
      unfold isLineEnd at h
      simp only [Bool.or_eq_true, Bool.and_eq_true, decide_eq_true_eq] at h
      simp only [List.mem_cons, List.not_mem_nil, or_false]
      omega
    have hchar := List.mem_map_of_mem (f := Char.ofNat) hcode
    rw [Char.ofNat_toNat] at hchar
    exact List.mem_cons.1 hchar
  · intro h
    have hall : ('\n' :: separators).all isLineEnd = true := by decide
    exact List.all_eq_true.1 hall c (List.mem_cons.2 h)

/-! ## Lines joined, then cut -/

/-- Lines as they are read back once they were joined: an empty last one is lost. -/
def reread (ls : List (List Char)) : List (List Char) := if ls.getLast? = some [] then ls.dropLast else ls

theorem reread_concat (ls : List (List Char)) (l : List Char) : reread (ls ++ [l]) = if l = [] then ls else ls ++ [l] := by
  simp [reread]

theorem reread_append (ls : List (List Char)) {ms : List (List Char)} (h : ms ≠ []) : reread (ls ++ ms) = ls ++ reread ms := by
  obtain ⟨ms, m, rfl⟩ := (List.eq_nil_or_concat' ms).resolve_left h
  rw [← List.append_assoc, reread_concat, reread_concat]
  split
  · rfl
  · exact List.append_assoc _ _ _

theorem splitLinesFrom_plain (rest : List Char) : ∀ {l : List Char}, (∀ c ∈ l, isLineEnd c = false) → ∀ cur,
    splitLinesFrom cur (l ++ rest) = splitLinesFrom (l.reverse ++ cur) rest
  | [], _, _ => rfl
  | c :: l, h, cur => by
    have hc : isLineEnd c = false := h c List.mem_cons_self
    have hreturn : ∀ ds, c = '\r' → l ++ rest = '\n' :: ds → False := by
      rintro ds rfl
      cases hc
    rw [List.cons_append, splitLinesFrom_cons hreturn, if_neg (Bool.eq_false_iff.1 hc),
      splitLinesFrom_plain rest fun d hd => h d (List.mem_cons_of_mem _ hd)]
    simp

theorem splitLines_plain {l : List Char} (h : ∀ c ∈ l, isLineEnd c = false) :
    splitLines l = if l = [] then [] else [l] := by
  have hl := splitLinesFrom_plain [] h []
  rw [List.append_nil, List.append_nil] at hl
  rw [splitLines, hl, splitLinesFrom]
  simp

theorem splitLines_unlines_append (rest : List Char) : ∀ {ls : List (List Char)},
    (∀ l ∈ ls, ∀ c ∈ l, isLineEnd c = false) → splitLines (unlines ls ++ rest) = ls ++ splitLines rest
  | [], _ => rfl
  | l :: ls, h => by
    have hl := splitLinesFrom_plain ['\n'] (h l List.mem_cons_self) []
    have hrest := splitLines_unlines_append rest fun m hm => h m (List.mem_cons_of_mem _ hm)
    have hline : splitLinesFrom [] (l ++ ['\n']) = [l] := by
      rw [hl, List.append_nil]
      exact congrArg (fun x => [x]) l.reverse_reverse
    rw [unlines_cons, List.append_assoc, List.cons_append, splitLines, splitLinesFrom_append, hline, hrest]
    rfl

/-- **Lines that are joined and cut again are the same lines**, but for an empty last one. -/
theorem splitLines_joinWith {ls : List (List Char)} (h : ∀ l ∈ ls, ∀ c ∈ l, isLineEnd c = false) :
    splitLines (joinWith ['\n'] ls) = reread ls := by
  rcases List.eq_nil_or_concat' ls with rfl | ⟨ls, l, rfl⟩
  · rfl
  · have hls : ∀ m ∈ ls, ∀ c ∈ m, isLineEnd c = false := fun m hm => h m (List.mem_append_left _ hm)
    rw [joinWith_concat, splitLines_unlines_append l hls, splitLines_plain (h l (by simp)), reread_concat]
    split
    · exact List.append_nil ls
    · rfl

theorem return_not_mem_joinWith {ls : List (List Char)} (h : ∀ l ∈ ls, ∀ c ∈ l, isLineEnd c = false) :
    '\r' ∉ joinWith ['\n'] ls := by
  intro hmem
  rcases mem_of_mem_joinWith hmem with hc | ⟨l, hl, hc⟩
  · cases List.mem_singleton.1 hc
  · cases h l hl _ hc

/-! ## A text cut into lines, then joined -/

theorem plain_splitLines {cs : List Char} : ∀ l ∈ splitLines cs, ∀ c ∈ l, isLineEnd c = false :=
  fun _ hl _ hc => (mem_splitLines hl hc).2

/-- A line feed at the end would be there for an empty last line, and that line is not read back. -/
theorem getLast?_ne_of_joinWith {cs : List Char} (h : joinWith ['\n'] (splitLines cs) = cs) : cs.getLast? ≠ some '\n' := by
  intro hlast
  have hreread : splitLines (joinWith ['\n'] (splitLines cs)) = _ := splitLines_joinWith plain_splitLines
  rw [h] at hreread
  rcases List.eq_nil_or_concat' (splitLines cs) with hnil | ⟨ls, l, hls⟩
  · rw [hnil] at h
    rw [← h] at hlast
    cases hlast
  · rw [hls] at h hreread
    rw [joinWith_concat] at h
    rw [reread_concat] at hreread
    by_cases hl : l = []
    · rw [if_pos hl] at hreread
      exact absurd (congrArg List.length hreread) (by simp)
    · rw [← h, List.getLast?_append_of_ne_nil _ hl] at hlast
      have hmem : l ∈ splitLines cs := by
        rw [hls]
        simp
      exact newline_not_mem_splitLines hmem (List.mem_of_getLast? hlast)

/-- Lines that line feeds alone end, with none behind the last, make up the text with one more at its end. -/
theorem unlines_splitLines {cs : List Char} (hsep : ∀ c ∈ separators, c ∉ cs) (hlast : cs.getLast? ≠ some '\n')
    (hcs : cs ≠ []) : unlines (splitLines cs) = cs ++ ['\n'] := by
  have hends : PlainEnds cs := fun c hc hend =>
    .inl ((isLineEnd_iff.1 hend).resolve_right fun hmem => hsep c hmem hc)
  have hfold : foldNewlines cs = cs := foldNewlines_of_not_mem (hsep '\r' (by decide))
  rw [← programText_eq hends hcs, programText_eq_ended, hfold, ended, if_neg hlast]

/-- **The lines of a text give it back exactly if line feeds alone end its lines, and none ends the last.** -/
theorem joinWith_splitLines_iff {cs : List Char} : joinWith ['\n'] (splitLines cs) = cs ↔
    (∀ c ∈ separators, c ∉ cs) ∧ cs.getLast? ≠ some '\n' := by
  constructor
  · intro h
    refine ⟨fun c hc hmem => ?_, getLast?_ne_of_joinWith h⟩
    have hend : isLineEnd c = true := isLineEnd_iff.2 (.inr hc)
    rw [← h] at hmem
    rcases mem_of_mem_joinWith hmem with hline | ⟨l, hl, hcl⟩
    · rw [List.mem_singleton.1 hline] at hc
      exact absurd hc (by decide)
    · rw [plain_splitLines l hl c hcl] at hend
      cases hend
  · rintro ⟨hsep, hlast⟩
    by_cases hcs : cs = []
    · subst hcs
      rfl
    · have hunlines := unlines_splitLines hsep hlast hcs
      rcases List.eq_nil_or_concat' (splitLines cs) with hnil | ⟨ls, l, hls⟩
      · rw [hnil] at hunlines
        exact absurd hunlines (by simp)
      · rw [hls, unlines_append] at hunlines
        rw [hls, joinWith_concat]
        have hended : unlines ls ++ l ++ ['\n'] = cs ++ ['\n'] := by
          rw [← hunlines]
          simp
        exact List.append_cancel_right hended

theorem joinWith_splitLines_foldNewlines_iff {cs : List Char} : joinWith ['\n'] (splitLines (foldNewlines cs)) = cs ↔
    (∀ c ∈ separators, c ∉ cs) ∧ cs.getLast? ≠ some '\n' := by
  by_cases hreturn : '\r' ∈ cs
  · have hnot : '\r' ∉ joinWith ['\n'] (splitLines (foldNewlines cs)) :=
      return_not_mem_joinWith plain_splitLines
    refine iff_of_false (fun h => ?_) fun h => h.1 '\r' (by decide) hreturn
    rw [h] at hnot
    exact hnot hreturn
  · rw [foldNewlines_of_not_mem hreturn]
    exact joinWith_splitLines_iff

/-! ## Two ways to count lines -/

theorem splitOn_unlines_append (rest : List Char) : ∀ {ls : List (List Char)}, (∀ l ∈ ls, '\n' ∉ l) →
    splitOn '\n' (unlines ls ++ rest) = ls ++ splitOn '\n' rest
  | [], _ => rfl
  | l :: ls, h => by
    have hls := splitOn_unlines_append rest fun m hm => h m (List.mem_cons_of_mem l hm)
    rw [unlines_cons, List.append_assoc, List.cons_append, splitOn_append_sep,
      splitOn_of_not_mem '\n' l (h l List.mem_cons_self), hls]
    rfl

/-- A word in a text with a line feed after its last line is in the text, unless it ends with that line feed. -/
theorem exists_of_ended {text pre w post : List Char} (h : ended text = pre ++ (w ++ post)) (hw : w ≠ [])
    (hline : '\n' ∉ w) : ∃ post', text = pre ++ (w ++ post') := by
  unfold ended at h
  split at h
  · exact ⟨post, h⟩
  · rcases List.eq_nil_or_concat' post with rfl | ⟨post, c, rfl⟩
    · have hlast := congrArg List.getLast? h
      rw [List.append_nil, List.getLast?_concat, List.getLast?_append_of_ne_nil _ hw] at hlast
      exact absurd (List.mem_of_getLast? hlast.symm) hline
    · rw [← List.append_assoc, ← List.append_assoc] at h
      refine ⟨post, ?_⟩
      rw [← List.append_assoc]
      exact (List.append_inj' h rfl).1

/-- **The line that a word stands on**, and the lines before it. -/
theorem exists_line (pre post : List Char) {w : List Char} (hw : '\n' ∉ w) : ∃ ls before after rest,
    splitOn '\n' (pre ++ (w ++ post)) = (ls ++ [before ++ w ++ after]) ++ rest ∧ pre = unlines ls ++ before ∧
      '\n' ∉ before ∧ ls.length = pre.count '\n' := by
  obtain ⟨ls, before, hpieces⟩ := (List.eq_nil_or_concat' (splitOn '\n' pre)).resolve_left (splitOn_ne_nil '\n' pre)
  obtain ⟨after, rest, hpost⟩ := List.exists_cons_of_ne_nil (splitOn_ne_nil '\n' post)
  have hplain : ∀ l ∈ ls ++ [before], '\n' ∉ l := fun l hl => not_mem_of_splitOn (hpieces ▸ hl)
  have hls : ∀ l ∈ ls, '\n' ∉ l := fun l hl => hplain l (List.mem_append_left _ hl)
  have hbefore : '\n' ∉ before := hplain before (by simp)
  have hpre : pre = unlines ls ++ before := by rw [← joinWith_concat, ← hpieces, joinWith_splitOn]
  have hword : '\n' ∉ before ++ w := fun h => (List.mem_append.1 h).elim hbefore hw
  refine ⟨ls, before, after, rest, ?_, hpre, hbefore, ?_⟩
  · rw [hpre, List.append_assoc, splitOn_unlines_append _ hls, ← List.append_assoc before,
      splitOn_append_of_not_mem '\n' hpost hword, List.append_assoc ls]
    rfl
  · rw [hpre, List.count_append, count_unlines hls, List.count_eq_zero.2 hbefore, Nat.add_zero]

/-- **The first lines of a text are those between its line feeds exactly if there is no other line end in them.**  A text
that ends with a line feed has an empty line between its line feeds that is none of its lines. -/
theorem take_splitLines_iff {text : List Char} {ls ms : List (List Char)} (hcut : splitOn '\n' text = ls ++ ms)
    (hlast : ls.getLast? ≠ some []) :
    (splitLines text).take ls.length = ls ↔ ∀ l ∈ ls, ∀ c ∈ separators, c ∉ l := by
  constructor
  · intro h l hl c hc hmem
    rw [← h] at hl
    have hend : isLineEnd c = true := isLineEnd_iff.2 (.inr hc)
    rw [(mem_splitLines (List.mem_of_mem_take hl) hmem).2] at hend
    cases hend
  · intro h
    have hplain : ∀ l ∈ ls, ∀ c ∈ l, isLineEnd c = false := by
      intro l hl c hc
      refine Bool.eq_false_iff.2 fun hend => ?_
      rcases isLineEnd_iff.1 hend with rfl | hsep
      · exact not_mem_of_splitOn (hcut ▸ List.mem_append_left ms hl) hc
      · exact h l hl c hsep hc
    have htext : text = joinWith ['\n'] (ls ++ ms) := by rw [← hcut, joinWith_splitOn]
    by_cases hms : ms = []
    · rw [hms, List.append_nil] at htext
      rw [htext, splitLines_joinWith hplain, reread, if_neg hlast, List.take_length]
    · rw [htext, joinWith_append hms, splitLines_unlines_append _ hplain, List.take_left]

/-! ## Lines taken out of a text -/

/-- A text without `count` of its lines, those behind the first `n`. -/
def deleteLines (n count : Nat) (text : List Char) : List Char :=
  let lines := splitOn '\n' text
  joinWith ['\n'] (lines.take n ++ lines.drop (n + count))

theorem deleteLines_joinWith {ls block ms : List (List Char)} (h : ∀ l ∈ ls ++ block ++ ms, '\n' ∉ l) :
    deleteLines ls.length block.length (joinWith ['\n'] (ls ++ block ++ ms)) = joinWith ['\n'] (ls ++ ms) := by
  unfold deleteLines
  by_cases hnil : ls ++ block ++ ms = []
  · obtain ⟨hls, hms⟩ := List.append_eq_nil_iff.1 hnil
    obtain ⟨rfl, rfl⟩ := List.append_eq_nil_iff.1 hls
    subst hms
    rfl
  · have htake : (ls ++ block ++ ms).take ls.length = ls := by simp
    have hdrop : (ls ++ block ++ ms).drop (ls.length + block.length) = ms := by
      rw [← List.length_append, List.drop_left]
    rw [splitOn_joinWith '\n' _ hnil h]
    dsimp only
    rw [htake, hdrop]

end DocReview.Text
