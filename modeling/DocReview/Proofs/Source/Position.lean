import DocReview.Proofs.Source.Insert
import DocReview.Proofs.Text.Lines
/-!
# Position — where the words of a program stand

Reading counts the line feeds behind it, and the bytes since the last one (`Scan.Behind`).  So a keyword stands in the text
where its token says (`Reads.keyword`), and the `def` of a function where its statement says (`Accepted.exists_def`).
-/
namespace DocReview.Source

/-! ## Keywords -/

theorem Keyword.eq_of_kDef {w : List Char} (h : Keyword.ofText? w = some .kDef) : w = "def".toList := by
  obtain ⟨before, after, hmem, -⟩ := List.lookup_eq_some_iff.1 h
  have hmem : (w, Keyword.kDef) ∈ Keyword.spellings := by
    rw [hmem]
    simp
  simpa [Keyword.spellings] using hmem

theorem Keyword.ofText?_of_wordTok {w : List Char} {k : Keyword} (h : wordTok w = .keyword k) : Keyword.ofText? w = some k := by
  unfold wordTok at h
  split at h
  · rename_i hk
    cases h
    exact hk
  · cases h

theorem lexeme_keyword {cs rest : List Char} {k : Keyword} (h : lexeme cs = .ok (some (.keyword k), rest)) :
    ∃ w, Keyword.ofText? w = some k ∧ w <+: cs := by
  match cs, h with
  | c :: cs, h =>
    unfold lexeme at h
    dsimp only at h
    -- a string, a number and an operator are no keywords
    split at h
    · split at h <;> cases h
    · split at h
      · split at h
        · have hword : wordTok ((c :: cs).takeWhile mayContinueName) = .keyword k :=
            Option.some.inj (Prod.mk.inj (Except.ok.inj h)).1
          exact ⟨_, Keyword.ofText?_of_wordTok hword, List.takeWhile_prefix _⟩
        · cases h
      · split at h
        · split at h <;> cases h
        · split at h
          · split at h <;> cases h
          · split at h <;> cases h

/-! ## Places -/

namespace Scan

theorem colAfter_append (col : Nat) (pre post : List Char) : colAfter col (pre ++ post) = colAfter (colAfter col pre) post :=
  List.foldl_append

/-- Reading stands behind the first characters of a text, in the line and the column that they lead to. -/
def Behind (T : List Char) (s : Scan) : Prop :=
  ∃ pre, T = pre ++ s.rest ∧ s.line = pre.count '\n' + 1 ∧ s.col = colAfter 0 pre

theorem behind_start (T : List Char) : Behind T { rest := T } := ⟨[], rfl, rfl, rfl⟩

theorem Behind.skip {T : List Char} {s : Scan} (h : s.Behind T) (n : Nat) : (s.skip n).Behind T := by
  obtain ⟨pre, hT, hline, hcol⟩ := h
  rw [skip_eq]
  refine ⟨pre ++ s.rest.take n, ?_, ?_, ?_⟩
  · rw [hT, List.append_assoc]
    exact congrArg (pre ++ ·) (List.take_append_drop n s.rest).symm
  · rw [List.count_append]
    change s.line + _ = _
    omega
  · rw [colAfter_append, ← hcol]
    rfl

theorem Behind.skipTo {T : List Char} {s : Scan} (h : s.Behind T) (rest : List Char) : (s.skipTo rest).Behind T := h.skip _

end Scan

namespace Stepped

variable {s s' : Scan} {ts : List Token}

theorem behind {T : List Char} (h : Stepped s ts s') (hs : s.Behind T) : s'.Behind T := by
  cases h with
  | bare => exact hs.skipTo _
  | inside => exact hs.skipTo _
  | indented => exact hs.skipTo _
  | blank => exact hs.skipTo _
  | comment => exact hs.skipTo _
  | lineEnd => exact hs.skipTo _
  | newline => exact hs.skipTo _
  | word _ _ _ _ hw =>
    cases hw.symm.trans (word_eq_more hw s rfl _)
    exact hs.skipTo _

theorem keyword (h : Stepped s ts s') {t : Token} (ht : t ∈ ts) {k : Keyword} (hk : t.tok = .keyword k) :
    t.line = s.line ∧ t.col = s.col ∧ ∃ w, Keyword.ofText? w = some k ∧ w <+: s.rest := by
  cases h with
  | bare | inside | blank | comment | lineEnd => cases ht
  | indented hs hi hb ho hr =>
    obtain ⟨u, hu, rfl⟩ := List.mem_map.1 ht
    rcases mem_reindent hr hu with rfl | rfl
    · cases hk
    · cases hk
  | newline =>
    rw [List.mem_singleton.1 ht] at hk
    cases hk
  | @word c cs rest o ts s' hs hr hc hlex hw =>
    cases hw.symm.trans (word_eq_more hw s rfl rest)
    obtain ⟨u, hu, rfl⟩ := Option.map_eq_some_iff.1 (Option.mem_toList.1 ht)
    have htok : u = .keyword k := hk
    rw [hu, htok] at hlex
    exact ⟨rfl, rfl, lexeme_keyword hlex⟩

end Stepped

/-- **A keyword stands where its token says**, whatever was read before. -/
theorem Reads.keyword {T : List Char} {s : Scan} {ts : List Token} (h : Reads s ts) (hs : s.Behind T) {t : Token}
    (ht : t ∈ ts) {k : Keyword} (hk : t.tok = .keyword k) : ∃ pre w post, T = pre ++ (w ++ post) ∧
      Keyword.ofText? w = some k ∧ t.line = pre.count '\n' + 1 ∧ t.col = Scan.colAfter 0 pre := by
  induction h with
  | done h =>
    obtain ⟨u, hu, rfl, -⟩ := readStep_done h ⟨rfl, rfl, rfl, rfl⟩ rfl
    have hlast : u = .keyword k := by
      rw [List.mem_singleton.1 ht] at hk
      exact hk
    rcases hu with rfl | ⟨f, rfl⟩
    · cases hlast
    · cases hlast
  | step h _ ih =>
    rcases List.mem_append.1 ht with ht | ht
    · obtain ⟨pre, hT, hline, hcol⟩ := hs
      obtain ⟨htline, htcol, w, hw, post, hpost⟩ := h.keyword ht hk
      exact ⟨pre, w, post, by rw [hpost, hT], hw, htline.trans hline, htcol.trans hcol⟩
    · exact ih (h.behind hs) ht

/-- **The `def` of a function stands where its statement says.** -/
theorem Accepted.exists_def {T : List Char} {before inner after : List Stmt} {span : Span} {name : String} {params : Params}
    {decorators : List Expr} {returns : Option Expr}
    (h : Accepted T (before ++ .funcDef false span name params inner decorators returns :: after)) :
    ∃ pre post, T = pre ++ ("def".toList ++ post) ∧ span.line = pre.count '\n' + 1 ∧ span.col = Scan.colAfter 0 pre := by
  have hweight : weight (tokens T) < T.length + 2 := by
    have := weight_tokens_le T
    omega
  obtain ⟨S⟩ := Statements.exists_site h hweight
  obtain ⟨hstart, hdefine⟩ := S.readUpTo hweight
  obtain ⟨t, R, hR, ht, hline, hcol⟩ := S.exists_token
  have hmem : t ∈ tokens T := (hdefine.suffix.trans hstart.suffix).subset (hR ▸ List.mem_cons_self)
  obtain ⟨pre, w, post, hT, hw, hline', hcol'⟩ := (reads_tokens T).keyword (Scan.behind_start T) hmem ht
  rw [Keyword.eq_of_kDef hw] at hT
  exact ⟨pre, post, hT, hline.symm.trans hline', hcol.symm.trans hcol'⟩

/-! ## Lines and columns of a text -/

/-- The number of bytes of a text. -/
def byteCount (cs : List Char) : Nat := (cs.map Char.utf8Size).sum

theorem colAfter_of_not_mem : ∀ {cs : List Char}, '\n' ∉ cs → ∀ col, Scan.colAfter col cs = col + byteCount cs
  | [], _, _ => rfl
  | c :: cs, h, col => by
    have hc : c ≠ '\n' := fun hc => h (hc ▸ List.mem_cons_self)
    have hcs := colAfter_of_not_mem (fun hmem => h (List.mem_cons_of_mem c hmem)) (col + c.utf8Size)
    unfold Scan.colAfter at hcs ⊢
    rw [List.foldl_cons, if_neg hc, hcs]
    unfold byteCount
    rw [List.map_cons, List.sum_cons, Nat.add_assoc]

theorem colAfter_unlines (col : Nat) : ∀ {ls : List (List Char)}, ls ≠ [] → Scan.colAfter col (Text.unlines ls) = 0
  | [l], _ => by
    rw [Text.unlines_cons, Scan.colAfter_append]
    rfl
  | l :: m :: ls, _ => by
    rw [Text.unlines_cons, Scan.colAfter_append]
    exact colAfter_unlines _ (List.cons_ne_nil m ls)

theorem colAfter_line (ls : List (List Char)) {before : List Char} (h : '\n' ∉ before) :
    Scan.colAfter 0 (Text.unlines ls ++ before) = byteCount before := by
  have hstart : Scan.colAfter 0 (Text.unlines ls) = 0 := by
    by_cases hls : ls = []
    · rw [hls]
      rfl
    · exact colAfter_unlines 0 hls
  rw [Scan.colAfter_append, hstart, colAfter_of_not_mem h, Nat.zero_add]

end DocReview.Source
