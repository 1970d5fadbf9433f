import DocReview.Proofs.Source.Columns
/-!
# Trailing — an empty line at the end of a text

A text whose last line is empty is read as if that line were not there (`Reads.dropEmpty`), and its first word stands in
the same columns (`columns?_dropEmpty`).  This does not hold if a backslash stands before the empty line.
-/
namespace DocReview.Source

/-! ## Finished texts -/

/-- The text ends with a line that does not go on behind a backslash. -/
structure Finished (cs : List Char) : Prop where
  newline : cs.getLast? = some '\n'
  plain : ¬ ['\\', '\n'] <:+ cs

namespace Finished

variable {cs : List Char} (h : Finished cs)

include h

theorem ne_nil : cs ≠ [] := fun hnil => by
  have := h.newline
  rw [hnil] at this
  cases this

theorem sameLine : SameLine (cs ++ ['\n']) cs := by
  obtain ⟨pre, rfl⟩ := List.getLast?_eq_some_iff.1 h.newline
  rw [List.append_assoc]
  exact (SameLine.ended ['\n'] []).append pre

omit h in
theorem of_append {pre : List Char} (h : Finished (pre ++ cs)) (hne : cs ≠ []) : Finished cs where
  newline := by
    rw [← h.newline, List.getLast?_append_of_ne_nil _ hne]
  plain hs := h.plain (hs.trans (List.suffix_append _ _))

theorem split {pre rest : List Char} (hpre : StaysInLine pre) (heq : cs ++ ['\n'] = pre ++ rest) :
    ∃ as, cs = pre ++ as ∧ rest = as ++ ['\n'] ∧ as ≠ [] := by
  have hne : cs ≠ pre := fun he => h.plain (he ▸ hpre (he ▸ h.newline))
  rcases List.append_eq_append_iff.1 heq with ⟨as, hcs, has⟩ | ⟨as, rfl, has⟩
  · cases as with
    | nil => exact absurd (by rw [hcs, List.append_nil]) hne
    | cons c as =>
      -- the last line would go on behind a backslash
      obtain ⟨rfl, hnil⟩ := List.cons.inj has
      obtain ⟨rfl, -⟩ := List.append_eq_nil_iff.1 hnil.symm
      obtain ⟨front, hfront⟩ := hpre (by rw [hcs, List.getLast?_concat])
      rw [hcs] at hfront
      have hback : cs = front ++ ['\\'] := by
        rw [show ['\\', '\n'] = ['\\'] ++ ['\n'] from rfl, ← List.append_assoc] at hfront
        exact (List.append_cancel_right hfront).symm
      have := h.newline
      rw [hback, List.getLast?_concat] at this
      cases this
  · refine ⟨as, rfl, has, fun hnil => hne (by rw [hnil, List.append_nil])⟩

end Finished

/-! ## Steps to the end of a line -/

def Scan.nextLine (s : Scan) (cs : List Char) : Scan := { s.skipTo cs with lineStart := true }

theorem Scan.nextLine_rest {s : Scan} {cs : List Char} (hr : s.rest = '\n' :: cs) : (s.nextLine cs).rest = cs :=
  Scan.skipTo_rest (show _ = ['\n'] ++ cs from hr)

theorem Scan.Like.nextLine {s s₂ : Scan} (hl : s.Like s₂) (cs cs₂ : List Char) : (s.nextLine cs).Like (s₂.nextLine cs₂) where
  indents := (s₂.skipTo_indents cs₂).trans (hl.indents.trans (s.skipTo_indents cs).symm)
  opens := (s₂.skipTo_opens cs₂).trans (hl.opens.trans (s.skipTo_opens cs).symm)
  lineStart := rfl
  blank := (s₂.skipTo_blank cs₂).trans (hl.blank.trans (s.skipTo_blank cs).symm)

def Scan.lineEnd (s : Scan) : List Token := if s.blank || !s.opens.isEmpty then [] else [s.at .newline]

theorem stepped_lineEnd {s : Scan} {cs : List Char} (hs : s.lineStart = false) (hr : s.rest = '\n' :: cs) :
    Stepped s s.lineEnd (s.nextLine cs) := by
  unfold Scan.lineEnd
  by_cases hb : (s.blank || !s.opens.isEmpty) = true
  · rw [if_pos hb]
    exact .lineEnd hs hr hb
  · rw [if_neg hb]
    exact .newline hs hr (Bool.eq_false_iff.2 hb)

theorem newline_not_mem_takeWhile {cs : List Char} : '\n' ∉ cs.takeWhile (· ≠ '\n') := fun h => by
  have := List.all_eq_true.1 List.all_takeWhile '\n' h
  exact absurd this (by decide)

/-- **A step stays in a line, or is one over the end of a line.** -/
theorem Stepped.staysInLine_or {s s' : Scan} {ts : List Token} (h : Stepped s ts s') :
    (∃ pre, s.rest = pre ++ s'.rest ∧ StaysInLine pre) ∨ s.lineStart = false ∧ ∃ cs, s.rest = '\n' :: cs ∧
      ts = s.lineEnd ∧ s' = s.nextLine cs := by
  have hopened : ∀ {col alt cont : Nat} {rest : List Char} (b : Bool),
      indentation 0 0 0 s.rest = .ok (col, alt, cont, rest) →
        ∃ pre, s.rest = pre ++ (s.opened rest b).rest ∧ StaysInLine pre := by
    intro col alt cont rest b hi
    obtain ⟨pre, hpre, hstay, -⟩ := indentation_cut hi
    exact ⟨pre, by rw [opened_rest rfl hi, hpre], hstay⟩
  have hbreak : ∀ {us : List Token} {t : Scan} {cs : List Char}, Stepped s us t → s.lineStart = false →
      s.rest = '\n' :: cs → us = s.lineEnd ∧ t = s.nextLine cs := fun hstep hs hr =>
    hstep.unique (stepped_lineEnd hs hr)
  cases h with
  | bare _ hi => exact .inl (hopened true hi)
  | inside _ hi => exact .inl (hopened false hi)
  | indented _ hi => exact .inl (hopened false hi)
  | @blank c cs hs hr hc =>
    have hcs : s.rest = [c] ++ cs := hr
    refine .inl ⟨[c], by rw [Scan.skipTo_rest hcs]; exact hcs, .of_not_mem fun hmem => ?_⟩
    rw [← List.mem_singleton.1 hmem] at hc
    exact absurd hc (by decide)
  | @comment cs hs hr =>
    have hcs : s.rest = ('#' :: cs.takeWhile (· ≠ '\n')) ++ cs.drop (cs.takeWhile (· ≠ '\n')).length := by
      rw [hr, drop_takeWhile, List.cons_append, List.takeWhile_append_dropWhile]
    refine .inl ⟨_, by rw [Scan.skipTo_rest hcs]; exact hcs, .of_not_mem fun hmem => ?_⟩
    rcases List.mem_cons.1 hmem with h | h
    · exact absurd h (by decide)
    · exact newline_not_mem_takeWhile h
  | lineEnd hs hr hb => exact .inr ⟨hs, _, hr, hbreak (.lineEnd hs hr hb) hs hr⟩
  | newline hs hr hb => exact .inr ⟨hs, _, hr, hbreak (.newline hs hr hb) hs hr⟩
  | @word c cs rest o ts s' hs hr hc hl hw =>
    obtain ⟨pre, hcuts⟩ := lexeme_cut hl
    cases hw.symm.trans (word_eq_more hw s rfl rest)
    exact .inl ⟨pre, hcuts.eq.trans (congrArg (pre ++ ·) (Scan.skipTo_rest hcuts.eq).symm), hcuts.staysInLine⟩

/-! ## What is read without the empty line -/

/-- At the start of a line it does not count whether the last one had a token. -/
theorem readStep_blank {s : Scan} (hs : s.lineStart = true) (b : Bool) : readStep { s with blank := b } = readStep s := by
  have hskip : ∀ rest, ({ s with blank := b } : Scan).skipTo rest = { s.skipTo rest with blank := b } := fun rest => by
    unfold Scan.skipTo
    rw [Scan.skip_eq, Scan.skip_eq]
    rfl
  rw [readStep_start hs, readStep_start (s := { s with blank := b }) hs, startLine_eq, startLine_eq]
  unfold Scan.opened
  simp only [hskip]
  rfl

theorem Reads.of_blank {s : Scan} {b : Bool} {V : List Token} (hs : s.lineStart = true)
    (h : Reads { s with blank := b } V) : Reads s V := by
  cases h with
  | done hd => exact .done ((readStep_blank hs b).symm.trans hd)
  | step hstep hr => exact .step (stepped_of_readStep ((readStep_blank hs b).symm.trans hstep.readStep_eq)) hr

theorem Reads.of_lineStart {s s₂ : Scan} {V : List Token} (h : Reads s V) (hs : s.lineStart = true)
    (hs₂ : s₂.lineStart = true) (hi : s₂.indents = s.indents) (ho : s₂.opens = s.opens) (hr : s₂.rest = s.rest) :
    ∃ V₂, Reads s₂ V₂ ∧ V₂.map Token.tok = V.map Token.tok := by
  have hlike : s.Like { s₂ with blank := s.blank } := ⟨hi, ho, hs₂.trans hs.symm, rfl⟩
  obtain ⟨V₂, hV₂, htoks⟩ := h.follow hlike hr
  exact ⟨V₂, hV₂.of_blank hs₂, htoks⟩

theorem rest_of_readStep_finish {s : Scan} {t : Token} (h : readStep s = .done [t]) (ht : t.tok = .finish) : s.rest = [] := by
  cases hs : s.lineStart with
  | true =>
    rw [readStep_start hs] at h
    cases hst : startLine s with
    | ok x =>
      rw [hst] at h
      cases h
    | error f =>
      rw [hst] at h
      cases h
      cases ht
  | false =>
    cases hr : s.rest with
    | nil => rfl
    | cons c cs =>
      rw [readStep_cons hs hr] at h
      split at h
      · cases h
      · split at h
        · cases h
        · split at h
          · split at h <;> cases h
          · split at h
            · obtain ⟨hts, -⟩ := word_done h s rfl
              cases hts
              cases ht
            · cases h
              cases ht

theorem runs_empty {s : Scan} {cs : List Char} (hs : s.lineStart = true) (hr : s.rest = '\n' :: cs) : ∃ s', Runs s [] s' ∧
    s'.lineStart = true ∧ s'.indents = s.indents ∧ s'.opens = s.opens ∧ s'.rest = cs := by
  have hi : indentation 0 0 0 ('\n' :: cs) = .ok (0, 0, 0, '\n' :: cs) :=
    indentation_word 0 0 0 (by decide) (by decide) (by decide) (by decide) cs
  have hbare : Stepped s [] (s.opened ('\n' :: cs) true) := .bare hs (by rw [hr, hi]) rfl
  have hrest : (s.opened ('\n' :: cs) true).rest = '\n' :: cs := opened_rest hr hi true
  have hend : Stepped (s.opened ('\n' :: cs) true) [] ((s.opened ('\n' :: cs) true).nextLine cs) := .lineEnd rfl hrest rfl
  refine ⟨_, .step hbare (.single hend), rfl, ?_, ?_, ?_⟩
  · exact (Scan.skipTo_indents _ _).trans (Scan.skipTo_indents _ _)
  · exact (Scan.skipTo_opens _ _).trans (Scan.skipTo_opens _ _)
  · exact Scan.nextLine_rest hrest

/-- **An empty line at the end of a text that is read without a fault gives no token.** -/
theorem Reads.dropEmpty {s s₂ : Scan} {V : List Token} {cs : List Char} (h : Reads s V)
    (hV : ∀ t ∈ V, ∀ f, t.tok ≠ .fault f) (hcs : Finished cs) (hs : s.rest = cs ++ ['\n']) (hl : s.Like s₂)
    (hr : s₂.rest = cs) : ∃ V₂, Reads s₂ V₂ ∧ V₂.map Token.tok = V.map Token.tok := by
  induction h generalizing cs s₂ with
  | @done s ts hd =>
    obtain ⟨t, ht, rfl, -⟩ := readStep_done hd ⟨rfl, rfl, rfl, rfl⟩ rfl
    rcases ht with rfl | ⟨f, rfl⟩
    · have hnil := rest_of_readStep_finish hd rfl
      rw [hs] at hnil
      exact absurd (List.append_eq_nil_iff.1 hnil).1 hcs.ne_nil
    · exact absurd rfl (hV _ (List.mem_singleton_self _) f)
  | @step s s' ts us h hreads ih =>
    have hus : ∀ t ∈ us, ∀ f, t.tok ≠ .fault f := fun t ht => hV t (List.mem_append_right _ ht)
    rcases h.staysInLine_or with ⟨pre, hpre, hstay⟩ | ⟨hstart, cs', hcs', rfl, rfl⟩
    · obtain ⟨as, rfl, has, hne⟩ := hcs.split hstay (hs.symm.trans hpre)
      obtain ⟨pre', hadv, -⟩ := h.strides
      obtain rfl : pre' = pre := List.append_cancel_right (hadv.eq.symm.trans hpre)
      have hfin := hcs.of_append hne
      obtain ⟨ts₂, s₂', hstep, htok, hl', hr'⟩ := hadv.follow hl hr (.inr (has ▸ hfin.sameLine))
      obtain ⟨us₂, hus₂, htok'⟩ := ih hus hfin has hl' hr'
      exact ⟨ts₂ ++ us₂, .step hstep hus₂, by rw [List.map_append, List.map_append, htok, htok']⟩
    · -- over the end of a line, which may be the last one before the empty line
      obtain ⟨c, cs, rfl⟩ := List.exists_cons_of_ne_nil hcs.ne_nil
      rw [hs, List.cons_append] at hcs'
      obtain ⟨rfl, rfl⟩ := List.cons.inj hcs'
      have hstep₂ := stepped_lineEnd (hl.lineStart.trans hstart) hr
      have htok : s₂.lineEnd.map Token.tok = s.lineEnd.map Token.tok := by
        unfold Scan.lineEnd
        rw [hl.blank, hl.opens]
        split <;> rfl
      have hlike := hl.nextLine (cs ++ ['\n']) cs
      have hrest : (s.nextLine (cs ++ ['\n'])).rest = cs ++ ['\n'] := Scan.nextLine_rest hs
      have hrest₂ : (s₂.nextLine cs).rest = cs := Scan.nextLine_rest hr
      by_cases hnil : cs = []
      · subst hnil
        obtain ⟨s'', hruns, hstart', hindents, hopens, hrest'⟩ := runs_empty rfl hrest
        obtain ⟨vs, rfl, hvs⟩ := hreads.after hruns
        obtain ⟨vs₂, hvs₂, htok'⟩ := hvs.of_lineStart hstart' rfl (hlike.indents.trans hindents.symm)
          (hlike.opens.trans hopens.symm) (hrest₂.trans hrest'.symm)
        exact ⟨s₂.lineEnd ++ vs₂, .step hstep₂ hvs₂, by rw [List.map_append, List.map_append, htok, htok']⟩
      · have hfin : Finished cs := (show Finished (['\n'] ++ cs) from hcs).of_append hnil
        obtain ⟨us₂, hus₂, htok'⟩ := ih hus hfin hrest hlike hrest₂
        exact ⟨s₂.lineEnd ++ us₂, .step hstep₂ hus₂, by rw [List.map_append, List.map_append, htok, htok']⟩

theorem Scan.Starts.dropEmpty {s s₂ : Scan} {indents : List (Nat × Nat)} {cs : List Char} {V V₂ : List Token}
    (hs : s.Starts indents (cs ++ ['\n'])) (hs₂ : s₂.Starts indents cs) (hcs : Finished cs) (h : Reads s V)
    (hV : ∀ t ∈ V, ∀ f, t.tok ≠ .fault f) (h₂ : Reads s₂ V₂) : V₂.map Token.tok = V.map Token.tok := by
  have hlike : s.Like { s₂ with blank := s.blank } :=
    ⟨hs₂.indents.trans hs.indents.symm, hs₂.opens.trans hs.opens.symm, hs₂.lineStart.trans hs.lineStart.symm, rfl⟩
  obtain ⟨V₃, hV₃, htoks⟩ := h.dropEmpty hV hcs hs.rest hlike hs₂.rest
  rw [h₂.unique (hV₃.of_blank hs₂.lineStart), htoks]

/-! ## Where the first word stands -/

theorem Finished.dropWhile {cs rest : List Char} (h : Finished cs) {c : Char}
    (hr : (cs ++ ['\n']).dropWhile (· ≠ '\n') = c :: rest) : ∃ cs', cs.dropWhile (· ≠ '\n') = c :: cs' ∧
      rest = cs' ++ ['\n'] ∧ (cs' = [] ∨ Finished cs') := by
  cases hdrop : cs.dropWhile (· ≠ '\n') with
  | nil =>
    have htake : cs.takeWhile (· ≠ '\n') = cs := by
      have := List.takeWhile_append_dropWhile (p := fun c => decide (c ≠ '\n')) (l := cs)
      rwa [hdrop, List.append_nil] at this
    exact absurd (htake ▸ List.mem_of_getLast? h.newline) newline_not_mem_takeWhile
  | cons d cs' =>
    rw [List.dropWhile_append, hdrop, if_neg (by simp), List.cons_append] at hr
    obtain ⟨rfl, rfl⟩ := List.cons.inj hr
    obtain ⟨pre, hpre⟩ : d :: cs' <:+ cs := hdrop ▸ List.dropWhile_suffix _
    have hfin : Finished (pre ++ [d] ++ cs') := by rwa [← List.append_cons, hpre]
    exact ⟨cs', rfl, rfl, (em (cs' = [])).imp_right hfin.of_append⟩

theorem Finished.indentation {cs rest : List Char} (h : Finished cs) {col alt cont : Nat}
    (hi : indentation 0 0 0 (cs ++ ['\n']) = .ok (col, alt, cont, rest)) : ∃ as, rest = as ++ ['\n'] ∧ Finished as ∧
      Source.indentation 0 0 0 cs = .ok (col, alt, cont, as) ∧ isBare as = isBare rest := by
  obtain ⟨pre, hpre, hstay, hsame⟩ := indentation_cut hi
  obtain ⟨as, rfl, rfl, hne⟩ := h.split hstay hpre
  have has := h.of_append hne
  exact ⟨as, rfl, has, hsame _ has.sameLine, isBare_follow (.inr has.sameLine)⟩

/-- **An empty line at the end does not change where the first word stands.** -/
theorem columns?_dropEmpty {cs : List Char} {x : Nat × Nat} (hcs : cs = [] ∨ Finished cs)
    (h : columns? (cs ++ ['\n']) = some x) : columns? cs = some x := by
  generalize htext : cs ++ ['\n'] = text at h
  fun_induction columns? text generalizing cs with
  | case1 => cases h
  | case2 text col alt cont rest hi hb c cs' hr ih =>
    subst htext
    rcases hcs with rfl | hfin
    · cases (indentation_word 0 0 0 (by decide) (by decide) (by decide) (by decide) []).symm.trans hi
      obtain ⟨-, rfl⟩ := List.cons.inj hr
      exact h
    · obtain ⟨as, rfl, has, hi', hbare⟩ := hfin.indentation hi
      obtain ⟨as', hr', rfl, hfin'⟩ := has.dropWhile hr
      rw [columns?_bare hi' (hbare.trans hb) hr']
      exact ih hfin' rfl h
  | case3 => cases h
  | case4 text col alt cont rest hi hb =>
    subst htext
    rcases hcs with rfl | hfin
    · cases (indentation_word 0 0 0 (by decide) (by decide) (by decide) (by decide) []).symm.trans hi
      exact absurd rfl hb
    · obtain ⟨as, rfl, has, hi', hbare⟩ := hfin.indentation hi
      rw [columns?_word hi' (hbare.trans (Bool.eq_false_iff.2 hb))]
      exact h

end DocReview.Source
