import DocReview.Proofs.Source.Lexing
/-!
# Run — whole runs of the lexer

A text is read by steps until one ends it (`Reads`).  The bound on their number is never met, so `tokens` is what the
steps give (`reads_tokens`), and that is all there is (`Reads.unique`).  Tokens come in the order of their lines, weigh no
more than the text, and go as deep as the indentations that stay open (`Runs.advance`).
-/
namespace DocReview.Source

/-- Some steps: the tokens they give, and where reading stands after them. -/
inductive Runs : Scan → List Token → Scan → Prop where
  | refl (s : Scan) : Runs s [] s
  | step {s s' s'' : Scan} {ts us : List Token} (h : Stepped s ts s') (hr : Runs s' us s'') : Runs s (ts ++ us) s''

/-- The tokens of a text that is read to its end. -/
inductive Reads : Scan → List Token → Prop where
  | done {s : Scan} {ts : List Token} (h : readStep s = .done ts) : Reads s ts
  | step {s s' : Scan} {ts us : List Token} (h : Stepped s ts s') (hr : Reads s' us) : Reads s (ts ++ us)

namespace Runs

variable {s s' s'' : Scan} {ts us : List Token}

theorem single (h : Stepped s ts s') : Runs s ts s' := by
  have := Runs.step h (.refl s')
  rwa [List.append_nil] at this

theorem trans (h : Runs s ts s') (h' : Runs s' us s'') : Runs s (ts ++ us) s'' := by
  induction h with
  | refl => exact h'
  | step h hr ih =>
    rw [List.append_assoc]
    exact .step h (ih h')

theorem reads (h : Runs s ts s') (h' : Reads s' us) : Reads s (ts ++ us) := by
  induction h with
  | refl => exact h'
  | step h hr ih =>
    rw [List.append_assoc]
    exact .step h (ih h')

end Runs

/-! ## One run for each text -/

theorem Stepped.unique {s s₁ s₂ : Scan} {ts us : List Token} (h : Stepped s ts s₁) (h' : Stepped s us s₂) :
    ts = us ∧ s₁ = s₂ := by
  have := h.readStep_eq.symm.trans h'.readStep_eq
  cases this
  exact ⟨rfl, rfl⟩

theorem Reads.unique {s : Scan} {ts us : List Token} (h : Reads s ts) (h' : Reads s us) : ts = us := by
  induction h generalizing us with
  | done h =>
    cases h' with
    | done h' => rw [h] at h'; cases h'; rfl
    | step h' => rw [h'.readStep_eq] at h; cases h
  | step h hr ih =>
    cases h' with
    | done h' => rw [h.readStep_eq] at h'; cases h'
    | step h' hr' =>
      obtain ⟨rfl, rfl⟩ := h.unique h'
      rw [ih hr']

theorem Reads.after {s s' : Scan} {ts us : List Token} (h : Runs s us s') (hr : Reads s ts) :
    ∃ vs, ts = us ++ vs ∧ Reads s' vs := by
  induction h generalizing ts with
  | refl => exact ⟨ts, rfl, hr⟩
  | step h _ ih =>
    cases hr with
    | done hd => rw [h.readStep_eq] at hd; cases hd
    | step h' hr' =>
      obtain ⟨rfl, rfl⟩ := h.unique h'
      obtain ⟨vs, rfl, hvs⟩ := ih hr'
      exact ⟨vs, (List.append_assoc ..).symm, hvs⟩

/-- What bounds the number of steps: a step takes a character or leaves the start of a line. -/
def Scan.left (s : Scan) : Nat := 2 * s.rest.length + (if s.lineStart then 1 else 0)

theorem Stepped.left_lt {s s' : Scan} {ts : List Token} (h : Stepped s ts s') : s'.left < s.left := by
  obtain ⟨pre, hadv, hmove⟩ := h.strides
  unfold Scan.left
  rw [hadv.eq, List.length_append]
  cases pre with
  | nil =>
    rw [(hmove rfl).1, (hmove rfl).2, if_pos rfl, if_neg Bool.false_ne_true, List.length_nil]
    omega
  | cons c pre =>
    rw [List.length_cons]
    split <;> omega

theorem reads_readFrom : ∀ (k : Nat) (s : Scan), s.left < k → Reads s (readFrom k s)
  | k + 1, s, hk => by
    unfold readFrom
    cases hstep : readStep s with
    | done ts => exact .done hstep
    | more ts s' =>
      have h := stepped_of_readStep hstep
      have := h.left_lt
      exact .step h (reads_readFrom k s' (by omega))

/-- **The tokens of a text are what the steps of reading give.** -/
theorem reads_tokens (cs : List Char) : Reads { rest := cs } (tokens cs) :=
  reads_readFrom _ _ (by unfold Scan.left; dsimp only; split <;> omega)

/-! ## What a run keeps -/

theorem Follows.append {rest w : List Char} (h : Follows rest w) (pre : List Char) : Follows (pre ++ rest) (pre ++ w) := by
  rcases h with rfl | h
  · exact .inl rfl
  · exact .inr (h.append pre)

theorem Runs.advance {s s' : Scan} {ts : List Token} (h : Runs s ts s') : ∃ pre, Advance Runs s ts s' pre := by
  induction h with
  | refl s =>
    exact ⟨[], rfl, rfl, Nat.le_refl _, (Int.sub_self _).symm, .nil, nofun,
      fun {s₂ w} hl hw _ => ⟨[], s₂, .refl s₂, rfl, hl, hw⟩⟩
  | @step s s' s'' ts us h hr ih =>
    obtain ⟨pre, h₁, -⟩ := h.strides
    obtain ⟨pre', h₂⟩ := ih
    refine ⟨pre ++ pre', ?_, ?_, ?_, ?_, ?_, fun t ht => ?_, fun {s₂ w} hl hw hf => ?_⟩
    · rw [h₁.eq, h₂.eq, List.append_assoc]
    · rw [h₂.line, h₁.line, List.count_append, Nat.add_assoc]
    · rw [weight_append, List.length_append]
      exact Nat.add_le_add h₁.weight_le h₂.weight_le
    · rw [level_append, h₁.level, h₂.level]
      omega
    · refine List.pairwise_append.2 ⟨h₁.sorted, h₂.sorted, fun t ht u hu => ?_⟩
      obtain ⟨-, ht, hn⟩ := h₁.lines t ht
      obtain ⟨hu, -⟩ := h₂.lines u hu
      exact ⟨Nat.le_trans ht hu, fun h => Nat.lt_of_lt_of_le (hn h) hu⟩
    · have hle : s.line ≤ s'.line := by rw [h₁.line]; omega
      have hle' : s'.line ≤ s''.line := by rw [h₂.line]; omega
      rcases List.mem_append.1 ht with ht | ht
      · obtain ⟨ha, hb, hn⟩ := h₁.lines t ht
        exact ⟨ha, Nat.le_trans hb hle', fun h => Nat.lt_of_lt_of_le (hn h) hle'⟩
      · obtain ⟨ha, hb, hn⟩ := h₂.lines t ht
        exact ⟨Nat.le_trans hle ha, hb, hn⟩
    · obtain ⟨ts₂, s₂', hstep, htok, hl', hw'⟩ :=
        h₁.follow hl (by rw [hw, List.append_assoc]) (h₂.eq ▸ hf.append pre')
      obtain ⟨us₂, s₂'', hruns, htok', hl'', hw''⟩ := h₂.follow hl' hw' hf
      refine ⟨ts₂ ++ us₂, s₂'', .step hstep hruns, ?_, hl'', hw''⟩
      rw [List.map_append, List.map_append, htok, htok']

/-! ## The end of a run -/

def Scan.at (s : Scan) (t : Tok) : Token := ⟨t, s.line, s.col, s.line⟩

theorem bracket_done {s after : Scan} {p : Punct} {ts : List Token} (h : bracket s p after = .done ts) (s₂ after₂ : Scan)
    (ho : s₂.opens = s.opens) : ts = [s.at (.fault .malformed)] ∧ bracket s₂ p after₂ = .done [s₂.at (.fault .malformed)] := by
  have hopen : ∀ (c : Char) (tok tok₂ : Token), (if maxBrackets ≤ s.opens.length then Step.done (s.fault .malformed)
      else .more [tok] { after with opens := c :: s.opens }) = .done ts →
      ts = [s.at (.fault .malformed)] ∧ (if maxBrackets ≤ s₂.opens.length then Step.done (s₂.fault .malformed)
        else .more [tok₂] { after₂ with opens := c :: s₂.opens }) = .done [s₂.at (.fault .malformed)] := by
    intro c tok tok₂ h
    split at h
    · next hlen => cases h; rw [ho, if_pos hlen]; exact ⟨rfl, rfl⟩
    · cases h
  cases p
  case lparen => exact hopen _ _ _ h
  case lbracket => exact hopen _ _ _ h
  case lbrace => exact hopen _ _ _ h
  case rparen | rbracket | rbrace =>
    unfold bracket at h ⊢
    rw [ho]
    cases hs : s.opens with
    | nil => rw [hs] at h; cases h; exact ⟨rfl, rfl⟩
    | cons o os =>
      rw [hs] at h
      dsimp only at h ⊢
      split at h
      · cases h
      · next hc => cases h; rw [if_neg hc]; exact ⟨rfl, rfl⟩
  all_goals cases h

theorem word_done {s : Scan} {o : Option Tok} {rest : List Char} {ts : List Token} (h : word s o rest = .done ts)
    (s₂ : Scan) (ho : s₂.opens = s.opens) :
    ts = [s.at (.fault .malformed)] ∧ word s₂ o rest = .done [s₂.at (.fault .malformed)] := by
  match o, h with
  | some (.punct p), h => exact bracket_done h s₂ _ ho

section Done

variable {s s₂ : Scan} {ts : List Token} (hl : s.Like s₂) (hr : s₂.rest = s.rest)

include hl hr

theorem startLine_error {f : LexFault} (h : startLine s = .error f) : startLine s₂ = .error f := by
  rw [startLine_eq] at h ⊢
  rw [hr, hl.opens, hl.indents]
  split at h
  · exact h
  · split at h
    · cases h
    · next hb =>
      dsimp only
      rw [if_neg hb]
      split at h
      · cases h
      · next ho =>
        rw [if_neg ho]
        split at h
        · exact h
        · cases h

theorem readStep_cons_done {c : Char} {cs : List Char} (hs : s.lineStart = false) (hrest : s.rest = c :: cs)
    (h : readStep s = .done ts) : ∃ f, ts = [s.at (.fault f)] ∧ readStep s₂ = .done [s₂.at (.fault f)] := by
  rw [readStep_cons hs hrest] at h
  rw [readStep_cons (hl.lineStart.trans hs) (hr.trans hrest), hr]
  split at h
  · cases h
  · next hc =>
    rw [if_neg hc]
    split at h
    · cases h
    · next hc' =>
      rw [if_neg hc']
      split at h
      · split at h <;> cases h
      · next hn =>
        rw [if_neg hn]
        split at h
        · exact ⟨_, word_done h s₂ hl.opens⟩
        · next f _ =>
          cases h
          exact ⟨f, rfl, rfl⟩

end Done

/-- The end of a text is a token, and the same for states that differ in nothing but where they stand. -/
theorem readStep_done {s s₂ : Scan} {ts : List Token} (h : readStep s = .done ts) (hl : s.Like s₂) (hr : s₂.rest = s.rest) :
    ∃ t, (t = .finish ∨ ∃ f, t = .fault f) ∧ ts = [s.at t] ∧ readStep s₂ = .done [s₂.at t] := by
  cases hs : s.lineStart with
  | true =>
    rw [readStep_start hs] at h
    rw [readStep_start (hl.lineStart.trans hs)]
    cases hst : startLine s with
    | ok x => rw [hst] at h; cases h
    | error f =>
      rw [hst] at h
      cases h
      rw [startLine_error hl hr hst]
      exact ⟨.fault f, .inr ⟨f, rfl⟩, rfl, rfl⟩
  | false =>
    cases hrest : s.rest with
    | nil =>
      unfold readStep at h ⊢
      rw [if_neg (by rw [hs]; exact Bool.false_ne_true), hrest] at h
      rw [if_neg (by rw [hl.lineStart.trans hs]; exact Bool.false_ne_true), hr, hrest, hl.opens]
      cases h
      dsimp only
      split
      · exact ⟨.finish, .inl rfl, rfl, rfl⟩
      · exact ⟨.fault .unfinished, .inr ⟨_, rfl⟩, rfl, rfl⟩
    | cons c cs =>
      obtain ⟨f, hts, hstep⟩ := readStep_cons_done hl hr hs hrest h
      exact ⟨.fault f, .inr ⟨f, rfl⟩, hts, hstep⟩

/-- **The same text gives the same tokens, wherever it stands.** -/
theorem Reads.follow {s s₂ : Scan} {ts : List Token} (h : Reads s ts) (hl : s.Like s₂) (hr : s₂.rest = s.rest) :
    ∃ ts₂, Reads s₂ ts₂ ∧ ts₂.map Token.tok = ts.map Token.tok := by
  induction h generalizing s₂ with
  | done h =>
    obtain ⟨t, -, rfl, hd⟩ := readStep_done h hl hr
    exact ⟨_, .done hd, rfl⟩
  | step h _ ih =>
    obtain ⟨pre, hadv, -⟩ := h.strides
    obtain ⟨ts₂, s₂', hstep, htok, hl', hr'⟩ := hadv.follow hl (hr.trans hadv.eq) (.inl rfl)
    obtain ⟨us₂, hreads, htok'⟩ := ih hl' hr'
    refine ⟨ts₂ ++ us₂, .step hstep hreads, ?_⟩
    rw [List.map_append, List.map_append, htok, htok']

theorem Reads.weight_le {s : Scan} {ts : List Token} (h : Reads s ts) : weight ts ≤ s.rest.length := by
  induction h with
  | @done s ts h =>
    obtain ⟨t, ht, rfl, -⟩ := readStep_done h ⟨rfl, rfl, rfl, rfl⟩ rfl
    rcases ht with rfl | ⟨f, rfl⟩
    · exact Nat.zero_le _
    · exact Nat.zero_le _
  | step h _ ih =>
    obtain ⟨pre, hadv, -⟩ := h.strides
    rw [weight_append, hadv.eq, List.length_append]
    exact Nat.add_le_add hadv.weight_le ih

theorem weight_tokens_le (cs : List Char) : weight (tokens cs) ≤ cs.length := (reads_tokens cs).weight_le

/-- **Tokens come in the order of their lines, and after the end of a line comes a later one.** -/
theorem Reads.sorted {s : Scan} {ts : List Token} (h : Reads s ts) :
    ts.Pairwise Precedes ∧ ∀ t ∈ ts, s.line ≤ t.line := by
  induction h with
  | done h =>
    obtain ⟨t, -, rfl, -⟩ := readStep_done h ⟨rfl, rfl, rfl, rfl⟩ rfl
    exact ⟨List.pairwise_singleton _ _, fun u hu => by rw [List.mem_singleton.1 hu]; exact Nat.le_refl _⟩
  | @step s s' ts us h _ ih =>
    obtain ⟨pre, hadv, -⟩ := h.strides
    refine ⟨List.pairwise_append.2 ⟨hadv.sorted, ih.1, fun t ht u hu => ?_⟩, fun t ht => ?_⟩
    · obtain ⟨-, ht, hn⟩ := hadv.lines t ht
      have hu := ih.2 u hu
      exact ⟨Nat.le_trans ht hu, fun h => Nat.lt_of_lt_of_le (hn h) hu⟩
    · have hle : s.line ≤ s'.line := by rw [hadv.line]; omega
      rcases List.mem_append.1 ht with ht | ht
      · exact (hadv.lines t ht).1
      · exact Nat.le_trans hle (ih.2 t ht)

theorem Stepped.isInner_or {s s' : Scan} {ts : List Token} (h : Stepped s ts s') {t : Token} (ht : t ∈ ts) :
    t.tok.isInner = true ∨ t.tok.isLayout = true := by
  cases h with
  | bare | inside | blank | comment | lineEnd => cases ht
  | indented hs hi hb ho hr =>
    obtain ⟨u, hu, rfl⟩ := List.mem_map.1 ht
    rcases mem_reindent hr hu with rfl | rfl
    · exact .inr rfl
    · exact .inr rfl
  | newline =>
    rw [List.mem_singleton.1 ht]
    exact .inr rfl
  | @word c cs rest o ts s' hs hr hc hlex hw =>
    obtain ⟨pre, hcut⟩ := lexeme_cut hlex
    cases hw.symm.trans (word_eq_more hw s rfl rest)
    obtain ⟨u, hu, rfl⟩ := Option.map_eq_some_iff.1 (Option.mem_toList.1 ht)
    exact .inl (hcut.inner u hu)

/-- **Reading ends with the end of the text or with a fault, and nothing else does.** -/
theorem Reads.exists_last {s : Scan} {ts : List Token} (h : Reads s ts) : ∃ us t, ts = us ++ [t] ∧
    (t.tok = .finish ∨ ∃ f, t.tok = .fault f) ∧ ∀ u ∈ us, u.tok.isInner = true ∨ u.tok.isLayout = true := by
  induction h with
  | done h =>
    obtain ⟨t, ht, rfl, -⟩ := readStep_done h ⟨rfl, rfl, rfl, rfl⟩ rfl
    exact ⟨[], _, rfl, ht, nofun⟩
  | @step s s' ts _ h _ ih =>
    obtain ⟨us, t, rfl, ht, hus⟩ := ih
    refine ⟨ts ++ us, t, (List.append_assoc ..).symm, ht, fun u hu => ?_⟩
    rcases List.mem_append.1 hu with hu | hu
    · exact h.isInner_or hu
    · exact hus u hu

/-! ## Where a line ends -/

structure Scan.EndsLine (s : Scan) (rest : List Char) : Prop where
  lineStart : s.lineStart = false
  rest : s.rest = '\n' :: rest
  opens : s.opens = []
  blank : s.blank = false

theorem Scan.EndsLine.stepped {s : Scan} {rest : List Char} (h : s.EndsLine rest) :
    Stepped s [s.at .newline] { s.skipTo rest with lineStart := true } :=
  .newline h.lineStart h.rest (by rw [h.blank, h.opens]; rfl)

theorem Scan.EndsLine.like {s s₂ : Scan} {rest rest₂ : List Char} (h : s.EndsLine rest) (hl : s.Like s₂)
    (hr : s₂.rest = '\n' :: rest₂) : s₂.EndsLine rest₂ :=
  ⟨hl.lineStart.trans h.lineStart, hr, hl.opens.trans h.opens, hl.blank.trans h.blank⟩

theorem Stepped.of_newline {s s' : Scan} {ts : List Token} {t : Token} (h : Stepped s ts s') (ht : t ∈ ts)
    (hn : t.tok = .newline) :
    ∃ rest, s.EndsLine rest ∧ ts = [s.at .newline] ∧ s' = { s.skipTo rest with lineStart := true } := by
  cases h with
  | bare | inside | blank | comment | lineEnd => cases ht
  | indented hs hi hb ho hr =>
    obtain ⟨u, hu, rfl⟩ := List.mem_map.1 ht
    cases hn
    exact absurd hu (newline_notMem_reindent hr)
  | @newline cs hs hr hb =>
    rw [Bool.or_eq_false_iff, Bool.not_eq_false'] at hb
    exact ⟨cs, ⟨hs, hr, List.isEmpty_iff.1 hb.2, hb.1⟩, rfl, rfl⟩
  | @word c cs rest o ts s' hs hr hc hlex hw =>
    obtain ⟨pre, hcut⟩ := lexeme_cut hlex
    have hts := word_eq_more hw s rfl rest
    rw [hw] at hts
    cases hts
    obtain ⟨u, hu, rfl⟩ := Option.map_eq_some_iff.1 (Option.mem_toList.1 ht)
    cases hn
    exact nomatch hcut.inner _ hu

theorem Reads.at_newline {s : Scan} {us vs : List Token} {t : Token} (h : Reads s (us ++ t :: vs))
    (hn : t.tok = .newline) : ∃ s₁ rest, Runs s us s₁ ∧ s₁.EndsLine rest ∧ t = s₁.at .newline ∧
      Reads { s₁.skipTo rest with lineStart := true } vs := by
  generalize hws : us ++ t :: vs = ws at h
  induction h generalizing us with
  | done h =>
    obtain ⟨u, hu, rfl, -⟩ := readStep_done h ⟨rfl, rfl, rfl, rfl⟩ rfl
    have ht : t ∈ us ++ t :: vs := List.mem_append_right _ List.mem_cons_self
    rw [hws, List.mem_singleton] at ht
    subst ht
    cases hn
    rcases hu with hu | ⟨f, hu⟩ <;> cases hu
  | @step s s' ts us' h hr ih =>
    rcases List.append_eq_append_iff.1 hws with ⟨as, hts, has⟩ | ⟨as, rfl, has⟩
    · cases as with
      | nil =>
        rw [List.append_nil] at hts
        have hnil : ([] : List Token) ++ t :: vs = us' := has
        obtain ⟨s₁, rest, hruns, he⟩ := ih hnil
        exact ⟨s₁, rest, by rw [← List.append_nil us, ← hts]; exact .step h hruns, he⟩
      | cons u as =>
        rw [List.cons_append] at has
        cases has
        obtain ⟨rest, he, hts', rfl⟩ := h.of_newline (hts ▸ List.mem_append_right _ List.mem_cons_self) hn
        rw [hts] at hts'
        cases us with
        | nil =>
          cases hts'
          exact ⟨s, rest, .refl s, he, rfl, hr⟩
        | cons v us =>
          cases us <;> cases hts'
    · obtain ⟨s₁, rest, hruns, he⟩ := ih has.symm
      exact ⟨s₁, rest, .step h hruns, he⟩

end DocReview.Source
