import DocReview.Proofs.Source.Lexeme
/-!
# Lexing — how a text is read step by step

Reading moves through a text in steps: past the start of a line, a blank, a comment, the end of a line or a word
(`stepped_of_readStep`).  A step cuts off some characters and counts their line ends, and it reads the same from any text
that goes on in the same way up to the end of the line (`Stepped.strides`).
-/
namespace DocReview.Source

namespace Scan

def colAfter (col : Nat) (pre : List Char) : Nat := pre.foldl (fun n c => if c = '\n' then 0 else n + c.utf8Size) col

def past (s : Scan) (pre rest : List Char) : Scan :=
  { s with rest, line := s.line + pre.count '\n', col := colAfter s.col pre }

theorem skip_eq : ∀ (n : Nat) (s : Scan), s.skip n = s.past (s.rest.take n) (s.rest.drop n)
  | 0, ⟨_, _, _, _, _, _, _⟩ => rfl
  | n + 1, ⟨[], _, _, _, _, _, _⟩ => rfl
  | n + 1, ⟨c :: cs, line, col, indents, opens, lineStart, blank⟩ => by
    unfold skip
    dsimp only
    rw [skip_eq n]
    unfold step past colAfter
    dsimp only
    rw [List.take_succ_cons, List.drop_succ_cons, List.foldl_cons]
    by_cases hc : c = '\n'
    · rw [if_pos hc, if_pos hc, hc, List.count_cons_self, Nat.add_assoc, Nat.add_comm 1]
    · rw [if_neg hc, if_neg hc, List.count_cons_of_ne hc]

theorem skipTo_eq {s : Scan} {pre rest : List Char} (h : s.rest = pre ++ rest) : s.skipTo rest = s.past pre rest := by
  have hlen : s.rest.length - rest.length = pre.length := by rw [h, List.length_append, Nat.add_sub_cancel]
  unfold skipTo
  rw [hlen, skip_eq, h, List.take_left, List.drop_left]

theorem skip_eq_skipTo (s : Scan) (n : Nat) : s.skip n = s.skipTo (s.rest.drop n) := by
  rw [skip_eq, skipTo_eq (List.take_append_drop n s.rest).symm]

@[simp] theorem skipTo_indents (s : Scan) (rest : List Char) : (s.skipTo rest).indents = s.indents := by
  unfold skipTo
  rw [skip_eq]
  rfl

@[simp] theorem skipTo_opens (s : Scan) (rest : List Char) : (s.skipTo rest).opens = s.opens := by
  unfold skipTo
  rw [skip_eq]
  rfl

@[simp] theorem skipTo_lineStart (s : Scan) (rest : List Char) : (s.skipTo rest).lineStart = s.lineStart := by
  unfold skipTo
  rw [skip_eq]
  rfl

@[simp] theorem skipTo_blank (s : Scan) (rest : List Char) : (s.skipTo rest).blank = s.blank := by
  unfold skipTo
  rw [skip_eq]
  rfl

theorem skipTo_rest {s : Scan} {pre rest : List Char} (h : s.rest = pre ++ rest) : (s.skipTo rest).rest = rest := by
  rw [skipTo_eq h]
  rfl

theorem skipTo_line {s : Scan} {pre rest : List Char} (h : s.rest = pre ++ rest) :
    (s.skipTo rest).line = s.line + pre.count '\n' := by
  rw [skipTo_eq h]
  rfl

end Scan

theorem indentation_blank (col alt cont : Nat) (cs : List Char) :
    indentation col alt cont (' ' :: cs) = indentation (col + 1) (alt + 1) cont cs := by
  rw [indentation.eq_def]
  rfl

theorem indentation_tab (col alt cont : Nat) (cs : List Char) :
    indentation col alt cont ('\t' :: cs) = indentation ((col / 8 + 1) * 8) (alt + 1) cont cs := by
  rw [indentation.eq_def]
  rfl

theorem indentation_feed (col alt cont : Nat) (cs : List Char) :
    indentation col alt cont ('\x0c' :: cs) = indentation 0 0 cont cs := by
  rw [indentation.eq_def]
  rfl

theorem indentation_continued (col alt cont : Nat) (d : Char) (r : List Char) :
    indentation col alt cont ('\\' :: '\n' :: d :: r) = indentation col alt (if cont = 0 then col else cont) (d :: r) := by
  rw [indentation.eq_def]
  rfl

theorem indentation_word (col alt cont : Nat) {c : Char} (hs : c ≠ ' ') (ht : c ≠ '\t') (hf : c ≠ '\x0c') (hb : c ≠ '\\')
    (cs : List Char) : indentation col alt cont (c :: cs) = .ok (col, alt, cont, c :: cs) := by
  rw [indentation.eq_def]
  dsimp only
  rw [if_neg hs, if_neg ht, if_neg hf, if_neg hb]

theorem indentation_cut {col alt cont a b k : Nat} {cs rest : List Char}
    (h : indentation col alt cont cs = .ok (a, b, k, rest)) :
    ∃ pre, cs = pre ++ rest ∧ StaysInLine pre ∧
      ∀ w, SameLine rest w → indentation col alt cont (pre ++ w) = .ok (a, b, k, w) := by
  induction col, alt, cont, cs using indentation.induct with
  | case1 col alt cont =>
    cases h
    exact ⟨[], rfl, nofun, fun w hw => nomatch hw⟩
  | case2 col alt cont cs ih =>
    rw [indentation_blank] at h
    obtain ⟨pre, rfl, hstay, hpre⟩ := ih h
    exact ⟨' ' :: pre, rfl, hstay.cons (by decide), fun w hw => by rw [List.cons_append, indentation_blank, hpre w hw]⟩
  | case3 col alt cont cs _ ih =>
    rw [indentation_tab] at h
    obtain ⟨pre, rfl, hstay, hpre⟩ := ih h
    exact ⟨'\t' :: pre, rfl, hstay.cons (by decide), fun w hw => by rw [List.cons_append, indentation_tab, hpre w hw]⟩
  | case4 col alt cont cs _ _ ih =>
    rw [indentation_feed] at h
    obtain ⟨pre, rfl, hstay, hpre⟩ := ih h
    exact ⟨'\x0c' :: pre, rfl, hstay.cons (by decide), fun w hw => by rw [List.cons_append, indentation_feed, hpre w hw]⟩
  | case5 col alt cont d r _ _ _ ih =>
    rw [indentation_continued] at h
    obtain ⟨pre, hr, hstay, hpre⟩ := ih h
    refine ⟨'\\' :: '\n' :: pre, by rw [hr]; rfl, hstay.continued, fun w hw => ?_⟩
    obtain ⟨e, u, hu⟩ := List.exists_cons_of_ne_nil (hw.append pre).ne_nil
    rw [List.cons_append, List.cons_append, hu, indentation_continued, ← hu, hpre w hw]
  | case6 => cases h
  | case7 col alt cont cs h₁ h₂ =>
    rw [indentation, if_neg (by decide), if_neg (by decide), if_neg (by decide), if_pos rfl] at h
    · cases h
    · exact h₁
    · exact h₂
  | case8 col alt cont c cs hs ht hf hb =>
    rw [indentation_word col alt cont hs ht hf hb] at h
    cases h
    refine ⟨[], rfl, nofun, fun w hw => ?_⟩
    obtain ⟨u, rfl⟩ := hw.cons_inv
    exact indentation_word _ _ _ hs ht hf hb u

def word (s : Scan) : Option Tok → List Char → Step
  | none, rest => .more [] (s.skipTo rest)
  | some (.punct p), rest => bracket s p (s.skipTo rest)
  | some t, rest => .more [s.token t (s.skipTo rest)] (s.skipTo rest)

theorem word_of_ne_punct (s : Scan) {t : Tok} (ht : ∀ p, t ≠ .punct p) (rest : List Char) :
    word s (some t) rest = .more [s.token t (s.skipTo rest)] (s.skipTo rest) := by
  cases t with
  | punct p => exact absurd rfl (ht p)
  | name | keyword | number | string | newline | indent | dedent | finish | fault => rfl

theorem wordTok_ne_punct (w : List Char) (p : Punct) : wordTok w ≠ .punct p := by
  unfold wordTok
  split
  · exact nofun
  · exact nofun

theorem readToken_eq {s : Scan} {c : Char} {cs : List Char} (h : s.rest = c :: cs) :
    readToken s c cs = match lexeme s.rest with
      | .ok (o, rest) => word s o rest
      | .error f => .done (s.fault f) := by
  unfold readToken
  rw [h, lexeme]
  cases hlit : literalStart? (c :: cs) with
  | some x =>
    obtain ⟨k, q, r⟩ := x
    dsimp only
    cases hscan : scanQuoted q r with
    | some y => rfl
    | none => rfl
  | none =>
    dsimp only
    split
    · rw [Scan.skip_eq_skipTo, h]
      split
      · exact (word_of_ne_punct s (wordTok_ne_punct _) _).symm
      · rfl
    · split
      · cases hscan : scanNumber (c :: cs) with
        | some y => rfl
        | none => rfl
      · split
        · by_cases hcs : ∃ d r, cs = '\n' :: d :: r
          · obtain ⟨d, r, rfl⟩ := hcs
            rw [if_pos ⟨rfl, List.cons_ne_nil _ _⟩, Scan.skip_eq_skipTo, h]
            rfl
          · have hno : ¬ (cs.head? = some '\n' ∧ cs.tail ≠ []) := by
              rintro ⟨hd, ht⟩
              obtain ⟨d, cs, rfl⟩ := List.exists_cons_of_ne_nil fun h : cs = [] => ht (by rw [h]; rfl)
              obtain ⟨e, r, hr⟩ := List.exists_cons_of_ne_nil ht
              cases hd
              exact hcs ⟨e, r, congrArg _ hr⟩
            rw [if_neg hno]
            split
            · exact absurd ⟨_, _, rfl⟩ hcs
            · rfl
        · split
          · rfl
          · rw [Scan.skip_eq_skipTo, h]
            rfl

/-! ## Lines -/

def isBare : List Char → Bool
  | c :: _ => c = '#' || c = '\n'
  | [] => false

def Scan.opened (s : Scan) (rest : List Char) (blank : Bool) : Scan :=
  { s.skipTo rest with lineStart := false, blank }

theorem startLine_eq (s : Scan) : startLine s = match indentation 0 0 0 s.rest with
    | .error f => .error f
    | .ok (col, alt, cont, rest) =>
      if isBare rest then .ok ([], s.opened rest true)
      else if !s.opens.isEmpty then .ok ([], s.opened rest false)
      else match reindent (if cont = 0 then col else cont) (if cont = 0 then alt else cont) s.indents with
        | .error f => .error f
        | .ok (toks, indents) =>
          .ok (toks.map fun t => ⟨t, (s.skipTo rest).line, (s.skipTo rest).col, (s.skipTo rest).line⟩,
            { s.opened rest false with indents }) := by
  unfold startLine
  cases indentation 0 0 0 s.rest with
  | error f => rfl
  | ok x =>
    obtain ⟨col, alt, cont, rest⟩ := x
    dsimp only [bind, Except.bind]
    change ite (isBare rest = true) _ _ = _
    split
    · rfl
    · split
      · rfl
      · by_cases hc : cont = 0
        · rw [if_pos hc, if_pos hc, if_pos hc]
          dsimp only
          cases reindent col alt s.indents <;> rfl
        · rw [if_neg hc, if_neg hc, if_neg hc]
          dsimp only
          cases reindent cont cont s.indents <;> rfl

/-- The column and the second column a line is indented by; a backslash before a line end counts for both. -/
def lineColumns (col alt cont : Nat) : Nat × Nat := (if cont = 0 then col else cont, if cont = 0 then alt else cont)

/-! ## Steps -/

def isInnerBlank (c : Char) : Bool := c = ' ' || c = '\t' || c = '\x0c'

/-- **What one step of reading can do.** -/
inductive Stepped (s : Scan) : List Token → Scan → Prop where
  /-- A line with nothing on it starts. -/
  | bare {col alt cont : Nat} {rest : List Char} (hs : s.lineStart = true)
      (hi : indentation 0 0 0 s.rest = .ok (col, alt, cont, rest)) (hb : isBare rest = true) :
      Stepped s [] (s.opened rest true)
  /-- A line starts inside brackets. -/
  | inside {col alt cont : Nat} {rest : List Char} (hs : s.lineStart = true)
      (hi : indentation 0 0 0 s.rest = .ok (col, alt, cont, rest)) (hb : isBare rest = false)
      (ho : s.opens.isEmpty = false) : Stepped s [] (s.opened rest false)
  /-- A line starts, with the indentations it opens and closes. -/
  | indented {col alt cont : Nat} {rest : List Char} {toks : List Tok} {indents : List (Nat × Nat)}
      (hs : s.lineStart = true) (hi : indentation 0 0 0 s.rest = .ok (col, alt, cont, rest)) (hb : isBare rest = false)
      (ho : s.opens.isEmpty = true)
      (hr : reindent (lineColumns col alt cont).1 (lineColumns col alt cont).2 s.indents = .ok (toks, indents)) :
      Stepped s (toks.map fun t => ⟨t, (s.skipTo rest).line, (s.skipTo rest).col, (s.skipTo rest).line⟩)
        { s.opened rest false with indents }
  | blank {c : Char} {cs : List Char} (hs : s.lineStart = false) (hr : s.rest = c :: cs) (hc : isInnerBlank c = true) :
      Stepped s [] (s.skipTo cs)
  | comment {cs : List Char} (hs : s.lineStart = false) (hr : s.rest = '#' :: cs) :
      Stepped s [] (s.skipTo (cs.drop (cs.takeWhile (· ≠ '\n')).length))
  /-- A line ends that has nothing on it, or goes on in brackets. -/
  | lineEnd {cs : List Char} (hs : s.lineStart = false) (hr : s.rest = '\n' :: cs)
      (hb : (s.blank || !s.opens.isEmpty) = true) : Stepped s [] { s.skipTo cs with lineStart := true }
  | newline {cs : List Char} (hs : s.lineStart = false) (hr : s.rest = '\n' :: cs)
      (hb : (s.blank || !s.opens.isEmpty) = false) :
      Stepped s [⟨.newline, s.line, s.col, s.line⟩] { s.skipTo cs with lineStart := true }
  | word {c : Char} {cs rest : List Char} {o : Option Tok} {ts : List Token} {s' : Scan} (hs : s.lineStart = false)
      (hr : s.rest = c :: cs) (hc : isInnerBlank c = false ∧ c ≠ '#' ∧ c ≠ '\n') (hl : lexeme s.rest = .ok (o, rest))
      (hw : word s o rest = .more ts s') : Stepped s ts s'

theorem step_eq_skipTo {s : Scan} {c : Char} {cs : List Char} (h : s.rest = c :: cs) : s.step c cs = s.skipTo cs := by
  rw [show cs = s.rest.drop 1 by rw [h]; rfl, ← Scan.skip_eq_skipTo]
  unfold Scan.skip
  rw [h]
  rfl

theorem readStep_start {s : Scan} (hs : s.lineStart = true) : readStep s = match startLine s with
    | .ok (toks, next) => .more toks next
    | .error f => .done (s.fault f) := by
  unfold readStep
  exact if_pos hs

theorem readStep_cons {s : Scan} {c : Char} {cs : List Char} (hs : s.lineStart = false) (hr : s.rest = c :: cs) :
    readStep s = if isInnerBlank c then .more [] (s.skipTo cs)
      else if c = '#' then .more [] (s.skipTo (cs.drop (cs.takeWhile (· ≠ '\n')).length))
      else if c = '\n' then
        if s.blank || !s.opens.isEmpty then .more [] { s.skipTo cs with lineStart := true }
        else .more [⟨.newline, s.line, s.col, s.line⟩] { s.skipTo cs with lineStart := true }
      else match lexeme s.rest with
        | .ok (o, rest) => word s o rest
        | .error f => .done (s.fault f) := by
  unfold readStep
  rw [if_neg (by rw [hs]; exact Bool.false_ne_true), hr]
  dsimp only
  rw [step_eq_skipTo hr, readToken_eq hr, Scan.skip_eq_skipTo, hr]
  rfl

theorem stepped_of_readStep {s s' : Scan} {ts : List Token} (h : readStep s = .more ts s') : Stepped s ts s' := by
  cases hs : s.lineStart with
  | true =>
    rw [readStep_start hs, startLine_eq] at h
    cases hi : indentation 0 0 0 s.rest with
    | error f => rw [hi] at h; cases h
    | ok x =>
      obtain ⟨col, alt, cont, rest⟩ := x
      rw [hi] at h
      dsimp only at h
      cases hb : isBare rest with
      | true => rw [hb, if_pos rfl] at h; cases h; exact .bare hs hi hb
      | false =>
        rw [hb, if_neg Bool.false_ne_true] at h
        cases ho : s.opens.isEmpty with
        | false => rw [ho] at h; cases h; exact .inside hs hi hb ho
        | true =>
          rw [ho, Bool.not_true, if_neg Bool.false_ne_true] at h
          split at h
          · next hx =>
            split at hx
            · cases hx
            · next hr => cases hx; cases h; exact .indented hs hi hb ho hr
          · cases h
  | false =>
    cases hr : s.rest with
    | nil =>
      unfold readStep at h
      rw [if_neg (by rw [hs]; exact Bool.false_ne_true), hr] at h
      cases h
    | cons c cs =>
      rw [readStep_cons hs hr] at h
      split at h
      · next hc => cases h; exact .blank hs hr hc
      · next hc =>
        split at h
        · next hc' => cases h; cases hc'; exact .comment hs hr
        · next hc' =>
          split at h
          · next hn =>
            cases hn
            split at h
            · next hb => cases h; exact .lineEnd hs hr hb
            · next hb => cases h; exact .newline hs hr (Bool.eq_false_iff.2 hb)
          · next hn =>
            split at h
            · next hl => exact .word hs hr ⟨Bool.eq_false_iff.2 hc, hc', hn⟩ hl h
            · cases h

theorem Stepped.readStep_eq {s s' : Scan} {ts : List Token} (h : Stepped s ts s') : readStep s = .more ts s' := by
  cases h with
  | bare hs hi hb => rw [readStep_start hs, startLine_eq, hi]; dsimp only; rw [if_pos hb]
  | inside hs hi hb ho =>
    rw [readStep_start hs, startLine_eq, hi]
    dsimp only
    rw [hb, ho]
    rfl
  | indented hs hi hb ho hr =>
    unfold lineColumns at hr
    rw [readStep_start hs, startLine_eq, hi]
    dsimp only
    rw [hb, ho, hr]
    rfl
  | blank hs hr hc => rw [readStep_cons hs hr, if_pos hc]
  | comment hs hr => rw [readStep_cons hs hr]; rfl
  | lineEnd hs hr hb => rw [readStep_cons hs hr, if_neg (by decide), if_neg (by decide), if_pos rfl, if_pos hb]
  | newline hs hr hb =>
    rw [readStep_cons hs hr, if_neg (by decide), if_neg (by decide), if_pos rfl, if_neg (Bool.eq_false_iff.1 hb)]
  | word hs hr hc hl hw =>
    rw [readStep_cons hs hr, if_neg (Bool.eq_false_iff.1 hc.1), if_neg hc.2.1, if_neg hc.2.2, hl]
    exact hw

/-! ## What a step keeps -/

def opensAfter : Option Tok → List Char → List Char
  | some (.punct .lparen), opens => '(' :: opens
  | some (.punct .lbracket), opens => '[' :: opens
  | some (.punct .lbrace), opens => '{' :: opens
  | some (.punct .rparen), opens => opens.tail
  | some (.punct .rbracket), opens => opens.tail
  | some (.punct .rbrace), opens => opens.tail
  | _, opens => opens

def wordTokens (s : Scan) (o : Option Tok) (after : Scan) : List Token := (o.map fun t => s.token t after).toList

theorem bracket_open {s s' : Scan} {tok : Token} {c : Char} {after : Scan} {ts : List Token}
    (h : (if maxBrackets ≤ s.opens.length then Step.done (s.fault .malformed)
      else .more [tok] { after with opens := c :: s.opens }) = .more ts s') (s₂ : Scan) (ho : s₂.opens = s.opens)
    (tok₂ : Token) (after₂ : Scan) :
    (if maxBrackets ≤ s₂.opens.length then Step.done (s₂.fault .malformed)
      else .more [tok₂] { after₂ with opens := c :: s₂.opens }) =
    .more [tok₂] { after₂ with opens := c :: s.opens } := by
  split at h
  · cases h
  · next hlen => rw [ho, if_neg hlen]

theorem bracket_close {s s' : Scan} {tok : Token} {c : Char} {after : Scan} {ts : List Token}
    (h : (match s.opens with
      | o :: os => if o = c then Step.more [tok] { after with opens := os } else .done (s.fault .malformed)
      | [] => .done (s.fault .malformed)) = .more ts s') (s₂ : Scan) (ho : s₂.opens = s.opens)
    (tok₂ : Token) (after₂ : Scan) :
    (match s₂.opens with
      | o :: os => if o = c then Step.more [tok₂] { after₂ with opens := os } else .done (s₂.fault .malformed)
      | [] => .done (s₂.fault .malformed)) = .more [tok₂] { after₂ with opens := s.opens.tail } := by
  rw [ho]
  cases hs : s.opens with
  | nil => rw [hs] at h; cases h
  | cons o os =>
    rw [hs] at h
    dsimp only at h ⊢
    split at h
    · next hc => rw [if_pos hc]; rfl
    · cases h

theorem bracket_eq_more {s s' after : Scan} {p : Punct} {ts : List Token} (h : bracket s p after = .more ts s')
    (s₂ after₂ : Scan) (ho : s₂.opens = s.opens) (ha : after₂.opens = s.opens) : bracket s₂ p after₂ =
      .more [s₂.token (.punct p) after₂] { after₂ with opens := opensAfter (some (.punct p)) s.opens } := by
  cases p
  case lparen | lbracket | lbrace => exact bracket_open h s₂ ho _ _
  case rparen | rbracket | rbrace => exact bracket_close h s₂ ho _ _
  all_goals
    change Step.more _ after₂ = .more _ { after₂ with opens := s.opens }
    rw [← ha]

/-- A word is taken on a condition on the open brackets alone, and then in one way. -/
theorem word_eq_more {s s' : Scan} {o : Option Tok} {rest : List Char} {ts : List Token} (h : word s o rest = .more ts s')
    (s₂ : Scan) (ho : s₂.opens = s.opens) (rest₂ : List Char) : word s₂ o rest₂ =
      .more (wordTokens s₂ o (s₂.skipTo rest₂)) { s₂.skipTo rest₂ with opens := opensAfter o s.opens } := by
  have ha : (s₂.skipTo rest₂).opens = s.opens := by rw [Scan.skipTo_opens, ho]
  have hkeep : s₂.skipTo rest₂ = { s₂.skipTo rest₂ with opens := s.opens } := by rw [← ha]
  match o with
  | none => exact congrArg (Step.more []) hkeep
  | some (.punct p) => exact bracket_eq_more h s₂ _ ho ha
  | some (.name ..) | some (.keyword _) | some (.number _) | some (.string _) | some .newline | some .indent
  | some .dedent | some .finish | some (.fault _) => exact congrArg (Step.more _) hkeep

structure Scan.Like (s s₂ : Scan) : Prop where
  indents : s₂.indents = s.indents
  opens : s₂.opens = s.opens
  lineStart : s₂.lineStart = s.lineStart
  blank : s₂.blank = s.blank

def Follows (rest w : List Char) : Prop := w = rest ∨ SameLine rest w

theorem Follows.head?_eq {rest w : List Char} (h : Follows rest w) : w.head? = rest.head? := by
  rcases h with rfl | h
  · rfl
  · exact h.head?_eq.symm

theorem indentation_follow {col alt cont a b k : Nat} {cs rest : List Char}
    (h : indentation col alt cont cs = .ok (a, b, k, rest)) :
    ∃ pre, cs = pre ++ rest ∧ ∀ w, Follows rest w → indentation col alt cont (pre ++ w) = .ok (a, b, k, w) := by
  obtain ⟨pre, rfl, -, hpre⟩ := indentation_cut h
  refine ⟨pre, rfl, fun w hw => ?_⟩
  rcases hw with rfl | hw
  · exact h
  · exact hpre w hw

theorem isBare_follow {rest w : List Char} (h : Follows rest w) : isBare w = isBare rest := by
  have hb : ∀ cs : List Char, isBare cs = cs.head?.any fun c => c = '#' || c = '\n' := fun cs => by cases cs <;> rfl
  rw [hb, hb, h.head?_eq]

theorem level_dedents (line col endLine : Nat) : ∀ n : Nat,
    level (List.replicate n ⟨.dedent, line, col, endLine⟩) = -(n : Int) ∧
      weight (List.replicate n ⟨.dedent, line, col, endLine⟩) = 0
  | 0 => ⟨rfl, rfl⟩
  | n + 1 => by
    obtain ⟨hl, hw⟩ := level_dedents line col endLine n
    rw [List.replicate_succ, level_cons, weight_cons, hl, hw]
    exact ⟨by simp only; omega, rfl⟩

theorem sum_level_reindent {col alt : Nat} {open₀ indents : List (Nat × Nat)} {toks : List Tok}
    (h : reindent col alt open₀ = .ok (toks, indents)) (line col' endLine : Nat) :
    level (toks.map fun t => ⟨t, line, col', endLine⟩) = (indents.length : Int) - open₀.length ∧
      weight (toks.map fun t => ⟨t, line, col', endLine⟩) = 0 := by
  unfold reindent at h
  dsimp only at h
  split at h
  · split at h
    · cases h; exact ⟨by simp [level], rfl⟩
    · cases h
  · split at h
    · split at h
      · cases h
      · split at h
        · cases h
        · cases h
          refine ⟨?_, rfl⟩
          rw [List.length_cons, List.map_cons, level_cons]
          simp only [List.map_nil, level, List.sum_nil]
          omega
    · split at h
      · cases h
      · split at h
        · cases h
        · cases h
          have hle := (List.dropWhile_sublist (l := open₀) fun p => decide (col < p.1)).length_le
          rw [List.map_replicate, (level_dedents ..).1, (level_dedents ..).2]
          exact ⟨by omega, rfl⟩

/-- How a token stands before another one: on an earlier line if it ends one. -/
def Precedes (t u : Token) : Prop := t.line ≤ u.line ∧ (t.tok = .newline → t.line < u.line)

/-- What steps that take some characters keep, and that they take them alike before any text that goes on with the same
line. -/
structure Advance (steps : Scan → List Token → Scan → Prop) (s : Scan) (ts : List Token) (s' : Scan)
    (pre : List Char) : Prop where
  eq : s.rest = pre ++ s'.rest
  line : s'.line = s.line + pre.count '\n'
  weight_le : weight ts ≤ pre.length
  level : level ts = (s'.indents.length : Int) - s.indents.length
  sorted : ts.Pairwise Precedes
  lines : ∀ t ∈ ts, s.line ≤ t.line ∧ t.line ≤ s'.line ∧ (t.tok = .newline → t.line < s'.line)
  follow : ∀ {s₂ : Scan} {w : List Char}, s.Like s₂ → s₂.rest = pre ++ w → Follows s'.rest w → ∃ ts₂ s₂',
    steps s₂ ts₂ s₂' ∧ ts₂.map Token.tok = ts.map Token.tok ∧ s'.Like s₂' ∧ s₂'.rest = w

/-- A step takes a character or leaves the start of a line. -/
def Strides (s : Scan) (ts : List Token) (s' : Scan) (pre : List Char) : Prop :=
  Advance Stepped s ts s' pre ∧ (pre = [] → s.lineStart = true ∧ s'.lineStart = false)

theorem strides_opened {s : Scan} {l : List Tok} {pre rest : List Char} {b : Bool} {indents : List (Nat × Nat)}
    (hs : s.lineStart = true) (hpre : s.rest = pre ++ rest)
    (hl : ∀ line col endLine, level (l.map fun t => ⟨t, line, col, endLine⟩) = (indents.length : Int) - s.indents.length ∧
      weight (l.map fun t => ⟨t, line, col, endLine⟩) = 0) (hn : Tok.newline ∉ l)
    (hfollow : ∀ {s₂ : Scan} {w : List Char}, s.Like s₂ → s₂.rest = pre ++ w → Follows rest w →
      Stepped s₂ (l.map fun t => ⟨t, (s₂.skipTo w).line, (s₂.skipTo w).col, (s₂.skipTo w).line⟩)
        { s₂.opened w b with indents }) :
    Strides s (l.map fun t => ⟨t, (s.skipTo rest).line, (s.skipTo rest).col, (s.skipTo rest).line⟩)
      { s.opened rest b with indents } pre := by
  have hno : ∀ t ∈ l, t ≠ .newline := fun t ht he => hn (he ▸ ht)
  refine ⟨⟨?_, Scan.skipTo_line hpre, by rw [(hl _ _ _).2]; exact Nat.zero_le _, (hl _ _ _).1, ?_, fun t hmem => ?_,
    fun {s₂ w} hlike hw hf => ?_⟩, fun _ => ⟨hs, rfl⟩⟩
  · change s.rest = pre ++ (s.skipTo rest).rest
    rw [Scan.skipTo_rest hpre, hpre]
  · refine List.pairwise_map.2 (List.pairwise_of_forall_mem_list fun t ht u _ => ⟨Nat.le_refl _, fun h => ?_⟩)
    exact absurd h (hno t ht)
  · obtain ⟨t, ht, rfl⟩ := List.mem_map.1 hmem
    refine ⟨?_, Nat.le_refl _, fun h => absurd h (hno t ht)⟩
    change s.line ≤ (s.skipTo rest).line
    rw [Scan.skipTo_line hpre]
    omega
  · change Follows (s.skipTo rest).rest w at hf
    rw [Scan.skipTo_rest hpre] at hf
    refine ⟨_, _, hfollow hlike hw hf, ?_, ⟨rfl, ?_, rfl, rfl⟩, Scan.skipTo_rest hw⟩
    · rw [List.map_map, List.map_map]
      rfl
    · change (s₂.skipTo w).opens = (s.skipTo rest).opens
      rw [Scan.skipTo_opens, Scan.skipTo_opens, hlike.opens]

/-- A state further on in a line, where only the open brackets may have changed, and a word at most has been given. -/
theorem strides_skipped {s : Scan} {o : Option Token} {pre rest opens : List Char} {b : Bool} (hpre : s.rest = pre ++ rest)
    (hne : pre ≠ []) (hw : weight o.toList ≤ pre.length) (hl : level o.toList = 0) (ht : ∀ t ∈ o, t.line = s.line)
    (hn : ∀ t ∈ o, t.tok = .newline → 1 ≤ pre.count '\n')
    (hfollow : ∀ {s₂ : Scan} {w : List Char}, s.Like s₂ → s₂.rest = pre ++ w → Follows rest w →
      ∃ o₂ : Option Token, Stepped s₂ o₂.toList { s₂.skipTo w with opens, lineStart := b } ∧
        o₂.map Token.tok = o.map Token.tok) :
    Strides s o.toList { s.skipTo rest with opens, lineStart := b } pre := by
  refine ⟨⟨by rw [hpre]; exact congrArg _ (Scan.skipTo_rest hpre).symm, Scan.skipTo_line hpre, hw, ?_, ?_, fun t hmem => ?_,
    fun {s₂ w} hlike hw hf => ?_⟩, fun h => absurd h hne⟩
  · change level o.toList = ((s.skipTo rest).indents.length : Int) - s.indents.length
    rw [hl, Scan.skipTo_indents, Int.sub_self]
  · cases o with
    | none => exact .nil
    | some t => exact List.pairwise_singleton _ _
  · have hmem := Option.mem_toList.1 hmem
    have hlt := hn t hmem
    rw [ht t hmem]
    change s.line ≤ s.line ∧ s.line ≤ (s.skipTo rest).line ∧ (t.tok = .newline → s.line < (s.skipTo rest).line)
    rw [Scan.skipTo_line hpre]
    exact ⟨Nat.le_refl _, by omega, fun h => by have := hlt h; omega⟩
  · change Follows (s.skipTo rest).rest w at hf
    rw [Scan.skipTo_rest hpre] at hf
    obtain ⟨o₂, hstep, htok⟩ := hfollow hlike hw hf
    refine ⟨o₂.toList, _, hstep, ?_, ⟨?_, rfl, rfl, ?_⟩, Scan.skipTo_rest hw⟩
    · rw [← Option.toList_map, ← Option.toList_map, htok]
    · change (s₂.skipTo w).indents = (s.skipTo rest).indents
      rw [Scan.skipTo_indents, Scan.skipTo_indents, hlike.indents]
    · change (s₂.skipTo w).blank = (s.skipTo rest).blank
      rw [Scan.skipTo_blank, Scan.skipTo_blank, hlike.blank]

theorem Scan.skipTo_self (s : Scan) (rest : List Char) :
    s.skipTo rest = { s.skipTo rest with opens := s.opens, lineStart := s.lineStart } := by
  rw [← s.skipTo_opens rest, ← s.skipTo_lineStart rest]

theorem Scan.skipTo_lineEnd (s : Scan) (rest : List Char) :
    { s.skipTo rest with lineStart := true } = { s.skipTo rest with opens := s.opens, lineStart := true } := by
  rw [← s.skipTo_opens rest]

theorem Scan.opened_self (s : Scan) (rest : List Char) (b : Bool) :
    s.opened rest b = { s.opened rest b with indents := s.indents } := by
  unfold Scan.opened
  rw [← s.skipTo_indents rest]

theorem takeWhile_follow {rest w : List Char} (h : Follows rest w) {p : Char → Bool} (hp : p '\n' = false)
    (pre : List Char) : (pre ++ w).takeWhile p = (pre ++ rest).takeWhile p := by
  rcases h with rfl | h
  · rfl
  · exact ((h.append pre).takeWhile_eq hp).1.symm

theorem lexeme_follow {cs rest : List Char} {o : Option Tok} (h : lexeme cs = .ok (o, rest)) :
    ∃ pre, Cuts cs o rest pre ∧ ∀ w, Follows rest w → lexeme (pre ++ w) = .ok (o, w) := by
  obtain ⟨pre, hcut⟩ := lexeme_cut h
  refine ⟨pre, hcut, fun w hw => ?_⟩
  rcases hw with rfl | hw
  · rw [← hcut.eq, h]
  · exact hcut.same w hw

theorem mem_reindent {col alt : Nat} {open₀ indents : List (Nat × Nat)} {toks : List Tok}
    (h : reindent col alt open₀ = .ok (toks, indents)) {t : Tok} (ht : t ∈ toks) : t = .indent ∨ t = .dedent := by
  unfold reindent at h
  dsimp only at h
  split at h
  · split at h
    · cases h; cases ht
    · cases h
  · split at h
    · split at h
      · cases h
      · split at h
        · cases h
        · cases h; exact .inl (List.mem_singleton.1 ht)
    · split at h
      · cases h
      · split at h
        · cases h
        · cases h; exact .inr (List.mem_replicate.1 ht).2

theorem newline_notMem_reindent {col alt : Nat} {open₀ indents : List (Nat × Nat)} {toks : List Tok}
    (h : reindent col alt open₀ = .ok (toks, indents)) : Tok.newline ∉ toks := fun ht => by
  rcases mem_reindent h ht with h | h <;> cases h

theorem strides_silent {s : Scan} {pre rest : List Char} {b : Bool} (hs : s.lineStart = true) (hpre : s.rest = pre ++ rest)
    (hfollow : ∀ {s₂ : Scan} {w : List Char}, s.Like s₂ → s₂.rest = pre ++ w → Follows rest w →
      Stepped s₂ [] (s₂.opened w b)) : Strides s [] (s.opened rest b) pre := by
  rw [Scan.opened_self]
  refine strides_opened (l := []) hs hpre (fun _ _ _ => ⟨(Int.sub_self _).symm, rfl⟩) List.not_mem_nil
    fun {s₂ w} hl hw hf => ?_
  rw [← hl.indents, ← Scan.opened_self]
  exact hfollow hl hw hf

theorem strides_comment {s : Scan} {cs : List Char} (hs : s.lineStart = false) (hr : s.rest = '#' :: cs) :
    ∃ pre, Strides s [] (s.skipTo (cs.drop (cs.takeWhile (· ≠ '\n')).length)) pre := by
  rw [Scan.skipTo_self]
  obtain ⟨rest, hrest⟩ := List.takeWhile_prefix (fun c : Char => decide (c ≠ '\n')) (l := cs)
  generalize hpre : cs.takeWhile (fun c : Char => decide (c ≠ '\n')) = pre at hrest
  rw [← hrest, List.drop_left]
  refine ⟨'#' :: pre, strides_skipped (o := none) (hr.trans (by rw [← hrest]; rfl)) (List.cons_ne_nil _ _) (Nat.zero_le _)
    rfl nofun nofun fun {s₂ w} hl hw hf => ⟨none, ?_, rfl⟩⟩
  have htake : (pre ++ w).takeWhile (fun c : Char => decide (c ≠ '\n')) = pre := by
    rw [takeWhile_follow hf rfl, hrest, hpre]
  rw [List.cons_append] at hw
  have hstep := Stepped.comment (hl.lineStart.trans hs) hw
  rw [htake, List.drop_left, Scan.skipTo_self, hl.opens, hl.lineStart] at hstep
  exact hstep

theorem strides_word {s s' : Scan} {c : Char} {cs rest : List Char} {o : Option Tok} {ts : List Token}
    (hs : s.lineStart = false) (hr : s.rest = c :: cs) (hc : isInnerBlank c = false ∧ c ≠ '#' ∧ c ≠ '\n')
    (hlex : lexeme s.rest = .ok (o, rest)) (hw : word s o rest = .more ts s') : ∃ pre, Strides s ts s' pre := by
  obtain ⟨pre, hcut, hsame⟩ := lexeme_follow hlex
  have hts := word_eq_more hw s rfl rest
  rw [hw] at hts
  cases hts
  have hself : { s.skipTo rest with opens := opensAfter o s.opens } =
      { s.skipTo rest with opens := opensAfter o s.opens, lineStart := s.lineStart } := by
    rw [← s.skipTo_lineStart rest]
  rw [hself]
  refine ⟨pre, strides_skipped hcut.eq hcut.ne_nil ?_ ?_ (fun t ht => ?_) (fun t ht hn => ?_) fun {s₂ w} hl hw₂ hf =>
    ⟨o.map fun t => s₂.token t (s₂.skipTo w), ?_, ?_⟩⟩
  · cases o with
    | none => exact Nat.zero_le _
    | some t => exact hcut.weight_le
  · cases o with
    | none => rfl
    | some t => exact level_cons_inner (hcut.inner t rfl) []
  · obtain ⟨u, -, rfl⟩ := Option.map_eq_some_iff.1 ht
    rfl
  · obtain ⟨u, hu, rfl⟩ := Option.map_eq_some_iff.1 ht
    cases hn
    exact nomatch hcut.inner _ hu
  · rw [← hl.lineStart, ← s₂.skipTo_lineStart w]
    obtain ⟨e, u, hu⟩ := List.exists_cons_of_ne_nil hcut.ne_nil
    have hce : e = c := by
      have := hcut.eq
      rw [hr, hu, List.cons_append] at this
      exact (List.cons.inj this).1.symm
    have hr₂ : s₂.rest = c :: (u ++ w) := by rw [hw₂, hu, hce]; rfl
    exact .word (hl.lineStart.trans hs) hr₂ hc (hw₂ ▸ hsame w hf) (word_eq_more hw s₂ hl.opens w)
  · rw [Option.map_map, Option.map_map]
    rfl

/-- **A step takes some characters, and takes the same from any text that goes on after them with the same line.** -/
theorem Stepped.strides {s s' : Scan} {ts : List Token} (h : Stepped s ts s') : ∃ pre, Strides s ts s' pre := by
  cases h with
  | bare hs hi hb =>
    obtain ⟨pre, hpre, hind⟩ := indentation_follow hi
    exact ⟨pre, strides_silent hs hpre fun {s₂ w} hl hw hf =>
      .bare (hl.lineStart.trans hs) (hw ▸ hind w hf) (isBare_follow hf ▸ hb)⟩
  | inside hs hi hb ho =>
    obtain ⟨pre, hpre, hind⟩ := indentation_follow hi
    exact ⟨pre, strides_silent hs hpre fun {s₂ w} hl hw hf =>
      .inside (hl.lineStart.trans hs) (hw ▸ hind w hf) (isBare_follow hf ▸ hb) (hl.opens ▸ ho)⟩
  | indented hs hi hb ho hr =>
    obtain ⟨pre, hpre, hind⟩ := indentation_follow hi
    exact ⟨pre, strides_opened hs hpre (sum_level_reindent hr) (newline_notMem_reindent hr) fun {s₂ w} hl hw hf =>
      .indented (hl.lineStart.trans hs) (hw ▸ hind w hf) (isBare_follow hf ▸ hb) (hl.opens ▸ ho) (hl.indents ▸ hr)⟩
  | blank hs hr hc =>
    rw [Scan.skipTo_self]
    refine ⟨[_], strides_skipped (o := none) hr (List.cons_ne_nil _ _) (Nat.zero_le _) rfl nofun nofun
      fun {s₂ w} hl hw hf => ⟨none, ?_, rfl⟩⟩
    rw [← hl.opens, ← hl.lineStart, ← Scan.skipTo_self]
    exact .blank (hl.lineStart.trans hs) hw hc
  | comment hs hr => exact strides_comment hs hr
  | lineEnd hs hr hb =>
    rw [Scan.skipTo_lineEnd]
    refine ⟨['\n'], strides_skipped (o := none) hr (List.cons_ne_nil _ _) (Nat.zero_le _) rfl nofun nofun
      fun {s₂ w} hl hw hf => ⟨none, ?_, rfl⟩⟩
    rw [← hl.opens, ← Scan.skipTo_lineEnd]
    exact .lineEnd (hl.lineStart.trans hs) hw (by rw [hl.blank, hl.opens]; exact hb)
  | newline hs hr hb =>
    rw [Scan.skipTo_lineEnd]
    refine ⟨['\n'], strides_skipped (o := some ⟨.newline, s.line, s.col, s.line⟩) hr (List.cons_ne_nil _ _) (Nat.zero_le _)
      rfl (fun t ht => ?_) (fun _ _ _ => Nat.le_refl 1) fun {s₂ w} hl hw hf =>
        ⟨some ⟨.newline, s₂.line, s₂.col, s₂.line⟩, ?_, rfl⟩⟩
    · cases ht; rfl
    · rw [← hl.opens, ← Scan.skipTo_lineEnd]
      exact .newline (hl.lineStart.trans hs) hw (by rw [hl.blank, hl.opens]; exact hb)
  | word hs hr hc hlex hw => exact strides_word hs hr hc hlex hw

end DocReview.Source
