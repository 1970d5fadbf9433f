import DocReview.Proofs.Source.Run
/-!
# Columns — where the first word of a text stands

Lines with nothing on them but blanks and a comment are read over; `columns?` gives the columns at which the next one
starts.  A text that is read at the start of a line goes on there (`runs_columns`), and opens an indentation only if there
is one (`columns?_of_indent`).
-/
namespace DocReview.Source

theorem length_indentation {col alt cont a b k : Nat} {cs rest : List Char}
    (h : indentation col alt cont cs = .ok (a, b, k, rest)) : rest.length ≤ cs.length := by
  obtain ⟨pre, rfl, -⟩ := indentation_cut h
  rw [List.length_append]
  omega

/-- The column and the second column of the first line of a text that has a word on it, or of its end. -/
def columns? (cs : List Char) : Option (Nat × Nat) :=
  match _hi : indentation 0 0 0 cs with
  | .error _ => none
  | .ok (col, alt, cont, rest) =>
    if isBare rest then
      match _hr : rest.dropWhile (· ≠ '\n') with
      | _ :: cs' => columns? cs'
      | [] => none
    else some (lineColumns col alt cont)
termination_by cs.length
decreasing_by
  have h₁ := length_indentation _hi
  have h₂ := (List.dropWhile_suffix (p := fun c => decide (c ≠ '\n')) (l := rest)).length_le
  rw [_hr, List.length_cons] at h₂
  omega

section Equations

variable {cs rest : List Char} {col alt cont : Nat} (hi : indentation 0 0 0 cs = .ok (col, alt, cont, rest))

include hi

theorem columns?_word (hb : isBare rest = false) : columns? cs = some (lineColumns col alt cont) := by
  rw [columns?, hi]
  simp [hb]

theorem columns?_bare (hb : isBare rest = true) {c : Char} {cs' : List Char} (hr : rest.dropWhile (· ≠ '\n') = c :: cs') :
    columns? cs = columns? cs' := by
  rw [columns?, hi]
  simp only [hb, if_true]
  rw [hr]

end Equations

structure Scan.Starts (s : Scan) (indents : List (Nat × Nat)) (cs : List Char) : Prop where
  lineStart : s.lineStart = true
  opens : s.opens = []
  indents : s.indents = indents
  rest : s.rest = cs

theorem opened_rest {s : Scan} {cs rest : List Char} {col alt cont : Nat} (hs : s.rest = cs)
    (hi : indentation 0 0 0 cs = .ok (col, alt, cont, rest)) (b : Bool) : (s.opened rest b).rest = rest := by
  obtain ⟨pre, rfl, -⟩ := indentation_cut hi
  exact Scan.skipTo_rest hs

theorem stepped_blank {s : Scan} {indents : List (Nat × Nat)} {cs : List Char} (hs : s.lineStart = false)
    (hb : s.blank = true) (ho : s.opens = []) (hi : s.indents = indents) {c : Char} (hr : s.rest = c :: cs)
    (hc : c = '\n') : ∃ s', Stepped s [] s' ∧ s'.Starts indents cs := by
  subst hc
  refine ⟨_, .lineEnd hs hr (by rw [hb]; rfl), rfl, ?_, ?_, ?_⟩
  · rw [← ho]
    exact Scan.skipTo_opens s cs
  · rw [← hi]
    exact Scan.skipTo_indents s cs
  · exact Scan.skipTo_rest (show _ = ['\n'] ++ cs from hr)

theorem drop_takeWhile {α : Type} (p : α → Bool) (l : List α) : l.drop (l.takeWhile p).length = l.dropWhile p :=
  calc l.drop (l.takeWhile p).length
    _ = (l.takeWhile p ++ l.dropWhile p).drop (l.takeWhile p).length := by rw [List.takeWhile_append_dropWhile]
    _ = l.dropWhile p := List.drop_left

theorem runs_bare {s : Scan} {indents : List (Nat × Nat)} {cs cs' rest : List Char} {c : Char} {col alt cont : Nat}
    (hs : s.Starts indents cs) (hi : indentation 0 0 0 cs = .ok (col, alt, cont, rest)) (hb : isBare rest = true)
    (hr : rest.dropWhile (· ≠ '\n') = c :: cs') : ∃ s', Runs s [] s' ∧ s'.Starts indents cs' := by
  have hc : c = '\n' := by
    have := List.head?_dropWhile_not (fun c => decide (c ≠ '\n')) rest
    rw [hr] at this
    simpa using this
  have hstep : Stepped s [] (s.opened rest true) := .bare hs.lineStart (hs.rest ▸ hi) hb
  have hrest := opened_rest hs.rest hi true
  cases rest with
  | nil => cases hb
  | cons d rest =>
    by_cases hd : d = '\n'
    · subst hd
      rw [List.dropWhile_cons_of_neg (by simp)] at hr
      obtain ⟨-, rfl⟩ := List.cons.inj hr
      obtain ⟨s', hs', hstarts⟩ := stepped_blank (s := s.opened ('\n' :: rest) true) rfl rfl
        ((Scan.skipTo_opens _ _).trans hs.opens) ((Scan.skipTo_indents _ _).trans hs.indents) hrest rfl
      exact ⟨s', .step hstep (.single hs'), hstarts⟩
    · -- a comment is read over first
      obtain rfl : d = '#' := by simpa [isBare, hd] using hb
      rw [List.dropWhile_cons_of_pos (by simp)] at hr
      have hdrop : rest.drop (rest.takeWhile (· ≠ '\n')).length = c :: cs' := (drop_takeWhile _ rest).trans hr
      have hcomment := Stepped.comment (s := s.opened ('#' :: rest) true) rfl hrest
      rw [hdrop] at hcomment
      have hsplit : (s.opened ('#' :: rest) true).rest = ('#' :: rest.takeWhile (· ≠ '\n')) ++ c :: cs' := by
        rw [hrest, ← hr, List.cons_append, List.takeWhile_append_dropWhile]
      obtain ⟨s', hs', hstarts⟩ := stepped_blank (s := (s.opened ('#' :: rest) true).skipTo (c :: cs'))
        (Scan.skipTo_lineStart _ _) (Scan.skipTo_blank _ _)
        ((Scan.skipTo_opens _ _).trans ((Scan.skipTo_opens _ _).trans hs.opens))
        ((Scan.skipTo_indents _ _).trans ((Scan.skipTo_indents _ _).trans hs.indents)) (Scan.skipTo_rest hsplit) hc
      exact ⟨s', .step hstep (.step hcomment (.single hs')), hstarts⟩

/-- **Reading goes on at the first line that has a word on it**, wherever the text stands. -/
theorem runs_columns {cs : List Char} {col alt : Nat} (h : columns? cs = some (col, alt)) : ∃ cs' c a k rest,
    indentation 0 0 0 cs' = .ok (c, a, k, rest) ∧ isBare rest = false ∧ lineColumns c a k = (col, alt) ∧
      ∀ {s : Scan} {indents : List (Nat × Nat)}, s.Starts indents cs → ∃ s', Runs s [] s' ∧ s'.Starts indents cs' := by
  fun_induction columns? cs with
  | case1 => cases h
  | case2 cs c a k rest hi hb d cs' hr ih =>
    obtain ⟨cs₁, c₁, a₁, k₁, rest₁, hi₁, hb₁, hcols, hruns⟩ := ih h
    refine ⟨cs₁, c₁, a₁, k₁, rest₁, hi₁, hb₁, hcols, fun hs => ?_⟩
    obtain ⟨s', hs', hstarts⟩ := runs_bare hs hi hb hr
    obtain ⟨s'', hs'', hstarts'⟩ := hruns hstarts
    exact ⟨s'', hs'.trans hs'', hstarts'⟩
  | case3 => cases h
  | case4 cs c a k rest hi hb =>
    exact ⟨cs, c, a, k, rest, hi, Bool.eq_false_iff.2 hb, Option.some.inj h, fun hs => ⟨_, .refl _, hs⟩⟩

/-! ## What the line begins with -/

structure Scan.Inside (s : Scan) (indents : List (Nat × Nat)) (cs : List Char) : Prop where
  lineStart : s.lineStart = false
  blank : s.blank = false
  opens : s.opens = []
  indents : s.indents = indents
  rest : s.rest = cs

theorem Scan.Inside.like {s s₂ : Scan} {indents : List (Nat × Nat)} {cs : List Char} (h : s.Inside indents cs)
    (h₂ : s₂.Inside indents cs) : s.Like s₂ :=
  ⟨h₂.indents.trans h.indents.symm, h₂.opens.trans h.opens.symm, h₂.lineStart.trans h.lineStart.symm,
    h₂.blank.trans h.blank.symm⟩

section Line

variable {s : Scan} {indents : List (Nat × Nat)} {cs rest : List Char} {c a k : Nat} (hs : s.Starts indents cs)
  (hi : indentation 0 0 0 cs = .ok (c, a, k, rest)) (hb : isBare rest = false)

include hs hi hb

theorem stepped_line {toks : List Tok} {indents' : List (Nat × Nat)}
    (hr : reindent (lineColumns c a k).1 (lineColumns c a k).2 indents = .ok (toks, indents')) :
    ∃ ts s', Stepped s ts s' ∧ ts.map Token.tok = toks ∧ s'.Inside indents' rest := by
  refine ⟨_, _, .indented hs.lineStart (hs.rest ▸ hi) hb (by rw [hs.opens]; rfl) (hs.indents ▸ hr), ?_, rfl, rfl, ?_, rfl, ?_⟩
  · rw [List.map_map]
    exact List.map_id _
  · exact (Scan.skipTo_opens _ _).trans hs.opens
  · exact opened_rest hs.rest hi false

theorem readStep_line {f : LexFault} (hr : reindent (lineColumns c a k).1 (lineColumns c a k).2 indents = .error f) :
    readStep s = .done [s.at (.fault f)] := by
  have hr' : reindent (if k = 0 then c else k) (if k = 0 then a else k) indents = .error f := hr
  rw [readStep_start hs.lineStart, startLine_eq, hs.rest, hi]
  simp only [hb, hs.opens, hs.indents, hr']
  rfl

end Line

theorem tok_ne_indent {s : Scan} {t : Token} {V : List Token} (h : Reads s (t :: V)) (hs : s.lineStart = false)
    (hb : s.blank = false) (ho : s.opens = []) : t.tok ≠ .indent := by
  generalize hts : t :: V = ts at h
  induction h with
  | done hd =>
    obtain ⟨u, hu, rfl, -⟩ := readStep_done hd ⟨rfl, rfl, rfl, rfl⟩ rfl
    obtain ⟨rfl, -⟩ := List.cons.inj hts
    rcases hu with rfl | ⟨f, rfl⟩ <;> exact nofun
  | @step s s' ts us hstep hr ih =>
    cases hstep with
    | bare h => rw [hs] at h; cases h
    | inside h => rw [hs] at h; cases h
    | indented h => rw [hs] at h; cases h
    | blank =>
      exact ih (by rw [Scan.skipTo_lineStart, hs]) (by rw [Scan.skipTo_blank, hb]) (by rw [Scan.skipTo_opens, ho]) hts
    | comment =>
      exact ih (by rw [Scan.skipTo_lineStart, hs]) (by rw [Scan.skipTo_blank, hb]) (by rw [Scan.skipTo_opens, ho]) hts
    | lineEnd _ _ h => rw [hb, ho] at h; cases h
    | newline =>
      obtain ⟨rfl, -⟩ := List.cons.inj hts
      exact nofun
    | @word c cs rest o ts s' _ _ _ hl hw =>
      obtain ⟨pre, hcuts⟩ := lexeme_cut hl
      cases hw.symm.trans (word_eq_more hw s rfl rest)
      cases o with
      | none =>
        exact ih (by rw [← hs]; exact Scan.skipTo_lineStart _ _) (by rw [← hb]; exact Scan.skipTo_blank _ _)
          (by rw [← ho]; rfl) hts
      | some u =>
        obtain ⟨rfl, -⟩ := List.cons.inj hts
        have hinner := hcuts.inner u rfl
        intro hu
        change u = .indent at hu
        rw [hu] at hinner
        cases hinner

/-- **Only a line that has a word on it, or the end of the text, opens an indentation.** -/
theorem columns?_of_indent {cs : List Char} {s : Scan} {indents : List (Nat × Nat)} {t : Token} {V : List Token}
    (hs : s.Starts indents cs) (h : Reads s (t :: V)) (ht : t.tok = .indent) : ∃ col alt, columns? cs = some (col, alt) := by
  fun_induction columns? cs generalizing s with
  | case1 cs f hi =>
    have hdone : readStep s = .done [s.at (.fault f)] := by
      rw [readStep_start hs.lineStart, startLine_eq, hs.rest, hi]
      rfl
    cases h.unique (.done hdone)
    cases ht
  | case2 cs c a k rest hi hb d cs' hr ih =>
    obtain ⟨s', hs', hstarts⟩ := runs_bare hs hi hb hr
    obtain ⟨vs, hvs, hreads⟩ := h.after hs'
    rw [List.nil_append] at hvs
    exact ih hstarts (hvs ▸ hreads)
  | case3 cs c a k rest hi hb hr =>
    -- a comment that goes on to the end
    have hstep : Stepped s [] (s.opened rest true) := .bare hs.lineStart (hs.rest ▸ hi) hb
    have hrest := opened_rest hs.rest hi true
    cases rest with
    | nil => cases hb
    | cons d rest =>
      obtain rfl : d = '#' := by
        by_cases hd : d = '\n'
        · rw [hd, List.dropWhile_cons_of_neg (by simp)] at hr
          cases hr
        · simpa [isBare, hd] using hb
      rw [List.dropWhile_cons_of_pos (by simp)] at hr
      have hcomment := Stepped.comment (s := s.opened ('#' :: rest) true) rfl hrest
      rw [(drop_takeWhile _ rest).trans hr] at hcomment
      have hend : readStep ((s.opened ('#' :: rest) true).skipTo []) =
          .done [((s.opened ('#' :: rest) true).skipTo []).at .finish] := by
        have hopens : ((s.opened ('#' :: rest) true).skipTo []).opens = [] :=
          (Scan.skipTo_opens _ _).trans ((Scan.skipTo_opens _ _).trans hs.opens)
        have hnil : ((s.opened ('#' :: rest) true).skipTo []).rest = [] := Scan.skipTo_rest (List.append_nil _).symm
        unfold readStep
        rw [Scan.skipTo_lineStart, if_neg (by exact Bool.false_ne_true), hnil]
        dsimp only
        rw [hopens]
        rfl
      cases h.unique (.step hstep (.step hcomment (.done hend)))
      cases ht
  | case4 cs c a k rest hi hb => exact ⟨_, _, rfl⟩

/-- **What is read from the start of a line on** is given by the columns of the first line that has a word on it. -/
theorem reads_line {cs : List Char} {col alt : Nat} (h : columns? cs = some (col, alt)) : ∃ rest,
    ∀ {s : Scan} {indents : List (Nat × Nat)} {V : List Token}, s.Starts indents cs → Reads s V →
      (∀ {toks indents'}, reindent col alt indents = .ok (toks, indents') →
        ∃ ts W s', V = ts ++ W ∧ ts.map Token.tok = toks ∧ s'.Inside indents' rest ∧ Reads s' W) ∧
      ∀ {f}, reindent col alt indents = .error f → ∃ t, V = [t] ∧ t.tok = .fault f := by
  obtain ⟨cs', c, a, k, rest, hi, hb, hcols, hruns⟩ := runs_columns h
  obtain ⟨rfl, rfl⟩ := Prod.mk.inj hcols
  refine ⟨rest, fun hs hV => ?_⟩
  obtain ⟨s', hs', hstarts⟩ := hruns hs
  obtain ⟨V', rfl, hV'⟩ := hV.after hs'
  constructor
  · intro toks indents' hr
    obtain ⟨ts, s'', hstep, htoks, hinside⟩ := stepped_line hstarts hi hb hr
    obtain ⟨W, rfl, hW⟩ := hV'.after (.single hstep)
    exact ⟨ts, W, s'', rfl, htoks, hinside, hW⟩
  · intro f hr
    exact ⟨_, hV'.unique (.done (readStep_line hstarts hi hb hr)), rfl⟩

theorem reindent_nil (col alt : Nat) : reindent col alt [] =
    if col = 0 then (if alt = 0 then .ok ([], []) else .error .mixedTabs)
    else if alt = 0 then .error .mixedTabs else .ok ([.indent], [(col, alt)]) := by
  have hmax : ¬ maxIndents ≤ 0 := by decide
  unfold reindent
  by_cases hcol : col = 0
  · subst hcol
    rfl
  · simp [hcol, hmax, Nat.pos_of_ne_zero hcol]

theorem reindent_same (k : Nat) : reindent k k [(k, k)] = .ok ([], [(k, k)]) := by
  simp [reindent]

theorem reindent_other {col alt k : Nat} (hcol : 0 < col) (h : (col, alt) ≠ (k, k)) :
    (∃ f, reindent col alt [(k, k)] = .error f) ∨ ∃ indents, reindent col alt [(k, k)] = .ok ([.indent], indents) := by
  have hmax : ¬ maxIndents ≤ 1 := by decide
  unfold reindent
  rcases Nat.lt_trichotomy col k with hlt | rfl | hgt
  · have hne : col ≠ k := Nat.ne_of_lt hlt
    simp [hne, Nat.not_lt_of_lt hlt, hlt, Nat.ne_of_gt hcol]
  · have halt : alt ≠ col := fun halt => h (by rw [halt])
    simp [halt]
  · have hne : col ≠ k := Nat.ne_of_gt hgt
    by_cases halt : alt ≤ k
    · simp [hne, hgt, hmax, halt]
    · simp [hne, hgt, hmax, halt]

theorem columns_of_indent {cs : List Char} {s : Scan} {t : Token} {V : List Token} (hs : s.Starts [] cs)
    (h : Reads s (t :: V)) (ht : t.tok = .indent) : ∃ col alt, columns? cs = some (col, alt) ∧ 0 < col ∧ 0 < alt := by
  obtain ⟨col, alt, hcols⟩ := columns?_of_indent hs h ht
  obtain ⟨rest, hline⟩ := reads_line hcols
  obtain ⟨hok, herr⟩ := hline hs h
  rw [reindent_nil] at hok herr
  have hfault : ∀ f u, t :: V = [u] → u.tok = .fault f → False := by
    rintro f u hu hfault
    cases hu
    rw [ht] at hfault
    cases hfault
  by_cases hcol : col = 0 <;> by_cases halt : alt = 0
  · rw [if_pos hcol, if_pos halt] at hok
    obtain ⟨ts, W, s', hV, htoks, hinside, hW⟩ := hok rfl
    obtain rfl := List.map_eq_nil_iff.1 htoks
    rw [List.nil_append] at hV
    exact absurd ht (tok_ne_indent (hV ▸ hW) hinside.lineStart hinside.blank hinside.opens)
  · rw [if_pos hcol, if_neg halt] at herr
    obtain ⟨u, hu, hf⟩ := herr rfl
    exact (hfault _ u hu hf).elim
  · rw [if_neg hcol, if_pos halt] at herr
    obtain ⟨u, hu, hf⟩ := herr rfl
    exact (hfault _ u hu hf).elim
  · exact ⟨col, alt, hcols, Nat.pos_of_ne_zero hcol, Nat.pos_of_ne_zero halt⟩

end DocReview.Source
