import DocReview.Proofs.Source.Splice
import DocReview.Proofs.Source.Trailing
/-!
# Insert — a string on lines of its own, put into a text

A text is cut at the end of a line of its program (`exists_cut`), and lines with a string between triple quotes are put in
there.  If the line is that of a function whose block starts in the same columns, the new text is a program in which the
function is documented (`accepted_of_columns`); if not, it is no program (`refused_of_columns`).
-/
namespace DocReview.Source

/-! ## Reading the string -/

def quotedBefore (k : Nat) (body rest : List Char) : List Char :=
  List.replicate k ' ' ++ '"' :: '"' :: '"' :: (body ++ '"' :: '"' :: '"' :: '\n' :: rest)

theorem scanLong_plain : ∀ {body : List Char}, '"' ∉ body → '\\' ∉ body → ∀ rest,
    scanLong '"' (body ++ '"' :: '"' :: '"' :: rest) = some (body, rest)
  | [], _, _, rest => by
    rw [List.nil_append, scanLong_cons (by decide), if_pos ⟨rfl, rfl, rfl⟩]
    rfl
  | c :: body, hq, hb, rest => by
    have hc : c ≠ '"' := fun h => hq (h ▸ List.mem_cons_self)
    rw [List.cons_append, scanLong_cons fun h => hb (h ▸ List.mem_cons_self), if_neg fun h => hc h.1,
      scanLong_plain (fun h => hq (List.mem_cons_of_mem _ h)) (fun h => hb (List.mem_cons_of_mem _ h))]
    rfl

theorem indentation_blanks (cs : List Char) : ∀ k col alt cont : Nat,
    indentation col alt cont (List.replicate k ' ' ++ cs) = indentation (col + k) (alt + k) cont cs
  | 0, _, _, _ => by simp
  | k + 1, col, alt, cont => by
    rw [List.replicate_succ, List.cons_append, indentation_blank, indentation_blanks cs k, Nat.add_assoc, Nat.add_assoc,
      Nat.add_comm 1 k]

theorem columns?_blanks (k : Nat) {c : Char} {cs : List Char} (hspace : c ≠ ' ') (htab : c ≠ '\t') (hfeed : c ≠ '\x0c')
    (hslash : c ≠ '\\') (hb : isBare (c :: cs) = false) : columns? (List.replicate k ' ' ++ c :: cs) = some (k, k) := by
  have hi : indentation 0 0 0 (List.replicate k ' ' ++ c :: cs) = .ok (k, k, 0, c :: cs) := by
    rw [indentation_blanks, Nat.zero_add, indentation_word _ _ _ hspace htab hfeed hslash]
  exact columns?_word hi hb

def plainQuote (body : List Char) : Quote := ⟨false, false, false, false, body⟩

/-- **The lines of the string are an indentation, the string and the end of a line.** -/
theorem runs_quoted {s : Scan} {k : Nat} {body rest : List Char} (hk : 0 < k) (hq : '"' ∉ body) (hb : '\\' ∉ body)
    (hs : s.Starts [] (quotedBefore k body rest)) : ∃ ind str nl s', Runs s [ind, str, nl] s' ∧ ind.tok = .indent ∧
      str.tok = .string (plainQuote body) ∧ nl.tok = .newline ∧ s'.Starts [(k, k)] rest := by
  have hi : indentation 0 0 0 (quotedBefore k body rest) =
      .ok (k, k, 0, '"' :: '"' :: '"' :: (body ++ '"' :: '"' :: '"' :: '\n' :: rest)) := by
    unfold quotedBefore
    rw [indentation_blanks, Nat.zero_add, indentation_word _ _ _ (by decide) (by decide) (by decide) (by decide)]
  have hr : reindent (lineColumns k k 0).1 (lineColumns k k 0).2 [] = .ok ([.indent], [(k, k)]) := by
    have hne : k ≠ 0 := Nat.ne_of_gt hk
    exact (reindent_nil k k).trans (by rw [if_neg hne, if_neg hne])
  obtain ⟨ts, s₁, h₁, hts, hin⟩ := stepped_line hs hi rfl hr
  obtain ⟨ind, _, rfl, hind, hnil⟩ := List.map_eq_cons_iff.1 hts
  obtain rfl := List.map_eq_nil_iff.1 hnil
  -- the string
  have hlit : literalStart? ('"' :: '"' :: '"' :: (body ++ '"' :: '"' :: '"' :: '\n' :: rest)) =
      some (plainQuote [], '"', '"' :: '"' :: (body ++ '"' :: '"' :: '"' :: '\n' :: rest)) := rfl
  have hscan : scanQuoted '"' ('"' :: '"' :: (body ++ '"' :: '"' :: '"' :: '\n' :: rest)) = some (body, '\n' :: rest) :=
    scanLong_plain hq hb _
  have hword : Stepped s₁ [s₁.token (.string (plainQuote body)) (s₁.skipTo ('\n' :: rest))] (s₁.skipTo ('\n' :: rest)) :=
    .word hin.lineStart hin.rest (by decide) (hin.rest ▸ lexeme_string hlit hscan) rfl
  -- the end of its line
  have hends : (s₁.skipTo ('\n' :: rest)).EndsLine rest := by
    refine ⟨(Scan.skipTo_lineStart _ _).trans hin.lineStart, ?_, (Scan.skipTo_opens _ _).trans hin.opens,
      (Scan.skipTo_blank _ _).trans hin.blank⟩
    exact Scan.skipTo_rest (hin.rest.trans (by simp) : _ = ('"' :: '"' :: '"' :: (body ++ ['"', '"', '"'])) ++ '\n' :: rest)
  refine ⟨ind, _, _, _, .step h₁ (.step hword (.single hends.stepped)), hind, rfl, rfl, rfl, ?_, ?_, ?_⟩
  · exact (Scan.skipTo_opens _ _).trans hends.opens
  · exact (Scan.skipTo_indents _ _).trans ((Scan.skipTo_indents _ _).trans hin.indents)
  · exact Scan.skipTo_rest (show _ = ['\n'] ++ rest from hends.rest)

/-! ## Two texts that part at the end of a line -/

/-- Before a line end the tokens are the same, however the text goes on behind it; reading then stands at the start of a
line. -/
def ReadsTo (pre : List Char) (U : List Token) (indents : List (Nat × Nat)) : Prop :=
  ∀ X, ∃ U' nl' s', U'.map Token.tok = U.map Token.tok ∧ nl'.tok = .newline ∧ s'.Starts indents X ∧
    ∀ V', Reads s' V' → tokens (pre ++ '\n' :: X) = U' ++ nl' :: V'

/-- **A text is cut at the end of a line of its program.** -/
theorem exists_cut {T : List Char} {U V : List Token} {nl : Token} (h : tokens T = U ++ nl :: V) (hnl : nl.tok = .newline) :
    ∃ pre rest indents, T = pre ++ '\n' :: rest ∧ nl.line = pre.count '\n' + 1 ∧ level U = (indents.length : Nat) ∧
      (∃ s, s.Starts indents rest ∧ Reads s V) ∧ ReadsTo pre U indents := by
  obtain ⟨s₁, rest, hruns, hends, rfl, hreads⟩ := Reads.at_newline (h ▸ reads_tokens T) hnl
  obtain ⟨pre, hadvance⟩ := hruns.advance
  have hT : T = pre ++ '\n' :: rest := hends.rest ▸ hadvance.eq
  have hstarts : ∀ {s : Scan} {X : List Char}, s.EndsLine X → s₁.indents = s.indents →
      Scan.Starts { s.skipTo X with lineStart := true } s₁.indents X := fun {s X} hs hi =>
    ⟨rfl, (Scan.skipTo_opens _ _).trans hs.opens, (Scan.skipTo_indents _ _).trans hi.symm,
      Scan.skipTo_rest (show _ = ['\n'] ++ X from hs.rest)⟩
  refine ⟨pre, rest, s₁.indents, hT, ?_, ?_, ⟨_, hstarts hends rfl, hreads⟩, fun X => ?_⟩
  · have hline : s₁.line = 1 + pre.count '\n' := hadvance.line
    exact hline.trans (Nat.add_comm _ _)
  · have := hadvance.level
    simpa using this
  · have hlike₀ : ({ rest := T } : Scan).Like { rest := pre ++ '\n' :: X } := ⟨rfl, rfl, rfl, rfl⟩
    obtain ⟨U', s', hruns', hU', hlike, hrest'⟩ := hadvance.follow hlike₀ rfl
      (by rw [hends.rest]; exact Or.inr (.ended rest X))
    have hends' := hends.like hlike hrest'
    refine ⟨U', s'.at .newline, _, hU', rfl, hstarts hends' hlike.indents.symm, fun V' hV' => ?_⟩
    exact (reads_tokens _).unique (hruns'.reads (.step hends'.stepped hV'))

/-! ## Programs as texts -/

def Accepted (T : List Char) (body : List Stmt) : Prop := Statements.Accepts (T.length + 2) (tokens T) body

theorem Accepted.fine {T : List Char} {body : List Stmt} (h : Accepted T body) {t : Token} (ht : t ∈ tokens T)
    (f : LexFault) : t.tok ≠ .fault f := by
  intro hf
  obtain ⟨us, u, hts, hu, hus⟩ := (reads_tokens T).exists_last
  have hmem : ∀ {v : Token}, v ∈ tokens T → v.tok.isInner = false → v.tok.isLayout = false → v = u := by
    intro v hv hi hl
    rw [hts] at hv
    rcases List.mem_append.1 hv with hv | hv
    · rcases hus v hv with h | h
      · rw [hi] at h; cases h
      · rw [hl] at h; cases h
    · exact List.mem_singleton.1 hv
  obtain rfl := hmem ht (by rw [hf]; rfl) (by rw [hf]; rfl)
  have hlast : (tokens T).getLast? = some t := by rw [hts, List.getLast?_concat]
  have hweight := weight_tokens_le T
  obtain ⟨v, hv, hfinish⟩ := Statements.Accepts.exists_finish h (by omega) hlast hf
  obtain rfl := hmem hv (by rw [hfinish]; rfl) (by rw [hfinish]; rfl)
  rw [hf] at hfinish
  cases hfinish

theorem run_eq_ok_iff {α : Type} {p : Reader α} {ts : List Token} {a : α} :
    run p ts = .ok a ↔ ∃ d, p { rest := ts, lastLine := 0 } = .ok (a, d) := by
  unfold run
  cases hp : p { rest := ts, lastLine := 0 } with
  | error e => simp
  | ok x =>
    obtain ⟨b, d⟩ := x
    simp

theorem parse_eq_ok_iff {cs : List Char} {body : List Stmt} :
    parse cs = .ok body ↔ '\x00' ∉ cs ∧ Accepted (programText cs) body := by
  unfold parse
  by_cases hnull : '\x00' ∈ cs
  · rw [if_pos (List.contains_iff_mem.2 hnull)]
    exact ⟨fun h => (by cases h), fun h => absurd hnull h.1⟩
  · rw [if_neg (mt List.contains_iff_mem.1 hnull)]
    dsimp only
    rw [run_eq_ok_iff, and_iff_right hnull]
    constructor
    · rintro ⟨d, h⟩
      obtain ⟨b, e, hb, he⟩ := Reader.bind_eq_ok.1 h
      rw [Reader.expect_bind] at he
      split at he
      · rename_i hfinish
        cases he
        exact ⟨e, hb, hfinish⟩
      · cases he
    · rintro ⟨e, hb, hfinish⟩
      refine ⟨e.next, Reader.bind_eq_ok.2 ⟨body, e, hb, ?_⟩⟩
      rw [Reader.expect_bind, if_pos hfinish]
      rfl

namespace Statements

def Gist.forget {γ : Type} : Gist γ → Gist Unit
  | .function isAsync name _ doc => .function isAsync name () doc
  | .type name doc => .type name doc
  | .expr e => .expr e
  | .other => .other

theorem forget_gist {γ : Type} (mark : Nat × Nat → γ) (s : Stmt) : (gist mark s).forget = gist (fun _ => ()) s := by
  cases s <;> rfl

theorem SameGist.forget {γ : Type} {mark : Nat × Nat → γ} {l l' : List Stmt} (h : SameGist mark l l') :
    SameGist (fun _ => ()) l l' := by
  have := congrArg (List.map Gist.forget) h
  unfold SameGist
  simpa only [List.map_map, Function.comp_def, forget_gist] using this

theorem SameGist.trans {γ : Type} {mark : Nat × Nat → γ} {l l' l'' : List Stmt} (h : SameGist mark l l')
    (h' : SameGist mark l' l'') : SameGist mark l l'' := Eq.trans h h'

theorem SameGist.split {before inner after body : List Stmt} {span : Span} {name : String} {params : Params}
    {decorators : List Expr} {returns : Option Expr}
    (h : SameGist id (before ++ .funcDef false span name params inner decorators returns :: after) body) :
    ∃ before' span' params' inner' decorators' returns' after', SameGist id before before' ∧ SameGist id after after' ∧
      span'.line = span.line ∧
      body = before' ++ .funcDef false span' name params' inner' decorators' returns' :: after' := by
  unfold SameGist at h
  rw [List.map_append, List.map_cons] at h
  obtain ⟨before', rest, rfl, hbefore, hrest⟩ := List.map_eq_append_iff.1 h.symm
  obtain ⟨s, after', rfl, hs, hafter⟩ := List.map_eq_cons_iff.1 hrest
  cases s with
  | funcDef isAsync span' name' params' inner' decorators' returns' =>
    obtain ⟨rfl, rfl, hspan, -⟩ := Gist.function.inj hs
    exact ⟨before', span', params', inner', decorators', returns', after', hbefore.symm, hafter.symm,
      congrArg Prod.fst hspan, rfl⟩
  | _ => cases hs

end Statements

open Statements

section Inserted

variable {T : List Char} {before inner after : List Stmt} {span : Span} {name : String} {params : Params}
  {decorators : List Expr} {returns : Option Expr}
  (hacc : Accepted T (before ++ .funcDef false span name params inner decorators returns :: after))

include hacc

theorem exists_reached_text {T' : List Char} {U U' V V' : List Token} {nl nl' : Token} (hlen : T.length ≤ T'.length)
    (hts : tokens T = U ++ nl :: V) (hts' : tokens T' = U' ++ nl' :: V') (hU : U'.map Token.tok = U.map Token.tok)
    (hnl : nl.tok = .newline) (hnl' : nl'.tok = .newline) (hline : span.line = nl.line) :
    ∃ before₂ inner₂ after₂, SameGist (fun _ => ()) before before₂ ∧ SameGist (fun _ => ()) after after₂ ∧
      Nonempty (Reached (T'.length + 1) nl nl' V V' (tokens T) (tokens T') before₂ name inner₂ after₂) := by
  have hweight := weight_tokens_le T
  have hweight' := weight_tokens_le T'
  obtain ⟨body, hacc', hgist⟩ := hacc.deepen (by omega) (Nat.add_le_add_right hlen 2)
  obtain ⟨before₂, span₂, params₂, inner₂, decorators₂, returns₂, after₂, hbefore, hafter, hspan, rfl⟩ := hgist.split
  exact ⟨before₂, inner₂, after₂, hbefore.forget, hafter.forget, exists_reached hacc' (by omega) (by omega)
    (reads_tokens T).sorted.1 hts hts' hU hnl hnl' (hspan.trans hline)⟩

theorem level_line {U V : List Token} {nl : Token} (hts : tokens T = U ++ nl :: V) (hnl : nl.tok = .newline)
    (hline : span.line = nl.line) : level U = 0 := by
  obtain ⟨_, _, _, -, -, ⟨R⟩⟩ := exists_reached_text hacc (Nat.le_refl _) hts hts rfl hnl hnl hline
  have h := R.level_eq
  rw [hts, level_append] at h
  omega

end Inserted

/-! ## The string behind the line of a function -/

theorem exists_reads (s : Scan) : ∃ ts, Reads s ts := ⟨_, reads_readFrom _ s (Nat.lt_succ_self _)⟩

theorem ReadsTo.quoted {pre : List Char} {U : List Token} (h : ReadsTo pre U []) {k : Nat} {body : List Char} (hk : 0 < k)
    (hq : '"' ∉ body) (hb : '\\' ∉ body) (rest : List Char) : ∃ U' nl' ind str nl₂ W s,
      tokens (pre ++ '\n' :: quotedBefore k body rest) = U' ++ nl' :: ind :: str :: nl₂ :: W ∧
        U'.map Token.tok = U.map Token.tok ∧ nl'.tok = .newline ∧ ind.tok = .indent ∧
        str.tok = .string (plainQuote body) ∧ nl₂.tok = .newline ∧ s.Starts [(k, k)] rest ∧ Reads s W := by
  obtain ⟨U', nl', s₁, hU', hnl', hs₁, htokens⟩ := h (quotedBefore k body rest)
  obtain ⟨ind, str, nl₂, s₂, hruns, hind, hstr, hnl₂, hs₂⟩ := runs_quoted hk hq hb hs₁
  obtain ⟨W, hW⟩ := exists_reads s₂
  exact ⟨U', nl', ind, str, nl₂, W, s₂, htokens _ (hruns.reads hW), hU', hnl', hind, hstr, hnl₂, hs₂, hW⟩

/-- The second text is the first one, or that without an empty last line. -/
def Trimmed (rest rest' : List Char) : Prop := rest' = rest ∨ rest = rest' ++ ['\n'] ∧ (rest' = [] ∨ Finished rest')

namespace Trimmed

variable {rest rest' : List Char} (h : Trimmed rest rest')

include h

theorem columns? {x : Nat × Nat} (hx : columns? rest = some x) : Source.columns? rest' = some x := by
  rcases h with rfl | ⟨rfl, h⟩
  · exact hx
  · exact columns?_dropEmpty h hx

theorem length_le : rest.length ≤ rest'.length + 1 := by
  rcases h with rfl | ⟨rfl, -⟩
  · exact Nat.le_succ _
  · simp

theorem toks_eq {s s' : Scan} {indents : List (Nat × Nat)} {V V' : List Token} (hne : rest' ≠ []) (hs : s.Starts indents rest)
    (hV : Reads s V) (hfine : ∀ t ∈ V, ∀ f, t.tok ≠ .fault f) (hs' : s'.Starts indents rest') (hV' : Reads s' V') :
    V'.map Token.tok = V.map Token.tok := by
  rcases h with rfl | ⟨rfl, hnil | hfin⟩
  · obtain ⟨V₂, hV₂, htoks⟩ := hV.of_lineStart hs.lineStart hs'.lineStart (hs'.indents.trans hs.indents.symm)
      (hs'.opens.trans hs.opens.symm) (hs'.rest.trans hs.rest.symm)
    rw [hV'.unique hV₂, htoks]
  · exact absurd hnil hne
  · exact hs.dropEmpty hs' hfin hV hfine hV'

end Trimmed

theorem columns?_nil : columns? [] = some (0, 0) := by
  have hi : indentation 0 0 0 [] = .ok (0, 0, 0, []) := by rw [indentation]
  exact columns?_word hi rfl

section Site

variable {T pre rest rest' : List Char} {U V : List Token} {nl : Token} {s : Scan} {before inner after : List Stmt}
  {span : Span} {name : String} {params : Params} {decorators : List Expr} {returns : Option Expr} {k : Nat}
  {body : List Char} {points : List Nat}
  (hacc : Accepted T (before ++ .funcDef false span name params inner decorators returns :: after))
  (hT : T = pre ++ '\n' :: rest) (hts : tokens T = U ++ nl :: V) (hnl : nl.tok = .newline) (hline : span.line = nl.line)
  (hpre : ReadsTo pre U []) (hs : s.Starts [] rest) (hV : Reads s V) (hk : 0 < k) (hq : '"' ∉ body) (hb : '\\' ∉ body)
  (hp : textPoints false body = some points) (hend : Trimmed rest rest')

include hT hend in
theorem length_le_quoted (k : Nat) (body : List Char) : T.length ≤ (pre ++ '\n' :: quotedBefore k body rest').length := by
  have := hend.length_le
  rw [hT]
  simp only [quotedBefore, List.length_append, List.length_cons]
  omega

include hacc hT hts hnl hline hpre hs hV hk hq hb hp hend

/-- **Before a block in the same columns the string documents the function.** -/
theorem accepted_of_columns (hcols : columns? rest = some (k, k)) : ∃ before' span' params' inner' decorators' returns' after',
    SameGist (fun _ => ()) before before' ∧ SameGist (fun _ => ()) after after' ∧
      Accepted (pre ++ '\n' :: quotedBefore k body rest') (before' ++ .funcDef false span' name params'
        (.expr (.literal (.text false points)) :: inner') decorators' returns' :: after') := by
  have hne : k ≠ 0 := Nat.ne_of_gt hk
  have hne' : rest' ≠ [] := fun hnil => by
    have := hend.columns? hcols
    rw [hnil, columns?_nil] at this
    cases this
    exact hne rfl
  -- the block of the function
  obtain ⟨rest₁, hreads⟩ := reads_line hcols
  obtain ⟨ts, W, σ, rfl, htoks, hσ, hW⟩ := (hreads hs hV).1 ((reindent_nil k k).trans (by rw [if_neg hne, if_neg hne]))
  obtain ⟨ind, _, rfl, hind, hnil⟩ := List.map_eq_cons_iff.1 htoks
  obtain rfl := List.map_eq_nil_iff.1 hnil
  have hfine : ∀ t ∈ W, ∀ f, t.tok ≠ .fault f := fun t ht f => hacc.fine (by rw [hts]; simp [ht]) f
  -- the same block behind the string
  obtain ⟨_, _, _, _, _, W₁, s₁, -, -, -, -, -, -, hs₁, hW₁⟩ := hpre.quoted hk hq hb rest
  obtain ⟨ts₁, W₂, σ₁, rfl, htoks₁, hσ₁, hW₂⟩ := (hreads hs₁ hW₁).1 (reindent_same k)
  obtain rfl := List.map_eq_nil_iff.1 htoks₁
  obtain ⟨W₃, hW₃, htoks₃⟩ := hW.follow (hσ.like hσ₁) (hσ₁.rest.trans hσ.rest.symm)
  obtain rfl := hW₂.unique hW₃
  have hfine₁ : ∀ t ∈ W₂, ∀ f, t.tok ≠ .fault f := fun t ht f hf => by
    have hmem : Tok.fault f ∈ W₂.map Token.tok := List.mem_map.2 ⟨t, ht, hf⟩
    rw [htoks₃] at hmem
    obtain ⟨u, hu, huf⟩ := List.mem_map.1 hmem
    exact hfine u hu f huf
  -- and without its empty last line
  obtain ⟨U', nl', ind', str, nl₂, W', s', htokens', hU', hnl', hind', hstr, hnl₂, hs', hW'⟩ := hpre.quoted hk hq hb rest'
  have htoks' := (hend.toks_eq hne' hs₁ hW₁ hfine₁ hs' hW').trans htoks₃
  have hlen := length_le_quoted hT hend k body
  obtain ⟨before₂, inner₂, after₂, hbefore, hafter, ⟨R⟩⟩ := exists_reached_text hacc hlen hts htokens' hU' hnl hnl' hline
  have hweight := weight_tokens_le (pre ++ '\n' :: quotedBefore k body rest')
  obtain ⟨before', span', params', inner', decorators', returns', after', hbefore', hafter', hacc'⟩ :=
    R.accepts rfl hind' hstr hnl₂ rfl rfl hp (R.head_newline rfl hind) (by omega) rfl htoks'
  exact ⟨before', span', params', inner', decorators', returns', after', hbefore.trans hbefore', hafter.trans hafter', hacc'⟩

/-- **Before anything else the string makes a text that is no program.** -/
theorem refused_of_columns (hcols : columns? rest ≠ some (k, k)) (statements : List Stmt) :
    ¬ Accepted (pre ++ '\n' :: quotedBefore k body rest') statements := by
  obtain ⟨U', nl', ind', str, nl₂, W', s', htokens', hU', hnl', hind', hstr, hnl₂, hs', hW'⟩ := hpre.quoted hk hq hb rest'
  have hlen := length_le_quoted hT hend k body
  obtain ⟨before₂, inner₂, after₂, -, -, ⟨R⟩⟩ := exists_reached_text hacc hlen hts htokens' hU' hnl hnl' hline
  have hweight := weight_tokens_le (pre ++ '\n' :: quotedBefore k body rest')
  by_cases hhead : R.head.tok = .newline
  · obtain ⟨ind, W, rfl, hind⟩ := R.exists_indent hhead
    obtain ⟨col, alt, hsome, hcol, halt⟩ := columns_of_indent hs hV hind
    obtain ⟨rest₁, hreads⟩ := reads_line (hend.columns? hsome)
    -- behind the string comes an indentation or a fault
    obtain ⟨t, X, hX, ht, hinner⟩ : ∃ t X, W' = t :: X ∧ startsLine t.tok = true ∧ t.tok.isInner = false := by
      rcases reindent_other hcol (fun h => hcols (hsome.trans (congrArg some h))) with ⟨f, hf⟩ | ⟨indents, hok⟩
      · obtain ⟨t, rfl, ht⟩ := (hreads hs' hW').2 hf
        exact ⟨t, [], rfl, by rw [ht]; rfl, by rw [ht]; rfl⟩
      · obtain ⟨ts, W₂, σ, rfl, htoks, -⟩ := (hreads hs' hW').1 hok
        obtain ⟨t, _, rfl, ht, -⟩ := List.map_eq_cons_iff.1 htoks
        exact ⟨t, _, rfl, by rw [ht]; rfl, by rw [ht]; rfl⟩
    exact R.not_accepts_of_block rfl hind' hstr hnl₂ rfl rfl hp hhead (by omega) hX ht hinner statements
  · exact R.not_accepts_of_oneLine (by omega) hhead rfl hind' statements

end Site

/-- **Where a string goes into a program, and what comes of it.**  The program has a function at its top, and the line of
its `def` ends there.  Behind that line the text is cut.  A string on lines of its own that is put in there makes a program
in which the function is documented if the block of the function starts in the same columns, and none if it does not. -/
theorem exists_insert {T : List Char} {before inner after : List Stmt} {span : Span} {name : String} {params : Params}
    {decorators : List Expr} {returns : Option Expr}
    (hacc : Accepted T (before ++ .funcDef false span name params inner decorators returns :: after))
    (hline : ∃ t ∈ tokens T, t.tok = .newline ∧ t.line = span.line) :
    ∃ pre rest, T = pre ++ '\n' :: rest ∧ span.line = pre.count '\n' + 1 ∧
      ∀ {k : Nat} {body rest' : List Char} {points : List Nat}, 0 < k → '"' ∉ body → '\\' ∉ body →
        textPoints false body = some points → Trimmed rest rest' →
        (columns? rest = some (k, k) → ∃ before' span' params' inner' decorators' returns' after',
          SameGist (fun _ => ()) before before' ∧ SameGist (fun _ => ()) after after' ∧
            Accepted (pre ++ '\n' :: quotedBefore k body rest') (before' ++ .funcDef false span' name params'
              (.expr (.literal (.text false points)) :: inner') decorators' returns' :: after')) ∧
        (columns? rest ≠ some (k, k) → ∀ statements, ¬ Accepted (pre ++ '\n' :: quotedBefore k body rest') statements) := by
  obtain ⟨nl, hmem, hnl, hnlLine⟩ := hline
  obtain ⟨U, V, hts⟩ := List.append_of_mem hmem
  obtain ⟨pre, rest, indents, hT, hcount, hlevel, ⟨s, hs, hV⟩, hpre⟩ := exists_cut hts hnl
  obtain rfl : indents = [] := by
    rw [level_line hacc hts hnl hnlLine.symm] at hlevel
    exact List.length_eq_zero_iff.1 (by omega)
  refine ⟨pre, rest, hT, hnlLine.symm.trans hcount, fun hk hq hb hp hend => ⟨fun hcols => ?_, fun hcols => ?_⟩⟩
  · exact accepted_of_columns hacc hT hts hnl hnlLine.symm hpre hs hV hk hq hb hp hend hcols
  · exact refused_of_columns hacc hT hts hnl hnlLine.symm hpre hs hV hk hq hb hp hend hcols

end DocReview.Source
