import DocReview.Definition.Record
import DocReview.Proofs.Source.Position
import DocReview.Proofs.Text.Compatibility
/-!
# Names — the names of a program are words

A name is read from the characters that go on with a name and brought into its compatibility form, which has no others
(`Reads.name`).  The name of a function and those of its parameters are names that were read (`within_header`).  So
they have no blank, quote, colon or line end in them, wherever the function stands in a program (`parse_names`).
-/
namespace DocReview.Source

open Text (compatibilityForm)

/-! ## Words -/

def IsWord (s : String) : Prop := ∀ c ∈ s.toList, mayContinueName c = true

theorem isWord_of_wordTok {w : List Char} (hw : ∀ c ∈ w, mayContinueName c = true) {id : String} {ascii : Bool}
    (h : wordTok w = .name id ascii) : IsWord id := by
  unfold wordTok at h
  split at h
  · cases h
  · cases h
    unfold IsWord
    rw [String.toList_ofList]
    exact Text.mayContinueName_compatibilityForm hw

theorem lexeme_name {cs rest : List Char} {id : String} {ascii : Bool} (h : lexeme cs = .ok (some (.name id ascii), rest)) :
    IsWord id := by
  match cs, h with
  | c :: cs, h =>
    unfold lexeme at h
    dsimp only at h
    -- a string, a number and an operator are no names
    split at h
    · split at h <;> cases h
    · split at h
      · split at h
        · have hword : wordTok ((c :: cs).takeWhile mayContinueName) = .name id ascii :=
            Option.some.inj (Prod.mk.inj (Except.ok.inj h)).1
          exact isWord_of_wordTok (List.all_eq_true.1 List.all_takeWhile) hword
        · cases h
      · split at h
        · split at h <;> cases h
        · split at h
          · split at h <;> cases h
          · split at h <;> cases h

theorem Stepped.name {s s' : Scan} {ts : List Token} (h : Stepped s ts s') {t : Token} (ht : t ∈ ts) {id : String}
    {ascii : Bool} (hname : t.tok = .name id ascii) : IsWord id := by
  cases h with
  | bare | inside | blank | comment | lineEnd => cases ht
  | indented hs hi hb ho hr =>
    obtain ⟨u, hu, rfl⟩ := List.mem_map.1 ht
    rcases mem_reindent hr hu with rfl | rfl
    · cases hname
    · cases hname
  | newline =>
    rw [List.mem_singleton.1 ht] at hname
    cases hname
  | @word c cs rest o ts s' hs hr hc hlex hw =>
    cases hw.symm.trans (word_eq_more hw s rfl rest)
    obtain ⟨u, hu, rfl⟩ := Option.map_eq_some_iff.1 (Option.mem_toList.1 ht)
    have htok : u = .name id ascii := hname
    rw [hu, htok] at hlex
    exact lexeme_name hlex

/-- **Every name that is read is a word.** -/
theorem Reads.name {s : Scan} {ts : List Token} (h : Reads s ts) {t : Token} (ht : t ∈ ts) {id : String} {ascii : Bool}
    (hname : t.tok = .name id ascii) : IsWord id := by
  induction h with
  | done h =>
    obtain ⟨u, hu, rfl, -⟩ := readStep_done h ⟨rfl, rfl, rfl, rfl⟩ rfl
    have hlast : u = .name id ascii := by
      rw [List.mem_singleton.1 ht] at hname
      exact hname
    rcases hu with rfl | ⟨f, rfl⟩
    · cases hlast
    · cases hlast
  | step h _ ih =>
    rcases List.mem_append.1 ht with ht | ht
    · exact h.name ht hname
    · exact ih ht

/-! ## Readers of the rest of some tokens -/

open Reader Pairing

/-- All that a reader can give where it reads the rest of some tokens; it leaves a rest of them. -/
def Within {α : Type} (ts : List Token) (p : Reader α) (Q : α → Prop) : Prop :=
  ∀ c a d, c.rest <:+ ts → p c = .ok (a, d) → d.rest <:+ ts ∧ Q a

namespace Within

variable {α β : Type} {ts : List Token} {p : Reader α} {f : α → Reader β} {Q : β → Prop} {I : α → Prop}

theorem bind (hp : Within ts p I) (hf : ∀ a, I a → Within ts (f a) Q) : Within ts (p >>= f) Q := by
  intro c b d hc h
  obtain ⟨a, e, ha, h⟩ := bind_eq_ok.1 h
  obtain ⟨he, hI⟩ := hp c a e hc ha
  exact hf a hI e b d he h

theorem pure {b : β} (h : Q b) : Within ts (Pure.pure b) Q := by
  intro c a d hc ha
  obtain ⟨rfl, rfl⟩ := pure_eq_ok.1 ha
  exact ⟨hc, h⟩

theorem refuse : Within ts Reader.refuse Q := fun _ _ _ _ h => nomatch h

theorem refuseThen {g : α → Reader β} : Within ts (Reader.refuse >>= g) Q := fun _ _ _ _ h => nomatch h

theorem ite {C : Prop} [Decidable C] {q q' : Reader β} (h : Within ts q Q) (h' : Within ts q' Q) :
    Within ts (if C then q else q') Q := by
  split
  · exact h
  · exact h'

theorem peek {g : Tok → Reader β} (h : ∀ t, Within ts (g t) Q) : Within ts (Reader.peek >>= g) Q :=
  fun c b d hc hb => h c.tok c b d hc hb

theorem peek2 {g : Tok × Tok → Reader β} (h : ∀ t, Within ts (g t) Q) : Within ts (Reader.peek2 >>= g) Q := by
  intro c b d hc hb
  rw [peek2_bind] at hb
  exact h _ c b d hc hb

theorem skip {g : Unit → Reader β} (h : Within ts (g ()) Q) : Within ts (Reader.skip >>= g) Q :=
  fun c b d hc hb => h c.next b d (c.next_suffix.trans hc) hb

theorem accept {t : Tok} {g : Bool → Reader β} (h : ∀ b, Within ts (g b) Q) : Within ts (Reader.accept t >>= g) Q := by
  intro c b d hc hb
  rw [accept_bind] at hb
  split at hb
  · exact h true c.next b d (c.next_suffix.trans hc) hb
  · exact h false c b d hc hb

theorem expect {t : Tok} {g : Unit → Reader β} (h : Within ts (g ()) Q) : Within ts (Reader.expect t >>= g) Q := by
  intro c b d hc hb
  rw [expect_bind] at hb
  split at hb
  · exact h c.next b d (c.next_suffix.trans hc) hb
  · cases hb

theorem loop {step : β → Reader (Option β)} (h : ∀ b, Q b → Within ts (step b) fun o => ∀ b' ∈ o, Q b') {b : β} (hb : Q b) :
    Within ts (Reader.loop step b) Q := by
  have hiter : ∀ (k : Nat) (b : β), Q b → Within ts (iterate step k b) Q := by
    intro k
    induction k with
    | zero => exact fun b hb => pure hb
    | succ k ih =>
      intro b hb
      refine bind (h b hb) fun o ho => ?_
      cases o with
      | none => exact pure hb
      | some b' => exact ih b' (ho b' rfl)
  exact fun c a d hc ha => hiter _ b hb c a d hc ha

theorem of_same {n : Nat} {q : Reader α} (h : Same diagonal (fun _ => True) n p q) (hw : weight ts < n) :
    Within ts p fun _ => True := by
  intro c a d hc ha
  have hle := weight_le_of_suffix hc
  exact ⟨(h.forward trivial (Nat.lt_of_le_of_lt hle hw) ha).suffix.trans hc, trivial⟩

end Within

/-! ## The names of functions and parameters -/

def NameIn (ts : List Token) (id : String) : Prop := ∃ t ∈ ts, ∃ ascii, t.tok = .name id ascii

theorem within_identifier {ts : List Token} : Within ts identifier (NameIn ts) := by
  intro c id d hc h
  unfold identifier at h
  rw [peek_bind] at h
  cases htok : c.tok with
  | name name ascii =>
    rw [htok] at h
    cases h
    obtain ⟨t, rest, hrest, ht⟩ := Cursor.rest_of_isInner (c := c) (by rw [htok]; rfl)
    refine ⟨c.next_suffix.trans hc, t, hc.subset ?_, ascii, ht.trans htok⟩
    rw [hrest]
    exact List.mem_cons_self
  | _ => rw [htok] at h; cases h

structure ParamsRead.NamedIn (ts : List Token) (p : Rules.ParamsRead) : Prop where
  positional : ∀ x ∈ p.positional, NameIn ts x.name
  keywordOnly : ∀ x ∈ p.keywordOnly, NameIn ts x.name

section Parameters

variable {ts : List Token} {n : Nat} {r : Rules} (h : Rules.Agree n r r) (hw : weight ts < n)

include h hw

theorem within_parameter (annotated : Bool) {p : Rules.ParamsRead} (hp : ParamsRead.NamedIn ts p) :
    Within ts (r.parameter annotated p) (ParamsRead.NamedIn ts) := by
  have hhint : ∀ starrable, Within ts (r.hint annotated starrable) fun _ => True :=
    fun starrable => .of_same (Rules.same_hint h annotated starrable) hw
  have hvalue : Within ts r.expression fun _ => True := .of_same h.expression hw
  refine .ite .refuseThen (.peek2 fun t => ?_)
  split
  · exact .ite .refuseThen (.skip (.pure ⟨nofun, hp.keywordOnly⟩))
  · exact .skip (.bind within_identifier fun id _ => .bind (hhint false) fun _ _ => .pure ⟨hp.positional, hp.keywordOnly⟩)
  · refine .ite .refuseThen (.skip (.peek2 fun u => ?_))
    split
    · exact .pure ⟨hp.positional, hp.keywordOnly⟩
    · exact .skip .refuse
  · refine .ite .refuseThen (.skip (.bind within_identifier fun id _ => .bind (hhint true) fun _ _ => ?_))
    exact .pure ⟨hp.positional, hp.keywordOnly⟩
  · -- a parameter with its annotation and its default
    refine .bind within_identifier fun id hid => .bind (hhint false) fun hint _ => .accept fun b => ?_
    have hcons : ∀ {l : List Param}, (∀ x ∈ l, NameIn ts x.name) → ∀ x ∈ Param.mk id hint :: l, NameIn ts x.name := by
      intro l hl x hx
      rcases List.mem_cons.1 hx with rfl | hx
      · exact hid
      · exact hl x hx
    refine .ite (.bind (.bind hvalue fun e _ => .pure trivial) fun value (_ : True) => ?_)
      (.bind (.pure trivial) fun value (_ : True) => ?_)
    all_goals
      refine .ite (.pure ⟨hp.positional, hcons hp.keywordOnly⟩) ?_
      split
      · exact .pure ⟨hcons hp.positional, hp.keywordOnly⟩
      · exact .ite .refuseThen (.pure ⟨hcons hp.positional, hp.keywordOnly⟩)

theorem within_parameters (annotated : Bool) (close : Punct) :
    Within ts (r.parameters annotated close) fun ps => ∀ x ∈ ps.positional ++ ps.keywordOnly, NameIn ts x.name := by
  have hstart : ParamsRead.NamedIn ts {} := ⟨nofun, nofun⟩
  refine .peek fun t => .ite (.pure nofun) (.bind (within_parameter h hw annotated hstart) fun p hp => ?_)
  refine .bind (I := ParamsRead.NamedIn ts) (.loop (fun q hq => .accept fun b => ?_) hp) fun q hq => .pure fun x hx => ?_
  · refine .ite (.peek fun t => .ite (.pure nofun) ?_) (.pure nofun)
    refine .bind (within_parameter h hw annotated hq) fun q' hq' => .pure fun b hb => ?_
    cases hb
    exact hq'
  · rcases List.mem_append.1 hx with hx | hx
    · exact hq.positional x (List.mem_reverse.1 hx)
    · exact hq.keywordOnly x (List.mem_reverse.1 hx)

/-- **The head of a function has names that were read.** -/
theorem within_header : Within ts (Statements.header r) fun parts =>
    NameIn ts parts.1 ∧ ∀ x ∈ parts.2.1.positional ++ parts.2.1.keywordOnly, NameIn ts x.name := by
  refine .bind within_identifier fun name hname => .expect (.bind (within_parameters h hw true .rparen) fun params hparams => ?_)
  have hreturns : Within ts r.expression fun _ => True := .of_same h.expression hw
  refine .expect (.accept fun b => .ite ?_ ?_)
  · exact .bind (.bind hreturns fun e _ => .pure trivial) fun returns (_ : True) => .expect (.pure ⟨hname, hparams⟩)
  · exact .bind (.pure trivial) fun returns (_ : True) => .expect (.pure ⟨hname, hparams⟩)

end Parameters

theorem Accepted.names {T : List Char} {before inner after : List Stmt} {span : Span} {name : String} {params : Params}
    {decorators : List Expr} {returns : Option Expr}
    (h : Accepted T (before ++ .funcDef false span name params inner decorators returns :: after)) :
    IsWord name ∧ ∀ x ∈ params.positional ++ params.keywordOnly, IsWord x.name := by
  have hweight : weight (tokens T) < T.length + 2 := by
    have := weight_tokens_le T
    omega
  have hword : ∀ {id : String}, NameIn (tokens T) id → IsWord id := by
    rintro id ⟨t, ht, ascii, hname⟩
    exact (reads_tokens T).name ht hname
  obtain ⟨S, hparts⟩ := Statements.exists_site_parts h hweight
  obtain ⟨hstart, hdefine⟩ := S.readUpTo hweight
  have hagree : (Rules.upTo (T.length + 1 + 1)).Agree (T.length + 1 + 1) (Rules.upTo (T.length + 1 + 1)) :=
    Rules.agree_upTo (Nat.le_refl _) (Nat.le_refl _)
  have hrest : S.define.next.rest <:+ tokens T := S.define.next_suffix.trans (hdefine.suffix.trans hstart.suffix)
  obtain ⟨-, hname, hparams⟩ := within_header hagree hweight _ _ _ hrest S.header
  rw [hparts] at hname hparams
  exact ⟨hword hname, fun x hx => hword (hparams x hx)⟩

/-- **The functions of a program and their arguments are named by words.** -/
theorem parse_names {cs : List Char} {body : List Stmt} (hparse : parse cs = .ok body) {f : Definition.FunctionRecord}
    (hf : f ∈ Definition.functionRecords body) : IsWord f.name ∧ ∀ a ∈ f.args, IsWord a.name := by
  obtain ⟨s, hs, hrecord⟩ := List.mem_filterMap.1 hf
  obtain ⟨before, after, rfl⟩ := List.append_of_mem hs
  have haccepted := (parse_eq_ok_iff.1 hparse).2
  cases s with
  | funcDef isAsync span name params inner decorators returns =>
    cases isAsync with
    | true => cases hrecord
    | false =>
      cases hrecord
      obtain ⟨hname, hparams⟩ := haccepted.names
      refine ⟨hname, fun a ha => ?_⟩
      obtain ⟨x, hx, rfl⟩ := List.mem_map.1 ha
      exact hparams x hx
  | _ => cases hrecord

end DocReview.Source
