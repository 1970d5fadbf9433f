import DocReview.Proofs.Source.Patterns
import DocReview.Source.Grammar.Statement
import DocReview.Definition.Docstring
/-!
# Statements — statements of any sufficient depth are read alike

Simple statements are read word by word, as expressions are.  Compound ones go over the ends of lines and through
indentations, so the cursors have to stay paired there too (`Pairing.Tracks`).  Where two statements stand may differ, and
so may what they hold deeper; what has to agree is their `gist`.
-/
namespace DocReview.Source

open Reader

/-! ## Going over the end of a line -/

/-- Partners stay partners at the ends of lines and blocks, as long as the first is followed there. -/
class Pairing.Tracks (P : Pairing) : Prop extends P.Mirrors where
  step : ∀ {c c'}, P.rel c c' → c.tok.isLayout = true → P.far c.next → P.rel c.next c'.next

namespace Cursor

theorem rest_of_ne_finish {c : Cursor} (h : c.tok ≠ .finish) : ∃ t ts, c.rest = t :: ts ∧ t.tok = c.tok := by
  unfold tok at h ⊢
  cases hr : c.rest with
  | nil => rw [hr] at h; exact absurd rfl h
  | cons t ts => exact ⟨t, ts, rfl, rfl⟩

theorem next_rest {c : Cursor} {t : Token} {ts : List Token} (h : c.rest = t :: ts) : c.next.rest = ts := by
  unfold next
  rw [h]

/-- Where the token stands that a cursor stands at. -/
def place (c : Cursor) : Nat × Nat := (c.rest.head?.map fun t => (t.line, t.col)).getD (0, 0)

end Cursor

theorem Reader.place_bind {β : Type} (f : Nat × Nat → Reader β) (c : Cursor) : (place >>= f) c = f c.place c := by
  obtain ⟨rest, lastLine⟩ := c
  cases rest <;> rfl

theorem After.newline {c : Cursor} (h : c.tok = .newline) (S : Prop) : After S c c.next := by
  obtain ⟨t, ts, hr, ht⟩ := Cursor.rest_of_ne_finish (c := c) (by rw [h]; exact nofun)
  refine ⟨c.next_suffix, ?_, fun _ => ?_⟩
  · rw [Cursor.next_rest hr, hr, level_cons, ht, h]
    exact (Int.zero_add _).symm
  · rw [Cursor.next_rest hr, hr]
    exact Nat.lt_succ_self _

theorem After.indented {S : Prop} {c e : Cursor} (hi : c.tok = .indent) (h : After S c.next e) (he : e.tok = .dedent)
    (T : Prop) : After T c e.next := by
  obtain ⟨t, ts, hr, ht⟩ := Cursor.rest_of_ne_finish (c := c) (by rw [hi]; exact nofun)
  obtain ⟨u, us, hr', hu⟩ := Cursor.rest_of_ne_finish (c := e) (by rw [he]; exact nofun)
  have hle := h.suffix.length_le
  have hlevel := h.level
  rw [hr', level_cons, hu, he, Cursor.next_rest hr] at hlevel
  refine ⟨(e.next_suffix.trans h.suffix).trans c.next_suffix, ?_, fun _ => ?_⟩
  · rw [hr, level_cons, ht, hi, Cursor.next_rest hr', ← hlevel]
    simp only
    omega
  · rw [hr', Cursor.next_rest hr, List.length_cons] at hle
    rw [Cursor.next_rest hr', hr, List.length_cons]
    omega

namespace Alike

open Pairing

variable {α β : Type} {P : Pairing} [P.Tracks] {H : Cursor → Prop} {n : Nat} {L : β → Prop} {F : β → β → Prop}

theorem skipNewline {f f' : Unit → Reader β} (h : Alike P (fun _ => True) n (fun _ => False) F (f ()) (f' ())) :
    Alike P (fun c => c.tok = .newline ∧ H c) n L F (Reader.skip >>= f) (Reader.skip >>= f') where
  forward {c a d} hc hw hp := by
    have hnext := After.newline hc.1 (L a)
    exact hnext.trans_left (h.forward trivial (hnext.below hw) hp)
  sync {c c' a d} hr hc hw hw' hp hd := by
    have hnext := After.newline hc.1 (L a)
    have hnext' := After.newline ((Mirrors.tok hr).trans hc.1) (L a)
    have hfar := Mirrors.far_of_suffix (P := P) (h.forward trivial (hnext.below hw) hp).suffix hd
    obtain ⟨a', d', hp', hF, hr', ha⟩ :=
      h.sync (Tracks.step hr (by rw [hc.1]; rfl) hfar) trivial (hnext.below hw) (hnext'.below' hw') hp hd
    exact ⟨a', d', hp', hF, hr', hnext'.trans_left ha⟩

theorem expectNewline {f f' : Unit → Reader β} (h : Alike P (fun _ => True) n (fun _ => False) F (f ()) (f' ())) :
    Alike P H n L F (Reader.expect .newline >>= f) (Reader.expect .newline >>= f') := by
  unfold Reader.expect
  rw [bind_assoc, bind_assoc]
  exact acceptCases (skipNewline h) (fails fun _ _ _ _ h => nomatch h)

omit [P.Tracks] in
theorem indented_eq_ok {p : Reader α} {g : α → β} {c d : Cursor} {b : β} :
    (Reader.skip >>= fun _ => p >>= fun a => Reader.expect .dedent >>= fun _ => Pure.pure (g a)) c = .ok (b, d) ↔
      ∃ a e, p c.next = .ok (a, e) ∧ e.tok = .dedent ∧ b = g a ∧ d = e.next := by
  rw [skip_bind, bind_eq_ok]
  constructor
  · rintro ⟨a, e, hp, he⟩
    rw [expect_bind] at he
    split at he
    · next ht =>
      obtain ⟨rfl, rfl⟩ := pure_eq_ok.1 he
      exact ⟨a, e, hp, ht, rfl, rfl⟩
    · cases he
  · rintro ⟨a, e, hp, ht, rfl, rfl⟩
    exact ⟨a, e, hp, by rw [expect_bind, if_pos ht]; rfl⟩

theorem indented {E : α → α → Prop} {K : α → Prop} {p p' : Reader α} {g : α → β}
    (h : Alike P (fun _ => True) n K E p p') (hF : ∀ a a', E a a' → F (g a) (g a')) :
    Alike P (fun c => c.tok = .indent ∧ H c) n L F
      (Reader.skip >>= fun _ => p >>= fun a => Reader.expect .dedent >>= fun _ => Pure.pure (g a))
      (Reader.skip >>= fun _ => p' >>= fun a => Reader.expect .dedent >>= fun _ => Pure.pure (g a)) where
  forward {c b d} hc hw hp := by
    obtain ⟨a, e, hpa, he, rfl, rfl⟩ := indented_eq_ok.1 hp
    have hw₁ := Nat.lt_of_le_of_lt (Mirrors.size_le (P := P) c.next_suffix) hw
    exact (h.forward trivial hw₁ hpa).indented hc.1 he _
  sync {c c' b d} hr hc hw hw' hp hd := by
    obtain ⟨a, e, hpa, he, rfl, rfl⟩ := indented_eq_ok.1 hp
    have hw₁ := Nat.lt_of_le_of_lt (Mirrors.size_le (P := P) c.next_suffix) hw
    have hw₁' := Nat.lt_of_le_of_lt (Mirrors.size'_le (P := P) c'.next_suffix) hw'
    have hfar : P.far e := Mirrors.far_of_suffix (P := P) e.next_suffix hd
    have hnext := Tracks.step hr (by rw [hc.1]; rfl) (Mirrors.far_of_suffix (P := P) (h.forward trivial hw₁ hpa).suffix hfar)
    obtain ⟨a', e', hp', hE, hr', ha⟩ := h.sync hnext trivial hw₁ hw₁' hpa hfar
    have he' : e'.tok = .dedent := (Mirrors.tok hr').trans he
    exact ⟨g a', e'.next, indented_eq_ok.2 ⟨a', e', hp', he', rfl, rfl⟩, hF a a' hE, Tracks.step hr' (by rw [he]; rfl) hd,
      ha.indented ((Mirrors.tok hr).trans hc.1) he' _⟩

omit [P.Tracks] in
theorem line_eq_ok {q : Reader α} {c d : Cursor} {a : α} :
    (q >>= fun a => Reader.expect .newline >>= fun _ => Pure.pure a) c = .ok (a, d) ↔
      ∃ e, q c = .ok (a, e) ∧ e.tok = .newline ∧ d = e.next := by
  rw [bind_eq_ok]
  constructor
  · rintro ⟨b, e, hq, he⟩
    rw [expect_bind] at he
    split at he
    · next ht =>
      obtain ⟨rfl, rfl⟩ := pure_eq_ok.1 he
      exact ⟨e, hq, ht, rfl⟩
    · cases he
  · rintro ⟨e, hq, ht, rfl⟩
    exact ⟨a, e, hq, by rw [expect_bind, if_pos ht]; rfl⟩

/-- What is tried up to the end of a line, which is alike both ways before that end. -/
theorem attemptLine {q q' : Reader α} (h : Same P.swap.swap H n q q') (h' : Same P.swap H n q' q)
    (hH : ∀ {c c'}, P.rel c c' → H c → H c') :
    Same P H n (Reader.attempt (q >>= fun a => Reader.expect .newline >>= fun _ => Pure.pure a))
      (Reader.attempt (q' >>= fun a => Reader.expect .newline >>= fun _ => Pure.pure a)) where
  forward {c o d} hc hw hp := by
    unfold Reader.attempt at hp
    split at hp
    · next a e hpa =>
      cases hp
      obtain ⟨e, hq, he, rfl⟩ := line_eq_ok.1 hpa
      exact (h.forward hc hw hq).trans (After.newline he False)
    · cases hp; exact .refl id _
  sync {c c' o d} hr hc hw hw' hp hd := by
    unfold Reader.attempt at hp ⊢
    split at hp
    · next a e hpa =>
      cases hp
      obtain ⟨e, hq, he, rfl⟩ := line_eq_ok.1 hpa
      obtain ⟨a', e', hq', rfl, hr', ha⟩ := h.sync hr hc hw hw' hq trivial
      have he' : e'.tok = .newline := (Mirrors.tok (P := P) hr').trans he
      rw [line_eq_ok.2 ⟨e', hq', he', rfl⟩]
      exact ⟨_, _, rfl, rfl, Tracks.step (P := P) hr' (by rw [he]; rfl) hd, ha.trans (After.newline he' False)⟩
    · next e hpe =>
      cases hp
      split
      · next a' e' hpa' =>
        obtain ⟨e', hq', he', rfl⟩ := line_eq_ok.1 hpa'
        obtain ⟨a, e, hq, rfl, hr', -⟩ := h'.sync hr (hH hr hc) hw' hw hq' trivial
        have he : e.tok = .newline := (Mirrors.tok (P := P) hr').symm.trans he'
        rw [line_eq_ok.2 ⟨e, hq, he, rfl⟩] at hpe
        cases hpe
      · exact ⟨_, _, rfl, rfl, hr, .refl id _⟩

theorem thenAny {K : α → Prop} {E : α → α → Prop} {p p' : Reader α} {f f' : α → Reader β} (hp : Alike P H n K E p p')
    (hE : ∀ a, E a a) (hf : ∀ a a', Alike P (fun _ => True) n (fun _ => False) F (f a) (f' a')) :
    Alike P H n (fun _ => False) F (p >>= f) (p' >>= f') :=
  bind (M := fun _ _ => False) hp hE (fun a a' _ => hf a a') fun _ _ => False.elim

omit [P.Tracks] in
theorem place {γ : Type} (mark : Nat × Nat → γ) {f f' : Nat × Nat → Reader β}
    (hm : ∀ {c c'}, P.rel c c' → H c → mark c.place = mark c'.place)
    (h : ∀ s s', mark s = mark s' → Alike P H n L F (f s) (f' s')) :
    Alike P H n L F (Reader.place >>= f) (Reader.place >>= f') := by
  refine ⟨fun {c a d} hc hw hp => ?_, fun {c c' a d} hr hc hw hw' hp hd => ?_⟩
  · rw [place_bind] at hp
    exact (h _ _ rfl).forward hc hw hp
  · rw [place_bind] at hp ⊢
    exact (h _ _ (hm hr hc)).sync hr hc hw hw' hp hd

omit [P.Tracks] in
theorem spanned {f f' : Span → Reader β} {s s' : Nat × Nat}
    (h : ∀ l l', Alike P H n L F (f ⟨s.1, l, s.2⟩) (f' ⟨s'.1, l', s'.2⟩)) :
    Alike P H n L F (Statements.spanned s >>= f) (Statements.spanned s' >>= f') where
  forward {c _ _} hc hw hp := (h c.lastLine c.lastLine).forward hc hw hp
  sync {c c' _ _} hr hc hw hw' hp hd := (h c.lastLine c'.lastLine).sync hr hc hw hw' hp hd

end Alike

namespace Statements

/-! ## Simple statements -/

section Words

variable {P : Pairing} [P.Mirrors] {H : Cursor → Prop} {n : Nat}

theorem same_dottedName : Same P H n dottedName dottedName := by
  refine .identifier (Nat.le_succ n) fun first => .loop fun s => .acceptIf rfl (Nat.le_succ n) ?_ (.pure (nomatch ·) rfl)
  exact .identifier (Nat.le_succ n) fun _ => .pure (fun h => h) rfl

theorem same_asName : Same P H n asName asName :=
  .acceptIf rfl (Nat.le_succ n) (.identifier (Nat.le_succ n) fun _ => .pure (fun h => h) rfl) (.pure id rfl)

theorem same_dottedAlias : Same P H n dottedAlias dottedAlias :=
  .andThen same_dottedName fun _ => .andThen same_asName fun _ => .pure id rfl

theorem same_plainAlias : Same P H n plainAlias plainAlias :=
  .identifier (Nat.le_succ n) fun _ => .andThen same_asName fun _ => .pure (fun h => h) rfl

theorem same_importedNames : Same P H n importedNames importedNames := by
  refine .acceptIf rfl (Nat.le_succ n) (.pure id rfl) (.acceptIf rfl (Nat.le_succ n) ?_ ?_)
  · refine .andThen same_plainAlias fun first => .andThen (.commaTail same_plainAlias) fun rest => ?_
    exact .expect rfl (Nat.le_succ n) (.pure id rfl)
  · exact (Alike.commaList same_plainAlias).weaken (fun _ _ => trivial) (Nat.le_refl n) fun _ => id

theorem same_leadingDots : Same P H n leadingDots leadingDots := by
  refine .loop fun k => .acceptIf rfl (Nat.le_succ n) (.pure id rfl) ?_
  exact .acceptIf rfl (Nat.le_succ n) (.pure id rfl) (.pure (nomatch ·) rfl)

theorem same_fromImport : Same P H n fromImport fromImport := by
  refine .andThen same_leadingDots fun level => .peek fun t => ?_
  have hrest : ∀ module : Option String, ∀ {H : Cursor → Prop}, Same P H n
      (do expectK .kImport; return Stmt.importFrom module (← importedNames) level)
      (do expectK .kImport; return Stmt.importFrom module (← importedNames) level) := fun module =>
    .expect rfl (Nat.le_succ n) (.andThen same_importedNames fun _ => .pure id rfl)
  refine .ite (fun _ => hrest none) fun _ => ?_
  exact .andThen (.andThen same_dottedName fun _ => .pure id rfl) fun module => hrest module

end Words

section Simple

variable {P : Pairing} [P.Mirrors] [P.Weighs] {H : Cursor → Prop} {n : Nat} {r r' : Rules}

theorem same_rightSide (h : r.Agree n r') : Same P H n (rightSide r) (rightSide r') :=
  .peek fun _ => .ite (fun _ => Rules.same_yieldExpr h) fun _ => h.starExpressions

theorem same_assignment (h : r.Agree n r') (first : Expr) : Same P H n (assignment r first) (assignment r' first) := by
  refine .andThen (.loop fun x => .peek fun t => .ite (fun ht => .ensure fun _ => ?_) fun _ => .pure (nomatch ·) rfl)
    fun x => .pure id rfl
  exact .skipAt (ht ▸ rfl) (Nat.le_succ n) (.andThen (same_rightSide h) fun _ => .pure id rfl)

theorem isInner_of_augmentedOp? {t : Tok} {op : BinOp} (h : augmentedOp? t = some op) : t.isInner = true := by
  unfold augmentedOp? at h
  split at h
  all_goals first | rfl | cases h

theorem same_expressionStatement (h : r.Agree n r') :
    Same P H n (expressionStatement r) (expressionStatement r') := by
  refine .andThen h.starExpressions fun first => .peek fun t => ?_
  split
  · refine .ite (fun _ => .refuseThen) fun _ => .skipAt rfl (Nat.le_succ n) (.andThen h.expression fun hint => ?_)
    exact .acceptIf rfl (Nat.le_succ n) (.andThen (same_rightSide h) fun _ => .pure id rfl) (.pure id rfl)
  · exact same_assignment h first
  · split
    · next op ht =>
      refine .ite (fun _ => .refuseThen) fun _ => .skipAt (isInner_of_augmentedOp? ht) (Nat.le_succ n) ?_
      exact .andThen (same_rightSide h) fun _ => .pure id rfl
    · exact .pure id rfl

theorem same_deleted (h : r.Agree n r') : Same P H n (deleted r) (deleted r') :=
  .andThen h.primary fun _ => .ensure fun _ => .pure id rfl

theorem same_simple (h : r.Agree n r') : Same P H n (simple r) (simple r') := by
  have hnames : Same P (fun _ => True) n (commaList identifier) (commaList identifier) := by
    refine .commaList ?_
    rw [← bind_pure identifier]
    exact .identifier (Nat.le_succ n) fun _ => .pure (fun h => h) rfl
  refine .peek fun t => ?_
  split
  · refine .skipAt rfl (Nat.le_succ n) (.peek fun t => .ite (fun _ => ?_) fun _ => .pure id rfl)
    exact .andThen h.starExpressions fun _ => .pure id rfl
  · exact .skipAt rfl (Nat.le_succ n) (.andThen (.commaList same_dottedAlias) fun _ => .pure id rfl)
  · exact .skipAt rfl (Nat.le_succ n) same_fromImport
  · refine .skipAt rfl (Nat.le_succ n) (.peek fun t => .ite (fun _ => ?_) fun _ => .pure id rfl)
    refine .andThen h.expression fun exc => ?_
    exact .acceptIf rfl (Nat.le_succ n) (.andThen h.expression fun _ => .pure id rfl) (.pure id rfl)
  · exact .skipAt rfl (Nat.le_succ n) (.pure id rfl)
  · refine .skipAt rfl (Nat.le_succ n) (.andThen (same_deleted h) fun first => ?_)
    exact .andThen (.commaTail (same_deleted h)) fun _ => .pure id rfl
  · exact .andThen (Rules.same_yieldExpr h) fun _ => .pure id rfl
  · refine .skipAt rfl (Nat.le_succ n) (.andThen h.expression fun test => ?_)
    exact .acceptIf rfl (Nat.le_succ n) (.andThen h.expression fun _ => .pure id rfl) (.pure id rfl)
  · exact .skipAt rfl (Nat.le_succ n) (.pure id rfl)
  · exact .skipAt rfl (Nat.le_succ n) (.pure id rfl)
  · exact .skipAt rfl (Nat.le_succ n) (.andThen hnames fun _ => .pure id rfl)
  · exact .skipAt rfl (Nat.le_succ n) (.andThen hnames fun _ => .pure id rfl)
  · exact same_expressionStatement h

end Simple

/-! ## What statements have to agree in -/

open Definition (docText?)

/-- What a statement is to the body it stands in: a definition with its place and documentation, or an expression. -/
inductive Gist (γ : Type) where
  | function (isAsync : Bool) (name : String) (start : γ) (doc : Option (List Nat))
  | type (name : String) (doc : Option (List Nat))
  | expr (value : Expr)
  | other

section Gist

variable {γ : Type} (mark : Nat × Nat → γ)

def gist : Stmt → Gist γ
  | .funcDef isAsync span name _ body _ _ => .function isAsync name (mark (span.line, span.col)) (docText? body)
  | .classDef _ name _ _ body _ => .type name (docText? body)
  | .expr e => .expr e
  | _ => .other

def SameGist (l l' : List Stmt) : Prop := l.map (gist mark) = l'.map (gist mark)

def docOf : List (Gist γ) → Option (List Nat)
  | .expr (.literal (.text _ points)) :: _ => some points
  | _ => none

theorem docText?_eq (l : List Stmt) : docText? l = docOf (l.map (gist mark)) := by
  cases l with
  | nil => rfl
  | cons s l =>
    cases s with
    | expr e =>
      cases e with
      | literal x => cases x <;> rfl
      | _ => rfl
    | _ => rfl

variable {mark}

theorem SameGist.docText?_eq {l l' : List Stmt} (h : SameGist mark l l') : docText? l = docText? l' := by
  rw [Statements.docText?_eq mark, h, ← Statements.docText?_eq]

theorem SameGist.of_eq (l l' : List Stmt) (h : l = l') : SameGist mark l l' := h ▸ rfl

end Gist

/-! ## Blocks -/

theorem missingBlock_ne_ok {α : Type} (c d : Cursor) (a : α) : (missingBlock : Reader α) c ≠ .ok (a, d) := by
  intro h
  unfold missingBlock at h
  rw [peek_bind] at h
  generalize c.tok = t at h
  cases t <;> cases h

section Compound

variable {P : Pairing} [P.Tracks] [P.Weighs] {H : Cursor → Prop} {n : Nat} {r r' : Rules} {γ : Type}
  {mark : Nat × Nat → γ} {d d' : Reader (List Stmt)}

def simples (r : Rules) : Reader (List Stmt) := do
  let first ← simple r
  let rest ← loop (fun acc => do
    if ← acceptP .semicolon then
      if (← peek) = .newline then return none else return some ((← simple r) :: acc)
    else return none) []
  return first :: rest.reverse

theorem simpleLine_eq (r : Rules) : simpleLine r = simples r >>= fun l => expect .newline >>= fun _ => pure l := by
  unfold simpleLine simples
  simp only [bind_assoc, pure_bind]

omit [P.Tracks] in
theorem same_simples [P.Mirrors] (h : r.Agree n r') : Same P H n (simples r) (simples r') := by
  refine .andThen (same_simple h) fun first => .andThen (.loop fun acc => ?_) fun rest => .pure id rfl
  refine .acceptIf rfl (Nat.le_succ n) (.peek fun t => .ite (fun _ => .pure id rfl) fun _ => ?_) (.pure (nomatch ·) rfl)
  exact .andThen (same_simple h) fun _ => .pure id rfl

theorem takes_simpleLine (h : r.Agree n r') : Takes P H n (simpleLine r) (simpleLine r') := by
  rw [simpleLine_eq, simpleLine_eq]
  exact .andThen (same_simples h) fun l => .expectNewline (.pure id rfl)

theorem takes_block (h : r.Agree n r') (hd : ∀ {H}, Alike P H n (fun _ => False) (SameGist mark) d d') :
    Alike P H n (fun _ => True) (SameGist mark) (block r d) (block r' d') := by
  refine .acceptCases (.skipNewline (.acceptCases ?_ ?_)) ((takes_simpleLine h).mono SameGist.of_eq)
  · exact .indented hd fun _ _ hE => hE
  · exact .fails fun c _ a e => missingBlock_ne_ok c e a

theorem takes_suite (h : r.Agree n r') (hd : ∀ {H}, Alike P H n (fun _ => False) (SameGist mark) d d') :
    Alike P H n (fun _ => True) (SameGist mark) (suite r d) (suite r' d') :=
  .expect rfl (Nat.le_succ n) ((takes_block h hd).weaken (fun _ => id) (Nat.le_refl n) fun _ => False.elim)

theorem same_clause (h : r.Agree n r') (hd : ∀ {H}, Alike P H n (fun _ => False) (SameGist mark) d d') (k : Keyword) :
    Alike P H (n + 1) (fun _ => False) (SameGist mark) (clause k r d) (clause k r' d') := by
  refine .acceptIf rfl (Nat.le_refl _) ?_ (.pure id rfl)
  exact (takes_suite h hd).weaken (fun _ => id) (Nat.le_refl n) fun _ => False.elim

/-! ## Compound statements -/

def Marks (P : Pairing) (mark : Nat × Nat → γ) : Prop :=
  ∀ {c c'}, P.rel c c' → c.tok.isInner = true → mark c.place = mark c'.place

theorem takes_function (h : r.Agree n r') (hd : ∀ {H}, Alike P H n (fun _ => False) (SameGist mark) d d')
    (hm : Marks P mark) {decorators decorators' : List Expr} (hi : ∀ c, H c → c.tok.isInner = true) :
    Alike P H (n + 1) (fun _ => True) (fun s s' => gist mark s = gist mark s') (function r d decorators)
      (function r' d' decorators') := by
  refine .place mark (fun hr hc => hm hr (hi _ hc)) fun start start' hstart => ?_
  refine .andThen (.accepted rfl) fun isAsync => .expect rfl (Nat.le_refl _) (.identifier (Nat.le_succ n) fun name => ?_)
  refine .expect rfl (Nat.le_succ n) (.andThen (Rules.same_parameters h _ _) fun params => .expect rfl (Nat.le_succ n) ?_)
  have hbody : ∀ (returns : Option Expr) {H}, Alike P H n (fun _ => False) (fun s s' => gist mark s = gist mark s')
      (do let body ← suite r d
          return .funcDef isAsync (← spanned start) name params body decorators returns)
      (do let body ← suite r' d'
          return .funcDef isAsync (← spanned start') name params body decorators' returns) := by
    intro returns H
    refine .bind (M := fun _ _ => False) (takes_suite h hd) (fun _ => rfl) (fun body body' hbody => ?_) fun _ _ => False.elim
    refine .spanned fun l l' => .pure (fun h => h) ?_
    change Gist.function isAsync name (mark start) (docText? body) = .function isAsync name (mark start') (docText? body')
    rw [hstart, hbody.docText?_eq]
  refine .acceptIf rfl (Nat.le_succ n) ?_ (hbody none)
  exact .andThen (.andThen h.expression fun _ => .pure id rfl) fun returns => hbody returns

theorem takes_classDefinition (h : r.Agree n r') (hd : ∀ {H}, Alike P H n (fun _ => False) (SameGist mark) d d')
    {decorators decorators' : List Expr} :
    Alike P H (n + 1) (fun _ => True) (fun s s' => gist mark s = gist mark s') (classDefinition r d decorators)
      (classDefinition r' d' decorators') := by
  refine .place (fun _ => ()) (fun _ _ => rfl) fun start start' _ => ?_
  refine .expect rfl (Nat.le_refl _) (.identifier (Nat.le_succ n) fun name => ?_)
  have hbody : ∀ (args : List Expr × List Argument) {H},
      Alike P H n (fun _ => False) (fun s s' => gist mark s = gist mark s')
      (do let body ← suite r d
          return .classDef (← spanned start) name args.1 args.2 body decorators)
      (do let body ← suite r' d'
          return .classDef (← spanned start') name args.1 args.2 body decorators') := by
    intro args H
    refine .bind (M := fun _ _ => False) (takes_suite h hd) (fun _ => rfl) (fun body body' hbody => ?_) fun _ _ => False.elim
    refine .spanned fun l l' => .pure (fun h => h) ?_
    change Gist.type name (docText? body) = .type name (docText? body')
    rw [hbody.docText?_eq]
  refine .acceptIf rfl (Nat.le_succ n) ?_ (hbody ([], []))
  exact .andThen (Rules.same_classArgs h) fun args => hbody args

def decorator (r : Rules) : Reader Expr := do
  skip
  let e ← r.namedExpression
  expect .newline
  return e

theorem takes_decorator (h : r.Agree n r') :
    Takes P (fun c => decide (c.tok = .punct .at) = true) (n + 1) (decorator r) (decorator r') := by
  refine .skipStart rfl (Nat.le_refl _) (.andThen (Rules.same_namedExpression h) fun e => ?_)
  exact .expectNewline (.pure id rfl)

theorem takes_decorated (h : r.Agree n r') (hd : ∀ {H}, Alike P H n (fun _ => False) (SameGist mark) d d')
    (hm : Marks P mark) : Alike P H (n + 1) (fun _ => True) (fun s s' => gist mark s = gist mark s') (decorated r d)
      (decorated r' d') := by
  refine .andThen (.many (takes_decorator h)) fun decorators => .peek fun t => ?_
  split
  · exact takes_function h hd hm fun c hc => by rw [hc.1]; rfl
  · exact takes_function h hd hm fun c hc => by rw [hc.1]; rfl
  · exact takes_classDefinition h hd
  · exact .refuse

theorem takes_branch (h : r.Agree n r') (hd : ∀ {H}, Alike P H n (fun _ => False) (SameGist mark) d d')
    (hi : ∀ c, H c → c.tok.isInner = true) : Alike P H (n + 1) (fun _ => True) (fun _ _ => True)
      (do skip
          let test ← r.namedExpression
          return (test, ← suite r d))
      (do skip
          let test ← r'.namedExpression
          return (test, ← suite r' d')) := by
  refine .skip (G := fun _ => True) hi (Nat.le_refl _) (fun _ _ => trivial) (.andThen (Rules.same_namedExpression h) fun test => ?_)
  exact .thenAny (takes_suite h hd) (fun _ => rfl) fun _ _ => .pure id trivial

theorem takes_conditional (h : r.Agree n r') (hd : ∀ {H}, Alike P H n (fun _ => False) (SameGist mark) d d')
    (hi : ∀ c, H c → c.tok.isInner = true) : Alike P H (n + 1) (fun _ => True)
      (fun s s' => gist mark s = gist mark s') (conditional r d) (conditional r' d') := by
  refine .bind (M := fun _ _ => False) (takes_branch h hd hi) (fun _ => trivial) (fun x x' _ => ?_)
    fun _ _ _ => .inl trivial
  refine .thenAny (.manyRel (fun _ => trivial) (takes_branch h hd fun c hc => ?_)) (fun _ => ?_) fun elifs elifs' => ?_
  · rw [of_decide_eq_true hc]
    rfl
  · exact List.forall₂_same.2 fun _ _ => trivial
  · exact .thenAny (same_clause h hd _) (fun _ => rfl) fun _ _ => .pure id rfl

theorem same_bodies {β : Type} {F : β → β → Prop} {g g' : List Stmt → List Stmt → β} (h : r.Agree n r')
    (hd : ∀ {H}, Alike P H n (fun _ => False) (SameGist mark) d d') (k : Keyword) (hF : ∀ x y x' y', F (g x y) (g' x' y')) :
    Alike P H n (fun _ => False) F
      (do let body ← suite r d
          return g body (← clause k r d))
      (do let body ← suite r' d'
          return g' body (← clause k r' d')) := by
  refine .thenAny (takes_suite h hd) (fun _ => rfl) fun body body' => ?_
  refine .thenAny ((same_clause h hd k).weaken (fun _ => id) (Nat.le_succ n) fun _ => id) (fun _ => rfl) fun last last' => ?_
  exact .pure id (hF body last body' last')

theorem takes_whileStatement (h : r.Agree n r') (hd : ∀ {H}, Alike P H n (fun _ => False) (SameGist mark) d d')
    (hi : ∀ c, H c → c.tok.isInner = true) : Alike P H (n + 1) (fun _ => True)
      (fun s s' => gist mark s = gist mark s') (whileStatement r d) (whileStatement r' d') := by
  refine .skip (G := fun _ => True) hi (Nat.le_refl _) (fun _ _ => trivial) ?_
  exact .andThen (Rules.same_namedExpression h) fun test => same_bodies h hd .kElse fun _ _ _ _ => rfl

theorem takes_forStatement (h : r.Agree n r') (hd : ∀ {H}, Alike P H n (fun _ => False) (SameGist mark) d d')
    (hi : ∀ c, H c → c.tok.isInner = true) (isAsync : Bool) : Alike P H (n + 1) (fun _ => True)
      (fun s s' => gist mark s = gist mark s') (forStatement r d isAsync) (forStatement r' d' isAsync) := by
  refine .skip (G := fun _ => True) hi (Nat.le_refl _) (fun _ _ => trivial) ?_
  refine .andThen (Rules.same_starTargets h) fun target => .expect rfl (Nat.le_succ n) ?_
  exact .andThen h.starExpressions fun iter => same_bodies h hd .kElse fun _ _ _ _ => rfl

omit [P.Tracks] in
theorem same_withItem [P.Mirrors] (h : r.Agree n r') : Same P H n (withItem r) (withItem r') := by
  refine .andThen h.expression fun context => .acceptIf rfl (Nat.le_succ n) ?_ (.pure id rfl)
  exact .andThen (Rules.same_starTarget h) fun _ => .pure id rfl

omit [P.Tracks] in
theorem same_inParens [P.Mirrors] (h : r.Agree n r') : Same P H n
    (do expectP .lparen
        let first ← withItem r
        let rest ← commaTail startsExpression (withItem r)
        expectP .rparen
        expectP .colon
        return first :: rest)
    (do expectP .lparen
        let first ← withItem r'
        let rest ← commaTail startsExpression (withItem r')
        expectP .rparen
        expectP .colon
        return first :: rest) := by
  refine .expect rfl (Nat.le_succ n) (.andThen (same_withItem h) fun first => ?_)
  refine .andThen (.commaTail (same_withItem h)) fun rest => ?_
  exact .expect rfl (Nat.le_succ n) (.expect rfl (Nat.le_succ n) (.pure id rfl))

theorem same_withItems (h : r.Agree n r') (h' : r'.Agree n r) :
    Same P (fun _ => True) n (withItems r) (withItems r') := by
  refine .andThen (.attempt (same_inParens h) (same_inParens h') fun _ => id) fun o => ?_
  split
  · exact .pure id rfl
  · exact .andThen (.commaList (same_withItem h)) fun items => .expect rfl (Nat.le_succ n) (.pure id rfl)

theorem takes_withStatement (h : r.Agree n r') (h' : r'.Agree n r)
    (hd : ∀ {H}, Alike P H n (fun _ => False) (SameGist mark) d d') (hi : ∀ c, H c → c.tok.isInner = true)
    (isAsync : Bool) : Alike P H (n + 1) (fun _ => True) (fun s s' => gist mark s = gist mark s')
      (withStatement r d isAsync) (withStatement r' d' isAsync) := by
  refine .skip (G := fun _ => True) hi (Nat.le_refl _) (fun _ _ => trivial) (.andThen (same_withItems h h') fun items => ?_)
  exact .thenAny (takes_block h hd) (fun _ => rfl) fun _ _ => .pure id rfl

theorem takes_handler (h : r.Agree n r') (hd : ∀ {H}, Alike P H n (fun _ => False) (SameGist mark) d d')
    (grouped : Bool) : Alike P H (n + 1) (fun _ => True) (fun _ _ => True) (handler r d grouped)
      (handler r' d' grouped) := by
  have hsuite : ∀ (type : Option Expr) (name : Option String) {H}, Alike P H n (fun _ => False) (fun _ _ => True)
      (do return Handler.mk type name (← suite r d)) (do return Handler.mk type name (← suite r' d')) := fun type name _ =>
    .thenAny (takes_suite h hd) (fun _ => rfl) fun _ _ => .pure id trivial
  have hrest : ∀ {H}, Alike P H n (fun _ => False) (fun _ _ => True)
      (do if !grouped && (← peek) = .punct .colon then return Handler.mk none none (← suite r d)
          let type ← r.expression
          let name ← asName
          return Handler.mk (some type) name (← suite r d))
      (do if !grouped && (← peek) = .punct .colon then return Handler.mk none none (← suite r' d')
          let type ← r'.expression
          let name ← asName
          return Handler.mk (some type) name (← suite r' d')) := by
    intro H
    refine .peek fun t => .ite (fun _ => hsuite none none) fun _ => ?_
    exact .andThen h.expression fun type => .andThen same_asName fun name => hsuite (some type) name
  refine .expect rfl (Nat.le_refl _) (.ite (fun _ => ?_) fun _ => hrest)
  exact .expect rfl (Nat.le_succ n) hrest

theorem takes_tryStatement (h : r.Agree n r') (hd : ∀ {H}, Alike P H n (fun _ => False) (SameGist mark) d d')
    (hi : ∀ c, H c → c.tok.isInner = true) : Alike P H (n + 1) (fun _ => True)
      (fun s s' => gist mark s = gist mark s') (tryStatement r d) (tryStatement r' d') := by
  have hclause : ∀ (k : Keyword) {H}, Alike P H n (fun _ => False) (SameGist mark) (clause k r d) (clause k r' d') :=
    fun k _ => (same_clause h hd k).weaken (fun _ => id) (Nat.le_succ n) fun _ => id
  refine .skip (G := fun _ => True) hi (Nat.le_refl _) (fun _ _ => trivial) ?_
  refine .thenAny (takes_suite h hd) (fun _ => rfl) fun body body' => .peek2 (fun t u ht => ?_) fun t u u' ht => ?_
  · split
    · exact .thenAny (hclause .kFinally) (fun _ => rfl) fun _ _ => .pure id rfl
    · refine .thenAny (.manyRel (E := fun _ _ => True) (fun _ => trivial) ?_)
        (fun _ => List.forall₂_same.2 fun _ _ => trivial) fun handlers handlers' => ?_
      · exact (takes_handler h hd _).weaken (fun _ => id) (Nat.le_succ n) fun _ => id
      · refine .thenAny (hclause .kElse) (fun _ => rfl) fun _ _ => ?_
        exact .thenAny (hclause .kFinally) (fun _ => rfl) fun _ _ => .pure id rfl
    · exact .throw _
    · exact .throw _
  · cases t with
    | newline | indent | dedent | finish | fault => exact .throw _
    | name | keyword | number | string | punct => cases ht

def matchHead (r : Rules) : Reader Expr := do
  skip
  let starred := (← peek) = .punct .star
  let first ← r.starNamed
  let subject ←
    if (← peek) = .punct .comma then (do return .tuple (first :: (← commaTail startsStarred r.starNamed)))
    else (do ensure !starred; return first)
  expectP .colon
  return subject

theorem matchSubject_eq (r : Rules) :
    matchSubject r = matchHead r >>= fun e => expect .newline >>= fun _ => pure e := by
  unfold matchSubject matchHead
  simp only [bind_assoc, pure_bind]
  refine bind_congr fun _ => bind_congr fun t => bind_congr fun first => bind_congr fun u => ?_
  split
  · simp only [bind_assoc, pure_bind]
  · simp only [bind_assoc, pure_bind]

omit [P.Tracks] in
theorem same_matchHead [P.Mirrors] (h : r.Agree n r') (hi : ∀ c, H c → c.tok.isInner = true) :
    Same P H n (matchHead r) (matchHead r') := by
  refine .skip (G := fun _ => True) hi (Nat.le_succ n) (fun _ _ => trivial) (.peek fun t => ?_)
  refine .andThen (Rules.same_starNamed h) fun first => .peek fun t => .ite (fun _ => ?_) fun _ => ?_
  · exact .andThen (.andThen (.commaTail (Rules.same_starNamed h)) fun _ => .pure id rfl) fun subject =>
      .expect rfl (Nat.le_succ n) (.pure id rfl)
  · exact .andThen (.ensure fun _ => .pure id rfl) fun subject => .expect rfl (Nat.le_succ n) (.pure id rfl)

theorem caseBlock_eq (r : Rules) (d : Reader (List Stmt)) : caseBlock r d = (do
    expect caseWord
    let pattern ← Matching.casePattern r
    let guard ← if ← acceptK .kIf then (do return some (← r.namedExpression)) else pure none
    return .mk pattern guard (← suite r d)) := rfl

theorem takes_caseBlock (h : r.Agree n r') (hd : ∀ {H}, Alike P H n (fun _ => False) (SameGist mark) d d') :
    Alike P H (n + 1) (fun _ => True) (fun _ _ => True) (caseBlock r d) (caseBlock r' d') := by
  have hsuite : ∀ (pattern : Pattern) (guard : Option Expr) {H}, Alike P H n (fun _ => False) (fun _ _ => True)
      (do return Case.mk pattern guard (← suite r d)) (do return Case.mk pattern guard (← suite r' d')) :=
    fun pattern guard _ => .thenAny (takes_suite h hd) (fun _ => rfl) fun _ _ => .pure id trivial
  rw [caseBlock_eq, caseBlock_eq]
  refine .expect rfl (Nat.le_refl _) (.andThen (Matching.same_casePattern h) fun pattern => ?_)
  refine .acceptIf rfl (Nat.le_succ n) ?_ (hsuite pattern none)
  exact .andThen (.andThen (Rules.same_namedExpression h) fun _ => .pure id rfl) fun guard => hsuite pattern guard

def matchCases (r : Rules) (d : Reader (List Stmt)) : Reader (Case × List Case) := do
  let first ← caseBlock r d
  return (first, ← many (· = caseWord) (caseBlock r d))

theorem matchCases_eq (r : Rules) (d : Reader (List Stmt)) (subject : Expr) :
    (do let first ← caseBlock r d
        let rest ← many (· = caseWord) (caseBlock r d)
        expect .dedent
        return Stmt.matchCases subject (first :: rest)) =
      matchCases r d >>= fun x => expect .dedent >>= fun _ => pure (.matchCases subject (x.1 :: x.2)) := by
  unfold matchCases
  simp only [bind_assoc, pure_bind]

theorem takes_matchBody (h : r.Agree n r') (hd : ∀ {H}, Alike P H n (fun _ => False) (SameGist mark) d d')
    (subject : Expr) : Alike P H (n + 1) (fun _ => True) (fun s s' => gist mark s = gist mark s') (matchBody r d subject)
      (matchBody r' d' subject) := by
  have hcases : ∀ {H}, Alike P H (n + 1) (fun _ => False) (fun _ _ => True) (matchCases r d) (matchCases r' d') := by
    intro H
    refine .thenAny (takes_caseBlock h hd) (fun _ => trivial) fun first first' => ?_
    refine .thenAny (.manyRel (fun _ => trivial) (takes_caseBlock h hd)) (fun _ => ?_) fun rest rest' => .pure id trivial
    exact List.forall₂_same.2 fun _ _ => trivial
  refine .acceptCases ?_ (.fails fun c _ a e hp => ?_)
  · change Alike _ _ _ _ _ (skip >>= fun _ => caseBlock r d >>= fun first => many _ _ >>= fun rest =>
      expect .dedent >>= fun _ => pure _) (skip >>= fun _ => caseBlock r' d' >>= fun first => many _ _ >>= fun rest =>
      expect .dedent >>= fun _ => pure _)
    rw [matchCases_eq, matchCases_eq]
    exact .indented hcases fun _ _ _ => rfl
  · obtain ⟨_, _, hb, -⟩ := bind_eq_ok.1 hp
    exact missingBlock_ne_ok _ _ _ hb

omit [P.Weighs] in
theorem takes_single {p p' : Reader Stmt}
    (h : Alike P H n (fun _ => True) (fun s s' => gist mark s = gist mark s') p p') :
    Alike P H n (fun _ => True) (SameGist mark) (do return [← p]) (do return [← p']) := by
  refine .bind (M := fun _ _ => False) h (fun _ => rfl) (fun s s' hs => .pure id ?_) fun _ _ _ => .inl trivial
  unfold SameGist
  rw [List.map_singleton, List.map_singleton, hs]

theorem takes_matched (h : r.Agree (n + 1) r') (h' : r'.Agree (n + 1) r)
    (hd : ∀ {H}, Alike P H n (fun _ => False) (SameGist mark) d d') :
    Alike P (fun c => c.tok = matchWord) (n + 1) (fun _ => True) (SameGist mark)
      (do match ← attempt (matchSubject r) with
          | some subject => return [← matchBody r d subject]
          | none => simpleLine r)
      (do match ← attempt (matchSubject r') with
          | some subject => return [← matchBody r' d' subject]
          | none => simpleLine r') := by
  have hi : ∀ c : Cursor, c.tok = matchWord → c.tok.isInner = true := fun c hc => hc ▸ rfl
  rw [matchSubject_eq, matchSubject_eq]
  refine .andThen (.attemptLine (same_matchHead h hi) (same_matchHead h' hi) fun hr hc => ?_) fun o => ?_
  · exact (Pairing.Mirrors.tok hr).trans hc
  · split
    · exact takes_single (takes_matchBody (h.mono (Nat.le_succ n)) hd _)
    · exact (takes_simpleLine h).mono SameGist.of_eq

theorem takes_statement (h : r.Agree (n + 1) r') (h' : r'.Agree (n + 1) r)
    (hd : ∀ {H}, Alike P H n (fun _ => False) (SameGist mark) d d') (hm : Marks P mark) :
    Alike P H (n + 1) (fun _ => True) (SameGist mark) (statement r d) (statement r' d') := by
  have h₀ := h.mono (Nat.le_succ n)
  have h₀' := h'.mono (Nat.le_succ n)
  have hline : ∀ {H}, Alike P H (n + 1) (fun _ => True) (SameGist mark) (simpleLine r) (simpleLine r') :=
    (takes_simpleLine h).mono SameGist.of_eq
  refine .peek2 (fun t u ht => ?_) fun t u u' ht => ?_
  · have hi : ∀ c : Cursor, c.tok = t ∧ c.next.tok = u ∧ H c → c.tok.isInner = true := fun c hc => hc.1 ▸ ht
    split
    · exact takes_single (takes_decorated h₀ hd hm)
    · exact takes_single (takes_function h₀ hd hm hi)
    · exact takes_single (takes_function h₀ hd hm hi)
    · next heq =>
      cases heq
      refine .skip (G := fun c => c.tok = .keyword .kWith) hi (Nat.le_succ _) (fun c hc => hc.2.1) ?_
      have hwith := takes_withStatement (H := fun c => c.tok = .keyword .kWith) h₀ h₀' hd (fun c hc => hc ▸ rfl) true
      exact (takes_single hwith).weaken (fun _ => id) (Nat.le_refl _) fun _ => False.elim
    · next heq =>
      cases heq
      refine .skip (G := fun c => c.tok = .keyword .kFor) hi (Nat.le_succ _) (fun c hc => hc.2.1) ?_
      have hfor := takes_forStatement (H := fun c => c.tok = .keyword .kFor) h₀ hd (fun c hc => hc ▸ rfl) true
      exact (takes_single hfor).weaken (fun _ => id) (Nat.le_refl _) fun _ => False.elim
    · exact .skip (G := fun _ => True) hi (Nat.le_succ _) (fun _ _ => trivial) .refuse
    · exact takes_single (takes_classDefinition h₀ hd)
    · exact takes_single (takes_conditional h₀ hd hi)
    · exact takes_single (takes_whileStatement h₀ hd hi)
    · exact takes_single (takes_forStatement h₀ hd hi false)
    · exact takes_single (takes_withStatement h₀ h₀' hd hi false)
    · exact takes_single (takes_tryStatement h₀ hd hi)
    · next heq =>
      cases heq
      refine .ite (fun htm => ?_) fun _ => hline
      exact (takes_matched h h' hd).weaken (fun c hc => hc.1.trans htm) (Nat.le_refl _) fun _ => id
  · cases t with
    | newline | indent | dedent | finish | fault => exact .ite (nomatch ·) fun _ => hline
    | name | keyword | number | string | punct => cases ht

theorem same_statements (h : r.Agree (n + 1) r') (h' : r'.Agree (n + 1) r)
    (hd : ∀ {H}, Alike P H n (fun _ => False) (SameGist mark) d d') (hm : Marks P mark) :
    Alike P H (n + 1) (fun _ => False) (SameGist mark) (statements r d) (statements r' d') := by
  refine .bind (M := fun _ _ => False) (.manyRel (E := SameGist mark) (fun _ => rfl) (takes_statement h h' hd hm))
    (fun l => List.forall₂_same.2 fun _ _ => rfl) (fun l l' hl => .pure id ?_) fun _ _ => False.elim
  unfold SameGist
  induction hl with
  | nil => rfl
  | cons hs _ ih => rw [List.flatten_cons, List.flatten_cons, List.map_append, List.map_append, hs, ih]

/-- **Statements of any depth that a token list cannot exceed are read alike.** -/
theorem same_upTo {m : Nat} (h : r.Agree m r') (h' : r'.Agree m r) (hm : Marks P mark) : ∀ {n k k' : Nat} {H : Cursor → Prop},
    n ≤ m → n ≤ k → n ≤ k' → Alike P H n (fun _ => False) (SameGist mark) (upTo r k) (upTo r' k')
  | 0, _, _, _, _, _, _ => .tooHeavy fun _ _ => Nat.zero_le _
  | n + 1, k + 1, k' + 1, _, hn, hk, hk' => by
    refine same_statements (h.mono hn) (h'.mono hn) (fun {H} => ?_) hm
    exact same_upTo h h' hm (by omega) (by omega) (by omega)

end Compound

end Statements
end DocReview.Source
