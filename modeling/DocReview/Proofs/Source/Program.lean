import DocReview.Proofs.Source.Statements
import DocReview.Source.Program
/-!
# Program — what an accepted program is read from

A repeated reader succeeds exactly when it reads items one after the other (`Items`) and stops at a token that starts
none.  A definition that a program has at its top is read from its own decorators, header and block (`Defines`).
-/
namespace DocReview.Source

open Reader

/-! ## Items -/

section Items

variable {α : Type} {starts starts' : Tok → Bool} {item item' : Reader α}

inductive Items (starts : Tok → Bool) (item : Reader α) : Cursor → List α → Cursor → Prop where
  | nil (c : Cursor) : Items starts item c [] c
  | cons {c e d : Cursor} {a : α} {as : List α} (hs : starts c.tok = true) (h : item c = .ok (a, e))
      (ht : Items starts item e as d) : Items starts item c (a :: as) d

namespace Items

variable {c d e : Cursor} {a : α} {as bs : List α}

theorem append (h : Items starts item c as d) (h' : Items starts item d bs e) : Items starts item c (as ++ bs) e := by
  induction h with
  | nil => exact h'
  | cons hs h _ ih => exact .cons hs h (ih h')

theorem append_inv (h : Items starts item c (as ++ bs) e) : ∃ d, Items starts item c as d ∧ Items starts item d bs e := by
  induction as generalizing c with
  | nil => exact ⟨c, .nil c, h⟩
  | cons a as ih =>
    cases h with
    | cons hs h ht =>
      obtain ⟨d, h₁, h₂⟩ := ih ht
      exact ⟨d, .cons hs h h₁, h₂⟩

theorem mem (h : Items starts item c as d) (ha : a ∈ as) : ∃ c e, item c = .ok (a, e) := by
  induction h with
  | nil => cases ha
  | cons _ hitem _ ih =>
    rcases List.mem_cons.1 ha with rfl | ha
    · exact ⟨_, _, hitem⟩
    · exact ih ha

theorem eq_nil (h : Items starts item c as d) (hs : starts c.tok = false) : as = [] ∧ d = c := by
  cases h with
  | nil => exact ⟨rfl, rfl⟩
  | cons hs' => rw [hs] at hs'; cases hs'

theorem exists_cons (h : Items starts item c as d) (hs : starts c.tok = true) (hd : starts d.tok = false) :
    ∃ a e bs, as = a :: bs ∧ item c = .ok (a, e) ∧ Items starts item e bs d := by
  cases h with
  | nil => rw [hs] at hd; cases hd
  | cons _ ha ht => exact ⟨_, _, _, rfl, ha, ht⟩

/-- Reading does not end before a token that starts an item which cannot be read. -/
theorem stuck (h : Items starts item c as d) (hs : starts d.tok = true) (hd : ∀ x, item d ≠ .ok x)
    (h' : Items starts item c bs e) : starts e.tok = true := by
  induction h generalizing bs with
  | nil =>
    cases h' with
    | nil => exact hs
    | cons _ hb => exact absurd hb (hd _)
  | cons hs' ha _ ih =>
    cases h' with
    | nil => exact hs'
    | cons _ hb ht' =>
      rw [ha] at hb
      cases hb
      exact ih hs hd ht'

section Sync

variable {P : Pairing} [P.Mirrors] {n : Nat} {E : α → α → Prop}
  (hi : Alike P (fun c => starts c.tok = true) n (fun _ => True) E item item')

include hi

theorem after (h : Items starts item c as d) (hw : P.size c.rest < n) : After False c d := by
  induction h with
  | nil => exact .refl id _
  | cons hs ha _ ih =>
    have h₁ := hi.forward hs hw ha
    exact h₁.trans (ih (h₁.below hw))

theorem sync (h : Items starts item c as d) {c' : Cursor} (hr : P.rel c c') (hw : P.size c.rest < n)
    (hw' : P.size' c'.rest < n) (hd : P.far d) :
    ∃ as' d', Items starts item' c' as' d' ∧ List.Forall₂ E as as' ∧ P.rel d d' ∧ After False c' d' := by
  induction h generalizing c' with
  | nil c => exact ⟨[], c', .nil c', .nil, hr, .refl id _⟩
  | @cons c e d a as hs ha ht ih =>
    have h₁ := hi.forward hs hw ha
    have hfar := Pairing.Mirrors.far_of_suffix (P := P) (ht.after hi (h₁.below hw)).suffix hd
    obtain ⟨a', e', ha', hE, hr', h₁'⟩ := hi.sync hr hs hw hw' ha hfar
    obtain ⟨as', d', ht', hEs, hrd, h₂'⟩ := ih hr' (h₁.below hw) (h₁'.below' hw') hd
    refine ⟨a' :: as', d', .cons ?_ ha' ht', .cons hE hEs, hrd, h₁'.trans h₂'⟩
    rw [Pairing.Mirrors.tok hr]
    exact hs

end Sync

end Items

def another (starts : Tok → Bool) (item : Reader α) (acc : List α) : Reader (Option (List α)) := do
  if starts (← peek) then return some ((← item) :: acc) else return none

theorem another_of_starts {c : Cursor} {acc : List α} (hs : starts c.tok = true) :
    another starts item acc c = (item >>= fun a => pure (some (a :: acc))) c := by
  unfold another
  rw [peek_bind, if_pos hs]

theorem another_of_not {c : Cursor} {acc : List α} (hs : starts c.tok = false) :
    another starts item acc c = .ok (none, c) := by
  unfold another
  rw [peek_bind, if_neg (Bool.eq_false_iff.1 hs)]
  rfl

theorem iterate_another_of_not {c : Cursor} (hs : starts c.tok = false) (k : Nat) (acc : List α) :
    iterate (another starts item) (k + 1) acc c = .ok (acc, c) := by
  change (another starts item acc c >>= fun x => _) = _
  rw [another_of_not hs]
  rfl

theorem iterate_another_of_error {c : Cursor} {f : Refusal} (hs : starts c.tok = true) (ha : item c = .error f) (k : Nat)
    (acc : List α) : iterate (another starts item) (k + 1) acc c = .error f := by
  change (another starts item acc c >>= fun x => _) = _
  rw [another_of_starts hs]
  change ((item c >>= fun x => _) >>= fun x => _) = _
  rw [ha]
  rfl

theorem iterate_another_of_ok {c e : Cursor} {a : α} (hs : starts c.tok = true) (ha : item c = .ok (a, e)) (k : Nat)
    (acc : List α) : iterate (another starts item) (k + 1) acc c = iterate (another starts item) k (a :: acc) e := by
  refine iterate_of_some ?_
  rw [another_of_starts hs]
  change (item c >>= fun x => _) = _
  rw [ha]
  rfl

variable {P : Pairing} [P.Mirrors] {n : Nat} {E : α → α → Prop}
  (hi : Alike P (fun c => starts c.tok = true) n (fun _ => True) E item item')

include hi

theorem iterate_another_eq_ok : ∀ {k : Nat} {acc as : List α} {c d : Cursor}, P.size c.rest < n → c.rest.length < k →
    (iterate (another starts item) k acc c = .ok (as, d) ↔
      ∃ bs, as = bs.reverse ++ acc ∧ Items starts item c bs d ∧ starts d.tok = false)
  | k + 1, acc, as, c, d, hw, hk => by
    cases hs : starts c.tok with
    | false =>
      rw [iterate_another_of_not hs]
      constructor
      · intro h
        cases h
        exact ⟨[], rfl, .nil c, hs⟩
      · rintro ⟨bs, rfl, hbs, -⟩
        obtain ⟨rfl, rfl⟩ := hbs.eq_nil hs
        rfl
    | true =>
      cases ha : item c with
      | error f =>
        rw [iterate_another_of_error hs ha]
        refine ⟨fun h => (by cases h), ?_⟩
        rintro ⟨bs, -, hbs, hd⟩
        obtain ⟨_, _, _, -, hb, -⟩ := hbs.exists_cons hs hd
        rw [ha] at hb
        cases hb
      | ok x =>
        obtain ⟨a, e⟩ := x
        have hafter := hi.forward hs hw ha
        have hlt := hafter.shorter trivial
        rw [iterate_another_of_ok hs ha, iterate_another_eq_ok (hafter.below hw) (by omega)]
        constructor
        · rintro ⟨bs, rfl, hbs, hd⟩
          exact ⟨a :: bs, by rw [List.reverse_cons, List.append_assoc]; rfl, .cons hs ha hbs, hd⟩
        · rintro ⟨bs, rfl, hbs, hd⟩
          obtain ⟨b, _, bs, rfl, hb, ht⟩ := hbs.exists_cons hs hd
          rw [ha] at hb
          cases hb
          exact ⟨bs, by rw [List.reverse_cons, List.append_assoc]; rfl, ht, hd⟩

/-- **A repeated reader reads items one after the other, up to a token that starts none.** -/
theorem many_eq_ok {as : List α} {c d : Cursor} (hw : P.size c.rest < n) :
    many starts item c = .ok (as, d) ↔ Items starts item c as d ∧ starts d.tok = false := by
  have hmany : many starts item c = .ok (as, d) ↔
      iterate (another starts item) c.rest.length.succ [] c = .ok (as.reverse, d) := by
    change (loop (another starts item) [] >>= fun items => pure items.reverse) c = .ok (as, d) ↔ _
    rw [bind_eq_ok]
    constructor
    · rintro ⟨l, e, hl, he⟩
      obtain ⟨rfl, rfl⟩ := pure_eq_ok.1 he
      rw [List.reverse_reverse]
      exact hl
    · intro h
      exact ⟨as.reverse, d, h, by rw [List.reverse_reverse]; rfl⟩
  rw [hmany, iterate_another_eq_ok hi hw (Nat.lt_succ_self _)]
  constructor
  · rintro ⟨bs, hbs, h⟩
    rw [List.append_nil, List.reverse_inj] at hbs
    rwa [hbs]
  · exact fun h => ⟨as, (List.append_nil _).symm, h⟩

end Items

/-! ## What statements are not definitions -/

def Yields {α : Type} (p : Reader α) (Q : α → Prop) : Prop := ∀ c a d, p c = .ok (a, d) → Q a

namespace Yields

variable {α β : Type} {p : Reader α} {f : α → Reader β} {Q : β → Prop} {I : α → Prop}

theorem bind (hf : ∀ a, Yields (f a) Q) : Yields (p >>= f) Q := by
  intro c b d h
  obtain ⟨a, e, -, h⟩ := bind_eq_ok.1 h
  exact hf a e b d h

theorem bindWhere (hp : Yields p I) (hf : ∀ a, I a → Yields (f a) Q) : Yields (p >>= f) Q := by
  intro c b d h
  obtain ⟨a, e, ha, h⟩ := bind_eq_ok.1 h
  exact hf a (hp c a e ha) e b d h

theorem pure {b : β} (h : Q b) : Yields (Pure.pure b) Q := by
  intro c a d ha
  obtain ⟨rfl, -⟩ := pure_eq_ok.1 ha
  exact h

theorem ite {C : Prop} [Decidable C] {q q' : Reader β} (h : Yields q Q) (h' : Yields q' Q) :
    Yields (if C then q else q') Q := by
  split
  · exact h
  · exact h'

theorem loop {step : β → Reader (Option β)} (h : ∀ b, Q b → Yields (step b) fun o => ∀ b' ∈ o, Q b') {b : β} (hb : Q b) :
    Yields (Reader.loop step b) Q := by
  have hiter : ∀ (k : Nat) (b : β), Q b → Yields (iterate step k b) Q := by
    intro k
    induction k with
    | zero => exact fun b hb => pure hb
    | succ k ih =>
      intro b hb
      refine bindWhere (h b hb) fun o ho => ?_
      cases o with
      | none => exact pure hb
      | some b' => exact ih b' (ho b' rfl)
  exact fun c a d ha => hiter _ b hb c a d ha

end Yields

namespace Statements

def isNoFunction : Stmt → Bool
  | .funcDef .. => false
  | _ => true

variable {r : Rules} {d : Reader (List Stmt)}

theorem yields_expressionStatement : Yields (expressionStatement r) fun s => isNoFunction s = true := by
  refine .bind fun first => .bind fun t => ?_
  split
  · refine .ite (.bind fun _ => ?_) (.bind fun _ => .bind fun _ => .bind fun b => .ite (.bind fun _ => .pure rfl) (.pure rfl))
    exact .bind fun _ => .bind fun _ => .bind fun b => .ite (.bind fun _ => .pure rfl) (.pure rfl)
  · exact .bind fun _ => .pure rfl
  · split
    · exact .ite (.bind fun _ => .bind fun _ => .bind fun _ => .pure rfl) (.bind fun _ => .bind fun _ => .pure rfl)
    · exact .pure rfl

theorem yields_simple : Yields (simple r) fun s => isNoFunction s = true := by
  refine .bind fun t => ?_
  split
  · exact .bind fun _ => .bind fun _ => .ite (.bind fun _ => .pure rfl) (.pure rfl)
  · exact .bind fun _ => .bind fun _ => .pure rfl
  · refine .bind fun _ => .bind fun level => .bind fun t => ?_
    have hrest : ∀ module : Option String, Yields
        (do expectK .kImport; return Stmt.importFrom module (← importedNames) level) fun s => isNoFunction s = true :=
      fun module => .bind fun _ => .bind fun _ => .pure rfl
    exact .ite (.bind fun module => hrest module) (.bind fun module => hrest module)
  · refine .bind fun _ => .bind fun _ => .ite (.bind fun _ => .bind fun b => ?_) (.pure rfl)
    exact .ite (.bind fun _ => .pure rfl) (.pure rfl)
  · exact .bind fun _ => .pure rfl
  · exact .bind fun _ => .bind fun _ => .bind fun _ => .pure rfl
  · exact .bind fun _ => .pure rfl
  · exact .bind fun _ => .bind fun _ => .bind fun b => .ite (.bind fun _ => .pure rfl) (.pure rfl)
  · exact .bind fun _ => .pure rfl
  · exact .bind fun _ => .pure rfl
  · exact .bind fun _ => .bind fun _ => .pure rfl
  · exact .bind fun _ => .bind fun _ => .pure rfl
  · exact yields_expressionStatement

theorem yields_simpleLine : Yields (simpleLine r) fun l => ∀ s ∈ l, isNoFunction s = true := by
  refine .bindWhere yields_simple fun first hfirst => ?_
  refine .bindWhere (I := fun acc : List Stmt => ∀ s ∈ acc, isNoFunction s = true) (.loop (fun acc hacc => ?_) nofun)
    fun rest hrest => .bind fun _ => .pure fun s hs => ?_
  · refine .bind fun b => .ite (.bind fun t => .ite (.pure nofun) (.bindWhere yields_simple fun s hs => ?_)) (.pure nofun)
    refine .pure fun acc' hacc' => ?_
    cases hacc'
    intro s' hs'
    rcases List.mem_cons.1 hs' with rfl | hs'
    · exact hs
    · exact hacc s' hs'
  · rcases List.mem_cons.1 hs with rfl | hs
    · exact hfirst
    · exact hrest s (List.mem_reverse.1 hs)

theorem yields_single {p : Reader Stmt} (h : Yields p fun s => isNoFunction s = true) :
    Yields (do return [← p]) fun l => ∀ s ∈ l, isNoFunction s = true := by
  refine .bindWhere h fun s hs => .pure fun s' hs' => ?_
  rw [List.mem_singleton.1 hs']
  exact hs

theorem yields_classDefinition {decorators : List Expr} :
    Yields (classDefinition r d decorators) fun s => isNoFunction s = true := by
  refine .bind fun _ => .bind fun _ => .bind fun _ => .bind fun b => .ite (.bind fun _ => ?_) (.bind fun _ => ?_)
  · exact .bind fun _ => .bind fun _ => .pure rfl
  · exact .bind fun _ => .bind fun _ => .pure rfl

theorem yields_conditional : Yields (conditional r d) fun s => isNoFunction s = true :=
  .bind fun _ => .bind fun _ => .bind fun _ => .pure rfl

theorem yields_whileStatement : Yields (whileStatement r d) fun s => isNoFunction s = true :=
  .bind fun _ => .bind fun _ => .bind fun _ => .bind fun _ => .pure rfl

theorem yields_forStatement {isAsync : Bool} : Yields (forStatement r d isAsync) fun s => isNoFunction s = true :=
  .bind fun _ => .bind fun _ => .bind fun _ => .bind fun _ => .bind fun _ => .bind fun _ => .pure rfl

theorem yields_withStatement {isAsync : Bool} : Yields (withStatement r d isAsync) fun s => isNoFunction s = true :=
  .bind fun _ => .bind fun _ => .bind fun _ => .pure rfl

theorem yields_tryStatement : Yields (tryStatement r d) fun s => isNoFunction s = true := by
  refine .bind fun _ => .bind fun _ => .bind fun x => ?_
  split
  · exact .bind fun _ => .pure rfl
  · exact .bind fun _ => .bind fun _ => .bind fun _ => .pure rfl
  · exact fun _ _ _ h => nomatch h
  · exact fun _ _ _ h => nomatch h

theorem yields_matchBody {subject : Expr} : Yields (matchBody r d subject) fun s => isNoFunction s = true := by
  refine .bind fun b => .ite (.bind fun _ => ?_) ?_
  · exact .bind fun _ => .bind fun _ => .bind fun _ => .pure rfl
  · exact .bind fun _ => .bind fun _ => .bind fun _ => .pure rfl

/-! ## Definitions -/

/-- The definition of a plain function: its decorators, and the cursor at its `def`. -/
inductive Defines (r : Rules) (c : Cursor) : List Expr → Cursor → Prop where
  | plain (h : c.tok = .keyword .kDef) : Defines r c [] c
  | decorated {decorators : List Expr} {e : Cursor} (h : c.tok = .punct .at)
      (hd : many (· = .punct .at) (decorator r) c = .ok (decorators, e)) (he : e.tok = .keyword .kDef) :
      Defines r c decorators e

theorem Defines.tok {c e : Cursor} {decorators : List Expr} (h : Defines r c decorators e) :
    e.tok = .keyword .kDef := by
  cases h with
  | plain h => exact h
  | decorated _ _ he => exact he

theorem statement_of_defines {c e : Cursor} {decorators : List Expr} (h : Defines r c decorators e) :
    statement r d c = (do return [← function r d decorators]) e := by
  unfold statement
  rw [peek2_bind]
  cases h with
  | plain h => rw [h]
  | decorated h hd he =>
    rw [h]
    have hdec : decorated r d c = function r d decorators e := by
      unfold decorator at hd
      unfold decorated
      rw [bind_of_ok hd, peek_bind, he]
    change (decorated r d c >>= fun x => _) = (function r d decorators e >>= fun x => _)
    rw [hdec]

/-- The head of a function from its `def` to its colon: its name, its parameters and what it returns. -/
def header (r : Rules) : Reader (String × Params × Option Expr) := do
  let name ← identifier
  expectP .lparen
  let params ← r.parameters true .rparen
  expectP .rparen
  let returns ← if ← acceptP .arrow then (do return some (← r.expression)) else pure none
  expectP .colon
  return (name, params, returns)

theorem function_eq {decorators : List Expr} {c : Cursor} (hc : c.tok = .keyword .kDef) :
    function r d decorators c = (do
      let x ← header r
      let body ← block r d
      return Stmt.funcDef false (← spanned c.place) x.1 x.2.1 body decorators x.2.2) c.next := by
  unfold function acceptK expectK
  rw [place_bind, accept_bind, if_neg (by rw [hc]; exact nofun), expect_bind, if_pos hc]
  refine congrFun ?_ c.next
  unfold header suite
  simp only [bind_assoc, pure_bind]
  refine bind_congr fun name => bind_congr fun _ => bind_congr fun params => bind_congr fun _ =>
    bind_congr fun b => ?_
  split
  · simp only [bind_assoc, pure_bind]
  · simp only [bind_assoc, pure_bind]

theorem tok_of_function {decorators decs : List Expr} {c e : Cursor} {span : Span} {name : String} {params : Params}
    {body : List Stmt} {returns : Option Expr}
    (h : function r d decorators c = .ok (.funcDef false span name params body decs returns, e)) :
    c.tok = .keyword .kDef := by
  unfold function acceptK expectK at h
  rw [place_bind, accept_bind] at h
  split at h
  · have hasync : ∀ (name : String) (params : Params) (returns : Option Expr), Yields
        (do let body ← suite r d
            return Stmt.funcDef true (← spanned c.place) name params body decorators returns)
        fun s => ∀ span name params body decs returns, s ≠ .funcDef false span name params body decs returns :=
      fun name params returns => .bind fun _ => .bind fun _ => .pure fun _ _ _ _ _ _ h => nomatch h
    have hno := Yields.bind (fun _ => Yields.bind fun name => Yields.bind fun _ => Yields.bind fun params => Yields.bind fun _ =>
      Yields.bind fun b => Yields.ite (.bind fun returns => hasync name params returns)
        (.bind fun returns => hasync name params returns)) _ _ _ h
    exact absurd rfl (hno span name params body decs returns)
  · rw [expect_bind] at h
    split at h
    · next ht => exact ht
    · cases h

theorem function_of_decorated {c e : Cursor} {span : Span} {name : String} {params : Params} {body : List Stmt}
    {decs : List Expr} {returns : Option Expr}
    (h : decorated r d c = .ok (.funcDef false span name params body decs returns, e)) :
    ∃ decorators c₁, many (· = .punct .at) (decorator r) c = .ok (decorators, c₁) ∧ c₁.tok = .keyword .kDef ∧
      function r d decorators c₁ = .ok (.funcDef false span name params body decs returns, e) := by
  obtain ⟨decorators, c₁, hdec, h⟩ := bind_eq_ok.1 h
  rw [peek_bind] at h
  generalize ht : c₁.tok = t at h
  split at h
  · exact ⟨decorators, c₁, hdec, ht, h⟩
  · have hdef := tok_of_function h
    rw [ht] at hdef
    cases hdef
  · cases yields_classDefinition _ _ _ h
  · cases h

/-- **A statement that defines a plain function is its definition.** -/
theorem defines_of_statement {c e : Cursor} {l : List Stmt} {s : Stmt} {span : Span} {name : String} {params : Params}
    {body : List Stmt} {decs : List Expr} {returns : Option Expr} (h : statement r d c = .ok (l, e)) (hs : s ∈ l)
    (hf : s = .funcDef false span name params body decs returns) :
    ∃ decorators c₁, Defines r c decorators c₁ ∧ l = [s] ∧ function r d decorators c₁ = .ok (s, e) := by
  have hno : ∀ {p : Reader (List Stmt)} {c : Cursor}, Yields p (fun l => ∀ s ∈ l, isNoFunction s = true) →
      p c ≠ .ok (l, e) := by
    intro p c hp h
    have := hp c l e h s hs
    rw [hf] at this
    cases this
  have hsingle : ∀ {p : Reader Stmt} {c : Cursor}, (do return [← p] : Reader (List Stmt)) c = .ok (l, e) →
      l = [s] ∧ p c = .ok (s, e) := by
    intro p c h
    obtain ⟨s', e', hp, h⟩ := bind_eq_ok.1 h
    obtain ⟨rfl, rfl⟩ := pure_eq_ok.1 h
    rw [List.mem_singleton.1 hs]
    exact ⟨rfl, hp⟩
  obtain ⟨x, c', hx, h⟩ := bind_eq_ok.1 h
  rw [peek2_eq] at hx
  cases hx
  generalize hx : (c.tok, c.next.tok) = x at h
  split at h
  · obtain ⟨hl, h⟩ := hsingle h
    subst hf
    obtain ⟨decorators, c₁, hdec, ht, hfun⟩ := function_of_decorated h
    exact ⟨decorators, c₁, .decorated (Prod.mk.inj hx).1 hdec ht, hl, hfun⟩
  · obtain ⟨hl, h⟩ := hsingle h
    exact ⟨[], c, .plain (Prod.mk.inj hx).1, hl, h⟩
  · obtain ⟨hl, h⟩ := hsingle h
    rw [hf] at h
    have := tok_of_function h
    rw [(Prod.mk.inj hx).1] at this
    cases this
  · exact absurd h (hno (.bind fun _ => yields_single yields_withStatement))
  · exact absurd h (hno (.bind fun _ => yields_single yields_forStatement))
  · cases h
  · exact absurd h (hno (yields_single yields_classDefinition))
  · exact absurd h (hno (yields_single yields_conditional))
  · exact absurd h (hno (yields_single yields_whileStatement))
  · exact absurd h (hno (yields_single yields_forStatement))
  · exact absurd h (hno (yields_single yields_withStatement))
  · exact absurd h (hno (yields_single yields_tryStatement))
  · refine absurd h (hno (.ite (.bind fun o => ?_) yields_simpleLine))
    split
    · exact yields_single yields_matchBody
    · exact yields_simpleLine

end Statements

/-! ## Where no statement starts -/

def Pairing.still (c₀ : Cursor) : Pairing where
  rel c c' := c = c₀ ∧ c' = c₀
  far _ := True

theorem Pairing.mirrors_still {c₀ : Cursor} (h : c₀.tok.isInner = false) : (Pairing.still c₀).Mirrors where
  tok hr := by rw [hr.1, hr.2]
  next {c c'} hr hi := by
    rw [hr.1, h] at hi
    cases hi
  far_of_suffix _ h := h
  size_le := weight_le_of_suffix
  size_next_lt := Cursor.weight_next_lt
  size'_le := weight_le_of_suffix
  size'_next_lt := Cursor.weight_next_lt

instance {c₀ : Cursor} : (Pairing.still c₀).Weighs where
  weight_le _ := Nat.le_refl _
  weight_le' _ := Nat.le_refl _

theorem starExpressions_ne_ok {c : Cursor} (hc : c.tok.isInner = false) : ∀ {k : Nat}, weight c.rest < k →
    ∀ x, (Rules.upTo k).starExpressions c ≠ .ok x
  | k + 1, hw, (e, d), h => by
    have := Pairing.mirrors_still hc
    have htakes : Takes (Pairing.still c) (fun _ => True) (k + 1) (Rules.upTo k).starExpressionsRule
        (Rules.upTo k).starExpressionsRule := Rules.takes_starExpressionsRule (Rules.agree_upTo (Nat.le_refl k) (Nat.le_refl k))
    obtain ⟨_, d', _, _, hr, ha⟩ := htakes.sync (c := c) ⟨rfl, rfl⟩ trivial hw hw h trivial
    have hlt := ha.shorter trivial
    rw [hr.2] at hlt
    exact Nat.lt_irrefl _ hlt

namespace Statements

theorem simple_ne_ok {c : Cursor} (hc : c.tok.isInner = false) {k : Nat} (hw : weight c.rest < k) (x : Stmt × Cursor) :
    simple (Rules.upTo k) c ≠ .ok x := by
  obtain ⟨s, e⟩ := x
  intro h
  have hexpr : expressionStatement (Rules.upTo k) c ≠ .ok (s, e) := by
    intro h
    obtain ⟨_, _, hstar, -⟩ := bind_eq_ok.1 h
    exact starExpressions_ne_ok hc hw _ hstar
  unfold simple at h
  rw [peek_bind] at h
  generalize ht : c.tok = t at h hc
  cases t with
  | newline | indent | dedent | finish | fault => exact hexpr h
  | name | keyword | number | string | punct => cases hc

theorem simpleLine_ne_ok {c : Cursor} (hc : c.tok.isInner = false) {k : Nat} (hw : weight c.rest < k)
    (x : List Stmt × Cursor) : simpleLine (Rules.upTo k) c ≠ .ok x := by
  intro h
  obtain ⟨_, _, hs, -⟩ := bind_eq_ok.1 h
  exact simple_ne_ok hc hw _ hs

/-- **A statement starts with a word.** -/
theorem statement_ne_ok {c : Cursor} (hc : c.tok.isInner = false) {k : Nat} (hw : weight c.rest < k)
    {d : Reader (List Stmt)} (x : List Stmt × Cursor) : statement (Rules.upTo k) d c ≠ .ok x := by
  intro h
  have hline := simpleLine_ne_ok hc hw x
  unfold statement at h
  rw [peek2_bind] at h
  generalize ht : c.tok = t at h hc
  cases t with
  | newline | indent | dedent | finish | fault => exact hline h
  | name | keyword | number | string | punct => cases hc

end Statements

end DocReview.Source
