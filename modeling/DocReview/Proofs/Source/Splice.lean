import DocReview.Proofs.Source.Lone
import DocReview.Proofs.Source.Run
/-!
# Splice — a string put in after the head of a function

Two token lists agree up to the end of a line on which a function of an accepted program has its head; after it the second
one has an indented string of its own.  If what comes next is the block of the function in both, the second one is
accepted as well, and the function is documented (`Reached.accepts`).  If it is not, the second one is refused
(`Reached.not_accepts_of_oneLine`, `Reached.not_accepts_of_block`).
-/
namespace DocReview.Source

open Reader

/-! ## Cursors before and after a line end -/

namespace Pairing

/-- Cursors that see the same tokens up to the end of a line, where the two lists may part. -/
def before (nl nl' : Token) (X X' : List Token) : Pairing where
  rel c c' := nl.tok = .newline ∧ nl'.tok = .newline ∧ ∃ p p', c.rest = p ++ nl :: X ∧ c'.rest = p' ++ nl' :: X' ∧
    p'.map Token.tok = p.map Token.tok
  far c := (nl :: X).length ≤ c.rest.length

def ahead : Pairing where
  rel c c' := c'.rest.map Token.tok = c.rest.map Token.tok
  far _ := True

def faulty : Pairing where
  rel c c' := c' = c ∧ ∃ t f, c.rest.getLast? = some t ∧ t.tok = .fault f
  far _ := True

variable {nl nl' : Token} {X X' : List Token}

instance : (before nl nl' X X').Tracks where
  tok := by
    rintro c c' ⟨h, h', p, p', hc, hc', hp⟩
    unfold Cursor.tok
    cases p with
    | nil =>
      obtain rfl := List.map_eq_nil_iff.1 hp
      rw [hc, hc']
      exact h'.trans h.symm
    | cons t p =>
      obtain ⟨t', p', rfl, ht, -⟩ := List.map_eq_cons_iff.1 hp
      rw [hc, hc']
      exact ht
  next := by
    rintro c c' ⟨h, h', p, p', hc, hc', hp⟩ hi
    cases p with
    | nil =>
      have : c.tok = .newline := by unfold Cursor.tok; rw [hc]; exact h
      rw [this] at hi
      cases hi
    | cons t p =>
      obtain ⟨t', p', rfl, -, hp⟩ := List.map_eq_cons_iff.1 hp
      exact ⟨h, h', p, p', Cursor.next_rest hc, Cursor.next_rest hc', hp⟩
  step := by
    rintro c c' ⟨h, h', p, p', hc, hc', hp⟩ - hfar
    cases p with
    | nil =>
      have hle : (nl :: X).length ≤ c.next.rest.length := hfar
      rw [Cursor.next_rest hc, List.length_cons] at hle
      omega
    | cons t p =>
      obtain ⟨t', p', rfl, -, hp⟩ := List.map_eq_cons_iff.1 hp
      exact ⟨h, h', p, p', Cursor.next_rest hc, Cursor.next_rest hc', hp⟩
  far_of_suffix hs h := Nat.le_trans h hs.length_le
  size_le := weight_le_of_suffix
  size_next_lt := Cursor.weight_next_lt
  size'_le := weight_le_of_suffix
  size'_next_lt := Cursor.weight_next_lt

instance : (before nl nl' X X').Weighs where
  weight_le _ := Nat.le_refl _
  weight_le' _ := Nat.le_refl _

/-- Cursors that see the same words up to the end of a line, and no end of a line before. -/
def inLine (nl nl' : Token) (X X' : List Token) : Pairing where
  rel c c' := nl.tok = .newline ∧ nl'.tok = .newline ∧ ∃ p p', c.rest = p ++ nl :: X ∧ c'.rest = p' ++ nl' :: X' ∧
    p'.map Token.tok = p.map Token.tok ∧ Tok.newline ∉ p.map Token.tok
  far _ := True

instance : (inLine nl nl' X X').Mirrors where
  tok := by
    rintro c c' ⟨h, h', p, p', hc, hc', hp, -⟩
    exact Mirrors.tok (P := before nl nl' X X') ⟨h, h', p, p', hc, hc', hp⟩
  next := by
    rintro c c' ⟨h, h', p, p', hc, hc', hp, hn⟩ hi
    cases p with
    | nil =>
      have : c.tok = .newline := by unfold Cursor.tok; rw [hc]; exact h
      rw [this] at hi
      cases hi
    | cons t p =>
      obtain ⟨t', p', rfl, -, hp⟩ := List.map_eq_cons_iff.1 hp
      exact ⟨h, h', p, p', Cursor.next_rest hc, Cursor.next_rest hc', hp, fun hmem => hn (List.mem_cons_of_mem _ hmem)⟩
  far_of_suffix _ h := h
  size_le := weight_le_of_suffix
  size_next_lt := Cursor.weight_next_lt
  size'_le := weight_le_of_suffix
  size'_next_lt := Cursor.weight_next_lt

instance : (inLine nl nl' X X').Weighs where
  weight_le _ := Nat.le_refl _
  weight_le' _ := Nat.le_refl _

theorem rest_of_inLine {c c' : Cursor} (h : (inLine nl nl' X X').rel c c') (hc : c.tok = .newline) :
    c.rest = nl :: X ∧ c'.rest = nl' :: X' := by
  obtain ⟨-, -, p, p', hrest, hrest', hp, hn⟩ := h
  cases p with
  | nil =>
    obtain rfl := List.map_eq_nil_iff.1 hp
    exact ⟨hrest, hrest'⟩
  | cons t p =>
    refine absurd ?_ hn
    unfold Cursor.tok at hc
    rw [hrest] at hc
    exact List.mem_cons.2 (Or.inl hc.symm)

theorem ahead_next {c c' : Cursor} (h : ahead.rel c c') : ahead.rel c.next c'.next := by
  change c'.rest.map Token.tok = c.rest.map Token.tok at h
  change c'.next.rest.map Token.tok = c.next.rest.map Token.tok
  cases hc : c.rest with
  | nil =>
    rw [hc] at h
    have hc' := List.map_eq_nil_iff.1 h
    unfold Cursor.next
    rw [hc, hc']
    dsimp only
    rw [hc, hc']
  | cons t ts =>
    rw [hc] at h
    obtain ⟨t', ts', hc', -, hts⟩ := List.map_eq_cons_iff.1 h
    rw [Cursor.next_rest hc, Cursor.next_rest hc', hts]

instance : ahead.Tracks where
  tok {c c'} h := by
    change (c'.rest.head?.map Token.tok).getD _ = (c.rest.head?.map Token.tok).getD _
    rw [← List.head?_map, ← List.head?_map, h]
  next h _ := ahead_next h
  step h _ _ := ahead_next h
  far_of_suffix _ h := h
  size_le := weight_le_of_suffix
  size_next_lt := Cursor.weight_next_lt
  size'_le := weight_le_of_suffix
  size'_next_lt := Cursor.weight_next_lt

instance : ahead.Weighs where
  weight_le _ := Nat.le_refl _
  weight_le' _ := Nat.le_refl _

instance : diagonal.Tracks where
  step h _ _ := h ▸ rfl

theorem faulty_next {c c' : Cursor} (h : faulty.rel c c') (hc : ∀ f, c.tok ≠ .fault f) : faulty.rel c.next c'.next := by
  obtain ⟨rfl, t, f, hlast, ht⟩ := h
  refine ⟨rfl, t, f, ?_, ht⟩
  cases hr : c'.rest with
  | nil =>
    rw [hr] at hlast
    cases hlast
  | cons u us =>
    rw [hr] at hlast
    rw [Cursor.next_rest hr]
    cases us with
    | nil =>
      cases hlast
      exact absurd (by unfold Cursor.tok; rw [hr]; exact ht) (hc f)
    | cons v vs => rwa [List.getLast?_cons_cons] at hlast

instance : faulty.Tracks where
  tok h := by rw [h.1]
  next h hi := faulty_next h fun f hf => by rw [hf] at hi; cases hi
  step h hl _ := faulty_next h fun f hf => by rw [hf] at hl; cases hl
  far_of_suffix _ h := h
  size_le := weight_le_of_suffix
  size_next_lt := Cursor.weight_next_lt
  size'_le := weight_le_of_suffix
  size'_next_lt := Cursor.weight_next_lt

instance : faulty.Weighs where
  weight_le _ := Nat.le_refl _
  weight_le' _ := Nat.le_refl _

end Pairing

/-! ## Programs by their lines -/

namespace Statements

/-- Whether a token starts a statement or is none of a program: it ends neither a block nor the text. -/
def startsLine (t : Tok) : Bool := t ≠ .dedent && t ≠ .finish

/-- A statement whose blocks go `j` deep. -/
def line (K j : Nat) : Reader (List Stmt) := statement (Rules.upTo K) (upTo (Rules.upTo K) j)

section

variable {P : Pairing} [P.Tracks] [P.Weighs] {H : Cursor → Prop} {K j : Nat} {γ : Type} {mark : Nat × Nat → γ}

theorem takes_line (hj : j + 1 ≤ K) (hm : Marks P mark) :
    Alike P H (j + 1) (fun _ => True) (SameGist mark) (line K j) (line K j) := by
  have h := Rules.agree_upTo (Nat.le_refl K) (Nat.le_refl K)
  refine takes_statement (h.mono hj) (h.mono hj) (fun {H} => ?_) hm
  exact same_upTo h h hm (Nat.le_of_succ_le hj) (Nat.le_refl j) (Nat.le_refl j)

end

theorem reads_line {K j : Nat} (hj : j + 1 ≤ K) : Alike Pairing.diagonal (fun c => startsLine c.tok = true) (j + 1)
    (fun _ => True) (SameGist fun _ => ()) (line K j) (line K j) := takes_line hj fun _ _ => rfl

theorem upTo_eq_ok {K j : Nat} {c d : Cursor} {body : List Stmt} (hj : j + 1 ≤ K) (hw : weight c.rest < j + 1) :
    upTo (Rules.upTo K) (j + 1) c = .ok (body, d) ↔
      ∃ lines, Items startsLine (line K j) c lines d ∧ startsLine d.tok = false ∧ body = lines.flatten := by
  have hline := reads_line hj
  change (many startsLine (line K j) >>= fun lines => pure lines.flatten) c = .ok (body, d) ↔ _
  rw [bind_eq_ok]
  constructor
  · rintro ⟨lines, e, hlines, he⟩
    obtain ⟨rfl, rfl⟩ := pure_eq_ok.1 he
    obtain ⟨hitems, hd⟩ := (many_eq_ok hline hw).1 hlines
    exact ⟨lines, hitems, hd, rfl⟩
  · rintro ⟨lines, hitems, hd, rfl⟩
    exact ⟨lines, d, (many_eq_ok hline hw).2 ⟨hitems, hd⟩, rfl⟩

/-- The token list is a program of the given statements, read with the given depth. -/
def Accepts (K : Nat) (ts : List Token) (body : List Stmt) : Prop :=
  ∃ d, upTo (Rules.upTo K) K { rest := ts, lastLine := 0 } = .ok (body, d) ∧ d.tok = .finish

theorem accepts_iff {j : Nat} {ts : List Token} {body : List Stmt} (hw : weight ts < j + 1) :
    Accepts (j + 1) ts body ↔ ∃ lines d, Items startsLine (line (j + 1) j) { rest := ts, lastLine := 0 } lines d ∧
      d.tok = .finish ∧ body = lines.flatten := by
  constructor
  · rintro ⟨d, h, hd⟩
    obtain ⟨lines, hitems, -, hbody⟩ := (upTo_eq_ok (Nat.le_refl _) hw).1 h
    exact ⟨lines, d, hitems, hd, hbody⟩
  · rintro ⟨lines, d, hitems, hd, hbody⟩
    exact ⟨d, (upTo_eq_ok (Nat.le_refl _) hw).2 ⟨lines, hitems, by rw [hd]; rfl, hbody⟩, hd⟩

/-- A program is one at every greater depth, with statements that stand at the same places. -/
theorem Accepts.deepen {K K' : Nat} {ts : List Token} {body : List Stmt} (h : Accepts K ts body) (hw : weight ts < K)
    (hK : K ≤ K') : ∃ body', Accepts K' ts body' ∧ SameGist id body body' := by
  obtain ⟨d, h, hd⟩ := h
  have hrules := Rules.agree_upTo (Nat.le_refl K) hK
  have hrules' := Rules.agree_upTo hK (Nat.le_refl K)
  have hsame : Alike Pairing.diagonal (fun _ => True) K (fun _ => False) (SameGist id) (upTo (Rules.upTo K) K)
      (upTo (Rules.upTo K') K') := same_upTo hrules hrules' (fun hr _ => hr ▸ rfl) (Nat.le_refl K) (Nat.le_refl K) hK
  obtain ⟨body', d', h', hgist, rfl, -⟩ := hsame.sync (c := { rest := ts, lastLine := 0 }) rfl trivial hw hw h trivial
  exact ⟨body', ⟨d, h', hd⟩, hgist⟩

/-- **A fault at the end of a program is not read over.** -/
theorem Accepts.exists_finish {K : Nat} {ts : List Token} {body : List Stmt} (h : Accepts K ts body) (hw : weight ts < K)
    {t : Token} {f : LexFault} (hlast : ts.getLast? = some t) (ht : t.tok = .fault f) : ∃ u ∈ ts, u.tok = .finish := by
  obtain ⟨d, h, hd⟩ := h
  have hrules := Rules.agree_upTo (Nat.le_refl K) (Nat.le_refl K)
  have hsame : Alike Pairing.faulty (fun _ => True) K (fun _ => False) (SameGist id) (upTo (Rules.upTo K) K)
      (upTo (Rules.upTo K) K) :=
    same_upTo hrules hrules (fun hr _ => by rw [hr.1]) (Nat.le_refl K) (Nat.le_refl K) (Nat.le_refl K)
  have hsuffix := (hsame.forward (c := { rest := ts, lastLine := 0 }) trivial hw h).suffix
  obtain ⟨_, _, -, -, ⟨-, u, _, hu, -⟩, -⟩ :=
    hsame.sync (c := { rest := ts, lastLine := 0 }) ⟨rfl, t, f, hlast, ht⟩ trivial hw hw h trivial
  cases hr : d.rest with
  | nil =>
    rw [hr] at hu
    cases hu
  | cons v vs =>
    unfold Cursor.tok at hd
    rw [hr] at hd hsuffix
    exact ⟨v, hsuffix.subset List.mem_cons_self, hd⟩

/-! ## The head of a function -/

section Head

variable {P : Pairing} {n : Nat} {r r' : Rules}

theorem same_header [P.Mirrors] [P.Weighs] {H : Cursor → Prop} (h : r.Agree n r') : Same P H n (header r) (header r') := by
  refine .identifier (Nat.le_succ n) fun name => .expect rfl (Nat.le_succ n) ?_
  refine .andThen (Rules.same_parameters h _ _) fun params => .expect rfl (Nat.le_succ n) ?_
  have hcolon : ∀ (returns : Option Expr) {H}, Same P H n
      (do expectP .colon
          return (name, params, returns))
      (do expectP .colon
          return (name, params, returns)) := fun _ _ => .expect rfl (Nat.le_succ n) (.pure id rfl)
  refine .acceptIf rfl (Nat.le_succ n) ?_ (hcolon none)
  exact .andThen (.andThen h.expression fun _ => .pure id rfl) fun returns => hcolon returns

theorem Defines.sync [P.Tracks] [P.Weighs] (h : r.Agree n r') {c c' e : Cursor} {decorators : List Expr}
    (hdef : Defines r c decorators e) (hr : P.rel c c') (hw : P.size c.rest < n + 1) (hw' : P.size' c'.rest < n + 1)
    (he : P.far e) : ∃ decorators' e', Defines r' c' decorators' e' ∧ P.rel e e' ∧ After False c' e' := by
  cases hdef with
  | plain hc => exact ⟨[], c', .plain ((Pairing.Mirrors.tok (P := P) hr).trans hc), hr, .refl id _⟩
  | decorated hc hmany htok =>
    have hsame : Same P (fun _ => True) (n + 1) (many (· = .punct .at) (decorator r)) (many (· = .punct .at) (decorator r')) :=
      .many (takes_decorator h)
    obtain ⟨decorators', e', hmany', -, hre, hafter⟩ := hsame.sync hr trivial hw hw' hmany he
    exact ⟨decorators', e', .decorated ((Pairing.Mirrors.tok (P := P) hr).trans hc) hmany'
      ((Pairing.Mirrors.tok (P := P) hre).trans htok), hre, hafter⟩

theorem Defines.after (h : r.Agree n r) {c e : Cursor} {decorators : List Expr} (hdef : Defines r c decorators e)
    (hw : weight c.rest < n + 1) : After False c e := by
  cases hdef with
  | plain => exact .refl id _
  | decorated _ hmany _ =>
    have hsame : Same Pairing.diagonal (fun _ => True) (n + 1) (many (· = .punct .at) (decorator r))
        (many (· = .punct .at) (decorator r)) := .many (takes_decorator h)
    exact hsame.forward trivial hw hmany

theorem Defines.startsLine {c e : Cursor} {decorators : List Expr} (h : Defines r c decorators e) :
    startsLine c.tok = true := by
  cases h with
  | plain h => rw [h]; rfl
  | decorated h => rw [h]; rfl

theorem block_of_newline {d : Reader (List Stmt)} {c e : Cursor} {body : List Stmt} (hc : c.tok = .newline) :
    block r d c = .ok (body, e) ↔
      c.next.tok = .indent ∧ ∃ e₁, d c.next.next = .ok (body, e₁) ∧ e₁.tok = .dedent ∧ e = e₁.next := by
  unfold block
  rw [accept_bind, if_pos hc, if_pos rfl, accept_bind]
  by_cases hi : c.next.tok = .indent
  · rw [if_pos hi, if_pos rfl, bind_eq_ok]
    constructor
    · rintro ⟨b, e₁, hb, he⟩
      rw [expect_bind] at he
      split at he
      · rename_i hded
        cases he
        exact ⟨hi, e₁, hb, hded, rfl⟩
      · cases he
    · rintro ⟨-, e₁, hb, hded, rfl⟩
      refine ⟨body, e₁, hb, ?_⟩
      rw [expect_bind, if_pos hded]
      rfl
  · rw [if_neg hi, if_neg Bool.false_ne_true]
    exact ⟨fun h => absurd h (missingBlock_ne_ok _ _ _), fun h => absurd h.1 hi⟩

theorem block_of_ne_newline {d : Reader (List Stmt)} {c : Cursor} (hc : c.tok ≠ .newline) : block r d c = simpleLine r c := by
  unfold block
  rw [accept_bind_of_ne hc, if_neg Bool.false_ne_true]

end Head

theorem block_eq_ok {i : Nat} {c e : Cursor} {body : List Stmt} (hw : weight c.rest < i + 1) (hc : c.tok = .newline) :
    block (Rules.upTo (i + 2)) (upTo (Rules.upTo (i + 2)) (i + 1)) c = .ok (body, e) ↔ c.next.tok = .indent ∧
      ∃ lines e₁, Items startsLine (line (i + 2) i) c.next.next lines e₁ ∧ e₁.tok = .dedent ∧ body = lines.flatten ∧
        e = e₁.next := by
  have hw₂ : weight c.next.next.rest < i + 1 :=
    Nat.lt_of_le_of_lt (weight_le_of_suffix ((Cursor.next_suffix _).trans (Cursor.next_suffix _))) hw
  rw [block_of_newline hc, and_congr_right_iff]
  intro _
  constructor
  · rintro ⟨e₁, hbody, hded, rfl⟩
    obtain ⟨lines, hitems, -, rfl⟩ := (upTo_eq_ok (Nat.le_succ _) hw₂).1 hbody
    exact ⟨lines, e₁, hitems, hded, rfl, rfl⟩
  · rintro ⟨lines, e₁, hitems, hded, rfl, rfl⟩
    exact ⟨e₁, (upTo_eq_ok (Nat.le_succ _) hw₂).2 ⟨lines, hitems, by rw [hded]; rfl, rfl⟩, hded, rfl⟩

/-! ## A function in two programs -/

/-- A function of a program is reached in two token lists that agree up to the end of the line of its `def`: what stands
before it is read from both, and so is its head; the first goes on with its block and the rest of the program. -/
structure Reached (j : Nat) (nl nl' : Token) (V V' ts ts' : List Token) (before : List Stmt) (name : String)
    (inner after : List Stmt) where
  head : Cursor
  finish : Cursor
  start' : Cursor
  define' : Cursor
  head' : Cursor
  lines' : List (List Stmt)
  decorators' : List Expr
  parts : String × Params × Option Expr
  items' : Items startsLine (line (j + 1) j) { rest := ts', lastLine := 0 } lines' start'
  same : SameGist (fun _ => ()) before lines'.flatten
  defines' : Defines (Rules.upTo (j + 1)) start' decorators' define'
  header' : header (Rules.upTo (j + 1)) define'.next = .ok (parts, head')
  named : parts.1 = name
  paired : (Pairing.inLine nl nl' V V').rel head head'
  level : level head.rest = level ts
  light : weight head.rest < j
  light' : weight head'.rest < j
  block : block (Rules.upTo (j + 1)) (upTo (Rules.upTo (j + 1)) j) head = .ok (inner, finish)
  ends : ∃ lines d, Items startsLine (line (j + 1) j) finish lines d ∧ d.tok = .finish ∧ after = lines.flatten

theorem exists_lines {s : Stmt} : ∀ {lines : List (List Stmt)} {before after : List Stmt},
    (∀ l ∈ lines, s ∈ l → l = [s]) → lines.flatten = before ++ s :: after →
    ∃ ls ls', lines = ls ++ [s] :: ls' ∧ ls.flatten = before ∧ ls'.flatten = after
  | [], before, after, _, h => by simp at h
  | l :: lines, before, after, hl, h => by
    rw [List.flatten_cons] at h
    rcases List.append_eq_append_iff.1 h with ⟨b, rfl, hb⟩ | ⟨b, rfl, hb⟩
    · obtain ⟨ls, ls', rfl, rfl, rfl⟩ := exists_lines (fun l' h' => hl l' (List.mem_cons_of_mem _ h')) hb
      exact ⟨l :: ls, ls', rfl, rfl, rfl⟩
    · cases b with
      | nil =>
        obtain ⟨ls, ls', rfl, hls, rfl⟩ := exists_lines (fun l' h' => hl l' (List.mem_cons_of_mem _ h')) (hb.symm.trans (List.nil_append _).symm)
        exact ⟨before :: ls, ls', by simp, by simp [hls], rfl⟩
      | cons t b =>
        obtain ⟨rfl, rfl⟩ := List.cons.inj hb
        have hone := hl _ List.mem_cons_self (List.mem_append_right _ List.mem_cons_self)
        obtain ⟨rfl, hb⟩ := List.append_eq_singleton_iff.1 hone |>.resolve_right fun h => by simp at h
        cases hb
        exact ⟨[], lines, rfl, rfl, rfl⟩

theorem SameGist.flatten {γ : Type} {mark : Nat × Nat → γ} {ls ls' : List (List Stmt)}
    (h : List.Forall₂ (SameGist mark) ls ls') : SameGist mark ls.flatten ls'.flatten := by
  unfold SameGist
  induction h with
  | nil => rfl
  | cons h _ ih => rw [List.flatten_cons, List.flatten_cons, List.map_append, List.map_append, ih, h]

/-- A token that stands on the line of a line end, and is no line end, stands before the first one. -/
theorem before_lineEnd {ts U V R : List Token} {nl t : Token} (hsorted : ts.Pairwise Precedes) (hts : ts = U ++ nl :: V)
    (hnl : nl.tok = .newline) (ht : t.tok ≠ .newline) (hline : t.line = nl.line) (hs : t :: R <:+ ts) :
    ∃ p, t :: R = p ++ nl :: V ∧ Tok.newline ∉ p.map Token.tok := by
  have hsuffix : nl :: V <:+ t :: R := by
    rcases List.suffix_or_suffix_of_suffix hs (hts ▸ List.suffix_append U (nl :: V)) with h | h
    · rcases List.suffix_cons_iff.1 h with heq | h
      · exact heq ▸ List.suffix_refl _
      · have hmem : t ∈ V := h.subset List.mem_cons_self
        have hpre : Precedes nl t := List.rel_of_pairwise_cons (List.pairwise_append.1 (hts ▸ hsorted)).2.1 hmem
        have := hpre.2 hnl
        omega
    · exact h
  obtain ⟨p, hp⟩ := hsuffix
  refine ⟨p, hp.symm, fun hmem => ?_⟩
  obtain ⟨u, hu, hutok⟩ := List.mem_map.1 hmem
  have hlist : (p ++ nl :: V).Pairwise Precedes := hp ▸ hsorted.sublist hs.sublist
  have hlast := ((List.pairwise_append.1 hlist).2.2 u hu nl List.mem_cons_self).2 hutok
  cases p with
  | nil => cases hu
  | cons v p =>
    obtain rfl : v = t := (List.cons.inj hp).1
    rcases List.mem_cons.1 hu with rfl | hu
    · exact ht hutok
    · have hfirst := (List.rel_of_pairwise_cons hlist (List.mem_append_left _ hu)).1
      omega

/-- Where a function of an accepted program is read: what stands before it, its `def`, its head and its block, and the rest
of the program. -/
structure Site (j : Nat) (ts : List Token) (before : List Stmt) (span : Span) (name : String) (inner after : List Stmt) where
  start : Cursor
  define : Cursor
  head : Cursor
  finish : Cursor
  lines : List (List Stmt)
  decorators : List Expr
  parts : String × Params × Option Expr
  items : Items startsLine (line (j + 1) j) { rest := ts, lastLine := 0 } lines start
  flat : lines.flatten = before
  defines : Defines (Rules.upTo (j + 1)) start decorators define
  placed : define.place = (span.line, span.col)
  header : header (Rules.upTo (j + 1)) define.next = .ok (parts, head)
  named : parts.1 = name
  block : block (Rules.upTo (j + 1)) (upTo (Rules.upTo (j + 1)) j) head = .ok (inner, finish)
  ends : ∃ lines d, Items startsLine (line (j + 1) j) finish lines d ∧ d.tok = .finish ∧ after = lines.flatten

section Site

variable {j : Nat} {ts : List Token} {before inner after : List Stmt} {span : Span} {name : String}

theorem exists_site_parts {params : Params} {decorators : List Expr} {returns : Option Expr}
    (hacc : Accepts (j + 1) ts (before ++ .funcDef false span name params inner decorators returns :: after))
    (hw : weight ts < j + 1) : ∃ S : Site j ts before span name inner after, S.parts = (name, params, returns) := by
  -- the lines before the function, the function, and the lines after it
  obtain ⟨lines, d, hitems, hd, hbody⟩ := (accepts_iff hw).1 hacc
  obtain ⟨ls, ls₂, rfl, hls, hls₂⟩ := exists_lines (fun l hl hs => by
    obtain ⟨c, e, hline⟩ := hitems.mem hl
    obtain ⟨_, _, _, hl, _⟩ := defines_of_statement hline hs rfl
    exact hl) hbody.symm
  obtain ⟨c, hbefore, hrest⟩ := hitems.append_inv
  cases hrest with
  | cons hstart hstatement hafter =>
  rename_i e
  obtain ⟨decs, c₁, hdef, -, hfun⟩ := defines_of_statement hstatement (List.mem_singleton_self _) rfl
  -- its head and its block
  rw [function_eq hdef.tok] at hfun
  obtain ⟨x, head, hhead, hfun⟩ := bind_eq_ok.1 hfun
  obtain ⟨body, e₁, hblock, hfun⟩ := bind_eq_ok.1 hfun
  obtain ⟨hspan, hparts, hinner, he⟩ :
      c₁.place = (span.line, span.col) ∧ x = (name, params, returns) ∧ body = inner ∧ e₁ = e := by
    cases hfun
    exact ⟨rfl, rfl, rfl, rfl⟩
  subst hinner he hparts
  exact ⟨⟨c, c₁, head, e₁, ls, decs, _, hbefore, hls, hdef, hspan, hhead, rfl, hblock, ls₂, d, hafter, hd, hls₂.symm⟩, rfl⟩

theorem exists_site {params : Params} {decorators : List Expr} {returns : Option Expr}
    (hacc : Accepts (j + 1) ts (before ++ .funcDef false span name params inner decorators returns :: after))
    (hw : weight ts < j + 1) : Nonempty (Site j ts before span name inner after) := by
  obtain ⟨S, -⟩ := exists_site_parts hacc hw
  exact ⟨S⟩

theorem Site.readUpTo (S : Site j ts before span name inner after) (hw : weight ts < j + 1) :
    After False { rest := ts, lastLine := 0 } S.start ∧ After False S.start S.define := by
  have hagree : (Rules.upTo (j + 1)).Agree (j + 1) (Rules.upTo (j + 1)) := Rules.agree_upTo (Nat.le_refl _) (Nat.le_refl _)
  have hstart := S.items.after (reads_line (Nat.le_refl _)) hw
  exact ⟨hstart, S.defines.after (hagree.mono (Nat.le_succ j)) (hstart.below (P := Pairing.diagonal) hw)⟩

theorem Site.exists_token (S : Site j ts before span name inner after) :
    ∃ t R, S.define.rest = t :: R ∧ t.tok = .keyword .kDef ∧ t.line = span.line ∧ t.col = span.col := by
  obtain ⟨t, R, hR, ht⟩ := Cursor.rest_of_ne_finish (c := S.define) (by rw [S.defines.tok]; exact nofun)
  have hplace : (t.line, t.col) = (span.line, span.col) := by
    rw [← S.placed]
    unfold Cursor.place
    rw [hR]
    rfl
  obtain ⟨hline, hcol⟩ := Prod.mk.inj hplace
  exact ⟨t, R, hR, ht.trans S.defines.tok, hline, hcol⟩

end Site

/-- **A function of an accepted program is reached in any token list that agrees up to the end of its line.** -/
theorem exists_reached {j : Nat} {ts ts' U U' V V' : List Token} {nl nl' : Token} {before inner after : List Stmt}
    {span : Span} {name : String} {params : Params} {decorators : List Expr} {returns : Option Expr}
    (hacc : Accepts (j + 1) ts (before ++ .funcDef false span name params inner decorators returns :: after))
    (hw : weight ts < j + 1) (hw' : weight ts' < j + 1) (hsorted : ts.Pairwise Precedes) (hts : ts = U ++ nl :: V)
    (hts' : ts' = U' ++ nl' :: V') (hU : U'.map Token.tok = U.map Token.tok) (hnl : nl.tok = .newline)
    (hnl' : nl'.tok = .newline) (hline : span.line = nl.line) :
    Nonempty (Reached j nl nl' V V' ts ts' before name inner after) := by
  have hagree : (Rules.upTo (j + 1)).Agree (j + 1) (Rules.upTo (j + 1)) := Rules.agree_upTo (Nat.le_refl _) (Nat.le_refl _)
  obtain ⟨S⟩ := exists_site hacc hw
  obtain ⟨hafter₀, hafter₁⟩ := S.readUpTo hw
  obtain ⟨t, R, hR, ht, htline, -⟩ := S.exists_token
  -- the `def` stands before the first end of a line
  obtain ⟨p, hp, hpn⟩ := before_lineEnd hsorted hts hnl (by rw [ht]; exact nofun) (htline.trans hline)
    (hR ▸ hafter₁.suffix.trans hafter₀.suffix)
  have hfar₁ : (Pairing.before nl nl' V V').far S.define := by
    change (nl :: V).length ≤ S.define.rest.length
    rw [hR, hp, List.length_append]
    omega
  -- the second list has the same before it
  have hstart' : (Pairing.before nl nl' V V').rel { rest := ts, lastLine := 0 } { rest := ts', lastLine := 0 } :=
    ⟨hnl, hnl', U, U', hts, hts', hU⟩
  have hline : Alike (Pairing.before nl nl' V V') (fun c => startsLine c.tok = true) (j + 1) (fun _ => True)
      (SameGist fun _ => ()) (line (j + 1) j) (line (j + 1) j) := takes_line (Nat.le_refl _) fun _ _ => rfl
  obtain ⟨ls', c', hitems', hsame, hr, ha'⟩ := S.items.sync hline
    hstart' hw hw' (Pairing.Mirrors.far_of_suffix (P := Pairing.before nl nl' V V') hafter₁.suffix hfar₁)
  obtain ⟨decs', c₁', hdef', ⟨-, -, q, q', hq, hq', hqq⟩, ha₁'⟩ := S.defines.sync (hagree.mono (Nat.le_succ j)) hr
    (hafter₀.below (P := Pairing.diagonal) hw) (ha'.below' (P := Pairing.before nl nl' V V') hw') hfar₁
  obtain rfl : q = p := List.append_cancel_right (hq.symm.trans (hR.trans hp))
  have hr₁ : (Pairing.inLine nl nl' V V').rel S.define c₁' := ⟨hnl, hnl', q, q', hq, hq', hqq, hpn⟩
  have hinner : S.define.tok.isInner = true := by rw [S.defines.tok]; rfl
  have hr₂ := Pairing.Mirrors.next (P := Pairing.inLine nl nl' V V') hr₁ hinner
  have hlight : weight S.define.next.rest < j := by
    have h₁ := Cursor.weight_next_lt hinner
    have h₂ : weight S.define.rest ≤ weight ts := weight_le_of_suffix (hafter₁.suffix.trans hafter₀.suffix)
    omega
  have hlight' : weight c₁'.next.rest < j := by
    have h₁ := Cursor.weight_next_lt (c := c₁') (by rw [hdef'.tok]; rfl)
    have h₂ : weight c₁'.rest ≤ weight ts' := weight_le_of_suffix (ha₁'.suffix.trans ha'.suffix)
    omega
  have hsameHead : Same (Pairing.inLine nl nl' V V') (fun _ => True) j (header (Rules.upTo (j + 1)))
      (header (Rules.upTo (j + 1))) := same_header (hagree.mono (Nat.le_succ j))
  obtain ⟨x', head', hhead', rfl, hr₃, ha₃'⟩ := hsameHead.sync hr₂ trivial hlight hlight' S.header trivial
  have ha₃ := hsameHead.forward trivial hlight S.header
  have hlevel : level S.head.rest = level ts :=
    ha₃.level.trans ((Cursor.level_next hinner).trans (hafter₁.level.trans hafter₀.level))
  exact ⟨S.head, S.finish, c', c₁', head', ls', decs', S.parts, hitems', S.flat ▸ SameGist.flatten hsame, hdef', hhead',
    S.named, hr₃, hlevel, ha₃.below (P := Pairing.inLine nl nl' V V') hlight,
    ha₃'.below' (P := Pairing.inLine nl nl' V V') hlight', S.block, S.ends⟩

/-! ## A string in front of the block -/

namespace Reached

variable {j : Nat} {nl nl' : Token} {V V' ts ts' : List Token} {before inner after : List Stmt} {name : String}
  (R : Reached j nl nl' V V' ts ts' before name inner after)

theorem exists_simples (hhead : R.head.tok ≠ .newline) : ∃ q q', q.tok = .newline ∧ R.finish = q.next ∧
    simples (Rules.upTo (j + 1)) R.head' = .ok (inner, q') ∧ (Pairing.inLine nl nl' V V').rel q q' ∧
      After False R.head q ∧ After False R.head' q' := by
  have hagree : (Rules.upTo (j + 1)).Agree j (Rules.upTo (j + 1)) := Rules.agree_upTo (Nat.le_succ j) (Nat.le_succ j)
  have hblock := R.block
  rw [block_of_ne_newline hhead, simpleLine_eq] at hblock
  obtain ⟨q, hq, hnewline, hfinish⟩ := Alike.line_eq_ok.1 hblock
  have hsame : Same (Pairing.inLine nl nl' V V') (fun _ => True) j (simples (Rules.upTo (j + 1)))
      (simples (Rules.upTo (j + 1))) := same_simples hagree
  obtain ⟨_, q', hq', rfl, hr, ha'⟩ := hsame.sync R.paired trivial R.light R.light' hq trivial
  exact ⟨q, q', hnewline, hfinish, hq', hr, hsame.forward trivial R.light hq, ha'⟩

include R in
theorem level_eq : Source.level (nl :: V) = Source.level ts := by
  by_cases hhead : R.head.tok = .newline
  · rw [← (Pairing.rest_of_inLine R.paired hhead).1]
    exact R.level
  · obtain ⟨q, _, hnewline, _, _, hr, ha, _⟩ := R.exists_simples hhead
    rw [← (Pairing.rest_of_inLine hr hnewline).1]
    exact ha.level.trans R.level

theorem head_newline {ind : Token} {W : List Token} (hV : V = ind :: W) (hind : ind.tok = .indent) :
    R.head.tok = .newline := by
  by_contra hhead
  obtain ⟨q, _, hnewline, hfinish, _, hr, ha, _⟩ := R.exists_simples hhead
  have hrest : R.finish.rest = ind :: W := by
    rw [hfinish, Cursor.next_rest (Pairing.rest_of_inLine hr hnewline).1, hV]
  have htok : R.finish.tok = .indent := by
    unfold Cursor.tok
    rw [hrest]
    exact hind
  have hlight : weight R.finish.rest < j + 1 := by
    have h₁ : weight q.next.rest ≤ weight q.rest := weight_le_of_suffix (Cursor.next_suffix q)
    have h₂ := weight_le_of_suffix ha.suffix
    have h₃ := R.light
    rw [hfinish]
    omega
  obtain ⟨lines, d, hitems, hd, -⟩ := R.ends
  have hstarts := (Items.nil R.finish).stuck (by rw [htok]; rfl)
    (fun x => statement_ne_ok (d := upTo (Rules.upTo (j + 1)) j) (by rw [htok]; rfl) hlight x) hitems
  rw [hd] at hstarts
  cases hstarts

theorem exists_indent (hhead : R.head.tok = .newline) : ∃ ind W, V = ind :: W ∧ ind.tok = .indent := by
  obtain ⟨hindent, -⟩ := (block_of_newline hhead).1 R.block
  obtain ⟨t, ts, ht, htok⟩ := Cursor.rest_of_ne_finish (c := R.head.next) (by rw [hindent]; exact nofun)
  rw [Cursor.next_rest (Pairing.rest_of_inLine R.paired hhead).1] at ht
  exact ⟨t, ts, ht, htok.trans hindent⟩

theorem line_eq_ok {l : List Stmt} {e : Cursor} : line (j + 1) j R.start' = .ok (l, e) ↔
    ∃ body, Statements.block (Rules.upTo (j + 1)) (upTo (Rules.upTo (j + 1)) j) R.head' = .ok (body, e) ∧
      l = [.funcDef false ⟨R.define'.place.1, e.lastLine, R.define'.place.2⟩ name R.parts.2.1 body R.decorators'
        R.parts.2.2] := by
  have hfun : ∀ {s : Stmt}, function (Rules.upTo (j + 1)) (upTo (Rules.upTo (j + 1)) j) R.decorators' R.define' = .ok (s, e) ↔
      ∃ body, Statements.block (Rules.upTo (j + 1)) (upTo (Rules.upTo (j + 1)) j) R.head' = .ok (body, e) ∧
        s = .funcDef false ⟨R.define'.place.1, e.lastLine, R.define'.place.2⟩ name R.parts.2.1 body R.decorators'
          R.parts.2.2 := by
    intro s
    rw [function_eq R.defines'.tok, bind_of_ok R.header', bind_eq_ok, R.named]
    constructor
    · rintro ⟨body, e₁, hbody, hs⟩
      cases hs
      exact ⟨body, hbody, rfl⟩
    · rintro ⟨body, hbody, rfl⟩
      exact ⟨body, e, hbody, rfl⟩
  unfold line
  rw [statement_of_defines R.defines', bind_eq_ok]
  constructor
  · rintro ⟨s, e₁, hs, hl⟩
    cases hl
    obtain ⟨body, hbody, rfl⟩ := hfun.1 hs
    exact ⟨body, hbody, rfl⟩
  · rintro ⟨body, hbody, rfl⟩
    exact ⟨_, e, hfun.2 ⟨body, hbody, rfl⟩, rfl⟩

/-- The second list is no program if something in it that starts a line cannot be read. -/
theorem not_accepts_of_items {lines : List (List Stmt)} {c : Cursor} (hw' : weight ts' < j + 1)
    (h : Items startsLine (line (j + 1) j) { rest := ts', lastLine := 0 } lines c) (hs : startsLine c.tok = true)
    (hc : ∀ x, line (j + 1) j c ≠ .ok x) (body : List Stmt) : ¬ Accepts (j + 1) ts' body := by
  intro hacc
  obtain ⟨lines, d, hitems, hd, -⟩ := (accepts_iff hw').1 hacc
  have hstarts := h.stuck hs hc hitems
  rw [hd] at hstarts
  cases hstarts

/-- **Something set in after a function on one line makes a program none.** -/
theorem not_accepts_of_oneLine (hw' : weight ts' < j + 1) (hhead : R.head.tok ≠ .newline) {ind' : Token} {W' : List Token}
    (hV' : V' = ind' :: W') (hind' : ind'.tok = .indent) (body : List Stmt) : ¬ Accepts (j + 1) ts' body := by
  obtain ⟨q, q', hnewline, -, hq', hr, -, ha'⟩ := R.exists_simples hhead
  -- the function is read to the end of the line, and what is set in comes next
  have htok' : q'.tok = .newline := (Pairing.Mirrors.tok (P := Pairing.inLine nl nl' V V') hr).trans hnewline
  have hrest' : q'.next.rest = ind' :: W' := (Cursor.next_rest (Pairing.rest_of_inLine hr hnewline).2).trans hV'
  have hhead' : R.head'.tok ≠ .newline := by
    rw [Pairing.Mirrors.tok (P := Pairing.inLine nl nl' V V') R.paired]
    exact hhead
  have hline := (R.line_eq_ok (e := q'.next)).2 ⟨inner, by
    rw [block_of_ne_newline hhead', simpleLine_eq]
    exact Alike.line_eq_ok.2 ⟨q', hq', htok', rfl⟩, rfl⟩
  have hitems := R.items'.append (.cons R.defines'.startsLine hline (.nil q'.next))
  have hindent : q'.next.tok = .indent := by
    unfold Cursor.tok
    rw [hrest']
    exact hind'
  refine not_accepts_of_items hw' hitems (by rw [hindent]; rfl) (fun x => statement_ne_ok (by rw [hindent]; rfl) ?_ x) body
  have h₁ : weight q'.next.rest ≤ weight q'.rest := weight_le_of_suffix (Cursor.next_suffix q')
  have h₂ := weight_le_of_suffix ha'.suffix
  have h₃ := R.light'
  omega

section Block

variable {i : Nat} (R : Reached (i + 1) nl nl' V V' ts ts' before name inner after) {ind' str' nl₂ : Token} {W' : List Token}
  {q : Quote} {points : List Nat} (hV' : V' = ind' :: str' :: nl₂ :: W') (hind' : ind'.tok = .indent)
  (hstr : str'.tok = .string q) (hnl₂ : nl₂.tok = .newline) (hb : q.bytes = false) (hf : q.formatted = false)
  (hp : textPoints q.raw q.body = some points) (hhead : R.head.tok = .newline)

include hV' hind' hstr hnl₂ hb hf hp hhead

theorem lone : R.head'.next.tok = .indent ∧ ∃ c, c.rest = W' ∧
    Items startsLine (line (i + 2) i) R.head'.next.next [[.expr (.literal (.text q.marked points))]] c := by
  have hrest := Cursor.next_rest ((Pairing.rest_of_inLine R.paired hhead).2.trans (by rw [hV']))
  have hrest₁ := Cursor.next_rest hrest
  have hrest₂ := Cursor.next_rest hrest₁
  have htok : ∀ {c : Cursor} {t : Token} {ts : List Token}, c.rest = t :: ts → c.tok = t.tok := fun h => by
    unfold Cursor.tok
    rw [h]
    rfl
  refine ⟨(htok hrest).trans hind', R.head'.next.next.next.next, Cursor.next_rest hrest₂, ?_⟩
  refine .cons (by rw [htok hrest₁, hstr]; rfl) ?_ (.nil _)
  exact statement_lone ((htok hrest₁).trans hstr) ((htok hrest₂).trans hnl₂) hb hf hp

/-- **A string in front of the block of a function makes a program one in which the function is documented.** -/
theorem accepts {ind : Token} {W : List Token} (hw' : weight ts' < i + 2) (hV : V = ind :: W)
    (hW : W'.map Token.tok = W.map Token.tok) :
    ∃ before' span params inner' decorators returns after', SameGist (fun _ => ()) before before' ∧
      SameGist (fun _ => ()) after after' ∧ Accepts (i + 2) ts' (before' ++ .funcDef false span name params
        (.expr (.literal (.text q.marked points)) :: inner') decorators returns :: after') := by
  obtain ⟨hindent', c, hc, hlone⟩ := R.lone hV' hind' hstr hnl₂ hb hf hp hhead
  obtain ⟨-, lines, e, hlines, hded, hinner, hfinish⟩ := (block_eq_ok R.light hhead).1 R.block
  have hnewline' : R.head'.tok = .newline :=
    (Pairing.Mirrors.tok (P := Pairing.inLine nl nl' V V') R.paired).trans hhead
  -- behind the string both blocks go on alike
  have hrest : R.head.next.next.rest = W :=
    Cursor.next_rest (Cursor.next_rest ((Pairing.rest_of_inLine R.paired hhead).1.trans (by rw [hV])))
  have hr : Pairing.ahead.rel R.head.next.next c := by
    change c.rest.map Token.tok = R.head.next.next.rest.map Token.tok
    rw [hc, hrest, hW]
  have hlight : weight R.head.next.next.rest < i + 1 :=
    Nat.lt_of_le_of_lt (weight_le_of_suffix ((Cursor.next_suffix _).trans (Cursor.next_suffix _))) R.light
  have hlight' : weight R.head'.next.next.rest < i + 1 :=
    Nat.lt_of_le_of_lt (weight_le_of_suffix ((Cursor.next_suffix _).trans (Cursor.next_suffix _))) R.light'
  have halike : ∀ k, k + 1 ≤ i + 2 → Alike Pairing.ahead (fun c => startsLine c.tok = true) (k + 1) (fun _ => True)
      (SameGist fun _ => ()) (line (i + 2) k) (line (i + 2) k) := fun k hk => takes_line hk fun _ _ => rfl
  have halone := hlone.after (reads_line (Nat.le_succ _)) hlight'
  obtain ⟨lines', e', hlines', hgist, hre, ha'⟩ := hlines.sync (halike i (Nat.le_succ _)) hr hlight
    (halone.below (P := Pairing.diagonal) hlight') trivial
  have hblock' := (block_eq_ok R.light' hnewline').2
    ⟨hindent', _, e', hlone.append hlines', (Pairing.Mirrors.tok (P := Pairing.ahead) hre).trans hded, rfl, rfl⟩
  have hline' := R.line_eq_ok.2 ⟨_, hblock', rfl⟩
  -- and so do both programs behind them
  obtain ⟨ls, d, hls, hd, hafter⟩ := R.ends
  have hstep := Pairing.ahead_next hre
  rw [← hfinish] at hstep
  have hlight₂ : weight R.finish.rest < i + 2 := by
    have h₁ := (hlines.after (reads_line (Nat.le_succ _)) hlight).below (P := Pairing.diagonal) hlight
    have h₂ : weight e.next.rest ≤ weight e.rest := weight_le_of_suffix (Cursor.next_suffix e)
    rw [hfinish]
    exact Nat.lt_succ_of_lt (Nat.lt_of_le_of_lt h₂ h₁)
  have hlight₂' : weight e'.next.rest < i + 2 := by
    have h₁ := ha'.below (P := Pairing.diagonal) (halone.below (P := Pairing.diagonal) hlight')
    have h₂ : weight e'.next.rest ≤ weight e'.rest := weight_le_of_suffix (Cursor.next_suffix e')
    exact Nat.lt_succ_of_lt (Nat.lt_of_le_of_lt h₂ h₁)
  obtain ⟨ls', d', hls', hgist', hrd, -⟩ := hls.sync (halike (i + 1) (Nat.le_refl _)) hstep hlight₂ hlight₂' trivial
  refine ⟨R.lines'.flatten, ⟨R.define'.place.1, e'.next.lastLine, R.define'.place.2⟩, R.parts.2.1, lines'.flatten,
    R.decorators', R.parts.2.2, ls'.flatten, R.same, hafter ▸ SameGist.flatten hgist', ?_⟩
  refine (accepts_iff hw').2 ⟨_, d', R.items'.append (.cons R.defines'.startsLine hline' hls'), ?_, ?_⟩
  · exact (Pairing.Mirrors.tok (P := Pairing.ahead) hrd).trans hd
  · simp

/-- **A string in front of a block that goes on with an indentation, or cannot be read on, makes a program none.** -/
theorem not_accepts_of_block (hw' : weight ts' < i + 2) {t : Token} {X : List Token} (hX : W' = t :: X)
    (ht : startsLine t.tok = true) (hinner : t.tok.isInner = false) (body : List Stmt) : ¬ Accepts (i + 2) ts' body := by
  obtain ⟨hindent', c, hc, hlone⟩ := R.lone hV' hind' hstr hnl₂ hb hf hp hhead
  have hnewline' : R.head'.tok = .newline :=
    (Pairing.Mirrors.tok (P := Pairing.inLine nl nl' V V') R.paired).trans hhead
  have htok : c.tok = t.tok := by
    unfold Cursor.tok
    rw [hc, hX]
    rfl
  have hlight' : weight R.head'.next.next.rest < i + 1 :=
    Nat.lt_of_le_of_lt (weight_le_of_suffix ((Cursor.next_suffix _).trans (Cursor.next_suffix _))) R.light'
  have halone := hlone.after (reads_line (Nat.le_succ _)) hlight'
  have hstuck : ∀ x, line (i + 2) i c ≠ .ok x := fun x => statement_ne_ok (by rw [htok]; exact hinner)
    (Nat.lt_succ_of_lt (halone.below (P := Pairing.diagonal) hlight')) x
  refine not_accepts_of_items hw' R.items' R.defines'.startsLine (fun x hx => ?_) body
  obtain ⟨b, hblock, -⟩ := R.line_eq_ok.1 hx
  obtain ⟨-, lines, e, hlines, hded, -⟩ := (block_eq_ok R.light' hnewline').1 hblock
  have hstarts := hlone.stuck (by rw [htok]; exact ht) hstuck hlines
  rw [hded] at hstarts
  cases hstarts

end Block

end Reached

end Statements

end DocReview.Source
