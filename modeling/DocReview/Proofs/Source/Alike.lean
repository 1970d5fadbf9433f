import Mathlib.Algebra.GroupWithZero.Nat
import Mathlib.Algebra.Ring.Int.Defs
import Mathlib.Data.List.Forall2
import DocReview.Source.Cursor
/-!
# Alike — readers that read two token lists alike

Two cursors are paired by a relation under which they show the same token and stay paired when a word is taken.
`Alike` says that what one reader reads from a cursor the other reads from its partner, with related results, as far as
the first ends before a given point; and that reading only moves forward.  One rule for each way of putting readers
together: `Alike.bind`, `Alike.accept`, `Alike.loop` and the others.

The bound `n` is on the size of what is left to read, so that readers of limited depth can be compared: a descent takes
a word first, and what it goes on with needs to be alike only below `n - 1`.
-/
namespace DocReview.Source

/-! ## Words and their weight -/

def Tok.isInner : Tok → Bool
  | .name .. | .keyword _ | .number _ | .string _ | .punct _ => true
  | _ => false

def Tok.isLayout : Tok → Bool
  | .newline | .indent | .dedent => true
  | _ => false

/-- A word weighs one, and a formatted string more than what stands in it. -/
def Tok.weight : Tok → Nat
  | .string q => if q.formatted then q.body.length + 3 else 1
  | .name .. | .keyword _ | .number _ | .punct _ => 1
  | _ => 0

def weight (ts : List Token) : Nat := (ts.map fun t => t.tok.weight).sum

@[simp] theorem weight_nil : weight [] = 0 := rfl

@[simp] theorem weight_cons (t : Token) (ts : List Token) : weight (t :: ts) = t.tok.weight + weight ts := rfl

theorem weight_append (ts us : List Token) : weight (ts ++ us) = weight ts + weight us := by
  unfold weight
  rw [List.map_append, List.sum_append]

theorem Tok.one_le_weight {t : Tok} (h : t.isInner = true) : 1 ≤ t.weight := by
  cases t with
  | string q => unfold Tok.weight; dsimp only; split <;> omega
  | name | keyword | number | punct => exact Nat.le_refl 1
  | newline | indent | dedent | finish | fault => cases h

/-- How far a token list goes into blocks and does not come out of them. -/
def level (ts : List Token) : Int :=
  (ts.map fun t => match t.tok with | .indent => 1 | .dedent => -1 | _ => 0).sum

theorem level_cons (t : Token) (ts : List Token) :
    level (t :: ts) = (match t.tok with | .indent => 1 | .dedent => -1 | _ => 0) + level ts := rfl

theorem level_append (ts us : List Token) : level (ts ++ us) = level ts + level us := by
  unfold level
  rw [List.map_append, List.sum_append]

theorem level_cons_inner {t : Token} (h : t.tok.isInner = true) (ts : List Token) : level (t :: ts) = level ts := by
  rw [level_cons]
  cases ht : t.tok with
  | name | keyword | number | string | punct => exact Int.zero_add _
  | newline | indent | dedent | finish | fault => rw [ht] at h; cases h

theorem weight_le_of_suffix {ts us : List Token} (h : ts <:+ us) : weight ts ≤ weight us := by
  obtain ⟨pre, rfl⟩ := h
  rw [weight_append]
  omega

/-! ## Cursors -/

namespace Cursor

def tok (c : Cursor) : Tok := (c.rest.head?.map Token.tok).getD .finish

def next (c : Cursor) : Cursor :=
  match c.rest with
  | t :: ts => { rest := ts, lastLine := if Reader.isWord t.tok then t.endLine else c.lastLine }
  | [] => c

theorem next_suffix (c : Cursor) : c.next.rest <:+ c.rest := by
  unfold next
  split
  · next t ts h => rw [h]; exact List.suffix_cons t ts
  · exact List.suffix_refl _

theorem rest_of_isInner {c : Cursor} (h : c.tok.isInner = true) : ∃ t ts, c.rest = t :: ts ∧ t.tok = c.tok := by
  unfold tok at h ⊢
  cases hr : c.rest with
  | nil => rw [hr] at h; cases h
  | cons t ts => exact ⟨t, ts, rfl, rfl⟩

theorem length_next_lt {c : Cursor} (h : c.tok.isInner = true) : c.next.rest.length < c.rest.length := by
  obtain ⟨t, ts, hr, -⟩ := rest_of_isInner h
  unfold next
  rw [hr]
  exact Nat.lt_succ_self _

theorem weight_next_lt {c : Cursor} (h : c.tok.isInner = true) : weight c.next.rest < weight c.rest := by
  obtain ⟨t, ts, hr, ht⟩ := rest_of_isInner h
  have hw := Tok.one_le_weight (ht ▸ h : t.tok.isInner = true)
  unfold next
  rw [hr]
  dsimp only
  rw [weight_cons]
  omega

theorem level_next {c : Cursor} (h : c.tok.isInner = true) : level c.next.rest = level c.rest := by
  obtain ⟨t, ts, hr, ht⟩ := rest_of_isInner h
  unfold next
  rw [hr]
  exact (level_cons_inner (ht ▸ h) ts).symm

end Cursor

/-! ## Single readers -/

namespace Reader

variable {α β : Type} {c d : Cursor}

theorem bind_eq_ok {p : Reader α} {f : α → Reader β} {b : β} :
    (p >>= f) c = .ok (b, d) ↔ ∃ a e, p c = .ok (a, e) ∧ f a e = .ok (b, d) := by
  change (p c >>= fun x => f x.1 x.2) = .ok (b, d) ↔ _
  cases p c with
  | error e => exact ⟨fun h => (nomatch h), fun ⟨_, _, h, _⟩ => (nomatch h)⟩
  | ok x => exact ⟨fun h => ⟨x.1, x.2, rfl, h⟩, fun ⟨_, _, h, h'⟩ => by cases h; exact h'⟩

theorem bind_of_ok {p : Reader α} {f : α → Reader β} {a : α} (h : p c = .ok (a, d)) : (p >>= f) c = f a d := by
  change (p c >>= fun x => f x.1 x.2) = f a d
  rw [h]
  rfl

theorem pure_eq_ok {a b : α} : (pure a : Reader α) c = .ok (b, d) ↔ a = b ∧ c = d := by
  change Except.ok (a, c) = .ok (b, d) ↔ _
  rw [Except.ok.injEq, Prod.mk.injEq]

theorem peek_bind (f : Tok → Reader β) : (peek >>= f) c = f c.tok c := rfl

theorem skip_bind (f : Unit → Reader β) : (skip >>= f) c = f () c.next := rfl

theorem peek2_eq (c : Cursor) : peek2 c = .ok ((c.tok, c.next.tok), c) := by
  obtain ⟨rest, last⟩ := c
  match rest with
  | [] => rfl
  | [_] => rfl
  | _ :: _ :: _ => rfl

theorem peek2_bind (f : Tok × Tok → Reader β) : (peek2 >>= f) c = f (c.tok, c.next.tok) c := by
  change (peek2 c >>= fun x => f x.1 x.2) = _
  rw [peek2_eq]
  rfl

theorem accept_bind (t : Tok) (f : Bool → Reader β) :
    (accept t >>= f) c = if c.tok = t then f true c.next else f false c := by
  change ((if c.tok = t then (do skip; pure true) else pure false : Reader Bool) >>= f) c = _
  split <;> rfl

theorem expect_bind (t : Tok) (f : Unit → Reader β) :
    (expect t >>= f) c = if c.tok = t then f () c.next else .error (refusalAt c.tok) := by
  unfold expect
  rw [bind_assoc, accept_bind]
  split
  · rfl
  · rfl

theorem iterate_of_some {step : α → Reader (Option α)} {a b : α} {k : Nat} (h : step a c = .ok (some b, d)) :
    iterate step (k + 1) a c = iterate step k b d := by
  rw [iterate, bind_of_ok h]

end Reader

/-! ## Pairs of cursors -/

/-- Cursors of two token lists that belong together, the cursors of the first up to which they are followed, and a size
of what is left to read of each list. -/
structure Pairing where
  rel : Cursor → Cursor → Prop
  far : Cursor → Prop
  size : List Token → Nat := weight
  size' : List Token → Nat := weight

namespace Pairing

/-- Partners show the same token, and stay partners when a word is taken, which makes the rest smaller. -/
class Mirrors (P : Pairing) : Prop where
  tok : ∀ {c c'}, P.rel c c' → c'.tok = c.tok
  next : ∀ {c c'}, P.rel c c' → c.tok.isInner = true → P.rel c.next c'.next
  far_of_suffix : ∀ {c d : Cursor}, d.rest <:+ c.rest → P.far d → P.far c
  size_le : ∀ {c d : Cursor}, d.rest <:+ c.rest → P.size d.rest ≤ P.size c.rest
  size_next_lt : ∀ {c : Cursor}, c.tok.isInner = true → P.size c.next.rest < P.size c.rest
  size'_le : ∀ {c d : Cursor}, d.rest <:+ c.rest → P.size' d.rest ≤ P.size' c.rest
  size'_next_lt : ∀ {c : Cursor}, c.tok.isInner = true → P.size' c.next.rest < P.size' c.rest

/-- A pairing whose sizes exceed the weight, so that formatted strings are descents too. -/
class Weighs (P : Pairing) : Prop where
  weight_le : ∀ ts, weight ts ≤ P.size ts
  weight_le' : ∀ ts, weight ts ≤ P.size' ts

def diagonal : Pairing := { rel := Eq, far := fun _ => True }

def swap (P : Pairing) : Pairing where
  rel c c' := P.rel c' c
  far _ := True
  size := P.size'
  size' := P.size

instance : Mirrors diagonal where
  tok h := h ▸ rfl
  next h _ := h ▸ rfl
  far_of_suffix _ h := h
  size_le := weight_le_of_suffix
  size_next_lt := Cursor.weight_next_lt
  size'_le := weight_le_of_suffix
  size'_next_lt := Cursor.weight_next_lt

instance : Weighs diagonal where
  weight_le _ := Nat.le_refl _
  weight_le' _ := Nat.le_refl _

instance (P : Pairing) [P.Mirrors] : Mirrors P.swap where
  tok h := (Mirrors.tok (P := P) h).symm
  next h hi := Mirrors.next (P := P) h (Mirrors.tok (P := P) h ▸ hi)
  far_of_suffix _ h := h
  size_le := Mirrors.size'_le (P := P)
  size_next_lt := Mirrors.size'_next_lt (P := P)
  size'_le := Mirrors.size_le (P := P)
  size'_next_lt := Mirrors.size_next_lt (P := P)

instance (P : Pairing) [P.Weighs] : Weighs P.swap where
  weight_le := Weighs.weight_le' (P := P)
  weight_le' := Weighs.weight_le (P := P)

end Pairing

/-- The cursor `d` comes after `c`, outside the blocks between them, and strictly so under a condition. -/
structure After (strict : Prop) (c d : Cursor) : Prop where
  suffix : d.rest <:+ c.rest
  level : level d.rest = level c.rest
  shorter : strict → d.rest.length < c.rest.length

namespace After

variable {S T : Prop} {c d e : Cursor}

theorem refl (h : ¬ S) (c : Cursor) : After S c c := ⟨List.suffix_refl _, rfl, fun s => absurd s h⟩

theorem weaken (h : After S c d) (hs : T → S) : After T c d :=
  ⟨h.suffix, h.level, fun t => h.shorter (hs t)⟩

theorem below {P : Pairing} [P.Mirrors] (h : After S c d) {n : Nat} (hc : P.size c.rest < n) : P.size d.rest < n :=
  Nat.lt_of_le_of_lt (Pairing.Mirrors.size_le h.suffix) hc

theorem below' {P : Pairing} [P.Mirrors] (h : After S c d) {n : Nat} (hc : P.size' c.rest < n) : P.size' d.rest < n :=
  Nat.lt_of_le_of_lt (Pairing.Mirrors.size'_le h.suffix) hc

theorem trans (h : After S c d) (h' : After T d e) : After T c e :=
  ⟨h'.suffix.trans h.suffix, h'.level.trans h.level, fun t => Nat.lt_of_lt_of_le (h'.shorter t) h.suffix.length_le⟩

theorem trans_left (h : After S c d) (h' : After T d e) : After S c e :=
  ⟨h'.suffix.trans h.suffix, h'.level.trans h.level, fun s => Nat.lt_of_le_of_lt h'.suffix.length_le (h.shorter s)⟩

theorem next (h : c.tok.isInner = true) (S : Prop) : After S c c.next :=
  ⟨c.next_suffix, Cursor.level_next h, fun _ => Cursor.length_next_lt h⟩

end After

/-- **What `p` reads from a cursor `p'` reads from its partner.**  This holds at cursors in `H`, below the size `n`, for
what ends far enough; the results are in `E`, and a result in `K` means that a token was taken. -/
structure Alike {α : Type} (P : Pairing) (H : Cursor → Prop) (n : Nat) (K : α → Prop) (E : α → α → Prop)
    (p p' : Reader α) : Prop where
  forward : ∀ {c a d}, H c → P.size c.rest < n → p c = .ok (a, d) → After (K a) c d
  sync : ∀ {c c' a d}, P.rel c c' → H c → P.size c.rest < n → P.size' c'.rest < n → p c = .ok (a, d) → P.far d →
    ∃ a' d', p' c' = .ok (a', d') ∧ E a a' ∧ P.rel d d' ∧ After (K a) c' d'

abbrev Same {α : Type} (P : Pairing) (H : Cursor → Prop) (n : Nat) (p p' : Reader α) : Prop :=
  Alike P H n (fun _ => False) Eq p p'

abbrev Takes {α : Type} (P : Pairing) (H : Cursor → Prop) (n : Nat) (p p' : Reader α) : Prop :=
  Alike P H n (fun _ => True) Eq p p'

namespace Alike

open Pairing Reader

variable {α β : Type} {P : Pairing} {H G : Cursor → Prop} {n n₁ : Nat} {K : α → Prop} {L : β → Prop}
  {E : α → α → Prop} {F : β → β → Prop} {p p' : Reader α} {f f' : α → Reader β} {a : α} {b b' : β}

theorem weaken {K' : α → Prop} (h : Alike P H n K E p p') (hG : ∀ c, G c → H c) (hn : n₁ ≤ n)
    (hK : ∀ a, K' a → K a) : Alike P G n₁ K' E p p' where
  forward hc hw hp := (h.forward (hG _ hc) (Nat.lt_of_lt_of_le hw hn) hp).weaken (hK _)
  sync hr hc hw hw' hp hd := by
    obtain ⟨a', d', hp', he, hr', ha⟩ :=
      h.sync hr (hG _ hc) (Nat.lt_of_lt_of_le hw hn) (Nat.lt_of_lt_of_le hw' hn) hp hd
    exact ⟨a', d', hp', he, hr', ha.weaken (hK _)⟩

theorem mono {D : α → α → Prop} (h : Alike P H n K E p p') (hD : ∀ a a', E a a' → D a a') : Alike P H n K D p p' where
  forward := h.forward
  sync hr hc hw hw' hp hd := by
    obtain ⟨a', d', hp', he, hr', ha⟩ := h.sync hr hc hw hw' hp hd
    exact ⟨a', d', hp', hD _ _ he, hr', ha⟩

theorem vacuous (h : ∀ c, ¬ H c) : Alike P H n K E p p' where
  forward hc _ _ := absurd hc (h _)
  sync _ hc _ _ _ _ := absurd hc (h _)

theorem fails (h : ∀ c, H c → ∀ a d, p c ≠ .ok (a, d)) : Alike P H n K E p p' where
  forward hc _ hp := absurd hp (h _ hc _ _)
  sync _ hc _ _ hp _ := absurd hp (h _ hc _ _)

theorem tooHeavy (h : ∀ c, H c → n ≤ P.size c.rest) : Alike P H n K E p p' where
  forward hc hw _ := absurd hw (Nat.not_lt.2 (h _ hc))
  sync _ hc hw _ _ _ := absurd hw (Nat.not_lt.2 (h _ hc))

theorem congr {q q' : Reader α} (h : Alike P H n K E q q') (hp : ∀ c, H c → p c = q c)
    (hp' : ∀ c c', P.rel c c' → H c → p' c' = q' c') : Alike P H n K E p p' where
  forward hc hw hpc := h.forward hc hw (hp _ hc ▸ hpc)
  sync hr hc hw hw' hpc hd := by
    rw [hp' _ _ hr hc]
    exact h.sync hr hc hw hw' (hp _ hc ▸ hpc) hd

theorem refuse : Alike P H n K E Reader.refuse p' := fails fun _ _ _ _ h => nomatch h

theorem refuseThen {α' : Type} {g : α' → Reader α} : Alike P H n K E (Reader.refuse >>= g) p' :=
  fails fun _ _ _ _ h => nomatch h

theorem throw (e : Refusal) : Alike P H n K E (MonadExcept.throw e) p' := fails fun _ _ _ _ h => nomatch h

theorem pure {a' : α} (hK : ¬ K a) (hE : E a a') : Alike P H n K E (Pure.pure a) (Pure.pure a') where
  forward _ _ hp := by
    obtain ⟨rfl, rfl⟩ := pure_eq_ok.1 hp
    exact .refl hK _
  sync hr _ _ _ hp _ := by
    obtain ⟨rfl, rfl⟩ := pure_eq_ok.1 hp
    exact ⟨_, _, rfl, hE, hr, .refl hK _⟩

theorem ite {C : Prop} [Decidable C] {q₁ q₁' q₂ q₂' : Reader α} (h : C → Alike P H n K E q₁ q₁')
    (h' : ¬ C → Alike P H n K E q₂ q₂') : Alike P H n K E (if C then q₁ else q₂) (if C then q₁' else q₂') := by
  split
  · exact h ‹_›
  · exact h' ‹_›

theorem ensure {f f' : Unit → Reader α} {b : Bool} (h : b = true → Alike P H n K E (f ()) (f' ())) :
    Alike P H n K E (Reader.ensure b >>= f) (Reader.ensure b >>= f') := by
  cases b with
  | true => exact h rfl
  | false => exact fails fun _ _ _ _ h => nomatch h

theorem bind [P.Mirrors] {M : α → β → Prop} (hp : Alike P H n K E p p') (hE : ∀ a, E a a)
    (hf : ∀ a a', E a a' → Alike P (fun _ => True) n (M a) F (f a) (f' a'))
    (hL : ∀ a b, L b → K a ∨ M a b) : Alike P H n L F (p >>= f) (p' >>= f') where
  forward hc hw hpf := by
    obtain ⟨a, e, hpa, hfa⟩ := bind_eq_ok.1 hpf
    have h₁ := hp.forward hc hw hpa
    have h₂ := (hf a a (hE a)).forward trivial (h₁.below hw) hfa
    exact ⟨h₂.suffix.trans h₁.suffix, h₂.level.trans h₁.level,
      fun hl => (hL a _ hl).elim (h₁.trans_left h₂).shorter (h₁.trans h₂).shorter⟩
  sync hr hc hw hw' hpf hd := by
    obtain ⟨a, e, hpa, hfa⟩ := bind_eq_ok.1 hpf
    have h₁ := hp.forward hc hw hpa
    have h₂ := (hf a a (hE a)).forward trivial (h₁.below hw) hfa
    obtain ⟨a', e', hpa', he, hr₁, h₁'⟩ := hp.sync hr hc hw hw' hpa (Mirrors.far_of_suffix h₂.suffix hd)
    obtain ⟨b', d', hfb', hb, hr₂, h₂'⟩ := (hf a a' he).sync hr₁ trivial (h₁.below hw) (h₁'.below' hw') hfa hd
    refine ⟨b', d', bind_eq_ok.2 ⟨a', e', hpa', hfb'⟩, hb, hr₂, h₂'.suffix.trans h₁'.suffix, h₂'.level.trans h₁'.level,
      fun hl => (hL a _ hl).elim (h₁'.trans_left h₂').shorter (h₁'.trans h₂').shorter⟩

theorem andThen [P.Mirrors] (hp : Alike P H n (fun _ => False) Eq p p')
    (hf : ∀ a, Alike P (fun _ => True) n L F (f a) (f' a)) : Alike P H n L F (p >>= f) (p' >>= f') :=
  bind hp (fun _ => rfl) (fun a _ h => h ▸ hf a) (fun _ _ => .inr)

theorem andThenWhere [P.Mirrors] (I : α → Prop) (hp : Alike P H n (fun _ => False) Eq p p')
    (hI : ∀ {c a d}, H c → P.size c.rest < n → p c = .ok (a, d) → I a)
    (hf : ∀ a, I a → Alike P (fun _ => True) n L F (f a) (f' a)) : Alike P H n L F (p >>= f) (p' >>= f') where
  forward hc hw hpf := by
    obtain ⟨a, e, hpa, hfa⟩ := bind_eq_ok.1 hpf
    have h₁ := hp.forward hc hw hpa
    exact h₁.trans ((hf a (hI hc hw hpa)).forward trivial (h₁.below hw) hfa)
  sync hr hc hw hw' hpf hd := by
    obtain ⟨a, e, hpa, hfa⟩ := bind_eq_ok.1 hpf
    have h₁ := hp.forward hc hw hpa
    have hfa' := hf a (hI hc hw hpa)
    have h₂ := hfa'.forward trivial (h₁.below hw) hfa
    obtain ⟨a', e', hpa', rfl, hr₁, h₁'⟩ := hp.sync hr hc hw hw' hpa (Mirrors.far_of_suffix h₂.suffix hd)
    obtain ⟨b', d', hfb', hb, hr₂, h₂'⟩ := hfa'.sync hr₁ trivial (h₁.below hw) (h₁'.below' hw') hfa hd
    exact ⟨b', d', bind_eq_ok.2 ⟨a, e', hpa', hfb'⟩, hb, hr₂, h₁'.trans h₂'⟩

theorem afterTaking [P.Mirrors] (hp : Alike P H n (fun _ => True) Eq p p')
    (hf : ∀ a, Alike P (fun _ => True) n (fun _ => False) F (f a) (f' a)) : Alike P H n L F (p >>= f) (p' >>= f') :=
  bind (M := fun _ _ => False) hp (fun _ => rfl) (fun a _ h => h ▸ hf a) (fun _ _ _ => .inl trivial)

/-! ### Looking at tokens -/

section Tokens

variable [P.Mirrors] {t : Tok} {q q' : Reader β} {g g' : Tok → Reader β}

theorem peek (h : ∀ t, Alike P (fun c => c.tok = t ∧ H c) n L F (g t) (g' t)) :
    Alike P H n L F (Reader.peek >>= g) (Reader.peek >>= g') where
  forward hc hw hp := (h _).forward ⟨rfl, hc⟩ hw hp
  sync hr hc hw hw' hp hd := by
    rw [peek_bind, Mirrors.tok hr]
    exact (h _).sync hr ⟨rfl, hc⟩ hw hw' hp hd

/-- Looking at two tokens.  The second is looked at only after a word. -/
theorem peek2 {g g' : Tok × Tok → Reader β}
    (h : ∀ t u, t.isInner = true → Alike P (fun c => c.tok = t ∧ c.next.tok = u ∧ H c) n L F (g (t, u)) (g' (t, u)))
    (h' : ∀ t u u', t.isInner = false → Alike P (fun c => c.tok = t ∧ H c) n L F (g (t, u)) (g' (t, u'))) :
    Alike P H n L F (Reader.peek2 >>= g) (Reader.peek2 >>= g') where
  forward {c a d} hc hw hp := by
    rw [peek2_bind] at hp
    cases hi : c.tok.isInner with
    | true => exact (h _ _ hi).forward ⟨rfl, rfl, hc⟩ hw hp
    | false => exact (h' _ _ .finish hi).forward ⟨rfl, hc⟩ hw hp
  sync {c c' a d} hr hc hw hw' hp hd := by
    rw [peek2_bind] at hp
    rw [peek2_bind, Mirrors.tok hr]
    cases hi : c.tok.isInner with
    | true =>
      rw [Mirrors.tok (Mirrors.next hr hi)]
      exact (h _ _ hi).sync hr ⟨rfl, rfl, hc⟩ hw hw' hp hd
    | false => exact (h' _ _ _ hi).sync hr ⟨rfl, hc⟩ hw hw' hp hd

/-- Taking a word, after which only what is lighter is read. -/
theorem skip {f f' : Unit → Reader β} (hi : ∀ c, H c → c.tok.isInner = true) (hn : n ≤ n₁ + 1)
    (hG : ∀ c, H c → G c.next) (h : Alike P G n₁ (fun _ => False) F (f ()) (f' ())) :
    Alike P H n L F (Reader.skip >>= f) (Reader.skip >>= f') where
  forward {c a d} hc hw hp := by
    have hw₁ := Mirrors.size_next_lt (P := P) (hi c hc)
    exact (After.next (hi c hc) _).trans_left (h.forward (hG c hc) (by omega) hp)
  sync {c c' a d} hr hc hw hw' hp hd := by
    have hi' : c'.tok.isInner = true := Mirrors.tok hr ▸ hi c hc
    have hw₁ := Mirrors.size_next_lt (P := P) (hi c hc)
    have hw₁' := Mirrors.size'_next_lt (P := P) hi'
    obtain ⟨a', d', hp', he, hr', ha⟩ :=
      h.sync (Mirrors.next hr (hi c hc)) (hG c hc) (by omega) (by omega) hp hd
    exact ⟨a', d', hp', he, hr', (After.next hi' _).trans_left ha⟩

theorem skipAt {f f' : Unit → Reader β} (ht : t.isInner = true) (hn : n ≤ n₁ + 1)
    (h : Alike P (fun _ => True) n₁ (fun _ => False) F (f ()) (f' ())) :
    Alike P (fun c => c.tok = t ∧ H c) n L F (Reader.skip >>= f) (Reader.skip >>= f') :=
  skip (fun _ hc => hc.1 ▸ ht) hn (fun _ _ => trivial) h

theorem skipBoth {f f' : Unit → Reader β} {u : Tok} (ht : t.isInner = true) (hu : u.isInner = true) (hn : n ≤ n₁ + 1)
    (h : Alike P (fun _ => True) n₁ (fun _ => False) F (f ()) (f' ())) :
    Alike P (fun c => c.tok = t ∧ c.next.tok = u ∧ H c) n L F (Reader.skip >>= fun _ => Reader.skip >>= f)
      (Reader.skip >>= fun _ => Reader.skip >>= f') :=
  skip (G := fun c => c.tok = u) (fun _ hc => hc.1 ▸ ht) hn (fun _ hc => hc.2.1)
    (skip (fun _ hc => hc ▸ hu) (Nat.le_succ n₁) (fun _ _ => trivial) h)

theorem acceptCases {f f' : Bool → Reader β}
    (h : Alike P (fun c => c.tok = t ∧ H c) n L F (Reader.skip >>= fun _ => f true) (Reader.skip >>= fun _ => f' true))
    (h' : Alike P (fun c => c.tok ≠ t ∧ H c) n L F (f false) (f' false)) :
    Alike P H n L F (Reader.accept t >>= f) (Reader.accept t >>= f') := by
  refine ⟨fun {c a d} hc hw hp => ?_, fun {c c' a d} hr hc hw hw' hp hd => ?_⟩
  · rw [accept_bind] at hp
    split at hp
    · next he => exact h.forward ⟨he, hc⟩ hw hp
    · next he => exact h'.forward ⟨he, hc⟩ hw hp
  · rw [accept_bind] at hp ⊢
    rw [Mirrors.tok hr]
    split at hp
    · next he => rw [if_pos he]; exact h.sync hr ⟨he, hc⟩ hw hw' hp hd
    · next he => rw [if_neg he]; exact h'.sync hr ⟨he, hc⟩ hw hw' hp hd

theorem accept {f f' : Bool → Reader β} (ht : t.isInner = true) (hn : n ≤ n₁ + 1)
    (h : Alike P (fun _ => True) n₁ (fun _ => False) F (f true) (f' true))
    (h' : Alike P (fun c => c.tok ≠ t ∧ H c) n L F (f false) (f' false)) :
    Alike P H n L F (Reader.accept t >>= f) (Reader.accept t >>= f') :=
  acceptCases (skipAt ht hn h) h'

theorem acceptIf {q₁ q₁' q₂ q₂' : Reader β} (ht : t.isInner = true) (hn : n ≤ n₁ + 1)
    (h : Alike P (fun _ => True) n₁ (fun _ => False) F q₁ q₁') (h' : Alike P (fun c => c.tok ≠ t ∧ H c) n L F q₂ q₂') :
    Alike P H n L F (Reader.accept t >>= fun b => if b = true then q₁ else q₂)
      (Reader.accept t >>= fun b => if b = true then q₁' else q₂') :=
  accept ht hn h h'

theorem expect {f f' : Unit → Reader β} (ht : t.isInner = true) (hn : n ≤ n₁ + 1)
    (h : Alike P (fun _ => True) n₁ (fun _ => False) F (f ()) (f' ())) :
    Alike P H n L F (Reader.expect t >>= f) (Reader.expect t >>= f') := by
  unfold Reader.expect
  rw [bind_assoc, bind_assoc]
  exact accept ht hn h (fails fun _ _ _ _ h => nomatch h)

theorem accepted (ht : t.isInner = true) : Alike P H n (fun _ => False) Eq (Reader.accept t) (Reader.accept t) := by
  rw [← bind_pure (Reader.accept t)]
  exact accept ht (Nat.le_succ n) (pure id rfl) (pure id rfl)

theorem identifierThen {f f' : String → Reader β} (hn : n ≤ n₁ + 1) (hG : ∀ c, H c → G c.next)
    (h : ∀ id, Alike P G n₁ (fun _ => False) F (f id) (f' id)) :
    Alike P H n L F (Reader.identifier >>= f) (Reader.identifier >>= f') := by
  unfold Reader.identifier
  rw [bind_assoc, bind_assoc]
  refine peek fun u => ?_
  split
  · rw [bind_assoc, bind_assoc]
    refine skip (fun c hc => ?_) hn (fun c hc => hG c hc.2) (h _)
    rw [hc.1]
    rfl
  · exact fails fun _ _ _ _ h => nomatch h

theorem identifier {f f' : String → Reader β} (hn : n ≤ n₁ + 1)
    (h : ∀ id, Alike P (fun _ => True) n₁ (fun _ => False) F (f id) (f' id)) :
    Alike P H n L F (Reader.identifier >>= f) (Reader.identifier >>= f') :=
  identifierThen hn (fun _ _ => trivial) h

omit [P.Mirrors] in
theorem noName {f : String → Reader β} {q : Reader β} (h : ∀ c, H c → ∀ id ascii, c.tok ≠ .name id ascii) :
    Alike P H n L F (Reader.identifier >>= f) q := by
  refine fails fun c hc b d hp => ?_
  obtain ⟨id, e, hid, -⟩ := bind_eq_ok.1 hp
  unfold Reader.identifier at hid
  rw [peek_bind] at hid
  cases ht : c.tok with
  | name id ascii => exact h c hc id ascii ht
  | keyword | number | string | punct | newline | indent | dedent | finish | fault => rw [ht] at hid; cases hid

theorem skipStart {f f' : Unit → Reader β} (ht : t.isInner = true) (hn : n ≤ n₁ + 1)
    (h : Alike P (fun _ => True) n₁ (fun _ => False) F (f ()) (f' ())) :
    Alike P (fun c => decide (c.tok = t) = true) n L F (Reader.skip >>= f) (Reader.skip >>= f') :=
  skip (fun _ hc => of_decide_eq_true hc ▸ ht) hn (fun _ _ => trivial) h

end Tokens

/-! ### Repetition -/

section Loops

variable [P.Mirrors] {step step' : α → Reader (Option α)}

theorem forward_iterate
    (h : ∀ a a', E a a' → Alike P (fun _ => True) n (fun o => o.isSome = true) (Option.Rel E) (step a) (step' a'))
    (hE : ∀ a, E a a) : ∀ (k : Nat) (a b : α) (c d : Cursor), P.size c.rest < n →
      iterate step k a c = .ok (b, d) → After False c d
  | 0, a, b, c, d, hw, hp => by
    obtain ⟨rfl, rfl⟩ := pure_eq_ok.1 hp
    exact .refl id _
  | k + 1, a, b, c, d, hw, hp => by
    obtain ⟨o, e, ho, hp⟩ := bind_eq_ok.1 hp
    have h₁ := (h a a (hE a)).forward trivial hw ho
    cases o with
    | none =>
      obtain ⟨rfl, rfl⟩ := pure_eq_ok.1 hp
      exact h₁.weaken False.elim
    | some a₁ => exact h₁.trans (forward_iterate h hE k a₁ b e d (h₁.below hw) hp)

/-- The bound on a loop does not matter once it exceeds the number of tokens: each round takes one. -/
theorem sync_iterate
    (h : ∀ a a', E a a' → Alike P (fun _ => True) n (fun o => o.isSome = true) (Option.Rel E) (step a) (step' a'))
    (hE : ∀ a, E a a) : ∀ (k k' : Nat) (a a' b : α) (c c' d : Cursor), E a a' → P.rel c c' → P.size c.rest < n →
      P.size' c'.rest < n → c.rest.length < k → c'.rest.length < k' → iterate step k a c = .ok (b, d) → P.far d →
      ∃ b' d', iterate step' k' a' c' = .ok (b', d') ∧ E b b' ∧ P.rel d d' ∧ After False c' d'
  | k + 1, k' + 1, a, a', b, c, c', d, he, hr, hw, hw', hk, hk', hp, hd => by
    obtain ⟨o, e, ho, hp⟩ := bind_eq_ok.1 hp
    have h₁ := (h a a (hE a)).forward trivial hw ho
    cases o with
    | none =>
      obtain ⟨rfl, rfl⟩ := pure_eq_ok.1 hp
      obtain ⟨o', e', ho', hoo, hr', h₁'⟩ := (h a a' he).sync hr trivial hw hw' ho hd
      cases hoo
      exact ⟨a', e', bind_eq_ok.2 ⟨none, e', ho', rfl⟩, he, hr', h₁'.weaken False.elim⟩
    | some a₁ =>
      have hd' := Mirrors.far_of_suffix (P := P) (forward_iterate h hE k a₁ b e d (h₁.below hw) hp).suffix hd
      obtain ⟨o', e', ho', hoo, hr', h₁'⟩ := (h a a' he).sync hr trivial hw hw' ho hd'
      cases hoo with
      | @some _ a₁' he₁ =>
        have hlt := h₁.shorter rfl
        have hlt' := h₁'.shorter rfl
        obtain ⟨b', d', hp', heb, hrd, h₂'⟩ := sync_iterate h hE k k' a₁ a₁' b e e' d he₁ hr' (h₁.below hw)
          (h₁'.below' hw') (by omega) (by omega) hp hd
        exact ⟨b', d', bind_eq_ok.2 ⟨some a₁', e', ho', hp'⟩, heb, hrd, h₁'.trans h₂'⟩

theorem loopRel {a a' : α} (he : E a a') (hE : ∀ a, E a a)
    (h : ∀ a a', E a a' → Alike P (fun _ => True) n (fun o => o.isSome = true) (Option.Rel E) (step a) (step' a')) :
    Alike P H n (fun _ => False) E (Reader.loop step a) (Reader.loop step' a') where
  forward _ hw hp := forward_iterate h hE _ _ _ _ _ hw hp
  sync {c c' _ d} hr _ hw hw' hp hd :=
    sync_iterate h hE _ _ a a' _ c c' d he hr hw hw' (Nat.lt_succ_self _) (Nat.lt_succ_self _) hp hd

theorem loop (h : ∀ a, Alike P (fun _ => True) n (fun o => o.isSome = true) Eq (step a) (step' a)) :
    Alike P H n (fun _ => False) Eq (Reader.loop step a) (Reader.loop step' a) := by
  refine loopRel rfl (fun _ => rfl) fun a a' he => ?_
  subst he
  refine (h a).mono fun o o' ho => ?_
  subst ho
  cases o with
  | none => exact .none
  | some a => exact .some rfl

theorem manyRel {starts : Tok → Bool} (hE : ∀ a, E a a)
    (h : Alike P (fun c => starts c.tok = true) n (fun _ => True) E p p') :
    Alike P H n (fun _ => False) (List.Forall₂ E) (Reader.many starts p) (Reader.many starts p') := by
  have hrefl : ∀ l : List α, List.Forall₂ E l l := fun l => List.forall₂_same.2 fun a _ => hE a
  refine bind (M := fun _ _ => False) (loopRel (E := List.Forall₂ E) .nil hrefl fun acc acc' hacc => ?_) hrefl
    (fun l l' hl => pure id ?_) (fun _ _ => False.elim)
  · refine peek fun t => ite (fun hs => ?_) (fun _ => pure (nomatch ·) .none)
    refine bind (M := fun _ _ => False) (h.weaken (fun c hc => ?_) (Nat.le_refl n) fun _ => id) hE
      (fun a a' ha => pure id (.some (.cons ha hacc))) (fun _ _ _ => .inl trivial)
    rw [hc.1]
    exact hs
  · exact List.rel_reverse hl

theorem many {starts : Tok → Bool} (h : Alike P (fun c => starts c.tok = true) n (fun _ => True) Eq p p') :
    Alike P H n (fun _ => False) Eq (Reader.many starts p) (Reader.many starts p') :=
  (manyRel (fun _ => rfl) h).mono fun l l' hl => by rwa [List.forall₂_eq_eq_eq] at hl

theorem commaTail {starts : Tok → Bool} (h : Alike P (fun c => starts c.tok = true) n (fun _ => False) Eq p p') :
    Alike P H n (fun _ => False) Eq (Reader.commaTail starts p) (Reader.commaTail starts p') := by
  refine andThen (loop fun acc => ?_) fun items => pure id rfl
  refine acceptIf rfl (Nat.le_succ n) ?_ (pure (nomatch ·) rfl)
  refine peek fun t => ite (fun hs => ?_) fun _ => pure id rfl
  refine andThen (h.weaken (fun c hc => ?_) (Nat.le_refl n) fun _ => id) fun a => pure id rfl
  rw [hc.1]
  exact hs

theorem commaList (h : Alike P (fun _ => True) n (fun _ => False) Eq p p') :
    Alike P (fun _ => True) n (fun _ => False) Eq (Reader.commaList p) (Reader.commaList p') := by
  refine andThen h fun first => andThen (loop fun acc => ?_) fun rest => pure id rfl
  exact acceptIf rfl (Nat.le_succ n) (andThen h fun a => pure id rfl) (pure (nomatch ·) rfl)

end Loops

/-! ### Trying, and reading elsewhere -/

/-- A reader that is tried: it has to be alike both ways, so that it fails for both or for none. -/
theorem attempt (h : Alike P H n (fun _ => False) Eq p p') (h' : Alike P.swap H n (fun _ => False) Eq p' p)
    (hH : ∀ {c c'}, P.rel c c' → H c → H c') :
    Alike P H n (fun _ => False) Eq (Reader.attempt p) (Reader.attempt p') where
  forward {c o d} hc hw hp := by
    unfold Reader.attempt at hp
    split at hp
    · next a e hpa => cases hp; exact h.forward hc hw hpa
    · cases hp; exact .refl id _
  sync {c c' o d} hr hc hw hw' hp hd := by
    unfold Reader.attempt at hp ⊢
    split at hp
    · next a e hpa =>
      cases hp
      obtain ⟨a', d', hp', rfl, hr', ha⟩ := h.sync hr hc hw hw' hpa hd
      rw [hp']
      exact ⟨_, _, rfl, rfl, hr', ha⟩
    · next e hpe =>
      cases hp
      cases hp' : p' c' with
      | error e' => exact ⟨_, _, rfl, rfl, hr, .refl id _⟩
      | ok x =>
        obtain ⟨a', d', hpa, -⟩ := h'.sync (c := c') hr (hH hr hc) hw' hw hp' trivial
        rw [hpe] at hpa
        cases hpa

theorem within {ts : List Token} (hts : weight ts < n₁) (h : Same diagonal (fun _ => True) n₁ p p') :
    Alike P H n (fun _ => False) Eq (Reader.within ts p) (Reader.within ts p') where
  forward {c a d} _ _ hp := by
    unfold Reader.within at hp
    split at hp
    · cases hp; exact .refl id _
    · cases hp
  sync {c c' a d} hr _ _ _ hp _ := by
    unfold Reader.within at hp ⊢
    split at hp
    · next a e hpa =>
      cases hp
      obtain ⟨a', d', hp', rfl, -⟩ := h.sync (c := ⟨ts, 0⟩) rfl trivial hts hts hpa trivial
      rw [hp']
      exact ⟨_, _, rfl, rfl, hr, .refl id _⟩
    · cases hp

end Alike
end DocReview.Source
