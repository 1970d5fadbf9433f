import DocReview.Proofs.Source.Holes
import DocReview.Proofs.Source.Run
import DocReview.Source.Grammar.Expression
/-!
# Expressions — rules of any sufficient depth read expressions alike
-/
namespace DocReview.Source

open Reader

/-- Rules that read the same below a weight, whatever the cursors are paired with. -/
structure Rules.Agree (n : Nat) (r r' : Rules) : Prop where
  expression : ∀ {P : Pairing} [P.Mirrors] [P.Weighs] {H}, Same P H n r.expression r'.expression
  starExpressions : ∀ {P : Pairing} [P.Mirrors] [P.Weighs] {H}, Same P H n r.starExpressions r'.starExpressions
  disjunction : ∀ {P : Pairing} [P.Mirrors] [P.Weighs] {H}, Same P H n r.disjunction r'.disjunction
  inversion : ∀ {P : Pairing} [P.Mirrors] [P.Weighs] {H}, Same P H n r.inversion r'.inversion
  bitOr : ∀ {P : Pairing} [P.Mirrors] [P.Weighs] {H}, Same P H n r.bitOr r'.bitOr
  factor : ∀ {P : Pairing} [P.Mirrors] [P.Weighs] {H}, Same P H n r.factor r'.factor
  primary : ∀ {P : Pairing} [P.Mirrors] [P.Weighs] {H}, Same P H n r.primary r'.primary

namespace Rules

variable {P : Pairing} [P.Mirrors] [P.Weighs] {H : Cursor → Prop} {n : Nat} {r r' : Rules}

/-! ## Targets and elements -/

theorem same_starTarget (h : Agree n r r') : Same P H n r.starTarget r'.starTarget := by
  refine .acceptIf rfl (Nat.le_succ n) (.andThen h.primary fun e => ?_) (.andThen h.primary fun e => ?_)
  · exact .ensure fun _ => .pure id rfl
  · exact .ensure fun _ => .pure id rfl

theorem same_starTargets (h : Agree n r r') : Same P H n r.starTargets r'.starTargets := by
  refine .andThen (same_starTarget h) fun first => .peek fun t => .ite (fun _ => ?_) fun _ => .pure id rfl
  exact .andThen (.commaTail (same_starTarget h)) fun rest => .pure id rfl

omit [P.Weighs] in
theorem same_atNamed {β : Type} {L : β → Prop} {f f' : Bool → Reader β}
    (h : ∀ id ascii, Alike P (fun c => c.tok = .name id ascii ∧ c.next.tok = .punct .colonEq ∧ H c) n L Eq (f true) (f' true))
    (h' : Alike P H n L Eq (f false) (f' false)) : Alike P H n L Eq (atNamed >>= f) (atNamed >>= f') := by
  unfold atNamed
  rw [bind_assoc, bind_assoc]
  refine .peek2 (fun t u ht => ?_) (fun t u u' ht => ?_)
  · split
    · next heq => cases heq; exact h _ _
    · exact h'.weaken (fun c hc => hc.2.2) (Nat.le_refl n) fun _ => id
  · have hlast := h'.weaken (fun c (hc : c.tok = t ∧ H c) => hc.2) (Nat.le_refl n) fun _ => id
    cases t with
    | newline | indent | dedent | finish | fault => exact hlast
    | name | keyword | number | string | punct => cases ht

omit [P.Weighs] in
theorem same_named : Same P H n atNamed atNamed := by
  rw [← bind_pure atNamed]
  exact same_atNamed (fun _ _ => .pure (fun h => h) rfl) (.pure id rfl)

theorem same_namedExpression (h : Agree n r r') : Same P H n r.namedExpression r'.namedExpression := by
  refine same_atNamed (fun _ _ => ?_) h.expression
  refine .identifierThen (G := fun c => c.tok = .punct .colonEq ∧ True) (Nat.le_succ n) (fun c hc => ⟨hc.2.1, trivial⟩) fun id => ?_
  exact .skipAt rfl (Nat.le_succ n) (.andThen h.expression fun e => .pure (fun h => h) rfl)

theorem same_starNamed (h : Agree n r r') : Same P H n r.starNamed r'.starNamed :=
  .acceptIf rfl (Nat.le_succ n) (.andThen h.bitOr fun _ => .pure id rfl) (same_namedExpression h)

theorem takes_forClause (h : Agree n r r') : Takes P H n r.forClause r'.forClause := by
  refine .andThen (.accepted rfl) fun isAsync => ?_
  refine .expect rfl (Nat.le_succ n) (.andThen (same_starTargets h) fun target => ?_)
  refine .expect rfl (Nat.le_succ n) (.andThen h.disjunction fun iter => ?_)
  refine .andThen (.many ?_) fun conditions => .pure id rfl
  exact .skipStart rfl (Nat.le_succ n) h.disjunction

theorem same_forClauses (h : Agree n r r') : Same P H n r.forClauses r'.forClauses := .many (takes_forClause h)

theorem same_yieldExpr (h : Agree n r r') : Same P H n r.yieldExpr r'.yieldExpr := by
  refine .expect rfl (Nat.le_succ n) (.acceptIf rfl (Nat.le_succ n) (.andThen h.expression fun _ => .pure id rfl) ?_)
  refine .peek fun t => .ite (fun _ => ?_) fun _ => .pure id rfl
  exact .andThen h.starExpressions fun _ => .pure id rfl

/-! ## Brackets -/

theorem same_parenthesized (h : Agree n r r') : Same P H n r.parenthesized r'.parenthesized := by
  refine .acceptIf rfl (Nat.le_succ n) (.pure id rfl) (.peek fun t => .ite (fun _ => ?_) fun _ => .peek fun t => ?_)
  · exact .andThen (same_yieldExpr h) fun e => .expect rfl (Nat.le_succ n) (.pure id rfl)
  refine .andThen (same_starNamed h) fun first => .peek fun t => .ite (fun _ => ?_) fun _ => .peek fun t => ?_
  · exact .andThen (same_forClauses h) fun clauses => .expect rfl (Nat.le_succ n) (.pure id rfl)
  refine .ite (fun _ => ?_) fun _ => .ensure fun _ => .expect rfl (Nat.le_succ n) (.pure id rfl)
  exact .andThen (.commaTail (same_starNamed h)) fun rest => .expect rfl (Nat.le_succ n) (.pure id rfl)

theorem same_bracketed (h : Agree n r r') : Same P H n r.bracketed r'.bracketed := by
  refine .acceptIf rfl (Nat.le_succ n) (.pure id rfl) (.peek fun t => ?_)
  refine .andThen (same_starNamed h) fun first => .peek fun t => .ite (fun _ => ?_) fun _ => ?_
  · exact .andThen (same_forClauses h) fun clauses => .expect rfl (Nat.le_succ n) (.pure id rfl)
  · exact .andThen (.commaTail (same_starNamed h)) fun rest => .expect rfl (Nat.le_succ n) (.pure id rfl)

theorem same_dictItem (h : Agree n r r') : Same P H n r.dictItem r'.dictItem := by
  refine .acceptIf rfl (Nat.le_succ n) (.andThen h.bitOr fun _ => .pure id rfl) (.andThen h.expression fun key => ?_)
  exact .expect rfl (Nat.le_succ n) (.andThen h.expression fun _ => .pure id rfl)

theorem same_braced (h : Agree n r r') : Same P H n r.braced r'.braced := by
  unfold braced
  have hdict : ∀ first : DictItem, Same P (fun _ => True) n
      (do let rest ← commaTail startsDictItem r.dictItem; expectP .rbrace; return Expr.dict (first :: rest))
      (do let rest ← commaTail startsDictItem r'.dictItem; expectP .rbrace; return Expr.dict (first :: rest)) := by
    intro first
    exact .andThen (.commaTail (same_dictItem h)) fun rest => .expect rfl (Nat.le_succ n) (.pure id rfl)
  refine .acceptIf rfl (Nat.le_succ n) (.pure id rfl) (.acceptIf rfl (Nat.le_succ n) ?_ (.peek fun t => ?_))
  · exact .andThen h.bitOr fun e => hdict _
  refine .andThen same_named fun named => .andThen (same_starNamed h) fun first => .peek fun u => ?_
  refine .ite (fun hu => ?_) fun _ => .peek fun u => .ite (fun _ => ?_) fun _ => ?_
  · have hu : u = .punct .colon := by
      simp only [Bool.and_eq_true, decide_eq_true_eq] at hu
      exact hu.1.1
    refine .skipAt (hu ▸ rfl) (Nat.le_succ n) (.andThen h.expression fun value => .peek fun u => ?_)
    refine .ite (fun _ => ?_) fun _ => (hdict _).weaken (fun _ _ => trivial) (Nat.le_refl n) fun _ => id
    exact .andThen (same_forClauses h) fun clauses => .expect rfl (Nat.le_succ n) (.pure id rfl)
  · exact .andThen (same_forClauses h) fun clauses => .expect rfl (Nat.le_succ n) (.pure id rfl)
  · exact .andThen (.commaTail (same_starNamed h)) fun rest => .expect rfl (Nat.le_succ n) (.pure id rfl)

/-! ## Strings -/

omit [P.Mirrors] [P.Weighs] in
theorem same_require {α : Type} (o : Option α) : Same P H n (require o) (require o) := by
  cases o with
  | none => exact .throw _
  | some a => exact .pure id rfl

omit [P.Weighs] in
theorem same_joinPieces {k : Nat} {marked : Bool} : ∀ {H : Cursor → Prop} {ps : List Piece} (pending : List Nat),
    (∀ p ∈ ps, ∀ {H : Cursor → Prop} pending, Same P H k (r.joinPiece marked pending p) (r'.joinPiece marked pending p)) →
      Same P H k (r.joinPieces marked pending ps) (r'.joinPieces marked pending ps)
  | _, [], pending, _ => by
    unfold joinPieces
    exact .pure id rfl
  | _, p :: ps, pending, hps => by
    unfold joinPieces
    refine .andThen (hps p List.mem_cons_self pending) fun x => ?_
    exact .andThen (same_joinPieces _ fun q hq => hps q (List.mem_cons_of_mem p hq)) fun y => .pure id rfl

omit [P.Weighs] in
theorem same_joinPiece (h : Agree n r r') {m k : Nat} (hm : m + 3 ≤ n) {marked : Bool} {p : Piece} (hp : p.Fits m) :
    ∀ {H : Cursor → Prop} (pending : List Nat),
      Same P H k (r.joinPiece marked pending p) (r'.joinPiece marked pending p) := by
  induction hp with
  | text points =>
    intro H pending
    unfold joinPiece
    exact .pure id rfl
  | @hole source echo conversion hasFormat format hs _ ih =>
    intro H pending
    have hw := weight_tokens_le ('(' :: source ++ [')', '\n'])
    rw [List.length_append, List.length_cons, List.length_cons, List.length_cons, List.length_nil] at hw
    unfold joinPiece
    refine .andThen (Alike.within (Nat.lt_of_le_of_lt hw (by omega)) h.starExpressions) fun value => ?_
    exact .andThen (same_joinPieces [] fun p hp => ih p hp) fun x => .pure id rfl

omit [P.Weighs] in
theorem same_joinQuotes (h : Agree n r r') {marked : Bool} {k : Nat} : ∀ {H : Cursor → Prop} (pending : List Nat)
    {qs : List Quote}, (∀ q ∈ qs, (Tok.string q).weight ≤ n) →
      Same P H k (r.joinQuotes marked pending qs) (r'.joinQuotes marked pending qs)
  | _, pending, [], _ => .pure id rfl
  | _, pending, q :: qs, hqs => by
    unfold joinQuotes
    have hq := hqs q List.mem_cons_self
    have hrest := fun q' hq' => hqs q' (List.mem_cons_of_mem q hq')
    refine .ite (fun hf => ?_) fun _ => .andThen (same_require _) fun points => same_joinQuotes h _ hrest
    have hbody : q.body.length + 3 ≤ n := by
      unfold Tok.weight at hq
      dsimp only at hq
      rwa [if_pos hf] at hq
    refine .andThenWhere (fun ps => ∀ p ∈ ps, p.Fits q.body.length) (same_require _) (fun {c ps d} _ _ hp => ?_)
      fun ps hps => ?_
    · cases hf : formattedPieces q.raw q.body with
      | none => rw [hf] at hp; cases hp
      | some ps' =>
        rw [hf] at hp
        cases hp
        exact formattedPieces_fits hf
    · refine .andThen (same_joinPieces pending fun p hp => same_joinPiece h hbody (hps p hp)) fun x => ?_
      exact .andThen (same_joinQuotes h _ hrest) fun y => .pure id rfl

omit [P.Weighs] in
theorem same_joinBytes : ∀ {H : Cursor → Prop} (qs : List Quote), Same P H n (joinBytes qs) (joinBytes qs)
  | _, [] => .pure id rfl
  | _, _ :: qs => .andThen (same_require _) fun _ => .andThen (same_joinBytes qs) fun _ => .pure id rfl

def joined (r : Rules) (quotes : List Quote) : Reader Expr := do
  let marked := quotes.head?.any Quote.marked
  if quotes.all Quote.bytes then return .literal (.bytes (← joinBytes quotes))
  else
    ensure (quotes.all fun q => !q.bytes)
    let (parts, tail) ← r.joinQuotes marked [] quotes
    if quotes.any Quote.formatted then return .joined (parts ++ flushText marked tail)
    else return .literal (.text marked tail)

omit [P.Weighs] in
theorem same_joined (h : Agree n r r') {quotes : List Quote} (hq : ∀ q ∈ quotes, (Tok.string q).weight ≤ n) {k : Nat} :
    Same P H k (r.joined quotes) (r'.joined quotes) := by
  refine .ite (fun _ => .andThen (same_joinBytes quotes) fun _ => .pure id rfl) fun _ => .ensure fun _ => ?_
  refine .andThen (same_joinQuotes h [] hq) fun x => ?_
  exact .ite (fun _ => .pure id rfl) fun _ => .pure id rfl

def anotherQuote (acc : List Quote) : Reader (Option (List Quote)) := do return (← nextQuote?).map (· :: acc)

theorem nextQuote?_eq (c : Cursor) :
    nextQuote? c = match c.tok with | .string q => .ok (some q, c.next) | _ => .ok (none, c) := by
  unfold nextQuote?
  rw [peek_bind]
  generalize c.tok = t
  cases t <;> rfl

omit [P.Weighs] in
theorem alike_anotherQuote (acc : List Quote) :
    Alike P H n (fun o => o.isSome = true) Eq (anotherQuote acc) (anotherQuote acc) := by
  unfold anotherQuote nextQuote?
  rw [bind_assoc]
  refine .peek fun t => ?_
  split
  · rw [bind_assoc]
    exact .skipAt rfl (Nat.le_succ n) (.pure id rfl)
  · exact .pure (nomatch ·) rfl

theorem weight_of_quotes : ∀ (k : Nat) (acc quotes : List Quote) (c d : Cursor), P.size c.rest < n + 1 →
    (∀ q ∈ acc, (Tok.string q).weight ≤ n) → iterate anotherQuote k acc c = .ok (quotes, d) →
      ∀ q ∈ quotes, (Tok.string q).weight ≤ n
  | 0, acc, quotes, c, d, _, hacc, hp => by
    obtain ⟨rfl, -⟩ := pure_eq_ok.1 hp
    exact hacc
  | k + 1, acc, quotes, c, d, hw, hacc, hp => by
    obtain ⟨o, e, ho, hp⟩ := bind_eq_ok.1 hp
    obtain ⟨o', e', ho', ho⟩ := bind_eq_ok.1 ho
    obtain ⟨rfl, rfl⟩ := pure_eq_ok.1 ho
    rw [nextQuote?_eq] at ho'
    split at ho'
    · next q hq =>
      cases ho'
      have hi : c.tok.isInner = true := by rw [hq]; rfl
      obtain ⟨t, ts, hr, ht⟩ := Cursor.rest_of_isInner hi
      have hlt := Pairing.Mirrors.size_next_lt (P := P) hi
      have hle := Pairing.Weighs.weight_le (P := P) c.rest
      refine weight_of_quotes k _ quotes c.next d (by omega) (fun q' hq' => ?_) hp
      rcases List.mem_cons.1 hq' with rfl | hq'
      · rw [hr, weight_cons, ht, hq] at hle
        rw [hr] at hw
        omega
      · exact hacc q' hq'
    · cases ho'
      obtain ⟨rfl, -⟩ := pure_eq_ok.1 hp
      exact hacc

theorem strings_eq (r : Rules) {c : Cursor} {q : Quote} (hq : c.tok = .string q) :
    r.strings c = (skip >>= fun _ => loop anotherQuote [q] >>= fun quotes => r.joined quotes.reverse) c := by
  have hi : c.tok.isInner = true := by rw [hq]; rfl
  obtain ⟨t, ts, hr, -⟩ := Cursor.rest_of_isInner hi
  have hnext : c.next.rest = ts := by unfold Cursor.next; rw [hr]
  have hfirst : anotherQuote [] c = .ok (some [q], c.next) := by
    change (nextQuote? c >>= fun x => Except.ok (x.1.map (· :: []), x.2)) = _
    rw [nextQuote?_eq, hq]
    rfl
  have hloop : loop anotherQuote [] c = loop anotherQuote [q] c.next := by
    change iterate anotherQuote c.rest.length.succ [] c = iterate anotherQuote c.next.rest.length.succ [q] c.next
    rw [hnext, hr]
    exact iterate_of_some hfirst
  change (loop anotherQuote [] c >>= fun x => r.joined x.1.reverse x.2) = _
  rw [hloop]
  rfl

theorem takes_strings (h : Agree n r r') (q : Quote) :
    Takes P (fun c => c.tok = .string q ∧ H c) (n + 1) r.strings r'.strings := by
  by_cases hq : (Tok.string q).weight ≤ n
  · refine .congr ?_ (fun c hc => strings_eq r hc.1) fun c c' hr hc => strings_eq r' ((Pairing.Mirrors.tok hr).trans hc.1)
    refine .skipAt rfl (Nat.le_succ _) ?_
    refine .andThenWhere (fun quotes => ∀ q ∈ quotes, (Tok.string q).weight ≤ n) (.loop alike_anotherQuote)
      (fun {c quotes d} _ hw hp => ?_) fun quotes hquotes => ?_
    · refine weight_of_quotes _ [q] quotes c d hw (fun q' hq' => ?_) hp
      rw [List.mem_singleton.1 hq']
      exact hq
    · exact same_joined h fun q hq => hquotes q (List.mem_reverse.1 hq)
  · refine .tooHeavy fun c hc => ?_
    have hi : c.tok.isInner = true := by rw [hc.1]; rfl
    obtain ⟨t, ts, hr, ht⟩ := Cursor.rest_of_isInner hi
    have hle := Pairing.Weighs.weight_le (P := P) c.rest
    rw [hr, weight_cons, ht, hc.1] at hle
    rw [hr]
    omega

/-! ## Atoms and trailers -/

omit [P.Mirrors] [P.Weighs] in
theorem same_numberLiteral (x : Number) : Same P H n (numberLiteral x) (numberLiteral x) := by
  cases x with
  | int | float | imaginary => exact .pure id rfl
  | tooLong => exact .throw _

theorem takes_atom (h : Agree n r r') : Takes P H (n + 1) r.atom r'.atom := by
  refine .peek fun t => ?_
  split
  · exact .skipAt rfl (Nat.le_refl _) (.pure id rfl)
  · exact .skipAt rfl (Nat.le_refl _) (.pure id rfl)
  · exact .skipAt rfl (Nat.le_refl _) (.pure id rfl)
  · exact .skipAt rfl (Nat.le_refl _) (.pure id rfl)
  · exact .skipAt rfl (Nat.le_refl _) (same_numberLiteral _)
  · exact takes_strings h _
  · exact .skipAt rfl (Nat.le_refl _) (same_parenthesized h)
  · exact .skipAt rfl (Nat.le_refl _) (same_bracketed h)
  · exact .skipAt rfl (Nat.le_refl _) (same_braced h)
  · exact .skipAt rfl (Nat.le_refl _) (.pure id rfl)
  · exact .refuse

theorem same_optional (h : Agree n r r') : Same P H n r.optional r'.optional :=
  .peek fun _ => .ite (fun _ => .andThen h.expression fun _ => .pure id rfl) fun _ => .pure id rfl

theorem same_sliceTail (h : Agree n r r') (lower : Option Expr) :
    Same P H n (r.sliceTail lower) (r'.sliceTail lower) := by
  refine .expect rfl (Nat.le_succ n) (.andThen (same_optional h) fun upper => ?_)
  exact .acceptIf rfl (Nat.le_succ n) (.andThen (same_optional h) fun _ => .pure id rfl) (.pure id rfl)

theorem same_sliceItem (h : Agree n r r') : Same P H n r.sliceItem r'.sliceItem := by
  refine .acceptIf rfl (Nat.le_succ n) (.andThen h.expression fun _ => .pure id rfl) (.peek fun t => ?_)
  refine .ite (fun _ => same_sliceTail h none) fun _ => .andThen same_named fun named => ?_
  refine .andThen (same_namedExpression h) fun e => .peek fun t => ?_
  exact .ite (fun _ => same_sliceTail h (some e)) fun _ => .pure id rfl

theorem same_slices (h : Agree n r r') : Same P H n r.slices r'.slices := by
  refine .peek fun t => .andThen (same_sliceItem h) fun first => .peek fun u => .ite (fun _ => ?_) fun _ => .pure id rfl
  exact .andThen (.commaTail (same_sliceItem h)) fun rest => .pure id rfl

theorem same_argument (h : Agree n r r') (a : CallArgs) : Same P H n (r.argument a) (r'.argument a) := by
  refine .peek2 (fun t u ht => ?_) (fun t u u' ht => ?_)
  · split
    · exact .skipAt ht (Nat.le_succ n) (.andThen h.expression fun _ => .pure id rfl)
    · refine .ite (fun _ => .refuseThen) fun _ => ?_
      exact .skipAt ht (Nat.le_succ n) (.andThen h.expression fun _ => .pure id rfl)
    · next heq =>
      cases heq
      exact .skipBoth rfl rfl (Nat.le_succ n) (.andThen h.expression fun _ => .pure (fun h => h) rfl)
    · exact .ite (fun _ => .refuseThen) fun _ => .andThen (same_namedExpression h) fun _ => .pure id rfl
  · cases t with
    | newline | indent | dedent | finish | fault =>
      exact .ite (fun _ => .refuseThen) fun _ => .andThen (same_namedExpression h) fun _ => .pure id rfl
    | name | keyword | number | string | punct => cases ht

theorem same_arguments (h : Agree n r r') (a : CallArgs) : Same P H n (r.arguments a) (r'.arguments a) := by
  refine .andThen (.loop fun a => ?_) fun a => .expect rfl (Nat.le_succ n) (.pure id rfl)
  refine .acceptIf rfl (Nat.le_succ n) (.peek fun t => .ite (fun _ => ?_) fun _ => .pure id rfl) (.pure (nomatch ·) rfl)
  exact .andThen (same_argument h a) fun _ => .pure id rfl

theorem same_callArgs (h : Agree n r r') : Same P H n r.callArgs r'.callArgs := by
  refine .acceptIf rfl (Nat.le_succ n) (.pure id rfl) (.andThen (same_argument h {}) fun a => .peek fun t => ?_)
  refine .ite (fun _ => ?_) fun _ => .andThen (same_arguments h a) fun a => .pure id rfl
  split
  · exact .refuse
  · exact .andThen (same_forClauses h) fun clauses => .expect rfl (Nat.le_succ n) (.pure id rfl)
  · exact .refuse

theorem same_classArgs (h : Agree n r r') : Same P H n r.classArgs r'.classArgs := by
  refine .acceptIf rfl (Nat.le_succ n) (.pure id rfl) (.andThen (same_argument h {}) fun a => ?_)
  exact .andThen (same_arguments h a) fun a => .pure id rfl

theorem alike_trailer? (h : Agree n r r') (e : Expr) :
    Alike P H (n + 1) (fun o => o.isSome = true) Eq (r.trailer? e) (r'.trailer? e) := by
  refine .acceptIf rfl (Nat.le_refl _) (.identifier (Nat.le_succ n) fun _ => .pure id rfl) ?_
  refine .acceptIf rfl (Nat.le_refl _) (.andThen (same_callArgs h) fun x => .pure id rfl) ?_
  refine .acceptIf rfl (Nat.le_refl _) (.andThen (same_slices h) fun index => ?_) (.pure (nomatch ·) rfl)
  exact .expect rfl (Nat.le_succ n) (.pure id rfl)

theorem takes_primaryRule (h : Agree n r r') : Takes P H (n + 1) r.primaryRule r'.primaryRule :=
  .afterTaking (takes_atom h) fun _ => .loop fun e => alike_trailer? h e

/-! ## Operators -/

theorem takes_awaitPrimary (h : Agree n r r') : Takes P H (n + 1) r.awaitPrimary r'.awaitPrimary := by
  refine .acceptIf rfl (Nat.le_succ _) ?_ (takes_primaryRule h)
  exact .afterTaking (takes_primaryRule h) fun _ => .pure id rfl

theorem takes_power (h : Agree n r r') : Takes P H (n + 1) r.power r'.power := by
  refine .afterTaking (takes_awaitPrimary h) fun base => ?_
  exact .acceptIf rfl (Nat.le_refl _) (.andThen h.factor fun _ => .pure id rfl) (.pure id rfl)

theorem isInner_of_signOp? {t : Tok} {op : UnaryOp} (h : signOp? t = some op) : t.isInner = true := by
  unfold signOp? at h
  split at h
  all_goals first | rfl | cases h

theorem takes_factorRule (h : Agree n r r') : Takes P H (n + 1) r.factorRule r'.factorRule := by
  refine .peek fun t => ?_
  split
  · next op hop => exact .skipAt (isInner_of_signOp? hop) (Nat.le_refl _) (.andThen h.factor fun _ => .pure id rfl)
  · exact takes_power h

def OnWords (op? : Tok → Option BinOp) : Prop := ∀ {t op}, op? t = some op → t.isInner = true

omit [P.Weighs] in
theorem takes_leftOp {op? : Tok → Option BinOp} (hop : OnWords op?) {p p' : Reader Expr}
    (hp : ∀ {H : Cursor → Prop}, Takes P H n p p') : Takes P H n (leftOp op? p) (leftOp op? p') := by
  refine .afterTaking hp fun e => .loop fun left => .peek fun t => ?_
  split
  · next op ht => exact .skipAt (hop ht) (Nat.le_succ n) (.afterTaking hp fun _ => .pure id rfl)
  · exact .pure (nomatch ·) rfl

theorem onWords_termOp? : OnWords termOp? := by
  intro t op h
  unfold termOp? at h
  split at h
  all_goals first | rfl | cases h

theorem onWords_sumOp? : OnWords sumOp? := by
  intro t op h
  unfold sumOp? at h
  split at h
  all_goals first | rfl | cases h

theorem onWords_shiftOp? : OnWords shiftOp? := by
  intro t op h
  unfold shiftOp? at h
  split at h
  all_goals first | rfl | cases h

theorem onWords_oneOp? (q : Punct) (b : BinOp) : OnWords (oneOp? q b) := by
  intro t op h
  unfold oneOp? at h
  split at h
  all_goals first | rfl | cases h

theorem takes_bitOrRule (h : Agree n r r') : Takes P H (n + 1) r.bitOrRule r'.bitOrRule := by
  refine takes_leftOp (onWords_oneOp? _ _) (takes_leftOp (onWords_oneOp? _ _) (takes_leftOp (onWords_oneOp? _ _) ?_))
  exact takes_leftOp onWords_shiftOp? (takes_leftOp onWords_sumOp? (takes_leftOp onWords_termOp? (takes_factorRule h)))

omit [P.Weighs] in
theorem alike_cmpOp? : Alike P H n (fun o => o.isSome = true) Eq cmpOp? cmpOp? := by
  refine .peek2 (fun t u ht => ?_) (fun t u u' ht => ?_)
  · split
    · exact .skipAt ht (Nat.le_succ n) (.pure id rfl)
    · exact .skipAt ht (Nat.le_succ n) (.pure id rfl)
    · exact .skipAt ht (Nat.le_succ n) (.pure id rfl)
    · exact .skipAt ht (Nat.le_succ n) (.pure id rfl)
    · exact .skipAt ht (Nat.le_succ n) (.pure id rfl)
    · exact .skipAt ht (Nat.le_succ n) (.pure id rfl)
    · next heq => cases heq; exact .skipBoth rfl rfl (Nat.le_succ n) (.pure id rfl)
    · exact .skipAt ht (Nat.le_succ n) (.pure id rfl)
    · next heq => cases heq; exact .skipBoth rfl rfl (Nat.le_succ n) (.pure id rfl)
    · exact .skipAt ht (Nat.le_succ n) (.pure id rfl)
    · exact .pure (nomatch ·) rfl
  · cases t with
    | newline | indent | dedent | finish | fault => exact .pure (nomatch ·) rfl
    | name | keyword | number | string | punct => cases ht

theorem takes_comparison (h : Agree n r r') : Takes P H (n + 1) r.comparison r'.comparison := by
  refine .afterTaking (takes_bitOrRule h) fun left => .andThen (.loop fun acc => ?_) fun rest => ?_
  · refine .bind (M := fun o b => o = none ∧ b.isSome = true) alike_cmpOp? (fun _ => rfl) (fun o o' ho => ?_) ?_
    · subst ho
      cases o with
      | none => exact .pure (fun h => nomatch h.2) rfl
      | some op => exact .afterTaking (takes_bitOrRule h) fun _ => .pure id rfl
    · intro o b hb
      cases o with
      | none => exact .inr ⟨rfl, hb⟩
      | some op => exact .inl rfl
  · exact .ite (fun _ => .pure id rfl) fun _ => .pure id rfl

theorem takes_inversionRule (h : Agree n r r') : Takes P H (n + 1) r.inversionRule r'.inversionRule := by
  refine .acceptIf rfl (Nat.le_refl _) ?_ (takes_comparison h)
  exact .andThen h.inversion fun _ => .pure id rfl

omit [P.Weighs] in
theorem takes_boolChain (k : Keyword) (op : BoolOp) {p p' : Reader Expr}
    (hp : ∀ {H : Cursor → Prop}, Takes P H n p p') : Takes P H n (boolChain k op p) (boolChain k op p') := by
  refine .afterTaking hp fun first => .andThen (.many ?_) fun rest => ?_
  · exact .skipStart rfl (Nat.le_succ n) (hp.weaken (fun _ => id) (Nat.le_refl n) fun _ => False.elim)
  · exact .ite (fun _ => .pure id rfl) fun _ => .pure id rfl

theorem takes_disjunctionRule (h : Agree n r r') : Takes P H (n + 1) r.disjunctionRule r'.disjunctionRule :=
  takes_boolChain _ _ (takes_boolChain _ _ (takes_inversionRule h))

/-! ## Parameters -/

theorem same_hint (h : Agree n r r') (annotated starrable : Bool) :
    Same P H n (r.hint annotated starrable) (r'.hint annotated starrable) := by
  refine .ite (fun _ => .pure id rfl) fun _ => .acceptIf rfl (Nat.le_succ n) (.peek fun t => ?_) (.pure id rfl)
  refine .ite (fun ht => ?_) fun _ => .andThen h.expression fun _ => .pure id rfl
  have ht : t = .punct .star := of_decide_eq_true (Bool.and_eq_true_iff.1 ht).2
  exact .skipAt (ht ▸ rfl) (Nat.le_succ n) (.andThen h.bitOr fun _ => .pure id rfl)

theorem same_parameter (h : Agree n r r') (annotated : Bool) (p : ParamsRead) :
    Same P H n (r.parameter annotated p) (r'.parameter annotated p) := by
  refine .ite (fun _ => .refuseThen) fun _ => .peek2 (fun t u ht => ?_) (fun t u u' ht => ?_)
  · split
    · exact .ite (fun _ => .refuseThen) fun _ => .skipAt ht (Nat.le_succ n) (.pure id rfl)
    · refine .skipAt ht (Nat.le_succ n) (.identifier (Nat.le_succ n) fun id => ?_)
      exact .andThen (same_hint h annotated false) fun _ => .pure (fun h => h) rfl
    · next heq =>
      cases heq
      refine .ite (fun _ => .refuseThen) fun _ => ?_
      refine .skip (G := fun c => c.tok = .punct .comma) (fun c hc => hc.1 ▸ rfl) (Nat.le_succ n) (fun c hc => hc.2.1) ?_
      refine .peek2 (fun t u ht => ?_) (fun t u u' ht => .vacuous fun c hc => ?_)
      · split
        · exact .pure id rfl
        · exact .fails fun _ _ _ _ h => nomatch h
      · rw [← hc.1, hc.2] at ht
        cases ht
    · refine .ite (fun _ => .refuseThen) fun _ => .skipAt ht (Nat.le_succ n) (.identifier (Nat.le_succ n) fun id => ?_)
      exact .andThen (same_hint h annotated true) fun _ => .pure (fun h => h) rfl
    · refine .identifier (Nat.le_succ n) fun id => .andThen (same_hint h annotated false) fun hint => ?_
      refine .acceptIf rfl (Nat.le_succ n)
        (.andThen (.andThen h.expression fun _ => .pure (fun h => h) rfl) fun value => ?_) ?_
      · refine .ite (fun _ => .pure (fun h => h) rfl) fun _ => ?_
        split
        · exact .pure (fun h => h) rfl
        · exact .ite (fun _ => .refuseThen) fun _ => .pure (fun h => h) rfl
      · refine .ite (fun _ => .pure (fun h => h) rfl) fun _ => ?_
        exact .ite (fun _ => .refuseThen) fun _ => .pure (fun h => h) rfl
  · cases t with
    | newline | indent | dedent | finish | fault => exact .noName fun c hc id ascii he => nomatch hc.1.symm.trans he
    | name | keyword | number | string | punct => cases ht

theorem same_parameters (h : Agree n r r') (annotated : Bool) (close : Punct) :
    Same P H n (r.parameters annotated close) (r'.parameters annotated close) := by
  refine .peek fun t => .ite (fun _ => .pure id rfl) fun _ => .andThen (same_parameter h annotated {}) fun p => ?_
  refine .andThen (.loop fun p => ?_) fun p => .pure id rfl
  refine .acceptIf rfl (Nat.le_succ n) (.peek fun t => .ite (fun _ => .pure id rfl) fun _ => ?_) (.pure (nomatch ·) rfl)
  exact .andThen (same_parameter h annotated p) fun _ => .pure id rfl

/-! ## Expressions -/

theorem takes_lambdaRule (h : Agree n r r') : Takes P H (n + 1) r.lambdaRule r'.lambdaRule := by
  refine .expect rfl (Nat.le_refl _) (.andThen (same_parameters h false .colon) fun params => ?_)
  exact .expect rfl (Nat.le_succ n) (.andThen h.expression fun _ => .pure id rfl)

theorem takes_expressionRule (h : Agree n r r') : Takes P H (n + 1) r.expressionRule r'.expressionRule := by
  refine .peek fun t => .ite (fun _ => takes_lambdaRule h) fun _ => .afterTaking (takes_disjunctionRule h) fun body => ?_
  refine .acceptIf rfl (Nat.le_succ _) (.afterTaking (takes_disjunctionRule h) fun test => ?_) (.pure id rfl)
  exact .expect rfl (Nat.le_refl _) (.andThen h.expression fun _ => .pure id rfl)

theorem takes_starExpression (h : Agree n r r') : Takes P H (n + 1) r.starExpression r'.starExpression := by
  refine .acceptIf rfl (Nat.le_succ _) ?_ (takes_expressionRule h)
  exact .afterTaking (takes_bitOrRule h) fun _ => .pure id rfl

theorem takes_starExpressionsRule (h : Agree n r r') :
    Takes P H (n + 1) r.starExpressionsRule r'.starExpressionsRule := by
  refine .afterTaking (takes_starExpression h) fun first => .peek fun t => .ite (fun _ => ?_) fun _ => .pure id rfl
  refine .andThen (.commaTail ?_) fun rest => .pure id rfl
  exact (takes_starExpression h).weaken (fun _ => id) (Nat.le_refl _) fun _ => False.elim

theorem Agree.next (h : Agree n r r') : Agree (n + 1) r.next r'.next where
  expression := (takes_expressionRule h).weaken (fun _ => id) (Nat.le_refl _) fun _ => False.elim
  starExpressions := (takes_starExpressionsRule h).weaken (fun _ => id) (Nat.le_refl _) fun _ => False.elim
  disjunction := (takes_disjunctionRule h).weaken (fun _ => id) (Nat.le_refl _) fun _ => False.elim
  inversion := (takes_inversionRule h).weaken (fun _ => id) (Nat.le_refl _) fun _ => False.elim
  bitOr := (takes_bitOrRule h).weaken (fun _ => id) (Nat.le_refl _) fun _ => False.elim
  factor := (takes_factorRule h).weaken (fun _ => id) (Nat.le_refl _) fun _ => False.elim
  primary := (takes_primaryRule h).weaken (fun _ => id) (Nat.le_refl _) fun _ => False.elim

theorem Agree.mono {m : Nat} (h : Agree n r r') (hm : m ≤ n) : Agree m r r' where
  expression := h.expression.weaken (fun _ => id) hm fun _ => id
  starExpressions := h.starExpressions.weaken (fun _ => id) hm fun _ => id
  disjunction := h.disjunction.weaken (fun _ => id) hm fun _ => id
  inversion := h.inversion.weaken (fun _ => id) hm fun _ => id
  bitOr := h.bitOr.weaken (fun _ => id) hm fun _ => id
  factor := h.factor.weaken (fun _ => id) hm fun _ => id
  primary := h.primary.weaken (fun _ => id) hm fun _ => id

/-- **Rules of any depth that a token list cannot exceed read it alike.** -/
theorem agree_upTo : ∀ {n k k' : Nat}, n ≤ k → n ≤ k' → Agree n (upTo k) (upTo k')
  | 0, _, _, _, _ => by
    constructor
    all_goals exact ⟨fun _ hw => absurd hw (Nat.not_lt_zero _), fun _ _ hw => absurd hw (Nat.not_lt_zero _)⟩
  | _ + 1, _ + 1, _ + 1, hk, hk' => (agree_upTo (Nat.le_of_succ_le_succ hk) (Nat.le_of_succ_le_succ hk')).next

end Rules
end DocReview.Source
