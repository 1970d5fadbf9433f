import DocReview.Proofs.Source.Program
/-!
# Lone — a string alone on a line

A string literal that is followed by the end of its line is a statement of its own, at every depth of the rules.
-/
namespace DocReview.Source

open Reader

variable {α β : Type} {c d : Cursor} {e : Expr} {r : Rules}

theorem Reader.accept_bind_of_ne {t : Tok} {f : Bool → Reader β} (h : c.tok ≠ t) : (accept t >>= f) c = f false c := by
  rw [accept_bind, if_neg h]

theorem Reader.loop_of_none {step : α → Reader (Option α)} {a : α} (h : step a c = .ok (none, c)) :
    loop step a c = .ok (a, c) := by
  change iterate step (c.rest.length + 1) a c = _
  unfold iterate
  rw [bind_of_ok h]
  rfl

theorem many_of_not {starts : Tok → Bool} {item : Reader α} (hs : starts c.tok = false) :
    many starts item c = .ok ([], c) := by
  change (loop (another starts item) [] >>= fun items => pure items.reverse) c = _
  rw [bind_of_ok (loop_of_none (another_of_not hs))]
  rfl

namespace Rules

/-! ## From an atom to an expression -/

section

variable (hd : d.tok = .newline)

include hd

theorem trailer?_lone : r.trailer? e d = .ok (none, d) := by
  unfold trailer? acceptP
  rw [accept_bind_of_ne (by rw [hd]; exact nofun), if_neg Bool.false_ne_true,
    accept_bind_of_ne (by rw [hd]; exact nofun), if_neg Bool.false_ne_true,
    accept_bind_of_ne (by rw [hd]; exact nofun), if_neg Bool.false_ne_true]
  rfl

theorem leftOp_lone {op? : Tok → Option BinOp} {p : Reader Expr} (hop : op? .newline = none) (h : p c = .ok (e, d)) :
    leftOp op? p c = .ok (e, d) := by
  unfold leftOp
  rw [bind_of_ok h]
  refine loop_of_none ?_
  rw [peek_bind, hd, hop]
  rfl

theorem boolChain_lone {k : Keyword} {op : BoolOp} {p : Reader Expr} (h : p c = .ok (e, d)) :
    boolChain k op p c = .ok (e, d) := by
  unfold boolChain
  rw [bind_of_ok h]
  rw [bind_of_ok (many_of_not (by rw [hd]; rfl))]
  rfl

theorem cmpOp?_lone : cmpOp? d = .ok (none, d) := by
  unfold cmpOp?
  rw [peek2_bind, hd]
  rfl

variable {q : Quote} (hc : c.tok = .string q)

include hc

theorem primaryRule_lone (h : r.strings c = .ok (e, d)) : r.primaryRule c = .ok (e, d) := by
  have hatom : r.atom c = .ok (e, d) := by
    unfold atom
    rw [peek_bind, hc]
    exact h
  unfold primaryRule
  rw [bind_of_ok hatom]
  exact loop_of_none (trailer?_lone hd)

theorem factorRule_lone (h : r.strings c = .ok (e, d)) : r.factorRule c = .ok (e, d) := by
  have hawait : r.awaitPrimary c = .ok (e, d) := by
    unfold awaitPrimary acceptK
    rw [accept_bind_of_ne (by rw [hc]; exact nofun)]
    exact primaryRule_lone hd hc h
  unfold factorRule
  rw [peek_bind, hc]
  change r.power c = _
  unfold power acceptP
  rw [bind_of_ok hawait, accept_bind_of_ne (by rw [hd]; exact nofun)]
  rfl

theorem disjunctionRule_lone (h : r.strings c = .ok (e, d)) : r.disjunctionRule c = .ok (e, d) := by
  have hbitOr : r.bitOrRule c = .ok (e, d) := by
    unfold bitOrRule
    refine leftOp_lone hd rfl (leftOp_lone hd rfl (leftOp_lone hd rfl (leftOp_lone hd rfl (leftOp_lone hd rfl ?_))))
    exact leftOp_lone hd rfl (factorRule_lone hd hc h)
  refine boolChain_lone hd (boolChain_lone hd ?_)
  unfold inversionRule acceptK
  rw [accept_bind_of_ne (by rw [hc]; exact nofun)]
  change r.comparison c = _
  unfold comparison
  rw [bind_of_ok hbitOr]
  rw [bind_of_ok (loop_of_none (by rw [bind_of_ok (cmpOp?_lone hd)]; rfl))]
  rfl

theorem starExpressionsRule_lone (h : r.strings c = .ok (e, d)) : r.starExpressionsRule c = .ok (e, d) := by
  have hexpr : r.starExpression c = .ok (e, d) := by
    unfold starExpression acceptP
    rw [accept_bind_of_ne (by rw [hc]; exact nofun)]
    change r.expressionRule c = _
    unfold expressionRule acceptK
    rw [peek_bind, if_neg (by rw [hc]; exact nofun), bind_of_ok (disjunctionRule_lone hd hc h),
      accept_bind_of_ne (by rw [hd]; exact nofun)]
    rfl
  unfold starExpressionsRule
  rw [bind_of_ok hexpr, peek_bind, if_neg (by rw [hd]; exact nofun)]
  rfl

end

theorem strings_lone {q : Quote} {points : List Nat} (hc : c.tok = .string q) (hd : c.next.tok = .newline)
    (hb : q.bytes = false) (hf : q.formatted = false) (hp : textPoints q.raw q.body = some points) :
    r.strings c = .ok (.literal (.text q.marked points), c.next) := by
  have hnone : anotherQuote [q] c.next = .ok (none, c.next) := by
    have hquote : nextQuote? c.next = .ok (none, c.next) := by rw [nextQuote?_eq, hd]
    unfold anotherQuote
    rw [bind_of_ok hquote]
    rfl
  rw [strings_eq r hc, skip_bind, bind_of_ok (loop_of_none hnone)]
  unfold joined
  have hjoin : r.joinQuotes ([q].reverse.head?.any Quote.marked) [] [q].reverse c.next = .ok (([], points), c.next) := by
    change r.joinQuotes _ [] [q] c.next = _
    unfold joinQuotes
    rw [if_neg (by rw [hf]; exact Bool.false_ne_true), hp]
    rfl
  dsimp only
  rw [if_neg (by simp [hb]), show ([q].reverse.all fun q => !q.bytes) = true by simp [hb]]
  rw [show ensure true = pure () from rfl, pure_bind, bind_of_ok hjoin, if_neg (by simp [hf])]
  simp
  rfl

end Rules

namespace Statements

variable {k : Nat} {q : Quote} {points : List Nat}

/-- **A text literal alone on a line is a statement.** -/
theorem statement_lone {d : Reader (List Stmt)} (hc : c.tok = .string q) (hd : c.next.tok = .newline)
    (hb : q.bytes = false) (hf : q.formatted = false) (hp : textPoints q.raw q.body = some points) :
    statement (Rules.upTo (k + 1)) d c = .ok ([.expr (.literal (.text q.marked points))], c.next.next) := by
  have hexpr : (Rules.upTo (k + 1)).starExpressions c = .ok (.literal (.text q.marked points), c.next) :=
    Rules.starExpressionsRule_lone hd hc (Rules.strings_lone hc hd hb hf hp)
  have hsimple : simple (Rules.upTo (k + 1)) c = .ok (.expr (.literal (.text q.marked points)), c.next) := by
    unfold simple
    rw [peek_bind, hc]
    change expressionStatement _ c = _
    unfold expressionStatement
    rw [bind_of_ok hexpr, peek_bind, hd]
    rfl
  have hline : simpleLine (Rules.upTo (k + 1)) c = .ok ([.expr (.literal (.text q.marked points))], c.next.next) := by
    unfold simpleLine acceptP
    rw [bind_of_ok hsimple, bind_of_ok (loop_of_none (by rw [accept_bind_of_ne (by rw [hd]; nofun)]; rfl)),
      expect_bind, if_pos hd]
    rfl
  unfold statement
  rw [peek2_bind, hc, hd]
  exact hline

end Statements

end DocReview.Source
