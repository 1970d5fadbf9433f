import DocReview.Proofs.Source.Expressions
import DocReview.Source.Grammar.Pattern
/-!
# Patterns — patterns of any sufficient depth are read alike

A pattern may stand in another as deep as there are tokens left, so the bound here is on the number of tokens and not on
their weight.
-/
namespace DocReview.Source.Matching

open Reader Rules

variable {P : Pairing} [P.Mirrors] {H : Cursor → Prop} {n : Nat} {r r' : Rules} {d d' : Reader Pattern}

theorem same_captureName : Same P H n captureName captureName := by
  refine .peek fun t => .ite (fun _ => .refuseThen) fun _ => .identifier (Nat.le_succ n) fun id => .peek fun u => ?_
  split
  · exact .refuse
  · exact .refuse
  · exact .refuse
  · exact .pure (fun h => h) rfl

theorem takes_number : Takes P H n number number := by
  refine .peek fun t => ?_
  split
  · exact .skipAt rfl (Nat.le_succ n) (.pure id rfl)
  · exact .refuse

theorem takes_signedNumber : Takes P H n signedNumber signedNumber := by
  refine .andThen (.accepted rfl) fun negative => .afterTaking takes_number fun x => ?_
  refine .andThen (same_numberLiteral x) fun e => .peek fun t => ?_
  split
  · next op ht =>
    refine .ensure fun _ => .skipAt (onWords_sumOp? ht) (Nat.le_succ n) (.afterTaking takes_number fun m => ?_)
    exact .ensure fun _ => .andThen (same_numberLiteral m) fun _ => .pure id rfl
  · exact .pure id rfl

theorem same_attributes (e : Expr) : Same P H n (attributes e) (attributes e) := by
  refine .loop fun e => .acceptIf rfl (Nat.le_succ n) ?_ (.pure (nomatch ·) rfl)
  exact .identifier (Nat.le_succ n) fun _ => .pure (fun h => h) rfl

def StringsAlike (P : Pairing) (n : Nat) (r r' : Rules) : Prop :=
  ∀ (q : Quote) (H : Cursor → Prop), Takes P (fun c => c.tok = .string q ∧ H c) n r.strings r'.strings

theorem same_mappingKey (hs : StringsAlike P n r r') : Same P H n (mappingKey r) (mappingKey r') := by
  refine .peek2 (fun t u ht => ?_) (fun t u u' ht => ?_)
  · split
    · exact takes_signedNumber.weaken (fun _ => id) (Nat.le_refl n) fun _ => False.elim
    · exact takes_signedNumber.weaken (fun _ => id) (Nat.le_refl n) fun _ => False.elim
    · next heq =>
      cases heq
      exact (hs _ _).weaken (fun _ => id) (Nat.le_refl n) fun _ => False.elim
    · next heq => cases heq; exact .skipAt rfl (Nat.le_succ n) (.pure id rfl)
    · next heq => cases heq; exact .skipAt rfl (Nat.le_succ n) (.pure id rfl)
    · next heq => cases heq; exact .skipAt rfl (Nat.le_succ n) (.pure id rfl)
    · next heq => cases heq; exact .skipAt rfl (Nat.le_succ n) (same_attributes _)
    · next heq => cases heq; exact .skipAt rfl (Nat.le_succ n) .refuse
    · exact .refuse
  · cases t with
    | newline | indent | dedent | finish | fault => exact .refuse
    | name | keyword | number | string | punct => cases ht

theorem same_mappingItem (hs : StringsAlike P n r r') (hd : ∀ {H : Cursor → Prop}, Same P H n d d') (m : MappingRead) :
    Same P H n (mappingItem r d m) (mappingItem r' d' m) := by
  refine .ite (fun _ => .refuseThen) fun _ => .acceptIf rfl (Nat.le_succ n) ?_ ?_
  · exact .andThen same_captureName fun _ => .pure id rfl
  · refine .andThen (same_mappingKey hs) fun key => .expect rfl (Nat.le_succ n) ?_
    exact .andThen hd fun _ => .pure id rfl

theorem same_mapping (hs : StringsAlike P n r r') (hd : ∀ {H : Cursor → Prop}, Same P H n d d') :
    Same P H n (mapping r d) (mapping r' d') := by
  refine .acceptIf rfl (Nat.le_succ n) (.pure id rfl) (.andThen (same_mappingItem hs hd _) fun first => ?_)
  refine .andThen (.loop fun m => ?_) fun m => .expect rfl (Nat.le_succ n) (.pure id rfl)
  refine .acceptIf rfl (Nat.le_succ n) (.peek fun t => .ite (fun _ => .pure id rfl) fun _ => ?_) (.pure (nomatch ·) rfl)
  exact .andThen (same_mappingItem hs hd m) fun _ => .pure id rfl

theorem same_classItem (hd : ∀ {H : Cursor → Prop}, Same P H n d d') (c : ClassRead) :
    Same P H n (classItem d c) (classItem d' c) := by
  have hplain : ∀ {H : Cursor → Prop}, Same P H n
      (do if !c.names.isEmpty then refuse
          return { c with patterns := (← d) :: c.patterns })
      (do if !c.names.isEmpty then refuse
          return { c with patterns := (← d') :: c.patterns }) :=
    .ite (fun _ => .refuseThen) fun _ => .andThen hd fun _ => .pure id rfl
  refine .peek2 (fun t u ht => ?_) (fun t u u' ht => ?_)
  · split
    · next heq =>
      cases heq
      exact .skipBoth rfl rfl (Nat.le_succ n) (.andThen hd fun _ => .pure (fun h => h) rfl)
    · exact hplain
  · cases t with
    | newline | indent | dedent | finish | fault => exact hplain
    | name | keyword | number | string | punct => cases ht

theorem same_classArgs (hd : ∀ {H : Cursor → Prop}, Same P H n d d') (cls : Expr) :
    Same P H n (classArgs d cls) (classArgs d' cls) := by
  refine .acceptIf rfl (Nat.le_succ n) (.pure id rfl) (.andThen (same_classItem hd _) fun first => ?_)
  refine .andThen (.loop fun c => ?_) fun c => .expect rfl (Nat.le_succ n) (.pure id rfl)
  refine .acceptIf rfl (Nat.le_succ n) (.peek fun t => .ite (fun _ => .pure id rfl) fun _ => ?_) (.pure (nomatch ·) rfl)
  exact .andThen (same_classItem hd c) fun _ => .pure id rfl

theorem takes_nameOrClass (hd : ∀ {H : Cursor → Prop}, Same P H n d d') :
    Takes P H (n + 1) (nameOrClass d) (nameOrClass d') := by
  refine .identifier (Nat.le_refl _) fun id => .andThen (same_attributes _) fun e => ?_
  refine .acceptIf rfl (Nat.le_succ n) (same_classArgs hd e) (.peek fun t => .ite (fun _ => .refuse) fun _ => ?_)
  split
  · exact .pure (fun h => h) rfl
  · exact .pure (fun h => h) rfl

theorem same_element (hd : ∀ {H : Cursor → Prop}, Same P H n d d') : Same P H n (element d) (element d') := by
  refine .acceptIf rfl (Nat.le_succ n) (.acceptIf rfl (Nat.le_succ n) (.pure id rfl) ?_) hd
  exact .andThen same_captureName fun _ => .pure id rfl

theorem same_elementTail (hd : ∀ {H : Cursor → Prop}, Same P H n d d') (close : Punct) :
    Same P H n (elementTail d close) (elementTail d' close) := .commaTail (same_element hd)

theorem takes_closed (hs : StringsAlike P (n + 1) r r') (hd : ∀ {H : Cursor → Prop}, Same P H n d d') :
    Takes P H (n + 1) (closed r d) (closed r' d') := by
  have hs' : StringsAlike P n r r' := fun q H => (hs q H).weaken (fun _ => id) (Nat.le_succ n) fun _ => id
  refine .peek fun t => ?_
  split
  · exact .afterTaking takes_signedNumber fun _ => .pure id rfl
  · exact .afterTaking takes_signedNumber fun _ => .pure id rfl
  · exact .afterTaking (hs _ _) fun _ => .pure id rfl
  · exact .skipAt rfl (Nat.le_succ _) (.pure id rfl)
  · exact .skipAt rfl (Nat.le_succ _) (.pure id rfl)
  · exact .skipAt rfl (Nat.le_succ _) (.pure id rfl)
  · exact .acceptIf rfl (Nat.le_succ _) (.pure id rfl) (takes_nameOrClass hd)
  · refine .skipAt rfl (Nat.le_refl _) (.acceptIf rfl (Nat.le_succ n) (.pure id rfl) (.peek fun t => ?_))
    refine .andThen (same_element hd) fun first => .peek fun t => .ite (fun _ => ?_) fun _ => ?_
    · exact .andThen (same_elementTail hd _) fun rest => .expect rfl (Nat.le_succ n) (.pure id rfl)
    · exact .ensure fun _ => .expect rfl (Nat.le_succ n) (.pure id rfl)
  · refine .skipAt rfl (Nat.le_refl _) (.acceptIf rfl (Nat.le_succ n) (.pure id rfl) ?_)
    refine .andThen (same_element hd) fun first => .andThen (same_elementTail hd _) fun rest => ?_
    exact .expect rfl (Nat.le_succ n) (.pure id rfl)
  · exact .skipAt rfl (Nat.le_refl _) (same_mapping hs' hd)
  · exact .refuse

theorem takes_rule (hs : StringsAlike P (n + 1) r r') (hd : ∀ {H : Cursor → Prop}, Same P H n d d') :
    Takes P H (n + 1) (rule r d) (rule r' d') := by
  refine .afterTaking (takes_closed hs hd) fun first => .andThen (.many ?_) fun rest => ?_
  · exact .skipStart rfl (Nat.le_succ _) ((takes_closed hs hd).weaken (fun _ => id) (Nat.le_refl _) fun _ => False.elim)
  · refine .acceptIf rfl (Nat.le_succ _) ?_ (.pure id rfl)
    exact .andThen same_captureName fun _ => .pure id rfl

/-- Patterns are read alike at any depths that the tokens left to read do not exceed. -/
theorem same_upTo {m a a' : Nat} (hs : StringsAlike P m r r') (ha : ∀ ts, ts.length + a ≤ P.size ts)
    (ha' : ∀ ts, ts.length + a' ≤ P.size' ts) : ∀ {n k k' : Nat} {H : Cursor → Prop}, n ≤ m → n ≤ k + a + 1 →
      n ≤ k' + a' + 1 → Same P H n (upTo r k) (upTo r' k')
  | 0, _, _, _, _, _, _ => .tooHeavy fun _ _ => Nat.zero_le _
  | n + 1, 0, _, _, _, _, _ => .refuse
  | n + 1, k + 1, k' + 1, _, hm, hk, hk' => by
    have hs' : StringsAlike P (n + 1) r r' := fun q H => (hs q H).weaken (fun _ => id) hm fun _ => id
    have hd : ∀ {H : Cursor → Prop}, Same P H n (upTo r k) (upTo r' k') :=
      same_upTo hs ha ha' (by omega) (by omega) (by omega)
    exact (takes_rule hs' hd).weaken (fun _ => id) (Nat.le_refl _) fun _ => False.elim
  | n + 1, k + 1, 0, H, hm, hk, hk' => by
    have hs' : StringsAlike P (n + 1) r r' := fun q H => (hs q H).weaken (fun _ => id) hm fun _ => id
    have hd : ∀ {H : Cursor → Prop}, Same P H n (upTo r k) (upTo r' n) :=
      same_upTo hs ha ha' (by omega) (by omega) (by omega)
    have htakes : Takes P H (n + 1) (rule r (upTo r k)) (rule r' (upTo r' n)) := takes_rule hs' hd
    refine ⟨fun hc hw hp => (htakes.forward hc hw hp).weaken False.elim, fun {c c' x e} hr hc hw hw' hp he => ?_⟩
    -- Nothing is left for the partner, and a pattern takes a token.
    obtain ⟨_, _, _, _, _, hafter⟩ := htakes.sync hr hc hw hw' hp he
    have hlt := hafter.shorter trivial
    have hle := ha' c'.rest
    omega

theorem same_top (hd : ∀ {H : Cursor → Prop}, Same P H n d d') : Same P H n (top d) (top d') := by
  refine .peek fun t => .andThen (same_element hd) fun first => .peek fun t => .ite (fun _ => ?_) fun _ => ?_
  · exact .andThen (.commaTail (same_element hd)) fun _ => .pure id rfl
  · exact .ensure fun _ => .pure id rfl

/-! ## The number of tokens as a size -/

/-- A pairing with the number of tokens as its sizes, for lists that are below `n` in the sizes it had. -/
def counted (P : Pairing) (n m a a' : Nat) : Pairing where
  rel := P.rel
  far := P.far
  size ts := ts.length + a + if P.size ts < n then 0 else m
  size' ts := ts.length + a' + if P.size' ts < n then 0 else m

theorem guard_le {x y : Nat} (h : x ≤ y) (n m : Nat) : (if x < n then 0 else m) ≤ if y < n then 0 else m := by
  by_cases hy : y < n
  · rw [if_pos (Nat.lt_of_le_of_lt h hy)]
    exact Nat.zero_le _
  · rw [if_neg hy]
    split
    · exact Nat.zero_le _
    · exact Nat.le_refl _

instance {m a a' : Nat} : (counted P n m a a').Mirrors where
  tok := Pairing.Mirrors.tok (P := P)
  next := Pairing.Mirrors.next (P := P)
  far_of_suffix := Pairing.Mirrors.far_of_suffix (P := P)
  size_le h := by
    have hlen := h.length_le
    have hguard := guard_le (Pairing.Mirrors.size_le (P := P) h) n m
    exact Nat.add_le_add (Nat.add_le_add_right hlen a) hguard
  size_next_lt h := by
    have hlen := Cursor.length_next_lt h
    have hguard := guard_le (Nat.le_of_lt (Pairing.Mirrors.size_next_lt (P := P) h)) n m
    exact Nat.add_lt_add_of_lt_of_le (Nat.add_lt_add_right hlen a) hguard
  size'_le h := by
    have hlen := h.length_le
    have hguard := guard_le (Pairing.Mirrors.size'_le (P := P) h) n m
    exact Nat.add_le_add (Nat.add_le_add_right hlen a') hguard
  size'_next_lt h := by
    have hlen := Cursor.length_next_lt h
    have hguard := guard_le (Nat.le_of_lt (Pairing.Mirrors.size'_next_lt (P := P) h)) n m
    exact Nat.add_lt_add_of_lt_of_le (Nat.add_lt_add_right hlen a') hguard

theorem lt_of_guard {x y n m : Nat} (h : (y + if x < n then 0 else m) < m) : x < n := by
  by_contra hx
  rw [if_neg hx] at h
  omega

omit [P.Mirrors] in
theorem alike_counted {α : Type} {K : α → Prop} {E : α → α → Prop} {p p' : Reader α} (h : Alike P H n K E p p')
    (m a a' : Nat) : Alike (counted P n m a a') H m K E p p' where
  forward hc hw hp := h.forward hc (lt_of_guard hw) hp
  sync hr hc hw hw' hp hd := h.sync hr hc (lt_of_guard hw) (lt_of_guard hw') hp hd

variable [P.Weighs]

def casePattern (r : Rules) : Reader Pattern := do top (upTo r (← get).rest.length)

/-- **Patterns as deep as there are tokens left are read alike.** -/
theorem same_casePattern (h : Agree n r r') : Same P H n (casePattern r) (casePattern r') := by
  -- The sizes of two partners are made equal by the number of tokens the other one has left.
  have hpair : ∀ k k' : Nat, Same (counted P n (k + k' + 1) k' k) H (k + k' + 1) (top (upTo r k)) (top (upTo r' k')) := by
    intro k k'
    have hs : StringsAlike (counted P n (k + k' + 1) k' k) (k + k' + 1) r r' := fun q H =>
      alike_counted ((takes_strings h q).weaken (fun _ => id) (Nat.le_succ n) fun _ => id) _ _ _
    refine same_top fun {H} => same_upTo (a := k') hs (fun ts => ?_) (fun ts => ?_) (Nat.le_refl _)
      (Nat.le_refl _) (Nat.le_of_eq (by rw [Nat.add_comm k k']))
    · exact Nat.le_add_right _ _
    · exact Nat.le_add_right _ _
  refine ⟨fun {c a d} hc hw hp => ?_, fun {c c' a d} hr hc hw hw' hp hd => ?_⟩
  · refine (hpair c.rest.length c.rest.length).forward hc ?_ hp
    change c.rest.length + c.rest.length + (if P.size c.rest < n then 0 else _) < _
    rw [if_pos hw]
    omega
  · refine (hpair c.rest.length c'.rest.length).sync (c := c) hr hc ?_ ?_ hp hd
    · change c.rest.length + c'.rest.length + (if P.size c.rest < n then 0 else _) < _
      rw [if_pos hw]
      omega
    · change c'.rest.length + c.rest.length + (if P.size' c'.rest < n then 0 else _) < _
      rw [if_pos hw']
      omega

end DocReview.Source.Matching
