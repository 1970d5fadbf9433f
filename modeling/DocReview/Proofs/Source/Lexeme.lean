import DocReview.Proofs.Source.Alike
import DocReview.Source.Lexer
/-!
# Lexeme — how far a word of a source text reaches

Two texts are the same up to the end of their first line when `SameLine` holds.  What a scanning function takes from a
text is decided there: it takes the same from every text that goes on, after what was taken, with the same line.
`Decides` says so, and `lexeme_cut` says it of whatever can follow on a line.
-/
namespace DocReview.Source

/-- Texts whose first lines are the same, up to a line feed that both have. -/
inductive SameLine : List Char → List Char → Prop where
  | ended (v w : List Char) : SameLine ('\n' :: v) ('\n' :: w)
  | cons {v w : List Char} (c : Char) (h : SameLine v w) : SameLine (c :: v) (c :: w)

namespace SameLine

variable {v w : List Char}

theorem append (h : SameLine v w) : ∀ pre : List Char, SameLine (pre ++ v) (pre ++ w)
  | [] => h
  | c :: pre => .cons c (h.append pre)

theorem head?_eq (h : SameLine v w) : v.head? = w.head? := by
  cases h with
  | ended => rfl
  | cons => rfl

theorem ne_nil (h : SameLine v w) : w ≠ [] := by
  cases h with
  | ended => exact List.cons_ne_nil _ _
  | cons => exact List.cons_ne_nil _ _

theorem cons_inv {c : Char} (h : SameLine (c :: v) w) : ∃ u, w = c :: u := by
  cases h with
  | ended v w => exact ⟨w, rfl⟩
  | cons c h => exact ⟨_, rfl⟩

theorem exists_cons (h : SameLine v w) : ∃ c u, v = c :: u := by
  cases h with
  | ended v w => exact ⟨'\n', v, rfl⟩
  | cons c h => exact ⟨c, _, rfl⟩

theorem two {c d : Char} {u : List Char} (hc : c ≠ '\n') (h : SameLine v (c :: d :: u)) : ∃ u', v = c :: d :: u' := by
  cases h with
  | ended v w => exact absurd rfl hc
  | cons c h =>
    cases h with
    | ended v w => exact ⟨_, rfl⟩
    | cons d h => exact ⟨_, rfl⟩

theorem takeWhile_eq {p : Char → Bool} (hp : p '\n' = false) (h : SameLine v w) :
    v.takeWhile p = w.takeWhile p ∧ SameLine (v.drop (v.takeWhile p).length) (w.drop (w.takeWhile p).length) := by
  induction h with
  | ended v w =>
    rw [List.takeWhile_cons_of_neg (by simp [hp]), List.takeWhile_cons_of_neg (by simp [hp])]
    exact ⟨rfl, .ended v w⟩
  | cons c h ih =>
    cases hc : p c with
    | true =>
      rw [List.takeWhile_cons_of_pos hc, List.takeWhile_cons_of_pos hc, ih.1]
      refine ⟨rfl, ?_⟩
      rw [List.length_cons, List.drop_succ_cons, List.drop_succ_cons]
      have := ih.2
      rwa [ih.1] at this
    | false =>
      rw [List.takeWhile_cons_of_neg (by simp [hc]), List.takeWhile_cons_of_neg (by simp [hc])]
      exact ⟨rfl, .cons c h⟩

end SameLine

/-- What `scan` takes from a text, up to `rest`, is part of a line, and it takes that from every text that goes on there
with the same line. -/
structure Decides {α : Type} (scan : List Char → Option (α × List Char)) : Prop where
  cut : ∀ {cs a rest}, scan cs = some (a, rest) →
    ∃ pre, cs = pre ++ rest ∧ '\n' ∉ pre ∧ ∀ w, SameLine rest w → scan (pre ++ w) = some (a, w)

theorem Decides.length_le {α : Type} {scan : List Char → Option (α × List Char)} (h : Decides scan) {cs rest : List Char}
    {a : α} (hs : scan cs = some (a, rest)) : rest.length ≤ cs.length := by
  obtain ⟨pre, rfl, -⟩ := h.cut hs
  rw [List.length_append]
  omega

theorem Decides.bind {α β : Type} {scan : List Char → Option (α × List Char)}
    {next : α × List Char → Option (β × List Char)} (h : Decides scan) (h' : ∀ a, Decides fun r => next (a, r)) :
    Decides fun cs => (scan cs).bind next := by
  refine ⟨fun {cs b rest} hb => ?_⟩
  obtain ⟨⟨a, r⟩, ha, hnext⟩ := Option.bind_eq_some_iff.1 hb
  obtain ⟨pre, rfl, hn, hpre⟩ := h.cut ha
  obtain ⟨pre', rfl, hn', hpre'⟩ := (h' a).cut hnext
  refine ⟨pre ++ pre', (List.append_assoc ..).symm, List.not_mem_append hn hn', fun w hw => ?_⟩
  rw [List.append_assoc, hpre _ (hw.append pre')]
  exact hpre' w hw

theorem decides_stay {α : Type} {scan : List Char → Option (α × List Char)} {rest : List Char} {a : α}
    (h : ∀ w, SameLine rest w → scan w = some (a, w)) :
    ∃ pre, rest = pre ++ rest ∧ '\n' ∉ pre ∧ ∀ w, SameLine rest w → scan (pre ++ w) = some (a, w) :=
  ⟨[], rfl, List.not_mem_nil, h⟩

/-! ## Numbers -/

theorem decides_digitRun {p : Char → Bool} (hp : p '\n' = false) : Decides (digitRun p) := by
  refine ⟨fun {cs} => ?_⟩
  induction cs with
  | nil =>
    intro ds rest h
    cases h
    exact ⟨[], rfl, List.not_mem_nil, fun w hw => nomatch hw⟩
  | cons c cs ih =>
    intro ds rest h
    unfold digitRun at h
    split at h
    · next heq => cases heq
    · next cs' heq =>
      cases heq
      split at h
      · next hany =>
        obtain ⟨pre, rfl, hn, hpre⟩ := ih h
        refine ⟨'_' :: pre, rfl, List.not_mem_cons_of_ne_of_not_mem (by decide) hn, fun w hw => ?_⟩
        rw [List.cons_append, digitRun, ← (hw.append pre).head?_eq, if_pos hany]
        exact hpre w hw
      · cases h
    · next c' cs' hne heq =>
      cases heq
      split at h
      · next hc =>
        obtain ⟨x, hx, hds⟩ := Option.map_eq_some_iff.1 h
        obtain ⟨ds', rest'⟩ := x
        cases hds
        obtain ⟨pre, rfl, hn, hpre⟩ := ih hx
        have hcn : '\n' ≠ c := fun h => by rw [← h, hp] at hc; cases hc
        refine ⟨c :: pre, rfl, List.not_mem_cons_of_ne_of_not_mem hcn hn, fun w hw => ?_⟩
        rw [List.cons_append, digitRun.eq_3 _ _ _ hne, if_pos hc, hpre w hw]
        rfl
      · next hc =>
        cases h
        refine decides_stay fun w hw => ?_
        cases hw with
        | ended v w => rw [digitRun.eq_3 _ _ _ hne, if_neg hc]
        | cons c hw => rw [digitRun.eq_3 _ _ _ hne, if_neg hc]

theorem startsWord_eq {v w : List Char} : ∀ word : List Char, '\n' ∉ word → SameLine v w →
    startsWord word v = startsWord word w
  | [], _, h => by
    unfold startsWord
    rw [h.head?_eq]
  | c :: word, hn, .ended v w => by
    have hc : '\n' ≠ c := fun hc => hn (hc ▸ List.mem_cons_self)
    simp only [startsWord, hc, decide_false, Bool.false_and]
  | c :: word, hn, .cons d h => by
    unfold startsWord
    rw [startsWord_eq word (fun hm => hn (List.mem_cons_of_mem c hm)) h]

theorem endsNumber_eq {v w : List Char} (h : SameLine v w) : endsNumber v = endsNumber w := by
  have hand := startsWord_eq "and".toList (by decide) h
  have helse := startsWord_eq "else".toList (by decide) h
  have hfor := startsWord_eq "for".toList (by decide) h
  have hor := startsWord_eq "or".toList (by decide) h
  have hnot := startsWord_eq "not".toList (by decide) h
  cases h with
  | ended v w => rfl
  | cons c h =>
    by_cases hc : c = 'i'
    · subst hc
      cases h with
      | ended v w => rfl
      | cons d h => rfl
    · have hplain : ∀ u, endsNumber (c :: u) = (!mayContinueName c || startsWord "and".toList (c :: u)
          || startsWord "else".toList (c :: u) || startsWord "for".toList (c :: u)
          || startsWord "or".toList (c :: u) || startsWord "not".toList (c :: u)) := by
        intro u
        unfold endsNumber
        split
        · rename_i hu
          exact absurd (List.cons.inj hu).1 hc
        · rename_i hu
          obtain ⟨rfl, rfl⟩ := List.cons.inj hu
          rfl
        · rename_i hu
          cases hu
      rw [hplain, hplain, hand, helse, hfor, hor, hnot]

theorem decides_scanRadix (base : Nat) {p : Char → Bool} (hp : p '\n' = false) : Decides (scanRadix base p) := by
  refine ⟨fun {cs a rest} h => ?_⟩
  obtain ⟨⟨ds, r⟩, hds, hrest⟩ := Option.bind_eq_some_iff.1 h
  obtain ⟨pre, rfl, hline, hpre⟩ := (decides_digitRun hp).cut hds
  dsimp only at hrest
  split at hrest
  · cases hrest
  · next hn =>
    cases hrest
    refine ⟨pre, rfl, hline, fun w hw => Option.bind_eq_some_iff.2 ⟨(ds, w), hpre w hw, ?_⟩⟩
    dsimp only
    rw [← hw.head?_eq, ← endsNumber_eq hw, if_neg hn]

theorem isDigit_newline : isDigit '\n' = false := by decide

theorem decides_scanFraction : Decides scanFraction := by
  refine ⟨fun {cs a rest} h => ?_⟩
  unfold scanFraction at h
  split at h
  · next cs =>
    split at h
    · next hany =>
      obtain ⟨⟨ds, r⟩, hx, hds⟩ := Option.map_eq_some_iff.1 h
      cases hds
      obtain ⟨pre, rfl, hn, hpre⟩ := (decides_digitRun isDigit_newline).cut hx
      refine ⟨'.' :: pre, rfl, List.not_mem_cons_of_ne_of_not_mem (by decide) hn, fun w hw => ?_⟩
      rw [List.cons_append, scanFraction, ← (hw.append pre).head?_eq, if_pos hany, hpre w hw]
      rfl
    · next hany =>
      cases h
      refine ⟨['.'], rfl, by decide, fun w hw => ?_⟩
      rw [List.singleton_append, scanFraction, ← hw.head?_eq, if_neg hany]
  · next hne =>
    cases h
    refine decides_stay fun w hw => scanFraction.eq_2 w fun cs hcs => ?_
    subst hcs
    cases hw with
    | cons c hw => exact hne _ rfl

theorem scanExponent_of_ne {c : Char} (hc : ¬ (decide (c = 'e') || decide (c = 'E')) = true) (u : List Char) :
    scanExponent (c :: u) = some (none, c :: u) := by
  cases u with
  | nil => rw [scanExponent, if_neg hc]
  | cons d u => rw [scanExponent, if_neg hc]

theorem newline_ne {c d e : Char} (h : (decide (c = d) || decide (c = e)) = true) (hd : '\n' ≠ d) (he : '\n' ≠ e) :
    '\n' ≠ c := by
  rcases Bool.or_eq_true_iff.1 h with h | h
  · rw [of_decide_eq_true h]; exact hd
  · rw [of_decide_eq_true h]; exact he

section Exponent

variable {e s : Char} {r rest : List Char} {a : Option Int} (he : (decide (e = 'e') || decide (e = 'E')) = true)

include he

theorem scanExponent_signed_cut (hs : (decide (s = '+') || decide (s = '-')) = true)
    (h : scanExponent (e :: s :: r) = some (a, rest)) :
    ∃ pre, e :: s :: r = pre ++ rest ∧ '\n' ∉ pre ∧ ∀ w, SameLine rest w → scanExponent (pre ++ w) = some (a, w) := by
  rw [scanExponent, if_pos he, if_pos hs] at h
  split at h
  · next hany =>
    obtain ⟨⟨ds, r'⟩, hx, hds⟩ := Option.map_eq_some_iff.1 h
    cases hds
    obtain ⟨pre, rfl, hn, hpre⟩ := (decides_digitRun isDigit_newline).cut hx
    have hsn := List.not_mem_cons_of_ne_of_not_mem (newline_ne hs (by decide) (by decide)) hn
    have hen := List.not_mem_cons_of_ne_of_not_mem (newline_ne he (by decide) (by decide)) hsn
    refine ⟨e :: s :: pre, rfl, hen, fun w hw => ?_⟩
    rw [List.cons_append, List.cons_append, scanExponent, if_pos he, if_pos hs, ← (hw.append pre).head?_eq,
      if_pos hany, hpre w hw]
    rfl
  · cases h

theorem scanExponent_unsigned_cut (hs : ¬ (decide (s = '+') || decide (s = '-')) = true)
    (h : scanExponent (e :: s :: r) = some (a, rest)) :
    ∃ pre, e :: s :: r = pre ++ rest ∧ '\n' ∉ pre ∧ ∀ w, SameLine rest w → scanExponent (pre ++ w) = some (a, w) := by
  rw [scanExponent, if_pos he, if_neg hs] at h
  split at h
  · next hdigit =>
    obtain ⟨⟨ds, r'⟩, hx, hds⟩ := Option.map_eq_some_iff.1 h
    cases hds
    obtain ⟨pre, hcs, hn, hpre⟩ := (decides_digitRun isDigit_newline).cut hx
    have hen := List.not_mem_cons_of_ne_of_not_mem (newline_ne he (by decide) (by decide)) hn
    refine ⟨e :: pre, by rw [hcs, List.cons_append], hen, fun w hw => ?_⟩
    have hw' := hw.append pre
    rw [← hcs] at hw'
    obtain ⟨u, hu⟩ := hw'.cons_inv
    rw [List.cons_append, hu, scanExponent, if_pos he, if_neg hs, if_pos hdigit, ← hu, hpre w hw]
    rfl
  · next hdigit =>
    split at h
    · next helse =>
      cases h
      refine decides_stay fun w hw => ?_
      have hword := startsWord_eq "else".toList (by decide) hw
      cases hw with
      | ended v w => cases he
      | cons c hw =>
        obtain ⟨u, rfl⟩ := hw.cons_inv
        rw [scanExponent, if_pos he, if_neg hs, if_neg hdigit, ← hword, if_pos helse]
    · cases h

end Exponent

theorem decides_scanExponent : Decides scanExponent := by
  refine ⟨fun {cs a rest} h => ?_⟩
  cases cs with
  | nil =>
    cases h
    exact ⟨[], rfl, List.not_mem_nil, fun w hw => nomatch hw⟩
  | cons e cs =>
    by_cases he : (decide (e = 'e') || decide (e = 'E')) = true
    · cases cs with
      | nil =>
        rw [scanExponent, if_pos he] at h
        cases h
      | cons s r =>
        by_cases hs : (decide (s = '+') || decide (s = '-')) = true
        · exact scanExponent_signed_cut he hs h
        · exact scanExponent_unsigned_cut he hs h
    · rw [scanExponent_of_ne he] at h
      cases h
      refine decides_stay fun w hw => ?_
      obtain ⟨u, rfl⟩ := hw.cons_inv
      exact scanExponent_of_ne he u

def decimalEnd (whole : List Char) (frac : Option (List Char)) (exp : Option Int) (rest : List Char) :
    Option (Number × List Char) :=
  let value := Binary64.ofDecimal false (digitsValue 10 (whole ++ frac.getD [])) (exp.getD 0 - ((frac.getD []).length : Int))
  match rest with
  | c :: r =>
    if c = 'j' || c = 'J' then (if endsNumber r then some (.imaginary value, r) else none)
    else scanDecimal.plain whole frac exp value rest
  | [] => scanDecimal.plain whole frac exp value rest

theorem scanDecimal_eq (cs : List Char) : scanDecimal cs =
    (if cs.head?.any isDigit then digitRun isDigit cs else some ([], cs)).bind fun x =>
      (scanFraction x.2).bind fun y => (scanExponent y.2).bind fun z => decimalEnd x.1 y.1 z.1 z.2 := by
  unfold scanDecimal
  split
  · rfl
  · rfl

theorem plain_eq_some {whole : List Char} {frac : Option (List Char)} {exp : Option Int} {value : Binary64}
    {v rest : List Char} {n : Number} (hv : scanDecimal.plain whole frac exp value v = some (n, rest)) :
    rest = v ∧ ∀ w, endsNumber w = endsNumber v → scanDecimal.plain whole frac exp value w = some (n, w) := by
  unfold scanDecimal.plain at hv ⊢
  split at hv
  · cases hv
  · next hends =>
    split at hv
    · next hfloat => cases hv; exact ⟨rfl, fun w hw => by rw [hw, if_neg hends, if_pos hfloat]⟩
    · next hfloat =>
      split at hv
      · next hzero =>
        split at hv
        · next hall =>
          cases hv
          exact ⟨rfl, fun w hw => by rw [hw, if_neg hends, if_neg hfloat, if_pos hzero, if_pos hall]⟩
        · cases hv
      · next hzero =>
        split at hv
        · next hlong =>
          cases hv
          exact ⟨rfl, fun w hw => by rw [hw, if_neg hends, if_neg hfloat, if_neg hzero, if_pos hlong]⟩
        · next hlong =>
          cases hv
          exact ⟨rfl, fun w hw => by rw [hw, if_neg hends, if_neg hfloat, if_neg hzero, if_neg hlong]⟩

theorem decides_decimalEnd (whole : List Char) (frac : Option (List Char)) (exp : Option Int) :
    Decides (decimalEnd whole frac exp) := by
  refine ⟨fun {cs n rest} h => ?_⟩
  cases cs with
  | nil =>
    obtain ⟨rfl, -⟩ := plain_eq_some h
    exact ⟨[], rfl, List.not_mem_nil, fun w hw => nomatch hw⟩
  | cons c r =>
    unfold decimalEnd at h
    dsimp only at h
    split at h
    · next hj =>
      split at h
      · next hends =>
        cases h
        refine ⟨[c], rfl, mt List.mem_singleton.1 (newline_ne hj (by decide) (by decide)), fun w hw => ?_⟩
        rw [List.singleton_append, decimalEnd, if_pos hj, ← endsNumber_eq hw, if_pos hends]
      · cases h
    · next hj =>
      obtain ⟨rfl, hplain⟩ := plain_eq_some h
      refine decides_stay fun w hw => ?_
      have hw' := hplain w (endsNumber_eq hw).symm
      obtain ⟨u, rfl⟩ := hw.cons_inv
      rw [decimalEnd, if_neg hj, hw']

theorem decides_scanDecimal : Decides scanDecimal := by
  rw [funext scanDecimal_eq]
  refine Decides.bind ⟨fun {cs a rest} h => ?_⟩ fun whole => ?_
  · split at h
    · next hany =>
      obtain ⟨pre, rfl, hn, hpre⟩ := (decides_digitRun isDigit_newline).cut h
      refine ⟨pre, rfl, hn, fun w hw => ?_⟩
      rw [← (hw.append pre).head?_eq, if_pos hany, hpre w hw]
    · next hany =>
      cases h
      refine ⟨[], rfl, List.not_mem_nil, fun w hw => ?_⟩
      rw [List.nil_append, ← hw.head?_eq, if_neg hany]
  · dsimp only
    refine Decides.bind decides_scanFraction fun frac => ?_
    dsimp only
    exact Decides.bind decides_scanExponent fun exp => decides_decimalEnd whole frac exp

theorem decides_marked {base : Nat} {p : Char → Bool} (hp : p '\n' = false) {m : Char} (hm : '\n' ≠ m)
    (hscan : ∀ cs, scanNumber ('0' :: m :: cs) = scanRadix base p cs) {cs rest : List Char} {n : Number}
    (h : scanRadix base p cs = some (n, rest)) :
    ∃ pre, '0' :: m :: cs = pre ++ rest ∧ '\n' ∉ pre ∧ ∀ w, SameLine rest w → scanNumber (pre ++ w) = some (n, w) := by
  obtain ⟨pre, rfl, hn, hpre⟩ := (decides_scanRadix base hp).cut h
  have hmn := List.not_mem_cons_of_ne_of_not_mem hm hn
  refine ⟨'0' :: m :: pre, rfl, List.not_mem_cons_of_ne_of_not_mem (by decide) hmn, fun w hw => ?_⟩
  rw [List.cons_append, List.cons_append, hscan, hpre w hw]

theorem decides_scanNumber : Decides scanNumber := by
  refine ⟨fun {cs n rest} h => ?_⟩
  unfold scanNumber at h
  split at h
  · exact decides_marked (by decide) (by decide) (fun _ => rfl) h
  · exact decides_marked (by decide) (by decide) (fun _ => rfl) h
  · exact decides_marked (by decide) (by decide) (fun _ => rfl) h
  · exact decides_marked (by decide) (by decide) (fun _ => rfl) h
  · exact decides_marked (by decide) (by decide) (fun _ => rfl) h
  · exact decides_marked (by decide) (by decide) (fun _ => rfl) h
  · next hx hX ho hO hb hB =>
    obtain ⟨pre, rfl, hn, hpre⟩ := decides_scanDecimal.cut h
    refine ⟨pre, rfl, hn, fun w hw => ?_⟩
    have hmark : ∀ (d : Char) (u : List Char), pre ++ w = '0' :: d :: u → ∃ u', pre ++ rest = '0' :: d :: u' :=
      fun d u hu => SameLine.two (by decide) (hu ▸ hw.append pre)
    rw [scanNumber.eq_7 _ (fun u hu => (hmark _ u hu).elim hx) (fun u hu => (hmark _ u hu).elim hX)
      (fun u hu => (hmark _ u hu).elim ho) (fun u hu => (hmark _ u hu).elim hO)
      (fun u hu => (hmark _ u hu).elim hb) (fun u hu => (hmark _ u hu).elim hB)]
    exact hpre w hw

theorem digitRun_cons {p : Char → Bool} {c : Char} (hc : p c = true) (hp : p '_' = false) (cs : List Char) :
    digitRun p (c :: cs) = (digitRun p cs).map fun x => (c :: x.1, x.2) := by
  rw [digitRun.eq_3 p c cs (fun h => by rw [h, hp] at hc; cases hc), if_pos hc]

theorem scanDecimal_shorter {c : Char} {cs rest : List Char} {n : Number}
    (hc : (isDigit c || (c = '.' && cs.head?.any isDigit)) = true) (h : scanDecimal (c :: cs) = some (n, rest)) :
    rest.length ≤ cs.length := by
  rw [scanDecimal_eq] at h
  obtain ⟨⟨whole, r₁⟩, h₁, h⟩ := Option.bind_eq_some_iff.1 h
  obtain ⟨⟨frac, r₂⟩, h₂, h⟩ := Option.bind_eq_some_iff.1 h
  obtain ⟨⟨exp, r₃⟩, h₃, h⟩ := Option.bind_eq_some_iff.1 h
  have hle := (decides_decimalEnd whole frac exp).length_le h
  have hle₃ := decides_scanExponent.length_le h₃
  suffices r₂.length ≤ cs.length from Nat.le_trans hle (Nat.le_trans hle₃ this)
  cases hdigit : isDigit c with
  | true =>
    have hle₂ := decides_scanFraction.length_le h₂
    rw [List.head?_cons, Option.any_some, hdigit, if_pos rfl, digitRun_cons hdigit (by decide)] at h₁
    obtain ⟨⟨ds, r⟩, hds, hx⟩ := Option.map_eq_some_iff.1 h₁
    cases hx
    have hle₁ := (decides_digitRun isDigit_newline).length_le hds
    exact Nat.le_trans hle₂ hle₁
  | false =>
    rw [List.head?_cons, Option.any_some, hdigit] at h₁
    cases h₁
    rw [hdigit, Bool.false_or, Bool.and_eq_true] at hc
    obtain rfl := of_decide_eq_true hc.1
    rw [scanFraction, if_pos hc.2] at h₂
    obtain ⟨⟨ds, r⟩, hds, hx⟩ := Option.map_eq_some_iff.1 h₂
    cases hx
    exact (decides_digitRun isDigit_newline).length_le hds

theorem scanRadix_length_le {base : Nat} {p : Char → Bool} (hp : p '\n' = false) {m : Char} {cs cs' rest : List Char}
    {n : Number} {c : Char} (hcs : c :: cs = '0' :: m :: cs') (h : scanRadix base p cs' = some (n, rest)) :
    rest.length ≤ cs.length := by
  cases hcs
  exact Nat.le_succ_of_le ((decides_scanRadix base hp).length_le h)

theorem scanNumber_shorter {c : Char} {cs rest : List Char} {n : Number}
    (hc : (isDigit c || (c = '.' && cs.head?.any isDigit)) = true) (h : scanNumber (c :: cs) = some (n, rest)) :
    rest.length ≤ cs.length := by
  unfold scanNumber at h
  split at h
  case h_7 => exact scanDecimal_shorter hc h
  all_goals
    next heq => exact scanRadix_length_le (by decide) heq h

/-! ## Strings -/

theorem ne_backslash {c : Char} {cs : List Char} (h : c = '\\' → cs = [] → False)
    (h' : ∀ (d : Char) (ds : List Char), c = '\\' → cs = d :: ds → False) : c ≠ '\\' := fun hc => by
  cases cs with
  | nil => exact h hc rfl
  | cons d ds => exact h' d ds hc rfl

theorem scanShort_cons {q c : Char} (hc : c ≠ '\\') (cs : List Char) : scanShort q (c :: cs) =
    if c = q then some ([], cs) else if c = '\n' then none else (scanShort q cs).map fun x => (c :: x.1, x.2) :=
  scanShort.eq_4 q c cs (fun h _ => hc h) (fun _ _ h _ => hc h)

theorem scanLong_cons {q c : Char} (hc : c ≠ '\\') (cs : List Char) : scanLong q (c :: cs) =
    if c = q ∧ cs.head? = some q ∧ cs.tail.head? = some q then some ([], cs.tail.tail)
    else (scanLong q cs).map fun x => (c :: x.1, x.2) :=
  scanLong.eq_4 q c cs (fun h _ => hc h) (fun _ _ h _ => hc h)

theorem scanShort_cut (q : Char) {cs body rest : List Char} (h : scanShort q cs = some (body, rest)) :
    ∃ pre, cs = pre ++ [q] ++ rest ∧ pre.length = body.length ∧ ∀ w, scanShort q (pre ++ [q] ++ w) = some (body, w) := by
  induction cs using scanShort.induct q generalizing body rest with
  | case1 | case2 => cases h
  | case3 c cs ih =>
    obtain ⟨⟨b, r⟩, hb, hx⟩ := Option.map_eq_some_iff.1 h
    cases hx
    obtain ⟨pre, rfl, hlen, hpre⟩ := ih hb
    refine ⟨'\\' :: c :: pre, rfl, by simp [hlen], fun w => ?_⟩
    rw [List.cons_append, List.cons_append, List.cons_append, List.cons_append, scanShort, hpre w]
    rfl
  | case4 cs h₁ h₂ =>
    rw [scanShort_cons (ne_backslash h₁ h₂), if_pos rfl] at h
    cases h
    refine ⟨[], rfl, rfl, fun w => ?_⟩
    rw [List.nil_append, List.singleton_append, scanShort_cons (ne_backslash h₁ h₂), if_pos rfl]
  | case5 cs h₁ h₂ hq =>
    rw [scanShort_cons (ne_backslash h₁ h₂), if_neg hq, if_pos rfl] at h
    cases h
  | case6 c cs h₁ h₂ hq hn ih =>
    rw [scanShort_cons (ne_backslash h₁ h₂), if_neg hq, if_neg hn] at h
    obtain ⟨⟨b, r⟩, hb, hx⟩ := Option.map_eq_some_iff.1 h
    cases hx
    obtain ⟨pre, rfl, hlen, hpre⟩ := ih hb
    refine ⟨c :: pre, rfl, by simp [hlen], fun w => ?_⟩
    rw [List.cons_append, List.cons_append, scanShort_cons (ne_backslash h₁ h₂), if_neg hq, if_neg hn, hpre w]
    rfl

theorem scanLong_cut (q : Char) {cs body rest : List Char} (h : scanLong q cs = some (body, rest)) :
    ∃ pre, cs = pre ++ [q] ++ rest ∧ pre.length = body.length + 2 ∧ ∀ w, scanLong q (pre ++ [q] ++ w) = some (body, w) := by
  induction cs using scanLong.induct q generalizing body rest with
  | case1 | case2 => cases h
  | case3 c cs ih =>
    obtain ⟨⟨b, r⟩, hb, hx⟩ := Option.map_eq_some_iff.1 h
    cases hx
    obtain ⟨pre, rfl, hlen, hpre⟩ := ih hb
    refine ⟨'\\' :: c :: pre, rfl, by simp [hlen], fun w => ?_⟩
    rw [List.cons_append, List.cons_append, List.cons_append, List.cons_append, scanLong, hpre w]
    rfl
  | case4 c cs h₁ h₂ hend =>
    have hc := ne_backslash h₁ h₂
    rw [scanLong_cons hc, if_pos hend] at h
    cases h
    obtain ⟨rfl, h₃, h₄⟩ := hend
    match cs, h₃, h₄ with
    | [d], _, h₄ => cases h₄
    | d :: e :: r, h₃, h₄ =>
      cases h₃
      cases h₄
      refine ⟨[c, c], rfl, rfl, fun w => ?_⟩
      rw [List.cons_append, List.cons_append, scanLong_cons hc]
      exact if_pos ⟨rfl, rfl, rfl⟩
  | case5 c cs h₁ h₂ hend ih =>
    rw [scanLong_cons (ne_backslash h₁ h₂), if_neg hend] at h
    obtain ⟨⟨b, r⟩, hb, hx⟩ := Option.map_eq_some_iff.1 h
    cases hx
    obtain ⟨pre, rfl, hlen, hpre⟩ := ih hb
    refine ⟨c :: pre, rfl, by simp [hlen], fun w => ?_⟩
    -- the three quotes that end the body stand in `pre`, so the next two characters are the same
    match pre, hlen with
    | d :: e :: pre, _ =>
      have hend' : ¬ (c = q ∧ (d :: e :: pre ++ [q] ++ w).head? = some q ∧ (d :: e :: pre ++ [q] ++ w).tail.head? = some q) :=
        hend
      rw [List.cons_append, List.cons_append, scanLong_cons (ne_backslash h₁ h₂), if_neg hend', hpre w]
      rfl

theorem scanQuoted_short {q : Char} {cs : List Char} (h : ∀ r, cs ≠ q :: q :: r) : scanQuoted q cs = scanShort q cs := by
  unfold scanQuoted
  split
  · next a b r => exact if_neg fun ⟨ha, hb⟩ => h r (by rw [ha, hb])
  · rfl

theorem scanQuoted_cut {q : Char} (hq : q ≠ '\n') {cs body rest : List Char} (h : scanQuoted q cs = some (body, rest)) :
    ∃ pre, cs = pre ++ [q] ++ rest ∧ body.length ≤ pre.length ∧
      ∀ w, SameLine rest w → scanQuoted q (pre ++ [q] ++ w) = some (body, w) := by
  by_cases hlong : ∃ r, cs = q :: q :: r
  · obtain ⟨r, rfl⟩ := hlong
    rw [scanQuoted, if_pos ⟨rfl, rfl⟩] at h
    obtain ⟨pre, rfl, hlen, hpre⟩ := scanLong_cut q h
    refine ⟨q :: q :: pre, rfl, by rw [List.length_cons, List.length_cons]; omega, fun w _ => ?_⟩
    rw [List.cons_append, List.cons_append, List.cons_append, List.cons_append, scanQuoted, if_pos ⟨rfl, rfl⟩, hpre w]
  · rw [scanQuoted_short fun r hr => hlong ⟨r, hr⟩] at h
    obtain ⟨pre, rfl, hlen, hpre⟩ := scanShort_cut q h
    refine ⟨pre, rfl, by omega, fun w hw => ?_⟩
    rw [scanQuoted_short fun r hr => hlong (SameLine.two hq (hr ▸ hw.append (pre ++ [q]))), hpre w]

theorem isQuote_cases {q : Char} (h : isQuote q = true) : q.isAlpha = false ∧ q ≠ '\n' := by
  unfold isQuote at h
  rcases Bool.or_eq_true_iff.1 h with h | h
  · rw [of_decide_eq_true h]; decide
  · rw [of_decide_eq_true h]; decide

theorem literalStart?_eq_some {cs r : List Char} {k : Quote} {q : Char} (h : literalStart? cs = some (k, q, r)) :
    ∃ marks, cs = marks ++ q :: r ∧ (∀ c ∈ marks, c.isAlpha = true) ∧ isQuote q = true ∧ quoteMarks? marks = some k := by
  unfold literalStart? at h
  dsimp only at h
  split at h
  · next q' rest hdrop =>
    split at h
    · next hq =>
      obtain ⟨k', hk, hx⟩ := Option.map_eq_some_iff.1 h
      cases hx
      refine ⟨cs.takeWhile Char.isAlpha, ?_, List.all_eq_true.1 List.all_takeWhile, hq, hk⟩
      rw [← hdrop]
      exact (List.prefix_iff_eq_append.1 (List.takeWhile_prefix Char.isAlpha)).symm
    · cases h
  · cases h

theorem literalStart?_append {marks r : List Char} {k : Quote} {q : Char} (hm : ∀ c ∈ marks, c.isAlpha = true)
    (hq : isQuote q = true) (hk : quoteMarks? marks = some k) : literalStart? (marks ++ q :: r) = some (k, q, r) := by
  have htake : (marks ++ q :: r).takeWhile Char.isAlpha = marks := by
    rw [List.takeWhile_append_of_pos hm, List.takeWhile_cons_of_neg (by simp [(isQuote_cases hq).1]), List.append_nil]
  unfold literalStart?
  dsimp only
  rw [htake, List.drop_left]
  dsimp only
  rw [if_pos hq, hk]
  rfl

theorem literalStart?_none {v w : List Char} (h : SameLine v w) (hv : literalStart? v = none) : literalStart? w = none := by
  obtain ⟨hmarks, hrest⟩ := h.takeWhile_eq (p := Char.isAlpha) (by decide)
  unfold literalStart? at hv ⊢
  dsimp only at hv ⊢
  rw [hmarks] at hv hrest
  generalize List.drop (w.takeWhile Char.isAlpha).length v = v' at hv hrest
  generalize List.drop (w.takeWhile Char.isAlpha).length w = w' at hrest ⊢
  cases hrest with
  | ended => rfl
  | cons c _ =>
    dsimp only at hv ⊢
    split at hv
    · next hc => rw [if_pos hc, Option.map_eq_none_iff.1 hv]; rfl
    · next hc => rw [if_neg hc]

/-! ## Operators -/

set_option linter.auxLemma false in
theorem Punct.scan_eq {v w : List Char} (h : SameLine v w) : Punct.scan v = Punct.scan w := by
  delta Punct.scan Punct.scan.match_1
  cases h with
  | ended => exact rfl
  | cons c h =>
    cases h with
    | ended => exact rfl
    | cons d h =>
      obtain ⟨e, v', rfl⟩ := h.exists_cons
      obtain ⟨w', rfl⟩ := h.cons_inv
      exact rfl

/-- A sign takes at least one character, and a line feed only as the first. -/
theorem Punct.scan_takes (cs : List Char) :
    1 ≤ (Punct.scan cs).2 ∧ ('\n' ∉ cs.take 1 → '\n' ∉ cs.take (Punct.scan cs).2) := by
  unfold Punct.scan
  split
  case h_49 => exact ⟨Nat.le_refl 1, id⟩
  all_goals exact ⟨by decide, fun _ => of_decide_eq_true rfl⟩

/-! ## Words -/

/-- The next word of a text and what follows it, or nothing where a line goes on; or why it cannot be read. -/
def lexeme : List Char → Except LexFault (Option Tok × List Char)
  | [] => .error .unfinished
  | c :: cs =>
    match literalStart? (c :: cs) with
    | some (marks, q, r) =>
      match scanQuoted q r with
      | some (body, rest) => .ok (some (.string { marks with body }), rest)
      | none => .error .malformed
    | none =>
      if Text.isAsciiNameStart c || 128 ≤ c.toNat then
        let w := (c :: cs).takeWhile mayContinueName
        if Text.isName w then .ok (some (wordTok w), (c :: cs).drop w.length) else .error .malformed
      else if isDigit c || (c = '.' && cs.head?.any isDigit) then
        match scanNumber (c :: cs) with
        | some (n, rest) => .ok (some (.number n), rest)
        | none => .error .malformed
      else if c = '\\' then
        if cs.head? = some '\n' ∧ cs.tail ≠ [] then .ok (none, cs.tail) else .error .unfinished
      else if !Text.isPrintable c.toNat then .error .malformed
      else
        let (p, n) := Punct.scan (c :: cs)
        .ok (some (.punct p), (c :: cs).drop n)

theorem lexeme_string {cs r body rest : List Char} {k : Quote} {q : Char} (h : literalStart? cs = some (k, q, r))
    (hr : scanQuoted q r = some (body, rest)) : lexeme cs = .ok (some (.string { k with body }), rest) := by
  cases cs with
  | nil => cases h
  | cons c cs => rw [lexeme, h]; dsimp only; rw [hr]

theorem weight_string_le {marks : List Char} {k : Quote} (hk : quoteMarks? marks = some k) (body : List Char) :
    (Tok.string { k with body }).weight ≤ marks.length + body.length + 2 := by
  cases marks with
  | nil => cases hk; exact Nat.succ_le_succ (Nat.zero_le _)
  | cons c marks =>
    unfold Tok.weight
    dsimp only
    rw [List.length_cons]
    split <;> omega

theorem isInner_wordTok (w : List Char) : (wordTok w).isInner = true := by
  unfold wordTok
  split <;> rfl

theorem weight_wordTok (w : List Char) : (wordTok w).weight = 1 := by
  unfold wordTok
  split <;> rfl

/-- Characters that go up to the end of a line only if a backslash stands there. -/
def StaysInLine (pre : List Char) : Prop := pre.getLast? = some '\n' → ['\\', '\n'] <:+ pre

namespace StaysInLine

variable {pre : List Char}

theorem of_not_mem (h : '\n' ∉ pre) : StaysInLine pre := fun hlast => absurd (List.mem_of_getLast? hlast) h

theorem cons (h : StaysInLine pre) {c : Char} (hc : c ≠ '\n') : StaysInLine (c :: pre) := by
  intro hlast
  cases pre with
  | nil => exact absurd (Option.some.inj hlast) hc
  | cons d pre =>
    rw [List.getLast?_cons_cons] at hlast
    exact (h hlast).trans (List.suffix_cons _ _)

theorem continued (h : StaysInLine pre) : StaysInLine ('\\' :: '\n' :: pre) := by
  intro hlast
  cases pre with
  | nil => exact List.suffix_refl _
  | cons d pre =>
    rw [List.getLast?_cons_cons, List.getLast?_cons_cons] at hlast
    exact (h hlast).trans (List.suffix_append ['\\', '\n'] _)

end StaysInLine

/-- What a word takes of a text is not nothing, and decided by the rest of the line. -/
structure Cuts (cs : List Char) (o : Option Tok) (rest pre : List Char) : Prop where
  eq : cs = pre ++ rest
  ne_nil : pre ≠ []
  staysInLine : StaysInLine pre
  inner : ∀ t ∈ o, t.isInner = true
  weight_le : o.elim 0 Tok.weight ≤ pre.length
  same : ∀ w, SameLine rest w → lexeme (pre ++ w) = .ok (o, w)

theorem cuts_string {cs r body rest : List Char} {k : Quote} {q : Char} (h : literalStart? cs = some (k, q, r))
    (hr : scanQuoted q r = some (body, rest)) : ∃ pre, Cuts cs (some (.string { k with body })) rest pre := by
  obtain ⟨marks, rfl, hm, hq, hk⟩ := literalStart?_eq_some h
  obtain ⟨pre, rfl, hlen, hpre⟩ := scanQuoted_cut (isQuote_cases hq).2 hr
  refine ⟨marks ++ q :: (pre ++ [q]), by simp, by simp, fun h => ?_, fun t ht => ?_, ?_,
    fun w hw => ?_⟩
  · rw [← List.cons_append, ← List.append_assoc, List.getLast?_concat] at h
    exact absurd (Option.some.inj h) (isQuote_cases hq).2
  · cases ht; rfl
  · have hw := weight_string_le hk body
    rw [List.length_append, List.length_cons, List.length_append, List.length_singleton]
    exact Nat.le_trans hw (by omega)
  · rw [List.append_assoc, List.cons_append]
    exact lexeme_string (literalStart?_append hm hq hk) (hpre w hw)

theorem cuts_name {c : Char} {cs : List Char} (hlit : literalStart? (c :: cs) = none)
    (hname : (Text.isAsciiNameStart c || 128 ≤ c.toNat) = true)
    (hw : Text.isName ((c :: cs).takeWhile mayContinueName) = true) :
    ∃ pre, Cuts (c :: cs) (some (wordTok ((c :: cs).takeWhile mayContinueName)))
      ((c :: cs).drop ((c :: cs).takeWhile mayContinueName).length) pre := by
  obtain ⟨rest, hrest⟩ := List.takeWhile_prefix mayContinueName (l := c :: cs)
  generalize hpre : (c :: cs).takeWhile mayContinueName = pre at hw hrest ⊢
  cases pre with
  | nil => cases hw
  | cons e pre =>
    obtain ⟨rfl, rfl⟩ := List.cons.inj hrest
    have hline : '\n' ∉ e :: pre := fun h => by
      have := List.all_eq_true.1 (List.all_takeWhile (p := mayContinueName)) '\n' (hpre ▸ h)
      exact absurd this (by decide)
    refine ⟨e :: pre, by rw [← hrest, List.drop_left], List.cons_ne_nil _ _, .of_not_mem hline, fun t ht => ?_, ?_,
      fun w hw' => ?_⟩
    · cases ht; exact isInner_wordTok _
    · rw [Option.elim_some, weight_wordTok]
      exact Nat.succ_pos _
    · rw [← hrest, List.drop_left] at hw'
      have hline : SameLine (e :: (pre ++ rest)) (e :: (pre ++ w)) := .cons e (hw'.append pre)
      have htake : (e :: (pre ++ w)).takeWhile mayContinueName = e :: pre :=
        (hline.takeWhile_eq (by decide)).1.symm.trans hpre
      rw [List.cons_append, lexeme, literalStart?_none hline hlit]
      dsimp only
      rw [if_pos hname, htake, if_pos hw, ← List.cons_append, List.drop_left]

theorem cuts_number {c : Char} {cs rest : List Char} {n : Number} (hlit : literalStart? (c :: cs) = none)
    (hname : ¬ (Text.isAsciiNameStart c || 128 ≤ c.toNat) = true)
    (hnum : (isDigit c || (c = '.' && cs.head?.any isDigit)) = true) (hscan : scanNumber (c :: cs) = some (n, rest)) :
    ∃ pre, Cuts (c :: cs) (some (.number n)) rest pre := by
  obtain ⟨pre, hcs, hn, hpre⟩ := decides_scanNumber.cut hscan
  have hshort := scanNumber_shorter hnum hscan
  cases pre with
  | nil => rw [← List.nil_append rest, ← hcs, List.length_cons] at hshort; omega
  | cons e pre =>
    rw [List.cons_append] at hcs
    cases hcs
    refine ⟨c :: pre, rfl, List.cons_ne_nil _ _, .of_not_mem hn, fun t ht => by cases ht; rfl, Nat.succ_pos _,
      fun w hw => ?_⟩
    rw [List.cons_append, lexeme, literalStart?_none (.cons c (hw.append pre)) hlit]
    dsimp only
    rw [if_neg hname, ← (hw.append pre).head?_eq, if_pos hnum, ← List.cons_append, hpre w hw]

theorem cuts_continuation {cs : List Char} (hcs : cs.head? = some '\n' ∧ cs.tail ≠ []) :
    ∃ pre, Cuts ('\\' :: cs) none cs.tail pre := by
  obtain ⟨c, cs, rfl⟩ := List.exists_cons_of_ne_nil (fun h : cs = [] => hcs.2 (by rw [h]; rfl))
  cases hcs.1
  refine ⟨['\\', '\n'], rfl, List.cons_ne_nil _ _, fun _ => List.suffix_refl _, nofun,
    Nat.zero_le _, fun w hw => ?_⟩
  have hlit : literalStart? ('\\' :: '\n' :: w) = none := rfl
  rw [List.cons_append, List.cons_append, List.nil_append, lexeme, hlit]
  dsimp only
  rw [if_neg (by decide), List.head?_cons, if_neg (by decide), if_pos rfl, if_pos ⟨rfl, hw.ne_nil⟩, List.tail_cons]

theorem cuts_operator {c : Char} {cs : List Char} (hlit : literalStart? (c :: cs) = none)
    (hname : ¬ (Text.isAsciiNameStart c || 128 ≤ c.toNat) = true)
    (hnum : ¬ (isDigit c || (c = '.' && cs.head?.any isDigit)) = true) (hback : c ≠ '\\')
    (hprint : ¬ (!Text.isPrintable c.toNat) = true) :
    ∃ pre, Cuts (c :: cs) (some (.punct (Punct.scan (c :: cs)).1)) ((c :: cs).drop (Punct.scan (c :: cs)).2) pre := by
  obtain ⟨hpos, hfeed⟩ := Punct.scan_takes (c :: cs)
  obtain ⟨n, hn⟩ := Nat.exists_eq_succ_of_ne_zero (Nat.ne_of_gt hpos)
  refine ⟨c :: cs.take n, ?_, List.cons_ne_nil _ _, .of_not_mem ?_, fun t ht => by cases ht; rfl, Nat.succ_pos _,
    fun w hw => ?_⟩
  · rw [hn, List.drop_succ_cons, List.cons_append, List.take_append_drop]
  · have hc : '\n' ≠ c := fun h => hprint (by rw [← h]; decide +kernel)
    have hscan := hfeed (mt List.mem_singleton.1 hc)
    rwa [hn] at hscan
  · rw [hn, List.drop_succ_cons] at hw
    have hlen : (cs.take n).length = n := by
      obtain ⟨d, u, hu⟩ := hw.exists_cons
      have hlt : (cs.drop n).length ≠ 0 := by rw [hu]; exact Nat.succ_ne_zero _
      rw [List.length_drop] at hlt
      rw [List.length_take]
      omega
    have hline : SameLine (c :: cs) (c :: (cs.take n ++ w)) := by
      have := hw.append (cs.take n)
      rw [List.take_append_drop] at this
      exact .cons c this
    rw [List.cons_append, lexeme, literalStart?_none hline hlit]
    dsimp only
    have hhead : (cs.take n ++ w).head? = cs.head? := by
      rw [← (hw.append (cs.take n)).head?_eq, List.take_append_drop]
    rw [if_neg hname, hhead, if_neg hnum, if_neg hback, if_neg hprint, ← Punct.scan_eq hline, hn,
      List.drop_succ_cons, List.drop_left' hlen]

/-- **A word is decided by its characters and the rest of its line.** -/
theorem lexeme_cut {cs rest : List Char} {o : Option Tok} (h : lexeme cs = .ok (o, rest)) : ∃ pre, Cuts cs o rest pre := by
  match cs, h with
  | c :: cs, h =>
    unfold lexeme at h
    dsimp only at h
    split at h
    · next k q r hlit =>
      split at h
      · next hscan => cases h; exact cuts_string hlit hscan
      · cases h
    · next hlit =>
      split at h
      · next hname =>
        split at h
        · next hw => cases h; exact cuts_name hlit hname hw
        · cases h
      · next hname =>
        split at h
        · next hnum =>
          split at h
          · next hscan => cases h; exact cuts_number hlit hname hnum hscan
          · cases h
        · next hnum =>
          split at h
          · next hback =>
            subst hback
            split at h
            · next hcs => cases h; exact cuts_continuation hcs
            · cases h
          · next hback =>
            split at h
            · cases h
            · next hprint => cases h; exact cuts_operator hlit hname hnum hback hprint

end DocReview.Source
