import Mathlib.Data.List.Forall2
import Mathlib.Data.List.Infix
import Mathlib.Data.List.TakeWhile
import DocReview.Text.LetterCase
/-!
# Lowering — lower case of a part of a text

A character has its lower-case form whatever stands beside it, but for a capital sigma, which is final or not by what stands
before and behind it.  So lower case of a text is made of lower case of its parts, each between its neighbours
(`lowerAfter_append`).  A part keeps its lower case wherever it stands exactly if it has no capital sigma that is loose: one
whose neighbours in the part do not decide whether it is final (`lower_infix_iff`).
-/
namespace DocReview
namespace Text

/-! ## Between neighbours -/

/-- Whether a capital sigma is final between what stands before it, backwards, and what stands behind it. -/
def isFinal (before after : List Char) : Bool := meetsCased before && !meetsCased after

def formBetween (before : List Char) (c : Char) (after : List Char) : List Char :=
  if c = 'Σ' then [if isFinal before after then 'ς' else 'σ']
  else if c = 'İ' then ['i', '\u0307']
  else [lowerChar c]

/-- Lower case of a part of a text, between what stands before it, backwards, and what stands behind it. -/
def lowerBetween : List Char → List Char → List Char → List Char
  | _, [], _ => []
  | before, c :: cs, after => formBetween before c (cs ++ after) ++ lowerBetween (c :: before) cs after

theorem lowerAfter_cons (before : List Char) (c : Char) (cs : List Char) :
    lowerAfter before (c :: cs) = formBetween before c cs ++ lowerAfter (c :: before) cs := rfl

theorem lowerAfter_append (after : List Char) : ∀ before cs : List Char,
    lowerAfter before (cs ++ after) = lowerBetween before cs after ++ lowerAfter (cs.reverse ++ before) after
  | _, [] => rfl
  | before, c :: cs => by
    rw [List.cons_append, lowerAfter_cons, lowerAfter_append after (c :: before) cs, lowerBetween, List.append_assoc,
      List.reverse_cons, List.append_assoc, List.singleton_append]

theorem lower_eq_lowerBetween (cs : List Char) : lower cs = lowerBetween [] cs [] := by
  have h := lowerAfter_append [] [] cs
  rwa [List.append_nil, lowerAfter, List.append_nil] at h

theorem lower_append (cs after : List Char) :
    lower (cs ++ after) = lowerBetween [] cs after ++ lowerAfter cs.reverse after := by
  rw [lower, lowerAfter_append, List.append_nil]

theorem lowerBetween_infix_lower (front part back : List Char) :
    lowerBetween front.reverse part back <:+: lower (front ++ part ++ back) := by
  rw [List.append_assoc, lower_append, lowerAfter_append, ← List.append_assoc]
  exact List.infix_append _ _ _

/-! ## Neighbours that decide -/

theorem meetsCased_append (cs ds : List Char) :
    meetsCased (cs ++ ds) = if cs.all isCaseIgnorable then meetsCased ds else meetsCased cs := by
  unfold meetsCased
  rw [List.dropWhile_append]
  cases hcs : cs.dropWhile isCaseIgnorable with
  | nil =>
    have hall : cs.all isCaseIgnorable = true := List.all_eq_true.2 (List.dropWhile_eq_nil_iff.1 hcs)
    rw [hall, if_pos List.isEmpty_nil, if_pos rfl]
  | cons c rest =>
    have hall : ¬ cs.all isCaseIgnorable = true := fun h => by
      rw [List.dropWhile_eq_nil_iff.2 (List.all_eq_true.1 h)] at hcs
      cases hcs
    rw [if_neg hall, if_neg (by simp)]
    rfl

theorem meetsCased_of_all {cs : List Char} (h : cs.all isCaseIgnorable = true) : meetsCased cs = false := by
  unfold meetsCased
  rw [List.dropWhile_eq_nil_iff.2 (List.all_eq_true.1 h)]

/-- Whether what stands before a capital sigma, backwards, and behind it in a part of a text leaves open if it is final: there
is nothing before it that counts and no cased letter behind it, or a cased letter before it and nothing behind it that counts. -/
def isLoose (before after : List Char) : Bool :=
  before.all isCaseIgnorable && !meetsCased after || meetsCased before && after.all isCaseIgnorable

/-- What is further away does not decide, unless a capital sigma is loose. -/
theorem isFinal_append {before after : List Char} (h : isLoose before after = false) (front back : List Char) :
    isFinal (before ++ front) (after ++ back) = isFinal before after := by
  unfold isLoose at h
  unfold isFinal
  rw [meetsCased_append, meetsCased_append]
  cases hbefore : before.all isCaseIgnorable with
  | true =>
    -- there is a cased letter behind it, so that it is final in neither
    have hcased : meetsCased after = true := by simpa [hbefore] using (Bool.or_eq_false_iff.1 h).1
    have hafter : after.all isCaseIgnorable = false := by
      rw [Bool.eq_false_iff]
      intro hall
      rw [meetsCased_of_all hall] at hcased
      cases hcased
    simp [hafter, hcased]
  | false =>
    cases hcased : meetsCased before with
    | false => simp
    | true =>
      have hafter : after.all isCaseIgnorable = false := by simpa [hcased] using (Bool.or_eq_false_iff.1 h).2
      simp [hafter]

theorem meetsCased_letter : meetsCased ['a'] = true := by decide

theorem isFinal_of_letter_behind {before after : List Char} (h : isFinal before (after ++ ['a']) = true) :
    isFinal before after = true := by
  unfold isFinal at h ⊢
  rw [meetsCased_append, meetsCased_letter] at h
  cases hall : after.all isCaseIgnorable with
  | true => simp [hall] at h
  | false => simpa [hall] using h

theorem isFinal_letter_before {before after : List Char} (h : isFinal before after = true) :
    isFinal (before ++ ['a']) after = true := by
  unfold isFinal at h ⊢
  rw [meetsCased_append, meetsCased_letter]
  cases hall : before.all isCaseIgnorable with
  | true => simpa using (Bool.and_eq_true_iff.1 h).2
  | false => exact h

/-- A letter on one side decides otherwise, if a capital sigma is loose. -/
theorem isLoose_eq_false {before after : List Char} (hback : isFinal before (after ++ ['a']) = isFinal before after)
    (hfront : isFinal (before ++ ['a']) after = isFinal before after) : isLoose before after = false := by
  unfold isFinal at hback hfront
  rw [meetsCased_append, meetsCased_letter] at hback hfront
  rw [isLoose, Bool.or_eq_false_iff]
  constructor
  · cases hall : before.all isCaseIgnorable with
    | false => rfl
    | true =>
      rw [hall, meetsCased_of_all hall] at hfront
      simpa using hfront
  · cases hall : after.all isCaseIgnorable with
    | false => exact Bool.and_false _
    | true =>
      rw [hall, meetsCased_of_all hall] at hback
      simpa using hback

def looseAfter : List Char → List Char → Bool
  | _, [] => false
  | before, c :: cs => (c = 'Σ' && isLoose before cs) || looseAfter (c :: before) cs

/-- Whether a capital sigma is loose in a text. -/
def hasLooseSigma (cs : List Char) : Bool := looseAfter [] cs

/-! ## Parts that keep their lower case -/

theorem formBetween_congr {c : Char} {before after before' after' : List Char}
    (h : c = 'Σ' → isFinal before after = isFinal before' after') :
    formBetween before c after = formBetween before' c after' := by
  unfold formBetween
  by_cases hc : c = 'Σ'
  · rw [if_pos hc, if_pos hc, h hc]
  · rw [if_neg hc, if_neg hc]

/-- **Without a loose sigma a part has the same lower case everywhere.** -/
theorem lowerBetween_eq_of_not_loose (front back : List Char) : ∀ {cs before : List Char}, looseAfter before cs = false →
    lowerBetween (before ++ front) cs back = lowerBetween before cs []
  | [], _, _ => rfl
  | c :: cs, before, h => by
    obtain ⟨hc, hcs⟩ := Bool.or_eq_false_iff.1 h
    have hform : formBetween (before ++ front) c (cs ++ back) = formBetween before c (cs ++ []) := by
      refine formBetween_congr fun hsigma => ?_
      rw [List.append_nil]
      exact isFinal_append (by simpa [hsigma] using hc) front back
    rw [lowerBetween, lowerBetween, hform, ← List.cons_append, lowerBetween_eq_of_not_loose front back hcs]

theorem length_formBetween (before after before' after' : List Char) (c : Char) :
    (formBetween before c after).length = (formBetween before' c after').length := by
  unfold formBetween
  by_cases hc : c = 'Σ'
  · rw [if_pos hc, if_pos hc]
    rfl
  · rw [if_neg hc, if_neg hc]

theorem isFinal_of_formBetween {before after before' after' : List Char}
    (h : formBetween before 'Σ' after = formBetween before' 'Σ' after') : isFinal before after = isFinal before' after' := by
  unfold formBetween at h
  rw [if_pos rfl, if_pos rfl] at h
  cases hfinal : isFinal before after <;> cases hfinal' : isFinal before' after' <;> simp [hfinal, hfinal'] at h ⊢

/-- **A part that keeps its lower case beside a letter has no loose sigma.** -/
theorem not_loose_of_lowerBetween_eq : ∀ {cs before : List Char},
    lowerBetween before cs ['a'] = lowerBetween before cs [] →
    lowerBetween (before ++ ['a']) cs [] = lowerBetween before cs [] → looseAfter before cs = false
  | [], _, _, _ => rfl
  | c :: cs, before, hback, hfront => by
    rw [lowerBetween, lowerBetween] at hback hfront
    obtain ⟨hback, hbacks⟩ := List.append_inj hback (length_formBetween _ _ _ _ c)
    obtain ⟨hfront, hfronts⟩ := List.append_inj hfront (length_formBetween _ _ _ _ c)
    rw [looseAfter, not_loose_of_lowerBetween_eq hbacks hfronts, Bool.or_false]
    by_cases hc : c = 'Σ'
    · subst hc
      rw [List.append_nil] at hback hfront
      rw [isLoose_eq_false (isFinal_of_formBetween hback) (isFinal_of_formBetween hfront), Bool.and_false]
    · rw [decide_eq_false hc, Bool.false_and]

/-! ## Sigmas that become final -/

def Finishes (c d : Char) : Prop := c = d ∨ c = 'σ' ∧ d = 'ς'

theorem finishes_formBetween {before after before' after' : List Char} (c : Char)
    (h : isFinal before after = true → isFinal before' after' = true) :
    List.Forall₂ Finishes (formBetween before c after) (formBetween before' c after') := by
  have hrefl : ∀ cs : List Char, List.Forall₂ Finishes cs cs := fun cs => List.forall₂_same.2 fun c _ => .inl rfl
  unfold formBetween
  by_cases hc : c = 'Σ'
  · rw [if_pos hc, if_pos hc]
    cases hfinal : isFinal before after with
    | true => rw [h hfinal]; exact hrefl _
    | false =>
      cases isFinal before' after' with
      | true => exact .cons (.inr ⟨rfl, rfl⟩) .nil
      | false => exact hrefl _
  · rw [if_neg hc, if_neg hc]
    exact hrefl _

theorem finishes_lowerBetween {front back front' back' : List Char}
    (h : ∀ before after, isFinal (before ++ front) (after ++ back) = true →
      isFinal (before ++ front') (after ++ back') = true) : ∀ cs before : List Char,
    List.Forall₂ Finishes (lowerBetween (before ++ front) cs back) (lowerBetween (before ++ front') cs back')
  | [], _ => .nil
  | c :: cs, before => List.rel_append (finishes_formBetween c (h before cs)) (finishes_lowerBetween h cs (c :: before))

theorem count_of_finishes {cs ds : List Char} (h : List.Forall₂ Finishes cs ds) :
    cs = ds ∨ cs.count 'ς' < ds.count 'ς' ∧ ds.count 'σ' < cs.count 'σ' := by
  induction h with
  | nil => exact .inl rfl
  | @cons c d cs ds hcd _ ih =>
    rcases hcd with rfl | ⟨rfl, rfl⟩
    · rcases ih with rfl | ⟨hfinal, hother⟩
      · exact .inl rfl
      · simp only [List.count_cons]
        exact .inr ⟨by omega, by omega⟩
    · have hfinal : ('σ' :: cs).count 'ς' = cs.count 'ς' := List.count_cons_of_ne (by decide)
      have hother : ('ς' :: ds).count 'σ' = ds.count 'σ' := List.count_cons_of_ne (by decide)
      rw [hfinal, hother, List.count_cons_self, List.count_cons_self]
      rcases ih with rfl | ⟨hless, hmore⟩
      · exact .inr ⟨by omega, by omega⟩
      · exact .inr ⟨by omega, by omega⟩

/-- A part that is found before a letter keeps its lower case there, since otherwise it would have lost a final sigma. -/
theorem lowerBetween_letter_behind {part : List Char} (h : lower part <:+: lower (part ++ ['a'])) :
    lowerBetween [] part ['a'] = lowerBetween [] part [] := by
  have hfinal : ∀ before after, isFinal (before ++ []) (after ++ ['a']) = true →
      isFinal (before ++ []) (after ++ []) = true := by
    intro before after
    simp only [List.append_nil]
    exact isFinal_of_letter_behind
  have hfinishes := finishes_lowerBetween hfinal part []
  rw [List.append_nil] at hfinishes
  have hlast : lowerAfter part.reverse ['a'] = ['a'] := rfl
  rw [lower_append, lower_eq_lowerBetween, hlast] at h
  have hcount := h.sublist.count_le 'ς'
  rw [List.count_append, List.count_singleton, if_neg (by decide)] at hcount
  rcases count_of_finishes hfinishes with heq | ⟨hmore, -⟩
  · exact heq
  · omega

/-- A part that is found behind a letter keeps its lower case there, since otherwise it would have got a final sigma. -/
theorem lowerBetween_letter_before {part : List Char} (h : lower part <:+: lower ('a' :: part)) :
    lowerBetween ['a'] part [] = lowerBetween [] part [] := by
  have hfinal : ∀ before after, isFinal (before ++ []) (after ++ []) = true →
      isFinal (before ++ ['a']) (after ++ []) = true := by
    intro before after
    simp only [List.append_nil]
    exact isFinal_letter_before
  have hfinishes := finishes_lowerBetween hfinal part []
  rw [List.append_nil, List.nil_append] at hfinishes
  have hfirst : lower ('a' :: part) = 'a' :: lowerBetween ['a'] part [] := by
    have hrest := lowerAfter_append [] ['a'] part
    rw [List.append_nil, lowerAfter, List.append_nil] at hrest
    rw [lower, lowerAfter_cons, hrest]
    rfl
  rw [hfirst, lower_eq_lowerBetween] at h
  have hcount := h.sublist.count_le 'σ'
  rw [List.count_cons_of_ne (by decide)] at hcount
  rcases count_of_finishes hfinishes with heq | ⟨-, hless⟩
  · exact heq.symm
  · omega

/-- **A part is found by its lower case in every text that contains it exactly if it has no loose sigma.** -/
theorem lower_infix_iff (part : List Char) :
    (∀ text, part <:+: text → lower part <:+: lower text) ↔ hasLooseSigma part = false := by
  constructor
  · intro hfound
    have hback := lowerBetween_letter_behind (hfound (part ++ ['a']) (List.prefix_append part _).isInfix)
    have hfront := lowerBetween_letter_before (hfound ('a' :: part) (List.suffix_cons 'a' part).isInfix)
    exact not_loose_of_lowerBetween_eq hback hfront
  · rintro hsteady text ⟨front, back, rfl⟩
    have hkeeps := lowerBetween_eq_of_not_loose front.reverse back hsteady
    rw [List.nil_append] at hkeeps
    rw [lower_eq_lowerBetween part, ← hkeeps]
    exact lowerBetween_infix_lower front part back

end Text
end DocReview
