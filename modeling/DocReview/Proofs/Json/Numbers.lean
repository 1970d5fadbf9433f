import Mathlib.Data.List.Basic
import DocReview.Json.Reader
import DocReview.Number.Shortest
/-!
# Numbers — decimal digits are read back

A number is read to the end of its digits; what follows has to end it (`Ends`).  The first digit of a number is no zero
unless it stands alone, so the reader takes all of them (`whole_digits`).  No word starts as a number does
(`word?_decimalText`); the text of a whole number is therefore read as the number (`value_decimalText`).
-/
namespace DocReview
namespace Json

/-- What may follow a number without carrying it on. -/
def Ends (rest : List Char) : Prop := ∀ c ∈ rest.head?, isDigit c = false ∧ c ≠ '.' ∧ c ≠ 'e' ∧ c ≠ 'E'

theorem ends_nil : Ends [] := fun _ h => by cases h

theorem isDigit_of_mem {n : Nat} {c : Char} (h : c ∈ decimalDigits n) : isDigit c = true :=
  Nat.isDigit_of_mem_toDigits (by decide) (by decide) h

theorem natOf_decimalDigits (n : Nat) : natOf (decimalDigits n) = n := Nat.ofDigitChars_ten_toDigits

theorem takeWhile_digits (n : Nat) {rest : List Char} (h : Ends rest) :
    (decimalDigits n ++ rest).takeWhile isDigit = decimalDigits n := by
  have hrest : rest.takeWhile isDigit = [] := by
    cases rest with
    | nil => rfl
    | cons c rest => exact List.takeWhile_cons_of_neg (by simp [(h c rfl).1])
  rw [List.takeWhile_append_of_pos fun c hc => isDigit_of_mem hc, hrest, List.append_nil]

theorem head?_decimalDigits {n : Nat} (h : n ≠ 0) : (decimalDigits n).head? ≠ some '0' := by
  induction n using Nat.strongRecOn with
  | ind n ih =>
    unfold decimalDigits at ih ⊢
    by_cases hlt : n < 10
    · rw [Nat.toDigits_of_lt_base hlt]
      have hdigit : ∀ d < 10, d ≠ 0 → [d.digitChar].head? ≠ some '0' := by decide
      exact hdigit n hlt h
    · rw [Nat.toDigits_of_base_le (by decide) (Nat.le_of_not_lt hlt),
        List.head?_append_of_ne_nil _ Nat.toDigits_ne_nil]
      exact ih (n / 10) (by omega) (by omega)

theorem fraction_ends {rest : List Char} (h : Ends rest) : fraction rest = ([], rest) := by
  unfold fraction
  split
  · exact absurd rfl (h '.' rfl).2.1
  · rfl

theorem exponent?_ends {rest : List Char} (h : Ends rest) : exponent? rest = (none, rest) := by
  cases rest with
  | nil => rfl
  | cons c rest =>
    obtain ⟨-, -, he, hE⟩ := h c rfl
    simp [exponent?, he, hE]

theorem number?_eq_int {cs r rest : List Char} {neg : Bool} (hsign : signed cs = (neg, r)) (hne : whole r ≠ [])
    (hlen : (whole r).length ≤ maxDigits) (hdrop : r.drop (whole r).length = rest) (hrest : Ends rest) :
    number? cs = some (.ok (.int (if neg then -(natOf (whole r) : Int) else natOf (whole r)), rest)) := by
  have hwhole : (whole r).isEmpty = false := by simpa using hne
  have hfraction : fraction (r.drop (whole r).length) = ([], rest) := by rw [hdrop, fraction_ends hrest]
  simp only [number?, hsign, hwhole, hfraction, exponent?_ends hrest, Bool.false_eq_true, if_false, List.isEmpty_nil,
    Option.isNone_none, Bool.and_self, if_true, if_neg (Nat.not_lt.2 hlen)]

theorem whole_digits (n : Nat) {rest : List Char} (h : Ends rest) : whole (decimalDigits n ++ rest) = decimalDigits n := by
  by_cases hn : n = 0
  · subst hn
    rfl
  · unfold whole
    split
    · rename_i tail hzero
      have hhead : (decimalDigits n).head? = some '0' := by
        rw [← List.head?_append_of_ne_nil (decimalDigits n) Nat.toDigits_ne_nil, hzero]
        rfl
      exact absurd hhead (head?_decimalDigits hn)
    · exact takeWhile_digits n h

theorem signed_decimalText (i : Int) (rest : List Char) :
    signed (decimalText i ++ rest) = (decide (i < 0), decimalDigits i.natAbs ++ rest) := by
  unfold decimalText
  by_cases hneg : i < 0
  · rw [if_pos hneg, decide_eq_true hneg]
    rfl
  · rw [if_neg hneg, decide_eq_false hneg]
    unfold signed
    split
    · rename_i r hminus
      have hmem : '-' ∈ (decimalDigits i.natAbs ++ rest).head? := by
        rw [hminus]
        rfl
      rw [List.head?_append_of_ne_nil (decimalDigits i.natAbs) Nat.toDigits_ne_nil] at hmem
      exact absurd (isDigit_of_mem (List.mem_of_mem_head? hmem)) (by decide)
    · rfl

/-- **A whole number is read from its digits.** -/
theorem number?_decimalText {i : Int} {rest : List Char} (hlen : (decimalDigits i.natAbs).length ≤ maxDigits)
    (hrest : Ends rest) : number? (decimalText i ++ rest) = some (.ok (.int i, rest)) := by
  have hwhole := whole_digits i.natAbs hrest
  rw [number?_eq_int (signed_decimalText i rest) (by rw [hwhole]; exact Nat.toDigits_ne_nil) (by rwa [hwhole])
    (by rw [hwhole, List.drop_left]) hrest, hwhole, natOf_decimalDigits]
  have hvalue : (if decide (i < 0) = true then -(i.natAbs : Int) else i.natAbs) = i := by
    by_cases hneg : i < 0
    · rw [if_pos (decide_eq_true hneg)]
      omega
    · rw [if_neg (by simpa using hneg)]
      omega
  rw [hvalue]

/-- A text that starts as no string, object or list is a word or a number. -/
theorem value_eq {bound : Nat} {c : Char} {cs : List Char} (hquote : c ≠ '"') (hbrace : c ≠ '{') (hbracket : c ≠ '[') :
    value (bound + 1) (c :: cs) = match word? (c :: cs) with
      | some r => .ok r
      | none => (number? (c :: cs)).getD (.error ⟨.expectingValue, (c :: cs).length⟩) := by
  unfold value
  split
  · rename_i h
    cases h
    exact absurd rfl hquote
  · rename_i h
    cases h
    exact absurd rfl hbrace
  · rename_i h
    cases h
    exact absurd rfl hbracket
  · rfl

theorem ne_of_isDigit {c x : Char} (hc : isDigit c = true) (hx : isDigit x = false) : c ≠ x := by
  rintro rfl
  rw [hc] at hx
  cases hx

theorem exists_decimalDigits (n : Nat) : ∃ d ds, decimalDigits n = d :: ds ∧ isDigit d = true := by
  have hne : decimalDigits n ≠ [] := Nat.toDigits_ne_nil
  obtain ⟨d, ds, h⟩ := List.exists_cons_of_ne_nil hne
  have hd : d ∈ decimalDigits n := by simp [h]
  exact ⟨d, ds, h, isDigit_of_mem hd⟩

theorem exists_decimalText (i : Int) : ∃ c cs, decimalText i = c :: cs ∧ (isDigit c = true ∨ c = '-') := by
  obtain ⟨d, ds, hds, hd⟩ := exists_decimalDigits i.natAbs
  unfold decimalText
  by_cases hneg : i < 0
  · exact ⟨'-', _, if_pos hneg, .inr rfl⟩
  · exact ⟨d, ds, by rw [if_neg hneg, hds], .inl hd⟩

theorem word?_decimalText (i : Int) (rest : List Char) : word? (decimalText i ++ rest) = none := by
  obtain ⟨d, ds, hds, hd⟩ := exists_decimalDigits i.natAbs
  have hn := ne_of_isDigit hd (x := 'n') rfl
  have ht := ne_of_isDigit hd (x := 't') rfl
  have hf := ne_of_isDigit hd (x := 'f') rfl
  have hN := ne_of_isDigit hd (x := 'N') rfl
  have hI := ne_of_isDigit hd (x := 'I') rfl
  have hminus := ne_of_isDigit hd (x := '-') rfl
  unfold decimalText
  rw [hds]
  by_cases hneg : i < 0
  · rw [if_pos hneg]
    simp [word?, words, hI.symm]
  · rw [if_neg hneg]
    simp [word?, words, hn.symm, ht.symm, hf.symm, hN.symm, hI.symm, hminus.symm]

/-- **The text of a number is read as the number**, before anything that ends it. -/
theorem value_decimalText {i : Int} (hlen : (decimalDigits i.natAbs).length ≤ maxDigits) (bound : Nat) {rest : List Char}
    (hrest : Ends rest) : value (bound + 1) (decimalText i ++ rest) = .ok (.int i, rest) := by
  obtain ⟨c, cs, hc, hstart⟩ := exists_decimalText i
  have hne : ∀ {x}, isDigit x = false → x ≠ '-' → c ≠ x := by
    intro x hx hminus
    rcases hstart with hc | rfl
    · exact ne_of_isDigit hc hx
    · exact hminus.symm
  rw [hc, List.cons_append, value_eq (hne rfl (by decide)) (hne rfl (by decide)) (hne rfl (by decide)), ← List.cons_append,
    ← hc, word?_decimalText, number?_decimalText hlen hrest]
  rfl

end Json
end DocReview
