import Mathlib.Data.List.Basic
import DocReview.Json.Reader
import DocReview.Json.Writer
import DocReview.Proofs.Result
/-!
# Escapes — a quoted text is read back

A character is written as itself, by a short escape, or by the numbers of its UTF-16 units.  Four hexadecimal digits give
back the unit (`fourHex?_hexPadded`), one unit or a pair of them the character (`unicodeEscape_units`); so whatever follows
an escape, it is read as its character (`string_escapeChar`), and a quoted text as the text (`string_quoted`).  All that is
written stands in the printable range (`isPlain_quote`).  A text from elsewhere can hold half a pair of units, which is no
character; where there is none, every escape is read as the character that its units stand for
(`unicodeEscape_of_inPairs`).
-/
namespace DocReview
namespace Json

open Text (hexPadded)

/-! ## Hexadecimal digits -/

theorem hexDigit?_digitChar : ∀ d < 16, hexDigit? d.digitChar = some d := by decide

theorem hexPadded_succ (width n : Nat) : hexPadded (width + 2) n = hexPadded (width + 1) (n / 16) ++ [(n % 16).digitChar] := by
  unfold hexPadded
  dsimp only
  by_cases h : n < 16
  · rw [Nat.toDigits_of_lt_base h, Nat.div_eq_of_lt h, Nat.mod_eq_of_lt h, Nat.toDigits_zero]
    simp [← List.replicate_succ']
  · rw [Nat.toDigits_of_base_le (by decide) (Nat.le_of_not_lt h), List.length_append, List.length_singleton]
    rw [show width + 2 - ((Nat.toDigits 16 (n / 16)).length + 1) = width + 1 - (Nat.toDigits 16 (n / 16)).length by omega]
    rw [List.append_assoc]

theorem hexPadded_four {n : Nat} (h : n < 0x10000) : hexPadded 4 n =
    [(n / 16 / 16 / 16).digitChar, (n / 16 / 16 % 16).digitChar, (n / 16 % 16).digitChar, (n % 16).digitChar] := by
  have hfirst : hexPadded 1 (n / 16 / 16 / 16) = [(n / 16 / 16 / 16).digitChar] := by
    unfold hexPadded
    rw [Nat.toDigits_of_lt_base (by omega)]
    rfl
  rw [hexPadded_succ 2, hexPadded_succ 1, hexPadded_succ 0, hfirst]
  rfl

/-- **Four digits are read as the unit they were written for.** -/
theorem fourHex?_hexPadded {n : Nat} (h : n < 0x10000) : fourHex? (n / 16 / 16 / 16).digitChar (n / 16 / 16 % 16).digitChar
    (n / 16 % 16).digitChar (n % 16).digitChar = some n := by
  unfold fourHex?
  rw [hexDigit?_digitChar _ (by omega), hexDigit?_digitChar _ (Nat.mod_lt _ (by decide)),
    hexDigit?_digitChar _ (Nat.mod_lt _ (by decide)), hexDigit?_digitChar _ (Nat.mod_lt _ (by decide))]
  have hvalue : ((n / 16 / 16 / 16 * 16 + n / 16 / 16 % 16) * 16 + n / 16 % 16) * 16 + n % 16 = n := by omega
  exact congrArg some hvalue

/-! ## Units -/

theorem charOf_of_single {n : Nat} (hhigh : isHigh n = false) (hlow : isLow n = false) : charOf n = Char.ofNat n := by
  rw [charOf, hhigh, hlow]
  rfl

theorem unicodeEscape_unit {n : Nat} (h : n < 0x10000) (hhigh : isHigh n = false) (hlow : isLow n = false) (x : Char)
    (rest : List Char) : unicodeEscape (hexPadded 4 n ++ x :: rest) = .ok (Char.ofNat n, x :: rest) := by
  rw [hexPadded_four h]
  unfold unicodeEscape
  simp only [List.cons_append, List.nil_append, List.isEmpty_cons, Bool.false_eq_true, if_false, fourHex?_hexPadded h]
  rw [hhigh, charOf_of_single hhigh hlow]
  split <;> rfl

theorem unicodeEscape_pair {n m : Nat} (hhigh : isHigh n = true) (hlow : isLow m = true) (x : Char) (rest : List Char) :
    unicodeEscape (hexPadded 4 n ++ '\\' :: 'u' :: hexPadded 4 m ++ x :: rest) =
      .ok (Char.ofNat (0x10000 + (n - 0xd800) * 0x400 + (m - 0xdc00)), x :: rest) := by
  have hn : n < 0x10000 := by
    simp only [isHigh, Bool.and_eq_true, decide_eq_true_eq] at hhigh
    omega
  have hm : m < 0x10000 := by
    simp only [isLow, Bool.and_eq_true, decide_eq_true_eq] at hlow
    omega
  rw [hexPadded_four hn, hexPadded_four hm]
  unfold unicodeEscape
  simp only [List.cons_append, List.nil_append, List.isEmpty_cons, Bool.false_eq_true, if_false, fourHex?_hexPadded hn,
    fourHex?_hexPadded hm, hhigh, hlow, if_true]

theorem toNat_range (c : Char) : c.toNat < 0xd800 ∨ 0xdfff < c.toNat ∧ c.toNat < 0x110000 := by
  have h := c.valid
  unfold UInt32.isValidChar Nat.isValidChar at h
  exact h

/-- **The numbers of a character's units are read as the character**, whatever follows. -/
theorem unicodeEscape_units (c : Char) : ∃ digits, (units c.toNat).flatMap unitEscape = '\\' :: 'u' :: digits ∧
    ∀ x rest, unicodeEscape (digits ++ x :: rest) = .ok (c, x :: rest) := by
  have hrange := toNat_range c
  unfold units
  by_cases h : c.toNat < 0x10000
  · rw [if_pos h]
    refine ⟨hexPadded 4 c.toNat, by simp [unitEscape], fun x rest => ?_⟩
    have hhigh : isHigh c.toNat = false := by
      simp only [isHigh, Bool.and_eq_false_iff, decide_eq_false_iff_not]
      omega
    have hlow : isLow c.toNat = false := by
      simp only [isLow, Bool.and_eq_false_iff, decide_eq_false_iff_not]
      omega
    rw [unicodeEscape_unit h hhigh hlow, Char.ofNat_toNat]
  · rw [if_neg h]
    obtain ⟨high, hhigh⟩ : ∃ n, n = 0xd800 + (c.toNat - 0x10000) / 0x400 := ⟨_, rfl⟩
    obtain ⟨low, hlow⟩ : ∃ n, n = 0xdc00 + (c.toNat - 0x10000) % 0x400 := ⟨_, rfl⟩
    rw [← hhigh, ← hlow]
    refine ⟨hexPadded 4 high ++ '\\' :: 'u' :: hexPadded 4 low, by simp [unitEscape], fun x rest => ?_⟩
    have hishigh : isHigh high = true := by
      simp only [isHigh, Bool.and_eq_true, decide_eq_true_eq]
      omega
    have hislow : isLow low = true := by
      simp only [isLow, Bool.and_eq_true, decide_eq_true_eq]
      omega
    have hvalue : 0x10000 + (high - 0xd800) * 0x400 + (low - 0xdc00) = c.toNat := by omega
    rw [unicodeEscape_pair hishigh hislow, hvalue, Char.ofNat_toNat]

theorem lt_of_mem_units {c : Char} {n : Nat} (h : n ∈ units c.toNat) : n < 0x10000 := by
  have hrange := toNat_range c
  unfold units at h
  split at h
  · have hn : n = c.toNat := by simpa using h
    omega
  · have hn : n = 0xd800 + (c.toNat - 0x10000) / 0x400 ∨ n = 0xdc00 + (c.toNat - 0x10000) % 0x400 := by simpa using h
    omega

/-! ## Strings -/

def IsPlain (c : Char) : Prop := ' ' ≤ c ∧ c ≤ '~'

instance (c : Char) : Decidable (IsPlain c) := inferInstanceAs (Decidable (_ ∧ _))

/-- **A character is written in one of three ways**: after a backslash by a character that stands for it, as itself, or by
the numbers of its units. -/
theorem escapeChar_cases (c : Char) :
    (∃ e, escapeChar c = ['\\', e] ∧ e ≠ 'u' ∧ IsPlain e ∧ plainEscape? e = some c) ∨
    (escapeChar c = [c] ∧ IsPlain c ∧ c ≠ '"' ∧ c ≠ '\\') ∨
    escapeChar c = (units c.toNat).flatMap unitEscape := by
  by_cases hshort : c ∈ ['"', '\\', '\n', '\r', '\t', '\x0c', '\x08']
  · left
    simp only [List.mem_cons, List.not_mem_nil, or_false] at hshort
    rcases hshort with rfl | rfl | rfl | rfl | rfl | rfl | rfl
    · exact ⟨'"', by decide⟩
    · exact ⟨'\\', by decide⟩
    · exact ⟨'n', by decide⟩
    · exact ⟨'r', by decide⟩
    · exact ⟨'t', by decide⟩
    · exact ⟨'f', by decide⟩
    · exact ⟨'b', by decide⟩
  · right
    simp only [List.mem_cons, List.not_mem_nil, or_false, not_or] at hshort
    obtain ⟨hquote, hslash, hnewline, hreturn, htab, hfeed, hback⟩ := hshort
    simp only [escapeChar, hquote, hslash, hnewline, hreturn, htab, hfeed, hback, if_false]
    by_cases hplain : ' ' ≤ c ∧ c ≤ '~'
    · exact .inl ⟨if_pos hplain, hplain, hquote, hslash⟩
    · exact .inr (if_neg hplain)

/-- **An escape is read as its character**, whatever follows, and then the rest of the string. -/
theorem string_escapeChar (start bound : Nat) (c x : Char) (rest : List Char) :
    string start (bound + 1) (escapeChar c ++ x :: rest) =
      string start bound (x :: rest) >>= fun p => .ok (c :: p.1, p.2) := by
  rcases escapeChar_cases c with ⟨e, hc, hu, -, he⟩ | ⟨hc, hplain, hquote, hslash⟩ | hc
  · rw [hc, List.cons_append, List.singleton_append, string, if_neg (by decide), if_neg (by decide), if_neg (by decide)]
    simp only [if_neg hu, he]
    rfl
  · have hcontrol : ¬c.toNat < 0x20 := Nat.not_lt.2 hplain.1
    rw [hc, List.singleton_append, string, if_neg hquote, if_neg hcontrol, if_pos hslash]
    rfl
  · obtain ⟨digits, hdigits, hread⟩ := unicodeEscape_units c
    rw [hc, hdigits, List.cons_append, List.cons_append, string, if_neg (by decide), if_neg (by decide),
      if_neg (by decide)]
    simp only [if_true, hread]
    rfl

/-- **A quoted text is read as the text**, up to its closing quote. -/
theorem string_quoted (start : Nat) (rest : List Char) : ∀ (cs : List Char) {bound : Nat}, cs.length < bound →
    string start bound (cs.flatMap escapeChar ++ '"' :: rest) = .ok (cs, rest)
  | [], bound + 1, _ => rfl
  | c :: cs, bound + 1, h => by
    have hrest := string_quoted start rest cs (Nat.lt_of_succ_lt_succ h)
    obtain ⟨x, more, hmore⟩ : ∃ x more, cs.flatMap escapeChar ++ '"' :: rest = x :: more :=
      List.exists_cons_of_ne_nil (by simp)
    rw [List.flatMap_cons, List.append_assoc, hmore, string_escapeChar, ← hmore, hrest]
    rfl

theorem escapeChar_ne_nil (c : Char) : escapeChar c ≠ [] := by
  rcases escapeChar_cases c with ⟨e, hc, -⟩ | ⟨hc, -⟩ | hc
  · simp [hc]
  · simp [hc]
  · obtain ⟨digits, hdigits, -⟩ := unicodeEscape_units c
    simp [hc, hdigits]

theorem length_le_flatMap_escapeChar : ∀ cs : List Char, cs.length ≤ (cs.flatMap escapeChar).length
  | [] => Nat.le_refl _
  | c :: cs => by
    have hhead := List.length_pos_iff.2 (escapeChar_ne_nil c)
    have htail := length_le_flatMap_escapeChar cs
    rw [List.flatMap_cons, List.length_append, List.length_cons]
    omega

theorem quote_append (cs rest : List Char) : quote cs ++ rest = '"' :: (cs.flatMap escapeChar ++ '"' :: rest) := by
  simp [quote]

theorem string_quote (start : Nat) (cs rest : List Char) :
    string start (cs.flatMap escapeChar ++ '"' :: rest).length (cs.flatMap escapeChar ++ '"' :: rest) = .ok (cs, rest) := by
  apply string_quoted
  have h := length_le_flatMap_escapeChar cs
  rw [List.length_append, List.length_cons]
  omega

/-! ## The characters of a quoted text -/

theorem isPlain_digitChar : ∀ d < 16, IsPlain d.digitChar := by decide

theorem isPlain_hexPadded {n : Nat} (h : n < 0x10000) : ∀ x ∈ hexPadded 4 n, IsPlain x := by
  intro x hx
  rw [hexPadded_four h] at hx
  simp only [List.mem_cons, List.not_mem_nil, or_false] at hx
  rcases hx with rfl | rfl | rfl | rfl
  · exact isPlain_digitChar _ (by omega)
  all_goals exact isPlain_digitChar _ (Nat.mod_lt _ (by decide))

theorem isPlain_escapeChar (c : Char) : ∀ x ∈ escapeChar c, IsPlain x := by
  intro x hx
  rcases escapeChar_cases c with ⟨e, hc, -, he, -⟩ | ⟨hc, hplain, -⟩ | hc
  · rw [hc] at hx
    rcases List.mem_pair.1 hx with rfl | rfl
    · decide
    · exact he
  · rw [hc] at hx
    exact List.mem_singleton.1 hx ▸ hplain
  · rw [hc] at hx
    obtain ⟨n, hn, hx⟩ := List.mem_flatMap.1 hx
    simp only [unitEscape, List.mem_cons] at hx
    rcases hx with rfl | rfl | hx
    · decide
    · decide
    · exact isPlain_hexPadded (lt_of_mem_units hn) x hx

/-- **A quoted text is made of plain characters**, whatever the text. -/
theorem isPlain_quote (cs : List Char) : ∀ x ∈ quote cs, IsPlain x := by
  intro x hx
  simp only [quote, List.cons_append, List.mem_cons, List.mem_append, List.mem_flatMap, List.not_mem_nil, or_false] at hx
  rcases hx with rfl | ⟨c, -, hx⟩ | rfl
  · decide
  · exact isPlain_escapeChar c x hx
  · decide

/-! ## Halves of a pair -/

/-- The units that a text writes in numbers, in its order; everything else that it holds gives `none`. -/
def writtenUnits : List Char → List (Option Nat)
  | '\\' :: 'u' :: a :: b :: c :: d :: rest => (if rest.isEmpty then none else fourHex? a b c d) :: writtenUnits rest
  | '\\' :: _ :: rest => none :: writtenUnits rest
  | _ :: rest => none :: writtenUnits rest
  | [] => []

/-- Whether each high unit has a low one right behind it, and each low one a high one right before it. -/
def inPairs : List (Option Nat) → Bool
  | [] => true
  | none :: us => inPairs us
  | some n :: some m :: us => if isHigh n then isLow m && inPairs us else !isLow n && inPairs (some m :: us)
  | some n :: us => !isHigh n && !isLow n && inPairs us

theorem inPairs_of_isHigh {n : Nat} {us : List (Option Nat)} (hhigh : isHigh n = true) (h : inPairs (some n :: us) = true) :
    ∃ m us', us = some m :: us' ∧ isLow m = true ∧ inPairs us' = true := by
  rcases us with _ | ⟨_ | m, us⟩
  · simp [inPairs, hhigh] at h
  · simp [inPairs, hhigh] at h
  · rw [inPairs, if_pos hhigh, Bool.and_eq_true] at h
    exact ⟨m, us, rfl, h⟩

theorem inPairs_of_not_isHigh {n : Nat} {us : List (Option Nat)} (hhigh : isHigh n = false)
    (h : inPairs (some n :: us) = true) : isLow n = false ∧ inPairs us = true := by
  rcases us with _ | ⟨_ | m, us⟩ <;> simpa [inPairs, hhigh] using h

theorem writtenUnits_eq_some {cs : List Char} {m : Nat} {us : List (Option Nat)} (h : writtenUnits cs = some m :: us) :
    ∃ a b c d x rest, cs = '\\' :: 'u' :: a :: b :: c :: d :: x :: rest ∧ fourHex? a b c d = some m ∧
      us = writtenUnits (x :: rest) := by
  unfold writtenUnits at h
  split at h
  · rename_i a b c d rest
    cases rest with
    | nil => cases h
    | cons x rest =>
      obtain ⟨hm, rfl⟩ := List.cons.inj h
      exact ⟨a, b, c, d, x, rest, rfl, hm, rfl⟩
  all_goals cases h

/-- **Where units are in pairs an escape is read as the character that they stand for**, and so are those behind it. -/
theorem unicodeEscape_of_inPairs {cs rest : List Char} {k : Char} (h : inPairs (writtenUnits ('\\' :: 'u' :: cs)) = true)
    (hread : unicodeEscape cs = .ok (k, rest)) : inPairs (writtenUnits rest) = true ∧
      ((∃ n, isHigh n = false ∧ isLow n = false ∧ k = Char.ofNat n) ∨
        ∃ n m, isHigh n = true ∧ isLow m = true ∧ k = Char.ofNat (0x10000 + (n - 0xd800) * 0x400 + (m - 0xdc00))) := by
  unfold unicodeEscape at hread
  dsimp only at hread
  split at hread
  · rename_i a b c d after
    split at hread
    · cases hread
    · rename_i hafter
      split at hread
      · cases hread
      · rename_i n hn
        rw [writtenUnits, if_neg hafter, hn] at h
        cases hhigh : isHigh n with
        | true =>
          obtain ⟨m, us, hunits, hlow, hus⟩ := inPairs_of_isHigh hhigh h
          obtain ⟨e, f, g, i, x, more, rfl, hm, rfl⟩ := writtenUnits_eq_some hunits
          simp only [hhigh, hm, hlow, if_true, Except.ok.injEq, Prod.mk.injEq] at hread
          obtain ⟨rfl, rfl⟩ := hread
          exact ⟨hus, Or.inr ⟨n, m, hhigh, hlow, rfl⟩⟩
        | false =>
          obtain ⟨hlow, hrest⟩ := inPairs_of_not_isHigh hhigh h
          have hboth : (Except.ok (charOf n, after) : Except Fault _) = .ok (k, rest) := by
            rw [hhigh] at hread
            split at hread <;> exact hread
          cases hboth
          exact ⟨hrest, Or.inl ⟨n, hhigh, hlow, charOf_of_single hhigh hlow⟩⟩
  · cases hread

end Json
end DocReview
