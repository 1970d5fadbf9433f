import Mathlib.Data.List.Nodup
import DocReview.Table.Columns
/-!
# Numbering — when numbered columns are distinct

The numbers that are kept say how often a name was seen again (`Counts`), so a column is known by its name and by how often
that name occurred before it (`occurrences`), and no two columns have both in common.  What a column is called in the end is
made from the two (`numbered`), so columns can only be called the same if two such pairs give one name.  Two numbers never
do, since no digit is an underscore (`numbered_inj`).  What is left is a number that makes the name of another column
(`columns_distinct_iff`).
-/
namespace DocReview
namespace Table

/-! ## Columns by name and number -/

/-- The name of a column, with the number that tells how often it occurred before. -/
def numbered (c : String) (k : Nat) : String := if k = 0 then c else c ++ "_" ++ String.ofList (decimalDigits k)

/-- The columns, each with how often it occurred before, also among `before`. -/
def occurrences : List String → List String → List (String × Nat)
  | _, [] => []
  | before, c :: cs => (c, before.count c) :: occurrences (c :: before) cs

/-- What is kept after the columns `before`: for each of them how often it was seen again. -/
def Counts (seen : List (String × Nat)) (before : List String) : Prop :=
  ∀ c, seen.lookup c = if before.count c = 0 then none else some (before.count c - 1)

theorem counts_nil : Counts [] [] := fun _ => rfl

theorem Counts.cons {seen : List (String × Nat)} {before : List String} (h : Counts seen before) (c : String) :
    Counts ((c, before.count c) :: seen) (c :: before) := by
  intro d
  rw [List.lookup_cons]
  by_cases hd : d = c
  · subst hd
    simp
  · rw [List.count_cons_of_ne (Ne.symm hd), ← h d, beq_false_of_ne hd]

/-- **The numbers that are kept are those of the names before.** -/
theorem numberRepeats_eq_map : ∀ {seen : List (String × Nat)} {before : List String}, Counts seen before →
    ∀ cs : List String, numberRepeats seen cs = (occurrences before cs).map fun o => numbered o.1 o.2
  | _, _, _, [] => rfl
  | seen, before, h, c :: cs => by
    have hrest := numberRepeats_eq_map (h.cons c) cs
    have hc := h c
    rw [occurrences, List.map_cons, ← hrest, numberRepeats]
    by_cases hzero : before.count c = 0
    · rw [if_pos hzero] at hc
      rw [hc, hzero]
      rfl
    · rw [if_neg hzero] at hc
      have hcount : before.count c - 1 + 1 = before.count c := by omega
      rw [hc, numbered, if_neg hzero]
      dsimp only
      rw [hcount]

theorem length_occurrences : ∀ before cs : List String, (occurrences before cs).length = cs.length
  | _, [] => rfl
  | before, c :: cs => congrArg Nat.succ (length_occurrences (c :: before) cs)

theorem mem_occurrences {c : String} {k : Nat} : ∀ {cs before : List String},
    (c, k) ∈ occurrences before cs ↔ before.count c ≤ k ∧ k < before.count c + cs.count c
  | [], before => by
    simp only [occurrences, List.not_mem_nil, List.count_nil, Nat.add_zero, false_iff]
    omega
  | d :: cs, before => by
    have ih : (c, k) ∈ occurrences (d :: before) cs ↔ _ := mem_occurrences
    rw [occurrences, List.mem_cons, ih, Prod.mk.injEq]
    by_cases hcd : c = d
    · subst hcd
      simp only [List.count_cons_self, true_and]
      omega
    · rw [List.count_cons_of_ne (Ne.symm hcd), List.count_cons_of_ne (Ne.symm hcd)]
      simp only [hcd, false_and, false_or]

theorem nodup_occurrences : ∀ cs before : List String, (occurrences before cs).Nodup
  | [], _ => List.nodup_nil
  | c :: cs, before => by
    refine List.nodup_cons.2 ⟨fun hmem => ?_, nodup_occurrences cs (c :: before)⟩
    have hle := (mem_occurrences.1 hmem).1
    rw [List.count_cons_self] at hle
    omega

theorem getElem?_occurrences (c : String) (cs : List String) : ∀ before front : List String,
    (occurrences before (front ++ c :: cs))[front.length]? = some (c, before.count c + front.count c)
  | before, [] => rfl
  | before, d :: front => by
    rw [List.cons_append, occurrences, List.length_cons, List.getElem?_cons_succ, getElem?_occurrences, List.count_cons,
      List.count_cons]
    congr 2
    omega

/-! ## Names with numbers -/

theorem eq_of_append_separator {sep : Char} {us vs xs ys : List Char} (hxs : sep ∉ xs) (hys : sep ∉ ys)
    (h : us ++ sep :: xs = vs ++ sep :: ys) : us = vs ∧ xs = ys := by
  rcases List.append_eq_append_iff.1 h with ⟨more, rfl, hmore⟩ | ⟨more, rfl, hmore⟩
  · cases more with
    | nil => exact ⟨(List.append_nil us).symm, (List.cons.inj hmore).2⟩
    | cons c more => exact absurd ((List.cons.inj hmore).2 ▸ by simp) hxs
  · cases more with
    | nil => exact ⟨List.append_nil vs, (List.cons.inj hmore).2.symm⟩
    | cons c more => exact absurd ((List.cons.inj hmore).2 ▸ by simp) hys

theorem decimalDigits_injective {k m : Nat} (h : decimalDigits k = decimalDigits m) : k = m := by
  have hread := congrArg (fun ds => Nat.ofDigitChars 10 ds 0) h
  simpa only [decimalDigits, Nat.ofDigitChars_ten_toDigits] using hread

theorem underscore_not_mem_decimalDigits (n : Nat) : '_' ∉ decimalDigits n := fun h =>
  absurd (Nat.isDigit_of_mem_toDigits (by decide) (by decide) h) (by decide)

theorem numbered_zero (c : String) : numbered c 0 = c := rfl

theorem toList_numbered {k : Nat} (c : String) (h : 0 < k) :
    (numbered c k).toList = c.toList ++ '_' :: decimalDigits k := by
  rw [numbered, if_neg (by omega)]
  simp

/-- **Names with numbers are the same only for the same name and number.** -/
theorem numbered_inj {c d : String} {k m : Nat} (hk : 0 < k) (hm : 0 < m) (h : numbered c k = numbered d m) :
    c = d ∧ k = m := by
  have htext := congrArg String.toList h
  rw [toList_numbered c hk, toList_numbered d hm] at htext
  obtain ⟨hname, hdigits⟩ := eq_of_append_separator (underscore_not_mem_decimalDigits k)
    (underscore_not_mem_decimalDigits m) htext
  exact ⟨String.toList_injective hname, decimalDigits_injective hdigits⟩

/-! ## All columns -/

theorem mem_occurrences_nil {c : String} {k : Nat} {cs : List String} : (c, k) ∈ occurrences [] cs ↔ k < cs.count c := by
  rw [mem_occurrences, List.count_nil, Nat.zero_add]
  exact and_iff_right k.zero_le

/-- **Columns are called differently exactly if no number makes the name of a column.** -/
theorem nodup_distinctColumns_iff (columns : List String) : (distinctColumns columns).Nodup ↔
    ∀ c k, 0 < k → k < columns.count c → numbered c k ∉ columns := by
  rw [distinctColumns, numberRepeats_eq_map counts_nil, List.nodup_map_iff_inj_on (nodup_occurrences columns [])]
  constructor
  · intro hinj c k hk hlt hmem
    have hplain : (numbered c k, 0) ∈ occurrences [] columns := mem_occurrences_nil.2 (List.count_pos_iff.2 hmem)
    have heq := hinj _ hplain _ (mem_occurrences_nil.2 hlt) rfl
    have hzero : 0 = k := congrArg Prod.snd heq
    omega
  · -- a plain name is the name of a column, so that only two numbered names are left
    rintro hfree ⟨c, k⟩ hc ⟨d, m⟩ hd heq
    rw [mem_occurrences_nil] at hc hd
    dsimp only at heq
    rcases Nat.eq_zero_or_pos k with rfl | hk
    · rcases Nat.eq_zero_or_pos m with rfl | hm
      · rw [numbered_zero, numbered_zero] at heq
        rw [heq]
      · rw [numbered_zero] at heq
        exact absurd (heq ▸ List.count_pos_iff.1 hc) (hfree d m hm hd)
    · rcases Nat.eq_zero_or_pos m with rfl | hm
      · rw [numbered_zero] at heq
        exact absurd (heq ▸ List.count_pos_iff.1 hd) (hfree c k hk hc)
      · obtain ⟨rfl, rfl⟩ := numbered_inj hk hm heq
        rfl

/-- **When numbered columns are distinct.**  For every list of column names there are as many columns afterwards, each in
its place: one that occurs for the first time is called as before, and one that occurred `k` times before has the number
`k` behind its name.  All of them are called differently exactly if no column had, from the start, a name that is made so
from the name and number of a repeated one. -/
theorem columns_distinct_iff (columns : List String) :
    (distinctColumns columns).length = columns.length ∧
      (∀ before c after, columns = before ++ c :: after → c ∉ before →
        (distinctColumns columns)[before.length]? = some c) ∧
      (∀ before c after, columns = before ++ c :: after → c ∈ before → (distinctColumns columns)[before.length]? =
        some (c ++ "_" ++ String.ofList (decimalDigits (before.count c)))) ∧
      ((distinctColumns columns).Nodup ↔ ∀ c k, 0 < k → k < columns.count c →
        c ++ "_" ++ String.ofList (decimalDigits k) ∉ columns) := by
  have hplace : ∀ before c after, columns = before ++ c :: after →
      (distinctColumns columns)[before.length]? = some (numbered c (before.count c)) := by
    rintro before c after rfl
    rw [distinctColumns, numberRepeats_eq_map counts_nil, List.getElem?_map, getElem?_occurrences, List.count_nil, Nat.zero_add]
    rfl
  refine ⟨?_, fun before c after hcut hnew => ?_, fun before c after hcut hold => ?_, ?_⟩
  · rw [distinctColumns, numberRepeats_eq_map counts_nil, List.length_map, length_occurrences]
  · rw [hplace before c after hcut, List.count_eq_zero.2 hnew, numbered_zero]
  · have hpos := List.count_pos_iff.2 hold
    rw [hplace before c after hcut, numbered, if_neg (by omega)]
  · rw [nodup_distinctColumns_iff]
    refine forall_congr' fun c => forall_congr' fun k => forall_congr' fun hk => ?_
    rw [numbered, if_neg (by omega)]

/-- The number of the second column makes the name of the third. -/
example : distinctColumns ["a", "a", "a_1"] = ["a", "a_1", "a_1"] := by decide

end Table
end DocReview
