import DocReview.Definition.Docstring
import DocReview.Source.Literal
/-!
# Cleaning — what is left of a text without its blanks

Trimming takes away nothing but blanks (`mem_trim`).  A string without backslashes stands for its own characters
(`textPoints_plain`).  If it starts with a line end and holds a character that is not blank, then a line of it is left once
it is cleaned, so it documents the body it starts (`isDocumented_of_mem`).
-/
namespace DocReview

/-! ## Trimming -/

namespace Text

theorem mem_dropWhile {α : Type} {p : α → Bool} {x : α} {l : List α} (h : x ∈ l) (hx : p x = false) : x ∈ l.dropWhile p := by
  induction l with
  | nil => cases h
  | cons y l ih =>
    cases hy : p y with
    | true =>
      rw [List.dropWhile_cons_of_pos hy]
      exact ih ((List.mem_cons.1 h).resolve_left fun he => by rw [he, hy] at hx; cases hx)
    | false =>
      rw [List.dropWhile_cons_of_neg (by rw [hy]; exact Bool.false_ne_true)]
      exact h

theorem mem_trim {c : Char} {cs : List Char} (h : c ∈ cs) (hc : isBlank c = false) : c ∈ trim cs :=
  List.mem_reverse.2 (mem_dropWhile (List.mem_reverse.2 (mem_dropWhile h hc)) hc)

theorem mem_of_mem_trim {c : Char} {cs : List Char} (h : c ∈ trim cs) : c ∈ cs := by
  have hend := (List.dropWhile_sublist (p := isBlank)).mem (List.mem_reverse.1 h)
  exact (List.dropWhile_sublist (p := isBlank)).mem (List.mem_reverse.1 hend)

end Text

/-! ## Characters of a literal -/

namespace Source

theorem unescape_plain (escape : List Char → Option (List Nat × List Char)) : ∀ {cs : List Char}, '\\' ∉ cs →
    ∀ k, cs.length ≤ k → unescape escape k cs = some (cs.map Char.toNat)
  | [], _, 0, _ => rfl
  | [], _, _ + 1, _ => rfl
  | c :: cs, h, k + 1, hk => by
    have hc : c ≠ '\\' := fun hc => h (hc ▸ List.mem_cons_self)
    rw [unescape, if_neg hc, unescape_plain escape (fun hmem => h (List.mem_cons_of_mem _ hmem)) k (Nat.le_of_succ_le_succ hk)]
    rfl

theorem textPoints_plain {cs : List Char} (h : '\\' ∉ cs) : textPoints false cs = some (cs.map Char.toNat) :=
  unescape_plain textEscape h cs.length (Nat.le_refl _)

end Source

/-! ## Documentation -/

namespace Definition

open Text (isBlankPoint)

theorem mem_expandTabs {n : Nat} (hn : n ≠ 9) : ∀ {points : List Nat} (col : Nat), n ∈ points → n ∈ expandTabs col points
  | m :: points, col, h => by
    rw [expandTabs]
    rcases List.mem_cons.1 h with rfl | h
    · rw [if_neg hn]
      exact List.mem_cons_self
    · split
      · exact List.mem_append_right _ (mem_expandTabs hn _ h)
      · exact List.mem_cons_of_mem _ (mem_expandTabs hn _ h)

theorem exists_mem_cutLines {n : Nat} (hn : n ≠ 10) : ∀ {points : List Nat}, n ∈ points → ∃ l ∈ cutLines points, n ∈ l
  | m :: points, h => by
    have htail : n ∈ points → ∃ l ∈ cutLines points, n ∈ l := exists_mem_cutLines hn
    rw [cutLines]
    split
    · next hm =>
      obtain ⟨l, hl, hmem⟩ := htail ((List.mem_cons.1 h).resolve_left fun h => hn (h.trans hm))
      exact ⟨l, List.mem_cons_of_mem _ hl, hmem⟩
    · rcases List.mem_cons.1 h with rfl | h
      · split
        · exact ⟨[n], List.mem_cons_self, List.mem_cons_self⟩
        · exact ⟨_, List.mem_cons_self, List.mem_cons_self⟩
      · obtain ⟨l, hl, hmem⟩ := htail h
        split
        · next hnil =>
          rw [hnil] at hl
          cases hl
        · next l₀ ls hlines =>
          rw [hlines] at hl
          rcases List.mem_cons.1 hl with rfl | hl
          · exact ⟨_, List.mem_cons_self, List.mem_cons_of_mem _ hmem⟩
          · exact ⟨l, List.mem_cons_of_mem _ hl, hmem⟩

theorem indentOf?_of_mem {n : Nat} (hn : isBlankPoint n = false) {line : List Nat} (h : n ∈ line) :
    ∃ i, indentOf? line = some i ∧ i < line.length := by
  have hne : line.dropWhile isBlankPoint ≠ [] := List.ne_nil_of_mem (Text.mem_dropWhile h hn)
  refine ⟨_, if_neg (by simpa using hne), ?_⟩
  have hlt := List.length_pos_iff.2 hne
  have hle := (List.dropWhile_sublist (l := line) isBlankPoint).length_le
  omega

theorem drop_margin_ne_nil {n : Nat} (hn : isBlankPoint n = false) {lines : List (List Nat)} {line : List Nat}
    (hline : line ∈ lines) (h : n ∈ line) : line.drop ((margin? lines).getD 0) ≠ [] := by
  obtain ⟨i, hi, hlt⟩ := indentOf?_of_mem hn h
  have hmem : i ∈ lines.filterMap indentOf? := List.mem_filterMap.2 ⟨line, hline, hi⟩
  have hle : (margin? lines).getD 0 ≤ i := by
    unfold margin?
    cases hmin : (lines.filterMap indentOf?).min? with
    | none => exact Nat.zero_le _
    | some m => exact (List.le_min?_iff hmin).1 (Nat.le_refl m) i hmem
  intro hnil
  have := List.drop_eq_nil_iff.1 hnil
  omega

/-- **A line of the text is left when it is cleaned.** -/
theorem cleanedLines_ne_nil {n : Nat} (hn : isBlankPoint n = false) {points : List Nat} (h : n ∈ points) :
    cleanedLines (10 :: points) ≠ [] := by
  have h9 : n ≠ 9 := fun h => by rw [h] at hn; cases hn
  have h10 : n ≠ 10 := fun h => by rw [h] at hn; cases hn
  obtain ⟨line, hline, hmem⟩ := exists_mem_cutLines h10 (mem_expandTabs h9 0 h)
  have hcut : cutLines (expandTabs 0 (10 :: points)) = [] :: cutLines (expandTabs 0 points) := by
    simp [expandTabs, cutLines]
  have hne := drop_margin_ne_nil hn hline hmem
  unfold cleanedLines
  rw [hcut]
  dsimp only
  refine List.ne_nil_of_mem (a := line.drop ((margin? (cutLines (expandTabs 0 points))).getD 0)) ?_
  have hleft := List.isEmpty_eq_false_iff.2 hne
  refine Text.mem_dropWhile (List.mem_reverse.2 (Text.mem_dropWhile (List.mem_reverse.2 ?_) hleft)) hleft
  exact List.mem_cons_of_mem _ (List.mem_map.2 ⟨line, hline, rfl⟩)

/-- **A string that starts with a line end and is not blank documents the body it starts.** -/
theorem isDocumented_of_mem {c : Char} (hc : Text.isBlank c = false) {cs : List Char} (h : c ∈ cs) (b : Bool)
    (body : List Source.Stmt) :
    isDocumented (.expr (.literal (.text b (('\n' :: cs).map Char.toNat))) :: body) = true := by
  have := cleanedLines_ne_nil hc (List.mem_map.2 ⟨c, h, rfl⟩)
  unfold isDocumented docText?
  dsimp only
  rw [Bool.not_eq_true', List.isEmpty_eq_false_iff]
  exact this

end Definition
end DocReview
