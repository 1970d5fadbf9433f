import DocReview.Source.Program
/-!
# Lines — a text and its lines

The text of a program is its lines, each with a line feed after it (`programText_eq`), as long as nothing but line feeds
and carriage returns ends a line.  Lines that are joined again are the program of these lines, but for an empty last one
(`programText_joinWith`).  A line feed in a text cuts its lines in two (`unlines_cut`).
-/
namespace DocReview.Text

open Source (programText)

def unlines (ls : List (List Char)) : List Char := ls.flatMap (· ++ ['\n'])

@[simp] theorem unlines_nil : unlines [] = [] := rfl

@[simp] theorem unlines_cons (l : List Char) (ls : List (List Char)) : unlines (l :: ls) = l ++ '\n' :: unlines ls := by
  simp [unlines]

theorem unlines_append (ls ms : List (List Char)) : unlines (ls ++ ms) = unlines ls ++ unlines ms := by
  simp [unlines]

theorem getLast?_unlines {ls : List (List Char)} (h : ls ≠ []) : (unlines ls).getLast? = some '\n' := by
  induction ls with
  | nil => exact absurd rfl h
  | cons l ls ih =>
    cases ls with
    | nil => simp
    | cons m ls =>
      rw [unlines_cons, List.getLast?_append, List.getLast?_cons, ih (List.cons_ne_nil _ _)]
      rfl

/-- A text in which nothing but line feeds and carriage returns ends a line. -/
def PlainEnds (cs : List Char) : Prop := ∀ c ∈ cs, isLineEnd c = true → c = '\n' ∨ c = '\r'

def ended (cs : List Char) : List Char := if cs.getLast? = some '\n' then cs else cs ++ ['\n']

theorem programText_eq_ended (cs : List Char) : programText cs = ended (foldNewlines cs) := rfl

theorem ended_append {cs : List Char} (h : cs ≠ []) (pre : List Char) : ended (pre ++ cs) = pre ++ ended cs := by
  unfold ended
  obtain ⟨c, hc⟩ := Option.ne_none_iff_exists'.1 (fun hnone => h (List.getLast?_eq_none_iff.1 hnone) : cs.getLast? ≠ none)
  rw [List.getLast?_append, hc, Option.some_or]
  split
  · rfl
  · exact List.append_assoc _ _ _

theorem foldNewlines_eq_nil_iff {cs : List Char} : foldNewlines cs = [] ↔ cs = [] := by
  fun_cases foldNewlines cs <;> simp

theorem unlines_after {cs : List Char} (cur : List Char)
    (ih : cs ≠ [] → unlines (splitLinesFrom [] cs) = ended (foldNewlines cs)) :
    cur.reverse ++ '\n' :: unlines (splitLinesFrom [] cs) = ended (cur.reverse ++ '\n' :: foldNewlines cs) := by
  by_cases hcs : cs = []
  · subst hcs
    simp [splitLinesFrom, foldNewlines, ended]
  · have hone := ended_append (mt foldNewlines_eq_nil_iff.1 hcs) ['\n']
    rw [ih hcs, ended_append (List.cons_ne_nil _ _)]
    exact congrArg (cur.reverse ++ ·) hone.symm

theorem unlines_splitLinesFrom (cur cs : List Char) (hcs : PlainEnds cs) (hcur : '\n' ∉ cur) (h : cur ≠ [] ∨ cs ≠ []) :
    unlines (splitLinesFrom cur cs) = ended (cur.reverse ++ foldNewlines cs) := by
  fun_induction splitLinesFrom cur cs with
  | case1 cur hempty => simp_all
  | case2 cur hempty =>
    have hhead : cur.head? ≠ some '\n' := fun hhead => hcur (List.mem_of_head? hhead)
    simp [ended, foldNewlines, hhead]
  | case3 cur cs ih =>
    rw [unlines_cons, foldNewlines]
    refine unlines_after cur fun hne => ih (fun c hc => hcs c (by simp [hc])) (by simp) (Or.inr hne)
  | case4 cur c cs hne hend ih =>
    have hfold : foldNewlines (c :: cs) = '\n' :: foldNewlines cs := by
      rw [foldNewlines]
      · rcases hcs c List.mem_cons_self hend with rfl | rfl <;> rfl
      · exact hne
    rw [unlines_cons, hfold]
    exact unlines_after cur fun hne => ih (fun c hc => hcs c (List.mem_cons_of_mem _ hc)) (by simp) (Or.inr hne)
  | case5 cur c cs hne hend ih =>
    have hc : c ≠ '\n' ∧ c ≠ '\r' := by
      constructor <;>
      · rintro rfl
        exact hend rfl
    have hfold : foldNewlines (c :: cs) = c :: foldNewlines cs := by
      rw [foldNewlines]
      · rw [if_neg hc.2]
      · exact hne
    rw [ih (fun c hc => hcs c (List.mem_cons_of_mem _ hc)) (by simp [hcur, Ne.symm hc.1]) (Or.inl (List.cons_ne_nil _ _)),
      hfold, List.reverse_cons, List.append_assoc]
    rfl

/-- **The text of a program is its lines, each with a line feed after it.** -/
theorem programText_eq {cs : List Char} (h : PlainEnds cs) (hne : cs ≠ []) : programText cs = unlines (splitLines cs) := by
  rw [programText_eq_ended]
  exact (unlines_splitLinesFrom [] cs h (by simp) (Or.inr hne)).symm

theorem mem_splitLinesFrom {cur cs l : List Char} (hl : l ∈ splitLinesFrom cur cs) {c : Char} (hc : c ∈ l) :
    c ∈ cur ∨ c ∈ cs ∧ isLineEnd c = false := by
  fun_induction splitLinesFrom cur cs with
  | case1 => cases hl
  | case2 cur hempty =>
    obtain rfl := List.mem_singleton.1 hl
    exact Or.inl (List.mem_reverse.1 hc)
  | case3 cur cs ih =>
    rcases List.mem_cons.1 hl with rfl | hl
    · exact Or.inl (List.mem_reverse.1 hc)
    · rcases ih hl with h | h
      · cases h
      · exact Or.inr ⟨by simp [h.1], h.2⟩
  | case4 cur d cs hne hend ih =>
    rcases List.mem_cons.1 hl with rfl | hl
    · exact Or.inl (List.mem_reverse.1 hc)
    · rcases ih hl with h | h
      · cases h
      · exact Or.inr ⟨List.mem_cons_of_mem _ h.1, h.2⟩
  | case5 cur d cs hne hend ih =>
    rcases ih hl with h | h
    · rcases List.mem_cons.1 h with rfl | h
      · exact Or.inr ⟨List.mem_cons_self, Bool.eq_false_iff.2 hend⟩
      · exact Or.inl h
    · exact Or.inr ⟨List.mem_cons_of_mem _ h.1, h.2⟩

theorem mem_splitLines {cs l : List Char} (hl : l ∈ splitLines cs) {c : Char} (hc : c ∈ l) :
    c ∈ cs ∧ isLineEnd c = false := (mem_splitLinesFrom hl hc).resolve_left (List.not_mem_nil)

theorem newline_not_mem_splitLines {cs l : List Char} (hl : l ∈ splitLines cs) : '\n' ∉ l := fun h => by
  cases (mem_splitLines hl h).2

theorem exists_mem_splitLinesFrom {cur cs : List Char} {c : Char} (hc : c ∈ cur ∨ c ∈ cs ∧ isLineEnd c = false) :
    ∃ l ∈ splitLinesFrom cur cs, c ∈ l := by
  fun_induction splitLinesFrom cur cs with
  | case1 cur hempty => simp_all
  | case2 cur hempty =>
    rcases hc with hc | hc
    · exact ⟨_, List.mem_singleton_self _, List.mem_reverse.2 hc⟩
    · cases hc.1
  | case3 cur cs ih =>
    rcases hc with hc | ⟨hc, hend⟩
    · exact ⟨_, List.mem_cons_self, List.mem_reverse.2 hc⟩
    · have hcs : c ∈ cs := by
        rcases List.mem_cons.1 hc with rfl | hc
        · cases hend
        · exact (List.mem_cons.1 hc).resolve_left fun h => by subst h; cases hend
      obtain ⟨l, hl, h⟩ := ih (Or.inr ⟨hcs, hend⟩)
      exact ⟨l, List.mem_cons_of_mem _ hl, h⟩
  | case4 cur d cs hne hd ih =>
    rcases hc with hc | ⟨hc, hend⟩
    · exact ⟨_, List.mem_cons_self, List.mem_reverse.2 hc⟩
    · have hcs : c ∈ cs := (List.mem_cons.1 hc).resolve_left fun h => by
        rw [h, hd] at hend
        cases hend
      obtain ⟨l, hl, h⟩ := ih (Or.inr ⟨hcs, hend⟩)
      exact ⟨l, List.mem_cons_of_mem _ hl, h⟩
  | case5 cur d cs hne hd ih =>
    refine ih ?_
    rcases hc with hc | ⟨hc, hend⟩
    · exact Or.inl (List.mem_cons_of_mem _ hc)
    · rcases List.mem_cons.1 hc with rfl | hc
      · exact Or.inl List.mem_cons_self
      · exact Or.inr ⟨hc, hend⟩

theorem splitLinesFrom_cons {c : Char} {cs : List Char} (h : ∀ ds, c = '\r' → cs = '\n' :: ds → False) (cur : List Char) :
    splitLinesFrom cur (c :: cs) =
      if isLineEnd c then cur.reverse :: splitLinesFrom [] cs else splitLinesFrom (c :: cur) cs := by
  rw [splitLinesFrom]
  exact h

theorem splitLinesFrom_append (cur Y Z : List Char) :
    splitLinesFrom cur (Y ++ '\n' :: Z) = splitLinesFrom cur (Y ++ ['\n']) ++ splitLines Z := by
  -- a carriage return before the line feed ends the line together with it, in both texts
  have hother : ∀ {c : Char} {cs : List Char}, (∀ ds, c = '\r' → cs = '\n' :: ds → False) → ¬ (c = '\r' ∧ cs = []) →
      ∀ W ds, c = '\r' → cs ++ '\n' :: W = '\n' :: ds → False := by
    intro c cs hne hlast W ds hc hcs
    cases cs with
    | nil => exact hlast ⟨hc, rfl⟩
    | cons d cs =>
      obtain ⟨rfl, -⟩ := List.cons.inj hcs
      exact hne cs hc rfl
  fun_induction splitLinesFrom cur Y with
  | case1 => rfl
  | case2 => rfl
  | case3 cur cs ih =>
    simp only [List.cons_append, splitLinesFrom]
    rw [ih]
  | case4 cur c cs hne hend ih =>
    by_cases hlast : c = '\r' ∧ cs = []
    · obtain ⟨rfl, rfl⟩ := hlast
      rfl
    · rw [List.cons_append, List.cons_append, splitLinesFrom_cons (hother hne hlast Z), if_pos hend,
        splitLinesFrom_cons (hother hne hlast []), if_pos hend, ih]
      rfl
  | case5 cur c cs hne hend ih =>
    have hlast : ¬ (c = '\r' ∧ cs = []) := fun h => hend (by rw [h.1]; rfl)
    rw [List.cons_append, List.cons_append, splitLinesFrom_cons (hother hne hlast Z), if_neg hend,
      splitLinesFrom_cons (hother hne hlast []), if_neg hend, ih]

/-! ## Lines joined again -/

theorem mem_of_mem_joinWith {sep : List Char} {c : Char} : ∀ {ls : List (List Char)}, c ∈ joinWith sep ls →
    c ∈ sep ∨ ∃ l ∈ ls, c ∈ l
  | [l], h => .inr ⟨l, List.mem_cons_self, h⟩
  | l :: m :: ls, h => by
    rw [joinWith, List.mem_append, List.mem_append] at h
    · rcases h with (h | h) | h
      · exact .inr ⟨l, List.mem_cons_self, h⟩
      · exact .inl h
      · exact (mem_of_mem_joinWith h).imp_right fun ⟨n, hn, hc⟩ => ⟨n, List.mem_cons_of_mem _ hn, hc⟩
    · simp

theorem mem_joinWith (sep : List Char) {c : Char} {l : List Char} (hc : c ∈ l) : ∀ {ls : List (List Char)}, l ∈ ls →
    c ∈ joinWith sep ls
  | [m], h => List.mem_singleton.1 h ▸ hc
  | m :: n :: ls, h => by
    rw [joinWith, List.mem_append, List.mem_append]
    · rcases List.mem_cons.1 h with rfl | h
      · exact .inl (.inl hc)
      · exact .inr (mem_joinWith sep hc h)
    · simp

theorem joinWith_append {ms : List (List Char)} (hms : ms ≠ []) : ∀ ls : List (List Char),
    joinWith ['\n'] (ls ++ ms) = unlines ls ++ joinWith ['\n'] ms
  | [] => rfl
  | m :: ls => by
    rw [List.cons_append, unlines_cons, List.append_assoc, List.cons_append, ← joinWith_append hms ls, joinWith]
    · simp
    · exact fun h => hms (List.append_eq_nil_iff.1 h).2

theorem joinWith_concat (ls : List (List Char)) (l : List Char) : joinWith ['\n'] (ls ++ [l]) = unlines ls ++ l :=
  joinWith_append (List.cons_ne_nil l []) ls

theorem foldNewlines_of_not_mem {cs : List Char} (h : '\r' ∉ cs) : foldNewlines cs = cs := by
  fun_induction foldNewlines cs with
  | case1 => rfl
  | case2 cs ih => exact absurd List.mem_cons_self h
  | case3 c cs hne ih =>
    have hc : c ≠ '\r' := fun hc => h (hc ▸ List.mem_cons_self)
    rw [ih fun hmem => h (List.mem_cons_of_mem _ hmem), if_neg hc]

theorem return_not_mem_foldNewlines (cs : List Char) : '\r' ∉ foldNewlines cs := by
  fun_induction foldNewlines cs with
  | case1 => exact List.not_mem_nil
  | case2 cs ih => exact List.not_mem_cons_of_ne_of_not_mem (by decide) ih
  | case3 c cs hne ih =>
    refine List.not_mem_cons_of_ne_of_not_mem ?_ ih
    split
    · decide
    · rename_i hc
      exact Ne.symm hc

/-- **Lines that are joined are the program of these lines**, but for an empty last one. -/
theorem programText_joinWith {ls : List (List Char)} {l : List Char} (hls : ∀ m ∈ ls ++ [l], ∀ c ∈ m, isLineEnd c = false)
    (hne : ls ≠ []) : programText (joinWith ['\n'] (ls ++ [l])) = if l = [] then unlines ls else unlines (ls ++ [l]) := by
  have hreturn : '\r' ∉ unlines ls ++ l := by
    intro h
    rw [List.mem_append, unlines, List.mem_flatMap] at h
    rcases h with ⟨m, hm, h⟩ | h
    · rcases List.mem_append.1 h with h | h
      · cases hls m (List.mem_append_left _ hm) _ h
      · cases List.mem_singleton.1 h
    · cases hls l (by simp) _ h
  rw [joinWith_concat, programText_eq_ended, foldNewlines_of_not_mem hreturn]
  split
  · rename_i hl
    subst hl
    rw [List.append_nil, ended, if_pos (getLast?_unlines hne)]
  · rename_i hl
    have hlast : l.getLast? ≠ some '\n' := fun h => by
      cases hls l (by simp) _ (List.mem_of_getLast? h)
    rw [ended_append hl, ended, if_neg hlast, unlines_append]
    simp

theorem count_unlines : ∀ {ls : List (List Char)}, (∀ l ∈ ls, '\n' ∉ l) → (unlines ls).count '\n' = ls.length
  | [], _ => rfl
  | l :: ls, h => by
    have hl : l.count '\n' = 0 := List.count_eq_zero.2 (h l List.mem_cons_self)
    have hls := count_unlines fun m hm => h m (List.mem_cons_of_mem l hm)
    rw [unlines_cons, List.count_append, List.count_cons_self, hl, hls, List.length_cons]
    omega

theorem unlines_cut : ∀ {ls : List (List Char)} {pre rest : List Char}, (∀ l ∈ ls, '\n' ∉ l) →
    unlines ls = pre ++ '\n' :: rest → pre ++ ['\n'] = unlines (ls.take (pre.count '\n' + 1)) ∧
      rest = unlines (ls.drop (pre.count '\n' + 1)) ∧ pre.count '\n' < ls.length
  | [], pre, rest, _, h => by simp at h
  | l :: ls, pre, rest, hls, h => by
    have hl := hls l List.mem_cons_self
    have hcount : l.count '\n' = 0 := List.count_eq_zero.2 hl
    rw [unlines_cons] at h
    rcases List.append_eq_append_iff.1 h with ⟨a, rfl, ha⟩ | ⟨b, rfl, hb⟩
    · cases a with
      | nil =>
        obtain ⟨-, rfl⟩ := List.cons.inj ha
        simp [hcount]
      | cons c a =>
        obtain ⟨rfl, hrest⟩ := List.cons.inj ha
        obtain ⟨hpre, hrest, hlt⟩ := unlines_cut (fun m hm => hls m (List.mem_cons_of_mem _ hm)) hrest
        have hc : (l ++ '\n' :: a).count '\n' = a.count '\n' + 1 := by simp [hcount]
        rw [hc, List.take_succ_cons, List.drop_succ_cons, unlines_cons, ← hpre]
        exact ⟨by simp, hrest, Nat.succ_lt_succ hlt⟩
    · cases b with
      | nil =>
        obtain ⟨-, rfl⟩ := List.cons.inj hb
        simp_all
      | cons c b =>
        obtain ⟨rfl, -⟩ := List.cons.inj hb
        exact absurd (by simp) hl

end DocReview.Text
