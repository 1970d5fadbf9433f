import DocReview.Source.Lexer
/-!
# Compatibility — the spelling of a name is a name's

A character goes on with a name if it is an ASCII letter, a digit, an underscore or beyond ASCII.  The tables lead from such
characters to such characters: this is tested run by run (`namedTables`), and each step to the compatibility form keeps it.
So nothing else gets into a text of them on the way (`mayContinueName_compatibilityForm`).
-/
namespace DocReview.Text

open Source (mayContinueName)

/-! ## Code points -/

/-- The code points that go on with a name, by the first and last of each run; surrogates are left out. -/
def nameRuns : List (Nat × Nat) := [(128, 0xd7ff), (97, 122), (65, 90), (48, 57), (95, 95), (0xe000, 0x10ffff)]

def isNameRun (lo hi : Nat) : Bool := nameRuns.any fun r => Nat.ble r.1 lo && Nat.ble hi r.2

def NamePoint (n : Nat) : Prop := isNameRun n n = true

theorem namePoint_of_isNameRun {lo hi n : Nat} (h : isNameRun lo hi = true) (hlo : lo ≤ n) (hhi : n ≤ hi) : NamePoint n := by
  obtain ⟨r, hr, hin⟩ := List.any_eq_true.1 h
  simp only [Bool.and_eq_true, Nat.ble_eq] at hin
  refine List.any_eq_true.2 ⟨r, hr, ?_⟩
  simp only [Bool.and_eq_true, Nat.ble_eq]
  omega

theorem namePoint_iff {n : Nat} : NamePoint n ↔ 48 ≤ n ∧ n ≤ 57 ∨ 65 ≤ n ∧ n ≤ 90 ∨ n = 95 ∨ 97 ≤ n ∧ n ≤ 122 ∨
    128 ≤ n ∧ n ≤ 0xd7ff ∨ 0xe000 ≤ n ∧ n ≤ 0x10ffff := by
  simp only [NamePoint, isNameRun, nameRuns, List.any_cons, List.any_nil, Bool.or_false, Bool.or_eq_true, Bool.and_eq_true,
    Nat.ble_eq]
  omega

theorem mayContinueName_iff {c : Char} : mayContinueName c = true ↔ NamePoint c.toNat := by
  have hvalid : c.toNat < 0xd800 ∨ 0xdfff < c.toNat ∧ c.toNat < 0x110000 := c.valid
  have hle : ∀ a b : Char, a ≤ b ↔ a.toNat ≤ b.toNat := fun a b => Iff.rfl
  have heq : c = '_' ↔ c.toNat = 95 := ⟨fun h => by rw [h]; rfl, fun h => Char.toNat_inj.1 h⟩
  rw [namePoint_iff]
  simp only [mayContinueName, isAsciiNameContinue, isAsciiNameStart, Bool.or_eq_true, Bool.and_eq_true, decide_eq_true_eq,
    hle, heq, Char.reduceToNat]
  omega

theorem mayContinueName_ofNat {n : Nat} (h : NamePoint n) : mayContinueName (Char.ofNat n) = true := by
  have hvalid : n.isValidChar := by
    rw [namePoint_iff] at h
    unfold Nat.isValidChar
    omega
  have hpoint : (Char.ofNat n).toNat = n := by
    unfold Char.ofNat
    rw [dif_pos hvalid]
    rfl
  rw [mayContinueName_iff, hpoint]
  exact h

/-! ## Tables -/

/-- The runs of a table of one-character images lead to code points that go on with a name. -/
def runsNamed : List Nat → Bool
  | lo :: hi :: image :: rest => isNameRun image (image + (hi - lo)) && runsNamed rest
  | _ => true

/-- So do the entries of a table of longer images. -/
def longNamed : Nat → List Nat → Bool
  | bound + 1, _ :: len :: rest => (rest.take len).all (fun n => isNameRun n n) && longNamed bound (rest.drop len)
  | _, _ => true

/-- So do the entries of a table of composites. -/
def compositesNamed : List Nat → Bool
  | _ :: _ :: c :: rest => isNameRun c c && compositesNamed rest
  | _ => true

/-- **The tables lead to code points that go on with a name.** -/
theorem namedTables : runsNamed singleDecompositions = true ∧
    longNamed longDecompositions.length longDecompositions = true ∧ compositesNamed compositions = true := by
  refine ⟨?_, ?_, ?_⟩ <;> decide +kernel

theorem namePoint_of_singleImage? : ∀ {table : List Nat}, runsNamed table = true → ∀ {n m : Nat},
    singleImage? table n = some m → NamePoint m
  | lo :: hi :: image :: rest, h, n, m, hm => by
    rw [runsNamed, Bool.and_eq_true] at h
    rw [singleImage?] at hm
    split at hm
    · rename_i hn
      cases hm
      exact namePoint_of_isNameRun h.1 (by omega) (by omega)
    · exact namePoint_of_singleImage? h.2 hm
  | [], _, _, _, hm => by cases hm
  | [_], _, _, _, hm => by cases hm
  | [_, _], _, _, _, hm => by cases hm

theorem namePoint_of_longImage? : ∀ {bound : Nat} {table : List Nat}, longNamed bound table = true → ∀ {n : Nat} {ds : List Nat},
    longImage? bound table n = some ds → ∀ d ∈ ds, NamePoint d
  | bound + 1, c :: len :: rest, h, n, ds, hds => by
    rw [longNamed, Bool.and_eq_true] at h
    rw [longImage?] at hds
    split at hds
    · cases hds
      exact List.all_eq_true.1 h.1
    · exact namePoint_of_longImage? h.2 hds
  | 0, _, _, _, _, hds => by cases hds
  | _ + 1, [], _, _, _, hds => by cases hds
  | _ + 1, [_], _, _, _, hds => by cases hds

theorem namePoint_of_composite? : ∀ {table : List Nat}, compositesNamed table = true → ∀ {x y c : Nat},
    composite? table x y = some c → NamePoint c
  | a :: b :: c :: rest, h, x, y, m, hm => by
    rw [compositesNamed, Bool.and_eq_true] at h
    rw [composite?] at hm
    split at hm
    · cases hm
      exact h.1
    · exact namePoint_of_composite? h.2 hm
  | [], _, _, _, _, hm => by cases hm
  | [_], _, _, _, _, hm => by cases hm
  | [_, _], _, _, _, _, hm => by cases hm

/-! ## Decomposing, reordering, composing -/

theorem namePoint_of_decomposeHangul? {n : Nat} {ds : List Nat} (h : decomposeHangul? n = some ds) : ∀ d ∈ ds, NamePoint d := by
  unfold decomposeHangul? at h
  split at h
  · cases h
    intro d hd
    have hjamo : 0x1100 ≤ d ∧ d ≤ 0x11ff := by
      simp only [List.cons_append, List.nil_append, List.mem_cons] at hd
      rcases hd with rfl | rfl | hd
      · omega
      · omega
      · split at hd
        · cases hd
        · rw [List.mem_singleton.1 hd]
          omega
    exact namePoint_iff.2 (by omega)
  · cases h

theorem namePoint_decompose {n : Nat} (h : NamePoint n) : ∀ d ∈ decompose n, NamePoint d := by
  have hself : ∀ d ∈ [n], NamePoint d := fun d hd => (List.mem_singleton.1 hd) ▸ h
  unfold decompose
  split
  · exact hself
  · split
    · rename_i hds
      exact namePoint_of_decomposeHangul? hds
    · split
      · rename_i m hm
        intro d hd
        rw [List.mem_singleton.1 hd]
        exact namePoint_of_singleImage? namedTables.1 hm
      · cases hlong : longImage? longDecompositions.length longDecompositions n with
        | none => exact hself
        | some ds => exact namePoint_of_longImage? namedTables.2.1 hlong

theorem mem_insertMark {k n : Nat} {p : Nat × Nat} : ∀ {acc : List (Nat × Nat)}, p ∈ insertMark k n acc → p = (k, n) ∨ p ∈ acc
  | [], h => .inl (List.mem_singleton.1 h)
  | (k', n') :: rest, h => by
    rw [insertMark] at h
    split at h
    · rcases List.mem_cons.1 h with rfl | h
      · exact .inr List.mem_cons_self
      · exact (mem_insertMark h).imp id (List.mem_cons_of_mem _)
    · exact List.mem_cons.1 h

theorem mem_reorder {ns : List Nat} {p : Nat × Nat} (h : p ∈ reorder ns) : p.2 ∈ ns := by
  have hfold : ∀ (ns : List Nat) (acc : List (Nat × Nat)), p ∈ ns.foldl (fun acc n =>
      let k := combiningClass n
      if k = 0 then (0, n) :: acc else insertMark k n acc) acc → p.2 ∈ ns ∨ p ∈ acc := by
    intro ns
    induction ns with
    | nil => exact fun acc h => .inr h
    | cons n ns ih =>
      intro acc h
      rw [List.foldl_cons] at h
      rcases ih _ h with hmem | hmem
      · exact .inl (List.mem_cons_of_mem _ hmem)
      · dsimp only at hmem
        have hstep : p.2 = n ∨ p ∈ acc := by
          split at hmem
          · exact (List.mem_cons.1 hmem).imp (fun h => by rw [h]) id
          · exact (mem_insertMark hmem).imp (fun h => by rw [h]) id
        rcases hstep with rfl | hmem
        · exact .inl List.mem_cons_self
        · exact .inr hmem
  unfold reorder at h
  rcases hfold ns [] (List.mem_reverse.1 h) with hmem | hmem
  · exact hmem
  · cases hmem

theorem namePoint_of_compose? {a b c : Nat} (h : compose? a b = some c) : NamePoint c := by
  unfold compose? at h
  cases hhangul : composeHangul? a b with
  | some d =>
    rw [hhangul] at h
    obtain rfl : d = c := Option.some.inj h
    unfold composeHangul? at hhangul
    split at hhangul
    · have hd := Option.some.inj hhangul
      exact namePoint_iff.2 (by omega)
    · split at hhangul
      · have hd := Option.some.inj hhangul
        exact namePoint_iff.2 (by omega)
      · cases hhangul
  | none =>
    rw [hhangul] at h
    exact namePoint_of_composite? namedTables.2.2 h

namespace Composing

def Named (s : Composing) : Prop := ∀ n ∈ s.flush, NamePoint n

theorem named_push {s : Composing} (hs : s.Named) (k : Nat) {n : Nat} (hn : NamePoint n) : (s.push k n).Named := by
  have hmarks : ∀ m ∈ s.marks, NamePoint m := fun m hm => hs m (by simp [flush, hm])
  have hdone : ∀ m ∈ s.done, NamePoint m := fun m hm => hs m (by simp [flush, hm])
  unfold push
  dsimp only
  split
  · -- the character joins the starter
    rename_i c hc
    have hcomposed : NamePoint c := by
      split at hc
      · obtain ⟨a, -, hac⟩ := Option.bind_eq_some_iff.1 hc
        exact namePoint_of_compose? hac
      · cases hc
    intro m hm
    simp only [flush, List.append_assoc, List.mem_append, Option.mem_toList, Option.some.injEq] at hm
    rcases hm with hm | rfl | hm
    · exact hmarks m hm
    · exact hcomposed
    · exact hdone m hm
  · split
    · intro m hm
      have hm : m = n ∨ m ∈ s.flush := by simpa [flush, eq_comm] using hm
      rcases hm with rfl | hm
      · exact hn
      · exact hs m hm
    · intro m hm
      have hm : m = n ∨ m ∈ s.flush := by simpa [flush] using hm
      rcases hm with rfl | hm
      · exact hn
      · exact hs m hm

theorem named_foldl : ∀ {ps : List (Nat × Nat)} {s : Composing}, s.Named → (∀ p ∈ ps, NamePoint p.2) →
    (ps.foldl (fun s p => s.push p.1 p.2) s).Named
  | [], _, hs, _ => hs
  | p :: ps, s, hs, hps => by
    have hpush := named_push hs p.1 (hps p List.mem_cons_self)
    rw [List.foldl_cons]
    exact named_foldl hpush fun q hq => hps q (List.mem_cons_of_mem _ hq)

end Composing

/-- **What goes on with a name still does in its compatibility form.** -/
theorem mayContinueName_compatibilityForm {cs : List Char} (h : ∀ c ∈ cs, mayContinueName c = true) :
    ∀ c ∈ compatibilityForm cs, mayContinueName c = true := by
  unfold compatibilityForm
  split
  · exact h
  · intro c hc
    dsimp only at hc
    obtain ⟨n, hn, rfl⟩ := List.mem_map.1 hc
    have hstart : ({} : Composing).Named := fun m hm => by cases hm
    refine mayContinueName_ofNat (Composing.named_foldl hstart (fun p hp => ?_) n (List.mem_reverse.1 hn))
    obtain ⟨d, hd, hp⟩ := List.mem_flatMap.1 (mem_reorder hp)
    exact namePoint_decompose (mayContinueName_iff.1 (h d hd)) _ hp

end DocReview.Text
