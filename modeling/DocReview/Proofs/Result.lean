import Mathlib.Data.List.Forall2
/-!
# Result — computations that may fail

A chain of computations that may fail gives a result exactly when each of its links does (`bind_eq_ok_iff`), and a list
of them when each element does (`mapM_eq_ok_iff`, `exists_mapM`, `filterM_eq_ok_filter`); of two such lists one can follow
the other (`mapM_follows`), and a loop can be cut into what it computes and what it does with it (`foldlM_eq_bind`).  Whether
there is a result that passes a test can be computed (`any_toOption_iff`).
-/
namespace DocReview
namespace Result

variable {ε α β : Type}

theorem bind_eq_ok_iff {x : Except ε α} {f : α → Except ε β} {b : β} :
    x >>= f = .ok b ↔ ∃ a, x = .ok a ∧ f a = .ok b := by
  cases x with
  | error e => simp [bind, Except.bind]
  | ok a => simp [bind, Except.bind]

theorem exists_bind {x : Except ε α} {f : α → Except ε β} {a : α} (hx : x = .ok a) (hf : ∃ b, f a = .ok b) :
    ∃ b, x >>= f = .ok b := hf.imp fun _ hb => bind_eq_ok_iff.2 ⟨a, hx, hb⟩

theorem toOption_eq_some_iff {x : Except ε α} {a : α} : x.toOption = some a ↔ x = .ok a := by
  cases x <;> simp [Except.toOption]

theorem any_toOption_iff {x : Except ε α} {p : α → Bool} : x.toOption.any p = true ↔ ∃ a, x = .ok a ∧ p a = true := by
  cases x <;> simp [Except.toOption]

theorem mapM_eq_ok_iff {f : α → Except ε β} : ∀ {l : List α} {r : List β},
    l.mapM f = .ok r ↔ List.Forall₂ (fun a b => f a = .ok b) l r
  | [], r => by
    cases r <;> simp [pure, Except.pure]
  | a :: l, r => by
    rw [List.mapM_cons, bind_eq_ok_iff]
    constructor
    · rintro ⟨b, hb, h⟩
      obtain ⟨bs, hbs, h⟩ := bind_eq_ok_iff.1 h
      cases h
      exact .cons hb (mapM_eq_ok_iff.1 hbs)
    · rintro (_ | ⟨hb, hbs⟩)
      exact ⟨_, hb, bind_eq_ok_iff.2 ⟨_, mapM_eq_ok_iff.2 hbs, rfl⟩⟩

theorem mapM_eq_ok_map {f : α → Except ε β} {g : α → β} {l : List α} (h : ∀ a ∈ l, f a = .ok (g a)) :
    l.mapM f = .ok (l.map g) := by
  rw [mapM_eq_ok_iff, List.forall₂_map_right_iff, List.forall₂_same]
  exact h

theorem mapM_map_eq_ok {γ : Type} {value : γ → α} {f : α → Except ε β} {g : γ → β} {l : List γ}
    (h : ∀ c ∈ l, f (value c) = .ok (g c)) : (l.map value).mapM f = .ok (l.map g) := by
  rw [List.mapM_map]
  exact mapM_eq_ok_map h

theorem exists_of_mem_mapM {f : α → Except ε β} {l : List α} {r : List β} (h : l.mapM f = .ok r) {b : β} (hb : b ∈ r) :
    ∃ a ∈ l, f a = .ok b := by
  rw [mapM_eq_ok_iff] at h
  induction h with
  | nil => cases hb
  | cons hab _ ih =>
    rcases List.mem_cons.1 hb with rfl | hb
    · exact ⟨_, List.mem_cons_self, hab⟩
    · obtain ⟨a, ha, hfa⟩ := ih hb
      exact ⟨a, List.mem_cons_of_mem _ ha, hfa⟩

theorem mem_of_mapM {f : α → Except ε β} {l : List α} {r : List β} (h : l.mapM f = .ok r) {a : α} (ha : a ∈ l) {b : β}
    (hb : f a = .ok b) : b ∈ r := by
  rw [mapM_eq_ok_iff] at h
  induction h with
  | nil => cases ha
  | cons hab _ ih =>
    rcases List.mem_cons.1 ha with rfl | ha
    · rw [hb, Except.ok.injEq] at hab
      exact hab ▸ List.mem_cons_self
    · exact List.mem_cons_of_mem _ (ih ha)

/-- Where a second computation follows the first on each element, it does so on the list. -/
theorem mapM_follows {γ : Type} {f : α → Except ε β} {g : α → Except ε γ} {k : β → γ}
    (hstep : ∀ {a b}, f a = .ok b → g a = .ok (k b)) {l : List α} {r : List β} (h : l.mapM f = .ok r) :
    l.mapM g = .ok (r.map k) := by
  rw [mapM_eq_ok_iff] at h ⊢
  exact List.forall₂_map_right_iff.2 (h.imp fun _ _ => hstep)

theorem exists_mapM {f : α → Except ε β} {P : β → Prop} : ∀ {l : List α}, (∀ a ∈ l, ∃ b, f a = .ok b ∧ P b) →
    ∃ bs, l.mapM f = .ok bs ∧ ∀ b ∈ bs, P b
  | [], _ => ⟨[], rfl, fun _ h => by cases h⟩
  | a :: l, h => by
    obtain ⟨b, hb, hP⟩ := h a List.mem_cons_self
    obtain ⟨bs, hbs, hPs⟩ := exists_mapM fun x hx => h x (List.mem_cons_of_mem _ hx)
    refine ⟨b :: bs, ?_, fun x hx => ?_⟩
    · rw [List.mapM_cons]
      exact bind_eq_ok_iff.2 ⟨b, hb, bind_eq_ok_iff.2 ⟨bs, hbs, rfl⟩⟩
    · rcases List.mem_cons.1 hx with rfl | hx
      · exact hP
      · exact hPs x hx

theorem exists_mapM_ok {f : α → Except ε β} {l : List α} (h : ∀ a ∈ l, ∃ b, f a = .ok b) : ∃ bs, l.mapM f = .ok bs := by
  have htrivial : ∀ a ∈ l, ∃ b, f a = .ok b ∧ True := fun a ha => (h a ha).imp fun _ hb => ⟨hb, trivial⟩
  obtain ⟨bs, hbs, -⟩ := exists_mapM htrivial
  exact ⟨bs, hbs⟩

/-- A loop whose steps each compute something and take it in is the computation of all of it, taken in one after the
other. -/
theorem foldlM_eq_bind {σ : Type} {f : α → Except ε β} {step : σ → α → Except ε σ} {g : σ → β → σ}
    (hstep : ∀ s a, step s a = f a >>= fun b => pure (g s b)) : ∀ (l : List α) (s : σ),
      l.foldlM step s = l.mapM f >>= fun bs => pure (bs.foldl g s)
  | [], _ => rfl
  | a :: l, s => by
    have ih : ∀ s, l.foldlM step s = l.mapM f >>= fun bs => pure (bs.foldl g s) := foldlM_eq_bind hstep l
    simp only [List.foldlM_cons, List.mapM_cons, List.foldl_cons, hstep, ih, bind_assoc, pure_bind]

theorem filterAuxM_eq_ok {test : α → Except ε Bool} {p : α → Bool} : ∀ {l acc : List α}, (∀ a ∈ l, test a = .ok (p a)) →
    l.filterAuxM test acc = .ok ((l.filter p).reverse ++ acc)
  | [], _, _ => rfl
  | a :: l, acc, h => by
    have ih : ∀ acc, l.filterAuxM test acc = .ok ((l.filter p).reverse ++ acc) := fun acc =>
      filterAuxM_eq_ok fun b hb => h b (List.mem_cons_of_mem a hb)
    refine bind_eq_ok_iff.2 ⟨_, h a List.mem_cons_self, ?_⟩
    cases hp : p a with
    | false => rw [cond_false, ih, List.filter_cons_of_neg (by simp [hp])]
    | true => rw [cond_true, ih, List.filter_cons_of_pos hp, List.reverse_cons, List.append_assoc, List.singleton_append]

theorem filterM_eq_ok_filter {test : α → Except ε Bool} {p : α → Bool} {l : List α} (h : ∀ a ∈ l, test a = .ok (p a)) :
    l.filterM test = .ok (l.filter p) := by
  refine bind_eq_ok_iff.2 ⟨_, filterAuxM_eq_ok h, ?_⟩
  rw [List.append_nil, List.reverse_reverse]
  rfl

end Result
end DocReview
