import DocReview.Proofs.Result
import DocReview.Value.Access
/-!
# Value — the fields of mappings and the texts of lists

A field that is set is found again and no other changes; a list of texts can be joined, and what comes of it is the texts
with the separator between them.
-/
namespace DocReview
namespace Value

/-! ## Fields -/

theorem lookup?_insert_self (key : String) (v : Value) : ∀ (fields : List (String × Value)),
    lookup? key (insert key v fields) = some v
  | [] => by simp [insert, lookup?]
  | (k, w) :: rest => by
    rw [insert]
    by_cases hk : k = key
    · rw [if_pos hk, lookup?, if_pos hk]
    · rw [if_neg hk, lookup?, if_neg hk, lookup?_insert_self key v rest]

theorem lookup?_insert_of_ne {key other : String} (v : Value) (h : other ≠ key) : ∀ (fields : List (String × Value)),
    lookup? other (insert key v fields) = lookup? other fields
  | [] => by simp [insert, lookup?, Ne.symm h]
  | (k, w) :: rest => by
    rw [insert]
    by_cases hk : k = key
    · rw [if_pos hk, lookup?, lookup?, if_neg (hk ▸ Ne.symm h), if_neg (hk ▸ Ne.symm h)]
    · rw [if_neg hk, lookup?, lookup?, lookup?_insert_of_ne v h rest]

theorem mem_of_lookup? {key : String} {v : Value} : ∀ {fields : List (String × Value)}, lookup? key fields = some v →
    (key, v) ∈ fields
  | [], h => by cases h
  | (k, w) :: rest, h => by
    rw [lookup?] at h
    by_cases hk : k = key
    · rw [if_pos hk] at h
      cases h
      rw [hk]
      exact List.mem_cons_self
    · rw [if_neg hk] at h
      exact List.mem_cons_of_mem _ (mem_of_lookup? h)

theorem mem_of_field {fields : List (String × Value)} {key : String} {v : Value} (h : (Value.dict fields).field key = .ok v) :
    (key, v) ∈ fields := by
  unfold field at h
  dsimp only at h
  split at h
  · rename_i found hfound
    cases h
    exact mem_of_lookup? hfound
  · cases h

theorem get_of_field {v found missing : Value} {key : String} (h : v.field key = .ok found) :
    v.get key missing = .ok found := by
  cases v with
  | dict fields =>
    unfold field at h
    unfold get
    dsimp only at h ⊢
    cases hl : lookup? key fields with
    | none => rw [hl] at h; cases h
    | some w =>
      rw [hl] at h
      exact h
  | _ => cases h

theorem exists_get {v : Value} (h : v.kind = .dict) (key : String) (missing : Value := .none) :
    ∃ found, v.get key missing = .ok found := by
  cases v with
  | dict fields => exact ⟨_, rfl⟩
  | _ => cases h

theorem kind_of_get {v missing found : Value} {key : String} (h : v.get key missing = .ok found) : v.kind = .dict := by
  cases v with
  | dict fields => rfl
  | _ => cases h

def fieldKind? (v : Value) (key : String) : Option Kind := (v.field key).toOption.map kind

theorem fieldKind?_eq_some_iff {v : Value} {key : String} {k : Kind} :
    v.fieldKind? key = some k ↔ ∃ found, v.field key = .ok found ∧ found.kind = k := by
  simp only [fieldKind?, Option.map_eq_some_iff, Result.toOption_eq_some_iff]

theorem fieldKind?_str_iff {v : Value} {key : String} :
    v.fieldKind? key = some .str ↔ ∃ s, v.field key = .ok (.str s) := by
  rw [fieldKind?_eq_some_iff]
  constructor
  · rintro ⟨found, hfound, hkind⟩
    cases found <;> cases hkind
    exact ⟨_, hfound⟩
  · rintro ⟨s, hs⟩
    exact ⟨_, hs, rfl⟩

theorem fieldKind?_dict_iff {v : Value} {key : String} :
    v.fieldKind? key = some .dict ↔ ∃ fields, v.field key = .ok (.dict fields) := by
  rw [fieldKind?_eq_some_iff]
  constructor
  · rintro ⟨found, hfound, hkind⟩
    cases found <;> cases hkind
    exact ⟨_, hfound⟩
  · rintro ⟨fields, hfields⟩
    exact ⟨_, hfields, rfl⟩

/-! ## Elements -/

theorem size_of_elements {v : Value} {vs : List Value} (h : v.elements = .ok vs) : v.size = .ok vs.length := by
  unfold elements at h
  unfold size
  cases hv : v.elements? with
  | none => rw [hv] at h; cases h
  | some ws =>
    rw [hv] at h
    cases h
    rfl

/-! ## Texts -/

theorem itemTexts_strings : ∀ (i : Nat) (ss : List String), itemTexts i (ss.map .str) = .ok (ss.map String.toList)
  | _, [] => rfl
  | i, _ :: ss => Result.bind_eq_ok_iff.2 ⟨_, itemTexts_strings (i + 1) ss, rfl⟩

theorem joinElements_strings (separator : String) (ss : List String) : (strings ss).joinElements separator =
    .ok (String.ofList (Text.joinWith separator.toList (ss.map String.toList))) :=
  Result.bind_eq_ok_iff.2 ⟨_, itemTexts_strings 0 ss, rfl⟩

end Value
end DocReview
