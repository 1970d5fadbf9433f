import DocReview.Environment.Reference
/-!
# Spelling — the parts of a value, written back

A value is cut into literal texts and references; written one after the other as they stood (`Atom.spelling`), they are
the value (`spelling_atoms`).  So a value with its references replaced has no characters but its own and those of the
variables that it refers to (`mem_resolve`).
-/
namespace DocReview
namespace Environment

def Atom.spelling : Atom → List Char
  | .literal text => text
  | .variable name none => '$' :: '{' :: name ++ ['}']
  | .variable name (some default) => '$' :: '{' :: name ++ ':' :: '-' :: default ++ ['}']

theorem spelling_readReference {cs rest : List Char} {a : Atom} (h : readReference? cs = some (a, rest)) :
    a.spelling ++ rest = '$' :: '{' :: cs := by
  have hname := List.takeWhile_append_dropWhile (p := fun c => c ≠ '}' && c ≠ ':') (l := cs)
  unfold readReference? at h
  dsimp only at h
  split at h
  · rename_i after hdrop
    cases h
    rw [hdrop] at hname
    simp only [Atom.spelling, List.cons_append, List.append_assoc, List.nil_append]
    rw [hname]
  · rename_i after hdrop
    rw [hdrop] at hname
    split at h
    · rename_i c behind hclose
      cases h
      have hdefault := List.takeWhile_append_dropWhile (p := (· ≠ '}')) (l := after)
      have hbrace : c = '}' := by
        have hhead := List.head?_dropWhile_not (· ≠ '}') after
        rw [hclose] at hhead
        simpa using hhead
      rw [hclose, hbrace] at hdefault
      simp only [Atom.spelling, List.cons_append, List.append_assoc, List.nil_append]
      rw [hdefault, hname]
    · cases h
  · cases h

theorem spelling_atomsFrom : ∀ (bound : Nat) (before cs : List Char),
    (atomsFrom bound before cs).flatMap Atom.spelling = before.reverse ++ cs
  | 0, before, cs => by
    rw [atomsFrom]
    split
    · rename_i h
      rw [Bool.and_eq_true, List.isEmpty_iff, List.isEmpty_iff] at h
      rw [h.1, h.2]
      rfl
    · exact List.flatMap_singleton _ _
  | bound + 1, before, cs => by
    have hflushed : (if before.isEmpty then [] else [Atom.literal before.reverse]).flatMap Atom.spelling = before.reverse := by
      cases before with
      | nil => rfl
      | cons c before => exact List.flatMap_singleton _ _
    unfold atomsFrom
    dsimp only
    split
    · rw [hflushed, List.append_nil]
    · rename_i rest
      split
      · rename_i a after ha
        rw [List.flatMap_append, hflushed, List.flatMap_cons, spelling_atomsFrom bound [] after]
        rw [List.reverse_nil, List.nil_append, spelling_readReference ha]
      · rw [spelling_atomsFrom bound]
        simp
    · rw [spelling_atomsFrom bound]
      simp

/-- **The parts of a value make up the value.** -/
theorem spelling_atoms (value : List Char) : (atoms value).flatMap Atom.spelling = value :=
  spelling_atomsFrom (value.length + 1) [] value

theorem mem_resolve_atom {lookup : String → Option (Option String)} {c : Char} : ∀ {a : Atom}, c ∈ a.resolve lookup →
    c ∈ a.spelling ∨ ∃ name value, lookup name = some (some value) ∧ c ∈ value.toList
  | .literal text, h => Or.inl h
  | .variable name default, h => by
    rw [Atom.resolve] at h
    split at h
    · rename_i value hvalue
      exact Or.inr ⟨_, value, hvalue, h⟩
    · cases h
    · cases default with
      | none => cases h
      | some default =>
        have hdefault : c ∈ default := h
        exact Or.inl (by simp [Atom.spelling, hdefault])

/-- **A value with its references replaced** has no characters but its own and those of the variables it refers to. -/
theorem mem_resolve {lookup : String → Option (Option String)} {value : String} {c : Char}
    (h : c ∈ (resolve lookup value).toList) :
    c ∈ value.toList ∨ ∃ name other, lookup name = some (some other) ∧ c ∈ other.toList := by
  rw [resolve, String.toList_ofList, List.mem_flatMap] at h
  obtain ⟨a, ha, hc⟩ := h
  rcases mem_resolve_atom hc with hspelled | hreferred
  · rw [← spelling_atoms value.toList]
    exact Or.inl (List.mem_flatMap.2 ⟨a, ha, hspelled⟩)
  · exact Or.inr hreferred

end Environment
end DocReview
