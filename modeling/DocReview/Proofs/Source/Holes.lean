import DocReview.Source.Literal
/-!
# Holes — the expressions inside a formatted string are shorter than it

A formatted string is cut into texts and holes, which may have formats with holes again.  The source of every hole is
shorter than the string it stands in (`formattedPieces_fits`), which bounds how deep strings can stand in each other.
-/
namespace DocReview.Source

/-- The sources of the holes in a piece are shorter than the given length. -/
inductive Piece.Fits (m : Nat) : Piece → Prop where
  | text (points : List Nat) : Fits m (.text points)
  | hole {source echo : List Char} {conversion : Option Conversion} {hasFormat : Bool} {format : List Piece}
      (hs : source.length < m) (hf : ∀ p ∈ format, Fits m p) : Fits m (.hole source echo conversion hasFormat format)

theorem Piece.Fits.mono {m k : Nat} (hk : m ≤ k) {p : Piece} (h : p.Fits m) : p.Fits k := by
  induction h with
  | text points => exact .text points
  | hole hs _ ih => exact .hole (Nat.lt_of_lt_of_le hs hk) ih

theorem literalRun_length {top raw : Bool} : ∀ {mode : RunMode} {cs t r : List Char},
    literalRun top raw mode cs = some (t, r) → r.length ≤ cs.length
  | mode, [], t, r, h => by
    cases mode <;> cases h <;> exact Nat.le_refl _
  | mode, c :: cs, t, r, h => by
    have hkeep : ∀ next : RunMode, (literalRun top raw next cs).map (fun p => (c :: p.1, p.2)) = some (t, r) →
        r.length ≤ (c :: cs).length := by
      intro next h
      obtain ⟨⟨t', r'⟩, h', hr⟩ := Option.map_eq_some_iff.1 h
      cases hr
      exact Nat.le_succ_of_le (literalRun_length h')
    have hbrace : (if !top then some ([], c :: cs)
        else if cs.head? = some c then (literalRun top raw .drop cs).map (fun p => (c :: p.1, p.2))
        else if c = '}' then none
        else some ([], c :: cs)) = some (t, r) → r.length ≤ (c :: cs).length := by
      intro h
      split at h
      · cases h; exact Nat.le_refl _
      · split at h
        · exact hkeep .drop h
        · split at h
          · cases h
          · cases h; exact Nat.le_refl _
    unfold literalRun at h
    cases mode with
    | drop => exact Nat.le_succ_of_le (literalRun_length h)
    | named => exact hkeep _ h
    | name =>
      dsimp only at h
      split at h
      · exact hkeep _ h
      · exact hkeep _ h
    | escaped =>
      dsimp only at h
      split at h
      · exact hkeep _ h
      · split at h
        · exact hbrace h
        · exact hkeep _ h
    | plain =>
      dsimp only at h
      split at h
      · exact hkeep _ h
      · split at h
        · exact hbrace h
        · exact hkeep _ h

theorem holeSource_length : ∀ {s : HoleState} {cs source r : List Char}, holeSource s cs = some (source, r) →
    source.length + r.length ≤ cs.length
  | s, [], source, r, h => nomatch h
  | s, c :: cs, source, r, h => by
    have hkeep : ∀ next : HoleState, (holeSource next cs).map (fun p => (c :: p.1, p.2)) = some (source, r) →
        source.length + r.length ≤ (c :: cs).length := by
      intro next h
      obtain ⟨⟨t', r'⟩, h', hr⟩ := Option.map_eq_some_iff.1 h
      cases hr
      have := holeSource_length h'
      simp only [List.length_cons]
      omega
    unfold holeSource at h
    dsimp only at h
    split at h
    · exact hkeep _ h
    · split at h
      · exact hkeep _ h
      · split at h
        · cases h; exact Nat.le_of_eq (Nat.zero_add _)
        · split at h
          · exact hkeep _ h
          · cases h

/-- A reader of pieces goes forward and gives pieces that fit what it reads. -/
def FormatFits (format : List Char → Option (List Piece × List Char)) : Prop :=
  ∀ ⦃cs ps r⦄, format cs = some (ps, r) → r.length ≤ cs.length ∧ ∀ p ∈ ps, p.Fits cs.length

def HoleFits (hole : List Char → Option (Piece × List Char)) : Prop :=
  ∀ ⦃cs h r⦄, hole cs = some (h, r) → r.length ≤ cs.length ∧ h.Fits (cs.length + 1)

/-! ### The parts of a hole after its source -/

def holeEnd (source echo : List Char) (conversion : Option Conversion) (spec : Option (List Piece)) :
    List Char → Option (Piece × List Char)
  | '}' :: r =>
    let conversion := if !echo.isEmpty && spec.isNone && conversion.isNone then some Conversion.repr else conversion
    some (.hole source echo conversion spec.isSome (spec.getD []), r)
  | _ => none

def holeSpec (format : List Char → Option (List Piece × List Char)) (source echo : List Char)
    (conversion : Option Conversion) (r₃ : List Char) : Option (Piece × List Char) := do
  let (spec, r₄) ← match r₃ with
    | ':' :: r => (format r).map fun (ps, r') => (some ps, r')
    | r => some (none, r)
  holeEnd source echo conversion spec r₄

def holeConversion (format : List Char → Option (List Piece × List Char)) (source echo r₂ : List Char) :
    Option (Piece × List Char) := do
  let (conversion, r₃) ← match r₂ with
    | '!' :: k :: r => (conversion? k).map fun v => (some v, r)
    | '!' :: [] => none
    | r => some (none, r)
  holeSpec format source echo conversion r₃

/-- What follows the source of a hole. -/
def holeTail (format : List Char → Option (List Piece × List Char)) (source r₁ : List Char) :
    Option (Piece × List Char) := do
  let (echo, r₂) ← match r₁ with
    | '=' :: r =>
      let blanks := r.takeWhile isHoleBlank
      some (source ++ '=' :: blanks, r.drop blanks.length)
    | r => some ([], r)
  holeConversion format source echo r₂

theorem scanHole_eq (format : List Char → Option (List Piece × List Char)) (cs : List Char) :
    scanHole format cs = (holeSource {} cs).bind fun (source, r) =>
      if source.all fun c => c = ' ' || c = '\t' || c = '\n' || c = '\x0c' then none else holeTail format source r :=
  rfl

theorem holeEnd_fits {source echo r r' : List Char} {conversion : Option Conversion} {spec : Option (List Piece)}
    {p : Piece} {m : Nat} (h : holeEnd source echo conversion spec r = some (p, r')) (hs : source.length < m)
    (hf : ∀ q ∈ spec.getD [], q.Fits m) : r'.length ≤ r.length ∧ p.Fits m := by
  unfold holeEnd at h
  split at h
  · cases h; exact ⟨Nat.le_succ _, .hole hs hf⟩
  · cases h

section

variable {format : List Char → Option (List Piece × List Char)} (hformat : FormatFits format) {source : List Char} {p : Piece}
  {r r' : List Char} {m : Nat}

include hformat

theorem holeSpec_fits {echo : List Char} {conversion : Option Conversion}
    (h : holeSpec format source echo conversion r = some (p, r')) (hm : source.length + r.length < m) :
    r'.length ≤ r.length ∧ p.Fits m := by
  unfold holeSpec at h
  split at h
  · obtain ⟨⟨spec, r₁⟩, hspec, h⟩ := Option.bind_eq_some_iff.1 h
    obtain ⟨⟨ps, r₂⟩, hps, hv⟩ := Option.map_eq_some_iff.1 hspec
    cases hv
    obtain ⟨hle, hfits⟩ := hformat hps
    rw [List.length_cons] at hm ⊢
    obtain ⟨hr', hp⟩ := holeEnd_fits (m := m) h (by omega) fun q hq => (hfits q hq).mono (by omega)
    exact ⟨by omega, hp⟩
  · exact holeEnd_fits h (by omega) nofun

theorem holeConversion_fits {echo : List Char} (h : holeConversion format source echo r = some (p, r'))
    (hm : source.length + r.length < m) : r'.length ≤ r.length ∧ p.Fits m := by
  unfold holeConversion at h
  split at h
  · obtain ⟨⟨conversion, r₁⟩, hconv, h⟩ := Option.bind_eq_some_iff.1 h
    obtain ⟨v, -, hv⟩ := Option.map_eq_some_iff.1 hconv
    cases hv
    rw [List.length_cons, List.length_cons] at hm ⊢
    obtain ⟨hr', hp⟩ := holeSpec_fits hformat (m := m) h (by omega)
    exact ⟨by omega, hp⟩
  · cases h
  · exact holeSpec_fits hformat h hm

theorem holeTail_fits (h : holeTail format source r = some (p, r')) (hm : source.length + r.length < m) :
    r'.length ≤ r.length ∧ p.Fits m := by
  unfold holeTail at h
  split at h
  · rw [List.length_cons] at hm ⊢
    obtain ⟨hr', hp⟩ := holeConversion_fits hformat (m := m) h (by rw [List.length_drop]; omega)
    rw [List.length_drop] at hr'
    exact ⟨by omega, hp⟩
  · exact holeConversion_fits hformat h hm

theorem holeFits_scanHole : HoleFits (scanHole format) := by
  intro cs p r h
  rw [scanHole_eq] at h
  obtain ⟨⟨source, r₁⟩, h₁, h⟩ := Option.bind_eq_some_iff.1 h
  have hsource := holeSource_length h₁
  dsimp only at h
  split at h
  · cases h
  · obtain ⟨hr, hp⟩ := holeTail_fits hformat (m := cs.length + 1) h (by omega)
    exact ⟨by omega, hp⟩

end

theorem formatFits_scanPieces {top raw : Bool} {hole : List Char → Option (Piece × List Char)} (hhole : HoleFits hole) :
    ∀ bound : Nat, FormatFits (scanPieces top raw hole bound)
  | 0 => fun _ _ _ h => nomatch h
  | bound + 1 => by
    intro cs ps r h
    unfold scanPieces at h
    obtain ⟨⟨text, rest⟩, h₁, h⟩ := Option.bind_eq_some_iff.1 h
    have hrest := literalRun_length h₁
    obtain ⟨points, -, h⟩ := Option.bind_eq_some_iff.1 h
    have hhere : ∀ p ∈ (if points.isEmpty then [] else [Piece.text points]), p.Fits cs.length := by
      intro p hp
      split at hp
      · cases hp
      · rw [List.mem_singleton.1 hp]; exact .text points
    dsimp only at h
    split at h
    · next r₁ =>
      rw [List.length_cons] at hrest
      obtain ⟨⟨q, r₂⟩, h₂, h⟩ := Option.bind_eq_some_iff.1 h
      obtain ⟨⟨qs, r₃⟩, h₃, h⟩ := Option.bind_eq_some_iff.1 h
      cases h
      dsimp only at h₃ ⊢
      obtain ⟨hr₂, hq⟩ := hhole h₂
      obtain ⟨hr₃, hqs⟩ := formatFits_scanPieces hhole bound h₃
      refine ⟨by omega, fun p hp => ?_⟩
      rcases List.mem_append.1 hp with hp | hp
      · exact hhere p hp
      · rcases List.mem_cons.1 hp with rfl | hp
        · exact hq.mono hrest
        · exact (hqs p hp).mono (by omega)
    · cases h
      exact ⟨hrest, hhere⟩

theorem holeFits_none : HoleFits fun _ => none := by
  intro cs h r hn
  cases hn

theorem formatFits_scanFormat (raw : Bool) : ∀ depth : Nat, FormatFits (scanFormat raw depth)
  | 0 => fun _ _ _ h => formatFits_scanPieces holeFits_none _ h
  | depth + 1 => fun _ _ _ h => formatFits_scanPieces (holeFits_scanHole (formatFits_scanFormat raw depth)) _ h

/-- **The source of a hole is shorter than the string it stands in.** -/
theorem formattedPieces_fits {raw : Bool} {body : List Char} {ps : List Piece} (h : formattedPieces raw body = some ps) :
    ∀ p ∈ ps, p.Fits body.length := by
  unfold formattedPieces at h
  split at h
  · next h' =>
    cases h
    exact (formatFits_scanPieces (holeFits_scanHole (formatFits_scanFormat raw 1)) _ h').2
  · cases h

end DocReview.Source
