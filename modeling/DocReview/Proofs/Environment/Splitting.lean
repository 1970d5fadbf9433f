import Mathlib.Data.List.Chain
import Mathlib.Data.List.TakeWhile
import DocReview.Proofs.Environment.Loading
/-!
# Splitting — a value is cut at its references and nowhere else

A reference is read where one stands and only there (`readReference?_eq_some_iff`).  The scan of a value puts aside the
characters at which no reference starts (`Quiet`), and a literal text is what was put aside when a reference or the end comes
(`splits_atomsFrom`).  There is one such way to cut a value (`Splits.unique`).  Where no reference stands there is nothing to
replace (`resolve_of_not_refers`).
-/
namespace DocReview
namespace Environment

/-! ## References -/

/-- A reference that can be written: its name has no brace and no colon, its default no brace. -/
def Atom.IsReference : Atom → Prop
  | .literal _ => False
  | .variable name default => '}' ∉ name ∧ ':' ∉ name ∧ ∀ text ∈ default, '}' ∉ text

def Atom.isLiteral : Atom → Bool
  | .literal _ => true
  | .variable _ _ => false

theorem Atom.IsReference.isLiteral {a : Atom} (h : a.IsReference) : a.isLiteral = false := by
  rcases a with text | ⟨name, default⟩
  · cases h
  · rfl

theorem Atom.IsReference.spelling_eq {a : Atom} (h : a.IsReference) : ∃ cs, a.spelling = '$' :: '{' :: cs := by
  rcases a with _ | ⟨name, _ | default⟩
  · cases h
  · exact ⟨_, rfl⟩
  · exact ⟨_, rfl⟩

theorem isReference_of_readReference {cs rest : List Char} {a : Atom} (h : readReference? cs = some (a, rest)) :
    a.IsReference := by
  have hname : ∀ c ∈ cs.takeWhile (fun c => c ≠ '}' && c ≠ ':'), c ≠ '}' ∧ c ≠ ':' := fun c hc => by
    simpa using List.mem_takeWhile_imp hc
  have hbrace := fun hc => (hname '}' hc).1 rfl
  have hcolon := fun hc => (hname ':' hc).2 rfl
  unfold readReference? at h
  dsimp only at h
  split at h
  · cases h
    exact ⟨hbrace, hcolon, nofun⟩
  · split at h
    · cases h
      refine ⟨hbrace, hcolon, fun text htext hc => ?_⟩
      cases htext
      simpa using List.mem_takeWhile_imp hc
    · cases h
  · cases h

theorem readReference?_spelling {cs rest : List Char} : ∀ {a : Atom}, a.IsReference →
    a.spelling ++ rest = '$' :: '{' :: cs → readReference? cs = some (a, rest)
  | .literal _, ha, _ => by cases ha
  | .variable name default, ⟨hbrace, hcolon, hdefault⟩, h => by
    have hname : ∀ c ∈ name, (c ≠ '}' && c ≠ ':') = true := by
      intro c hc
      have hb : c ≠ '}' := fun heq => hbrace (heq ▸ hc)
      have hk : c ≠ ':' := fun heq => hcolon (heq ▸ hc)
      simp [hb, hk]
    cases default with
    | none =>
      simp only [Atom.spelling, List.cons_append, List.append_assoc, List.nil_append, List.cons.injEq, true_and] at h
      rw [readReference?, ← h, List.takeWhile_append_of_pos hname, List.dropWhile_append_of_pos hname,
        List.takeWhile_cons_of_neg (by decide), List.dropWhile_cons_of_neg (by decide), List.append_nil]
      rfl
    | some text =>
      have htext : ∀ c ∈ text, decide (c ≠ '}') = true := by
        intro c hc
        have hb : c ≠ '}' := fun heq => hdefault text rfl (heq ▸ hc)
        simp [hb]
      simp only [Atom.spelling, List.cons_append, List.append_assoc, List.nil_append, List.cons.injEq, true_and] at h
      rw [readReference?, ← h, List.takeWhile_append_of_pos hname, List.dropWhile_append_of_pos hname,
        List.takeWhile_cons_of_neg (by decide), List.dropWhile_cons_of_neg (by decide), List.append_nil]
      have hdrop : (text ++ '}' :: rest).dropWhile (· ≠ '}') = '}' :: rest := by
        rw [List.dropWhile_append_of_pos htext, List.dropWhile_cons_of_neg (by decide)]
      simp only [hdrop]
      rw [List.takeWhile_append_of_pos htext, List.takeWhile_cons_of_neg (by decide), List.append_nil]

/-- **A reference is read exactly where one stands**, and what is left is what stands behind it. -/
theorem readReference?_eq_some_iff {cs rest : List Char} {a : Atom} :
    readReference? cs = some (a, rest) ↔ a.IsReference ∧ a.spelling ++ rest = '$' :: '{' :: cs :=
  ⟨fun h => ⟨isReference_of_readReference h, spelling_readReference h⟩, fun h => readReference?_spelling h.1 h.2⟩

theorem Atom.IsReference.eq_of_append {a b : Atom} {cs ds : List Char} (ha : a.IsReference) (hb : b.IsReference)
    (h : a.spelling ++ cs = b.spelling ++ ds) : a = b ∧ cs = ds := by
  obtain ⟨text, htext⟩ := ha.spelling_eq
  rw [htext, List.cons_append, List.cons_append] at h
  have hread := readReference?_spelling hb h.symm
  have hown : readReference? (text ++ cs) = some (a, cs) := readReference?_spelling ha (by rw [htext]; rfl)
  rw [hown, Option.some.injEq, Prod.mk.injEq] at hread
  exact hread

/-! ## Where references stand -/

def StartsReference (cs : List Char) : Prop := ∃ a rest, Atom.IsReference a ∧ a.spelling ++ rest = cs

/-- A reference stands somewhere in a text. -/
def Refers (cs : List Char) : Prop := ∃ a, Atom.IsReference a ∧ a.spelling <:+: cs

/-- No reference starts in a text, if `after` follows it. -/
def Quiet (text after : List Char) : Prop := ∀ start, start <:+ text → start ≠ [] → ¬ StartsReference (start ++ after)

theorem startsReference_iff {cs : List Char} : StartsReference ('$' :: '{' :: cs) ↔ (readReference? cs).isSome := by
  constructor
  · rintro ⟨a, rest, ha, h⟩
    rw [readReference?_spelling ha h]
    rfl
  · intro h
    obtain ⟨⟨a, rest⟩, hread⟩ := Option.isSome_iff_exists.1 h
    obtain ⟨ha, hspelled⟩ := readReference?_eq_some_iff.1 hread
    exact ⟨a, rest, ha, hspelled⟩

theorem quiet_nil (after : List Char) : Quiet [] after := fun _ hstart hne => absurd (List.suffix_nil.1 hstart) hne

theorem Quiet.concat {text after : List Char} {c : Char} (h : Quiet text (c :: after))
    (hc : ¬ StartsReference (c :: after)) : Quiet (text ++ [c]) after := by
  intro start hstart hne
  rcases List.suffix_concat_iff.1 hstart with rfl | ⟨front, rfl, hfront⟩
  · exact absurd rfl hne
  · rw [List.append_assoc, List.singleton_append]
    by_cases hnil : front = []
    · rwa [hnil]
    · exact h front hfront hnil

theorem Quiet.not_startsReference {text after : List Char} (h : Quiet text after) (hne : text ≠ []) :
    ¬ StartsReference (text ++ after) := h text List.suffix_rfl hne

theorem Quiet.not_refers {text after : List Char} (h : Quiet text after) : ¬ Refers text := by
  rintro ⟨a, ha, front, back, rfl⟩
  obtain ⟨cs, hcs⟩ := ha.spelling_eq
  refine h (a.spelling ++ back) ⟨front, by rw [List.append_assoc]⟩ (by simp [hcs]) ⟨a, back ++ after, ha, ?_⟩
  rw [List.append_assoc]

/-! ## The parts of a value -/

/-- How a value is cut into parts: written one after the other they are the value; literal texts are not empty and stand
apart; the other parts are references; and a reference starts in no literal text, so that each part starts where it can
first start. -/
structure Splits (value : List Char) (parts : List Atom) : Prop where
  spelled : parts.flatMap Atom.spelling = value
  filled : .literal [] ∉ parts
  apart : parts.IsChain fun a b => a.isLiteral = true → b.isLiteral = false
  references : ∀ a ∈ parts, a.isLiteral = false → a.IsReference
  leftmost : ∀ before text after, parts = before ++ .literal text :: after → Quiet text (after.flatMap Atom.spelling)

namespace Splits

variable {value text : List Char} {parts : List Atom} {a : Atom}

theorem nil : Splits [] [] where
  spelled := rfl
  filled := nofun
  apart := .nil
  references := nofun
  leftmost before _ _ h := by simp at h

theorem cons (h : Splits value parts) (hfilled : a ≠ .literal [])
    (hapart : ∀ b ∈ parts.head?, a.isLiteral = true → b.isLiteral = false) (href : a.isLiteral = false → a.IsReference)
    (hquiet : ∀ text, a = .literal text → Quiet text value) : Splits (a.spelling ++ value) (a :: parts) where
  spelled := by rw [List.flatMap_cons, h.spelled]
  filled hmem := by
    rcases List.mem_cons.1 hmem with heq | hmem
    · exact hfilled heq.symm
    · exact h.filled hmem
  apart := List.isChain_cons.2 ⟨hapart, h.apart⟩
  references b hb hliteral := by
    rcases List.mem_cons.1 hb with rfl | hb
    · exact href hliteral
    · exact h.references b hb hliteral
  leftmost before text after heq := by
    rcases List.cons_eq_append_iff.1 heq with ⟨-, hhead⟩ | ⟨before', -, hrest⟩
    · cases hhead
      rw [h.spelled]
      exact hquiet text rfl
    · exact h.leftmost before' text after hrest

theorem cons_reference (h : Splits value parts) (ha : a.IsReference) : Splits (a.spelling ++ value) (a :: parts) := by
  have hliteral : ∀ text, a ≠ .literal text := by
    rintro text rfl
    exact ha
  exact h.cons (hliteral []) (by simp [ha.isLiteral]) (fun _ => ha) fun text heq => absurd heq (hliteral text)

theorem cons_literal (h : Splits value parts) (hne : text ≠ []) (hquiet : Quiet text value)
    (hfirst : ∀ a ∈ parts.head?, a.isLiteral = false) : Splits (text ++ value) (.literal text :: parts) := by
  refine h.cons (a := .literal text) (by simpa using hne) (fun b hb _ => hfirst b hb) nofun ?_
  rintro _ ⟨rfl⟩
  exact hquiet

theorem flushed (h : Splits value parts) {before : List Char} (hquiet : Quiet before.reverse value)
    (hfirst : ∀ a ∈ parts.head?, a.isLiteral = false) :
    Splits (before.reverse ++ value) ((if before.isEmpty then [] else [Atom.literal before.reverse]) ++ parts) := by
  cases before with
  | nil => exact h
  | cons c before => exact h.cons_literal (by simp) hquiet hfirst

end Splits

/-- **The scan cuts a value**, from wherever it is: no reference starts in what it has put aside. -/
theorem splits_atomsFrom {bound : Nat} (before : List Char) {cs : List Char} (hbound : cs.length < bound)
    (hquiet : Quiet before.reverse cs) : Splits (before.reverse ++ cs) (atomsFrom bound before cs) := by
  induction bound generalizing before cs with
  | zero => exact absurd hbound (Nat.not_lt_zero _)
  | succ bound ih =>
    have hput : ∀ {c : Char} {rest : List Char}, cs = c :: rest → ¬ StartsReference (c :: rest) →
        Splits (before.reverse ++ cs) (atomsFrom bound (c :: before) rest) := by
      rintro c rest rfl hstart
      have hnext : Quiet (c :: before).reverse rest := by
        rw [List.reverse_cons]
        exact hquiet.concat hstart
      have hrest := ih (c :: before) (Nat.lt_of_succ_lt_succ hbound) hnext
      rwa [List.reverse_cons, List.append_assoc, List.singleton_append] at hrest
    unfold atomsFrom
    dsimp only
    split
    · have h := Splits.nil.flushed hquiet (by simp)
      rw [List.append_nil, List.append_nil] at h
      rwa [List.append_nil]
    · rename_i rest
      split
      · rename_i a after hread
        obtain ⟨ha, hspelled⟩ := readReference?_eq_some_iff.1 hread
        obtain ⟨text, htext⟩ := ha.spelling_eq
        have hlength := congrArg List.length hspelled
        simp only [htext, List.length_append, List.length_cons] at hlength hbound
        have hafter : Splits after (atomsFrom bound [] after) := ih [] (by omega) (quiet_nil after)
        rw [← hspelled] at hquiet ⊢
        refine (hafter.cons_reference ha).flushed hquiet fun b hb => ?_
        cases hb
        exact ha.isLiteral
      · rename_i hread
        exact hput rfl (by simp [startsReference_iff, hread])
    · rename_i c rest hother
      refine hput rfl ?_
      -- a reference starts with two signs that are not both here
      rintro ⟨a, back, ha, hspelled⟩
      obtain ⟨text, htext⟩ := ha.spelling_eq
      rw [htext, List.cons_append, List.cons_append, List.cons.injEq] at hspelled
      exact hother _ hspelled.1.symm hspelled.2.symm

theorem splits_atoms (value : List Char) : Splits value (atoms value) :=
  splits_atomsFrom [] (Nat.lt_succ_self _) (quiet_nil value)

namespace Splits

variable {value text text' : List Char} {parts parts' : List Atom} {a : Atom}

theorem tail (h : Splits value (a :: parts)) : Splits (parts.flatMap Atom.spelling) parts where
  spelled := rfl
  filled hmem := h.filled (List.mem_cons_of_mem a hmem)
  apart := (List.isChain_cons.1 h.apart).2
  references b hb := h.references b (List.mem_cons_of_mem a hb)
  leftmost before text after heq := h.leftmost (a :: before) text after (by rw [heq, List.cons_append])

theorem ne_nil (h : Splits value (.literal text :: parts)) : text ≠ [] := by
  rintro rfl
  exact h.filled List.mem_cons_self

theorem after_literal (h : Splits value (.literal text :: parts)) :
    parts.flatMap Atom.spelling = [] ∨ StartsReference (parts.flatMap Atom.spelling) := by
  cases parts with
  | nil => exact .inl rfl
  | cons b parts =>
    have hb := (List.isChain_cons.1 h.apart).1 b rfl rfl
    exact .inr ⟨b, _, h.references b (by simp) hb, rfl⟩

theorem literal_ends (h : Splits value (.literal text :: parts)) (h' : Splits value (.literal text' :: parts'))
    {more : List Char} (htext : text' = text ++ more)
    (hparts : parts.flatMap Atom.spelling = more ++ parts'.flatMap Atom.spelling) : more = [] := by
  rcases h.after_literal with hnil | hstart
  · rw [hnil] at hparts
    exact (List.append_eq_nil_iff.1 hparts.symm).1
  · by_contra hmore
    rw [hparts] at hstart
    exact h'.leftmost [] text' parts' rfl more (htext ▸ List.suffix_append text more) hmore hstart

theorem literal_eq (h : Splits value (.literal text :: parts)) (h' : Splits value (.literal text' :: parts')) :
    text = text' ∧ parts.flatMap Atom.spelling = parts'.flatMap Atom.spelling := by
  have hvalue := h.spelled.trans h'.spelled.symm
  rw [List.flatMap_cons, List.flatMap_cons, Atom.spelling, Atom.spelling] at hvalue
  rcases List.append_eq_append_iff.1 hvalue with ⟨more, htext, hparts⟩ | ⟨more, htext, hparts⟩
  · obtain rfl : more = [] := h.literal_ends h' htext hparts
    exact ⟨by rw [htext, List.append_nil], hparts⟩
  · obtain rfl : more = [] := h'.literal_ends h htext hparts
    exact ⟨by rw [htext, List.append_nil], hparts.symm⟩

theorem not_startsReference (h : Splits value (.literal text :: parts)) : ¬ StartsReference value := by
  have hquiet := h.leftmost [] text parts rfl
  rw [← h.spelled, List.flatMap_cons]
  exact hquiet.not_startsReference h.ne_nil

theorem startsReference (h : Splits value (a :: parts)) (ha : a.isLiteral = false) : StartsReference value :=
  ⟨a, _, h.references a List.mem_cons_self ha, h.spelled⟩

theorem value_ne_nil (h : Splits value (a :: parts)) : value ≠ [] := by
  rw [← h.spelled, List.flatMap_cons]
  cases ha : a.isLiteral with
  | true =>
    rcases a with text | ⟨name, default⟩
    · simp [Atom.spelling, h.ne_nil]
    · cases ha
  | false =>
    obtain ⟨cs, hcs⟩ := (h.references a List.mem_cons_self ha).spelling_eq
    simp [hcs]

theorem head_eq {b : Atom} (h : Splits value (a :: parts)) (h' : Splits value (b :: parts')) :
    a = b ∧ parts.flatMap Atom.spelling = parts'.flatMap Atom.spelling := by
  rcases a with text | ⟨name, default⟩ <;> rcases b with text' | ⟨name', default'⟩
  · obtain ⟨rfl, hparts⟩ := h.literal_eq h'
    exact ⟨rfl, hparts⟩
  · exact absurd (h'.startsReference rfl) h.not_startsReference
  · exact absurd (h.startsReference rfl) h'.not_startsReference
  · have ha := h.references _ List.mem_cons_self rfl
    have hb := h'.references _ List.mem_cons_self rfl
    exact ha.eq_of_append hb (h.spelled.trans h'.spelled.symm)

/-- **A value is cut in one way.** -/
theorem unique (h : Splits value parts) (h' : Splits value parts') : parts = parts' := by
  induction parts generalizing value parts' with
  | nil =>
    cases parts' with
    | nil => rfl
    | cons b parts' => exact absurd h.spelled.symm h'.value_ne_nil
  | cons a parts ih =>
    cases parts' with
    | nil => exact absurd h'.spelled.symm h.value_ne_nil
    | cons b parts' =>
      obtain ⟨rfl, hparts⟩ := h.head_eq h'
      have htail := h'.tail
      rw [← hparts] at htail
      rw [ih h.tail htail]

end Splits

theorem resolve_of_not_refers {value : String} (h : ¬ Refers value.toList) (lookup : String → Option (Option String)) :
    resolve lookup value = value := by
  have hliteral : ∀ a ∈ atoms value.toList, a.resolve lookup = a.spelling := by
    intro a ha
    rcases a with text | ⟨name, default⟩
    · rfl
    · refine absurd ⟨_, (splits_atoms value.toList).references _ ha rfl, ?_⟩ h
      obtain ⟨before, after, hparts⟩ := List.append_of_mem ha
      have hvalue := spelling_atoms value.toList
      rw [hparts, List.flatMap_append, List.flatMap_cons] at hvalue
      rw [← hvalue]
      exact ⟨_, _, by rw [List.append_assoc]⟩
  rw [resolve, List.flatMap_congr hliteral, spelling_atoms, String.ofList_toList]

/-- **A value is split without loss.**  Every value is cut into parts that make it up when they are written again; no literal
text among them is empty, no two stand side by side, and none has a reference in it or the start of one.  It can be cut in no
other way.  So a value in which no reference stands is its own meaning, whatever the names stand for, and it is what loading
gives to its key in every environment. -/
theorem value_splits_once (value : String) :
    Splits value.toList (atoms value.toList) ∧
      (∀ text, .literal text ∈ atoms value.toList → ¬ Refers text) ∧
      (∀ parts, Splits value.toList parts → parts = atoms value.toList) ∧
      (¬ Refers value.toList → (∀ lookup : String → Option (Option String), resolve lookup value = value) ∧
        ∀ (env : Variables) (key : String) (before pairs : List (String × Option String)),
          IsLast key before (some value) pairs → lookup? key (resolved env pairs) = some (some value)) := by
  have hsplit := splits_atoms value.toList
  refine ⟨hsplit, fun text htext => ?_, fun parts hparts => hparts.unique hsplit, fun h => ?_⟩
  · obtain ⟨before, after, hparts⟩ := List.append_of_mem htext
    exact (hsplit.leftmost before text after hparts).not_refers
  · have hresolve := resolve_of_not_refers h
    refine ⟨hresolve, fun env key before pairs hlast => ?_⟩
    rw [lookup?_resolved, standing_of_isLast hlast, Option.map_some, hresolve]

/-- A default that has an opening brace in it, and then braces that a colon spoils. -/
def sampleValue : String := "a$\x7bb:-c$\x7bd\x7d$\x7be:f\x7d"

theorem value_splits_once_sample :
    atoms sampleValue.toList =
        [.literal "a".toList, .variable "b".toList (some "c$\x7bd".toList), .literal "${e:f}".toList] ∧
      ¬ Refers "${e:f}".toList ∧ resolve (fun _ => some (some "x")) "${e:f}" = "${e:f}" ∧
      lookup? "K" (resolved [("e", "x")] [("K", some "${e}"), ("K", some "${e:f}")]) = some (some "${e:f}") := by
  have hatoms : atoms sampleValue.toList =
      [.literal "a".toList, .variable "b".toList (some "c$\x7bd".toList), .literal "${e:f}".toList] := by decide
  have hbare : ¬ Refers "${e:f}".toList := by
    refine (value_splits_once sampleValue).2.1 _ ?_
    rw [hatoms]
    simp
  obtain ⟨hresolve, hresolved⟩ := (value_splits_once "${e:f}").2.2.2 hbare
  exact ⟨hatoms, hbare, hresolve _, hresolved _ "K" [("K", some "${e}")] _ ⟨[], rfl, by simp⟩⟩

end Environment
end DocReview
