import DocReview.Environment.Binding
/-!
# Consumption — an environment file is read to its end

Whatever a pattern finds, the reader goes on over a piece of the text that is ahead of it, and its line goes on by the line
feeds of that piece (`Passes`); so it does over a program of patterns, whether that succeeds or fails (`Advances`).  While
text is left, reading a binding takes at least one character: a key, a comment or the rest of a line in error
(`readBinding_takes`).  So the loop over bindings comes to the end of the text by itself (`Streams`), the texts of the
bindings make up the whole text, and the lines of the bindings count its line feeds (`bindings_cover_text`).
-/
namespace DocReview
namespace Environment

variable {α β : Type} {r r' : Reader} {taken rest : List Char}

/-! ## Where a reader comes to -/

theorem Reader.ahead_advance (h : r.ahead = taken ++ rest) : (r.advance taken).ahead = rest := by
  have hdrop : (r.advance taken).ahead = r.ahead.drop taken.length := List.drop_drop.symm
  rw [hdrop, h, List.drop_left]

/-- The lines of one piece and of the next one add up. -/
theorem Reader.advance_advance (r : Reader) (a b : List Char) : (r.advance a).advance b = r.advance (a ++ b) := by
  simp only [Reader.advance, Position.advance, List.length_append, List.count_append, Nat.add_assoc]

theorem Reader.marked_advance (h : r.ahead = taken ++ rest) : (r.setMark.advance taken).marked = taken := by
  have hmarked : (r.setMark.advance taken).marked = r.ahead.take taken.length := by
    change (r.text.take (r.position.chars + taken.length)).drop r.position.chars = _
    rw [List.drop_take, Nat.add_sub_cancel_left]
    rfl
  rw [hmarked, h, List.take_left]

theorem Reader.hasNext_iff : r.hasNext = true ↔ r.ahead ≠ [] := by
  rw [Reader.hasNext, decide_eq_true_iff, Reader.ahead, Ne, List.drop_eq_nil_iff, Nat.not_le]

theorem Reader.ahead_of_end (h : r.hasNext = false) : r.ahead = [] := by
  rw [Reader.hasNext, decide_eq_false_iff_not, Nat.not_lt] at h
  exact List.drop_eq_nil_iff.2 h

/-- A reader goes on over a piece of the text that is ahead of it. -/
structure Passes (r : Reader) (taken : List Char) (r' : Reader) : Prop where
  ahead : r.ahead = taken ++ r'.ahead
  reader : r' = r.advance taken

theorem Passes.of_ahead (h : r.ahead = taken ++ rest) : Passes r taken (r.advance taken) :=
  ⟨by rw [Reader.ahead_advance h, h], rfl⟩

theorem Passes.refl (r : Reader) : Passes r [] r := ⟨rfl, rfl⟩

theorem Passes.trans {a b : List Char} {r₁ r₂ : Reader} (h : Passes r a r₁) (h' : Passes r₁ b r₂) : Passes r (a ++ b) r₂ :=
  ⟨by rw [h.ahead, h'.ahead, List.append_assoc], by rw [h'.reader, h.reader, Reader.advance_advance]⟩

/-! ## Programs over a reader -/

namespace Read

theorem run_get_bind (f : Reader → Read α) (r : Reader) : (get >>= f).run.run r = (f r).run.run r := rfl

theorem run_peek_bind (f : Option Char → Read α) (r : Reader) : (peek >>= f).run.run r = (f r.ahead.head?).run.run r := rfl

theorem run_bind_of_some {m : Read α} {a : α} (h : m.run.run r = (some a, r')) (f : α → Read β) :
    (m >>= f).run.run r = (f a).run.run r' := by
  rw [OptionT.run_bind, Option.elimM, StateT.run_bind, h]
  rfl

theorem run_bind_of_none {m : Read α} (h : m.run.run r = (none, r')) (f : α → Read β) :
    (m >>= f).run.run r = (none, r') := by
  rw [OptionT.run_bind, Option.elimM, StateT.run_bind, h]
  rfl

theorem run_pattern_of_some {p : Pattern α} {found : α} {length : Nat} (h : p r.ahead = some (found, length)) :
    (pattern p).run.run r = (some found, r.advance (r.ahead.take length)) := by
  rw [pattern, run_get_bind, h]
  rfl

/-- A pattern reads a piece that it takes in full. -/
theorem run_pattern_append {p : Pattern α} {found : α} (hr : r.ahead = taken ++ rest)
    (h : p (taken ++ rest) = some (found, taken.length)) :
    (pattern p).run.run r = (some found, r.advance taken) := by
  rw [← hr] at h
  rw [run_pattern_of_some h, hr, List.take_left]

theorem run_pattern_nil {p : Pattern α} {found : α} (h : p r.ahead = some (found, 0)) :
    (pattern p).run.run r = (some found, r) := run_pattern_of_some h

theorem run_pattern_of_none {p : Pattern α} (h : p r.ahead = none) : (pattern p).run.run r = (none, r) := by
  rw [pattern, run_get_bind, h]
  rfl

theorem run_bind_eq_some {m : Read α} {f : α → Read β} {b : β} (h : (m >>= f).run.run r = (some b, r')) :
    ∃ a r₁, m.run.run r = (some a, r₁) ∧ (f a).run.run r₁ = (some b, r') := by
  rcases hm : m.run.run r with ⟨_ | a, r₁⟩
  · rw [run_bind_of_none hm] at h
    cases h
  · rw [run_bind_of_some hm] at h
    exact ⟨a, r₁, rfl, h⟩

end Read

/-- Wherever a program starts it goes on over a piece of the text, whether it succeeds or fails. -/
def Advances (m : Read α) : Prop := ∀ r, ∃ taken, Passes r taken (m.run.run r).2

theorem advances_pure (a : α) : Advances (pure a : Read α) := fun r => ⟨[], .refl r⟩

theorem advances_get : Advances (get : Read Reader) := fun r => ⟨[], .refl r⟩

theorem advances_peek : Advances Read.peek := fun r => ⟨[], .refl r⟩

theorem advances_pattern (p : Pattern α) : Advances (Read.pattern p) := by
  intro r
  cases h : p r.ahead with
  | none =>
    rw [Read.run_pattern_of_none h]
    exact ⟨[], .refl r⟩
  | some found =>
    rw [Read.run_pattern_of_some h]
    exact ⟨_, .of_ahead (List.take_append_drop found.2 r.ahead).symm⟩

theorem Advances.bind {m : Read α} {f : α → Read β} (hm : Advances m) (hf : ∀ a, Advances (f a)) : Advances (m >>= f) := by
  intro r
  obtain ⟨taken, hpasses⟩ := hm r
  rcases h : m.run.run r with ⟨_ | a, r₁⟩
  · rw [h] at hpasses
    rw [Read.run_bind_of_none h]
    exact ⟨taken, hpasses⟩
  · rw [h] at hpasses
    rw [Read.run_bind_of_some h]
    obtain ⟨more, hmore⟩ := hf a r₁
    exact ⟨taken ++ more, hpasses.trans hmore⟩

theorem advances_readKey : Advances readKey := by
  refine advances_peek.bind fun next => ?_
  split
  · exact advances_pure none
  · split
    · exact (advances_pattern quotedKey).bind fun key => advances_pure (some key)
    · exact (advances_pattern plainKey).bind fun key => advances_pure (some key)

theorem advances_readValue : Advances readValue := by
  refine advances_peek.bind fun next => ?_
  split
  · exact (advances_pattern _).bind fun inner => advances_pure _
  · split
    · exact (advances_pattern _).bind fun inner => advances_pure _
    · split
      · exact advances_pure []
      · exact (advances_pattern plainValue).bind fun part => advances_pure _

theorem advances_readAssigned : Advances readAssigned := by
  refine advances_peek.bind fun next => ?_
  split
  · exact (advances_pattern equalsSign).bind fun _ => advances_readValue.bind fun value => advances_pure (some value)
  · exact advances_pure none

theorem advances_readEnd (value : Option (List Char)) :
    Advances (do Read.pattern comment; Read.pattern lineEnd; return value) :=
  (advances_pattern comment).bind fun _ => (advances_pattern lineEnd).bind fun _ => advances_pure value

theorem advances_readAfterKey : Advances readAfterKey :=
  (advances_pattern inlineBlanks).bind fun _ => advances_readAssigned.bind advances_readEnd

theorem advances_readPair : Advances readPair :=
  (advances_pattern exportWord).bind fun _ => advances_readKey.bind fun key =>
    advances_readAfterKey.bind fun value => advances_pure (key, value)

theorem advances_readBody : Advances readBody := by
  refine (advances_pattern blanks).bind fun _ => advances_get.bind fun r => ?_
  split
  · exact advances_readPair
  · exact advances_pure (none, none)

/-! ## Progress -/

/-- Something is taken between two readers. -/
def Takes (r r' : Reader) : Prop := ∃ taken, taken ≠ [] ∧ Passes r taken r'

theorem Takes.after {taken : List Char} {r₁ : Reader} (h : Takes r₁ r') (hpasses : Passes r taken r₁) : Takes r r' := by
  obtain ⟨more, hne, hmore⟩ := h
  exact ⟨taken ++ more, List.append_ne_nil_of_right_ne_nil taken hne, hpasses.trans hmore⟩

theorem Takes.before {taken : List Char} {r₁ : Reader} (h : Takes r r₁) (hpasses : Passes r₁ taken r') : Takes r r' := by
  obtain ⟨first, hne, hfirst⟩ := h
  exact ⟨first ++ taken, List.append_ne_nil_of_left_ne_nil hne taken, hfirst.trans hpasses⟩

theorem takes_of_found {p : Pattern α} {found : α × Nat} (h : p r.ahead = some found) (hne : r.ahead.take found.2 ≠ []) :
    Takes r ((Read.pattern p).run.run r).2 := by
  rw [Read.run_pattern_of_some h]
  exact ⟨_, hne, .of_ahead (List.take_append_drop found.2 r.ahead).symm⟩

theorem takes_of_pattern {p : Pattern α} (hp : ∀ {cs found}, p cs = some found → cs.take found.2 ≠ []) {a : α}
    (h : (Read.pattern p).run.run r = (some a, r')) : Takes r r' := by
  cases hfound : p r.ahead with
  | none =>
    rw [Read.run_pattern_of_none hfound] at h
    cases h
  | some found =>
    have htakes := takes_of_found hfound (hp hfound)
    rwa [h] at htakes

theorem take_of_quotedKey {cs : List Char} {found : List Char × Nat} (h : quotedKey cs = some found) :
    cs.take found.2 ≠ [] := by
  unfold quotedKey at h
  split at h
  · dsimp only at h
    split at h
    · cases h
    · cases h
      exact List.cons_ne_nil _ _
  · cases h

theorem take_of_plainKey {cs : List Char} {found : List Char × Nat} (h : plainKey cs = some found) :
    cs.take found.2 ≠ [] := by
  unfold plainKey at h
  dsimp only at h
  split at h
  · cases h
  · rename_i hkey
    cases h
    rwa [← List.prefix_iff_eq_take.1 (List.takeWhile_prefix isKeyChar)]

/-- A key takes something, unless a comment starts where it should stand. -/
theorem readKey_takes {key : Option (List Char)} (h : readKey.run.run r = (some key, r')) :
    Takes r r' ∨ r' = r ∧ ∃ cs, r.ahead = '#' :: cs := by
  rw [readKey, Read.run_peek_bind] at h
  split at h
  · rename_i hsign
    cases h
    exact Or.inr ⟨rfl, List.head?_eq_some_iff.1 hsign⟩
  · left
    split at h
    · obtain ⟨inner, r₁, hinner, h⟩ := Read.run_bind_eq_some h
      cases h
      exact takes_of_pattern take_of_quotedKey hinner
    · obtain ⟨plain, r₁, hplain, h⟩ := Read.run_bind_eq_some h
      cases h
      exact takes_of_pattern take_of_plainKey hplain

theorem readAfterKey_comment {cs : List Char} (h : r.ahead = '#' :: cs) : Takes r (readAfterKey.run.run r).2 := by
  have hinline : (Read.pattern inlineBlanks).run.run r = (some (), r) := Read.run_pattern_nil (by rw [h]; rfl)
  have hvalue : readAssigned.run.run r = (some none, r) := by
    have hsign : ¬('#' :: cs).head? = some '=' := fun hsign => absurd (Option.some.inj hsign) (by decide)
    rw [readAssigned, Read.run_peek_bind, h, if_neg hsign]
    rfl
  have hcomment : comment r.ahead = some ((), 0 + 1 + lineLength cs) := by
    rw [h]
    rfl
  have hne : r.ahead.take (0 + 1 + lineLength cs) ≠ [] := by
    rw [h, Nat.zero_add, Nat.add_comm]
    exact List.cons_ne_nil _ _
  have htakes := takes_of_found hcomment hne
  rw [Read.run_pattern_of_some hcomment] at htakes
  rw [readAfterKey, Read.run_bind_of_some hinline, Read.run_bind_of_some hvalue,
    Read.run_bind_of_some (Read.run_pattern_of_some hcomment)]
  obtain ⟨taken, hpasses⟩ := ((advances_pattern lineEnd).bind fun _ => advances_pure (none : Option (List Char))) _
  exact htakes.before hpasses

/-- **A pair that is read takes something.** -/
theorem readPair_takes {pair : Option (List Char) × Option (List Char)} (h : readPair.run.run r = (some pair, r')) :
    Takes r r' := by
  obtain ⟨_, r₁, hword, h⟩ := Read.run_bind_eq_some h
  obtain ⟨key, r₂, hkey, h⟩ := Read.run_bind_eq_some h
  obtain ⟨value, r₃, hafter, h⟩ := Read.run_bind_eq_some h
  cases h
  obtain ⟨word, hpasses⟩ := advances_pattern exportWord r
  obtain ⟨after, hrest⟩ := advances_readAfterKey r₂
  rw [hword] at hpasses
  rw [hafter] at hrest
  refine Takes.after ?_ hpasses
  rcases readKey_takes hkey with htakes | ⟨rfl, cs, hcs⟩
  · exact htakes.before hrest
  · have htakes := readAfterKey_comment hcs
    rwa [hafter] at htakes

/-! ## One binding -/

theorem readBinding_of_some {key value : Option (List Char)} (h : readBody.run.run r.setMark = (some (key, value), r')) :
    readBinding.run r = (r'.binding key value false, r') := by
  simp only [readBinding, StateT.run_bind, StateT.run_modify, pure_bind, h]
  rfl

theorem readBinding_of_none (h : readBody.run.run r.setMark = (none, r')) :
    readBinding.run r = (((Read.pattern restOfLine).run.run r').2.binding none none true,
      ((Read.pattern restOfLine).run.run r').2) := by
  simp only [readBinding, StateT.run_bind, StateT.run_modify, pure_bind, h]
  rfl

/-- What a binding that is read from a reader says of it: its text is taken from what is ahead, and it starts in the line that
the reader is in. -/
structure TakesBinding (r : Reader) (b : Binding) (r' : Reader) : Prop where
  text_ne_nil : b.text ≠ []
  ahead : r.ahead = b.text ++ r'.ahead
  line : b.line = r.position.line
  position : r'.position = r.position.advance b.text

theorem Takes.binding (h : Takes r.setMark r') (key value : Option (List Char)) (isError : Bool) :
    TakesBinding r (r'.binding key value isError) r' := by
  obtain ⟨taken, hne, hpasses⟩ := h
  have htext : (r'.binding key value isError).text = taken := by
    rw [hpasses.reader]
    exact Reader.marked_advance hpasses.ahead
  exact
    { text_ne_nil := by rw [htext]; exact hne
      ahead := by rw [htext]; exact hpasses.ahead
      line := by rw [hpasses.reader]; rfl
      position := by rw [htext, hpasses.reader]; rfl }

theorem readBody_takes {pair : Option (List Char) × Option (List Char)} (hnext : r.hasNext = true)
    (h : readBody.run.run r = (some pair, r')) : Takes r r' := by
  obtain ⟨_, r₁, hblanks, h⟩ := Read.run_bind_eq_some h
  obtain ⟨blank, hpasses⟩ := advances_pattern blanks r
  rw [hblanks] at hpasses
  rw [Read.run_get_bind] at h
  split at h
  · exact (readPair_takes h).after hpasses
  · -- the blanks are all that was left
    rename_i hend
    cases h
    have hall : r.ahead = blank := by
      rw [hpasses.ahead, Reader.ahead_of_end (Bool.eq_false_iff.2 hend), List.append_nil]
    exact ⟨blank, hall ▸ Reader.hasNext_iff.1 hnext, hpasses⟩

theorem take_of_restOfLine {cs : List Char} (h : cs ≠ []) {found : Unit × Nat} (hfound : restOfLine cs = some found) :
    cs.take found.2 ≠ [] := by
  cases hfound
  rw [Ne, List.take_eq_nil_iff]
  have hpos := List.length_pos_iff.2 h
  rintro (hzero | hnil)
  · dsimp only at hzero
    omega
  · exact h hnil

/-- **A binding is read wherever text is left**, and it takes something. -/
theorem readBinding_takes (h : r.hasNext = true) : TakesBinding r (readBinding.run r).1 (readBinding.run r).2 := by
  rcases hbody : readBody.run.run r.setMark with ⟨_ | ⟨key, value⟩, r₁⟩
  · rw [readBinding_of_none hbody]
    refine Takes.binding ?_ none none true
    obtain ⟨taken, hpasses⟩ := advances_readBody r.setMark
    obtain ⟨line, hline⟩ := advances_pattern restOfLine r₁
    rw [hbody] at hpasses
    by_cases hnil : r₁.ahead = []
    · -- reading failed at the end, so that all was taken
      have hall : r.ahead = taken := by rw [← List.append_nil taken, ← hnil]; exact hpasses.ahead
      exact Takes.before ⟨taken, hall ▸ Reader.hasNext_iff.1 h, hpasses⟩ hline
    · refine Takes.after ?_ hpasses
      have hfound : restOfLine r₁.ahead = some ((), min (lineLength r₁.ahead + 1) r₁.ahead.length) := rfl
      exact takes_of_found hfound (take_of_restOfLine hnil hfound)
  · rw [readBinding_of_some hbody]
    exact (readBody_takes (r := r.setMark) h hbody).binding key value false

theorem takes_of_run {b : Binding} (h : r.hasNext = true) (hrun : readBinding.run r = (b, r')) : TakesBinding r b r' := by
  have htakes := readBinding_takes h
  rwa [hrun] at htakes

/-! ## All bindings -/

/-- The loop over the bindings of a text, to its end: as long as text is left a binding is read, and reading goes on where it
has come to. -/
inductive Streams : Reader → List Binding → Prop where
  | done {r : Reader} (last : r.hasNext = false) : Streams r []
  | next {r r' : Reader} {b : Binding} {bs : List Binding} (more : r.hasNext = true) (read : readBinding.run r = (b, r'))
    (rest : Streams r' bs) : Streams r (b :: bs)

theorem readBindings_of_hasNext (h : r.hasNext = true) (bound : Nat) : ((readBindings (bound + 1)).run r).1 =
    (readBinding.run r).1 :: ((readBindings bound).run (readBinding.run r).2).1 := by
  simp only [readBindings, StateT.run_bind, StateT.run_get, pure_bind, h, if_true]
  rfl

theorem readBindings_of_end (h : r.hasNext = false) : ∀ bound, ((readBindings bound).run r).1 = []
  | 0 => rfl
  | bound + 1 => by
    simp only [readBindings, StateT.run_bind, StateT.run_get, pure_bind, h, Bool.false_eq_true, if_false]
    rfl

/-- **The loop ends within the bound**, which is the length of the text: every binding takes a character at least. -/
theorem streams_readBindings : ∀ {bound : Nat} {r : Reader}, r.ahead.length ≤ bound →
    Streams r ((readBindings bound).run r).1 := by
  intro bound
  induction bound with
  | zero =>
    intro r h
    have hnil : r.ahead = [] := List.eq_nil_of_length_eq_zero (Nat.le_zero.1 h)
    exact .done (Bool.eq_false_iff.2 fun hnext => Reader.hasNext_iff.1 hnext hnil)
  | succ bound ih =>
    intro r h
    cases hnext : r.hasNext with
    | false =>
      rw [readBindings_of_end hnext]
      exact .done hnext
    | true =>
      have htakes := readBinding_takes hnext
      have hlen := congrArg List.length htakes.ahead
      have hpos := List.length_pos_iff.2 htakes.text_ne_nil
      rw [List.length_append] at hlen
      rw [readBindings_of_hasNext hnext]
      exact .next hnext (Prod.eta (readBinding.run r)).symm (ih (by omega))

theorem streams_bindings (cs : List Char) : Streams { text := cs } (bindings cs) := streams_readBindings (Nat.le_refl _)

theorem Streams.flatMap_text {bs : List Binding} (h : Streams r bs) : bs.flatMap Binding.text = r.ahead := by
  induction h with
  | done last => exact (Reader.ahead_of_end last).symm
  | next more read rest ih => rw [List.flatMap_cons, ih, (takes_of_run more read).ahead]

theorem Streams.text_ne_nil {bs : List Binding} (h : Streams r bs) : ∀ b ∈ bs, b.text ≠ [] := by
  induction h with
  | done last => exact fun b hb => by cases hb
  | next more read rest ih => exact List.forall_mem_cons.2 ⟨(takes_of_run more read).text_ne_nil, ih⟩

/-- **The line of a binding counts the line feeds before it**, from the line that the loop starts in. -/
theorem Streams.line_eq {bs : List Binding} (h : Streams r bs) :
    ∀ pre b post, bs = pre ++ b :: post → b.line = r.position.line + (pre.flatMap Binding.text).count '\n' := by
  induction h with
  | done last =>
    intro pre b post hbs
    cases pre <;> cases hbs
  | next more read rest ih =>
    have htakes := takes_of_run more read
    intro pre b' post hbs
    cases pre with
    | nil =>
      obtain ⟨rfl, -⟩ := List.cons.inj hbs
      exact htakes.line
    | cons p pre =>
      obtain ⟨rfl, hmore⟩ := List.cons.inj hbs
      rw [ih pre b' post hmore, htakes.position, List.flatMap_cons, List.count_append, ← Nat.add_assoc]
      rfl

/-- **An environment file is read to its end.** Wherever text is left, reading a binding takes at least one character, so
that whatever a text holds, the loop over its bindings ends by itself.  The texts of the bindings, one after the other, are
the whole text, and each binding has the number of the line that it starts in. -/
theorem bindings_cover_text (cs : List Char) :
    (∀ r : Reader, r.hasNext = true → r.position.chars < (readBinding.run r).2.position.chars) ∧
      Streams { text := cs } (bindings cs) ∧ (∀ b ∈ bindings cs, b.text ≠ []) ∧
      (bindings cs).flatMap Binding.text = cs ∧
      ∀ pre b post, bindings cs = pre ++ b :: post → b.line = 1 + (pre.flatMap Binding.text).count '\n' := by
  have hstreams := streams_bindings cs
  refine ⟨fun r hnext => ?_, hstreams, hstreams.text_ne_nil, hstreams.flatMap_text, hstreams.line_eq⟩
  have htakes := readBinding_takes hnext
  rw [htakes.position]
  exact Nat.lt_add_of_pos_right (List.length_pos_iff.2 htakes.text_ne_nil)

end Environment
end DocReview
