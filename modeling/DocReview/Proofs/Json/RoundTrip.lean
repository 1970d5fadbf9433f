import DocReview.Proofs.Json.Escapes
import DocReview.Proofs.Json.Numbers
/-!
# RoundTrip — what is written is read back

A value without doubles, whose numbers are not too long and whose keys are distinct, is `Storable`.  Its text is read as
the value before anything that ends a number (`value_render`), whatever blanks and line ends the layout puts between the
items; a whole text is therefore read as the value it was written for (`read_render`).  Of the characters of such a text
none but line ends leave the plain range (`isWritten_render`).
-/
namespace DocReview
namespace Json

/-! ## Between the items -/

def Blanks (cs : List Char) : Prop := ∀ c ∈ cs, c = ' ' ∨ c = '\n'

/-- A layout that sets items apart by blanks and line ends alone. -/
structure Layout.IsBlank (l : Layout) : Prop where
  edge : ∀ depth, Blanks (l.edge depth)
  gap : ∀ depth, Blanks (l.gap depth)

theorem isBlank_indented : Layout.indented.IsBlank := by
  have h : ∀ depth, Blanks ('\n' :: List.replicate (2 * depth) ' ') := by
    intro depth c hc
    rcases List.mem_cons.1 hc with rfl | hc
    · exact .inr rfl
    · exact .inl (List.eq_of_mem_replicate hc)
  exact ⟨h, h⟩

theorem skipSpace_blank {cs text : List Char} (hcs : Blanks cs)
    (htext : ∀ c ∈ text.head?, isSpace c = false) : skipSpace (cs ++ text) = text := by
  have hspace : ∀ c ∈ cs, isSpace c = true := by
    intro c hc
    rcases hcs c hc with rfl | rfl
    · rfl
    · rfl
  unfold skipSpace
  rw [List.dropWhile_append_of_pos hspace]
  cases text with
  | nil => rfl
  | cons c text => exact List.dropWhile_cons_of_neg (by simp [htext c rfl])

theorem skipSpace_blank_cons {cs : List Char} (hcs : Blanks cs) {x : Char} (hx : isSpace x = false)
    (rest : List Char) : skipSpace (cs ++ x :: rest) = x :: rest := by
  apply skipSpace_blank hcs
  intro c hc
  cases hc
  exact hx

theorem ends_blank {cs text : List Char} (hcs : Blanks cs) (htext : Ends text) : Ends (cs ++ text) := by
  cases cs with
  | nil => exact htext
  | cons c cs =>
    intro x hx
    cases hx
    rcases hcs c List.mem_cons_self with rfl | rfl
    · decide
    · decide

theorem ends_cons {c : Char} (hc : c = ',' ∨ c = ']' ∨ c = '}') (rest : List Char) : Ends (c :: rest) := by
  intro x hx
  cases hx
  rcases hc with rfl | rfl | rfl
  · decide
  · decide
  · decide

theorem separated_cons (gap text next : List Char) (texts : List (List Char)) :
    separated gap (text :: next :: texts) = text ++ ',' :: (gap ++ separated gap (next :: texts)) := by
  simp [separated]

/-- A text that starts as an item of a list or an object does. -/
def Opens (cs : List Char) : Prop := ∃ c rest, cs = c :: rest ∧ isSpace c = false ∧ c ≠ ']' ∧ c ≠ '}'

namespace Opens

variable {cs : List Char}

theorem append (h : Opens cs) (rest : List Char) : Opens (cs ++ rest) := by
  obtain ⟨c, more, rfl, hc⟩ := h
  exact ⟨c, more ++ rest, rfl, hc⟩

theorem head (h : Opens cs) : ∀ c ∈ cs.head?, isSpace c = false := by
  obtain ⟨c, more, rfl, hspace, -⟩ := h
  intro x hx
  cases hx
  exact hspace

theorem ne_closing (h : Opens cs) : cs.head? ≠ some ']' ∧ cs.head? ≠ some '}' := by
  obtain ⟨c, more, rfl, -, hbracket, hbrace⟩ := h
  simp [hbracket, hbrace]

theorem length_pos (h : Opens cs) : 0 < cs.length := by
  obtain ⟨c, more, rfl, -⟩ := h
  exact Nat.succ_pos _

theorem separated {gap : List Char} {texts : List (List Char)} (h : Opens cs) : Opens (separated gap (cs :: texts)) := by
  cases texts with
  | nil => exact h
  | cons text texts =>
    rw [separated_cons]
    exact h.append _

end Opens

theorem opens_quote (cs : List Char) : Opens (quote cs) := ⟨'"', _, rfl, by decide⟩

/-! ## Steps of the reader -/

section Steps

variable {bound : Nat} {cs text after rest : List Char} {v : Value}

theorem value_quote (s : String) (bound : Nat) (rest : List Char) :
    value (bound + 1) (quote s.toList ++ rest) = .ok (.str s, rest) := by
  rw [quote_append]
  simp only [value, string_quote, bind, Except.bind, String.ofList_toList]
  rfl

theorem value_list (h : skipSpace cs = text) (hne : text.head? ≠ some ']') :
    value (bound + 1) ('[' :: cs) = items bound [] text := by
  simp only [value, h]
  split
  · exact absurd rfl hne
  · rfl

theorem value_dict (h : skipSpace cs = text) (hne : text.head? ≠ some '}') :
    value (bound + 1) ('{' :: cs) = members bound [] text := by
  simp only [value, h]
  split
  · exact absurd rfl hne
  · rfl

theorem items_last {done : List Value} (hv : value bound cs = .ok (v, after)) (hafter : skipSpace after = ']' :: rest) :
    items (bound + 1) done cs = .ok (.list (done.reverse ++ [v]), rest) := by
  simp only [items, hv, bind, Except.bind, hafter, List.reverse_cons]
  rfl

theorem items_next {done : List Value} (hv : value bound cs = .ok (v, after)) (hafter : skipSpace after = ',' :: rest) :
    items (bound + 1) done cs = items bound (v :: done) (skipSpace rest) := by
  simp only [items, hv, bind, Except.bind, hafter]

theorem members_field {key : String} {done : List (String × Value)} (htext : Opens text)
    (hv : value bound text = .ok (v, after)) :
    members (bound + 1) done (quote key.toList ++ ':' :: ' ' :: text) = match skipSpace after with
      | '}' :: rest => .ok (.dict (Value.insert key v done), rest)
      | ',' :: rest => members bound (Value.insert key v done) (skipSpace rest)
      | rest => .error ⟨.expectingComma, rest.length⟩ := by
  have hcolon : skipSpace (':' :: ' ' :: text) = ':' :: ' ' :: text := rfl
  have hone : Blanks [' '] := by simp [Blanks]
  have hblank : skipSpace (' ' :: text) = text := skipSpace_blank hone htext.head
  rw [quote_append]
  simp only [members, string_quote, bind, Except.bind, hcolon, hblank, hv, String.ofList_toList]
  rfl

end Steps

/-! ## Values -/

/-- A value that a text gives back: without doubles, with numbers that are not too long, and with each key once. -/
inductive Storable : Value → Prop where
  | none : Storable .none
  | bool (b : Bool) : Storable (.bool b)
  | int {i : Int} : (decimalDigits i.natAbs).length ≤ maxDigits → Storable (.int i)
  | str (s : String) : Storable (.str s)
  | list {items : List Value} : (∀ v ∈ items, Storable v) → Storable (.list items)
  | dict {fields : List (String × Value)} : (fields.map Prod.fst).Nodup → (∀ p ∈ fields, Storable p.2) →
    Storable (.dict fields)

def fieldText (l : Layout) (depth : Nat) (p : String × Value) : List Char :=
  quote p.1.toList ++ ':' :: ' ' :: render l depth p.2

theorem renderItems_eq (l : Layout) (depth : Nat) : ∀ vs, renderItems l depth vs = vs.map (render l depth)
  | [] => rfl
  | v :: vs => by rw [renderItems, renderItems_eq l depth vs, List.map_cons]

theorem renderFields_eq (l : Layout) (depth : Nat) : ∀ fields, renderFields l depth fields = fields.map (fieldText l depth)
  | [] => rfl
  | (k, v) :: fields => by
    rw [renderFields, renderFields_eq l depth fields, List.map_cons]
    rfl

theorem opens_enclosed (l : Layout) (depth : Nat) {opening : Char} (closing : Char) (texts : List (List Char))
    (h : isSpace opening = false ∧ opening ≠ ']' ∧ opening ≠ '}') : Opens (enclosed l depth opening closing texts) := by
  unfold enclosed
  split
  · exact ⟨opening, _, rfl, h⟩
  · exact ⟨opening, _, rfl, h⟩

theorem opens_render (l : Layout) (depth : Nat) {v : Value} (hv : Storable v) : Opens (render l depth v) := by
  cases hv with
  | none => exact ⟨'n', _, by rw [render]; rfl, by decide⟩
  | bool b =>
    rw [render]
    cases b with
    | false => exact ⟨'f', _, rfl, by decide⟩
    | true => exact ⟨'t', _, rfl, by decide⟩
  | @int i _ =>
    rw [render]
    obtain ⟨c, cs, h, hc⟩ := exists_decimalText i
    refine ⟨c, cs, h, ?_⟩
    rcases hc with hc | rfl
    · have hne : ∀ {x}, isDigit x = false → c ≠ x := ne_of_isDigit hc
      refine ⟨?_, hne rfl, hne rfl⟩
      simp [isSpace, hne (x := ' ') rfl, hne (x := '\t') rfl, hne (x := '\n') rfl, hne (x := '\r') rfl]
    · decide
  | str s =>
    rw [render]
    exact opens_quote _
  | list _ =>
    rw [render]
    exact opens_enclosed l depth _ _ (by decide)
  | dict _ _ =>
    rw [render]
    exact opens_enclosed l depth _ _ (by decide)

theorem opens_fieldText (l : Layout) (depth : Nat) (p : String × Value) : Opens (fieldText l depth p) :=
  (opens_quote _).append _

/-- The text of a value at a depth is read as the value, before anything that ends a number. -/
def Reads (l : Layout) (depth : Nat) (v : Value) : Prop := ∀ {bound : Nat} {rest : List Char},
  (render l depth v).length ≤ bound → Ends rest → value bound (render l depth v ++ rest) = .ok (v, rest)

/-- **Items with blanks between them are read in turn**, up to the closing bracket. -/
theorem items_separated {l : Layout} {depth : Nat} {gap edge rest : List Char} (hgap : Blanks gap) (hedge : Blanks edge) :
    ∀ {v : Value} {vs done : List Value} {bound : Nat},
    (∀ w ∈ v :: vs, Storable w ∧ Reads l depth w) →
    (separated gap ((v :: vs).map (render l depth))).length < bound →
    items bound done (separated gap ((v :: vs).map (render l depth)) ++ (edge ++ ']' :: rest)) =
      .ok (.list (done.reverse ++ v :: vs), rest)
  | v, [], done, bound + 1, hvs, hbound => by
    have hends : Ends (edge ++ ']' :: rest) := ends_blank hedge (ends_cons (.inr (.inl rfl)) rest)
    have hclose : skipSpace (edge ++ ']' :: rest) = ']' :: rest := skipSpace_blank_cons hedge rfl rest
    exact items_last ((hvs v List.mem_cons_self).2 (Nat.le_of_lt_succ hbound) hends) hclose
  | v, w :: vs, done, bound + 1, hvs, hbound => by
    have hrest : ∀ x ∈ w :: vs, Storable x ∧ Reads l depth x := fun x hx => hvs x (List.mem_cons_of_mem _ hx)
    have hopens : Opens (separated gap ((w :: vs).map (render l depth)) ++ (edge ++ ']' :: rest)) :=
      (opens_render l depth (hrest w List.mem_cons_self).1).separated.append _
    have hskip := skipSpace_blank hgap hopens.head
    -- the bound falls by one and the text by the item and its comma, so the bound stays above the length
    rw [List.map_cons, List.map_cons, separated_cons] at hbound ⊢
    simp only [List.length_append, List.length_cons] at hbound
    rw [List.append_assoc, List.cons_append, List.append_assoc,
      items_next ((hvs v List.mem_cons_self).2 (by omega) (ends_cons (.inl rfl) _)) rfl, ← List.map_cons, hskip,
      items_separated hgap hedge hrest (by rw [List.map_cons]; omega), List.reverse_cons, List.append_assoc]
    rfl

theorem insert_of_not_mem {key : String} {v : Value} : ∀ {fields : List (String × Value)}, key ∉ fields.map Prod.fst →
    Value.insert key v fields = fields ++ [(key, v)]
  | [], _ => rfl
  | (k, w) :: fields, h => by
    rw [List.map_cons, List.mem_cons, not_or] at h
    rw [Value.insert, if_neg (Ne.symm h.1), insert_of_not_mem h.2, List.cons_append]

theorem members_fieldText {l : Layout} {depth bound : Nat} {p : String × Value} {done : List (String × Value)}
    {after : List Char} (hp : Storable p.2 ∧ Reads l depth p.2) (hnew : p.1 ∉ done.map Prod.fst)
    (hbound : (fieldText l depth p).length ≤ bound) (hafter : Ends after) :
    members (bound + 1) done (fieldText l depth p ++ after) = match skipSpace after with
      | '}' :: rest => .ok (.dict (done ++ [p]), rest)
      | ',' :: rest => members bound (done ++ [p]) (skipSpace rest)
      | rest => .error ⟨.expectingComma, rest.length⟩ := by
  have hlength : (render l depth p.2).length ≤ bound := by
    simp only [fieldText, List.length_append, List.length_cons] at hbound
    omega
  have hopens : Opens (render l depth p.2 ++ after) := (opens_render l depth hp.1).append after
  have htext : fieldText l depth p ++ after = quote p.1.toList ++ ':' :: ' ' :: (render l depth p.2 ++ after) := by
    simp [fieldText]
  rw [htext, members_field hopens (hp.2 hlength hafter), insert_of_not_mem hnew]

/-- **Members with blanks between them are read in turn**, up to the closing brace. -/
theorem members_separated {l : Layout} {depth : Nat} {gap edge rest : List Char} (hgap : Blanks gap) (hedge : Blanks edge) :
    ∀ {p : String × Value} {fields done : List (String × Value)} {bound : Nat},
    (∀ q ∈ p :: fields, Storable q.2 ∧ Reads l depth q.2) → ((done ++ p :: fields).map Prod.fst).Nodup →
    (separated gap ((p :: fields).map (fieldText l depth))).length < bound →
    members bound done (separated gap ((p :: fields).map (fieldText l depth)) ++ (edge ++ '}' :: rest)) =
      .ok (.dict (done ++ p :: fields), rest)
  | p, fields, done, bound + 1, hfields, hkeys, hbound => by
    have hp := hfields p List.mem_cons_self
    have hnew : p.1 ∉ done.map Prod.fst := by
      rw [List.map_append, List.map_cons, List.nodup_append] at hkeys
      exact fun hmem => hkeys.2.2 p.1 hmem p.1 List.mem_cons_self rfl
    cases fields with
    | nil =>
      have hends : Ends (edge ++ '}' :: rest) := ends_blank hedge (ends_cons (.inr (.inr rfl)) rest)
      have hclose : skipSpace (edge ++ '}' :: rest) = '}' :: rest := skipSpace_blank_cons hedge rfl rest
      have hmember := members_fieldText hp hnew (Nat.le_of_lt_succ hbound) hends
      rw [hclose] at hmember
      exact hmember
    | cons q fields =>
      obtain ⟨text, htext⟩ : ∃ text, text = separated gap ((q :: fields).map (fieldText l depth)) := ⟨_, rfl⟩
      have hopens : Opens (text ++ (edge ++ '}' :: rest)) := by
        rw [htext]
        exact (opens_fieldText l depth q).separated.append _
      rw [List.map_cons, List.map_cons, separated_cons, ← List.map_cons, ← htext] at hbound ⊢
      simp only [List.length_append, List.length_cons] at hbound
      have hmore : members bound (done ++ [p]) (text ++ (edge ++ '}' :: rest)) =
          .ok (.dict (done ++ [p] ++ q :: fields), rest) := by
        rw [htext]
        apply members_separated hgap hedge
        · exact fun x hx => hfields x (List.mem_cons_of_mem _ hx)
        · rwa [List.append_assoc]
        · rw [← htext]
          omega
      rw [List.append_assoc, List.cons_append, List.append_assoc,
        members_fieldText hp hnew (by omega) (ends_cons (.inl rfl) _)]
      change members bound (done ++ [p]) (skipSpace (gap ++ (text ++ (edge ++ '}' :: rest)))) = _
      rw [skipSpace_blank hgap hopens.head, hmore, List.append_assoc]
      rfl

theorem enclosed_cons (l : Layout) (depth : Nat) (opening closing : Char) (text : List Char) (texts : List (List Char))
    (rest : List Char) : enclosed l depth opening closing (text :: texts) ++ rest = opening :: (l.edge (depth + 1) ++
      (separated (l.gap (depth + 1)) (text :: texts) ++ (l.edge depth ++ closing :: rest))) := by
  simp [enclosed]

theorem length_separated_le (l : Layout) (depth : Nat) (opening closing : Char) (text : List Char)
    (texts : List (List Char)) : (separated (l.gap (depth + 1)) (text :: texts)).length + 2 ≤
      (enclosed l depth opening closing (text :: texts)).length := by
  have h := congrArg List.length (enclosed_cons l depth opening closing text texts [])
  simp only [List.append_nil, List.length_cons, List.length_append] at h
  omega

theorem reads_of_succ {l : Layout} {depth : Nat} {v : Value} (hv : Storable v)
    (h : ∀ {bound : Nat} {rest : List Char}, (render l depth v).length ≤ bound + 1 → Ends rest →
      value (bound + 1) (render l depth v ++ rest) = .ok (v, rest)) : Reads l depth v := by
  intro bound rest hbound hrest
  have hpos := (opens_render l depth hv).length_pos
  cases bound with
  | zero => omega
  | succ bound => exact h hbound hrest

theorem reads_list {l : Layout} (hl : l.IsBlank) {items : List Value} (hitems : ∀ v ∈ items, Storable v)
    (hreads : ∀ v ∈ items, ∀ depth, Reads l depth v) (depth : Nat) : Reads l depth (.list items) := by
  refine reads_of_succ (.list hitems) fun {bound rest} hbound _ => ?_
  cases items with
  | nil => rfl
  | cons v vs =>
    have hopens : Opens (separated (l.gap (depth + 1)) ((v :: vs).map (render l (depth + 1))) ++
        (l.edge depth ++ ']' :: rest)) :=
      (opens_render l (depth + 1) (hitems v List.mem_cons_self)).separated.append _
    rw [render, renderItems_eq, List.map_cons] at hbound ⊢
    have hlength := length_separated_le l depth '[' ']' (render l (depth + 1) v) (vs.map (render l (depth + 1)))
    rw [enclosed_cons, ← List.map_cons, value_list (skipSpace_blank (hl.edge _) hopens.head) hopens.ne_closing.1,
      items_separated (hl.gap _) (hl.edge _) (fun w hw => ⟨hitems w hw, hreads w hw _⟩) (by rw [List.map_cons]; omega)]
    rfl

theorem reads_dict {l : Layout} (hl : l.IsBlank) {fields : List (String × Value)} (hkeys : (fields.map Prod.fst).Nodup)
    (hfields : ∀ p ∈ fields, Storable p.2) (hreads : ∀ p ∈ fields, ∀ depth, Reads l depth p.2) (depth : Nat) :
    Reads l depth (.dict fields) := by
  refine reads_of_succ (.dict hkeys hfields) fun {bound rest} hbound _ => ?_
  cases fields with
  | nil => rfl
  | cons p fields =>
    have hopens : Opens (separated (l.gap (depth + 1)) ((p :: fields).map (fieldText l (depth + 1))) ++
        (l.edge depth ++ '}' :: rest)) := (opens_fieldText l (depth + 1) p).separated.append _
    rw [render, renderFields_eq, List.map_cons] at hbound ⊢
    have hlength := length_separated_le l depth '{' '}' (fieldText l (depth + 1) p) (fields.map (fieldText l (depth + 1)))
    rw [enclosed_cons, ← List.map_cons, value_dict (skipSpace_blank (hl.edge _) hopens.head) hopens.ne_closing.2,
      members_separated (hl.gap _) (hl.edge _) (fun q hq => ⟨hfields q hq, hreads q hq _⟩) hkeys
        (by rw [List.map_cons]; omega)]
    rfl

/-- **The text of a storable value is read as the value**, at any depth and in any layout of blanks and line ends. -/
theorem value_render {l : Layout} (hl : l.IsBlank) {v : Value} (hv : Storable v) : ∀ depth, Reads l depth v := by
  -- the depth stays free, since items stand one deeper than what they are in
  induction hv with
  | none => exact fun depth => reads_of_succ .none fun _ _ => rfl
  | bool b =>
    cases b with
    | false => exact fun depth => reads_of_succ (.bool false) fun _ _ => rfl
    | true => exact fun depth => reads_of_succ (.bool true) fun _ _ => rfl
  | @int i hlen =>
    refine fun depth => reads_of_succ (.int hlen) fun {bound rest} _ hrest => ?_
    rw [render]
    exact value_decimalText hlen bound hrest
  | str s =>
    refine fun depth => reads_of_succ (.str s) fun {bound rest} _ _ => ?_
    rw [render]
    exact value_quote s bound rest
  | list hitems ih => exact reads_list hl hitems ih
  | dict hkeys hfields ih => exact reads_dict hl hkeys hfields ih

/-! ## Whole texts -/

theorem mem_separated {gap : List Char} {c : Char} : ∀ {texts : List (List Char)}, c ∈ separated gap texts →
    c = ',' ∨ c ∈ gap ∨ ∃ text ∈ texts, c ∈ text
  | [], h => by cases h
  | [text], h => .inr (.inr ⟨text, List.mem_cons_self, h⟩)
  | text :: next :: texts, h => by
    rw [separated_cons, List.mem_append, List.mem_cons, List.mem_append] at h
    rcases h with h | h | h | h
    · exact .inr (.inr ⟨text, List.mem_cons_self, h⟩)
    · exact .inl h
    · exact .inr (.inl h)
    · rcases mem_separated h with h | h | ⟨t, ht, h⟩
      · exact .inl h
      · exact .inr (.inl h)
      · exact .inr (.inr ⟨t, List.mem_cons_of_mem _ ht, h⟩)

def IsWritten (c : Char) : Prop := c = '\n' ∨ IsPlain c

instance (c : Char) : Decidable (IsWritten c) := inferInstanceAs (Decidable (_ ∨ _))

theorem isWritten_blank {cs : List Char} (h : Blanks cs) : ∀ c ∈ cs, IsWritten c := by
  intro c hc
  rcases h c hc with rfl | rfl
  · exact .inr (by decide)
  · exact .inl rfl

theorem isWritten_enclosed {l : Layout} (hl : l.IsBlank) (depth : Nat) {opening closing : Char} {texts : List (List Char)}
    (hopening : IsPlain opening) (hclosing : IsPlain closing) (htexts : ∀ text ∈ texts, ∀ c ∈ text, IsWritten c) :
    ∀ c ∈ enclosed l depth opening closing texts, IsWritten c := by
  intro c hc
  unfold enclosed at hc
  split at hc
  · rcases List.mem_pair.1 hc with rfl | rfl
    · exact .inr hopening
    · exact .inr hclosing
  · simp only [List.cons_append, List.mem_cons, List.mem_append, List.not_mem_nil, or_false] at hc
    rcases hc with rfl | ((hc | hc) | hc) | rfl
    · exact .inr hopening
    · exact isWritten_blank (hl.edge _) c hc
    · rcases mem_separated hc with rfl | hc | ⟨text, htext, hc⟩
      · exact .inr (by decide)
      · exact isWritten_blank (hl.gap _) c hc
      · exact htexts text htext c hc
    · exact isWritten_blank (hl.edge _) c hc
    · exact .inr hclosing

theorem isPlain_of_all {cs : List Char} (h : cs.all (fun c => decide (IsPlain c)) = true) : ∀ c ∈ cs, IsPlain c :=
  fun c hc => of_decide_eq_true (List.all_eq_true.1 h c hc)

theorem isPlain_decimalText (i : Int) : ∀ c ∈ decimalText i, IsPlain c := by
  have hdigit : ∀ c ∈ decimalDigits i.natAbs, IsPlain c := by
    intro c hc
    have h := isDigit_of_mem hc
    simp only [isDigit, Bool.and_eq_true, decide_eq_true_eq] at h
    exact ⟨Char.le_trans (by decide) h.1, Char.le_trans h.2 (by decide)⟩
  intro c hc
  unfold decimalText at hc
  split at hc
  · rcases List.mem_cons.1 hc with rfl | hc
    · decide
    · exact hdigit c hc
  · exact hdigit c hc

/-- **The text of a storable value has line ends and plain characters only.** -/
theorem isWritten_render {l : Layout} (hl : l.IsBlank) {v : Value} (hv : Storable v) :
    ∀ depth, ∀ c ∈ render l depth v, IsWritten c := by
  induction hv with
  | none =>
    intro depth c hc
    rw [render] at hc
    exact .inr (isPlain_of_all (by decide) c hc)
  | bool b =>
    intro depth c hc
    rw [render] at hc
    cases b with
    | false => exact .inr (isPlain_of_all (by decide) c hc)
    | true => exact .inr (isPlain_of_all (by decide) c hc)
  | @int i _ =>
    intro depth c hc
    rw [render] at hc
    exact .inr (isPlain_decimalText i c hc)
  | str s =>
    intro depth c hc
    rw [render] at hc
    exact .inr (isPlain_quote _ c hc)
  | list _ ih =>
    intro depth
    rw [render, renderItems_eq]
    refine isWritten_enclosed hl depth (by decide) (by decide) fun text htext => ?_
    obtain ⟨v, hv, rfl⟩ := List.mem_map.1 htext
    exact ih v hv (depth + 1)
  | dict _ _ ih =>
    intro depth
    rw [render, renderFields_eq]
    refine isWritten_enclosed hl depth (by decide) (by decide) fun text htext => ?_
    obtain ⟨p, hp, rfl⟩ := List.mem_map.1 htext
    intro c hc
    simp only [fieldText, List.mem_append, List.mem_cons] at hc
    rcases hc with hc | rfl | rfl | hc
    · exact .inr (isPlain_quote _ c hc)
    · exact .inr (by decide)
    · exact .inr (by decide)
    · exact ih p hp (depth + 1) c hc

/-- **A text is read as the value it was written for.** -/
theorem read_render {l : Layout} (hl : l.IsBlank) {v : Value} (hv : Storable v) : read (render l 0 v) = .ok v := by
  have hopens := opens_render l 0 hv
  have hmark : (render l 0 v).head? ≠ some '\ufeff' := by
    intro h
    exact absurd (isWritten_render hl hv 0 _ (List.mem_of_mem_head? h)) (by decide)
  have hskip : skipSpace ([] ++ render l 0 v) = render l 0 v := skipSpace_blank (by simp [Blanks]) hopens.head
  have hbound : (render l 0 v).length ≤ 2 * (render l 0 v).length + 2 := by omega
  have hvalue := value_render hl hv 0 hbound ends_nil
  rw [List.append_nil] at hvalue
  rw [List.nil_append] at hskip
  unfold read
  rw [if_neg hmark, hskip, hvalue]
  rfl

end Json
end DocReview
