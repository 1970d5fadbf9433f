import DocReview.Suggestion.Style
/-!
# Reading — the entries of a docstring, read back from its text

An entry says an argument's name, its type and its description.  The styles write entries in different forms
(`Style.entryForm`), and one reader goes by the form: it takes what a field says up to the words that follow the field, and
goes on as long as an entry begins (`entriesIn`).  A type may hold any words, so the reader can be told the types of the first
entries; it then looks for them.  Entries that are written under a summary are read back (`entriesIn_docText`).
-/
namespace DocReview.Suggestion

/-! ## Entries and their forms -/

inductive Slot where
  | name
  | type
  | description
  deriving DecidableEq

structure Entry where
  name : String
  type : String
  description : String
  deriving DecidableEq

def Entry.get (e : Entry) : Slot → String
  | .name => e.name
  | .type => e.type
  | .description => e.description

/-- How entries are written: the words before the first of them, the words that each begins with, and what it says, each
time with the words behind it. -/
structure EntryForm where
  heading : String
  lead : String
  fields : List (Slot × String)

def Style.entryForm : Style → EntryForm
  | .google => ⟨"\nArgs:\n", "    ", [(.name, " ("), (.type, "): "), (.description, "\n")]⟩
  | .numpy => ⟨"\nParameters\n----------\n", "", [(.name, " : "), (.type, "\n    "), (.description, "\n")]⟩
  | .rest => ⟨"\n", ":param ", [(.name, ": "), (.description, "\n:type "), (.name, ": "), (.type, "\n")]⟩

def writeFields (e : Entry) (fields : List (Slot × String)) : List Char :=
  fields.flatMap fun p => (e.get p.1).toList ++ p.2.toList

def EntryForm.write (form : EntryForm) (e : Entry) : List Char := form.lead.toList ++ writeFields e form.fields

/-! ## The reader -/

def expect (word cs : List Char) : Option (List Char) := if word.isPrefixOf cs then some (cs.drop word.length) else none

def upTo (stop : List Char) : List Char → Option (List Char × List Char)
  | [] => (expect stop []).map fun rest => ([], rest)
  | c :: cs =>
    match expect stop (c :: cs) with
    | some rest => some ([], rest)
    | none => (upTo stop cs).map fun p => (c :: p.1, p.2)

abbrev Known := Slot → Option String

def Known.learn (known : Known) (slot : Slot) (text : String) : Known := fun s => if s = slot then some text else known s

/-- Reads fields. One that is known is looked for, another is read up to the words behind it. -/
def readFields : List (Slot × String) → Known → List Char → Option (Known × List Char)
  | [], known, cs => some (known, cs)
  | (slot, stop) :: fields, known, cs =>
    match known slot with
    | some text => (expect (text.toList ++ stop.toList) cs).bind (readFields fields known)
    | none => (upTo stop.toList cs).bind fun p => readFields fields (known.learn slot (String.ofList p.1)) p.2

def Known.ofType (type : Option String) : Known := fun s => if s = .type then type else none

def Known.whole (known : Known) : Option Entry := do return ⟨← known .name, ← known .type, ← known .description⟩

def readEntry (form : EntryForm) (type : Option String) (cs : List Char) : Option (Entry × List Char) := do
  let cs ← expect form.lead.toList cs
  let p ← readFields form.fields (.ofType type) cs
  return (← p.1.whole, p.2)

/-- Whether another entry begins: there is neither an empty line nor the end of the docstring. -/
def goesOn (form : EntryForm) (cs : List Char) : Bool :=
  form.lead.toList.isPrefixOf cs && !cs.head?.any fun c => c = '\n' || c = '"'

/-- Reads entries as long as one begins, at most the given number of them, up to what follows. -/
def readEntries (form : EntryForm) : Nat → List String → List Char → Option (List Entry × List Char)
  | 0, _, cs => if goesOn form cs then none else some ([], cs)
  | bound + 1, types, cs =>
    if goesOn form cs then do
      let p ← readEntry form types.head? cs
      let q ← readEntries form bound types.tail p.2
      return (p.1 :: q.1, q.2)
    else some ([], cs)

/-- **The entries of a docstring**, and what follows them. They stand under a heading behind the first line; the types of the
first of them may be known. -/
def entriesIn (style : Style) (types : List String) (docstring : String) : Option (List Entry × List Char) := do
  let cs ← expect "\"\"\"\n".toList docstring.toList
  let p ← upTo ['\n'] cs
  match expect style.entryForm.heading.toList p.2 with
  | some cs => readEntries style.entryForm cs.length types cs
  | none => return ([], p.2)

/-! ## Words -/

theorem expect_append (word rest : List Char) : expect word (word ++ rest) = some rest := by
  have hbegins : word.isPrefixOf (word ++ rest) = true := List.isPrefixOf_iff_prefix.2 (List.prefix_append word rest)
  rw [expect, if_pos hbegins, List.drop_left]

theorem expect_eq_none {word cs : List Char} (h : ¬ word <+: cs) : expect word cs = none := by
  rw [expect, if_neg (mt List.isPrefixOf_iff_prefix.1 h)]

/-- A word that follows the text begins nowhere before, not even in part in the text. -/
def Clear (stop text : List Char) : Prop := ∀ v, v ≠ [] → v <:+ text → ¬ stop <+: v ++ stop

theorem clear_of_not_mem {c : Char} {stop text : List Char} (hstop : stop.head? = some c) (h : c ∉ text) :
    Clear stop text := by
  obtain ⟨rest, rfl⟩ := List.head?_eq_some_iff.1 hstop
  intro v hv hsuffix hbegins
  cases v with
  | nil => exact hv rfl
  | cons d v =>
    obtain ⟨rfl, -⟩ := List.cons_prefix_cons.1 hbegins
    exact h (hsuffix.subset List.mem_cons_self)

theorem upTo_append {stop : List Char} : ∀ {text : List Char}, Clear stop text → ∀ rest : List Char,
    upTo stop (text ++ (stop ++ rest)) = some (text, rest)
  | [], _, rest => by
    rw [List.nil_append]
    cases hcs : stop ++ rest with
    | nil =>
      have hexpect := expect_append stop rest
      rw [hcs] at hexpect
      rw [upTo, hexpect]
      rfl
    | cons c cs =>
      have hexpect := expect_append stop rest
      rw [hcs] at hexpect
      rw [upTo, hexpect]
  | c :: text, h, rest => by
    have hnone : expect stop (c :: (text ++ (stop ++ rest))) = none := by
      refine expect_eq_none fun hbegins => h _ (List.cons_ne_nil c text) (List.suffix_refl _) ?_
      have hlength : stop.length ≤ (c :: text ++ stop).length := by
        rw [List.length_append]
        omega
      have hwhole : c :: text ++ stop <+: c :: (text ++ (stop ++ rest)) := ⟨rest, by simp⟩
      exact List.prefix_of_prefix_length_le hbegins hwhole hlength
    have ih := upTo_append (fun v hv hs => h v hv (hs.trans (List.suffix_cons c text))) rest
    rw [List.cons_append, upTo, hnone, ih]
    rfl

/-! ## What is written is read -/

def Known.Agrees (known : Known) (e : Entry) : Prop := ∀ s t, known s = some t → t = e.get s

theorem agrees_learn {known : Known} {e : Entry} (h : known.Agrees e) (slot : Slot) :
    (known.learn slot (e.get slot)).Agrees e := by
  intro s t ht
  unfold Known.learn at ht
  split at ht
  · rename_i hs
    cases ht
    rw [hs]
  · exact h s t ht

theorem whole_of_agrees {known : Known} {e : Entry} (h : known.Agrees e) (hall : ∀ s, known s ≠ none) :
    known.whole = some e := by
  have hget : ∀ s, known s = some (e.get s) := fun s => by
    obtain ⟨t, ht⟩ := Option.ne_none_iff_exists'.1 (hall s)
    rw [ht, h s t ht]
  unfold Known.whole
  rw [hget .name, hget .type, hget .description]
  rfl

/-- **Fields are read back**, if what is not known is clear of the words behind it. -/
theorem readFields_write {e : Entry} (rest : List Char) : ∀ {fields : List (Slot × String)} {known : Known},
    known.Agrees e → (∀ p ∈ fields, known p.1 = none → Clear p.2.toList (e.get p.1).toList) →
      ∃ known', readFields fields known (writeFields e fields ++ rest) = some (known', rest) ∧ known'.Agrees e ∧
        (∀ s, known s ≠ none → known' s ≠ none) ∧ ∀ p ∈ fields, known' p.1 ≠ none
  | [], known, hagrees, _ => ⟨known, rfl, hagrees, fun _ => id, nofun⟩
  | (slot, stop) :: fields, known, hagrees, hclear => by
    have hcut : writeFields e ((slot, stop) :: fields) ++ rest =
        (e.get slot).toList ++ (stop.toList ++ (writeFields e fields ++ rest)) := by
      simp [writeFields]
    rw [hcut]
    cases hslot : known slot with
    | some text =>
      obtain rfl := hagrees slot text hslot
      obtain ⟨known', hread, hagrees', hkept, hall⟩ :=
        readFields_write rest hagrees fun p hp => hclear p (List.mem_cons_of_mem _ hp)
      refine ⟨known', ?_, hagrees', hkept, fun p hp => ?_⟩
      · rw [readFields, hslot, ← List.append_assoc]
        dsimp only
        rw [expect_append]
        exact hread
      · rcases List.mem_cons.1 hp with rfl | hp
        · exact hkept slot (by rw [hslot]; exact nofun)
        · exact hall p hp
    | none =>
      have hstop := upTo_append (hclear (slot, stop) List.mem_cons_self hslot) (writeFields e fields ++ rest)
      have hlearned : ∀ s, known.learn slot (e.get slot) s = none → known s = none := fun s hs => by
        unfold Known.learn at hs
        split at hs
        · cases hs
        · exact hs
      obtain ⟨known', hread, hagrees', hkept, hall⟩ := readFields_write rest (agrees_learn hagrees slot)
        fun p hp hnone => hclear p (List.mem_cons_of_mem _ hp) (hlearned p.1 hnone)
      refine ⟨known', ?_, hagrees', fun s hs => hkept s fun hnone => hs (hlearned s hnone), fun p hp => ?_⟩
      · rw [readFields, hslot]
        dsimp only
        rw [hstop, Option.bind_some, String.ofList_toList]
        exact hread
      · rcases List.mem_cons.1 hp with rfl | hp
        · exact hkept slot (by simp [Known.learn])
        · exact hall p hp

/-- An entry can be told from what surrounds it in a form: it is seen to begin, and its name and its description are clear of
the words behind them. -/
structure EntryForm.Shows (form : EntryForm) (e : Entry) : Prop where
  begins : ∀ rest, goesOn form (form.write e ++ rest) = true
  clear : ∀ p ∈ form.fields, p.1 ≠ .type → Clear p.2.toList (e.get p.1).toList

def EntryForm.ClearType (form : EntryForm) (type : String) : Prop :=
  ∀ p ∈ form.fields, p.1 = .type → Clear p.2.toList type.toList

def EntryForm.Complete (form : EntryForm) : Prop := ∀ s, ∃ p ∈ form.fields, p.1 = s

section Write

variable {form : EntryForm} (hform : form.Complete)

include hform

theorem readEntry_write {e : Entry} (he : form.Shows e) {type : Option String} (htype : ∀ t ∈ type, t = e.type)
    (hclear : type = none → form.ClearType e.type) (rest : List Char) :
    readEntry form type (form.write e ++ rest) = some (e, rest) := by
  have hagrees : (Known.ofType type).Agrees e := by
    intro s t ht
    unfold Known.ofType at ht
    split at ht
    · rename_i hs
      rw [hs]
      exact htype t ht
    · cases ht
  obtain ⟨known, hread, hknown, -, hall⟩ := readFields_write rest hagrees fun p hp hnone => by
    by_cases hp' : p.1 = .type
    · have htype' : type = none := by
        rw [hp'] at hnone
        exact hnone
      rw [hp']
      exact hclear htype' p hp hp'
    · exact he.clear p hp hp'
  have hentry : known.whole = some e := whole_of_agrees hknown fun s => by
    obtain ⟨p, hp, rfl⟩ := hform s
    exact hall p hp
  unfold readEntry EntryForm.write
  rw [List.append_assoc, expect_append, Option.bind_eq_bind, Option.bind_some, hread, Option.bind_eq_bind, Option.bind_some,
    hentry]
  rfl

/-- **Entries are read back**, up to where no other begins.  The types of the first of them may be known, if the others are
clear of the words behind a type. -/
theorem readEntries_write {tail : List Char} (htail : goesOn form tail = false) : ∀ {es : List Entry} {bound : Nat}
    {known unknown : List String}, es.length ≤ bound → (∀ e ∈ es, form.Shows e) → es.map Entry.type = known ++ unknown →
      (∀ t ∈ unknown, form.ClearType t) → readEntries form bound known (es.flatMap form.write ++ tail) = some (es, tail)
  | [], 0, known, _, _, _, _, _ => by
    rw [List.flatMap_nil, List.nil_append, readEntries, htail]
    rfl
  | [], bound + 1, known, _, _, _, _, _ => by
    rw [List.flatMap_nil, List.nil_append, readEntries, htail]
    rfl
  | e :: es, bound + 1, known, unknown, hbound, hshows, htypes, hclear => by
    have hhead : (∀ t ∈ known.head?, t = e.type) ∧ (known.head? = none → form.ClearType e.type) ∧
        ∃ unknown', es.map Entry.type = known.tail ++ unknown' ∧ ∀ t ∈ unknown', form.ClearType t := by
      cases known with
      | nil =>
        have htypes : e.type :: es.map Entry.type = unknown := htypes
        refine ⟨nofun, fun _ => hclear _ (htypes ▸ List.mem_cons_self), es.map Entry.type, rfl, fun t ht => ?_⟩
        exact hclear t (htypes ▸ List.mem_cons_of_mem _ ht)
      | cons t known =>
        obtain ⟨ht, htypes⟩ := List.cons.inj htypes
        refine ⟨fun u hu => ?_, nofun, unknown, htypes, hclear⟩
        cases hu
        exact ht.symm
    obtain ⟨htype, hunknown, unknown', htypes', hclear'⟩ := hhead
    have hentry := readEntry_write hform (hshows e List.mem_cons_self) htype hunknown (es.flatMap form.write ++ tail)
    have hbegins := (hshows e List.mem_cons_self).begins (es.flatMap form.write ++ tail)
    have ih := readEntries_write htail (Nat.le_of_succ_le_succ hbound) (fun x hx => hshows x (List.mem_cons_of_mem _ hx))
      htypes' hclear'
    rw [List.flatMap_cons, List.append_assoc, readEntries, if_pos hbegins, hentry, Option.bind_eq_bind, Option.bind_some]
    dsimp only
    rw [ih]
    rfl

end Write

/-! ## Docstrings -/

/-- What stands before the entries. One style leaves it out where there are none. -/
def Style.opening (style : Style) (es : List Entry) : List Char :=
  if style = .google ∧ es = [] then [] else style.entryForm.heading.toList

def docText (style : Style) (summary : String) (es : List Entry) (tail : List Char) : List Char :=
  "\"\"\"\n".toList ++ (summary.toList ++ ('\n' :: (style.opening es ++ (es.flatMap style.entryForm.write ++ tail))))

theorem complete_entryForm (style : Style) : style.entryForm.Complete := by
  intro slot
  cases style <;> cases slot <;> simp [Style.entryForm]

theorem length_le_write (style : Style) (es : List Entry) : es.length ≤ (es.flatMap style.entryForm.write).length := by
  have hpos : ∀ e, 1 ≤ (style.entryForm.write e).length := fun e => by
    cases style with
    | google | rest => simp [EntryForm.write, writeFields, Style.entryForm]
    | numpy =>
      simp only [EntryForm.write, writeFields, Style.entryForm, List.flatMap_cons, List.length_append]
      have hstop : " : ".toList.length = 3 := rfl
      omega
  induction es with
  | nil => exact Nat.le_refl 0
  | cons e es ih =>
    have he := hpos e
    rw [List.flatMap_cons, List.length_append, List.length_cons]
    omega

/-- What follows the entries is told from another entry, and from the heading that would stand there. -/
structure Style.Ends (style : Style) (tail : List Char) : Prop where
  entry : goesOn style.entryForm tail = false
  heading : style = .google → ¬ style.entryForm.heading.toList <+: tail

/-- **The entries of a docstring are read back.** -/
theorem entriesIn_docText {style : Style} {summary doc : String} {es : List Entry} {tail : List Char}
    (hdoc : doc.toList = docText style summary es tail) (hsummary : '\n' ∉ summary.toList)
    (hshows : ∀ e ∈ es, style.entryForm.Shows e) (htail : style.Ends tail) {known unknown : List String}
    (htypes : es.map Entry.type = known ++ unknown) (hclear : ∀ t ∈ unknown, style.entryForm.ClearType t) :
    entriesIn style known doc = some (es, tail) := by
  have hclean : Clear ['\n'] summary.toList := clear_of_not_mem rfl hsummary
  have hline := upTo_append hclean (style.opening es ++ (es.flatMap style.entryForm.write ++ tail))
  rw [List.singleton_append] at hline
  unfold entriesIn
  rw [hdoc, docText, expect_append, Option.bind_eq_bind, Option.bind_some]
  rw [hline, Option.bind_eq_bind, Option.bind_some]
  dsimp only
  by_cases hnone : style = .google ∧ es = []
  · obtain ⟨hstyle, rfl⟩ := hnone
    have hexpect : expect style.entryForm.heading.toList tail = none := expect_eq_none (htail.heading hstyle)
    rw [Style.opening, if_pos ⟨hstyle, rfl⟩, List.flatMap_nil, List.nil_append, List.nil_append, hexpect]
    rfl
  · have hbound : es.length ≤ (es.flatMap style.entryForm.write ++ tail).length := by
      have hlength := length_le_write style es
      rw [List.length_append]
      omega
    rw [Style.opening, if_neg hnone, expect_append]
    exact readEntries_write (complete_entryForm style) htail.entry hbound hshows htypes hclear

end DocReview.Suggestion
