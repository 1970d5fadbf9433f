import DocReview.Proofs.Json.RoundTrip
import DocReview.Proofs.Source.Names
import DocReview.Proofs.Suggestion.Sections
/-!
# Entries — a docstring documents the arguments of its function

The entries of a docstring are read back from its text.  They can be told from what surrounds them because the name of an
argument is a word (`shows_entry`), and what follows them begins no other entry (`ends_tail`) and holds none (`tail_apart`).
So in every style the docstring of a function that was scanned has one entry for each of its arguments, in order
(`docstring_entries`).
-/
namespace DocReview

/-! ## Texts that do not occur among lines -/

namespace Text

/-- No line of the text begins with the words, which may go on over the next lines. -/
def Apart (m : List Char) (ls : List String) : Prop := ∀ ms, ms <:+ ls → ¬ m <+: ofLines ms

theorem apart_nil {m : List Char} (hm : m ≠ []) : Apart m [] := by
  intro ms hms hbegins
  rw [List.suffix_nil.1 hms] at hbegins
  exact hm (List.prefix_nil.1 hbegins)

theorem apart_cons {m : List Char} {l : String} {ls : List String} (h : ¬ m <+: ofLines (l :: ls)) (hls : Apart m ls) :
    Apart m (l :: ls) := by
  intro ms hms
  rcases List.suffix_cons_iff.1 hms with rfl | hms
  · exact h
  · exact hls ms hms

def Differs (m : List Char) (l : String) : Prop := ∀ rest, ¬ m <+: l.toList ++ '\n' :: rest

theorem apart_append {m : List Char} {ls ks : List String} (h : ∀ l ∈ ls, Differs m l) (hks : Apart m ks) :
    Apart m (ls ++ ks) := by
  induction ls with
  | nil => exact hks
  | cons l ls ih =>
    refine apart_cons ?_ (ih fun k hk => h k (List.mem_cons_of_mem _ hk))
    rw [ofLines_cons]
    exact h l List.mem_cons_self _

theorem apart_flatMap {α : Type} {m : List Char} {g : α → List String} {l : List α} {ks : List String}
    (h : ∀ x ∈ l, ∀ ks, Apart m ks → Apart m (g x ++ ks)) (hks : Apart m ks) : Apart m (l.flatMap g ++ ks) := by
  induction l with
  | nil => exact hks
  | cons x l ih =>
    rw [List.flatMap_cons, List.append_assoc]
    exact h x List.mem_cons_self _ (ih fun y hy => h y (List.mem_cons_of_mem _ hy))

theorem begins_after_feed {m n l rest : List Char} (hm : '\n' ∉ m) (hl : '\n' ∉ l)
    (h : m ++ '\n' :: n <+: l ++ '\n' :: rest) : n <+: rest := by
  obtain ⟨after, heq⟩ := h
  rw [List.append_assoc, List.cons_append] at heq
  rcases List.append_eq_append_iff.1 heq with ⟨a, rfl, ha⟩ | ⟨a, rfl, ha⟩
  · cases a with
    | nil => exact ⟨after, (List.cons.inj ha).2⟩
    | cons c a =>
      obtain ⟨rfl, -⟩ := List.cons.inj ha
      exact absurd (by simp) hl
  · cases a with
    | nil => exact ⟨after, (List.cons.inj ha).2.symm⟩
    | cons c a =>
      obtain ⟨rfl, -⟩ := List.cons.inj ha
      exact absurd (by simp) hm

theorem not_infix_of_apart {m : List Char} {ls : List String} (hls : ∀ l ∈ ls, '\n' ∉ l.toList) (h : Apart m ls) :
    ¬ '\n' :: m <:+: ofLines ls := by
  rintro ⟨before, after, heq⟩
  rw [List.append_assoc, List.cons_append] at heq
  have hfeed : ∀ l ∈ ls.map String.toList, '\n' ∉ l := by simpa using hls
  obtain ⟨-, hrest, -⟩ := unlines_cut hfeed heq.symm
  rw [← List.map_drop] at hrest
  exact h _ (List.drop_suffix _ ls) ⟨after, hrest⟩

end Text

namespace Suggestion

open Definition (FunctionRecord Argument)
open Source (IsWord mayContinueName)
open Text (Tight Apart Differs ofLines)

/-! ## What surrounds the entries -/

theorem not_mem_of_isWord {s : String} (h : IsWord s) {c : Char} (hc : mayContinueName c = false) : c ∉ s.toList := by
  intro hmem
  rw [h c hmem] at hc
  cases hc

/-- What ends a name is no part of one, what ends a description begins with a line feed, and so does what ends a type but in
one style. -/
theorem stop_of_field (style : Style) {p : Slot × String} (hp : p ∈ style.entryForm.fields) :
    (p.1 = .name → ∃ c, p.2.toList.head? = some c ∧ mayContinueName c = false) ∧
      (p.1 = .description → p.2.toList.head? = some '\n') ∧
      (p.1 = .type → p.2.toList.head? = some '\n' ∨ p.2 = "): ") := by
  cases style <;> simp only [Style.entryForm, List.mem_cons, List.not_mem_nil, or_false] at hp <;>
    rcases hp with rfl | rfl | rfl | rfl <;> simp <;> decide

theorem shows_entry (style : Style) {e : Entry} (hname : IsWord e.name) (hdescription : '\n' ∉ e.description.toList) :
    style.entryForm.Shows e := by
  refine ⟨fun rest => ?_, fun p hp htype => ?_⟩
  · cases style with
    | google | rest => rfl
    | numpy =>
      have hfeed : '\n' ∉ e.name.toList := not_mem_of_isWord hname rfl
      have hquote : '"' ∉ e.name.toList := not_mem_of_isWord hname rfl
      cases hcs : e.name.toList with
      | nil => simp [goesOn, Style.entryForm, EntryForm.write, writeFields, Entry.get, hcs]
      | cons c cs =>
        rw [hcs] at hfeed hquote
        have hc : c ≠ '\n' ∧ c ≠ '"' := by
          constructor <;> rintro rfl <;> simp at hfeed hquote
        simp [goesOn, Style.entryForm, EntryForm.write, writeFields, Entry.get, hcs, hc]
  · obtain ⟨hnames, hdescriptions, -⟩ := stop_of_field style hp
    cases hslot : p.1 with
    | name =>
      obtain ⟨c, hstop, hc⟩ := hnames hslot
      exact clear_of_not_mem hstop (not_mem_of_isWord hname hc)
    | type => exact absurd hslot htype
    | description => exact clear_of_not_mem (hdescriptions hslot) hdescription

/-- A type on one line, in which a reader of any style finds no end before its own. -/
def PlainType (t : String) : Prop := '\n' ∉ t.toList ∧ ¬ "): ".toList <:+: t.toList

instance (t : String) : Decidable (PlainType t) := inferInstanceAs (Decidable (_ ∧ _))

theorem clearType_of_plain {t : String} (h : PlainType t) (style : Style) : style.entryForm.ClearType t := by
  intro p hp htype
  obtain ⟨-, -, htypes⟩ := stop_of_field style hp
  rcases htypes htype with hfeed | hclose
  · exact clear_of_not_mem hfeed h.1
  · rw [hclose]
    intro v hv hsuffix hbegins
    -- the end of a type and the words behind it have no other place in common with these words
    have hwhole : "): ".toList <+: v := by
      rcases v with _ | ⟨c, _ | ⟨d, _ | ⟨e, v⟩⟩⟩
      · exact absurd rfl hv
      · simp at hbegins
      · simp at hbegins
      · simpa using hbegins
    exact h.2 (hwhole.isInfix.trans hsuffix.isInfix)

/-! ## What follows the entries -/

theorem ends_tail (style : Style) (d : Shown) : style.Ends (style.tail d) := by
  obtain ⟨summary, entries, returned, raised⟩ := d
  constructor
  · cases style <;> cases returned <;> cases raised <;>
      simp [goesOn, Style.entryForm, Style.tail, Style.footLines, Style.returnLines, Style.raisesLines, Style.raiseHeading,
        Style.raiseLines, List.isPrefixOf]
  · rintro rfl
    cases returned <;> cases raised <;>
      simp [Style.entryForm, Style.tail, Style.footLines, Style.returnLines, Style.raisesLines, Style.raiseHeading]

/-- The words that stand before the first of some entries. -/
def EntryForm.opening (form : EntryForm) : List Char := form.heading.toList ++ form.lead.toList

structure Shown.OnLines (d : Shown) : Prop where
  returned : ∀ r ∈ d.returned, '\n' ∉ r.1.toList ∧ '\n' ∉ r.2.toList
  raised : ∀ x ∈ d.raised, '\n' ∉ x.1.toList ∧ '\n' ∉ x.2.toList

theorem Shown.OnLines.footLines {d : Shown} (h : d.OnLines) (style : Style) : ∀ l ∈ style.footLines d, '\n' ∉ l.toList := by
  intro l hl
  rcases List.mem_append.1 hl with hl | hl
  · obtain ⟨r, hr, hl⟩ := List.mem_flatMap.1 hl
    have hr' := h.returned r (Option.mem_toList.1 hr)
    cases style <;> simp [Style.returnLines] at hl <;> rcases hl with rfl | rfl | rfl | rfl | rfl <;> simp [hr']
  · unfold Style.raisesLines at hl
    split at hl
    · cases hl
    · rcases List.mem_append.1 hl with hl | hl
      · cases style <;> simp [Style.raiseHeading] at hl <;> rcases hl with rfl | rfl | rfl <;> simp
      · obtain ⟨x, hx, hl⟩ := List.mem_flatMap.1 hl
        have hx' := h.raised x hx
        cases style <;> simp [Style.raiseLines] at hl <;> rcases hl with rfl | rfl <;> simp [hx']

def Style.announcement : Style → String
  | .google => "Args:\n    "
  | .numpy => "Parameters\n----------\n"
  | .rest => ":param "

theorem opening_eq (style : Style) : style.entryForm.opening = '\n' :: style.announcement.toList := by
  cases style <;> simp [Style.entryForm, EntryForm.opening, Style.announcement]

theorem apart_numpy_pair {l : String} (hl : '\n' ∉ l.toList) (description : String) {ks : List String}
    (hks : Apart Style.numpy.announcement.toList ks) : Apart Style.numpy.announcement.toList (l :: ("    " ++ description) :: ks) := by
  refine Text.apart_cons (fun h => ?_) (Text.apart_cons ?_ hks)
  · have hm : Style.numpy.announcement.toList = "Parameters".toList ++ '\n' :: "----------\n".toList := by
      simp [Style.announcement]
    rw [hm, Text.ofLines_cons] at h
    have hbelow := Text.begins_after_feed (by simp) hl h
    simp at hbelow
  · simp [Style.announcement]

theorem apart_returnLines (style : Style) {r : String × String} (hr : '\n' ∉ r.1.toList) {ks : List String}
    (hks : Apart style.announcement.toList ks) : Apart style.announcement.toList (style.returnLines r ++ ks) := by
  cases style with
  | google | rest =>
    refine Text.apart_append ?_ hks
    simp [Style.returnLines, Text.Differs, Style.announcement]
  | numpy =>
    have hheading : ∀ l ∈ ["", "Returns", "-------"], Differs Style.numpy.announcement.toList l := by
      simp [Text.Differs, Style.announcement]
    have hlines := Text.apart_append hheading (apart_numpy_pair hr r.2 hks)
    exact hlines

theorem apart_raiseLines (style : Style) {x : String × String} (hx : '\n' ∉ x.1.toList) {ks : List String}
    (hks : Apart style.announcement.toList ks) : Apart style.announcement.toList (style.raiseLines x ++ ks) := by
  cases style with
  | google | rest =>
    refine Text.apart_append ?_ hks
    simp [Style.raiseLines, Text.Differs, Style.announcement]
  | numpy => exact apart_numpy_pair hx x.2 hks

theorem apart_footLines {d : Shown} (h : d.OnLines) (style : Style) {ks : List String}
    (hks : Apart style.announcement.toList ks) : Apart style.announcement.toList (style.footLines d ++ ks) := by
  have hraises : Apart style.announcement.toList (style.raisesLines d.raised ++ ks) := by
    unfold Style.raisesLines
    split
    · exact hks
    · have hheading : ∀ l ∈ style.raiseHeading, Differs style.announcement.toList l := by
        cases style <;> simp [Style.raiseHeading, Text.Differs, Style.announcement]
      rw [List.append_assoc]
      refine Text.apart_append hheading (Text.apart_flatMap (fun x hx ks hks => ?_) hks)
      exact apart_raiseLines style (h.raised x hx).1 hks
  rw [Style.footLines, List.append_assoc]
  refine Text.apart_flatMap (fun r hr ks hks => ?_) hraises
  exact apart_returnLines style (h.returned r (Option.mem_toList.1 hr)).1 hks

/-- **Behind the entries there are no others.** -/
theorem tail_apart {d : Shown} (h : d.OnLines) (style : Style) : ¬ style.entryForm.opening <:+: style.tail d := by
  have hlines : ofLines (style.footLines d ++ ["\"\"\""]) = style.tail d ++ ['\n'] := by
    simp [Style.tail]
  have hlast : Apart style.announcement.toList ["\"\"\""] := by
    refine Text.apart_cons ?_ (Text.apart_nil ?_)
    · cases style <;> simp [Style.announcement]
    · cases style <;> simp [Style.announcement]
  have hfeed : ∀ l ∈ style.footLines d ++ ["\"\"\""], '\n' ∉ l.toList := by
    intro l hl
    rcases List.mem_append.1 hl with hl | hl
    · exact h.footLines style l hl
    · rw [List.mem_singleton.1 hl]
      simp
  have hnot := Text.not_infix_of_apart hfeed (apart_footLines h style hlast)
  rw [hlines] at hnot
  rw [opening_eq]
  exact fun hoccurs => hnot (hoccurs.trans (List.prefix_append _ _).isInfix)

/-! ## Docstrings of scanned functions -/

/-- A text on one line that is not empty and neither begins nor ends with a blank. -/
def Neat (s : String) : Prop := Tight s.toList ∧ '\n' ∉ s.toList

instance (s : String) : Decidable (Neat s) := inferInstanceAs (Decidable (_ ∧ _))

/-- Content of the documented form, in which the texts that docstrings show are neat. -/
structure NeatContent (v : Value) : Prop where
  summary : ∃ s, v.field "summary" = .ok (.str s) ∧ Neat s
  args : ∃ fields, v.field "args" = .ok (.dict fields) ∧ ∀ n x, Value.lookup? n fields = some x → ∃ s, x = .str s ∧ Neat s
  returns : ∃ s, v.field "returns" = .ok (.str s) ∧ Neat s
  raises : ∃ fields, v.field "raises" = .ok (.dict fields) ∧ ∀ x ∈ fields, ∃ s, x.2 = .str s ∧ Neat s

theorem neat_ne_empty {s : String} (h : Neat s) : s ≠ "" := by
  rintro rfl
  cases h.1.1

theorem neat_description {fields : List (String × Value)}
    (h : ∀ n x, Value.lookup? n fields = some x → ∃ s, x = .str s ∧ Neat s) (a : Argument) :
    Neat (entryOf fields a).description := by
  unfold entryOf
  dsimp only
  cases hx : Value.lookup? a.name fields with
  | none => exact (by decide : Neat "DESCRIPTION")
  | some x =>
    obtain ⟨s, rfl, hs⟩ := h _ _ hx
    exact hs

theorem neat_plainContent {f : FunctionRecord} (hname : IsWord f.name) {args : List (String × Value)}
    (hargs : ∀ n, Value.lookup? n args = if n ∈ f.args.map Argument.name then some placeholder else none) :
    NeatContent (plainContent f args) := by
  have hfeed : '\n' ∉ f.name.toList := not_mem_of_isWord hname rfl
  refine ⟨⟨_, rfl, ⟨?_, ?_⟩, ?_⟩, ⟨_, rfl, fun n x hx => ?_⟩, ⟨_, rfl, by decide⟩, ⟨_, rfl, nofun⟩⟩
  · have hfirst : Text.isBlank 'S' = false := rfl
    simp [Value.text, hfirst]
  · have hlast : Text.isBlank '.' = false := rfl
    simp [Value.text, List.getLast?_cons, List.getLast?_append, hlast]
  · simp [Value.text, hfeed]
  · rw [hargs] at hx
    split at hx
    · cases hx
      exact ⟨_, rfl, by decide⟩
    · cases hx

theorem neat_shown (f : FunctionRecord) {summary returns : String} {args raises : List (String × Value)}
    (hs : Neat summary) (ha : ∀ n x, Value.lookup? n args = some x → ∃ s, x = .str s ∧ Neat s) (hr : Neat returns)
    (hx : ∀ x ∈ raises, ∃ s, x.2 = .str s ∧ Neat s) :
    (Shown.ofContent f summary args returns raises).Neat ∧
      ((∀ t ∈ f.returns, '\n' ∉ t.toList) → (∀ x ∈ raises, '\n' ∉ x.1.toList) →
        (Shown.ofContent f summary args returns raises).OnLines) := by
  have hentries : ∀ e ∈ f.args.map (entryOf args), Neat e.description := by
    intro e he
    obtain ⟨a, -, rfl⟩ := List.mem_map.1 he
    exact neat_description ha a
  have hreturned : ∀ r ∈ returnedOf f returns, r.1 ∈ f.returns ∧ Neat r.2 := by
    intro r hmem
    obtain ⟨t, ht, rfl⟩ := Option.map_eq_some_iff.1 hmem
    exact ⟨(Option.filter_eq_some_iff.1 ht).1, hr⟩
  have hraised : ∀ x ∈ raisedOf raises, (∃ y ∈ raises, y.1 = x.1) ∧ Neat x.2 := by
    intro x hmem
    obtain ⟨y, hy, rfl⟩ := List.mem_map.1 hmem
    obtain ⟨s, hys, hs⟩ := hx y hy
    refine ⟨⟨y, hy, rfl⟩, ?_⟩
    rw [hys]
    exact hs
  refine ⟨⟨hs.1, fun e he => (hentries e he).1, fun r hr => (hreturned r hr).2.1, fun x hx => (hraised x hx).2.1⟩,
    fun htypes hnames => ⟨fun r hr => ⟨htypes _ (hreturned r hr).1, (hreturned r hr).2.2⟩, fun x hx => ⟨?_, (hraised x hx).2.2⟩⟩⟩
  obtain ⟨⟨y, hy, hyx⟩, -⟩ := hraised x hx
  exact hyx ▸ hnames y hy

/-- **Neat content can be laid out in every style, and the entries are those of the arguments.** -/
theorem layout_entries {f : FunctionRecord} (hnames : ∀ a ∈ f.args, IsWord a.name) {v : Value} (h : NeatContent v) :
    ∃ args raises, v.field "args" = .ok (.dict args) ∧ v.field "raises" = .ok (.dict raises) ∧
      ∀ style : Style, ∃ doc tail, style.layout f.value v = .ok doc ∧
        "\"\"\"\n".toList <+: doc.toList ∧ "\n\"\"\"".toList <:+ doc.toList ∧
        (∀ known unknown, f.args.map shownType = known ++ unknown → (∀ t ∈ unknown, PlainType t) →
          entriesIn style known doc = some (f.args.map (entryOf args), tail)) ∧
        ((∀ t ∈ f.returns, '\n' ∉ t.toList) → (∀ x ∈ raises, '\n' ∉ x.1.toList) →
          ¬ style.entryForm.opening <:+: tail) := by
  obtain ⟨⟨summary, hs, hs'⟩, ⟨args, ha, ha'⟩, ⟨returns, hr, hr'⟩, ⟨raises, hx, hx'⟩⟩ := h
  obtain ⟨hneat, hlines⟩ := neat_shown f hs' ha' hr' hx'
  refine ⟨args, raises, ha, hx, fun style => ?_⟩
  obtain ⟨doc, hdoc, htext⟩ := layout_text style f hs ha hr hx (neat_ne_empty hr') hneat
  obtain ⟨hopen, hclose⟩ := quoted_docText style (.ofContent f summary args returns raises)
  refine ⟨doc, _, hdoc, htext ▸ hopen, htext ▸ hclose, fun known unknown htypes hplain => ?_,
    fun htypes hkeys => tail_apart (hlines htypes hkeys) style⟩
  refine entriesIn_docText htext hs'.2 ?_ (ends_tail style _) ?_ fun t ht => clearType_of_plain (hplain t ht) style
  · intro e he
    obtain ⟨a, ha, rfl⟩ := List.mem_map.1 he
    exact shows_entry style (hnames a ha) (neat_description ha' a).2
  · rw [List.map_map]
    exact htypes

/-- The name of a style. -/
def Style.name : Style → String
  | .google => "google"
  | .numpy => "numpy"
  | .rest => "rest"

theorem ofValue_name (style : Style) : Style.ofValue (.str style.name) = .ok style := by
  cases style <;> rfl

/-- The docstring that comes of a model's answer about a function, in a style. -/
def docstringIn (style : Style) (key : String) (answer : String → String) (f : FunctionRecord) : Except Fault String := do
  generate f.value (.str style.name) (← (ask (some key) answer f.value).content)

/-- **A docstring documents exactly the arguments of its function.** A model is asked about a function of a program, and what
it answers is neat content if it is JSON.  There is no docstring if an integer in the answer is too long to be read, whether
or not the rest is JSON.  Otherwise there is one in every style, between triple quotes on lines of their own.  Its entries are
those of the arguments in order, each with its type and what is said about it, or with placeholders.  A reader finds them
without being told the types if these are plain, and there are no others behind them if what follows is on lines of its
own. -/
theorem docstring_entries {cs : List Char} {body : List Source.Stmt} (hparse : Source.parse cs = .ok body)
    {f : FunctionRecord} (hf : f ∈ Definition.functionRecords body) {key : String} (hkey : key ≠ "")
    {answer : String → String}
    (hneat : ∀ v, Json.read (answer (Subject.ofFunction f).prompt).toList = .ok v → NeatContent v) :
    (∀ e, Json.read (answer (Subject.ofFunction f).prompt).toList = .error e → Unreadable e →
      ∀ style, docstringIn style key answer f = .error (.badJson e (answer (Subject.ofFunction f).prompt).toList)) ∧
    ((∀ e, Json.read (answer (Subject.ofFunction f).prompt).toList = .error e → ¬ Unreadable e) →
      ∃ content args raises, (ask (some key) answer f.value).content = .ok content ∧
        content.field "args" = .ok (.dict args) ∧ content.field "raises" = .ok (.dict raises) ∧
        ∀ style : Style, ∃ doc tail, docstringIn style key answer f = .ok doc ∧
          "\"\"\"\n".toList <+: doc.toList ∧ "\n\"\"\"".toList <:+ doc.toList ∧
          (∀ known unknown, f.args.map shownType = known ++ unknown → (∀ t ∈ unknown, PlainType t) →
            entriesIn style known doc = some (f.args.map (entryOf args), tail)) ∧
          ((∀ t ∈ f.returns, '\n' ∉ t.toList) → (∀ x ∈ raises, '\n' ∉ x.1.toList) →
            ¬ style.entryForm.opening <:+: tail)) := by
  obtain ⟨hname, hnames⟩ := Source.parse_names hparse hf
  unfold docstringIn
  rw [ask_value f hkey answer]
  refine ⟨fun e he hbad style => ?_, fun hread => ?_⟩
  · rw [contentOf_unreadable he hbad]
    rfl
  · have hcontent : ∃ content, contentOf (Subject.ofFunction f) (answer (Subject.ofFunction f).prompt) = .ok content ∧
        NeatContent content := by
      cases hjson : Json.read (answer (Subject.ofFunction f).prompt).toList with
      | ok v => exact ⟨v, contentOf_json hjson, hneat v hjson⟩
      | error e =>
        obtain ⟨args, hfallback, hargs⟩ := fallback_ofFunction f
        exact ⟨_, (contentOf_refused hjson (hread e hjson)).trans hfallback, neat_plainContent hname hargs⟩
    obtain ⟨content, hcontent, hneat'⟩ := hcontent
    obtain ⟨args, raises, ha, hx, hstyles⟩ := layout_entries hnames hneat'
    refine ⟨content, args, raises, hcontent, ha, hx, fun style => ?_⟩
    obtain ⟨doc, tail, hdoc, hrest⟩ := hstyles style
    refine ⟨doc, tail, Result.bind_eq_ok_iff.2 ⟨content, hcontent, ?_⟩, hrest⟩
    exact Result.bind_eq_ok_iff.2 ⟨style, ofValue_name style, hdoc⟩

def sampleSource : List Char := "def add(x, y: int):\n    return x + y\n".toList

def sampleRecord : FunctionRecord :=
  ⟨"add", 1, 2, [⟨"x", none⟩, ⟨"y", some "int"⟩], [], none, false, 1, 0, [], false, 4⟩

theorem parse_sampleSource : ∃ body, Source.parse sampleSource = .ok body ∧
    sampleRecord ∈ Definition.functionRecords body := by
  have h : ((Source.parse sampleSource).toOption.any fun body =>
      decide (Definition.functionRecords body = [sampleRecord])) = true := by
    decide +kernel
  obtain ⟨body, hparse, hrecords⟩ := Result.any_toOption_iff.1 h
  refine ⟨body, hparse, ?_⟩
  rw [of_decide_eq_true hrecords]
  exact List.mem_singleton_self _

def sampleContent : Value :=
  .dict [("summary", .str "Add."), ("args", .dict [("x", .str "One."), ("z", .str "No.")]), ("returns", .str "Sum."),
    ("raises", .dict [])]

theorem storable_sampleContent : Json.Storable sampleContent := by
  have hargs : Json.Storable (.dict [("x", .str "One."), ("z", .str "No.")]) :=
    .dict (by decide) (by simp [Json.Storable.str])
  have hraises : Json.Storable (.dict []) := .dict (by decide) nofun
  exact .dict (by decide) (by simp [Json.Storable.str, hargs, hraises])

theorem neat_sampleContent : NeatContent sampleContent := by
  refine ⟨⟨_, rfl, by decide⟩, ⟨_, rfl, fun n x hx => ?_⟩, ⟨_, rfl, by decide⟩, ⟨_, rfl, nofun⟩⟩
  simp only [Value.lookup?] at hx
  split at hx
  · cases hx
    exact ⟨_, rfl, by decide⟩
  · split at hx
    · cases hx
      exact ⟨_, rfl, by decide⟩
    · cases hx

def sampleAnswer (_prompt : String) : String := String.ofList (Json.indented sampleContent)

theorem read_sampleAnswer (prompt : String) : Json.read (sampleAnswer prompt).toList = .ok sampleContent := by
  rw [sampleAnswer, String.toList_ofList]
  exact Json.read_render Json.isBlank_indented storable_sampleContent

/-- Both arguments have an entry in every style, and nothing else has. -/
theorem docstring_entries_sample :
    "key" ≠ "" ∧ (∃ body, Source.parse sampleSource = .ok body ∧ sampleRecord ∈ Definition.functionRecords body) ∧
      NeatContent sampleContent ∧
      ∀ style : Style, ∃ doc tail, docstringIn style "key" sampleAnswer sampleRecord = .ok doc ∧
        entriesIn style [] doc = some ([⟨"x", "TYPE", "One."⟩, ⟨"y", "int", "DESCRIPTION"⟩], tail) ∧
        ¬ style.entryForm.opening <:+: tail := by
  have hkey : "key" ≠ "" := by decide
  obtain ⟨body, hparse, hf⟩ := parse_sampleSource
  have hread := read_sampleAnswer (Subject.ofFunction sampleRecord).prompt
  have hneat : ∀ v, Json.read (sampleAnswer (Subject.ofFunction sampleRecord).prompt).toList = .ok v → NeatContent v := by
    intro v hv
    cases hread.symm.trans hv
    exact neat_sampleContent
  obtain ⟨-, hentries⟩ := docstring_entries hparse hf hkey hneat
  obtain ⟨content, args, raises, hcontent, hargs, hraises, hstyles⟩ := hentries fun e he => by
    cases hread.symm.trans he
  have hsame : content = sampleContent := by
    rw [ask_value sampleRecord hkey, contentOf_json hread] at hcontent
    exact (Except.ok.inj hcontent).symm
  subst hsame
  cases hargs
  cases hraises
  refine ⟨hkey, ⟨body, hparse, hf⟩, neat_sampleContent, fun style => ?_⟩
  obtain ⟨doc, tail, hdoc, -, -, hread, hapart⟩ := hstyles style
  exact ⟨doc, tail, hdoc, hread [] ["TYPE", "int"] rfl (by decide), hapart nofun nofun⟩

end Suggestion
end DocReview
