import DocReview.Proofs.Definition.Cleaning
import DocReview.Proofs.Suggestion.Content
import DocReview.Proofs.Text.Lines
import DocReview.Suggestion.Style
/-!
# Layout — documented content in every style

Whatever the style, the lines of a docstring for a scanned function are texts if the content has the documented form, so
they can be joined (`layout_documented`).  What stands between the triple quotes is then made of the content, the record and
a few fixed words: if the characters of the first two pass a test that the words pass, all do, and what the summary says is
there (`layout_over`).
-/
namespace DocReview

/-! ## Characters that pass a test -/

namespace Text

def Over (p : Char → Bool) (s : String) : Prop := s.toList.all p = true

instance (p : Char → Bool) (s : String) : Decidable (Over p s) := inferInstanceAs (Decidable (_ = true))

theorem over_true (s : String) : Over (fun _ => true) s := List.all_eq_true.2 fun _ _ => rfl

theorem over_append {p : Char → Bool} {s t : String} (hs : Over p s) (ht : Over p t) : Over p (s ++ t) := by
  unfold Over
  rw [String.toList_append, List.all_append, hs, ht]
  rfl

theorem over_ofList {p : Char → Bool} {cs : List Char} (h : ∀ c ∈ cs, p c = true) : Over p (String.ofList cs) := by
  unfold Over
  rw [String.toList_ofList]
  exact List.all_eq_true.2 h

theorem Over.mono {p q : Char → Bool} {s : String} (h : Over p s) (hq : ∀ c, p c = true → q c = true) : Over q s :=
  List.all_eq_true.2 fun c hc => hq c (List.all_eq_true.1 h c hc)

end Text

namespace Value

open Text (Over over_true)

/-- All of them are texts whose characters pass the test. -/
def TextsOver (p : Char → Bool) (vs : List Value) : Prop := ∀ v ∈ vs, ∃ s, v = .str s ∧ Over p s

abbrev Texts (vs : List Value) : Prop := TextsOver (fun _ => true) vs

section Texts

variable {p : Char → Bool}

theorem texts_nil : TextsOver p [] := fun _ h => by cases h

theorem texts_cons {s : String} {vs : List Value} (hs : Over p s) (h : TextsOver p vs) : TextsOver p (.str s :: vs) := by
  intro v hv
  rcases List.mem_cons.1 hv with rfl | hv
  · exact ⟨s, rfl, hs⟩
  · exact h v hv

theorem texts_append {vs ws : List Value} (hv : TextsOver p vs) (hw : TextsOver p ws) : TextsOver p (vs ++ ws) :=
  fun v hmem => (List.mem_append.1 hmem).elim (hv v) (hw v)

theorem texts_flatten {vss : List (List Value)} (h : ∀ vs ∈ vss, TextsOver p vs) : TextsOver p vss.flatten := by
  intro v hv
  obtain ⟨vs, hvs, hmem⟩ := List.mem_flatten.1 hv
  exact h vs hvs v hmem

theorem texts_mapOver {α : Type} {f : α → String} {l : List α} (h : ∀ x ∈ l, Over p (f x)) :
    TextsOver p (l.map fun x => .str (f x)) := by
  intro v hv
  obtain ⟨x, hx, rfl⟩ := List.mem_map.1 hv
  exact ⟨f x, rfl, h x hx⟩

theorem itemTexts_texts : ∀ {vs : List Value} (i : Nat), TextsOver p vs → ∃ ls, itemTexts i vs = .ok ls ∧
    (∀ l ∈ ls, ∀ c ∈ l, p c = true) ∧ ∀ s, .str s ∈ vs → s.toList ∈ ls
  | [], _, _ => ⟨[], rfl, nofun, nofun⟩
  | v :: vs, i, h => by
    obtain ⟨s, rfl, hs⟩ := h v List.mem_cons_self
    obtain ⟨ls, hls, hp, hmem⟩ := itemTexts_texts (i + 1) fun w hw => h w (List.mem_cons_of_mem _ hw)
    refine ⟨s.toList :: ls, Result.bind_eq_ok_iff.2 ⟨ls, hls, rfl⟩, fun l hl => ?_, fun t ht => ?_⟩
    · rcases List.mem_cons.1 hl with rfl | hl
      · exact List.all_eq_true.1 hs
      · exact hp l hl
    · rcases List.mem_cons.1 ht with ht | ht
      · cases ht
        exact List.mem_cons_self
      · exact List.mem_cons_of_mem _ (hmem t ht)

theorem join_over {vs : List Value} (h : TextsOver p vs) {separator : String} (hsep : Over p separator) :
    ∃ s, join separator vs = .ok s ∧ Over p s ∧ ∀ t, .str t ∈ vs → ∀ c ∈ t.toList, c ∈ s.toList := by
  obtain ⟨ls, hls, hp, hmem⟩ := itemTexts_texts 0 h
  refine ⟨_, Result.bind_eq_ok_iff.2 ⟨ls, hls, rfl⟩, Text.over_ofList fun c hc => ?_, fun t ht c hc => ?_⟩
  · rcases Text.mem_of_mem_joinWith hc with hc | ⟨l, hl, hc⟩
    · exact List.all_eq_true.1 hsep c hc
    · exact hp l hl c hc
  · rw [String.toList_ofList]
    exact Text.mem_joinWith _ hc (hmem t ht)

end Texts

theorem texts_map {α : Type} (f : α → String) (l : List α) : Texts (l.map fun x => .str (f x)) :=
  texts_mapOver fun _ _ => over_true _

theorem join_texts {vs : List Value} (h : Texts vs) (separator : String) : ∃ s, join separator vs = .ok s := by
  obtain ⟨s, hs, -⟩ := join_over h (over_true separator)
  exact ⟨s, hs⟩

end Value

namespace Suggestion

open Definition (FunctionRecord Argument)
open Text (Over over_append over_true)
open Value (TextsOver texts_nil texts_cons texts_append texts_flatten texts_mapOver)

/-! ## The parts of a docstring -/

/-- The texts of the record that docstrings show pass the test. -/
structure RecordOver (p : Char → Bool) (f : FunctionRecord) : Prop where
  names : ∀ a ∈ f.args, Over p a.name
  hints : ∀ a ∈ f.args, ∀ hint ∈ a.hint, Over p hint
  returns : ∀ hint ∈ f.returns, Over p hint

/-- Content of the documented form, in which the texts that docstrings show pass the test. -/
structure ContentOver (p : Char → Bool) (v : Value) : Prop where
  summary : ∃ s, v.field "summary" = .ok (.str s) ∧ Over p s
  args : ∃ fields, v.field "args" = .ok (.dict fields) ∧ ∀ x ∈ fields, Over p x.2.text
  returns : ∃ s, v.field "returns" = .ok (.str s) ∧ Over p s
  raises : ∃ fields, v.field "raises" = .ok (.dict fields) ∧ ∀ x ∈ fields, Over p x.1 ∧ Over p x.2.text

theorem Documented.over {v : Value} (h : Documented v) : ContentOver (fun _ => true) v := by
  obtain ⟨⟨summary, hs⟩, ⟨args, ha⟩, ⟨returns, hr⟩, ⟨raises, hx⟩⟩ := h
  exact ⟨⟨summary, hs, over_true _⟩, ⟨args, ha, fun _ _ => over_true _⟩, ⟨returns, hr, over_true _⟩,
    ⟨raises, hx, fun _ _ => ⟨over_true _, over_true _⟩⟩⟩

/-- Whether a character stands for itself between quotes. -/
def isQuotable (c : Char) : Bool := c ≠ '"' && c ≠ '\\' && c ≠ '\x00'

theorem ofContent_fields (f : FunctionRecord) {v summary args returns raises : Value} (hs : v.field "summary" = .ok summary)
    (ha : v.field "args" = .ok args) (hr : v.field "returns" = .ok returns) (hx : v.field "raises" = .ok raises)
    (plain : Value → Value) : Parts.ofContent f.value v plain = .ok ⟨summary, args, returns, raises⟩ := by
  cases v with
  | dict fields =>
    refine Result.bind_eq_ok_iff.2 ⟨.str f.name, rfl, Result.bind_eq_ok_iff.2 ⟨_, Value.get_of_field hs, ?_⟩⟩
    refine Result.bind_eq_ok_iff.2 ⟨_, Value.get_of_field ha, Result.bind_eq_ok_iff.2 ⟨_, Value.get_of_field hr, ?_⟩⟩
    exact Result.bind_eq_ok_iff.2 ⟨_, Value.get_of_field hx, rfl⟩
  | _ => cases hs

section Over

variable {p : Char → Bool} (hp : ∀ c, isQuotable c = true → p c = true)

theorem ofContent_over (f : FunctionRecord) {v : Value} (h : ContentOver p v) (plain : Value → Value) :
    ∃ summary args returns raises,
      Parts.ofContent f.value v plain = .ok ⟨.str summary, .dict args, .str returns, .dict raises⟩ ∧
        v.field "summary" = .ok (.str summary) ∧ Over p summary ∧ (∀ x ∈ args, Over p x.2.text) ∧ Over p returns ∧
        ∀ x ∈ raises, Over p x.1 ∧ Over p x.2.text := by
  obtain ⟨⟨summary, hs, hs'⟩, ⟨args, ha, ha'⟩, ⟨returns, hr, hr'⟩, ⟨raises, hx, hx'⟩⟩ := h
  exact ⟨summary, args, returns, raises, ofContent_fields f hs ha hr hx plain, hs, hs', ha', hr', hx'⟩

include hp in
theorem over_word (s : String) (h : Over isQuotable s) : Over p s := h.mono hp

theorem over_ofText? {hint : Option String} (h : ∀ s ∈ hint, Over p s) (ht : (Value.ofText? hint).truthy = true) :
    Over p (Value.ofText? hint).text := by
  cases hint with
  | none => cases ht
  | some s => exact h s rfl

include hp in
theorem over_orElse {v : Value} (h : v.truthy = true → Over p v.text) {word : String} (hword : Over isQuotable word) :
    Over p (v.orElse (.str word)).text := by
  unfold Value.orElse
  split
  · next ht => exact h ht
  · exact over_word hp word hword

include hp in
theorem over_description {fields : List (String × Value)} (h : ∀ x ∈ fields, Over p x.2.text) (key : String) :
    Over p ((Value.lookup? key fields).getD placeholder).text := by
  induction fields with
  | nil => exact over_word hp "DESCRIPTION" (by decide)
  | cons x fields ih =>
    obtain ⟨k, v⟩ := x
    unfold Value.lookup?
    split
    · exact h (k, v) List.mem_cons_self
    · exact ih fun y hy => h y (List.mem_cons_of_mem _ hy)

/-! ## Sections -/

theorem texts_described {f : FunctionRecord} (describe : Value → Except Fault (List Value))
    (h : ∀ a ∈ f.args, ∃ ls, describe a.value = .ok ls ∧ TextsOver p ls) :
    ∃ ls, (f.args.map Argument.value).mapM describe = .ok ls ∧ TextsOver p ls.flatten := by
  obtain ⟨ls, hls, htexts⟩ := Result.exists_mapM (f := describe) (P := TextsOver p) (l := f.args.map Argument.value)
    fun v hv => by
      obtain ⟨a, ha, rfl⟩ := List.mem_map.1 hv
      exact h a ha
  exact ⟨ls, hls, texts_flatten htexts⟩

section Arguments

variable {f : FunctionRecord} (hf : RecordOver p f) {descriptions : List (String × Value)}
  (hd : ∀ x ∈ descriptions, Over p x.2.text)

include hp hf

theorem over_type {a : Argument} (ha : a ∈ f.args) : Over p ((Value.ofText? a.hint).orElse (.str "TYPE")).text :=
  over_orElse hp (over_ofText? (hf.hints a ha)) (by decide)

include hd

theorem texts_googleArguments :
    ∃ ls, googleArguments (.list (f.args.map Argument.value)) (.dict descriptions) = .ok ls ∧ TextsOver p ls := by
  unfold googleArguments
  split
  · obtain ⟨ls, hls, htexts⟩ := Result.exists_mapM (f := googleArgument (.dict descriptions))
      (P := fun v => ∃ s, v = .str s ∧ Over p s) (l := f.args.map Argument.value) fun v hv => by
        obtain ⟨a, ha, rfl⟩ := List.mem_map.1 hv
        have hname := over_append (over_word hp "    " (by decide)) (hf.names a ha)
        have htype := over_append (over_append hname (over_word hp " (" (by decide))) (over_type hp hf ha)
        have hcolon := over_append htype (over_word hp "): " (by decide))
        exact ⟨_, rfl, _, rfl, over_append hcolon (over_description hp hd a.name)⟩
    refine ⟨_, Result.bind_eq_ok_iff.2 ⟨_, rfl, Result.bind_eq_ok_iff.2 ⟨ls, hls, rfl⟩⟩, ?_⟩
    exact texts_append (texts_cons (over_word hp _ (by decide)) htexts) (texts_cons (over_word hp _ (by decide)) texts_nil)
  · exact ⟨[], rfl, texts_nil⟩

theorem texts_numpyArguments : ∃ ls, (f.args.map Argument.value).mapM (numpyArgument (.dict descriptions)) = .ok ls ∧
    TextsOver p ls.flatten := by
  refine texts_described _ fun a ha => ⟨_, rfl, texts_cons ?_ (texts_cons ?_ texts_nil)⟩
  · exact over_append (over_append (hf.names a ha) (over_word hp " : " (by decide))) (over_type hp hf ha)
  · exact over_append (over_word hp "    " (by decide)) (over_description hp hd a.name)

theorem texts_restArguments : ∃ ls, (f.args.map Argument.value).mapM (restArgument (.dict descriptions)) = .ok ls ∧
    TextsOver p ls.flatten := by
  refine texts_described _ fun a ha => ⟨_, rfl, texts_cons ?_ (texts_cons ?_ texts_nil)⟩
  · have hname := over_append (over_word hp ":param " (by decide)) (hf.names a ha)
    exact over_append (over_append hname (over_word hp ": " (by decide))) (over_description hp hd a.name)
  · have hname := over_append (over_word hp ":type " (by decide)) (hf.names a ha)
    exact over_append (over_append hname (over_word hp ": " (by decide))) (over_type hp hf ha)

end Arguments

section Returns

variable {f : FunctionRecord} (hf : RecordOver p f) {description : String} (h : Over p description)

include hp h in
theorem over_returned : Over p ((Value.str description).orElse placeholder).text :=
  over_orElse hp (v := .str description) (fun _ => h) (by decide)

include hp hf h

theorem texts_googleReturns : TextsOver p (googleReturns (.ofText? f.returns) (.str description)) := by
  unfold googleReturns
  split
  · next ht =>
    have htype := over_append (over_word hp "Returns:\n    " (by decide)) (over_ofText? hf.returns ht)
    have hline := over_append (over_append htype (over_word hp ": " (by decide))) (over_returned hp h)
    exact texts_cons hline (texts_cons (over_word hp "" (by decide)) texts_nil)
  · exact texts_nil

theorem texts_numpyReturns : TextsOver p (numpyReturns (.ofText? f.returns) (.str description)) := by
  unfold numpyReturns
  split
  · next ht =>
    have hlast := texts_cons (over_append (over_word hp "    " (by decide)) (over_returned hp h)) texts_nil
    exact texts_cons (over_word hp "" (by decide)) (texts_cons (over_word hp "Returns" (by decide))
      (texts_cons (over_word hp "-------" (by decide)) (texts_cons (over_ofText? hf.returns ht) hlast)))
  · exact texts_nil

theorem texts_restReturns : TextsOver p (restReturns (.ofText? f.returns) (.str description)) := by
  unfold restReturns
  split
  · next ht =>
    have htype := over_append (over_word hp ":rtype: " (by decide)) (over_ofText? hf.returns ht)
    exact texts_cons (over_append (over_word hp ":return: " (by decide)) (over_returned hp h)) (texts_cons htype texts_nil)
  · exact texts_nil

end Returns

section Raises

variable {fields : List (String × Value)} (h : ∀ x ∈ fields, Over p x.1 ∧ Over p x.2.text)

include hp h

theorem texts_googleRaises : ∃ ls, googleRaises (.dict fields) = .ok ls ∧ TextsOver p ls := by
  unfold googleRaises
  split
  · refine ⟨_, rfl, texts_append (texts_cons (over_word hp "Raises:" (by decide)) (texts_mapOver fun x hx => ?_))
      (texts_cons (over_word hp "" (by decide)) texts_nil)⟩
    have hname := over_append (over_word hp "    " (by decide)) (h x hx).1
    exact over_append (over_append hname (over_word hp ": " (by decide))) (h x hx).2
  · exact ⟨[], rfl, texts_nil⟩

theorem texts_numpyRaises : ∃ ls, numpyRaises (.dict fields) = .ok ls ∧ TextsOver p ls := by
  unfold numpyRaises
  split
  · refine ⟨_, rfl, texts_append (texts_cons (over_word hp "" (by decide)) (texts_cons (over_word hp "Raises" (by decide))
      (texts_cons (over_word hp "------" (by decide)) texts_nil))) ?_⟩
    intro v hv
    obtain ⟨x, hx, hmem⟩ := List.mem_flatMap.1 hv
    have hreason := over_append (over_word hp "    " (by decide)) (h x hx).2
    exact texts_cons (h x hx).1 (texts_cons hreason texts_nil) v hmem
  · exact ⟨[], rfl, texts_nil⟩

theorem texts_restRaises : TextsOver p (fields.map fun x => .str (":raises " ++ x.1 ++ ": " ++ x.2.text)) :=
  texts_mapOver fun x hx => by
    have hname := over_append (over_word hp ":raises " (by decide)) (h x hx).1
    exact over_append (over_append hname (over_word hp ": " (by decide))) (h x hx).2

end Raises

/-! ## Whole docstrings -/

theorem join_below {summary : String} (hs : Over p summary) {lines : List Value} (hl : TextsOver p lines)
    (hsep : Over p "\n") : ∃ body, Value.join "\n" (.str summary :: lines) = .ok body ∧ Over p body ∧
      ∀ c ∈ summary.toList, c ∈ body.toList := by
  obtain ⟨body, hbody, hover, hmem⟩ := Value.join_over (texts_cons hs hl) hsep
  exact ⟨body, hbody, hover, fun c hc => hmem summary List.mem_cons_self c hc⟩

include hp in
/-- **Documented content can be laid out in every style**, between triple quotes.  What stands there passes the test, and
says what the summary says. -/
theorem layout_over (style : Style) {f : FunctionRecord} (hf : RecordOver p f) {v : Value} (h : ContentOver p v) :
    ∃ body, style.layout f.value v = .ok (tripleQuoted body) ∧ Over p body ∧
      ∀ s, v.field "summary" = .ok (.str s) → ∀ c ∈ s.toList, Text.isBlank c = false → c ∈ body.toList := by
  have hempty : Over p "" := over_word hp "" (by decide)
  have hsep : Over p "\n" := over_word hp "\n" (by decide)
  cases style with
  | google =>
    obtain ⟨summary, args, returns, raises, hparts, hfield, hs, ha, hr, hx⟩ := ofContent_over f h plainSummary
    obtain ⟨arguments, harguments, hta⟩ := texts_googleArguments hp hf ha
    obtain ⟨exceptions, hexceptions, hte⟩ := texts_googleRaises hp hx
    obtain ⟨body, hbody, hover, hmem⟩ := join_below hs (texts_append (texts_append (texts_append
      (texts_cons hempty texts_nil) hta) (texts_googleReturns hp hf hr)) hte) hsep
    refine ⟨String.ofList (Text.trim body.toList), Result.bind_eq_ok_iff.2 ⟨_, hparts, ?_⟩, ?_, fun s hfield' c hc hblank => ?_⟩
    · refine Result.bind_eq_ok_iff.2 ⟨_, rfl, Result.bind_eq_ok_iff.2 ⟨_, harguments, Result.bind_eq_ok_iff.2 ⟨_, rfl, ?_⟩⟩⟩
      exact Result.bind_eq_ok_iff.2 ⟨_, hexceptions, Result.bind_eq_ok_iff.2 ⟨body, hbody, rfl⟩⟩
    · exact Text.over_ofList fun c hc => List.all_eq_true.1 hover c (Text.mem_of_mem_trim hc)
    · cases hfield.symm.trans hfield'
      rw [String.toList_ofList]
      exact Text.mem_trim (hmem c hc) hblank
  | numpy =>
    obtain ⟨summary, args, returns, raises, hparts, hfield, hs, ha, hr, hx⟩ := ofContent_over f h functionSummary
    obtain ⟨arguments, harguments, hta⟩ := texts_numpyArguments hp hf ha
    obtain ⟨exceptions, hexceptions, hte⟩ := texts_numpyRaises hp hx
    obtain ⟨body, hbody, hover, hmem⟩ := join_below hs (texts_append (texts_append (texts_append
      (texts_cons hempty (texts_cons (over_word hp "Parameters" (by decide)) (texts_cons (over_word hp "----------" (by decide))
        texts_nil))) hta) (texts_numpyReturns hp hf hr)) hte) hsep
    refine ⟨body, Result.bind_eq_ok_iff.2 ⟨_, hparts, ?_⟩, hover, fun s hfield' c hc _ => ?_⟩
    · refine Result.bind_eq_ok_iff.2 ⟨_, rfl, Result.bind_eq_ok_iff.2 ⟨_, rfl, Result.bind_eq_ok_iff.2 ⟨_, harguments, ?_⟩⟩⟩
      refine Result.bind_eq_ok_iff.2 ⟨_, rfl, Result.bind_eq_ok_iff.2 ⟨_, hexceptions, ?_⟩⟩
      exact Result.bind_eq_ok_iff.2 ⟨body, hbody, rfl⟩
    · cases hfield.symm.trans hfield'
      exact hmem c hc
  | rest =>
    obtain ⟨summary, args, returns, raises, hparts, hfield, hs, ha, hr, hx⟩ := ofContent_over f h functionSummary
    obtain ⟨arguments, harguments, hta⟩ := texts_restArguments hp hf ha
    obtain ⟨body, hbody, hover, hmem⟩ := join_below hs (texts_append (texts_append (texts_append
      (texts_cons hempty texts_nil) hta) (texts_restReturns hp hf hr)) (texts_restRaises hp hx)) hsep
    refine ⟨body, Result.bind_eq_ok_iff.2 ⟨_, hparts, ?_⟩, hover, fun s hfield' c hc _ => ?_⟩
    · refine Result.bind_eq_ok_iff.2 ⟨_, rfl, Result.bind_eq_ok_iff.2 ⟨_, rfl, Result.bind_eq_ok_iff.2 ⟨_, harguments, ?_⟩⟩⟩
      refine Result.bind_eq_ok_iff.2 ⟨_, rfl, Result.bind_eq_ok_iff.2 ⟨_, rfl, ?_⟩⟩
      exact Result.bind_eq_ok_iff.2 ⟨body, hbody, rfl⟩
    · cases hfield.symm.trans hfield'
      exact hmem c hc

end Over

theorem recordOver_true (f : FunctionRecord) : RecordOver (fun _ => true) f :=
  ⟨fun _ _ => over_true _, fun _ _ _ _ => over_true _, fun _ _ => over_true _⟩

/-- **Documented content can be laid out in every style**, between triple quotes. -/
theorem layout_documented (style : Style) (f : FunctionRecord) {v : Value} (h : Documented v) :
    ∃ body, style.layout f.value v = .ok (tripleQuoted body) := by
  obtain ⟨body, hbody, -⟩ := layout_over (fun _ _ => rfl) style (recordOver_true f) h.over
  exact ⟨body, hbody⟩

end Suggestion
end DocReview
