import DocReview.Proofs.Suggestion.Layout
/-!
# Agreement — when a style can lay content out

Content is whatever mapping a model gave.  A style lays it out if its summary is a text and its sections can be written
(`layout_ok_iff_sections`): that on arguments if there are none or their descriptions are a mapping, and that on exceptions
if these are a mapping.  Two of the styles leave the second section out where nothing is said to be raised, whatever says so,
and the third does not.  So those two always fail together, and the third fails with them or where what is raised counts as
false but is no mapping (`layout_fails_iff`).
-/
namespace DocReview.Suggestion

open Definition (FunctionRecord Argument)
open Text (over_true)
open Value (Texts texts_nil texts_cons texts_append texts_flatten)

/-- No docstring comes of it. -/
def Fails (r : Except Fault String) : Prop := ∃ e, r = .error e

theorem fails_iff {r : Except Fault String} : Fails r ↔ ¬ ∃ s, r = .ok s := by
  cases r with
  | ok s => simp [Fails]
  | error e => simp [Fails]

/-! ## Docstrings from their sections -/

/-- A section comes to lines of text if a condition holds, and to a fault otherwise. -/
structure SectionIf {α : Type} (lines : α → List Value) (c : Prop) (r : Except Fault α) : Prop where
  texts : c → ∃ x, r = .ok x ∧ Texts (lines x)
  fault : ¬ c → ∃ e, r = .error e

theorem SectionIf.of_eq_ok {α : Type} {lines : α → List Value} {c : Prop} {r : Except Fault α} {x : α} (hr : r = .ok x)
    (hc : c) (hx : Texts (lines x)) : SectionIf lines c r :=
  ⟨fun _ => ⟨x, hr, hx⟩, fun h => absurd hc h⟩

theorem SectionIf.of_eq_error {α : Type} {lines : α → List Value} {c : Prop} {r : Except Fault α} {e : Fault}
    (hr : r = .error e) (hc : ¬ c) : SectionIf lines c r :=
  ⟨fun h => absurd h hc, fun _ => ⟨e, hr⟩⟩

theorem join_ok_iff {summary : Value} {lines : List Value} (h : Texts lines) (separator : String) :
    (∃ s, Value.join separator (summary :: lines) = .ok s) ↔ summary.kind = .str := by
  cases summary with
  | str s => exact iff_of_true (Value.join_texts (texts_cons (over_true s) h) separator) rfl
  | _ => exact iff_of_false (by rintro ⟨s, hs⟩; cases hs) nofun

/-- **A docstring comes of a text for a summary and of sections that can be written.** -/
theorem layout_ok_iff_sections {α β : Type} {v : α → List Value} {w : β → List Value} {c d : Prop}
    {arguments : Except Fault α} {raises : Except Fault β} (ha : SectionIf v c arguments) (hr : SectionIf w d raises)
    (summary : Value) {heading returns : List Value} (hheading : Texts heading) (hreturns : Texts returns)
    (finish : String → String) :
    (∃ doc, (arguments >>= fun a => raises >>= fun r =>
      Value.join "\n" (summary :: (heading ++ v a ++ returns ++ w r)) >>= fun body => .ok (finish body)) = .ok doc) ↔
      summary.kind = .str ∧ c ∧ d := by
  by_cases hc : c
  · obtain ⟨a, ha, hta⟩ := ha.texts hc
    by_cases hd : d
    · obtain ⟨r, hr, htr⟩ := hr.texts hd
      have hlines := texts_append (texts_append (texts_append hheading hta) hreturns) htr
      rw [ha, hr, ← join_ok_iff hlines "\n"]
      change (∃ doc, (Value.join "\n" _ >>= fun body => .ok (finish body)) = .ok doc) ↔ _
      constructor
      · rintro ⟨doc, hdoc⟩
        obtain ⟨body, hbody, -⟩ := Result.bind_eq_ok_iff.1 hdoc
        exact ⟨⟨body, hbody⟩, hc, hd⟩
      · rintro ⟨⟨body, hbody⟩, -⟩
        exact ⟨_, Result.bind_eq_ok_iff.2 ⟨body, hbody, rfl⟩⟩
    · obtain ⟨e, hr⟩ := hr.fault hd
      rw [ha, hr]
      exact iff_of_false (by rintro ⟨doc, hdoc⟩; cases hdoc) fun h => hd h.2.2
  · obtain ⟨e, ha⟩ := ha.fault hc
    rw [ha]
    exact iff_of_false (by rintro ⟨doc, hdoc⟩; cases hdoc) fun h => hc h.2.1

/-! ## Sections of each style -/

section Arguments

variable (f : FunctionRecord) (descriptions : Value)

/-- What a section on arguments asks: there are none, or their descriptions are a mapping. -/
def Describable : Prop := f.args = [] ∨ descriptions.kind = .dict

theorem sectionIf_googleArguments :
    SectionIf id (Describable f descriptions) (googleArguments (.list (f.args.map Argument.value)) descriptions) := by
  cases hargs : f.args with
  | nil => exact .of_eq_ok rfl (.inl hargs) texts_nil
  | cons a args =>
    cases descriptions with
    | dict fields =>
      have hall : ∀ x ∈ fields, Text.Over (fun _ => true) x.2.text := fun _ _ => over_true _
      obtain ⟨ls, hls, htexts⟩ := texts_googleArguments (fun _ _ => rfl) (recordOver_true f) hall
      rw [hargs] at hls
      exact .of_eq_ok hls (.inr rfl) htexts
    | _ => exact .of_eq_error rfl (by simp [Describable, hargs, Value.kind])

theorem sectionIf_described {describe : Value → Value → Except Fault (List Value)}
    (htexts : ∀ fields, ∃ ls, (f.args.map Argument.value).mapM (describe (.dict fields)) = .ok ls ∧ Texts ls.flatten)
    (hfault : ∀ (a : Argument) {v : Value}, v.kind ≠ .dict → ∃ e, describe v a.value = .error e) :
    SectionIf List.flatten (Describable f descriptions) ((f.args.map Argument.value).mapM (describe descriptions)) := by
  cases hargs : f.args with
  | nil => exact .of_eq_ok rfl (.inl hargs) texts_nil
  | cons a args =>
    by_cases hd : descriptions.kind = .dict
    · cases descriptions with
      | dict fields =>
        obtain ⟨ls, hls, hlines⟩ := htexts fields
        rw [hargs] at hls
        exact .of_eq_ok hls (.inr rfl) hlines
      | _ => cases hd
    · obtain ⟨e, he⟩ := hfault a hd
      refine .of_eq_error (e := e) ?_ (by simp [Describable, hargs, hd])
      rw [List.map_cons, List.mapM_cons, he]
      rfl

theorem described_fault (a : Argument) {v : Value} (hv : v.kind ≠ .dict) : ∃ e, described v a.value = .error e := by
  cases v with
  | dict fields => exact absurd rfl hv
  | _ => exact ⟨_, rfl⟩

theorem sectionIf_numpyArguments : SectionIf List.flatten (Describable f descriptions)
    ((f.args.map Argument.value).mapM (numpyArgument descriptions)) := by
  refine sectionIf_described f descriptions (fun fields => ?_) fun a v hv => ?_
  · exact texts_numpyArguments (fun _ _ => rfl) (recordOver_true f) fun _ _ => over_true _
  · obtain ⟨e, he⟩ := described_fault a hv
    exact ⟨e, by rw [numpyArgument, he]; rfl⟩

theorem sectionIf_restArguments : SectionIf List.flatten (Describable f descriptions)
    ((f.args.map Argument.value).mapM (restArgument descriptions)) := by
  refine sectionIf_described f descriptions (fun fields => ?_) fun a v hv => ?_
  · exact texts_restArguments (fun _ _ => rfl) (recordOver_true f) fun _ _ => over_true _
  · obtain ⟨e, he⟩ := described_fault a hv
    exact ⟨e, by rw [restArgument, he]; rfl⟩

end Arguments

section Returns

variable (type description : Value)

theorem texts_googleReturned : Texts (googleReturns type description) := by
  unfold googleReturns
  split
  · exact texts_cons (over_true _) (texts_cons (over_true _) texts_nil)
  · exact texts_nil

theorem texts_numpyReturned : Texts (numpyReturns type description) := by
  unfold numpyReturns
  split
  · exact texts_cons (over_true _) (texts_cons (over_true _) (texts_cons (over_true _) (texts_cons (over_true _)
      (texts_cons (over_true _) texts_nil))))
  · exact texts_nil

theorem texts_restReturned : Texts (restReturns type description) := by
  unfold restReturns
  split
  · exact texts_cons (over_true _) (texts_cons (over_true _) texts_nil)
  · exact texts_nil

end Returns

section Raises

variable (raises : Value)

/-- What two of the styles ask of what is raised: it is a mapping, or counts as false. -/
def Raisable : Prop := raises.truthy = true → raises.kind = .dict

theorem sectionIf_raises {write : Value → Except Fault (List Value)} (hfalse : ∀ {v}, v.truthy = false → write v = .ok [])
    (htexts : ∀ fields, ∃ ls, write (.dict fields) = .ok ls ∧ Texts ls)
    (hfault : ∀ {v}, v.truthy = true → v.kind ≠ .dict → ∃ e, write v = .error e) :
    SectionIf id (Raisable raises) (write raises) := by
  by_cases htrue : raises.truthy = true
  · by_cases hkind : raises.kind = .dict
    · cases raises with
      | dict fields =>
        obtain ⟨ls, hls, hlines⟩ := htexts fields
        exact .of_eq_ok hls (fun _ => rfl) hlines
      | _ => cases hkind
    · obtain ⟨e, he⟩ := hfault htrue hkind
      exact .of_eq_error he fun h => hkind (h htrue)
  · exact .of_eq_ok (hfalse (Bool.eq_false_iff.2 htrue)) (fun h => absurd h htrue) texts_nil

theorem entries_fault {v : Value} (hv : v.kind ≠ .dict) : ∃ e, v.entries = .error e := by
  cases v with
  | dict fields => exact absurd rfl hv
  | _ => exact ⟨_, rfl⟩

theorem sectionIf_googleRaises : SectionIf id (Raisable raises) (googleRaises raises) := by
  refine sectionIf_raises raises (fun hv => ?_) (fun fields => ?_) fun hv hkind => ?_
  · rw [googleRaises, hv]
    rfl
  · exact texts_googleRaises (fun _ _ => rfl) fun _ _ => ⟨over_true _, over_true _⟩
  · obtain ⟨e, he⟩ := entries_fault hkind
    exact ⟨e, by rw [googleRaises, hv, he]; rfl⟩

theorem sectionIf_numpyRaises : SectionIf id (Raisable raises) (numpyRaises raises) := by
  refine sectionIf_raises raises (fun hv => ?_) (fun fields => ?_) fun hv hkind => ?_
  · rw [numpyRaises, hv]
    rfl
  · exact texts_numpyRaises (fun _ _ => rfl) fun _ _ => ⟨over_true _, over_true _⟩
  · obtain ⟨e, he⟩ := entries_fault hkind
    exact ⟨e, by rw [numpyRaises, hv, he]; rfl⟩

/-- The third style asks for a mapping in any case. -/
theorem sectionIf_restRaises : SectionIf
    (fun entries => entries.map fun x => .str (":raises " ++ x.1 ++ ": " ++ x.2.text)) (raises.kind = .dict) raises.entries := by
  cases raises with
  | dict fields => exact .of_eq_ok rfl rfl (Value.texts_map _ fields)
  | _ => exact .of_eq_error rfl nofun

end Raises

/-! ## Whole docstrings -/

def partsOf (plain : Value) (fields : List (String × Value)) : Parts where
  summary := (Value.lookup? "summary" fields).getD plain
  args := (Value.lookup? "args" fields).getD (.dict [])
  returns := (Value.lookup? "returns" fields).getD (.str "")
  raises := (Value.lookup? "raises" fields).getD (.dict [])

theorem google_ok_iff (f : FunctionRecord) (fields : List (String × Value)) :
    let p := partsOf (plainSummary (.str f.name)) fields
    (∃ doc, Style.google.layout f.value (.dict fields) = .ok doc) ↔
      p.summary.kind = .str ∧ Describable f p.args ∧ Raisable p.raises := by
  intro p
  exact layout_ok_iff_sections (sectionIf_googleArguments f p.args) (sectionIf_googleRaises p.raises) p.summary
    (texts_cons (over_true "") texts_nil) (texts_googleReturned (.ofText? f.returns) p.returns)
    fun body => tripleQuoted (String.ofList (Text.trim body.toList))

theorem numpy_ok_iff (f : FunctionRecord) (fields : List (String × Value)) :
    let p := partsOf (functionSummary (.str f.name)) fields
    (∃ doc, Style.numpy.layout f.value (.dict fields) = .ok doc) ↔
      p.summary.kind = .str ∧ Describable f p.args ∧ Raisable p.raises := by
  intro p
  exact layout_ok_iff_sections (sectionIf_numpyArguments f p.args) (sectionIf_numpyRaises p.raises) p.summary
    (texts_cons (over_true "") (texts_cons (over_true "Parameters") (texts_cons (over_true "----------") texts_nil)))
    (texts_numpyReturned (.ofText? f.returns) p.returns) tripleQuoted

theorem rest_ok_iff (f : FunctionRecord) (fields : List (String × Value)) :
    let p := partsOf (functionSummary (.str f.name)) fields
    (∃ doc, Style.rest.layout f.value (.dict fields) = .ok doc) ↔
      p.summary.kind = .str ∧ Describable f p.args ∧ p.raises.kind = .dict := by
  intro p
  exact layout_ok_iff_sections (sectionIf_restArguments f p.args) (sectionIf_restRaises p.raises) p.summary
    (texts_cons (over_true "") texts_nil) (texts_restReturned (.ofText? f.returns) p.returns) tripleQuoted

/-! ## Which content each style takes -/

/-- What a field of content is, if the content has it. -/
def FieldIs (fields : List (String × Value)) (key : String) (P : Value → Prop) : Prop :=
  ∀ v, Value.lookup? key fields = some v → P v

theorem fieldIs_iff_getD (fields : List (String × Value)) (key : String) {P : Value → Prop} {missing : Value}
    (h : P missing) : FieldIs fields key P ↔ P ((Value.lookup? key fields).getD missing) := by
  unfold FieldIs
  cases Value.lookup? key fields with
  | none => simp [h]
  | some v => simp

/-- Content that can be laid out for a function: the summary is a text, descriptions of arguments are a mapping if there are
arguments, and so is what is raised if it counts as true; each of them may be missing. -/
structure Usable (f : FunctionRecord) (fields : List (String × Value)) : Prop where
  summary : FieldIs fields "summary" fun v => v.kind = .str
  args : FieldIs fields "args" fun v => f.args = [] ∨ v.kind = .dict
  raises : FieldIs fields "raises" fun v => v.truthy = true → v.kind = .dict

theorem usable_iff {f : FunctionRecord} {fields : List (String × Value)} {plain : Value} (hplain : plain.kind = .str) :
    Usable f fields ↔ (partsOf plain fields).summary.kind = .str ∧ Describable f (partsOf plain fields).args ∧
      Raisable (partsOf plain fields).raises := by
  have hsummary : FieldIs fields "summary" (fun v => v.kind = .str) ↔ (partsOf plain fields).summary.kind = .str :=
    fieldIs_iff_getD fields "summary" hplain
  have hargs : FieldIs fields "args" (fun v => f.args = [] ∨ v.kind = .dict) ↔ Describable f (partsOf plain fields).args :=
    fieldIs_iff_getD fields "args" (.inr rfl)
  have hraises : FieldIs fields "raises" (fun v => v.truthy = true → v.kind = .dict) ↔
      Raisable (partsOf plain fields).raises := fieldIs_iff_getD fields "raises" fun _ => rfl
  constructor
  · rintro ⟨hs, ha, hr⟩
    exact ⟨hsummary.1 hs, hargs.1 ha, hraises.1 hr⟩
  · rintro ⟨hs, ha, hr⟩
    exact ⟨hsummary.2 hs, hargs.2 ha, hraises.2 hr⟩

/-- **When the styles fail.**  For every function that was scanned and every mapping as content, two of the styles fail
exactly if the content is not usable.  The third fails exactly if it is not, or if something is said to be raised that is no
mapping, also where it counts as false.  So the style decides whether there is a docstring exactly for usable content in which
what is raised is there and no mapping. -/
theorem layout_fails_iff (f : FunctionRecord) (fields : List (String × Value)) :
    (Fails (Style.google.layout f.value (.dict fields)) ↔ ¬ Usable f fields) ∧
    (Fails (Style.numpy.layout f.value (.dict fields)) ↔ ¬ Usable f fields) ∧
    (Fails (Style.rest.layout f.value (.dict fields)) ↔
      ¬ (Usable f fields ∧ FieldIs fields "raises" fun v => v.kind = .dict)) ∧
    ((∀ s t : Style, Fails (s.layout f.value (.dict fields)) ↔ Fails (t.layout f.value (.dict fields))) ↔
      (Usable f fields → FieldIs fields "raises" fun v => v.kind = .dict)) := by
  have hgoogle : Fails (Style.google.layout f.value (.dict fields)) ↔ ¬ Usable f fields := by
    have hplain : (plainSummary (.str f.name)).kind = .str := rfl
    rw [fails_iff, usable_iff hplain]
    exact not_congr (google_ok_iff f fields)
  have hnumpy : Fails (Style.numpy.layout f.value (.dict fields)) ↔ ¬ Usable f fields := by
    have hplain : (functionSummary (.str f.name)).kind = .str := rfl
    rw [fails_iff, usable_iff hplain]
    exact not_congr (numpy_ok_iff f fields)
  have hrest : Fails (Style.rest.layout f.value (.dict fields)) ↔
      ¬ (Usable f fields ∧ FieldIs fields "raises" fun v => v.kind = .dict) := by
    have hplain : (functionSummary (.str f.name)).kind = .str := rfl
    have hraises : FieldIs fields "raises" (fun v => v.kind = .dict) ↔
        (partsOf (functionSummary (.str f.name)) fields).raises.kind = .dict := fieldIs_iff_getD fields "raises" rfl
    rw [fails_iff, usable_iff hplain, hraises]
    refine not_congr ((rest_ok_iff f fields).trans ⟨?_, ?_⟩)
    · rintro ⟨hs, ha, hr⟩
      exact ⟨⟨hs, ha, fun _ => hr⟩, hr⟩
    · rintro ⟨⟨hs, ha, -⟩, hr⟩
      exact ⟨hs, ha, hr⟩
  refine ⟨hgoogle, hnumpy, hrest, ?_⟩
  constructor
  · intro hagree husable
    have hsame := hagree .google .rest
    rw [hgoogle, hrest, not_iff_not] at hsame
    exact (hsame.1 husable).2
  · intro hmapping
    have hboth : (Usable f fields ∧ FieldIs fields "raises" fun v => v.kind = .dict) ↔ Usable f fields :=
      ⟨fun h => h.1, fun h => ⟨h, hmapping h⟩⟩
    have hone : ∀ s : Style, Fails (s.layout f.value (.dict fields)) ↔ ¬ Usable f fields := by
      intro s
      cases s with
      | google => exact hgoogle
      | numpy => exact hnumpy
      | rest => rw [hrest, hboth]
    intro s t
    rw [hone s, hone t]

/-- Where nothing is said to be raised by something that is no mapping, one style fails and the others do not. -/
theorem layout_fails_by_style :
    ¬ Fails (Style.google.layout sampleFunction.value (.dict [("raises", .none)])) ∧
      ¬ Fails (Style.numpy.layout sampleFunction.value (.dict [("raises", .none)])) ∧
      Fails (Style.rest.layout sampleFunction.value (.dict [("raises", .none)])) := by
  obtain ⟨hgoogle, hnumpy, hrest, -⟩ := layout_fails_iff sampleFunction [("raises", .none)]
  have husable : Usable sampleFunction [("raises", .none)] := by
    refine ⟨fun v hv => ?_, fun v hv => ?_, fun v hv => ?_⟩
    · cases hv
    · cases hv
    · cases hv
      exact nofun
  refine ⟨fun h => hgoogle.1 h husable, fun h => hnumpy.1 h husable, hrest.2 fun h => ?_⟩
  exact absurd (h.2 .none rfl) nofun

end DocReview.Suggestion
