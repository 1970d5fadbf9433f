import DocReview.Definition.Record
import DocReview.Proofs.Value
import DocReview.Suggestion.Content
/-!
# Content — what is made of an answer

Whatever a model answers about a function, asking it gives content in one of three ways: JSON as it is, placeholders for
what is no JSON, and a fault for a number that is too long to be read (`ask_value`).  Placeholders have the documented
form (`Documented`), with one for every argument; JSON has whatever form it has.  So the content is documented exactly if
the answer is no JSON, or is JSON of that form (`content_documented_iff`).
-/
namespace DocReview

namespace Suggestion

open Definition (FunctionRecord)

/-- The documented form of content: a mapping with a text for the summary and for what is returned, and a mapping for the
arguments and for what is raised. -/
structure Documented (v : Value) : Prop where
  summary : ∃ s, v.field "summary" = .ok (.str s)
  args : ∃ fields, v.field "args" = .ok (.dict fields)
  returns : ∃ s, v.field "returns" = .ok (.str s)
  raises : ∃ fields, v.field "raises" = .ok (.dict fields)

/-- The form is a matter of the kinds of four fields, so it can be tested. -/
theorem documented_iff {v : Value} : Documented v ↔
    Value.fieldKind? v "summary" = some .str ∧ Value.fieldKind? v "args" = some .dict ∧
      Value.fieldKind? v "returns" = some .str ∧ Value.fieldKind? v "raises" = some .dict := by
  simp only [Value.fieldKind?_str_iff, Value.fieldKind?_dict_iff]
  exact ⟨fun h => ⟨h.summary, h.args, h.returns, h.raises⟩, fun h => ⟨h.1, h.2.1, h.2.2.1, h.2.2.2⟩⟩

instance (v : Value) : Decidable (Documented v) := decidable_of_iff _ documented_iff.symm

/-! ## Placeholders -/

/-- What a prompt says about a function that was scanned. -/
def Subject.ofFunction (f : FunctionRecord) : Subject :=
  ⟨.str f.name, f.args.map fun a => .str a.name, .ofText? f.returns, .strings f.raises⟩

theorem ofRecord_value (f : FunctionRecord) : Subject.ofRecord f.value = .ok (Subject.ofFunction f) := by
  have hargs : (f.args.map Definition.Argument.value).mapM (fun a => a.field "name") =
      .ok (f.args.map fun a => .str a.name) :=
    Result.mapM_map_eq_ok fun a _ => rfl
  unfold Subject.ofRecord
  refine Result.bind_eq_ok_iff.2 ⟨_, rfl, Result.bind_eq_ok_iff.2 ⟨_, rfl, Result.bind_eq_ok_iff.2 ⟨_, hargs, ?_⟩⟩⟩
  rfl

theorem distinctKeys_texts : ∀ (names seen : List String), ∃ keys : List String,
    distinctKeys (seen.map .str) (names.map .str) = .ok (keys.map .str) ∧ ∀ n, n ∈ keys ↔ n ∈ names ∧ n ∉ seen
  | [], seen => ⟨[], rfl, fun n => by simp⟩
  | name :: names, seen => by
    have hsame : (seen.map Value.str).any ((Value.str name).sameKey ·) = decide (name ∈ seen) := by
      rw [List.any_map, Bool.eq_iff_iff, List.any_eq_true, decide_eq_true_eq]
      constructor
      · rintro ⟨s, hs, heq⟩
        exact (of_decide_eq_true heq : name = s) ▸ hs
      · exact fun h => ⟨name, h, decide_eq_true rfl⟩
    by_cases hseen : name ∈ seen
    · obtain ⟨keys, hkeys, hmem⟩ := distinctKeys_texts names seen
      refine ⟨keys, ?_, fun n => ?_⟩
      · rw [List.map_cons, distinctKeys, if_pos (show (Value.str name).isKey = true from rfl), hsame,
          if_pos (decide_eq_true hseen)]
        exact hkeys
      · rw [hmem, List.mem_cons]
        constructor
        · exact fun h => ⟨Or.inr h.1, h.2⟩
        · rintro ⟨rfl | h, hn⟩
          · exact absurd hseen hn
          · exact ⟨h, hn⟩
    · obtain ⟨keys, hkeys, hmem⟩ := distinctKeys_texts names (name :: seen)
      refine ⟨name :: keys, ?_, fun n => ?_⟩
      · rw [List.map_cons, distinctKeys, if_pos (show (Value.str name).isKey = true from rfl), hsame,
          if_neg (by simpa using hseen)]
        exact Result.bind_eq_ok_iff.2 ⟨_, hkeys, rfl⟩
      · rw [List.mem_cons, hmem, List.mem_cons, List.mem_cons, not_or]
        by_cases hn : n = name
        · subst hn
          simp [hseen]
        · simp [hn]

theorem lookup?_placeholders (n : String) : ∀ (keys : List String) (fields : List (String × Value)),
    Value.lookup? n ((keys.map Value.str).foldl (fun fields k => Value.insert k.text placeholder fields) fields) =
      if n ∈ keys then some placeholder else Value.lookup? n fields
  | [], fields => by simp
  | k :: keys, fields => by
    rw [List.map_cons, List.foldl_cons, lookup?_placeholders n keys]
    by_cases hk : n = k
    · subst hk
      have hself : Value.lookup? n (Value.insert (Value.text (.str n)) placeholder fields) = some placeholder :=
        Value.lookup?_insert_self n placeholder fields
      rw [hself]
      simp
    · have hother : Value.lookup? n (Value.insert (Value.text (.str k)) placeholder fields) = Value.lookup? n fields :=
        Value.lookup?_insert_of_ne placeholder hk fields
      rw [hother]
      simp [hk]

/-- Content for a function that only has placeholders. -/
def plainContent (f : FunctionRecord) (args : List (String × Value)) : Value :=
  .dict [("summary", plainSummary (.str f.name)), ("args", .dict args), ("returns", placeholder), ("raises", .dict [])]

theorem documented_plainContent (f : FunctionRecord) (args : List (String × Value)) : Documented (plainContent f args) :=
  ⟨⟨_, rfl⟩, ⟨_, rfl⟩, ⟨_, rfl⟩, ⟨_, rfl⟩⟩

/-- **Placeholders can be given for every function**, one for each of its arguments. -/
theorem fallback_ofFunction (f : FunctionRecord) : ∃ args, fallback (Subject.ofFunction f) = .ok (plainContent f args) ∧
    ∀ n, Value.lookup? n args = if n ∈ f.args.map Definition.Argument.name then some placeholder else none := by
  obtain ⟨keys, hkeys, hmem⟩ := distinctKeys_texts (f.args.map Definition.Argument.name) []
  rw [List.map_map] at hkeys
  refine ⟨_, Result.bind_eq_ok_iff.2 ⟨_, hkeys, rfl⟩, fun n => ?_⟩
  rw [lookup?_placeholders, Value.lookup?]
  simp only [hmem, List.not_mem_nil, not_false_eq_true, and_true]

/-! ## What comes of an answer -/

/-- A fault of the reader that is no fault of the text: an integer is too long. -/
def Unreadable (e : Json.Fault) : Prop := ∃ count, e.cause = .tooManyDigits count

theorem contentOf_json {s : Subject} {answer : String} {v : Value} (h : Json.read answer.toList = .ok v) :
    contentOf s answer = .ok v := by
  unfold contentOf
  dsimp only
  rw [h]

theorem contentOf_unreadable {s : Subject} {answer : String} {e : Json.Fault} (h : Json.read answer.toList = .error e)
    (he : Unreadable e) : contentOf s answer = .error (.badJson e answer.toList) := by
  obtain ⟨count, hcause⟩ := he
  unfold contentOf
  dsimp only
  rw [h]
  dsimp only
  rw [hcause]

theorem contentOf_refused {s : Subject} {answer : String} {e : Json.Fault} (h : Json.read answer.toList = .error e)
    (he : ¬ Unreadable e) : contentOf s answer = fallback s := by
  unfold contentOf
  dsimp only
  rw [h]
  dsimp only
  split
  · rename_i count hcause
    exact absurd ⟨count, hcause⟩ he
  · rfl

theorem ask_value (f : FunctionRecord) {key : String} (hkey : key ≠ "") (answer : String → String) :
    ask (some key) answer f.value =
      ⟨some ⟨modelConfig key, (Subject.ofFunction f).prompt⟩,
        contentOf (Subject.ofFunction f) (answer (Subject.ofFunction f).prompt)⟩ := by
  unfold ask
  dsimp only
  rw [if_neg hkey, ofRecord_value]

/-- **When content has the documented form.** A model with a key, asked about a scanned function, is asked once, whatever
it answers.  JSON is taken as it is; a text that is no JSON is replaced by placeholders, one for each argument, which have
the documented form; an integer with too many digits is a fault.  So there is content of the documented form exactly if the
answer has it when it is JSON, and no integer in it is too long. -/
theorem content_documented_iff (f : FunctionRecord) {key : String} (hkey : key ≠ "") (answer : String → String) :
    ∃ prompt, (ask (some key) answer f.value).asked = some ⟨modelConfig key, prompt⟩ ∧
      (∀ v, Json.read (answer prompt).toList = .ok v → (ask (some key) answer f.value).content = .ok v) ∧
      (∀ e, Json.read (answer prompt).toList = .error e → Unreadable e →
        (ask (some key) answer f.value).content = .error (.badJson e (answer prompt).toList)) ∧
      (∀ e, Json.read (answer prompt).toList = .error e → ¬ Unreadable e →
        ∃ args, (ask (some key) answer f.value).content = .ok (plainContent f args) ∧ Documented (plainContent f args) ∧
          ∀ n, Value.lookup? n args = if n ∈ f.args.map Definition.Argument.name then some placeholder else none) ∧
      ((∃ v, (ask (some key) answer f.value).content = .ok v ∧ Documented v) ↔
        (∀ v, Json.read (answer prompt).toList = .ok v → Documented v) ∧
          ∀ e, Json.read (answer prompt).toList = .error e → ¬ Unreadable e) := by
  obtain ⟨args, hfallback, hargs⟩ := fallback_ofFunction f
  rw [ask_value f hkey answer]
  refine ⟨_, rfl, fun v hv => contentOf_json hv, fun e he hbad => contentOf_unreadable he hbad,
    fun e he hok => ⟨args, (contentOf_refused he hok).trans hfallback, documented_plainContent f args, hargs⟩, ?_, ?_⟩
  · rintro ⟨v, hv, hdocumented⟩
    refine ⟨fun w hw => ?_, fun e he hbad => ?_⟩
    · rw [contentOf_json hw] at hv
      cases hv
      exact hdocumented
    · rw [contentOf_unreadable he hbad] at hv
      cases hv
  · rintro ⟨hjson, hrefused⟩
    cases hread : Json.read (answer (Subject.ofFunction f).prompt).toList with
    | ok v => exact ⟨v, contentOf_json hread, hjson v hread⟩
    | error e =>
      exact ⟨_, (contentOf_refused hread (hrefused e hread)).trans hfallback, documented_plainContent f args⟩

def sampleFunction : FunctionRecord := ⟨"f", 1, 2, [], [], none, false, 1, 0, [], false, 4⟩

/-- An answer that is an empty list becomes content that is no mapping. -/
theorem content_of_list_sample :
    "key" ≠ "" ∧ (ask (some "key") (fun _ => "[]") sampleFunction.value).content = .ok (.list []) ∧
      ¬ ∃ v, (ask (some "key") (fun _ => "[]") sampleFunction.value).content = .ok v ∧ Documented v := by
  have hkey : "key" ≠ "" := by decide
  have hread : Json.read "[]".toList = .ok (.list []) := by rfl
  obtain ⟨prompt, -, hjson, -, -, hiff⟩ := content_documented_iff sampleFunction hkey fun _ => "[]"
  refine ⟨hkey, hjson _ hread, fun h => ?_⟩
  obtain ⟨s, hs⟩ := ((hiff.1 h).1 _ hread).summary
  cases hs

end Suggestion
end DocReview
