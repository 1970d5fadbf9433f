import DocReview.Definition.Record
import DocReview.Proofs.Value
/-!
# Methods — a function and a method by the same words

A plain function has a record where it stands in a file and another one where it stands in a class.  Both are made from the
same statement and say the same of it (`Corresponds`), but for its arguments: a method has no keyword-only ones.  So what the two
records have in common is the same exactly for the functions without keyword-only arguments (`described_alike_iff`).
-/
namespace DocReview
namespace Definition

open Source

/-! ## Two records of one function -/

/-- The parameters of a plain function; other statements have none. -/
def plainParams? : Stmt → Option Params
  | .funcDef false _ _ params _ _ _ => some params
  | _ => none

/-- The record of a function and that of a method say the same, their arguments apart. -/
structure Corresponds (f : FunctionRecord) (m : MethodRecord) : Prop where
  name : f.name = m.name
  line : f.line = m.line
  endLine : f.endLine = m.endLine
  returns : f.returns = m.returns
  hasDocstring : f.hasDocstring = m.hasDocstring
  complexity : f.complexity = m.complexity
  nestingDepth : f.nestingDepth = m.nestingDepth
  indent : f.indent = m.indent

/-- **A plain function is described alike as a function and as a method**; the arguments of the method are the first of those
of the function. -/
theorem exists_records {d : Stmt} {params : Params} (h : plainParams? d = some params) (attributes : List String) :
    ∃ f m, functionRecord? d = some f ∧ methodRecord? attributes d = some m ∧ Corresponds f m ∧
      f.args = m.args ++ params.keywordOnly.map argumentOf := by
  cases d with
  | funcDef isAsync span name ps body decorators returns =>
    cases isAsync with
    | true => cases h
    | false =>
      cases h
      exact ⟨_, _, rfl, rfl, ⟨rfl, rfl, rfl, rfl, rfl, rfl, rfl, rfl⟩, List.map_append⟩
  | _ => cases h

theorem filterMap_append_cons {α β : Type} {record? : α → Option β} {a : α} {r : β} (h : record? a = some r)
    (before after : List α) :
    (before ++ a :: after).filterMap record? = before.filterMap record? ++ r :: after.filterMap record? := by
  rw [List.filterMap_append, List.filterMap_cons_some h]

/-! ## Fields -/

/-- The fields that the records of functions and of methods have in common, besides the kind of the record. -/
def sharedFields : List String :=
  ["name", "lineno", "end_lineno", "args", "returns", "has_docstring", "complexity", "nesting_depth", "indent"]

theorem mem_sharedFields_iff (f : FunctionRecord) (m : MethodRecord) {key : String} (hkey : key ≠ "type") :
    key ∈ sharedFields ↔ (∃ v, f.value.field key = .ok v) ∧ ∃ w, m.value.field key = .ok w := by
  constructor
  · intro hshared
    simp only [sharedFields, List.mem_cons, List.not_mem_nil, or_false] at hshared
    rcases hshared with rfl | rfl | rfl | rfl | rfl | rfl | rfl | rfl | rfl <;> exact ⟨⟨_, rfl⟩, ⟨_, rfl⟩⟩
  · rintro ⟨⟨v, hv⟩, w, hw⟩
    have hmem := List.mem_map_of_mem (f := Prod.fst) (Value.mem_of_field hw)
    simp only [List.map_cons, List.map_nil, List.mem_cons, List.not_mem_nil, or_false] at hmem
    -- of the fields of a method, the attributes of its class are in no record of a function
    have hattributes : key ≠ "class_attributes" := by
      rintro rfl
      cases hv
    simp only [hkey, hattributes, false_or] at hmem
    simpa only [sharedFields, List.mem_cons, List.not_mem_nil, or_false] using hmem

theorem Corresponds.field_eq {f : FunctionRecord} {m : MethodRecord} (h : Corresponds f m) {key : String}
    (hkey : key ∈ sharedFields) (hargs : key ≠ "args") : f.value.field key = m.value.field key := by
  have hnumber : ∀ {i j : Nat}, i = j → (Except.ok (.int i) : Except Fault Value) = .ok (.int j) := fun hij => by rw [hij]
  simp only [sharedFields, List.mem_cons, List.not_mem_nil, or_false] at hkey
  rcases hkey with rfl | rfl | rfl | rfl | rfl | rfl | rfl | rfl | rfl
  · exact congrArg (fun s => Except.ok (Value.str s)) h.name
  · exact hnumber h.line
  · exact hnumber h.endLine
  · exact absurd rfl hargs
  · exact congrArg (fun s => Except.ok (Value.ofText? s)) h.returns
  · exact congrArg (fun b => Except.ok (Value.bool b)) h.hasDocstring
  · exact hnumber h.complexity
  · exact hnumber h.nestingDepth
  · exact hnumber h.indent

theorem args_field_eq_iff {f : FunctionRecord} {m : MethodRecord} {more : List Argument} (h : f.args = m.args ++ more) :
    f.value.field "args" = m.value.field "args" ↔ more = [] := by
  have hf : f.value.field "args" = .ok (.list (f.args.map Argument.value)) := rfl
  have hm : m.value.field "args" = .ok (.list (m.args.map Argument.value)) := rfl
  rw [hf, hm, Except.ok.injEq, Value.list.injEq, h, List.map_append]
  constructor
  · intro heq
    exact List.map_eq_nil_iff.1 (List.append_right_eq_self.1 heq)
  · rintro rfl
    rw [List.map_nil, List.append_nil]

/-- **A function and a method are described alike unless there are keyword-only arguments.**  For every plain function,
anywhere among the statements of a file and anywhere among those of a class: the file has a record of it in its place among the
functions, and the class one in its place among the methods.  The fields that both records have, besides their kind, are
those of `sharedFields`.  The arguments of the function are those of the method and then the keyword-only ones.  So each
shared field is the same in both, but for the arguments, which are the same exactly if none of them is keyword-only. -/
theorem described_alike_iff {d : Stmt} {params : Params} (hd : plainParams? d = some params) (path : String)
    (before after : List Stmt) (span : Span) (name : String) (bases : List Expr) (keywords : List Source.Argument)
    (front back : List Stmt) (decorators : List Expr) : ∃ f m c attributes,
      (fileRecord path (before ++ d :: after)).functions = functionRecords before ++ f :: functionRecords after ∧
      classRecord? (.classDef span name bases keywords (front ++ d :: back) decorators) = some c ∧
      c.methods = front.filterMap (methodRecord? attributes) ++ m :: back.filterMap (methodRecord? attributes) ∧
      (∀ key, key ≠ "type" →
        (key ∈ sharedFields ↔ (∃ v, f.value.field key = .ok v) ∧ ∃ w, m.value.field key = .ok w)) ∧
      f.args = m.args ++ params.keywordOnly.map argumentOf ∧
      ∀ key ∈ sharedFields, (f.value.field key = m.value.field key ↔ (key = "args" → params.keywordOnly = [])) := by
  obtain ⟨f, m, hf, hm, hsame, hargs⟩ := exists_records hd (classAttributes (front ++ d :: back))
  refine ⟨f, m, _, _, filterMap_append_cons hf before after, rfl, filterMap_append_cons hm front back,
    fun key hkey => mem_sharedFields_iff f m hkey, hargs, fun key hkey => ?_⟩
  by_cases hkind : key = "args"
  · subst hkind
    rw [args_field_eq_iff hargs, List.map_eq_nil_iff]
    exact ⟨fun h _ => h, fun h => h rfl⟩
  · exact ⟨fun _ h => absurd h hkind, fun _ => hsame.field_eq hkey hkind⟩

def sampleKeywordOnly : Stmt :=
  .funcDef false ⟨1, 1, 0⟩ "f" (.mk [] [.mk "a" none] none [.mk "b" none] [none] none []) [.pass] [] none

/-- Its second argument is listed for the function and not for the method. -/
theorem described_alike_sample :
    plainParams? sampleKeywordOnly = some (.mk [] [.mk "a" none] none [.mk "b" none] [none] none []) ∧
      ∃ f m c, (fileRecord "m.py" [sampleKeywordOnly]).functions = [f] ∧
        classRecord? (.classDef ⟨1, 1, 0⟩ "C" [] [] [sampleKeywordOnly] []) = some c ∧ c.methods = [m] ∧
        f.args = [⟨"a", none⟩, ⟨"b", none⟩] ∧ m.args = [⟨"a", none⟩] ∧ f.value.field "args" ≠ m.value.field "args" ∧
        f.value.field "name" = m.value.field "name" := by
  have hd : plainParams? sampleKeywordOnly = some (.mk [] [.mk "a" none] none [.mk "b" none] [none] none []) := rfl
  obtain ⟨f, m, c, attributes, hfunctions, hclass, hmethods, -, -, hfields⟩ :=
    described_alike_iff hd "m.py" [] [] ⟨1, 1, 0⟩ "C" [] [] [] [] []
  refine ⟨hd, f, m, c, hfunctions, hclass, hmethods, ?_, ?_, ?_, ?_⟩
  · cases hfunctions
    rfl
  · cases hclass
    cases hmethods
    rfl
  · rw [Ne, hfields "args" (by decide)]
    exact fun h => List.cons_ne_nil _ _ (h rfl)
  · rw [hfields "name" (by decide)]
    exact fun h => absurd h (by decide)

end Definition
end DocReview
