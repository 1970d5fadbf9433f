import DocReview.Proofs.Issue.Severity
import DocReview.Proofs.Text.Lowering
import DocReview.Search
/-!
# Search — which functions a search finds

A search keeps the functions whose names hold the text in lower case and whose documentation the status lets pass
(`functions_eq`).  A name that holds the text as it is written need not hold it in lower case: a capital sigma at the end of
the text searched for is a final one there, but not within a word.  The texts that are found wherever they stand are those
without such a sigma (`search_finds_verbatim_iff`).
-/
namespace DocReview
namespace Search

/-! ## What a search looks at -/

def nameOf (f : Value) : List Char :=
  match f.field "name" with
  | .ok (.str name) => name.toList
  | _ => []

def saysDocumented (f : Value) : Bool := (f.field "has_docstring").toOption.any Value.truthy

def asks (status : Value) : Bool := status.isText "OK" || status.isText "Fix"

/-- Whether a status lets a function pass. -/
def passes (status f : Value) : Bool :=
  if status.isText "OK" then saysDocumented f else if status.isText "Fix" then !saysDocumented f else true

/-- A function whose name is a text, and which says whether it is documented if the status asks for that. -/
structure IsSearchable (status f : Value) : Prop where
  named : ∃ name, f.field "name" = .ok (.str name)
  known : asks status = true → ∃ v, f.field "has_docstring" = .ok v

/-- Whether the name of a function holds a text as it is written. -/
def holds (s : String) (f : Value) : Bool := Text.occursIn s.toList (nameOf f)

/-- Whether the name of a function holds a text in lower case. -/
def holdsLower (s : String) (f : Value) : Bool := Text.occursIn (Text.lower s.toList) (Text.lower (nameOf f))

theorem matchesName_eq (s : String) {status f : Value} (h : IsSearchable status f) :
    matchesName (.str s) f = .ok (holdsLower s f) := by
  obtain ⟨name, hname⟩ := h.named
  have hnameOf : nameOf f = name.toList := by rw [nameOf, hname]
  rw [holdsLower, hnameOf]
  exact Result.bind_eq_ok_iff.2 ⟨_, rfl, Result.bind_eq_ok_iff.2 ⟨_, hname, rfl⟩⟩

theorem isDocumented_eq {status f : Value} (h : IsSearchable status f) (hasks : asks status = true) :
    isDocumented f = .ok (saysDocumented f) := by
  obtain ⟨v, hv⟩ := h.known hasks
  rw [isDocumented, saysDocumented, hv]
  rfl

theorem keep_eq {test : Value → Except Fault Bool} {p : Value → Bool} {fs : List Value}
    (h : ∀ f ∈ fs, test f = .ok (p f)) : keep test (.list fs) = .ok (.list (fs.filter p)) :=
  Result.bind_eq_ok_iff.2 ⟨fs, rfl, Result.bind_eq_ok_iff.2 ⟨_, Result.filterM_eq_ok_filter h, rfl⟩⟩

def byStatus (status found : Value) : Except Fault Value :=
  if status.isText "OK" then keep isDocumented found
  else if status.isText "Fix" then keep (fun f => do return !(← isDocumented f)) found
  else .ok found

theorem functions_of_text {s : String} (hs : s ≠ "") (all status : Value) :
    Search.functions all (.str s) status = keep (matchesName (.str s)) all >>= byStatus status := by
  have htruthy : (Value.str s).truthy = true := decide_eq_true hs
  rw [Search.functions, if_pos htruthy]
  rfl

theorem byStatus_eq {status : Value} {fs : List Value} (h : ∀ f ∈ fs, IsSearchable status f) :
    byStatus status (.list fs) = .ok (.list (fs.filter (passes status))) := by
  have hknown : asks status = true → ∀ f ∈ fs, isDocumented f = .ok (saysDocumented f) := fun hasks f hf =>
    isDocumented_eq (h f hf) hasks
  unfold byStatus
  unfold asks at hknown
  unfold passes
  cases hok : status.isText "OK" with
  | true =>
    rw [hok] at hknown
    exact keep_eq (hknown rfl)
  | false =>
    cases hfix : status.isText "Fix" with
    | true =>
      rw [hok, hfix] at hknown
      exact keep_eq fun f hf => Result.bind_eq_ok_iff.2 ⟨_, hknown rfl f hf, rfl⟩
    | false => exact congrArg (fun kept => Except.ok (Value.list kept)) (List.filter_true fs).symm

/-- **What a search keeps.** -/
theorem functions_eq {s : String} (hs : s ≠ "") {status : Value} {fs : List Value} (h : ∀ f ∈ fs, IsSearchable status f) :
    Search.functions (.list fs) (.str s) status =
      .ok (.list (fs.filter fun f => holdsLower s f && passes status f)) := by
  have hfound : keep (matchesName (.str s)) (.list fs) = .ok (.list (fs.filter (holdsLower s))) :=
    keep_eq fun f hf => matchesName_eq s (h f hf)
  have hboth : fs.filter (fun f => holdsLower s f && passes status f) = (fs.filter (holdsLower s)).filter (passes status) := by
    rw [List.filter_filter]
    exact List.filter_congr fun f _ => Bool.and_comm _ _
  rw [hboth, functions_of_text hs]
  exact Result.bind_eq_ok_iff.2 ⟨_, hfound, byStatus_eq fun f hf => h f (List.mem_filter.1 hf).1⟩

/-! ## Names that hold the text -/

def fitting (status : Value) (name : List Char) : Value :=
  .dict [("name", .str (String.ofList name)), ("has_docstring", .bool (!status.isText "Fix"))]

theorem nameOf_fitting (status : Value) (name : List Char) : nameOf (fitting status name) = name := String.toList_ofList

theorem isSearchable_fitting (status : Value) (name : List Char) : IsSearchable status (fitting status name) :=
  ⟨⟨_, rfl⟩, fun _ => ⟨_, rfl⟩⟩

theorem isText_unique {v : Value} {s t : String} (hs : v.isText s = true) (hne : s ≠ t) : v.isText t = false := by
  cases v with
  | str u =>
    have hu : u = s := of_decide_eq_true hs
    exact decide_eq_false (hu ▸ hne)
  | _ => rfl

theorem passes_fitting (status : Value) (name : List Char) : passes status (fitting status name) = true := by
  have hstated : saysDocumented (fitting status name) = !status.isText "Fix" := rfl
  unfold passes
  rw [hstated]
  cases hok : status.isText "OK" with
  | true =>
    have hfix : status.isText "Fix" = false := isText_unique hok (by decide)
    rw [if_pos rfl, hfix]
    rfl
  | false => cases status.isText "Fix" <;> rfl

/-- **When a search finds what is there.**  For every text that is not empty and every status: from every list of functions
whose names are texts, and which say whether they are documented if the status asks for it, a search keeps those whose name
in lower case holds the text in lower case and which the status lets pass, in their order.  Those are, for every such list,
all functions whose name holds the text as it is written and which the status lets pass, exactly if the text has no loose
sigma. -/
theorem search_finds_verbatim_iff {s : String} (hs : s ≠ "") (status : Value) :
    (∀ fs : List Value, (∀ f ∈ fs, IsSearchable status f) → Search.functions (.list fs) (.str s) status =
        .ok (.list (fs.filter fun f => holdsLower s f && passes status f))) ∧
      ((∀ fs : List Value, (∀ f ∈ fs, IsSearchable status f) → ∃ kept, Search.functions (.list fs) (.str s) status =
          .ok (.list kept) ∧ (fs.filter fun f => holds s f && passes status f).Sublist kept) ↔
        Text.hasLooseSigma s.toList = false) := by
  refine ⟨fun fs h => functions_eq hs h, ?_⟩
  rw [← Text.lower_infix_iff]
  constructor
  · intro hfinds name hname
    have hsearchable : ∀ f ∈ [fitting status name], IsSearchable status f := by
      intro f hf
      rw [List.mem_singleton.1 hf]
      exact isSearchable_fitting status name
    obtain ⟨kept, hkept, hsub⟩ := hfinds _ hsearchable
    have hholds : holds s (fitting status name) = true := by
      rw [holds, nameOf_fitting]
      exact Text.occursIn_iff.2 hname
    rw [functions_eq hs hsearchable] at hkept
    cases hkept
    have hmem := hsub.subset (List.mem_filter.2 ⟨List.mem_singleton_self _, by rw [hholds, passes_fitting]; rfl⟩)
    have hlower := (Bool.and_eq_true_iff.1 (List.mem_filter.1 hmem).2).1
    rw [holdsLower, nameOf_fitting] at hlower
    exact Text.occursIn_iff.1 hlower
  · intro hlower fs h
    refine ⟨_, functions_eq hs h, List.monotone_filter_right fs fun f hf => ?_⟩
    obtain ⟨hholds, hpasses⟩ := Bool.and_eq_true_iff.1 hf
    have hfound : holdsLower s f = true := Text.occursIn_iff.2 (hlower _ (Text.occursIn_iff.1 hholds))
    rw [hfound, hpasses]
    rfl

/-- The text with a capital sigma at its end is not found in the word where a letter follows it. -/
theorem search_misses_sigma : ("AΣ" : String) ≠ "" ∧
    holds "AΣ" (fitting .none "AΣA".toList) = true ∧
    Search.functions (.list [fitting .none "AΣA".toList]) (.str "AΣ") .none = .ok (.list []) ∧
    ¬ ∀ fs : List Value, (∀ f ∈ fs, IsSearchable .none f) → ∃ kept, Search.functions (.list fs) (.str "AΣ") .none =
      .ok (.list kept) ∧ (fs.filter fun f => holds "AΣ" f && passes .none f).Sublist kept := by
  have hs : ("AΣ" : String) ≠ "" := by decide
  obtain ⟨hkept, hfinds⟩ := search_finds_verbatim_iff hs .none
  have hloose : Text.hasLooseSigma "AΣ".toList = true := by decide
  refine ⟨hs, by decide, ?_, fun h => ?_⟩
  · have hsearchable : ∀ f ∈ [fitting .none "AΣA".toList], IsSearchable .none f := by
      intro f hf
      rw [List.mem_singleton.1 hf]
      exact isSearchable_fitting .none _
    have hlower : holdsLower "AΣ" (fitting .none "AΣA".toList) = false := by decide
    rw [hkept _ hsearchable, List.filter_cons_of_neg (by rw [hlower]; exact Bool.false_ne_true)]
    rfl
  · rw [hfinds.1 h] at hloose
    cases hloose

end Search
end DocReview
