import Mathlib.Algebra.Order.BigOperators.Group.List
import Mathlib.Algebra.Order.Group.Nat
import DocReview.Proofs.Review.Consistency
/-!
# Suggestions — what the docstring view shows and what it applies

The docstring view is given a proposal for each function without a docstring.  It lists all of them or none, by the name
of the last function that was scanned, and shows beside each the docstring that was proposed last; accepting one applies
its own.  So it lists what was searched for, and shows what it applies, exactly where these come to the same
(`docstring_view_shows_last`).
-/
namespace DocReview
namespace Review

open Screen
open Definition (FileRecord FunctionRecord)

/-! ## The proposals for scanned files -/

/-- The docstring that is generated for a function. -/
def docstringFor (a : Answers) (style : Value) (f : FunctionRecord) : Except Fault String := do
  Suggestion.generate f.value style (← (Suggestion.ask a.apiKey a.answer f.value).content)

def undocumented (fs : List FunctionRecord) : List FunctionRecord := fs.filter fun f => !f.hasDocstring

/-- The proposal of a docstring for a function of a file. -/
def proposalFor (doc : FunctionRecord → String) (path : String) (f : FunctionRecord) : Proposal :=
  ⟨.str f.name, .int f.line, .int f.indent, .str path, doc f, .none⟩

/-- The proposals for the files of a scan. -/
def suggestionsOf (doc : FunctionRecord → String) (records : List FileRecord) : List (Value × List Proposal) :=
  records.foldl (fun files r =>
    if (undocumented r.functions).isEmpty then files
    else enterFile (.str r.path) ((undocumented r.functions).map (proposalFor doc r.path)) files) []

/-- The proposals for the files of a scan, with the last function there is and the last docstring that is proposed. -/
def proposed (doc : FunctionRecord → String) (records : List FileRecord) : Proposals where
  files := suggestionsOf doc records
  lastFunction := (records.flatMap FileRecord.functions).getLast?.map FunctionRecord.value
  lastDocstring := (undocumented (records.flatMap FileRecord.functions)).getLast?.map doc

theorem gives_generate {a : Answers} {style : Value} {f : FunctionRecord} {d : String}
    (h : docstringFor a style f = .ok d) : (generate f.value style).Gives a d := by
  obtain ⟨content, hcontent, hd⟩ := Result.bind_eq_ok_iff.1 h
  have rest : (check (Suggestion.ask a.apiKey a.answer f.value).content >>= fun content =>
      check (Suggestion.generate f.value style content)).Gives a d :=
    gives_of_draws (draws_bind (draws_check hcontent) (draws_check hd))
  refine gives_bind (fun p => ⟨p, exec_read a p⟩) ?_
  dsimp only
  split
  · exact gives_bind (gives_of_draws (draws_put _)) rest
  · exact rest

theorem gives_propose {a : Answers} {style : Value} {f : FunctionRecord} {doc : FunctionRecord → String}
    (h : docstringFor a style f = .ok (doc f)) (path : String) :
    (propose style (.str path) f.value).Gives a (proposalFor doc path f) :=
  gives_bind (gives_generate h) (gives_of_draws (draws_check rfl))

section Assigned

-- the docstrings that are proposed for the functions of some files
variable {a : Answers} {style : Value} {doc : FunctionRecord → String}

theorem gives_proposeAll (path : String) : ∀ (fs : List FunctionRecord),
    (∀ f ∈ fs, f.hasDocstring = false → docstringFor a style f = .ok (doc f)) → ∀ (found : List Proposal)
      (seen : Proposals),
      (proposeAll style (.str path) (fs.map FunctionRecord.value) found seen).Gives a
        (((undocumented fs).map (proposalFor doc path)).reverse ++ found,
          { seen with
            lastFunction := (fs.getLast?.map FunctionRecord.value).or seen.lastFunction
            lastDocstring := ((undocumented fs).getLast?.map doc).or seen.lastDocstring })
  | [], _, found, seen => fun p => ⟨p, rfl⟩
  | f :: fs, h, found, seen => by
    have rest := gives_proposeAll path fs fun g hg => h g (List.mem_cons_of_mem _ hg)
    have hlast : ((f :: fs).getLast?.map FunctionRecord.value).or seen.lastFunction =
        (fs.getLast?.map FunctionRecord.value).or (some f.value) := by
      rw [List.getLast?_cons]
      cases fs.getLast? <;> rfl
    refine gives_bind (gives_of_draws (draws_check (x := .bool f.hasDocstring) rfl)) ?_
    rw [hlast, Value.truthy]
    by_cases hd : f.hasDocstring = true
    · rw [if_pos hd]
      have hu : undocumented (f :: fs) = undocumented fs := by simp [undocumented, hd]
      rw [hu]
      exact rest found { seen with lastFunction := some f.value }
    · rw [if_neg hd]
      rw [Bool.not_eq_true] at hd
      have hu : undocumented (f :: fs) = f :: undocumented fs := by simp [undocumented, hd]
      refine gives_bind (gives_propose (h f List.mem_cons_self hd) path) ?_
      have hdoc : ((f :: undocumented fs).getLast?.map doc).or seen.lastDocstring =
          ((undocumented fs).getLast?.map doc).or (some (doc f)) := by
        rw [List.getLast?_cons]
        cases (undocumented fs).getLast? <;> rfl
      rw [hu, hdoc, List.map_cons, List.reverse_cons, List.append_assoc]
      exact rest (proposalFor doc path f :: found)
        { seen with lastFunction := some f.value, lastDocstring := some (doc f) }

theorem gives_proposeFile {r : FileRecord}
    (h : ∀ f ∈ r.functions, f.hasDocstring = false → docstringFor a style f = .ok (doc f)) (before : Proposals) :
    (proposeFile style before r.value).Gives a
      { files := if (undocumented r.functions).isEmpty then before.files
          else enterFile (.str r.path) ((undocumented r.functions).map (proposalFor doc r.path)) before.files
        lastFunction := (r.functions.getLast?.map FunctionRecord.value).or before.lastFunction
        lastDocstring := ((undocumented r.functions).getLast?.map doc).or before.lastDocstring } := by
  refine gives_bind (gives_of_draws (draws_check (x := .str r.path) rfl)) (gives_bind
    (gives_of_draws (draws_check (x := r.functions.map FunctionRecord.value) rfl)) (gives_bind
      (gives_proposeAll r.path r.functions h [] before) ?_))
  dsimp only
  rw [List.append_nil, List.isEmpty_reverse, List.isEmpty_map, List.reverse_reverse]
  split
  · exact fun p => ⟨p, rfl⟩
  · exact fun p => ⟨p, rfl⟩

theorem gives_foldlM : ∀ (records : List FileRecord),
    (∀ r ∈ records, ∀ f ∈ r.functions, f.hasDocstring = false → docstringFor a style f = .ok (doc f)) →
      ∀ before : Proposals, ((records.map FileRecord.value).foldlM (proposeFile style) before).Gives a
        { files := records.foldl (fun files r => if (undocumented r.functions).isEmpty then files
            else enterFile (.str r.path) ((undocumented r.functions).map (proposalFor doc r.path)) files) before.files
          lastFunction := ((records.flatMap FileRecord.functions).getLast?.map FunctionRecord.value).or
            before.lastFunction
          lastDocstring := ((undocumented (records.flatMap FileRecord.functions)).getLast?.map doc).or
            before.lastDocstring }
  | [], _, before => fun p => ⟨p, rfl⟩
  | r :: records, h, before => by
    rw [List.map_cons, List.foldlM_cons]
    refine gives_bind (gives_proposeFile (h r List.mem_cons_self) before) ?_
    have rest := gives_foldlM records (fun r' hr' => h r' (List.mem_cons_of_mem _ hr'))
    have hu : undocumented ((r :: records).flatMap FileRecord.functions) =
        undocumented r.functions ++ undocumented (records.flatMap FileRecord.functions) := by
      rw [List.flatMap_cons, undocumented, List.filter_append]
      rfl
    rw [hu, List.flatMap_cons, List.getLast?_append, List.getLast?_append, Option.map_or, Option.map_or, Option.or_assoc,
      Option.or_assoc]
    exact rest _

/-- **The proposals for scanned files**, whatever docstrings are generated. -/
theorem gives_proposals {records : List FileRecord}
    (h : ∀ r ∈ records, ∀ f ∈ r.functions, f.hasDocstring = false → docstringFor a style f = .ok (doc f)) :
    (proposals style (resultsOf records)).Gives a (proposed doc records) := by
  have all := gives_foldlM records h {}
  rw [Option.or_none, Option.or_none] at all
  exact gives_bind (gives_of_draws (draws_check (x := records.map FileRecord.value) rfl)) all

end Assigned

/-! ## What the view draws -/

/-- The text that is searched for. -/
def searched (a : Answers) : String := (lookup? "🔍 Search function" a.texts).getD ""

/-- Whether a name contains the text that is searched for, in any case; every name does if there is none. -/
def nameMatches (search name : String) : Bool :=
  search = "" || Text.occursIn (Text.lower search.toList) (Text.lower name.toList)

/-- Whether the proposal with the given number in its file is accepted. -/
def accepts (a : Answers) (p : Proposal) (number : Nat) : Bool :=
  a.presses "✅ Accept" (some (proposalKey "accept" p number))

/-- A proposal beside what there is, with the docstring that is shown for it. -/
def cardOf (a : Answers) (shown : String) (p : Proposal) (number : Nat) : List Element :=
  [.markdown "<div class=\"ui-card\">",
    .markdown ("### `" ++ p.name.text ++ "` <span class='status-error'>Missing Docstring</span>"),
    .markdown "**Original**",
    .code (p.existing.orElse (.str "No docstring found")),
    .markdown "**Revised (AI)**",
    .code (.str shown),
    .button "✅ Accept" (some (proposalKey "accept" p number)) (accepts a p number),
    .button "❌ Reject" (some (proposalKey "reject" p number))
      (a.presses "❌ Reject" (some (proposalKey "reject" p number))),
    .markdown "</div>"]

section Listing

-- which proposals are listed, and the docstring that is shown for each
variable (a : Answers) (listed : Proposal → Bool) (shown : Proposal → String)

def listing (p : Proposal × Nat) : List Element := if listed p.1 then cardOf a (shown p.1) p.1 p.2 else []

def fileCards (f : Value × List Proposal) : List Element :=
  .markdown ("### 📄 " ++ Path.name f.1.text) :: f.2.zipIdx.flatMap (listing a listed shown)

/-- The docstring view. -/
def viewOf (files : List (Value × List Proposal)) : List Element :=
  if files.isEmpty then
    [.markdown "## 🧩 Docstring Review", .success "All functions have docstrings 🎉",
      .success "All functions already have docstrings 🎉"]
  else
    .markdown "## 🧩 Docstring Review" :: .markdown "## " :: .input "🔍 Search function" (searched a) ::
      files.flatMap (fileCards a listed shown)

end Listing

theorem isWanted_eq {ps : Proposals} {last : FunctionRecord} (h : ps.lastFunction = some last.value) (search : String) :
    isWanted search ps = .ok (nameMatches search last.name) := by
  unfold isWanted nameMatches
  by_cases hs : search = ""
  · simp [hs, pure, Except.pure]
  · rw [if_neg hs, h]
    simp [hs]
    rfl

section View

variable {a : Answers} {ps : Proposals} {wanted : Bool}

theorem draws_proposalCard {p : Proposal} {n : Nat} (h : accepts a p n = false) :
    (proposalCard ps n p).Draws a () (cardOf a (ps.lastDocstring.getD "") p n) := by
  intro q
  have hx : a.presses "✅ Accept" (some (proposalKey "accept" p n)) = false := h
  simp only [proposalCard, exec_bind, exec_put, exec_button, hx, Bool.false_eq_true, if_false]
  simp [Page.draw, cardOf, h]

def drawCard (search : String) (ps : Proposals) (p : Proposal × Nat) : Draw Unit := do
  if ← check (isWanted search ps) then proposalCard ps p.2 p.1

def drawFile (search : String) (ps : Proposals) (f : Value × List Proposal) : Draw Unit := do
  put (.markdown ("### 📄 " ++ Path.name (← check (Path.ofValue f.1))))
  f.2.zipIdx.forM (drawCard search ps)

theorem docstrings_eq (h : ps.files ≠ []) :
    docstrings ps = (do
      put (.markdown "## 🧩 Docstring Review")
      put (.markdown "## ")
      let search ← textField "🔍 Search function"
      ps.files.forM (drawFile search ps)) := by
  unfold docstrings
  rw [if_neg (by simpa using h)]
  rfl

section Wanted

variable {search : String} (hwanted : isWanted search ps = .ok wanted)

include hwanted

theorem draws_card {p : Proposal × Nat} (h : wanted = true → accepts a p.1 p.2 = false) :
    (drawCard search ps p).Draws a () (listing a (fun _ => wanted) (fun _ => ps.lastDocstring.getD "") p) := by
  refine draws_bind (draws_check hwanted) ?_
  cases wanted with
  | true => exact draws_proposalCard (h rfl)
  | false => exact draws_pure ()

theorem draws_cards {l : List (Proposal × Nat)} (h : wanted = true → ∀ p ∈ l, accepts a p.1 p.2 = false) :
    (l.forM (drawCard search ps)).Draws a () (l.flatMap (listing a (fun _ => wanted) fun _ => ps.lastDocstring.getD "")) :=
  draws_forM fun p hp => draws_card hwanted fun hw => h hw p hp

theorem draws_file {path : String} {l : List Proposal}
    (h : wanted = true → ∀ p ∈ l.zipIdx, accepts a p.1 p.2 = false) :
    (drawFile search ps (.str path, l)).Draws a ()
      (fileCards a (fun _ => wanted) (fun _ => ps.lastDocstring.getD "") (.str path, l)) :=
  draws_bind (draws_check rfl) (draws_bind (draws_put _) (draws_cards hwanted h))

theorem draws_files {files : List (Value × List Proposal)} (hfiles : ∀ f ∈ files, ∃ path, f.1 = .str path)
    (h : wanted = true → ∀ f ∈ files, ∀ p ∈ f.2.zipIdx, accepts a p.1 p.2 = false) :
    (files.forM (drawFile search ps)).Draws a ()
      (files.flatMap (fileCards a (fun _ => wanted) fun _ => ps.lastDocstring.getD "")) := by
  refine draws_forM fun f hf => ?_
  obtain ⟨file, l⟩ := f
  obtain ⟨path, rfl⟩ := hfiles _ hf
  exact draws_file hwanted fun hw => h hw _ hf

end Wanted

theorem draws_textField (label initial : String) :
    (textField label initial).Draws a ((lookup? label a.texts).getD initial)
      [.input label ((lookup? label a.texts).getD initial)] := fun _ => rfl

theorem draws_docstrings (hfiles : ∀ f ∈ ps.files, ∃ path, f.1 = .str path)
    (hwanted : ps.files ≠ [] → isWanted (searched a) ps = .ok wanted)
    (h : wanted = true → ∀ f ∈ ps.files, ∀ p ∈ f.2.zipIdx, accepts a p.1 p.2 = false) :
    (docstrings ps).Draws a () (viewOf a (fun _ => wanted) (fun _ => ps.lastDocstring.getD "") ps.files) := by
  by_cases hne : ps.files = []
  · unfold docstrings viewOf
    rw [hne]
    exact fun _ => rfl
  · unfold viewOf
    rw [docstrings_eq hne, if_neg (by simpa using hne)]
    have cards := draws_bind (f := fun search => ps.files.forM (drawFile search ps))
      (draws_textField "🔍 Search function" "") (draws_files (hwanted hne) hfiles h)
    have below := draws_bind (f := fun _ => textField "🔍 Search function" >>= fun search =>
      ps.files.forM (drawFile search ps)) (draws_put (.markdown "## ")) cards
    exact draws_bind (draws_put _) below

theorem applies_proposalCard {x : Proposal} {n : Nat} {path : String} {d d' : Disk} (hx : accepts a x n = true)
    (hpath : x.file = .str path)
    (hd : Suggestion.insertInFile d path x.line x.indent (.str x.docstring) = .ok d') :
    (proposalCard ps n x).Applies a d d' := by
  have haccept : a.presses "✅ Accept" (some (proposalKey "accept" x n)) = true := hx
  have hfile : Path.ofValue x.file = .ok path := by rw [hpath]; rfl
  have happly : (accept x).Applies a d d' := by
    rintro p rfl
    refine ⟨{ p with drawn := .success "Docstring applied successfully" :: p.drawn, disk := d' }, ?_, rfl⟩
    simp only [accept, exec_bind, hfile, exec_check_ok, exec_disk, hd, exec_setDisk, exec_put, exec_throw]
  refine applies_after (draws_put _) (applies_after (draws_put _) (applies_after (draws_put _) (applies_after (draws_put _)
    (applies_after (draws_put _) (applies_after (draws_put _) (applies_after (draws_button _ _) ?_))))))
  rw [haccept]
  exact applies_bind happly

/-- The view when a listed proposal is accepted, and none above it: its docstring goes into its file. -/
theorem applies_docstrings (hwanted : isWanted (searched a) ps = .ok true) {before after : List (Value × List Proposal)}
    {path : String} {above below : List Proposal} {x : Proposal}
    (hps : ps.files = before ++ (.str path, above ++ x :: below) :: after)
    (hfiles : ∀ f ∈ before, ∃ path, f.1 = .str path)
    (hbefore : ∀ f ∈ before, ∀ p ∈ f.2.zipIdx, accepts a p.1 p.2 = false)
    (habove : ∀ p ∈ above.zipIdx, accepts a p.1 p.2 = false) (hx : accepts a x above.length = true)
    (hpath : x.file = .str path) {d d' : Disk}
    (hd : Suggestion.insertInFile d path x.line x.indent (.str x.docstring) = .ok d') :
    (docstrings ps).Applies a d d' := by
  have hne : ps.files ≠ [] := by simp [hps]
  have hzip : (above ++ x :: below).zipIdx = above.zipIdx ++ (x, above.length) :: below.zipIdx (above.length + 1) := by
    rw [List.zipIdx_append, List.zipIdx_cons, Nat.zero_add]
  have hcard : (drawCard (searched a) ps (x, above.length)).Applies a d d' :=
    applies_after (draws_check hwanted) (applies_proposalCard hx hpath hd)
  have hfile : (drawFile (searched a) ps (.str path, above ++ x :: below)).Applies a d d' := by
    refine applies_after (draws_check rfl) (applies_after (draws_put _) ?_)
    rw [hzip]
    exact applies_forM (draws_cards hwanted fun _ => habove) hcard
  rw [docstrings_eq hne, hps]
  exact applies_after (draws_put _) (applies_after (draws_put _) (applies_after (draws_textField _ _)
    (applies_forM (draws_files hwanted hfiles fun _ => hbefore) hfile)))

end View

/-! ## What it should list and show -/

theorem eq_of_flatMap_eq {α β : Type} {f g : α → List β} : ∀ {l : List α},
    (∀ x ∈ l, (f x).length ≤ (g x).length) → l.flatMap f = l.flatMap g → ∀ x ∈ l, f x = g x
  | x :: l, hle, h, y, hy => by
    have hrest : (l.flatMap f).length ≤ (l.flatMap g).length := by
      rw [List.length_flatMap, List.length_flatMap]
      exact List.sum_le_sum fun z hz => hle z (List.mem_cons_of_mem _ hz)
    rw [List.flatMap_cons, List.flatMap_cons] at h
    have hlen := congrArg List.length h
    rw [List.length_append, List.length_append] at hlen
    have hx := hle x List.mem_cons_self
    obtain ⟨hfg, hrec⟩ := List.append_inj h (by omega)
    rcases List.mem_cons.1 hy with rfl | hy
    · exact hfg
    · exact eq_of_flatMap_eq (fun z hz => hle z (List.mem_cons_of_mem _ hz)) hrec y hy

section Compare

variable {a : Answers} {listed listed' : Proposal → Bool} {shown shown' : Proposal → String}

theorem length_listing_le (h : ∀ x, listed x = true → listed' x = true) (p : Proposal × Nat) :
    (listing a listed shown p).length ≤ (listing a listed' shown' p).length := by
  unfold listing
  by_cases hp : listed p.1 = true
  · rw [if_pos hp, if_pos (h _ hp)]
    exact Nat.le_refl _
  · rw [if_neg hp]
    exact Nat.zero_le _

theorem length_fileCards_le (h : ∀ x, listed x = true → listed' x = true) (f : Value × List Proposal) :
    (fileCards a listed shown f).length ≤ (fileCards a listed' shown' f).length := by
  unfold fileCards
  rw [List.length_cons, List.length_cons, List.length_flatMap, List.length_flatMap]
  exact Nat.succ_le_succ (List.sum_le_sum fun p _ => length_listing_le h p)

theorem listing_eq_of_viewOf_eq (h : ∀ x, listed x = true → listed' x = true) {files : List (Value × List Proposal)}
    (hview : viewOf a listed shown files = viewOf a listed' shown' files) :
    ∀ f ∈ files, ∀ p ∈ f.2.zipIdx, listing a listed shown p = listing a listed' shown' p := by
  intro f hf
  have hne : ¬ files.isEmpty = true := by
    rw [List.isEmpty_iff]
    rintro rfl
    cases hf
  unfold viewOf at hview
  rw [if_neg hne, if_neg hne] at hview
  injection hview with _ hview
  injection hview with _ hview
  injection hview with _ hview
  have hcards := eq_of_flatMap_eq (fun f _ => length_fileCards_le h f) hview f hf
  injection hcards with _ hcards
  exact eq_of_flatMap_eq (fun p _ => length_listing_le h p) hcards

theorem viewOf_congr {files : List (Value × List Proposal)}
    (h : ∀ f ∈ files, ∀ x ∈ f.2, listed x = listed' x ∧ (listed x = true → shown x = shown' x)) :
    viewOf a listed shown files = viewOf a listed' shown' files := by
  have hfiles : files.flatMap (fileCards a listed shown) = files.flatMap (fileCards a listed' shown') := by
    refine List.flatMap_congr fun f hf => ?_
    unfold fileCards
    congr 1
    refine List.flatMap_congr fun p hp => ?_
    obtain ⟨hl, hs⟩ := h f hf p.1 (List.fst_mem_of_mem_zipIdx hp)
    unfold listing
    rw [← hl]
    split
    · rename_i hp
      rw [hs hp]
    · rfl
  unfold viewOf
  rw [hfiles]

/-- A view that lists all proposals or none and shows one docstring for all is the one that is asked for exactly where
each proposal asks for that. -/
theorem viewOf_const_eq_iff {files : List (Value × List Proposal)} {wanted : Bool} {docstring : String} :
    viewOf a (fun _ => wanted) (fun _ => docstring) files = viewOf a listed shown files ↔
      ∀ f ∈ files, ∀ x ∈ f.2, listed x = wanted ∧ (wanted = true → shown x = docstring) := by
  constructor
  · intro hview f hf x hx
    obtain ⟨p, hp, rfl⟩ := List.mem_map.1 ((List.zipIdx_map_fst 0 f.2).symm ▸ hx)
    cases wanted with
    | true =>
      have hcard := listing_eq_of_viewOf_eq (fun _ _ => rfl) hview.symm f hf p hp
      unfold listing at hcard
      by_cases hl : listed p.1 = true
      · rw [if_pos hl, if_pos rfl] at hcard
        simp only [cardOf, List.cons.injEq, Element.code.injEq, Value.str.injEq, true_and, and_true] at hcard
        exact ⟨hl, fun _ => hcard⟩
      · rw [if_neg hl, if_pos rfl] at hcard
        cases hcard
    | false =>
      have hcard := listing_eq_of_viewOf_eq (fun _ h => by cases h) hview f hf p hp
      unfold listing at hcard
      by_cases hl : listed p.1 = true
      · rw [if_pos hl, if_neg Bool.false_ne_true] at hcard
        cases hcard
      · exact ⟨Bool.eq_false_iff.2 hl, fun h => by cases h⟩
  · intro h
    exact viewOf_congr fun f hf x hx => ⟨(h f hf x hx).1.symm, fun hw => ((h f hf x hx).2 hw).symm⟩

end Compare

/-! ## The files of the proposals -/

theorem mem_enterFile {path : String} {ps : List Proposal} {f : Value × List Proposal} :
    ∀ {files : List (Value × List Proposal)}, (∀ g ∈ files, ∃ path, g.1 = .str path) → f ∈ enterFile (.str path) ps files →
      f = (.str path, ps) ∨ f ∈ files
  | [], _, h => Or.inl (List.mem_singleton.1 h)
  | (k, old) :: files, hkeys, h => by
    obtain ⟨q, rfl⟩ := hkeys _ List.mem_cons_self
    rw [enterFile] at h
    split at h
    · rename_i hsame
      obtain rfl : q = path := of_decide_eq_true hsame
      exact (List.mem_cons.1 h).imp id (List.mem_cons_of_mem _)
    · rcases List.mem_cons.1 h with rfl | h
      · exact Or.inr List.mem_cons_self
      · exact (mem_enterFile (fun g hg => hkeys g (List.mem_cons_of_mem _ hg)) h).imp id (List.mem_cons_of_mem _)

theorem mem_suggestions_foldl {doc : FunctionRecord → String} {f : Value × List Proposal} :
    ∀ {records : List FileRecord} {files : List (Value × List Proposal)}, (∀ g ∈ files, ∃ path, g.1 = .str path) →
      f ∈ records.foldl (fun files r => if (undocumented r.functions).isEmpty then files
        else enterFile (.str r.path) ((undocumented r.functions).map (proposalFor doc r.path)) files) files →
      f ∈ files ∨ ∃ r ∈ records, undocumented r.functions ≠ [] ∧
        f = (.str r.path, (undocumented r.functions).map (proposalFor doc r.path))
  | [], _, _, h => Or.inl h
  | r :: records, files, hkeys, h => by
    rw [List.foldl_cons] at h
    have hstep : ∀ g ∈ (if (undocumented r.functions).isEmpty then files
        else enterFile (.str r.path) ((undocumented r.functions).map (proposalFor doc r.path)) files),
        g ∈ files ∨ (undocumented r.functions ≠ [] ∧
          g = (.str r.path, (undocumented r.functions).map (proposalFor doc r.path))) := by
      intro g hg
      split at hg
      · exact Or.inl hg
      · rename_i hne
        exact (mem_enterFile hkeys hg).elim (fun h => Or.inr ⟨by simpa using hne, h⟩) Or.inl
    have hkeys' := fun g hg => (hstep g hg).elim (hkeys g) fun hg => ⟨r.path, congrArg Prod.fst hg.2⟩
    rcases mem_suggestions_foldl hkeys' h with h | ⟨r', hr', hf⟩
    · exact (hstep f h).imp id fun h => ⟨r, List.mem_cons_self, h⟩
    · exact Or.inr ⟨r', List.mem_cons_of_mem _ hr', hf⟩

theorem mem_suggestionsOf {doc : FunctionRecord → String} {records : List FileRecord} {f : Value × List Proposal}
    (h : f ∈ suggestionsOf doc records) :
    ∃ r ∈ records, undocumented r.functions ≠ [] ∧
      f = (.str r.path, (undocumented r.functions).map (proposalFor doc r.path)) :=
  (mem_suggestions_foldl (fun g hg => by cases hg) h).resolve_left (List.not_mem_nil)

/-! ## The view of scanned files -/

/-- Whether the last function of some files is searched for. -/
def lastMatches (a : Answers) (records : List FileRecord) : Bool :=
  (records.flatMap FileRecord.functions).getLast?.any fun f => nameMatches (searched a) f.name

/-- The docstring for the last function that has none. -/
def lastProposed (doc : FunctionRecord → String) (records : List FileRecord) : String :=
  ((undocumented (records.flatMap FileRecord.functions)).getLast?.map doc).getD ""

theorem isWanted_proposed {doc : FunctionRecord → String} {records : List FileRecord}
    (h : suggestionsOf doc records ≠ []) (a : Answers) :
    isWanted (searched a) (proposed doc records) = .ok (lastMatches a records) := by
  obtain ⟨f, hf⟩ := List.exists_mem_of_ne_nil _ h
  obtain ⟨r, hr, hne, -⟩ := mem_suggestionsOf hf
  have hfs : records.flatMap FileRecord.functions ≠ [] := by
    intro hnil
    rw [List.flatMap_eq_nil_iff] at hnil
    rw [hnil r hr] at hne
    exact hne rfl
  unfold lastMatches
  rw [List.getLast?_eq_some_getLast hfs, Option.any_some]
  refine isWanted_eq ?_ _
  unfold proposed
  rw [List.getLast?_eq_some_getLast hfs, Option.map_some]

theorem proposals_untilView {a : Answers} {style : Value} {doc : FunctionRecord → String} {records : List FileRecord}
    (h : (proposals style (resultsOf records)).Gives a (proposed doc records)) {p q : Page} {s : Setting} {ps : Proposals}
    (hrun : untilView.exec a p = (.ok (s, some ps), q)) (hstyle : s.style = style) (hres : s.results = resultsOf records) :
    ps = proposed doc records := by
  unfold untilView at hrun
  obtain ⟨_, p₁, -, hrun⟩ := exec_bind_eq_ok hrun
  obtain ⟨_, p₂, -, hrun⟩ := exec_bind_eq_ok hrun
  obtain ⟨_, p₃, -, hrun⟩ := exec_bind_eq_ok hrun
  obtain ⟨results, p₄, -, hrun⟩ := exec_bind_eq_ok hrun
  obtain ⟨s', p₅, -, hrun⟩ := exec_bind_eq_ok hrun
  split at hrun
  · obtain ⟨ps', p₆, hps, hrun⟩ := exec_bind_eq_ok hrun
    cases hrun
    subst hstyle
    obtain ⟨q', hq'⟩ := h p₅
    rw [← hres, hps] at hq'
    cases hq'
    rfl
  · cases hrun

/-- **The docstring view goes by the last function and shows the last docstring.** Let docstrings be generated for the
functions of some files.  The view is then given the proposals for the functions that have none, in order; it lists all of
them if the name of the last function of all is searched for, and else none, and shows beside each the docstring for the
last function that has none, while accepting one puts its own docstring into its file.  So it lists those whose own name
is searched for, each with the docstring that accepting it applies, exactly if every proposal is searched for as that
last function is, and has that last docstring if listed. -/
theorem docstring_view_shows_last {a : Answers} {style : Value} {doc : FunctionRecord → String}
    {records : List FileRecord}
    (h : ∀ r ∈ records, ∀ f ∈ r.functions, f.hasDocstring = false → docstringFor a style f = .ok (doc f)) :
    (proposals style (resultsOf records)).Gives a (proposed doc records) ∧
      (∀ p q s ps, untilView.exec a p = (.ok (s, some ps), q) → s.style = style → s.results = resultsOf records →
        ps = proposed doc records) ∧
      (∀ f ∈ suggestionsOf doc records, ∃ r ∈ records, undocumented r.functions ≠ [] ∧
        f = (.str r.path, (undocumented r.functions).map (proposalFor doc r.path))) ∧
      ((∀ f ∈ suggestionsOf doc records, ∀ x ∈ f.2.zipIdx, accepts a x.1 x.2 = false) →
        ∀ s, (draw s (proposed doc records) .docstrings).Draws a ()
          (viewOf a (fun _ => lastMatches a records) (fun _ => lastProposed doc records) (suggestionsOf doc records))) ∧
      (∀ before path above x below after, lastMatches a records = true →
        suggestionsOf doc records = before ++ (.str path, above ++ x :: below) :: after →
        (∀ f ∈ before, ∀ y ∈ f.2.zipIdx, accepts a y.1 y.2 = false) →
        (∀ y ∈ above.zipIdx, accepts a y.1 y.2 = false) → accepts a x above.length = true →
        ∀ s d d', Suggestion.insertInFile d path x.line x.indent (.str x.docstring) = .ok d' →
          (draw s (proposed doc records) .docstrings).Applies a d d') ∧
      (viewOf a (fun _ => lastMatches a records) (fun _ => lastProposed doc records) (suggestionsOf doc records) =
          viewOf a (fun x => nameMatches (searched a) x.name.text) Proposal.docstring (suggestionsOf doc records) ↔
        ∀ f ∈ suggestionsOf doc records, ∀ x ∈ f.2, nameMatches (searched a) x.name.text = lastMatches a records ∧
          (lastMatches a records = true → x.docstring = lastProposed doc records)) := by
  have hkeys : ∀ f ∈ suggestionsOf doc records, ∃ path, f.1 = .str path := fun f hf => by
    obtain ⟨r, -, -, rfl⟩ := mem_suggestionsOf hf
    exact ⟨_, rfl⟩
  refine ⟨gives_proposals h, fun p q s ps hrun hstyle hres => proposals_untilView (gives_proposals h) hrun hstyle hres,
    fun f hf => mem_suggestionsOf hf, fun hnone s => ?_, ?_, viewOf_const_eq_iff⟩
  · exact draws_docstrings hkeys (fun hne => isWanted_proposed hne a) fun _ => hnone
  · intro before path above x below after hlast hfiles hbefore habove hx s d d' hd
    have hmem : (.str path, above ++ x :: below) ∈ suggestionsOf doc records := by
      rw [hfiles]
      exact List.mem_append_right _ List.mem_cons_self
    obtain ⟨r, -, -, hr⟩ := mem_suggestionsOf hmem
    have hpath : x.file = .str path := by
      have hx : x ∈ (undocumented r.functions).map (proposalFor doc r.path) := by
        rw [← (Prod.mk.inj hr).2]
        exact List.mem_append_right _ List.mem_cons_self
      obtain ⟨f, -, rfl⟩ := List.mem_map.1 hx
      exact (Prod.mk.inj hr).1.symm
    have hne : suggestionsOf doc records ≠ [] := List.ne_nil_of_mem hmem
    exact applies_docstrings (hlast ▸ isWanted_proposed hne a) hfiles
      (fun f hf => hkeys f (hfiles ▸ List.mem_append_left _ hf)) hbefore habove hx hpath hd

def sampleFunction (name : String) (line : Nat) : FunctionRecord :=
  ⟨name, line, line + 1, [], [], none, false, 1, 0, [], false, 4⟩

def sampleRecords : List FileRecord := [⟨"m.py", [sampleFunction "alpha" 1, sampleFunction "beta" 4], [], [], false⟩]

def plainDocstring (f : FunctionRecord) : String := "\"\"\"\nShort description of `" ++ f.name ++ "`.\n\"\"\""

/-- With two functions without a docstring the view shows for the first what is proposed for the second. -/
theorem docstring_view_sample :
    (∀ r ∈ sampleRecords, ∀ f ∈ r.functions, f.hasDocstring = false →
      docstringFor { apiKey := some "key" } (.str "google") f = .ok (plainDocstring f)) ∧
      viewOf { apiKey := some "key" } (fun _ => lastMatches { apiKey := some "key" } sampleRecords)
          (fun _ => lastProposed plainDocstring sampleRecords) (suggestionsOf plainDocstring sampleRecords) ≠
        viewOf { apiKey := some "key" } (fun x => nameMatches (searched { apiKey := some "key" }) x.name.text)
          Proposal.docstring (suggestionsOf plainDocstring sampleRecords) := by
  have h : ∀ r ∈ sampleRecords, ∀ f ∈ r.functions, f.hasDocstring = false →
      docstringFor { apiKey := some "key" } (.str "google") f = .ok (plainDocstring f) := by
    intro r hr f hf _
    obtain rfl := List.mem_singleton.1 hr
    rcases List.mem_cons.1 hf with rfl | hf
    · rfl
    · obtain rfl := List.mem_singleton.1 hf
      rfl
  refine ⟨h, fun hview => ?_⟩
  have each := (docstring_view_shows_last h).2.2.2.2.2.1 hview _ List.mem_cons_self _ List.mem_cons_self
  have hlast : "\"\"\"\nShort description of `alpha`.\n\"\"\"" = "\"\"\"\nShort description of `beta`.\n\"\"\"" :=
    each.2 rfl
  exact absurd hlast (by decide)

end Review
end DocReview
