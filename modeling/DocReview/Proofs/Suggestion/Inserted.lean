import DocReview.Proofs.Source.Insert
import DocReview.Proofs.Suggestion.Layout
import DocReview.Proofs.Text.Lines
import DocReview.Suggestion.Insertion
/-!
# Inserted — a docstring in the text of a program

The lines of a docstring, set in, are a string on lines of its own (`unlines_indentedLines`).  They are put behind the line
of a function, and the rest of the text follows them, but for an empty last line (`programText_insertLines`).  So the new
text is a program in which the function is documented exactly if the docstring stands in the columns of the function's block
(`insert_documents`).
-/
namespace DocReview.Suggestion

open Definition (FunctionRecord ClassRecord functionRecords classRecords functionRecord? classRecord? isDocumented)
open Source (Stmt Accepted Trimmed Finished programText tokens columns? quotedBefore)
open Source.Statements (SameGist Gist gist)
open Text (Over PlainEnds unlines splitLines joinWith isLineEnd)

/-! ## The lines of a docstring -/

/-- A line set in by some blanks, unless it is empty. -/
def setIn (k : Nat) (l : List Char) : List Char := if l.isEmpty then [] else List.replicate k ' ' ++ l

theorem indentedLines_eq (k : Nat) (docstring : List Char) :
    indentedLines k docstring = (splitLines docstring).map (setIn k) := rfl

theorem mem_setIn {k : Nat} {l : List Char} {c : Char} (h : c ∈ setIn k l) : c = ' ' ∨ c ∈ l := by
  unfold setIn at h
  split at h
  · cases h
  · exact (List.mem_append.1 h).imp_left fun h => (List.mem_replicate.1 h).2

theorem mem_setIn_of_mem (k : Nat) {l : List Char} {c : Char} (h : c ∈ l) : c ∈ setIn k l := by
  unfold setIn
  rw [if_neg (by simpa using List.ne_nil_of_mem h)]
  exact List.mem_append_right _ h

/-- The lines between the quotes of a docstring that is set in, and the blanks before the quotes that end it. -/
def quotedLines (k : Nat) (inner : List Char) : List Char :=
  unlines ((splitLines (inner ++ ['\n'])).map (setIn k)) ++ List.replicate k ' '

def tripleQuote : List Char := ['"', '"', '"']

theorem toList_tripleQuoted (inner : String) :
    (tripleQuoted inner).toList = tripleQuote ++ '\n' :: (inner.toList ++ '\n' :: tripleQuote) := by
  simp [tripleQuoted, tripleQuote, String.toList_append]

theorem splitLines_tripleQuoted (inner : String) :
    splitLines (tripleQuoted inner).toList = tripleQuote :: (splitLines (inner.toList ++ ['\n']) ++ [tripleQuote]) := by
  have houter := Text.splitLinesFrom_append [] tripleQuote (inner.toList ++ '\n' :: tripleQuote)
  have hinner := Text.splitLinesFrom_append [] inner.toList tripleQuote
  calc splitLines (tripleQuoted inner).toList
    _ = splitLines (tripleQuote ++ ['\n']) ++ splitLines (inner.toList ++ '\n' :: tripleQuote) := by
      rw [toList_tripleQuoted]
      exact houter
    _ = [tripleQuote] ++ (splitLines (inner.toList ++ ['\n']) ++ [tripleQuote]) := congrArg ([tripleQuote] ++ ·) hinner

/-- **The lines of a docstring are a string on lines of its own.** -/
theorem unlines_indentedLines (k : Nat) (inner : String) (rest : List Char) :
    unlines (indentedLines k (tripleQuoted inner).toList) ++ rest =
      quotedBefore k ('\n' :: quotedLines k inner.toList) rest := by
  rw [indentedLines_eq, splitLines_tripleQuoted]
  simp [setIn, Text.unlines_append, quotedBefore, quotedLines, tripleQuote]

theorem mem_quotedLines {k : Nat} {inner : List Char} {c : Char} (h : c ∈ quotedLines k inner) :
    c = '\n' ∨ c = ' ' ∨ c ∈ inner := by
  rcases List.mem_append.1 h with h | h
  · obtain ⟨l, hl, h⟩ := List.mem_flatMap.1 h
    obtain ⟨m, hm, rfl⟩ := List.mem_map.1 hl
    rcases List.mem_append.1 h with h | h
    · rcases mem_setIn h with h | h
      · exact .inr (.inl h)
      · rcases List.mem_append.1 (Text.mem_splitLines hm h).1 with h | h
        · exact .inr (.inr h)
        · exact .inl (List.mem_singleton.1 h)
    · exact .inl (List.mem_singleton.1 h)
  · exact .inr (.inl (List.mem_replicate.1 h).2)

theorem mem_quotedLines_of_mem (k : Nat) {inner : List Char} {c : Char} (h : c ∈ inner) (hc : isLineEnd c = false) :
    c ∈ quotedLines k inner := by
  obtain ⟨l, hl, hmem⟩ : ∃ l ∈ splitLines (inner ++ ['\n']), c ∈ l :=
    Text.exists_mem_splitLinesFrom (.inr ⟨List.mem_append_left _ h, hc⟩)
  refine List.mem_append_left _ (List.mem_flatMap.2 ⟨setIn k l, List.mem_map.2 ⟨l, hl, rfl⟩, ?_⟩)
  exact List.mem_append_left _ (mem_setIn_of_mem k hmem)

theorem not_mem_quotedLines {k : Nat} {inner : String} (h : Over isQuotable inner) {c : Char} (hc : isQuotable c = false) :
    c ∉ '\n' :: quotedLines k inner.toList := by
  have hspace : c ≠ ' ' := fun he => by rw [he] at hc; cases hc
  have hline : c ≠ '\n' := fun he => by rw [he] at hc; cases hc
  intro hmem
  rcases List.mem_cons.1 hmem with he | hmem
  · exact hline he
  · rcases mem_quotedLines hmem with he | he | hmem
    · exact hline he
    · exact hspace he
    · rw [List.all_eq_true.1 h c hmem] at hc
      cases hc

theorem isLineEnd_of_isBlank {c : Char} (h : Text.isBlank c = false) : isLineEnd c = false := by
  unfold Text.isBlank Text.isBlankPoint at h
  unfold isLineEnd
  simp only [Bool.or_eq_false_iff, Bool.and_eq_false_iff, decide_eq_false_iff_not] at h ⊢
  omega

/-! ## Lines put into a text -/

theorem insertLines_eq (block : List (List Char)) {n : Nat} {text : List Char} (hn : n ≤ (splitLines text).length) :
    insertLines block n text = joinWith ['\n'] ((splitLines text).take n ++ block ++ (splitLines text).drop n) := by
  have hcut : cutAt n (splitLines text).length = n := by
    unfold cutAt
    rw [if_neg (by omega), Int.toNat_natCast, Nat.min_eq_left hn]
  unfold insertLines
  dsimp only
  rw [hcut]

section Insert

variable {text pre rest : List Char} (hends : PlainEnds text) (hne : text ≠ []) (hT : programText text = pre ++ '\n' :: rest)

include hends hne hT

theorem lines_cut : pre ++ ['\n'] = unlines ((splitLines text).take (pre.count '\n' + 1)) ∧
    rest = unlines ((splitLines text).drop (pre.count '\n' + 1)) ∧ pre.count '\n' + 1 ≤ (splitLines text).length :=
  Text.unlines_cut (fun _ => Text.newline_not_mem_splitLines) ((Text.programText_eq hends hne).symm.trans hT)

/-- **Lines that are put into a program stand between its lines**, and an empty last line of it is dropped. -/
theorem programText_insertLines (hfin : ¬ ['\\', '\n', '\n'] <:+ programText text) {block : List (List Char)} {l : List Char}
    (hblock : ∀ m ∈ block ++ [l], ∀ c ∈ m, isLineEnd c = false) (hl : l ≠ []) :
    ∃ rest', Trimmed rest rest' ∧ programText (insertLines (block ++ [l]) (pre.count '\n' + 1 : Nat) text) =
      pre ++ '\n' :: (unlines (block ++ [l]) ++ rest') := by
  obtain ⟨hpre, hrest, hlen⟩ := lines_cut hends hne hT
  rw [insertLines_eq _ hlen]
  generalize pre.count '\n' + 1 = n at hpre hrest hlen
  have hall : ∀ m ∈ (splitLines text).take n ++ (block ++ [l]) ++ (splitLines text).drop n, ∀ c ∈ m, isLineEnd c = false := by
    intro m hm c hc
    rcases List.mem_append.1 hm with hm | hm
    · rcases List.mem_append.1 hm with hm | hm
      · exact (Text.mem_splitLines (List.mem_of_mem_take hm) hc).2
      · exact hblock m hm c hc
    · exact (Text.mem_splitLines (List.mem_of_mem_drop hm) hc).2
  have htext : ∀ ms, unlines ((splitLines text).take n ++ (block ++ [l]) ++ ms) =
      pre ++ '\n' :: (unlines (block ++ [l]) ++ unlines ms) := fun ms => by
    rw [Text.unlines_append, Text.unlines_append, ← hpre]
    simp
  have htake : (splitLines text).take n ≠ [] := fun hnil => by
    rw [hnil] at hpre
    exact absurd hpre (by simp)
  rcases List.eq_nil_or_concat ((splitLines text).drop n) with hnil | ⟨ms, m, hms⟩
  · have hjoined := htext []
    refine ⟨rest, .inl rfl, ?_⟩
    rw [hnil] at hall hrest ⊢
    rw [List.append_nil, ← List.append_assoc] at hall hjoined ⊢
    rw [Text.programText_joinWith hall (by simp [htake]), if_neg hl, hrest, hjoined]
  · rw [List.concat_eq_append] at hms
    have hjoined := htext (ms ++ [m])
    rw [hms] at hall hrest ⊢
    rw [← List.append_assoc _ ms [m]] at hall hjoined ⊢
    rw [Text.programText_joinWith hall (by simp)]
    by_cases hm : m = []
    · subst hm
      have hdropped : rest = unlines ms ++ ['\n'] := by
        rw [hrest, Text.unlines_append]
        rfl
      rw [if_pos rfl, htext]
      refine ⟨unlines ms, .inr ⟨hdropped, (em (ms = [])).imp (fun h => by rw [h]; rfl) fun hms => ?_⟩, rfl⟩
      refine ⟨Text.getLast?_unlines hms, fun ⟨front, hfront⟩ => hfin ⟨pre ++ '\n' :: front, ?_⟩⟩
      rw [hT, hdropped, ← hfront]
      simp
    · rw [if_neg hm, hjoined, hrest]
      exact ⟨_, .inl rfl, rfl⟩

end Insert

theorem mem_insertLines {block : List (List Char)} {n : Int} {text : List Char} {c : Char} (h : c ∈ insertLines block n text) :
    c = '\n' ∨ (∃ l ∈ block, c ∈ l) ∨ c ∈ text ∧ isLineEnd c = false := by
  rcases Text.mem_of_mem_joinWith h with h | ⟨l, hl, h⟩
  · exact .inl (List.mem_singleton.1 h)
  · rcases List.mem_append.1 hl with hl | hl
    · rcases List.mem_append.1 hl with hl | hl
      · exact .inr (.inr (Text.mem_splitLines (List.mem_of_mem_take hl) h))
      · exact .inr (.inl ⟨l, hl, h⟩)
    · exact .inr (.inr (Text.mem_splitLines (List.mem_of_mem_drop hl) h))

/-! ## Records of agreeing programs -/

def documents (doc : Option (List Nat)) : Bool := doc.any fun points => !(Definition.cleanedLines points).isEmpty

theorem isDocumented_eq (body : List Stmt) : isDocumented body = documents (Definition.docText? body) := by
  unfold isDocumented documents
  cases Definition.docText? body <;> rfl

/-- The name of a function and whether it is documented. -/
def functionOutline (r : FunctionRecord) : String × Bool := (r.name, r.hasDocstring)

/-- The name of a class and whether it is documented. -/
def classOutline (r : ClassRecord) : String × Bool := (r.name, r.hasDocstring)

def functionOutline? : Gist Unit → Option (String × Bool)
  | .function false name _ doc => some (name, documents doc)
  | _ => none

def classOutline? : Gist Unit → Option (String × Bool)
  | .type name doc => some (name, documents doc)
  | _ => none

theorem functionOutline?_gist (s : Stmt) :
    functionOutline? (gist (fun _ => ()) s) = (functionRecord? s).map functionOutline := by
  cases s with
  | funcDef isAsync span name params body decorators returns =>
    cases isAsync with
    | false => exact congrArg (fun b => some (name, b)) (isDocumented_eq body).symm
    | true => rfl
  | _ => rfl

theorem classOutline?_gist (s : Stmt) : classOutline? (gist (fun _ => ()) s) = (classRecord? s).map classOutline := by
  cases s with
  | classDef span name bases keywords body decorators => exact congrArg (fun b => some (name, b)) (isDocumented_eq body).symm
  | _ => rfl

theorem outlines_eq {ρ β : Type} {record? : Stmt → Option ρ} {outline : ρ → β} {outline? : Gist Unit → Option β}
    (h : ∀ s, outline? (gist (fun _ => ()) s) = (record? s).map outline) (body : List Stmt) :
    (body.filterMap record?).map outline = (body.map (gist fun _ => ())).filterMap outline? := by
  rw [List.map_filterMap, List.filterMap_map]
  exact congrArg (fun g => body.filterMap g) (funext fun s => (h s).symm)

theorem functionOutlines_congr {l l' : List Stmt} (h : SameGist (fun _ => ()) l l') :
    (functionRecords l').map functionOutline = (functionRecords l).map functionOutline := by
  unfold functionRecords
  rw [outlines_eq functionOutline?_gist, outlines_eq functionOutline?_gist, h]

theorem classOutlines_congr {l l' : List Stmt} (h : SameGist (fun _ => ()) l l') :
    (classRecords l').map classOutline = (classRecords l).map classOutline := by
  unfold classRecords
  rw [outlines_eq classOutline?_gist, outlines_eq classOutline?_gist, h]

section Function

variable (l m : List Stmt) (span : Source.Span) (name : String) (params : Source.Params) (inner : List Stmt)
  (decorators : List Source.Expr) (returns : Option Source.Expr)

theorem functionOutlines_at :
    (functionRecords (l ++ .funcDef false span name params inner decorators returns :: m)).map functionOutline =
      (functionRecords l).map functionOutline ++ (name, isDocumented inner) :: (functionRecords m).map functionOutline := by
  unfold functionRecords
  rw [List.filterMap_append, List.map_append]
  rfl

theorem classOutlines_at :
    (classRecords (l ++ .funcDef false span name params inner decorators returns :: m)).map classOutline =
      (classRecords l).map classOutline ++ (classRecords m).map classOutline := by
  unfold classRecords
  rw [List.filterMap_append, List.map_append]
  rfl

end Function

theorem exists_of_functionRecords {body : List Stmt} {before after : List FunctionRecord} {f : FunctionRecord}
    (h : functionRecords body = before ++ f :: after) : ∃ l span name params inner decorators returns m,
      body = l ++ .funcDef false span name params inner decorators returns :: m ∧ functionRecords l = before ∧
        functionRecords m = after ∧ f.name = name ∧ f.line = span.line ∧ f.indent = span.col + 4 := by
  obtain ⟨l, rest, rfl, hl, hrest⟩ := List.filterMap_eq_append_iff.1 h
  obtain ⟨l', s, m, rfl, hnone, hs, hm⟩ := List.filterMap_eq_cons_iff.1 hrest
  have hbefore : functionRecords (l ++ l') = before := by
    unfold functionRecords
    rw [List.filterMap_append, hl, List.filterMap_eq_nil_iff.2 hnone, List.append_nil]
  cases s with
  | funcDef isAsync span name params inner decorators returns =>
    cases isAsync with
    | true => cases hs
    | false =>
      cases hs
      exact ⟨l ++ l', span, name, params, inner, decorators, returns, m, (List.append_assoc ..).symm, hbefore, hm, rfl, rfl, rfl⟩
  | _ => cases hs

/-! ## A docstring behind the line of a function -/

/-- Lines can be put into the text behind the line of a function: they end as the program's lines do, the line of the
function is one of them, and no backslash stands before an empty last line. -/
structure Separable (text : List Char) (f : FunctionRecord) : Prop where
  ends : PlainEnds text
  finished : ¬ ['\\', '\n', '\n'] <:+ programText text
  line : ∃ t ∈ tokens (programText text), t.tok = .newline ∧ t.line = f.line

/-- The first words behind the line of a function stand in the columns that the docstring is set in by. -/
def Aligned (text : List Char) (f : FunctionRecord) : Prop :=
  columns? (unlines ((splitLines text).drop f.line)) = some (f.indent, f.indent)

def withDocstring (text : List Char) (f : FunctionRecord) (docstring : String) : List Char :=
  insertLines (indentedLines f.indent docstring.toList) f.line text

theorem Separable.ne_nil {text : List Char} {f : FunctionRecord} (h : Separable text f) : text ≠ [] := by
  rintro rfl
  obtain ⟨t, ht, hnewline, -⟩ := h.line
  have hnone : ∀ t ∈ tokens (programText []), t.tok ≠ .newline := by decide +kernel
  exact hnone t ht hnewline

theorem isLineEnd_of_mem_indentedLines {indent : Int} {docstring l : List Char} (hl : l ∈ indentedLines indent docstring)
    {c : Char} (hc : c ∈ l) : isLineEnd c = false := by
  obtain ⟨m, hm, rfl⟩ := List.mem_map.1 hl
  rcases mem_setIn (k := indent.toNat) hc with rfl | hc
  · rfl
  · exact (Text.mem_splitLines hm hc).2

theorem mem_withDocstring {text : List Char} {f : FunctionRecord} {docstring : String} {c : Char}
    (h : c ∈ withDocstring text f docstring) : c = '\n' ∨ isLineEnd c = false ∧ (c = ' ' ∨ c ∈ docstring.toList ∨ c ∈ text) := by
  rcases mem_insertLines h with h | ⟨l, hl, hc⟩ | ⟨hc, hend⟩
  · exact .inl h
  · refine .inr ⟨isLineEnd_of_mem_indentedLines hl hc, ?_⟩
    rw [indentedLines_eq] at hl
    obtain ⟨m, hm, rfl⟩ := List.mem_map.1 hl
    exact (mem_setIn hc).imp_right fun hc => .inl (Text.mem_splitLines hm hc).1
  · exact .inr ⟨hend, .inr (.inr hc)⟩

/-- **The program of the new text**: a string on lines of its own behind the line of the function. -/
theorem programText_withDocstring {text pre rest : List Char} {f : FunctionRecord} (hs : Separable text f)
    (hT : programText text = pre ++ '\n' :: rest) (hline : f.line = pre.count '\n' + 1) (inner : String) :
    ∃ rest', Trimmed rest rest' ∧ programText (withDocstring text f (tripleQuoted inner)) =
      pre ++ '\n' :: quotedBefore f.indent ('\n' :: quotedLines f.indent inner.toList) rest' := by
  have hlast : setIn f.indent tripleQuote ≠ [] := List.ne_nil_of_mem (mem_setIn_of_mem _ (List.mem_cons_self (a := '"')))
  obtain ⟨block, hblock⟩ : ∃ block, indentedLines f.indent (tripleQuoted inner).toList = block ++ [setIn f.indent tripleQuote] := by
    rw [indentedLines_eq, splitLines_tripleQuoted, ← List.cons_append, List.map_append]
    exact ⟨_, rfl⟩
  have hends : ∀ m ∈ block ++ [setIn f.indent tripleQuote], ∀ c ∈ m, isLineEnd c = false := by
    rw [← hblock]
    exact fun m hm c hc => isLineEnd_of_mem_indentedLines hm hc
  obtain ⟨rest', htrim, htext⟩ := programText_insertLines hs.ends hs.ne_nil hT hs.finished hends hlast
  refine ⟨rest', htrim, ?_⟩
  rw [← hblock, ← hline, unlines_indentedLines] at htext
  exact htext

theorem null_not_mem_withDocstring {text : List Char} {f : FunctionRecord} {inner : String} (h : '\x00' ∉ text)
    (hq : Over isQuotable inner) : '\x00' ∉ withDocstring text f (tripleQuoted inner) := by
  intro hmem
  rcases mem_withDocstring hmem with he | ⟨-, he | hc | hc⟩
  · cases he
  · cases he
  · have hfixed : '\x00' ∉ tripleQuote := by decide
    have hinner : '\x00' ∉ inner.toList := fun hc => absurd (List.all_eq_true.1 hq _ hc) (by decide)
    rw [toList_tripleQuoted] at hc
    simp [hfixed, hinner] at hc
  · exact h hc

section Documents

variable {text : List Char} {body : List Stmt} {before after : List FunctionRecord} {f : FunctionRecord} {inner : String}

/-- **A docstring behind the line of a function documents it exactly if it stands in the columns of the block.**  Then the
new text is a program with the same functions and classes, of which all but this one are as well documented as before.
Otherwise it is none. -/
theorem insert_documents (hparse : Source.parse text = .ok body) (hf : functionRecords body = before ++ f :: after)
    (hs : Separable text f) (hq : Over isQuotable inner) (hdoc : ∃ c ∈ inner.toList, Text.isBlank c = false) :
    (Aligned text f → ∃ body', Source.parse (withDocstring text f (tripleQuoted inner)) = .ok body' ∧
      (functionRecords body').map functionOutline = before.map functionOutline ++ (f.name, true) :: after.map functionOutline ∧
      (classRecords body').map classOutline = (classRecords body).map classOutline) ∧
    (¬ Aligned text f → ∀ body', Source.parse (withDocstring text f (tripleQuoted inner)) ≠ .ok body') := by
  obtain ⟨hnull, hacc⟩ := Source.parse_eq_ok_iff.1 hparse
  obtain ⟨l, span, name, params, block, decorators, returns, m, rfl, rfl, rfl, hname, hline, hindent⟩ :=
    exists_of_functionRecords hf
  obtain ⟨pre, rest, hT, hcount, hinsert⟩ := Source.exists_insert hacc (hline ▸ hs.line)
  obtain ⟨-, hrest, -⟩ := lines_cut hs.ends hs.ne_nil hT
  obtain ⟨rest', htrim, htext⟩ := programText_withDocstring hs hT (hline.trans hcount) inner
  have hbackslash : '\\' ∉ '\n' :: quotedLines f.indent inner.toList := not_mem_quotedLines hq rfl
  have haligned : Aligned text f ↔ columns? rest = some (f.indent, f.indent) := by
    unfold Aligned
    rw [hline, hcount, ← hrest]
  obtain ⟨haccepted, hrefused⟩ := hinsert (k := f.indent) (by omega) (not_mem_quotedLines hq rfl) hbackslash
    (Source.textPoints_plain hbackslash) htrim
  rw [haligned]
  constructor
  · intro hcols
    obtain ⟨l', span', params', block', decorators', returns', m', hl, hm, hacc'⟩ := haccepted hcols
    refine ⟨_, Source.parse_eq_ok_iff.2 ⟨null_not_mem_withDocstring hnull hq, htext ▸ hacc'⟩, ?_, ?_⟩
    · obtain ⟨c, hc, hblank⟩ := hdoc
      have hmem := mem_quotedLines_of_mem f.indent hc (isLineEnd_of_isBlank hblank)
      rw [functionOutlines_at, Definition.isDocumented_of_mem hblank hmem, functionOutlines_congr hl, functionOutlines_congr hm,
        hname]
    · rw [classOutlines_at, classOutlines_at, classOutlines_congr hl, classOutlines_congr hm]
  · intro hcols body' hbody'
    exact hrefused hcols body' (htext ▸ (Source.parse_eq_ok_iff.1 hbody').2)

end Documents

end DocReview.Suggestion
