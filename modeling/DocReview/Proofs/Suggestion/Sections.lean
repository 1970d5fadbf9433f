import DocReview.Proofs.Suggestion.Layout
import DocReview.Proofs.Suggestion.Reading
/-!
# Sections — docstrings as texts

A docstring shows a summary, an entry for each argument, what is returned and what is raised (`Shown`).  In every style it is
the text of these: the summary on its first line, then the entries in the form of the style, and then the lines on what is
returned and raised (`layout_text`).  One style trims what stands between the quotes; nothing is lost by that but the last
line feed, as long as the content is neat (`trim_closed`).
-/
namespace DocReview

/-! ## Trimming a text of lines -/

namespace Text

/-- A text that is not empty and neither begins nor ends with a blank. -/
def Tight (cs : List Char) : Prop :=
  (cs.head?.any fun c => !isBlank c) = true ∧ (cs.getLast?.any fun c => !isBlank c) = true

instance (cs : List Char) : Decidable (Tight cs) := inferInstanceAs (Decidable (_ ∧ _))

/-- A text that ends with a line feed behind something that is not blank. -/
def Closed (cs : List Char) : Prop := ∃ front c, cs = front ++ [c, '\n'] ∧ isBlank c = false

theorem closed_append {cs : List Char} (h : Closed cs) (before : List Char) : Closed (before ++ cs) := by
  obtain ⟨front, c, rfl, hc⟩ := h
  exact ⟨before ++ front, c, by simp, hc⟩

theorem Tight.closed {cs : List Char} (h : Tight cs) : Closed (cs ++ ['\n']) := by
  obtain ⟨c, hlast, hc⟩ := (Option.any_eq_true _ _).1 h.2
  obtain ⟨front, rfl⟩ := List.getLast?_eq_some_iff.1 hlast
  exact ⟨front, c, by simp, by simpa using hc⟩

theorem closed_flatMap {α : Type} {g : α → List Char} : ∀ {l : List α}, l ≠ [] → (∀ x ∈ l, Closed (g x)) →
    Closed (l.flatMap g)
  | [], h, _ => absurd rfl h
  | [x], _, h => by
    rw [List.flatMap_singleton]
    exact h x List.mem_cons_self
  | x :: y :: l, _, h => by
    rw [List.flatMap_cons]
    exact closed_append (closed_flatMap (List.cons_ne_nil y l) fun z hz => h z (List.mem_cons_of_mem x hz)) (g x)

/-- **Trimming takes the last line feed from a closed text** that does not begin with a blank. -/
theorem trim_closed {c : Char} {cs : List Char} (hc : isBlank c = false) (h : Closed (c :: cs)) :
    trim (c :: cs) ++ ['\n'] = c :: cs := by
  obtain ⟨front, d, hcs, hd⟩ := h
  have hstart : trimStart (c :: cs) = c :: cs := List.dropWhile_cons_of_neg (by simp [hc])
  have hend : trimEnd (front ++ [d, '\n']) = front ++ [d] := by
    have hfeed : isBlank '\n' = true := rfl
    simp [trimEnd, List.dropWhile_cons_of_pos hfeed, List.dropWhile_cons_of_neg (a := d) (p := isBlank) (by simp [hd])]
  rw [trim, hstart, hcs, hend]
  simp

theorem joinWith_feed {ls : List (List Char)} (h : ls ≠ []) : joinWith ['\n'] ls ++ ['\n'] = unlines ls := by
  obtain ⟨front, l, rfl⟩ := List.eq_nil_or_concat ls |>.resolve_left h
  rw [List.concat_eq_append, joinWith_concat, unlines_append]
  simp

def ofLines (ls : List String) : List Char := unlines (ls.map String.toList)

@[simp] theorem ofLines_nil : ofLines [] = [] := rfl

@[simp] theorem ofLines_cons (l : String) (ls : List String) : ofLines (l :: ls) = l.toList ++ '\n' :: ofLines ls := by
  simp [ofLines]

@[simp] theorem ofLines_append (ls ms : List String) : ofLines (ls ++ ms) = ofLines ls ++ ofLines ms := by
  simp [ofLines, unlines_append]

theorem ofLines_flatMap {α : Type} (g : α → List String) (l : List α) :
    ofLines (l.flatMap g) = l.flatMap fun x => ofLines (g x) := by
  induction l with
  | nil => rfl
  | cons x l ih => rw [List.flatMap_cons, List.flatMap_cons, ofLines_append, ih]

theorem joinWith_blocks (first : String) (blocks : List (List String)) :
    joinWith ['\n'] ((first :: "" :: blocks.flatMap (· ++ [""])).map String.toList) =
      ofLines (first :: blocks.flatMap ("" :: ·)) := by
  have hshift : "" :: blocks.flatMap (· ++ [""]) = blocks.flatMap ("" :: ·) ++ [""] := by
    induction blocks with
    | nil => rfl
    | cons b blocks ih =>
      rw [List.flatMap_cons, List.flatMap_cons, List.append_assoc, List.append_assoc, ← ih]
      simp
  rw [hshift, ← List.cons_append, List.map_append]
  have hjoin := joinWith_concat ((first :: blocks.flatMap ("" :: ·)).map String.toList) []
  rw [List.append_nil] at hjoin
  exact hjoin

end Text

namespace Suggestion

open Definition (FunctionRecord Argument)
open Text (Tight Closed ofLines)

/-! ## What a docstring shows -/

/-- What a docstring shows. What is returned has a type and a description, and what is raised a name and a description. -/
structure Shown where
  summary : String
  entries : List Entry
  returned : Option (String × String)
  raised : List (String × String)

/-- The type that is shown for an argument. -/
def shownType (a : Argument) : String := (a.hint.filter (· ≠ "")).getD "TYPE"

/-- The entry of an argument: its name, its type, and what is said about it. -/
def entryOf (descriptions : List (String × Value)) (a : Argument) : Entry :=
  ⟨a.name, shownType a, ((Value.lookup? a.name descriptions).getD placeholder).text⟩

def raisedOf (raises : List (String × Value)) : List (String × String) := raises.map fun x => (x.1, x.2.text)

def returnedOf (f : FunctionRecord) (returns : String) : Option (String × String) :=
  (f.returns.filter (· ≠ "")).map fun t => (t, returns)

def Shown.ofContent (f : FunctionRecord) (summary : String) (args : List (String × Value)) (returns : String)
    (raises : List (String × Value)) : Shown :=
  ⟨summary, f.args.map (entryOf args), returnedOf f returns, raisedOf raises⟩

def Style.entryLines : Style → Entry → List String
  | .google, e => ["    " ++ e.name ++ " (" ++ e.type ++ "): " ++ e.description]
  | .numpy, e => [e.name ++ " : " ++ e.type, "    " ++ e.description]
  | .rest, e => [":param " ++ e.name ++ ": " ++ e.description, ":type " ++ e.name ++ ": " ++ e.type]

theorem ofLines_entryLines (style : Style) (e : Entry) : ofLines (style.entryLines e) = style.entryForm.write e := by
  cases style <;> simp [Style.entryLines, Style.entryForm, EntryForm.write, writeFields, Entry.get]

def Style.headingLines : Style → List String
  | .google => ["", "Args:"]
  | .numpy => ["", "Parameters", "----------"]
  | .rest => [""]

theorem ofLines_headingLines (style : Style) : ofLines style.headingLines = style.entryForm.heading.toList := by
  cases style <;> simp [Style.headingLines, Style.entryForm]

def Style.returnLines : Style → String × String → List String
  | .google, r => ["", "Returns:", "    " ++ r.1 ++ ": " ++ r.2]
  | .numpy, r => ["", "Returns", "-------", r.1, "    " ++ r.2]
  | .rest, r => [":return: " ++ r.2, ":rtype: " ++ r.1]

def Style.raiseHeading : Style → List String
  | .google => ["", "Raises:"]
  | .numpy => ["", "Raises", "------"]
  | .rest => []

def Style.raiseLines : Style → String × String → List String
  | .google, x => ["    " ++ x.1 ++ ": " ++ x.2]
  | .numpy, x => [x.1, "    " ++ x.2]
  | .rest, x => [":raises " ++ x.1 ++ ": " ++ x.2]

def Style.raisesLines (style : Style) (raised : List (String × String)) : List String :=
  if raised = [] then [] else style.raiseHeading ++ raised.flatMap style.raiseLines

def Style.footLines (style : Style) (d : Shown) : List String :=
  d.returned.toList.flatMap style.returnLines ++ style.raisesLines d.raised

/-- What follows the entries, up to the end of the docstring. -/
def Style.tail (style : Style) (d : Shown) : List Char := ofLines (style.footLines d) ++ "\"\"\"".toList

def Style.lines (style : Style) (d : Shown) : List String :=
  d.summary :: ((if style = .google ∧ d.entries = [] then [] else style.headingLines) ++
    (d.entries.flatMap style.entryLines ++ style.footLines d))

theorem docText_eq (style : Style) (d : Shown) : docText style d.summary d.entries (style.tail d) =
    "\"\"\"\n".toList ++ (ofLines (style.lines d) ++ "\"\"\"".toList) := by
  have hheading : ofLines (if style = .google ∧ d.entries = [] then [] else style.headingLines) = style.opening d.entries := by
    unfold Style.opening
    split
    · rfl
    · exact ofLines_headingLines style
  have hentries : ofLines (d.entries.flatMap style.entryLines) = d.entries.flatMap style.entryForm.write := by
    rw [Text.ofLines_flatMap]
    exact congrArg d.entries.flatMap (funext (ofLines_entryLines style))
  simp only [docText, Style.tail, Style.lines, Text.ofLines_cons, Text.ofLines_append, hheading, hentries, List.append_assoc,
    List.cons_append]

theorem quoted_docText (style : Style) (d : Shown) :
    "\"\"\"\n".toList <+: docText style d.summary d.entries (style.tail d) ∧
      "\n\"\"\"".toList <:+ docText style d.summary d.entries (style.tail d) := by
  have hne : (style.lines d).map String.toList ≠ [] := List.cons_ne_nil _ _
  refine ⟨List.prefix_append _ _, ?_⟩
  rw [docText_eq, ofLines, ← Text.joinWith_feed hne]
  refine ⟨"\"\"\"\n".toList ++ Text.joinWith ['\n'] ((style.lines d).map String.toList), ?_⟩
  simp

/-! ## Values and lines -/

theorem typeOf_value (a : Argument) : typeOf a.value = .ok (.str (shownType a)) := by
  obtain ⟨name, hint⟩ := a
  cases hint with
  | none => rfl
  | some t =>
    by_cases ht : t = ""
    · subst ht
      rfl
    · have htruthy : (Value.str t).truthy = true := decide_eq_true ht
      have htype : (Value.str t).orElse (.str "TYPE") = .str t := if_pos htruthy
      have hshown : shownType ⟨name, some t⟩ = t := by simp [shownType, Option.filter, ht]
      rw [hshown]
      exact congrArg Except.ok htype

theorem googleArgument_value (args : List (String × Value)) (a : Argument) :
    googleArgument (.dict args) a.value = .ok (.str ("    " ++ a.name ++ " (" ++ shownType a ++ "): " ++
      (entryOf args a).description)) := by
  refine Result.bind_eq_ok_iff.2 ⟨.str a.name, rfl, Result.bind_eq_ok_iff.2 ⟨_, typeOf_value a, ?_⟩⟩
  rfl

theorem described_value (args : List (String × Value)) (a : Argument) :
    described (.dict args) a.value =
      .ok (.str a.name, .str (shownType a), (Value.lookup? a.name args).getD placeholder) := by
  refine Result.bind_eq_ok_iff.2 ⟨_, typeOf_value a, ?_⟩
  rfl

theorem numpyArgument_value (args : List (String × Value)) (a : Argument) :
    numpyArgument (.dict args) a.value = .ok ((Style.numpy.entryLines (entryOf args a)).map .str) :=
  Result.bind_eq_ok_iff.2 ⟨_, described_value args a, rfl⟩

theorem restArgument_value (args : List (String × Value)) (a : Argument) :
    restArgument (.dict args) a.value = .ok ((Style.rest.entryLines (entryOf args a)).map .str) :=
  Result.bind_eq_ok_iff.2 ⟨_, described_value args a, rfl⟩

theorem join_lines (ls : List String) : Value.join "\n" (ls.map .str) =
    .ok (String.ofList (Text.joinWith ['\n'] (ls.map String.toList))) :=
  Result.bind_eq_ok_iff.2 ⟨_, Value.itemTexts_strings 0 ls, rfl⟩

theorem toList_quoted (cs : List Char) : (tripleQuoted (String.ofList cs)).toList =
    "\"\"\"\n".toList ++ (cs ++ ['\n'] ++ "\"\"\"".toList) := by
  simp [tripleQuoted]

/-- The section on what is returned, which is left out without a type. -/
theorem returns_eq (f : FunctionRecord) {returns : String} (hreturns : returns ≠ "") (lines : Value → Value → List Value)
    (g : String × String → List String)
    (hlines : ∀ t d : Value, lines t d = if t.truthy then (g (t.text, (d.orElse placeholder).text)).map .str else []) :
    lines (.ofText? f.returns) (.str returns) = ((returnedOf f returns).toList.flatMap g).map .str := by
  have hdescription : ((Value.str returns).orElse placeholder).text = returns :=
    congrArg Value.text (if_pos (decide_eq_true hreturns))
  rw [hlines, hdescription, returnedOf]
  cases f.returns with
  | none => rfl
  | some t =>
    by_cases ht : t = ""
    · subst ht
      rfl
    · have htruthy : (Value.str t).truthy = true := decide_eq_true ht
      rw [Value.ofText?, if_pos htruthy]
      simp [Option.filter, ht, Value.text]

theorem arguments_eq (f : FunctionRecord) (args : List (String × Value)) {style : Style}
    {describe : Value → Except Fault (List Value)}
    (h : ∀ a : Argument, describe a.value = .ok ((style.entryLines (entryOf args a)).map .str)) :
    ∃ ls, (f.args.map Argument.value).mapM describe = .ok ls ∧
      ls.flatten = ((f.args.map (entryOf args)).flatMap style.entryLines).map .str := by
  refine ⟨_, Result.mapM_map_eq_ok fun a _ => h a, ?_⟩
  rw [List.flatMap_map, List.map_flatMap, List.flatMap_def]

theorem map_raisesLines {raises : List (String × Value)} (h : raises ≠ []) (style : Style) :
    (style.raisesLines (raisedOf raises)).map Value.str =
      style.raiseHeading.map .str ++ raises.flatMap fun x => (style.raiseLines (x.1, x.2.text)).map .str := by
  have hraised : raisedOf raises ≠ [] := mt List.map_eq_nil_iff.1 h
  rw [Style.raisesLines, if_neg hraised, List.map_append, raisedOf, List.flatMap_map, List.map_flatMap]

theorem numpyRaises_eq (raises : List (String × Value)) :
    numpyRaises (.dict raises) = .ok ((Style.numpy.raisesLines (raisedOf raises)).map .str) := by
  by_cases h : raises = []
  · subst h
    rfl
  · have htruthy : (Value.dict raises).truthy = true := by simp [Value.truthy, h]
    rw [map_raisesLines h, numpyRaises, if_pos htruthy]
    rfl

theorem restRaises_eq (raises : List (String × Value)) :
    raises.map (fun x => Value.str (":raises " ++ x.1 ++ ": " ++ x.2.text)) =
      (Style.rest.raisesLines (raisedOf raises)).map .str := by
  by_cases h : raises = []
  · subst h
    rfl
  · rw [map_raisesLines h, List.map_eq_flatMap]
    rfl

def block {α : Type} (heading : String) (l : List α) (lines : α → List String) : List (List String) :=
  if l = [] then [] else [heading :: l.flatMap lines]

theorem map_block {α : Type} (heading : String) (l : List α) (lines : α → List String) :
    ((block heading l lines).flatMap (· ++ [""])).map Value.str =
      if l = [] then [] else .str heading :: (l.flatMap lines).map .str ++ [.str ""] := by
  unfold block
  split
  · rfl
  · simp

theorem googleArguments_eq (f : FunctionRecord) (args : List (String × Value)) :
    googleArguments (.list (f.args.map Argument.value)) (.dict args) =
      .ok (((block "Args:" (f.args.map (entryOf args)) Style.google.entryLines).flatMap (· ++ [""])).map .str) := by
  rw [map_block]
  by_cases h : f.args = []
  · rw [h]
    rfl
  · have htruthy : (Value.list (f.args.map Argument.value)).truthy = true := by simp [Value.truthy, h]
    have hlines : (f.args.map Argument.value).mapM (googleArgument (.dict args)) = .ok (f.args.map _) :=
      Result.mapM_map_eq_ok fun a _ => googleArgument_value args a
    rw [googleArguments, if_pos htruthy, if_neg (mt List.map_eq_nil_iff.1 h)]
    refine Result.bind_eq_ok_iff.2 ⟨_, rfl, Result.bind_eq_ok_iff.2 ⟨_, hlines, ?_⟩⟩
    rw [List.flatMap_map, List.map_flatMap, List.map_eq_flatMap]
    rfl

theorem googleRaises_eq (raises : List (String × Value)) :
    googleRaises (.dict raises) =
      .ok (((block "Raises:" (raisedOf raises) Style.google.raiseLines).flatMap (· ++ [""])).map .str) := by
  rw [map_block]
  by_cases h : raises = []
  · rw [h]
    rfl
  · have htruthy : (Value.dict raises).truthy = true := by simp [Value.truthy, h]
    have hraised : raisedOf raises ≠ [] := mt List.map_eq_nil_iff.1 h
    rw [googleRaises, if_pos htruthy, if_neg hraised, raisedOf, List.flatMap_map, List.map_flatMap]
    refine Result.bind_eq_ok_iff.2 ⟨_, rfl, ?_⟩
    rw [List.map_eq_flatMap]
    rfl

def googleBlocks (d : Shown) : List (List String) :=
  block "Args:" d.entries Style.google.entryLines ++
    (d.returned.toList.map fun r => ["Returns:\n    " ++ r.1 ++ ": " ++ r.2]) ++
    block "Raises:" d.raised Style.google.raiseLines

theorem ofLines_googleBlocks (d : Shown) :
    ofLines (d.summary :: (googleBlocks d).flatMap ("" :: ·)) = ofLines (Style.google.lines d) := by
  have harguments : ofLines ((block "Args:" d.entries Style.google.entryLines).flatMap ("" :: ·)) =
      ofLines (if Style.google = .google ∧ d.entries = [] then [] else Style.google.headingLines) ++
        ofLines (d.entries.flatMap Style.google.entryLines) := by
    by_cases h : d.entries = []
    · simp [block, h]
    · simp [block, h, Style.headingLines]
  have hreturned : ofLines ((d.returned.toList.map fun r => ["Returns:\n    " ++ r.1 ++ ": " ++ r.2]).flatMap ("" :: ·)) =
      ofLines (d.returned.toList.flatMap Style.google.returnLines) := by
    cases d.returned <;> simp [Style.returnLines]
  have hraised : ofLines ((block "Raises:" d.raised Style.google.raiseLines).flatMap ("" :: ·)) =
      ofLines (Style.google.raisesLines d.raised) := by
    by_cases h : d.raised = []
    · simp [block, Style.raisesLines, h]
    · simp [block, Style.raisesLines, h, Style.raiseHeading]
  rw [googleBlocks, List.flatMap_append, List.flatMap_append, Text.ofLines_cons, Text.ofLines_append, Text.ofLines_append,
    harguments, hreturned, hraised, Style.lines, Text.ofLines_cons, Text.ofLines_append, Text.ofLines_append,
    Style.footLines, Text.ofLines_append]
  simp only [List.append_assoc]

section Layout

variable (f : FunctionRecord) {v : Value} {summary : String} {args : List (String × Value)} {returns : String}
  {raises : List (String × Value)} (hs : v.field "summary" = .ok (.str summary)) (ha : v.field "args" = .ok (.dict args))
  (hr : v.field "returns" = .ok (.str returns)) (hx : v.field "raises" = .ok (.dict raises)) (hreturns : returns ≠ "")

include hs ha hr hx hreturns

theorem numpyDocstring_eq : numpyDocstring f.value v = .ok (tripleQuoted (String.ofList (Text.joinWith ['\n']
    ((Style.numpy.lines (.ofContent f summary args returns raises)).map String.toList)))) := by
  obtain ⟨ls, hls, hflat⟩ := arguments_eq f args (numpyArgument_value args)
  have hreturned := returns_eq f hreturns numpyReturns Style.numpy.returnLines fun t d => rfl
  have hlines : (Style.numpy.lines (.ofContent f summary args returns raises)).map Value.str =
      [.str summary, .str "", .str "Parameters", .str "----------"] ++ ls.flatten ++
        numpyReturns (.ofText? f.returns) (.str returns) ++ (Style.numpy.raisesLines (raisedOf raises)).map .str := by
    simp [Style.lines, Style.headingLines, Style.footLines, Shown.ofContent, hflat, hreturned]
  refine Result.bind_eq_ok_iff.2 ⟨_, ofContent_fields f hs ha hr hx functionSummary, ?_⟩
  refine Result.bind_eq_ok_iff.2 ⟨.list (f.args.map Argument.value), rfl, Result.bind_eq_ok_iff.2 ⟨_, rfl, ?_⟩⟩
  refine Result.bind_eq_ok_iff.2 ⟨_, hls, Result.bind_eq_ok_iff.2 ⟨.ofText? f.returns, rfl, ?_⟩⟩
  refine Result.bind_eq_ok_iff.2 ⟨_, numpyRaises_eq raises, Result.bind_eq_ok_iff.2 ⟨_, ?_, rfl⟩⟩
  exact (congrArg (Value.join "\n") hlines.symm).trans (join_lines _)

theorem restDocstring_eq : restDocstring f.value v = .ok (tripleQuoted (String.ofList (Text.joinWith ['\n']
    ((Style.rest.lines (.ofContent f summary args returns raises)).map String.toList)))) := by
  obtain ⟨ls, hls, hflat⟩ := arguments_eq f args (restArgument_value args)
  have hreturned := returns_eq f hreturns restReturns Style.rest.returnLines fun t d => rfl
  have hlines : (Style.rest.lines (.ofContent f summary args returns raises)).map Value.str =
      [.str summary, .str ""] ++ ls.flatten ++ restReturns (.ofText? f.returns) (.str returns) ++
        raises.map (fun x => .str (":raises " ++ x.1 ++ ": " ++ x.2.text)) := by
    simp [Style.lines, Style.headingLines, Style.footLines, Shown.ofContent, hflat, hreturned, restRaises_eq]
  refine Result.bind_eq_ok_iff.2 ⟨_, ofContent_fields f hs ha hr hx functionSummary, ?_⟩
  refine Result.bind_eq_ok_iff.2 ⟨.list (f.args.map Argument.value), rfl, Result.bind_eq_ok_iff.2 ⟨_, rfl, ?_⟩⟩
  refine Result.bind_eq_ok_iff.2 ⟨_, hls, Result.bind_eq_ok_iff.2 ⟨.ofText? f.returns, rfl, ?_⟩⟩
  refine Result.bind_eq_ok_iff.2 ⟨_, rfl, Result.bind_eq_ok_iff.2 ⟨_, ?_, rfl⟩⟩
  exact (congrArg (Value.join "\n") hlines.symm).trans (join_lines _)

theorem googleDocstring_eq : googleDocstring f.value v = .ok (tripleQuoted (String.ofList (Text.trim
    (ofLines (Style.google.lines (.ofContent f summary args returns raises)))))) := by
  have hreturned := returns_eq f hreturns googleReturns (fun r => ["Returns:\n    " ++ r.1 ++ ": " ++ r.2, ""])
    fun t d => rfl
  have hlines : (summary :: "" :: (googleBlocks (.ofContent f summary args returns raises)).flatMap (· ++ [""])).map Value.str =
      [.str summary, .str ""] ++ ((block "Args:" (f.args.map (entryOf args)) Style.google.entryLines).flatMap
        (· ++ [""])).map .str ++ googleReturns (.ofText? f.returns) (.str returns) ++
        ((block "Raises:" (raisedOf raises) Style.google.raiseLines).flatMap (· ++ [""])).map .str := by
    simp [googleBlocks, Shown.ofContent, hreturned, List.flatMap_map]
  have hjoin := join_lines (summary :: "" :: (googleBlocks (.ofContent f summary args returns raises)).flatMap (· ++ [""]))
  rw [Text.joinWith_blocks, hlines] at hjoin
  refine Result.bind_eq_ok_iff.2 ⟨_, ofContent_fields f hs ha hr hx plainSummary, ?_⟩
  refine Result.bind_eq_ok_iff.2 ⟨.list (f.args.map Argument.value), rfl, ?_⟩
  refine Result.bind_eq_ok_iff.2 ⟨_, googleArguments_eq f args, Result.bind_eq_ok_iff.2 ⟨.ofText? f.returns, rfl, ?_⟩⟩
  refine Result.bind_eq_ok_iff.2 ⟨_, googleRaises_eq raises, Result.bind_eq_ok_iff.2 ⟨_, hjoin, ?_⟩⟩
  have htext := ofLines_googleBlocks (.ofContent f summary args returns raises)
  rw [← htext, String.toList_ofList]
  rfl

end Layout

/-! ## Neat content -/

/-- What is shown is neat: the summary and every description neither begin nor end with a blank. -/
structure Shown.Neat (d : Shown) : Prop where
  summary : Tight d.summary.toList
  entries : ∀ e ∈ d.entries, Tight e.description.toList
  returned : ∀ r ∈ d.returned, Tight r.2.toList
  raised : ∀ x ∈ d.raised, Tight x.2.toList

theorem closed_line {s : String} (h : Tight s.toList) (before : String) : Closed (ofLines [before ++ s]) := by
  rw [Text.ofLines_cons, String.toList_append, List.append_assoc]
  exact Text.closed_append h.closed before.toList

theorem closed_below {ls : List String} (h : Closed (ofLines ls)) (l : String) : Closed (ofLines (l :: ls)) := by
  rw [Text.ofLines_cons]
  exact Text.closed_append (Text.closed_append h ['\n']) l.toList

theorem closed_block {α : Type} {l : List α} {lines : α → List String} (h : ∀ x ∈ l, Closed (ofLines (lines x)))
    (heading : String) : ∀ b ∈ block heading l lines, Closed (ofLines ("" :: b)) := by
  intro b hb
  unfold block at hb
  split at hb
  · cases hb
  · rename_i hl
    obtain rfl := List.mem_singleton.1 hb
    have hlines := Text.closed_flatMap hl h
    rw [← Text.ofLines_flatMap] at hlines
    exact closed_below (closed_below hlines heading) ""

theorem Shown.Neat.closed {d : Shown} (h : d.Neat) : Closed (ofLines (Style.google.lines d)) := by
  have hblocks : ∀ b ∈ googleBlocks d, Closed (ofLines ("" :: b)) := by
    intro b hb
    rcases List.mem_append.1 hb with hb | hb
    · rcases List.mem_append.1 hb with hb | hb
      · exact closed_block (fun e he => closed_line (h.entries e he) _) "Args:" b hb
      · obtain ⟨r, hr, rfl⟩ := List.mem_map.1 hb
        have hline := closed_line (h.returned r (Option.mem_toList.1 hr)) ("Returns:\n    " ++ r.1 ++ ": ")
        exact closed_below hline ""
    · exact closed_block (fun x hx => closed_line (h.raised x hx) _) "Raises:" b hb
  rw [← ofLines_googleBlocks]
  by_cases hnil : googleBlocks d = []
  · rw [hnil, List.flatMap_nil, Text.ofLines_cons]
    exact h.summary.closed
  · have hbelow := Text.closed_flatMap hnil hblocks
    rw [← Text.ofLines_flatMap] at hbelow
    exact closed_below hbelow d.summary

/-- **A docstring is the text of what it shows**, in every style. -/
theorem layout_text (style : Style) (f : FunctionRecord) {v : Value} {summary : String} {args : List (String × Value)}
    {returns : String} {raises : List (String × Value)} (hs : v.field "summary" = .ok (.str summary))
    (ha : v.field "args" = .ok (.dict args)) (hr : v.field "returns" = .ok (.str returns))
    (hx : v.field "raises" = .ok (.dict raises)) (hreturns : returns ≠ "")
    (hneat : (Shown.ofContent f summary args returns raises).Neat) :
    ∃ doc, style.layout f.value v = .ok doc ∧ doc.toList = docText style summary (f.args.map (entryOf args))
      (style.tail (.ofContent f summary args returns raises)) := by
  have htext := docText_eq style (.ofContent f summary args returns raises)
  -- two styles join the lines as they are
  have hjoined : (tripleQuoted (String.ofList (Text.joinWith ['\n']
      ((style.lines (.ofContent f summary args returns raises)).map String.toList)))).toList =
        docText style summary (f.args.map (entryOf args)) (style.tail (.ofContent f summary args returns raises)) := by
    have hne : (style.lines (.ofContent f summary args returns raises)).map String.toList ≠ [] := List.cons_ne_nil _ _
    rw [toList_quoted, Text.joinWith_feed hne]
    exact htext.symm
  cases style with
  | google =>
    refine ⟨_, googleDocstring_eq f hs ha hr hx hreturns, ?_⟩
    obtain ⟨c, hc, hblank⟩ := (Option.any_eq_true _ _).1 hneat.summary.1
    obtain ⟨rest, hrest⟩ := List.head?_eq_some_iff.1 hc
    have hlines : ∃ cs, ofLines (Style.google.lines (.ofContent f summary args returns raises)) = c :: cs := by
      rw [Style.lines, Text.ofLines_cons, hrest]
      exact ⟨_, rfl⟩
    obtain ⟨cs, hcs⟩ := hlines
    have htrim : Text.trim (c :: cs) ++ ['\n'] = c :: cs := Text.trim_closed (by simpa using hblank) (hcs ▸ hneat.closed)
    rw [toList_quoted, hcs, htrim, ← hcs]
    exact htext.symm
  | numpy => exact ⟨_, numpyDocstring_eq f hs ha hr hx hreturns, hjoined⟩
  | rest => exact ⟨_, restDocstring_eq f hs ha hr hx hreturns, hjoined⟩

end Suggestion
end DocReview
