import Mathlib.Data.List.DropRight
import DocReview.Proofs.Scan.Held
import DocReview.Proofs.Suggestion.Inserted
import DocReview.Proofs.Text.Joined
import DocReview.Session
/-!
# Effect — what putting a docstring into a file changes

A docstring goes between the lines of the file on both sides of its position, and nothing else on the disk changes
(`insertInFile_effect`).  The lines that stood in the file can be told from it afterwards, the text only if line feeds alone
end its lines and none ends the last.  Two docstrings can be put in in either order, if the position of the second is moved
by the lines of the first (`insertInFile_comm`).
-/
namespace DocReview

namespace Disk

/-- Content that spells a text, as it is or in UTF-8. -/
def Spells : Content → List Char → Prop
  | .text cs, t => cs = t
  | .bytes bs, t => Text.decode bs = .ok t

/-- The text of a file is what its content spells, with line feeds for all its line ends of one or two characters. -/
theorem textOf_eq_ok_iff {c : Content} {cs : List Char} : textOf c = .ok cs ↔ ∃ t, Spells c t ∧ cs = Text.foldNewlines t := by
  cases c with
  | text t =>
    constructor
    · rintro ⟨⟩
      exact ⟨t, rfl, rfl⟩
    · rintro ⟨_, rfl, rfl⟩
      rfl
  | bytes bs =>
    change ((Text.decode bs).mapError Fault.badUtf8).map Text.foldNewlines = .ok cs ↔ ∃ t, Text.decode bs = .ok t ∧ _
    cases Text.decode bs with
    | error e => simp [Except.map, Except.mapError]
    | ok t => simp [Except.map, Except.mapError, eq_comm]

section WithFile

variable {d : Disk} {names : List String} {c : Content} (hc : d.root.at? names = some (.file c)) (x : Content)

include hc

theorem find_withFile_self {path : String} (hl : d.locate path = .ok names) :
    (d.withFile names x).find path = .ok (.file x) :=
  find_eq_ok_iff.2 ⟨names, (Scan.locate_set hc path).trans hl, Entry.at?_set_self hc⟩

theorem find_withFile_of_ne {path : String} (hne : d.locate path ≠ .ok names) (y : Content) :
    (d.withFile names x).find path = .ok (.file y) ↔ d.find path = .ok (.file y) := by
  have hlocate : (d.withFile names x).locate path = d.locate path := Scan.locate_set hc path
  rw [find_eq_ok_iff, find_eq_ok_iff, hlocate]
  refine exists_congr fun ns => and_congr_right fun hns => ?_
  have hplace : ns ≠ names := fun h => hne (h ▸ hns)
  exact Entry.at?_set_iff_of_ne hplace hc

theorem withFile_withFile (y : Content) : (d.withFile names x).withFile names y = d.withFile names y :=
  congrArg Disk.mk (Entry.set_set hc)

end WithFile

end Disk

namespace Suggestion

open Text (splitLines splitOn joinWith foldNewlines isLineEnd separators reread deleteLines)

/-! ## The lines on both sides of a position -/

/-- The elements before a position; a negative one counts from the end. -/
def sliceTo {α : Type} : Int → List α → List α
  | .ofNat n, l => l.take n
  | .negSucc n, l => l.rdrop (n + 1)

/-- The elements behind a position; a negative one counts from the end. -/
def sliceFrom {α : Type} : Int → List α → List α
  | .ofNat n, l => l.drop n
  | .negSucc n, l => l.rtake (n + 1)

theorem slices_eq_cut {α : Type} (position : Int) (l : List α) :
    sliceTo position l = l.take (cutAt position l.length) ∧ sliceFrom position l = l.drop (cutAt position l.length) := by
  cases position with
  | ofNat n =>
    have hcut : cutAt (.ofNat n) l.length = min n l.length := if_neg (Int.not_lt.2 (Int.natCast_nonneg n))
    rw [hcut]
    rcases Nat.le_total n l.length with hn | hn
    · rw [Nat.min_eq_left hn]
      exact ⟨rfl, rfl⟩
    · rw [Nat.min_eq_right hn, List.take_length, List.drop_length]
      exact ⟨List.take_of_length_le hn, List.drop_of_length_le hn⟩
  | negSucc n =>
    have hcut : cutAt (.negSucc n) l.length = l.length - (n + 1) := by
      unfold cutAt
      rw [if_pos (Int.negSucc_lt_zero n)]
      omega
    rw [hcut]
    exact ⟨rfl, rfl⟩

theorem sliceTo_append_sliceFrom {α : Type} (position : Int) (l : List α) :
    sliceTo position l ++ sliceFrom position l = l := by
  rw [(slices_eq_cut position l).1, (slices_eq_cut position l).2, List.take_append_drop]

theorem insertLines_slices (block : List (List Char)) (position : Int) (text : List Char) : insertLines block position text =
    joinWith ['\n'] (sliceTo position (splitLines text) ++ block ++ sliceFrom position (splitLines text)) := by
  rw [(slices_eq_cut position _).1, (slices_eq_cut position _).2]
  rfl

theorem indentedLines_max (indent : Int) (docstring : List Char) :
    indentedLines indent docstring = (splitLines docstring).map (setIn (max indent 0).toNat) := by
  have hcount : (max indent 0).toNat = indent.toNat := by omega
  rw [hcount]
  rfl

/-! ## The new text -/

section Cut

variable {text : List Char} {ls ms : List (List Char)} (hcut : splitLines text = ls ++ ms) (indent : Int) (docstring : List Char)

include hcut

theorem plain_cut : ∀ l ∈ ls ++ indentedLines indent docstring ++ ms, ∀ c ∈ l, isLineEnd c = false := by
  have hline : ∀ l ∈ ls ++ ms, ∀ c ∈ l, isLineEnd c = false := fun l hl c hc => (Text.mem_splitLines (hcut ▸ hl) hc).2
  intro l hl c hc
  rcases List.mem_append.1 hl with hl | hl
  · rcases List.mem_append.1 hl with hl | hl
    · exact hline l (List.mem_append_left _ hl) c hc
    · exact isLineEnd_of_mem_indentedLines hl hc
  · exact hline l (List.mem_append_right _ hl) c hc

theorem insertLines_cut (block : List (List Char)) :
    insertLines block ls.length text = joinWith ['\n'] (ls ++ block ++ ms) := by
  have hlen : ls.length ≤ (splitLines text).length := by
    rw [hcut, List.length_append]
    omega
  rw [insertLines_eq block hlen, hcut, List.take_left, List.drop_left]

/-- **The lines of the new text**, as they are read the next time. -/
theorem splitLines_insertLines (hms : ms ≠ []) : splitLines (insertLines (indentedLines indent docstring) ls.length text) =
    ls ++ indentedLines indent docstring ++ reread ms := by
  rw [insertLines_cut hcut, Text.splitLines_joinWith (plain_cut hcut indent docstring), Text.reread_append _ hms]

end Cut

/-- Lines are put into a text in either order: what the second insertion reads has lost an empty last line, and nothing that
stands before the positions. -/
theorem insertLines_comm_cut {text : List Char} {ls mid ms : List (List Char)} (hcut : splitLines text = ls ++ (mid ++ ms))
    (hms : ms ≠ []) (i j : Int) (a b : List Char) :
    insertLines (indentedLines j b) (ls ++ indentedLines i a ++ mid).length (insertLines (indentedLines i a) ls.length text) =
      joinWith ['\n'] (ls ++ indentedLines i a ++ mid ++ indentedLines j b ++ reread ms) ∧
    insertLines (indentedLines i a) ls.length (insertLines (indentedLines j b) (ls ++ mid).length text) =
      joinWith ['\n'] (ls ++ indentedLines i a ++ mid ++ indentedLines j b ++ reread ms) := by
  have hcut' : splitLines text = (ls ++ mid) ++ ms := by rw [hcut, List.append_assoc]
  have hfirst := splitLines_insertLines hcut i a (List.append_ne_nil_of_right_ne_nil mid hms)
  have hsecond := splitLines_insertLines hcut' j b hms
  rw [Text.reread_append mid hms, ← List.append_assoc] at hfirst
  rw [List.append_assoc ls, List.append_assoc ls] at hsecond
  constructor
  · exact insertLines_cut hfirst _
  · rw [insertLines_cut hsecond]
    simp only [List.append_assoc]

/-- **Lines are put into a text in either order**, if the later position is moved by the lines that were put in before it. -/
theorem insertLines_comm {text : List Char} {n m : Nat} (hle : n ≤ m) (hlt : m < (splitLines text).length) (i j : Int)
    (a b : List Char) :
    let lines := splitLines text
    let both := joinWith ['\n'] (lines.take n ++ indentedLines i a ++ (lines.take m).drop n ++ indentedLines j b ++
      reread (lines.drop m))
    insertLines (indentedLines j b) (m + (splitLines a).length : Nat) (insertLines (indentedLines i a) n text) = both ∧
      insertLines (indentedLines i a) n (insertLines (indentedLines j b) m text) = both := by
  intro lines both
  have hlt : m < lines.length := hlt
  -- the lines before both positions, between them and behind both
  have hcut : lines = lines.take n ++ ((lines.take m).drop n ++ lines.drop m) := by
    have htake : lines.take n = (lines.take m).take n := by rw [List.take_take, Nat.min_eq_left hle]
    rw [htake, ← List.append_assoc, List.take_append_drop, List.take_append_drop]
  have hbehind : lines.drop m ≠ [] := by
    intro hnil
    have := List.drop_eq_nil_iff.1 hnil
    omega
  have hn : (lines.take n).length = n := by
    rw [List.length_take]
    omega
  have hm : (lines.take n ++ (lines.take m).drop n).length = m := by
    rw [List.length_append, hn, List.length_drop, List.length_take]
    omega
  have hmoved : (lines.take n ++ indentedLines i a ++ (lines.take m).drop n).length = m + (splitLines a).length := by
    have hblock : (indentedLines i a).length = (splitLines a).length := List.length_map _
    rw [List.length_append] at hm
    rw [List.length_append, List.length_append, hblock]
    omega
  have hcomm := insertLines_comm_cut hcut hbehind i j a b
  rwa [hmoved, hm, hn] at hcomm

theorem return_not_mem_insertLines {indent position : Int} {docstring text : List Char} :
    '\r' ∉ insertLines (indentedLines indent docstring) position text := by
  rw [insertLines_slices]
  exact Text.return_not_mem_joinWith (plain_cut (sliceTo_append_sliceFrom position _).symm indent docstring)

/-! ## The disk -/

theorem textOf_insertLines (indent position : Int) (docstring text : List Char) :
    Disk.textOf (.text (insertLines (indentedLines indent docstring) position text)) =
      .ok (insertLines (indentedLines indent docstring) position text) :=
  congrArg Except.ok (Text.foldNewlines_of_not_mem return_not_mem_insertLines)

theorem insertInFile_bind_insertInFile {d : Disk} {path : String} {names : List String} {c : Content} {cs : List Char}
    (hl : d.locate path = .ok names) (hc : d.root.at? names = some (.file c)) (hcs : Disk.textOf c = .ok cs) {i j : Int}
    (hi : IsCount i) (hj : IsCount j) (n m : Int) (a b : String) :
    (do
      let d' ← insertInFile d path (.int n) (.int i) (.str a)
      insertInFile d' path (.int m) (.int j) (.str b)) =
    .ok (d.withFile names
      (.text (insertLines (indentedLines j b.toList) m (insertLines (indentedLines i a.toList) n cs)))) := by
  have hfirst := insertInFile_eq_ok hl hc hcs hi n a
  have hl' := (Scan.locate_set (x := .text (insertLines (indentedLines i a.toList) n cs)) hc path).trans hl
  have hsecond := insertInFile_eq_ok hl' (Entry.at?_set_self hc) (textOf_insertLines i n a.toList cs) hj m b
  rw [hfirst]
  exact hsecond.trans (congrArg Except.ok (Disk.withFile_withFile hc _ _))

/-- **What putting a docstring into a file does**, if the docstring is a text of characters, which can be written.  The file
then holds its lines before the position, the lines of the docstring and its lines behind the position, joined by line feeds,
and no other file differs; only a number of blanks beyond all counts fails.  Without the docstring's lines the new text is
the joined lines of the old one, and this is the old text exactly if line feeds alone end its lines and none ends the last. -/
theorem insertInFile_effect {d : Disk} {path : String} {c : Content} {t : List Char} (hfind : d.find path = .ok (.file c))
    (ht : Disk.Spells c t) (position indent : Int) (docstring : String) :
    let lines := splitLines (foldNewlines t)
    let block := (splitLines docstring.toList).map (setIn (max indent 0).toNat)
    let text := joinWith ['\n'] (sliceTo position lines ++ block ++ sliceFrom position lines)
    (IsCount indent → ∃ d', insertInFile d path (.int position) (.int indent) (.str docstring) = .ok d' ∧
      d'.find path = .ok (.file (.text text)) ∧
      ∀ other x, d.locate other ≠ d.locate path → (d'.find other = .ok (.file x) ↔ d.find other = .ok (.file x))) ∧
    (¬ IsCount indent → insertInFile d path (.int position) (.int indent) (.str docstring) = .error .countTooLarge) ∧
    deleteLines (sliceTo position lines).length block.length text = joinWith ['\n'] lines ∧
    (joinWith ['\n'] lines = t ↔ (∀ c ∈ separators, c ∉ t) ∧ t.getLast? ≠ some '\n') := by
  intro lines block text
  obtain ⟨names, hl, hc⟩ := Disk.find_eq_ok_iff.1 hfind
  have hcs := Disk.textOf_eq_ok_iff.2 ⟨t, ht, rfl⟩
  have hinsert := insertInFile_eq hl hc hcs position indent docstring
  have hblock : indentedLines indent docstring.toList = block := indentedLines_max indent _
  have hslices := sliceTo_append_sliceFrom position lines
  refine ⟨fun hindent => ?_, fun hindent => hinsert.trans (if_neg hindent), ?_, ?_⟩
  · rw [if_pos hindent, insertLines_slices, hblock] at hinsert
    refine ⟨_, hinsert, Disk.find_withFile_self hc _ hl, fun other x hne => ?_⟩
    exact Disk.find_withFile_of_ne hc _ (fun h => hne (h.trans hl.symm)) x
  · have hplain := plain_cut hslices.symm indent docstring.toList
    rw [hblock] at hplain
    have hfeed : ∀ l ∈ sliceTo position lines ++ block ++ sliceFrom position lines, '\n' ∉ l := by
      intro l hl hmem
      cases hplain l hl _ hmem
    rw [Text.deleteLines_joinWith hfeed, hslices]
  · exact Text.joinWith_splitLines_foldNewlines_iff

/-! ### A disk with one file -/

def oneFile (cs : List Char) : Disk := ⟨.dir [("m.py", .file (.text cs))]⟩

theorem locate_oneFile (cs : List Char) : (oneFile cs).locate "m.py" = .ok ["m.py"] := rfl

theorem find_oneFile (cs : List Char) : (oneFile cs).find "m.py" = .ok (.file (.text cs)) :=
  Disk.find_eq_ok_iff.2 ⟨["m.py"], locate_oneFile cs, rfl⟩

theorem readText_oneFile {cs : List Char} (h : '\r' ∉ cs) : (oneFile cs).readText "m.py" = .ok cs := by
  have htext : Disk.textOf (.text cs) = .ok cs := congrArg Except.ok (Text.foldNewlines_of_not_mem h)
  exact Disk.readText_eq_ok_iff.2 ⟨["m.py"], .text cs, locate_oneFile cs, rfl, htext⟩

/-- Before the last line of a file with line ends of three kinds, and an empty line at its end. -/
theorem insertInFile_effect_sample :
    ∃ d', insertInFile (oneFile "a\r\nb\x0cc\n\n".toList) "m.py" (.int (-1)) (.int 2) (.str "x\n\ny") = .ok d' ∧
      d'.find "m.py" = .ok (.file (.text "a\nb\nc\n  x\n\n  y\n".toList)) := by
  have heffect := insertInFile_effect (find_oneFile "a\r\nb\x0cc\n\n".toList) rfl (-1) 2 "x\n\ny"
  obtain ⟨d', hinsert, hfile, -⟩ := heffect.1 (by decide)
  exact ⟨d', hinsert, hfile⟩

/-- A number of blanks can be too small to be a count: then nothing is put in, not even a docstring that is not set in. -/
theorem insertInFile_beyond_counts :
    insertInFile (oneFile "a".toList) "m.py" (.int 0) (.int (-9223372036854775809)) (.str "x") = .error .countTooLarge :=
  (insertInFile_eq (locate_oneFile "a".toList) rfl rfl 0 (-9223372036854775809) "x").trans (if_neg (by decide))

/-- **Two docstrings are put into a file in either order**, if they are texts of characters and the position of the second is
moved by the lines of the first: the disk is then the same, and the file holds both between its lines, of which an empty last
one is lost. -/
theorem insertInFile_comm {d : Disk} {path : String} {t : List Char} (hread : d.readText path = .ok t) {n₁ n₂ : Nat}
    (hle : n₁ ≤ n₂) (hlt : n₂ < (splitLines t).length) {i₁ i₂ : Int} (h₁ : IsCount i₁) (h₂ : IsCount i₂) (doc₁ doc₂ : String) :
    ∃ e, (do
        let d' ← insertInFile d path (.int n₁) (.int i₁) (.str doc₁)
        insertInFile d' path (.int (n₂ + (splitLines doc₁.toList).length)) (.int i₂) (.str doc₂)) = .ok e ∧
      (do
        let d' ← insertInFile d path (.int n₂) (.int i₂) (.str doc₂)
        insertInFile d' path (.int n₁) (.int i₁) (.str doc₁)) = .ok e ∧
      e.find path = .ok (.file (.text (joinWith ['\n'] ((splitLines t).take n₁ ++ indentedLines i₁ doc₁.toList ++
        ((splitLines t).take n₂).drop n₁ ++ indentedLines i₂ doc₂.toList ++ reread ((splitLines t).drop n₂))))) := by
  obtain ⟨names, c, hl, hc, hcs⟩ := Disk.readText_eq_ok_iff.1 hread
  obtain ⟨hone, htwo⟩ := insertLines_comm hle hlt i₁ i₂ doc₁.toList doc₂.toList
  refine ⟨_, ?_, ?_, Disk.find_withFile_self hc _ hl⟩
  · exact (insertInFile_bind_insertInFile hl hc hcs h₁ h₂ _ _ _ _).trans (by rw [← hone]; rfl)
  · rw [insertInFile_bind_insertInFile hl hc hcs h₂ h₁, htwo]

/-- Into a file that ends with an empty line, one docstring with an empty line in it and one that is not set in. -/
theorem insertInFile_comm_sample :
    ∃ e, (do
        let d' ← insertInFile (oneFile "a\n\nb\n\n".toList) "m.py" (.int 1) (.int 2) (.str "x\n\ny")
        insertInFile d' "m.py" (.int 5) (.int (-1)) (.str "z")) = .ok e ∧
      (do
        let d' ← insertInFile (oneFile "a\n\nb\n\n".toList) "m.py" (.int 2) (.int (-1)) (.str "z")
        insertInFile d' "m.py" (.int 1) (.int 2) (.str "x\n\ny")) = .ok e ∧
      e.find "m.py" = .ok (.file (.text "a\n  x\n\n  y\n\nz\nb".toList)) := by
  have hread : (oneFile "a\n\nb\n\n".toList).readText "m.py" = .ok "a\n\nb\n\n".toList :=
    readText_oneFile (by decide)
  have hle : 1 ≤ 2 := by decide
  have hi₁ : IsCount 2 := by decide
  have hi₂ : IsCount (-1) := by decide
  obtain ⟨e, hone, htwo, hfile⟩ := insertInFile_comm hread hle (by decide) hi₁ hi₂ "x\n\ny" "z"
  exact ⟨e, hone, htwo, hfile⟩

/-- An insertion that fails moves no lines, so the other one ends up in another place. -/
theorem insertions_beyond_counts_differ :
    Session.run ⟨oneFile "a\nb".toList, [], none⟩
      [.insert "m.py" (.int 0) (.int (-9223372036854775809)) (.str "x"), .insert "m.py" (.int 1) (.int 0) (.str "y"),
        .read "m.py"] =
      [.error .countTooLarge, .ok (.content (.text "a\ny\nb".toList)), .ok (.content (.text "a\ny\nb".toList))] ∧
    Session.run ⟨oneFile "a\nb".toList, [], none⟩
      [.insert "m.py" (.int 0) (.int 0) (.str "y"), .insert "m.py" (.int 0) (.int (-9223372036854775809)) (.str "x"),
        .read "m.py"] =
      [.ok (.content (.text "y\na\nb".toList)), .error .countTooLarge, .ok (.content (.text "y\na\nb".toList))] ∧
    "a\ny\nb".toList ≠ "y\na\nb".toList :=
  ⟨rfl, rfl, by decide⟩

end Suggestion
end DocReview
