import DocReview.Proofs.Report.Stored
import DocReview.Suggestion.Insertion
/-!
# Held — the files behind the records of a scan

On a disk whose source files can all be reviewed (`Sources`), a scan of any path succeeds, and each of its records is that
of a file which its path leads to (`records_held`).  Storing a report changes nothing of this (`Held.store`,
`Sources.store`), and a docstring can be put into such a file (`Held.insertInFile`).
-/
namespace DocReview

namespace Text

theorem suffix_getLast_splitOn {s : Char} {t : List Char} (ht : s ∉ t) : ∀ {cs : List Char}, t <:+ cs →
    t <:+ (splitOn s cs).getLastD []
  | [], h => h
  | c :: cs, h => by
    rcases List.suffix_cons_iff.1 h with rfl | h
    · rw [splitOn_of_not_mem s _ ht]
      exact List.suffix_refl _
    · have hrest := suffix_getLast_splitOn ht h
      rw [splitOn]
      cases hl : splitOn s cs with
      | nil => exact absurd hl (splitOn_ne_nil s cs)
      | cons l ls =>
        rw [hl] at hrest
        split
        · exact hrest
        · cases ls with
          | nil => exact hrest.trans (List.suffix_cons c l)
          | cons m ms => exact hrest

end Text

namespace Disk

open Entry (at? lookup? IsName)

/-! ## Paths to files -/

theorem isFile_iff {d : Disk} {path : String} : d.isFile path = true ↔ ∃ c, d.find path = .ok (.file c) := by
  unfold isFile
  split
  · next h => exact ⟨fun _ => ⟨_, h⟩, fun _ => rfl⟩
  · next h =>
    refine ⟨fun hfalse => (by cases hfalse), ?_⟩
    rintro ⟨c, hc⟩
    exact absurd hc (h c)

theorem at?_parent {e f : Entry} {ns : List String} {n : String} (h : e.at? (ns ++ [n]) = some f) :
    ∃ es, e.at? ns = some (.dir es) := by
  rw [Entry.at?_append] at h
  obtain ⟨g, hg, hf⟩ := Option.bind_eq_some_iff.1 h
  cases g with
  | file c => cases hf
  | dir es => exact ⟨es, hg⟩

theorem exists_parts (path : String) : ∃ ps p, parts path = ps ++ [p] := by
  have hne : parts path ≠ [] := by
    unfold parts
    simpa using Text.splitOn_ne_nil '/' path.toList
  exact ⟨_, _, (List.dropLast_concat_getLast hne).symm⟩

theorem locate_file {d : Disk} {path : String} {names : List String} {c : Content} (hl : d.locate path = .ok names)
    (hc : d.root.at? names = some (.file c)) : ∃ ps p ns es, parts path = ps ++ [p] ∧
      follow d.root [] ps = .ok ns.reverse ∧ d.root.at? ns = some (.dir es) ∧ isBare p = false ∧ names = ns ++ [p] := by
  obtain ⟨-, -, hf⟩ := locate_eq_ok_iff.1 hl
  obtain ⟨ps, p, hps⟩ := exists_parts path
  rw [hps, follow_append] at hf
  cases hhere : follow d.root [] ps with
  | error f => rw [hhere] at hf; cases hf
  | ok here =>
    rw [hhere] at hf
    simp only [Except.bind, follow] at hf
    split at hf
    · rename_i es hes
      -- a last part that names nothing, or goes up, would lead to a directory
      have hdir : ∀ {ns : List String} {es : List (String × Entry)}, d.root.at? ns = some (.dir es) → names ≠ ns := by
        rintro ns es h rfl
        rw [h] at hc
        cases hc
      split at hf
      · cases hf
        exact absurd (List.reverse_reverse names).symm (hdir hes)
      · rename_i hstay
        split at hf
        · cases here with
          | nil => exact absurd (List.reverse_eq_nil_iff.1 (Except.ok.inj hf).symm) (hdir hes)
          | cons n here =>
            rw [List.reverse_cons] at hes
            obtain ⟨es', hes'⟩ := at?_parent hes
            exact absurd (List.reverse_eq_iff.1 (Except.ok.inj hf).symm) (hdir hes')
        · rename_i hup
          split at hf
          · have hnames : names = here.reverse ++ [p] := by
              have := congrArg List.reverse (Except.ok.inj hf)
              rw [List.reverse_reverse, List.reverse_cons] at this
              exact this.symm
            rw [not_or] at hstay
            refine ⟨ps, p, here.reverse, es, hps, ?_, hes, ?_, hnames⟩
            · rw [List.reverse_reverse, hhere]
            · simp [isBare, hstay.1, hstay.2, hup]
          · cases hf
    · cases hf
    · cases hf

theorem write_file {d : Disk} {path : String} {names : List String} {c : Content} (hl : d.locate path = .ok names)
    (hc : d.root.at? names = some (.file c)) (x : Content) : d.write path x = .ok (d.withFile names x) := by
  obtain ⟨hne, hhead, -⟩ := locate_eq_ok_iff.1 hl
  obtain ⟨ps, p, ns, es, hps, hf, hes, hbare, rfl⟩ := locate_file hl hc
  have hparent : d.locateParent path = .ok (ns, p) := by
    unfold locateParent
    simp [hne, hhead, hps, hf, hes, bind, Except.bind, pure, Except.pure]
  unfold write
  rw [hparent]
  simp only [bind, Except.bind, pure, Except.pure, hbare, Bool.false_eq_true, if_false, hc]
  rfl

theorem follow_steps {root : Entry} : ∀ {ps here names : List String}, follow root here ps = .ok names →
    follow root here (ps.filter fun s => s ≠ "" ∧ s ≠ ".") = .ok names
  | [], _, _, h => h
  | p :: ps, here, names, h => by
    rw [follow] at h
    split at h
    · rename_i es hes
      by_cases hp : p = "" ∨ p = "."
      · rw [if_pos hp] at h
        have hdrop : (p :: ps).filter (fun s => s ≠ "" ∧ s ≠ ".") = ps.filter fun s => s ≠ "" ∧ s ≠ "." := by
          rcases hp with hp | hp <;> simp [hp]
        rw [hdrop]
        exact follow_steps h
      · rw [if_neg hp] at h
        rw [List.filter_cons_of_pos (by simpa [not_or] using hp), follow, hes]
        dsimp only
        rw [if_neg hp]
        split at h
        · rename_i hup
          rw [if_pos hup]
          exact follow_steps h
        · rename_i hup
          rw [if_neg hup]
          split at h
          · rename_i hsome
            rw [if_pos hsome]
            exact follow_steps h
          · cases h
    · cases h
    · cases h

theorem parts_normal {path : String} (hhead : path.toList.head? ≠ some '/') (hne : Path.steps path ≠ []) :
    parts (Path.normal path) = Path.steps path := by
  have hroot : Path.rootOf path = "" := by
    unfold Path.rootOf
    split <;> simp_all
  have hslash : ∀ l ∈ (Path.steps path).map String.toList, '/' ∉ l := by
    intro l hl
    obtain ⟨s, hs, rfl⟩ := List.mem_map.1 hl
    obtain ⟨t, ht, rfl⟩ := List.mem_map.1 (List.mem_filter.1 hs).1
    rw [String.toList_ofList]
    exact Text.not_mem_of_splitOn ht
  have hempty : (Path.steps path).isEmpty = false := by simpa using hne
  unfold parts Path.normal Path.ofSteps
  rw [hroot, hempty, if_neg (by simp), String.empty_append, String.toList_ofList,
    Text.splitOn_joinWith '/' _ (by simpa using hne) hslash, List.map_map]
  simp

theorem empty_mem_parts {path : String} (h : path = "" ∨ path.toList.head? = some '/') : "" ∈ parts path := by
  rcases h with rfl | h
  · decide
  · unfold parts
    cases hcs : path.toList with
    | nil => rw [hcs] at h; cases h
    | cons c cs =>
      rw [hcs] at h
      cases h
      simp [Text.splitOn]

theorem locate_normal {d : Disk} {path : String} {names : List String} {c : Content} (hl : d.locate path = .ok names)
    (hc : d.root.at? names = some (.file c)) : d.locate (Path.normal path) = .ok names := by
  obtain ⟨-, hhead, hf⟩ := locate_eq_ok_iff.1 hl
  obtain ⟨ps, p, -, -, hps, -, -, hbare, -⟩ := locate_file hl hc
  have hp : p ≠ "" ∧ p ≠ "." := by
    constructor
    · rintro rfl
      cases hbare
    · rintro rfl
      cases hbare
  have hmem : p ∈ Path.steps path :=
    List.mem_filter.2 ⟨show p ∈ parts path by rw [hps]; simp, decide_eq_true hp⟩
  have hparts := parts_normal hhead (List.ne_nil_of_mem hmem)
  have hsteps : "" ∉ parts (Path.normal path) := by
    rw [hparts]
    exact fun h => (of_decide_eq_true (List.mem_filter.1 h).2).1 rfl
  refine locate_eq_ok_iff.2 ⟨fun h => hsteps (empty_mem_parts (Or.inl h)),
    fun h => hsteps (empty_mem_parts (Or.inr h)), ?_⟩
  rw [hparts]
  exact follow_steps hf

theorem readText_eq_ok_iff {d : Disk} {path : String} {cs : List Char} : d.readText path = .ok cs ↔
    ∃ names c, d.locate path = .ok names ∧ d.root.at? names = some (.file c) ∧ textOf c = .ok cs := by
  have hread : d.readText path = .ok cs ↔ ∃ c, d.find path = .ok (.file c) ∧ textOf c = .ok cs := by
    unfold readText read
    cases d.find path with
    | error f => simp [named, Except.mapError, bind, Except.bind]
    | ok e => cases e <;> simp [named, Except.mapError, bind, Except.bind, pure, Except.pure, throw, throwThe,
        MonadExceptOf.throw]
  rw [hread]
  constructor
  · rintro ⟨c, hfind, hcs⟩
    obtain ⟨names, hl, hc⟩ := find_eq_ok_iff.1 hfind
    exact ⟨names, c, hl, hc, hcs⟩
  · rintro ⟨names, c, hl, hc, hcs⟩
    exact ⟨c, find_eq_ok_iff.2 ⟨names, hl, hc⟩, hcs⟩

end Disk

namespace Suggestion

/-! ## A docstring put into a file -/

/-- A number of times that a text can be repeated; a negative one is none. -/
def IsCount (i : Int) : Prop := -maxCount - 1 ≤ i ∧ i ≤ maxCount

instance (i : Int) : Decidable (IsCount i) := inferInstanceAs (Decidable (_ ∧ _))

theorem IsCount.of_natCast {n : Nat} (h : (n : Int) ≤ maxCount) : IsCount n := by
  have hnonneg : -maxCount - 1 ≤ (n : Int) := by
    unfold maxCount
    omega
  exact ⟨hnonneg, h⟩

section File

variable {d : Disk} {path : String} {names : List String} {c : Content} {cs : List Char}
  (hl : d.locate path = .ok names) (hc : d.root.at? names = some (.file c)) (hcs : Disk.textOf c = .ok cs)

include hl hc hcs

/-- **What putting a docstring into a file does to the disk**, at any position and set in by any number of blanks. -/
theorem insertInFile_eq (position indent : Int) (docstring : String) :
    insertInFile d path (.int position) (.int indent) (.str docstring) =
      if IsCount indent then .ok (d.withFile names (.text (insertLines (indentedLines indent docstring.toList) position cs)))
      else .error .countTooLarge := by
  have hnormal := Disk.locate_normal hl hc
  have hread : d.readText (Path.normal path) = .ok cs := Disk.readText_eq_ok_iff.2 ⟨names, c, hnormal, hc, hcs⟩
  have hwrite : ∀ text, d.writeText (Path.normal path) text = .ok (d.withFile names (.text text)) := by
    intro text
    unfold Disk.writeText
    rw [Disk.write_file hnormal hc]
    rfl
  have hcount : countOf (.int indent) = if IsCount indent then .ok indent else .error .countTooLarge := rfl
  unfold insertInFile insertInto
  dsimp only
  rw [hread, hcount]
  split
  · exact hwrite _
  · rfl

theorem insertInFile_eq_ok {indent : Int} (hindent : IsCount indent) (position : Int) (docstring : String) :
    insertInFile d path (.int position) (.int indent) (.str docstring) =
      .ok (d.withFile names (.text (insertLines (indentedLines indent docstring.toList) position cs))) :=
  (insertInFile_eq hl hc hcs position indent docstring).trans (if_pos hindent)

end File

end Suggestion

namespace Scan

open Definition (FileRecord)
open Entry (at?)

/-! ## Records and their files -/

/-- Content of a source file that can be reviewed: its text is accepted, and no function is set in further than a blank can
be repeated. -/
def Reviewable (c : Content) : Prop :=
  ∃ cs body, Disk.textOf c = .ok cs ∧ Source.parse cs = .ok body ∧
    ∀ f ∈ Definition.functionRecords body, (f.indent : Int) ≤ Suggestion.maxCount

/-- A directory tree whose source files can all be reviewed, with room for the report. -/
structure Sources (d : Disk) : Prop where
  tree : d.root.IsTree
  free : Entry.Free Report.coveragePlace d.root
  reviewable : ∀ names c, d.root.at? names = some (.file c) → isSourceName (names.getLastD "") = true → Reviewable c

/-- A record of the source file that its path leads to. -/
def Held (d : Disk) (r : FileRecord) : Prop :=
  ∃ names c, d.locate r.path = .ok names ∧ d.root.at? names = some (.file c) ∧
    isSourceName (names.getLastD "") = true ∧ recordOf? r.path c = some r

theorem recordOf?_reviewable {c : Content} (h : Reviewable c) (path : String) : ∃ r, recordOf? path c = some r := by
  obtain ⟨cs, body, hcs, hbody, -⟩ := h
  exact ⟨Definition.fileRecord path body, by simp [recordOf?, hcs, hbody]⟩

theorem file_of_recordOf? {d : Disk} {path : String} {c : Content} {r : FileRecord} (hfind : d.find path = .ok (.file c))
    (h : recordOf? path c = some r) : file d path = .ok r := by
  rw [← Result.toOption_eq_some_iff, file_toOption hfind, h]

theorem isSourceName_of_path {d : Disk} {path : String} {names : List String} {c : Content}
    (hl : d.locate path = .ok names) (hc : d.root.at? names = some (.file c)) (h : isSourceName path = true) :
    isSourceName (names.getLastD "") = true := by
  obtain ⟨ps, p, ns, es, hps, -, -, -, rfl⟩ := Disk.locate_file hl hc
  have hsuffix : ".py".toList <:+ path.toList := List.isSuffixOf_iff_suffix.1 h
  have hlast := Text.suffix_getLast_splitOn (s := '/') (by decide) hsuffix
  have hp : (Text.splitOn '/' path.toList).getLastD [] = p.toList := by
    have := congrArg (fun l => (l.map String.toList).getLastD []) hps
    simpa [Disk.parts, List.map_map, Function.comp_def] using this
  rw [List.getLastD_concat]
  exact List.isSuffixOf_iff_suffix.2 (hp ▸ hlast)

theorem records_source {d : Disk} (h : Sources d) {path : String} {c : Content} (hfind : d.find path = .ok (.file c))
    (hsource : isSourceName path = true) : ∃ r, records d path = .ok [r] ∧ Held d r := by
  obtain ⟨names, hl, hc⟩ := Disk.find_eq_ok_iff.1 hfind
  have hname := isSourceName_of_path hl hc hsource
  obtain ⟨r, hr⟩ := recordOf?_reviewable (h.reviewable names c hc hname) path
  have hpath := path_of_recordOf? hr
  refine ⟨r, ?_, names, c, hpath ▸ hl, hc, hname, hpath ▸ hr⟩
  unfold records
  rw [if_pos (Bool.and_eq_true_iff.2 ⟨Disk.isFile_iff.2 ⟨c, hfind⟩, hsource⟩), file_of_recordOf? hfind hr]
  rfl

theorem held_of_mem_records {d : Disk} (h : Sources d) {path : String} {es : List (String × Entry)}
    (hfind : d.find path = .ok (.dir es)) {rs : List FileRecord} (hrs : records d path = .ok rs) {r : FileRecord}
    (hr : r ∈ rs) : Held d r := by
  obtain ⟨ns, ⟨⟨c, hc⟩, hname, -⟩, hfile⟩ := (mem_records h.tree hfind hrs r).1 hr
  have htree := isTree_of_find h.tree hfind
  obtain ⟨names, hl, hat⟩ := Disk.find_eq_ok_iff.1 hfind
  have hpath := path_of_file hfile
  refine ⟨names ++ ns, c, ?_, ?_, ?_, ?_⟩
  · rw [hpath]
    exact Disk.locate_below hl hat htree hc
  · rw [Entry.at?_append, hat]
    exact hc
  · have hns : ns ≠ [] := by
      rintro rfl
      cases hc
    obtain ⟨ms, m, rfl⟩ := (List.eq_nil_or_concat' ns).resolve_left hns
    rw [List.getLastD_concat] at hname
    rw [← List.append_assoc, List.getLastD_concat]
    exact (Bool.and_eq_true_iff.1 hname).1
  · rw [hpath, ← file_toOption (Disk.find_below hfind htree hc), hfile]
    rfl

/-- **A scan of any path succeeds, and its records are those of files on the disk.** -/
theorem records_held {d : Disk} (h : Sources d) (path : String) :
    ∃ rs, records d path = .ok rs ∧ ∀ r ∈ rs, Held d r := by
  by_cases hfile : (d.isFile path && isSourceName path) = true
  · obtain ⟨hfile, hsource⟩ := Bool.and_eq_true_iff.1 hfile
    obtain ⟨c, hfind⟩ := Disk.isFile_iff.1 hfile
    obtain ⟨r, hrecords, hheld⟩ := records_source h hfind hsource
    exact ⟨[r], hrecords, List.forall_mem_singleton.2 hheld⟩
  · by_cases hdir : ∃ es, d.find path = .ok (.dir es)
    · obtain ⟨es, hfind⟩ := hdir
      have hrs : records d path = _ := records_eq_locations h.tree hfind
      exact ⟨_, hrs, fun r hr => held_of_mem_records h hfind hrs hr⟩
    · -- nothing is scanned at a path that leads nowhere, or to a file of another kind
      refine ⟨[], ?_, fun r hr => by cases hr⟩
      unfold records
      rw [if_neg hfile]
      cases hfind : d.find path with
      | error f => rfl
      | ok e =>
        cases e with
        | file c => rfl
        | dir es => exact absurd ⟨es, hfind⟩ hdir

/-! ## After a report was stored -/

theorem ne_coveragePlace {names : List String} (h : isSourceName (names.getLastD "") = true) :
    names ≠ Report.coveragePlace := by
  rintro rfl
  exact absurd h (by decide)

theorem Sources.store {d : Disk} (h : Sources d) (x : Content) : Sources (d.withFile Report.coveragePlace x) where
  tree := Entry.isTree_set_free h.free h.tree Report.names_coveragePlace
  free := Entry.free_set h.free
  reviewable names c hc hname :=
    (Disk.file_withFile h.free x hc).elim (fun heq => absurd heq (ne_coveragePlace hname)) fun hold =>
      h.reviewable names c hold hname

theorem Held.store {d : Disk} {r : FileRecord} (h : Sources d) (hr : Held d r) (x : Content) :
    Held (d.withFile Report.coveragePlace x) r := by
  obtain ⟨names, c, hl, hc, hname, hrec⟩ := hr
  exact ⟨names, c, Disk.locate_withFile h.free x hl, Disk.file_stays h.free x (ne_coveragePlace hname) hc, hname, hrec⟩

/-- **A docstring can be put into the file of a record**, after the line of any of its functions. -/
theorem Held.insertInFile {d : Disk} {r : FileRecord} (h : Sources d) (hr : Held d r) {f : Definition.FunctionRecord}
    (hf : f ∈ r.functions) (docstring : String) :
    ∃ d', Suggestion.insertInFile d r.path (.int f.line) (.int f.indent) (.str docstring) = .ok d' := by
  obtain ⟨names, c, hl, hc, hname, hrec⟩ := hr
  obtain ⟨cs, body, hcs, hbody, hindent⟩ := h.reviewable names c hc hname
  have hfunctions : r.functions = Definition.functionRecords body := by
    simp only [recordOf?, hcs, hbody, Option.some.injEq] at hrec
    rw [← hrec]
    rfl
  exact ⟨_, Suggestion.insertInFile_eq_ok hl hc hcs (.of_natCast (hindent f (hfunctions ▸ hf))) _ docstring⟩

end Scan
end DocReview
