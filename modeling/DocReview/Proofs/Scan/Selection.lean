import Mathlib.Data.List.Nodup
import DocReview.Proofs.Result
import DocReview.Proofs.Scan.Places
/-!
# Selection — what a scan gives

A scan of a directory gives the records of the files at the places it reads, of those that can be read
(`records_eq_locations`).  From that list are read off: the order of files and subdirectories, that every eligible file
occurs once and no other does, and that a file that cannot be read takes away its own record only.
-/
namespace DocReview
namespace Scan

open Definition (FileRecord)
open Entry (IsTree IsName at? lookup?)

theorem file_toOption {d : Disk} {path : String} {c : Content} (h : d.find path = .ok (.file c)) :
    (file d path).toOption = recordOf? path c := by
  unfold file program Disk.readText Disk.read Disk.named recordOf?
  rw [h]
  cases ht : Disk.textOf c with
  | error f => simp [bind, Except.bind, pure, Except.pure, Except.mapError, ht, Except.toOption]
  | ok cs =>
    cases hp : Source.parse cs with
    | error f => simp [bind, Except.bind, pure, Except.pure, Except.mapError, ht, hp, Except.toOption]
    | ok body => simp [bind, Except.bind, pure, Except.pure, Except.mapError, ht, hp, Except.toOption]

section Directory

variable {d : Disk} {root : String} {es : List (String × Entry)} {skip : List String}

theorem isTree_of_find {e : Entry} (tree : d.root.IsTree) (h : d.find root = .ok e) : e.IsTree := by
  obtain ⟨names, -, ha⟩ := Disk.find_eq_ok_iff.1 h
  exact (tree.of_at? ha).1

theorem recordAt?_ordered (tree : d.root.IsTree) (hroot : d.find root = .ok (.dir es)) {ns : List String}
    (hns : ns ∈ locations skip (ordered (.dir es))) :
    recordAt? root (ordered (.dir es)) ns = (file d (Path.below root ns)).toOption := by
  have he := isTree_of_find tree hroot
  obtain ⟨⟨c, hc⟩, -, -⟩ := (eligible_ordered he).1 ((mem_locations (isTree_ordered he)).1 hns)
  rw [file_toOption (Disk.find_below hroot he hc), recordAt?, at?_ordered ns he, hc]
  rfl

/-- **A scan of a directory gives the records at the places it reads, of those that can be read.** -/
theorem records_eq_locations (tree : d.root.IsTree) (hroot : d.find root = .ok (.dir es)) :
    records d root true (.strings skip) =
      .ok ((locations skip (ordered (.dir es))).filterMap fun ns => (file d (Path.below root ns)).toOption) := by
  have hfile : d.isFile root = false := by
    unfold Disk.isFile
    rw [hroot]
  unfold records
  rw [hfile, hroot]
  simp only [Bool.false_and, Bool.false_eq_true, if_false]
  rw [below_eq_locations skip root _ (isTree_ordered (isTree_of_find tree hroot))]
  congr 1
  exact List.filterMap_congr fun ns hns => recordAt?_ordered tree hroot hns

theorem belowAll_shallow (dir : String) (es : List (String × Entry)) :
    belowAll (.strings skip) false dir es = .ok [] := by
  induction es with
  | nil => rfl
  | cons p es ih =>
    obtain ⟨n, e⟩ := p
    cases e with
    | file => exact ih
    | dir sub =>
      rw [belowAll, ih, skips_strings]
      simp [bind, Except.bind, pure, Except.pure]

theorem records_shallow (hroot : d.find root = .ok (.dir es)) :
    records d root false (.strings skip) = .ok ((Entry.sorted es).filterMap (eligible? root)) := by
  have hfile : d.isFile root = false := by
    unfold Disk.isFile
    rw [hroot]
  unfold records
  rw [hfile, hroot]
  simp only [Bool.false_and, Bool.false_eq_true, if_false]
  rw [ordered_dir, below, belowAll_shallow, List.filterMap_map]
  simp only [bind, Except.bind, pure, Except.pure, List.append_nil, Except.ok.injEq]
  refine List.filterMap_congr fun p _ => ?_
  obtain ⟨n, e⟩ := p
  cases e <;> rfl

/-! ## The order of the records -/

/-- A list of the names that satisfy a condition, in their order. -/
structure InOrder (names : List String) (P : String → Prop) : Prop where
  increasing : names.Pairwise (· < ·)
  mem_iff : ∀ n, n ∈ names ↔ P n

theorem sorted_increasing (hd : (es.map Prod.fst).Nodup) : ((Entry.sorted es).map Prod.fst).Pairwise (· < ·) := by
  have hle : (Entry.sorted es).Pairwise fun a b => decide (a.1 ≤ b.1) = true :=
    List.pairwise_mergeSort (fun a b c hab hbc => by
      simp only [decide_eq_true_eq] at hab hbc ⊢
      exact String.le_trans hab hbc) (fun a b => by
      simpa using String.le_total a.1 b.1) es
  have hne : (Entry.sorted es).Pairwise fun a b => a.1 ≠ b.1 :=
    List.pairwise_map.1 (((sorted_perm es).map Prod.fst).nodup_iff.2 hd)
  refine List.pairwise_map.2 ((hle.and hne).imp fun {a b} h => ?_)
  rw [← String.not_le]
  exact fun hba => h.2 (String.le_antisymm (by simpa using h.1) hba)

theorem inOrder_filter (hd : (es.map Prod.fst).Nodup) (q : String × Entry → Bool) :
    InOrder (((Entry.sorted es).filter q).map Prod.fst) fun n => ∃ e, (n, e) ∈ es ∧ q (n, e) = true := by
  refine ⟨(sorted_increasing hd).sublist (List.filter_sublist.map _), fun n => ?_⟩
  simp only [List.mem_map, List.mem_filter, (sorted_perm es).mem_iff]
  constructor
  · rintro ⟨⟨m, e⟩, h, rfl⟩
    exact ⟨e, h⟩
  · rintro ⟨e, h⟩
    exact ⟨(n, e), h, rfl⟩

def isOwn (p : String × Entry) : Bool := !p.2.isDir && isEligible p.1

def isEntered (skip : List String) (p : String × Entry) : Bool := p.2.isDir && decide (p.1 ∉ skip)

theorem flatMap_filter {α β : Type} (q : α → Bool) (f : α → List β) (l : List α) :
    (l.filter q).flatMap f = l.flatMap fun a => if q a then f a else [] := by
  induction l with
  | nil => rfl
  | cons a l ih =>
    rw [List.filter_cons, List.flatMap_cons]
    split
    · rw [List.flatMap_cons, ih]
    · rw [ih, List.nil_append]

theorem locations_ordered (skip : List String) (es : List (String × Entry)) :
    locations skip (ordered (.dir es)) = ((Entry.sorted es).filter isOwn).map (fun p => [p.1]) ++
      ((Entry.sorted es).filter (isEntered skip)).flatMap fun p => (locations skip (ordered p.2)).map (p.1 :: ·) := by
  rw [ordered_dir, locations, locationsAmong_eq_flatMap, List.filter_map, List.map_map, List.flatMap_map, flatMap_filter]
  congr 1
  · congr 1
    refine List.filter_congr fun p _ => ?_
    obtain ⟨n, e⟩ := p
    cases e <;> rfl
  · refine List.flatMap_congr fun p _ => ?_
    obtain ⟨n, e⟩ := p
    cases e with
    | file c => simp [ordered, locations, isEntered, Entry.isDir]
    | dir sub => by_cases hk : n ∈ skip <;> simp [isEntered, Entry.isDir, hk]

/-- **A scan gives the directory's own files and then what scans of its subdirectories give.** -/
theorem records_step (tree : d.root.IsTree) (hroot : d.find root = .ok (.dir es)) {rs : List FileRecord}
    (h : records d root true (.strings skip) = .ok rs) :
    ∃ parts, ((((Entry.sorted es).filter (isEntered skip)).map Prod.fst).mapM fun n =>
        records d (Path.join root n) true (.strings skip)) = .ok parts ∧
      rs = (((Entry.sorted es).filter isOwn).map Prod.fst).filterMap
        (fun n => (file d (Path.join root n)).toOption) ++ parts.flatten := by
  obtain ⟨hd, hn, -⟩ := IsTree.dir_iff.1 (isTree_of_find tree hroot)
  let part (p : String × Entry) : List FileRecord :=
    (locations skip (ordered p.2)).filterMap fun ns => (file d (Path.below root (p.1 :: ns))).toOption
  have hpart : ∀ p ∈ (Entry.sorted es).filter (isEntered skip),
      records d (Path.join root p.1) true (.strings skip) = .ok (part p) := by
    rintro ⟨n, e⟩ hp
    obtain ⟨hmem, hent⟩ := List.mem_filter.1 hp
    have hmem := (sorted_perm es).mem_iff.1 hmem
    cases e with
    | file c => simp [isEntered, Entry.isDir] at hent
    | dir sub =>
      exact records_eq_locations tree (Disk.find_join hroot (hn _ hmem) (Entry.lookup?_of_mem hd hmem))
  refine ⟨((Entry.sorted es).filter (isEntered skip)).map part, ?_, ?_⟩
  · exact Result.mapM_map_eq_ok hpart
  · rw [records_eq_locations tree hroot, locations_ordered] at h
    cases h
    rw [List.filterMap_append, List.filterMap_map, List.filterMap_map, List.filterMap_flatMap, ← List.flatMap_def]
    congr 1
    refine List.flatMap_congr fun p _ => ?_
    rw [List.filterMap_map]
    rfl

theorem prefix_of_shallow (tree : d.root.IsTree) (hroot : d.find root = .ok (.dir es)) {rs : List FileRecord}
    (h : records d root true (.strings skip) = .ok rs) : (Entry.sorted es).filterMap (eligible? root) <+: rs := by
  obtain ⟨hd, hn, -⟩ := IsTree.dir_iff.1 (isTree_of_find tree hroot)
  obtain ⟨parts, -, rfl⟩ := records_step tree hroot h
  refine ⟨parts.flatten, ?_⟩
  congr 1
  rw [List.filterMap_map, List.filterMap_filter]
  refine List.filterMap_congr fun p hp => ?_
  obtain ⟨n, e⟩ := p
  have hmem := (sorted_perm es).mem_iff.1 hp
  cases e with
  | dir sub => rfl
  | file c =>
    rw [Function.comp_apply, file_toOption (Disk.find_join hroot (hn _ hmem) (Entry.lookup?_of_mem hd hmem)),
      eligible?_file]
    simp [isOwn, Entry.isDir]

/-! ## Which records there are -/

theorem path_of_file {path : String} {r : FileRecord} (h : file d path = .ok r) : r.path = path := by
  obtain ⟨body, -, hr⟩ := Result.bind_eq_ok_iff.1 h
  cases hr
  rfl

/-- **The records of a scan are those of the eligible files that can be read.** -/
theorem mem_records (tree : d.root.IsTree) (hroot : d.find root = .ok (.dir es)) {rs : List FileRecord}
    (h : records d root true (.strings skip) = .ok rs) (r : FileRecord) :
    r ∈ rs ↔ ∃ ns, Eligible skip (.dir es) ns ∧ file d (Path.below root ns) = .ok r := by
  have he := isTree_of_find tree hroot
  rw [records_eq_locations tree hroot] at h
  cases h
  simp only [List.mem_filterMap, mem_locations (isTree_ordered he), eligible_ordered he, Result.toOption_eq_some_iff]

theorem names_of_eligible (he : (Entry.dir es).IsTree) {ns : List String} (h : Eligible skip (.dir es) ns) :
    ns ≠ [] ∧ ∀ n ∈ ns, IsName n := by
  obtain ⟨⟨c, hc⟩, -, -⟩ := h
  refine ⟨fun hnil => ?_, (he.of_at? hc).2⟩
  subst hnil
  cases hc

/-- **No two records of a scan have the same path.** -/
theorem nodup_paths (tree : d.root.IsTree) (hroot : d.find root = .ok (.dir es)) {rs : List FileRecord}
    (h : records d root true (.strings skip) = .ok rs) : (rs.map FileRecord.path).Nodup := by
  have he := isTree_of_find tree hroot
  rw [records_eq_locations tree hroot] at h
  cases h
  refine List.pairwise_map.2 (List.pairwise_filterMap.2 ?_)
  refine (nodup_locations (isTree_ordered he)).imp_of_mem fun {ns ms} hns hms hne r hr q hq hpath => hne ?_
  have hns' := names_of_eligible he ((eligible_ordered he).1 ((mem_locations (isTree_ordered he)).1 hns))
  have hms' := names_of_eligible he ((eligible_ordered he).1 ((mem_locations (isTree_ordered he)).1 hms))
  rw [path_of_file (Result.toOption_eq_some_iff.1 hr), path_of_file (Result.toOption_eq_some_iff.1 hq)] at hpath
  exact Path.below_injective hns'.1 hms'.1 hns'.2 hms'.2 hpath

/-- **Nothing below a directory to skip is read.** -/
theorem not_below_skipped (tree : d.root.IsTree) (hroot : d.find root = .ok (.dir es)) {rs : List FileRecord}
    (h : records d root true (.strings skip) = .ok rs) {ks : List String} {k : String} {sub : Entry}
    (hsub : (Entry.dir es).at? (ks ++ [k]) = some sub) (hk : k ∈ skip) {r : FileRecord} (hr : r ∈ rs) :
    ¬ (Path.below root (ks ++ [k]) ++ "/").toList <+: r.path.toList := by
  have he := isTree_of_find tree hroot
  obtain ⟨ns, hel, hfile⟩ := (mem_records tree hroot h r).1 hr
  obtain ⟨hne, hnames⟩ := names_of_eligible he hel
  intro hpre
  rw [path_of_file hfile] at hpre
  obtain ⟨more, hmore, rfl⟩ := Path.names_of_prefix (by simp) hne (he.of_at? hsub).2 hnames hpre
  refine hel.2.2 k ?_ hk
  rw [List.dropLast_append_of_ne_nil hmore]
  simp

/-! ## A file that cannot be read -/

/-- Content of no source file: bytes that are no text, or a text that is refused. -/
def Unreadable (c : Content) : Prop := ∀ cs body, Disk.textOf c = .ok cs → Source.parse cs ≠ .ok body

theorem recordOf?_unreadable {c : Content} (hc : Unreadable c) (path : String) : recordOf? path c = none := by
  unfold recordOf?
  split
  · rename_i cs hcs
    split
    · rename_i body hbody
      exact absurd hbody (hc cs body hcs)
    · rfl
  · rfl

theorem locate_set {loc : List String} {c x : Content} (hc : d.root.at? loc = some (.file c)) (path : String) :
    (Disk.mk (d.root.set (some (.file x)) loc)).locate path = d.locate path := by
  unfold Disk.locate
  rw [← follow_shape, shape_set hc, follow_shape]

theorem exists_find_set (hroot : d.find root = .ok (.dir es)) {loc : List String} {c x : Content}
    (hc : d.root.at? loc = some (.file c)) : ∃ es', (Disk.mk (d.root.set (some (.file x)) loc)).find root = .ok (.dir es') ∧
      shape (.dir es') = shape (.dir es) := by
  obtain ⟨names, hl, ha⟩ := Disk.find_eq_ok_iff.1 hroot
  have hat := at?_shape names (d.root.set (some (.file x)) loc)
  rw [shape_set hc, at?_shape, ha] at hat
  obtain ⟨e, ha', hes⟩ := Option.map_eq_some_iff.1 hat.symm
  cases e with
  | file c => cases hes
  | dir es' => exact ⟨es', Disk.find_eq_ok_iff.2 ⟨names, (locate_set hc root).trans hl, ha'⟩, hes⟩

theorem file_set_unreadable {loc names : List String} {path : String} {c x y : Content}
    (hc : d.root.at? loc = some (.file c)) (hx : Unreadable x) (hl : d.locate path = .ok names)
    (hy : d.root.at? names = some (.file y)) : (file ⟨d.root.set (some (.file x)) loc⟩ path).toOption =
      (file d path).toOption.filter fun r => decide ((d.locate r.path).toOption ≠ some loc) := by
  have hold := file_toOption (Disk.find_eq_ok_iff.2 ⟨_, hl, hy⟩)
  have hl' := (locate_set (x := x) hc path).trans hl
  by_cases hloc : names = loc
  · subst hloc
    rw [file_toOption (Disk.find_eq_ok_iff.2 ⟨_, hl', Entry.at?_set_self hc⟩), recordOf?_unreadable hx, hold]
    cases hr : recordOf? path y with
    | none => rfl
    | some r => simp [Option.filter, path_of_recordOf? hr, hl, Except.toOption]
  · rw [file_toOption (Disk.find_eq_ok_iff.2 ⟨_, hl', Entry.at?_set_of_ne hloc hc hy⟩), hold]
    cases hr : recordOf? path y with
    | none => rfl
    | some r => simp [Option.filter, path_of_recordOf? hr, hl, Except.toOption, hloc]

/-- **A file that cannot be read takes away its own record and changes nothing else.** -/
theorem records_set_unreadable (tree : d.root.IsTree) (hroot : d.find root = .ok (.dir es)) {rs : List FileRecord}
    (h : records d root true (.strings skip) = .ok rs) {loc : List String} {c x : Content}
    (hc : d.root.at? loc = some (.file c)) (hx : Unreadable x) :
    records ⟨d.root.set (some (.file x)) loc⟩ root true (.strings skip) =
      .ok (rs.filter fun r => decide ((d.locate r.path).toOption ≠ some loc)) := by
  have he := isTree_of_find tree hroot
  obtain ⟨es', hroot', hes⟩ := exists_find_set (x := x) hroot hc
  have tree' : (d.root.set (some (.file x)) loc).IsTree := isTree_of_shape (shape_set (x := x) hc ▸ isTree_shape tree)
  have hlocs : locations skip (ordered (.dir es')) = locations skip (ordered (.dir es)) := by
    rw [← locations_shape, shape_ordered (isTree_of_find tree' hroot'), hes, ← shape_ordered he, locations_shape]
  rw [records_eq_locations tree hroot] at h
  cases h
  rw [records_eq_locations tree' hroot', hlocs, List.filter_filterMap]
  congr 1
  refine List.filterMap_congr fun ns hns => ?_
  obtain ⟨⟨y, hy⟩, -, -⟩ := (eligible_ordered he).1 ((mem_locations (isTree_ordered he)).1 hns)
  obtain ⟨names, hl, ha⟩ := Disk.find_eq_ok_iff.1 hroot
  have hplace : d.root.at? (names ++ ns) = some (.file y) := by
    rw [Entry.at?_append, ha]
    exact hy
  exact file_set_unreadable hc hx (Disk.locate_below hl ha he hy) hplace

end Directory

/-- **A scan selects exactly the eligible files of a directory tree.**  It gives the directory's own files that can be
read, in the order of their names, and then what scans of its subdirectories give that are not to be skipped; every
eligible file that can be read occurs once, under a path of its own, and nothing below a directory to skip does; a scan
of the directory alone gives a prefix; and a file that cannot be read takes away its own record only. -/
theorem records_select_eligible (d : Disk) (tree : d.root.IsTree) (root : String) (es : List (String × Entry))
    (hroot : d.find root = .ok (.dir es)) (skip : List String) :
    ∃ rs, records d root true (.strings skip) = .ok rs ∧
      (∃ files dirs parts, InOrder files (fun n => (∃ c, (n, .file c) ∈ es) ∧ isEligible n = true) ∧
        InOrder dirs (fun n => (∃ sub, (n, .dir sub) ∈ es) ∧ n ∉ skip) ∧
        (dirs.mapM fun n => records d (Path.join root n) true (.strings skip)) = .ok parts ∧
        rs = files.filterMap (fun n => (file d (Path.join root n)).toOption) ++ parts.flatten) ∧
      (∀ r, r ∈ rs ↔ ∃ ns, Eligible skip (.dir es) ns ∧ file d (Path.below root ns) = .ok r) ∧
      (∀ ns r, Eligible skip (.dir es) ns → file d (Path.below root ns) = .ok r →
        (rs.map FileRecord.path).count (Path.below root ns) = 1) ∧
      (rs.map FileRecord.path).Nodup ∧
      (∀ ks k sub, (Entry.dir es).at? (ks ++ [k]) = some (.dir sub) → k ∈ skip → ∀ r ∈ rs,
        ¬ (Path.below root (ks ++ [k]) ++ "/").toList <+: r.path.toList) ∧
      (∃ own, records d root false (.strings skip) = .ok own ∧ own <+: rs) ∧
      ∀ loc c x, d.root.at? loc = some (.file c) → Unreadable x →
        records ⟨d.root.set (some (.file x)) loc⟩ root true (.strings skip) =
          .ok (rs.filter fun r => decide ((d.locate r.path).toOption ≠ some loc)) := by
  obtain ⟨hd, -, -⟩ := IsTree.dir_iff.1 (isTree_of_find tree hroot)
  have h : records d root true (.strings skip) = _ := records_eq_locations tree hroot
  have hnodup := nodup_paths tree hroot h
  obtain ⟨parts, hparts, hrs⟩ := records_step tree hroot h
  have hfiles := inOrder_filter hd isOwn
  have hdirs := inOrder_filter hd (isEntered skip)
  refine ⟨_, h, ⟨_, _, parts, ⟨hfiles.increasing, fun n => ?_⟩, ⟨hdirs.increasing, fun n => ?_⟩, hparts, hrs⟩,
    mem_records tree hroot h, fun ns r hel hr => ?_, hnodup, fun ks k sub hsub hk r hr => ?_,
    ⟨_, records_shallow hroot, prefix_of_shallow tree hroot h⟩, fun loc c x hc hx => ?_⟩
  · rw [hfiles.mem_iff]
    constructor
    · rintro ⟨e, hmem, hown⟩
      cases e with
      | dir sub => simp [isOwn, Entry.isDir] at hown
      | file c => exact ⟨⟨c, hmem⟩, by simpa [isOwn, Entry.isDir] using hown⟩
    · rintro ⟨⟨c, hmem⟩, hel⟩
      exact ⟨.file c, hmem, by simpa [isOwn, Entry.isDir] using hel⟩
  · rw [hdirs.mem_iff]
    constructor
    · rintro ⟨e, hmem, hent⟩
      cases e with
      | file c => simp [isEntered, Entry.isDir] at hent
      | dir sub => exact ⟨⟨sub, hmem⟩, by simpa [isEntered, Entry.isDir] using hent⟩
    · rintro ⟨⟨sub, hmem⟩, hk⟩
      exact ⟨.dir sub, hmem, by simpa [isEntered, Entry.isDir] using hk⟩
  · refine List.count_eq_one_of_mem hnodup (List.mem_map.2 ⟨r, (mem_records tree hroot h r).2 ⟨ns, hel, hr⟩, ?_⟩)
    exact path_of_file hr
  · exact not_below_skipped tree hroot h hsub hk hr
  · exact records_set_unreadable tree hroot h hc hx

def sampleEntries : List (String × Entry) :=
  [("b.py", .file (.text "x = 1".toList)), ("venv", .dir [("c.py", .file (.text []))]), ("a.py", .file (.bytes [255])),
    ("sub", .dir [("d.py", .file (.text "def f(): pass".toList))])]

theorem isTree_sample : (Entry.dir [("src", .dir sampleEntries)]).IsTree := by
  have name : ∀ n ∈ ["src", "b.py", "venv", "c.py", "a.py", "sub", "d.py"], IsName n := by
    intro n hn
    refine ⟨?_, ?_, ?_, ?_⟩ <;> revert n <;> decide
  simp only [sampleEntries, IsTree.dir_iff, List.forall_mem_cons, List.map_cons, List.map_nil]
  refine ⟨by decide, ⟨name _ (by simp), ?_⟩, ⟨by decide, ⟨name _ (by simp), name _ (by simp), name _ (by simp),
    name _ (by simp), ?_⟩, .file _, ⟨by decide, ⟨name _ (by simp), ?_⟩, .file _, ?_⟩, .file _,
    ⟨by decide, ⟨name _ (by simp), ?_⟩, .file _, ?_⟩, ?_⟩, ?_⟩ <;> exact fun _ h => by cases h

theorem ordered_sample : ordered (.dir sampleEntries) =
    .dir [("a.py", .file (.bytes [255])), ("b.py", .file (.text "x = 1".toList)),
      ("sub", .dir [("d.py", .file (.text "def f(): pass".toList))]), ("venv", .dir [("c.py", .file (.text []))])] := by
  have hab : ¬"b.py" ≤ "a.py" := by decide
  have hbs : "b.py" ≤ "sub" := by decide
  have hbv : "b.py" ≤ "venv" := by decide
  have has : "a.py" ≤ "sub" := by decide
  have hvs : ¬"venv" ≤ "sub" := by decide
  simp [ordered, orderedAll, sampleEntries, Entry.sorted, List.mergeSort, List.MergeSort.Internal.splitInTwo, hab, hbs, hbv,
    has, hvs]

/-- Two files have records: a third cannot be decoded, and the directory of the fourth is skipped. -/
theorem records_select_eligible_sample :
    (Disk.mk (.dir [("src", .dir sampleEntries)])).find "src/" = .ok (.dir sampleEntries) ∧
    ∃ rs, records ⟨.dir [("src", .dir sampleEntries)]⟩ "src/" true (.strings ["venv"]) = .ok rs ∧
      rs.map FileRecord.path = ["src/b.py", "src/sub/d.py"] ∧
      (rs.map FileRecord.path).Nodup ∧ ∀ r ∈ rs, ¬ "src/venv/".toList <+: r.path.toList := by
  have hroot : (Disk.mk (.dir [("src", .dir sampleEntries)])).find "src/" = .ok (.dir sampleEntries) := by rfl
  obtain ⟨rs, h, -, -, -, hnodup, hskip, -, -⟩ :=
    records_select_eligible ⟨.dir [("src", .dir sampleEntries)]⟩ isTree_sample "src/" sampleEntries hroot ["venv"]
  have hrecords := h.symm.trans (records_eq_locations isTree_sample hroot)
  rw [ordered_sample] at hrecords
  refine ⟨hroot, rs, h, ?_, hnodup, hskip [] "venv" _ rfl (by simp)⟩
  rw [Except.ok.inj hrecords]
  decide +kernel

end Scan
end DocReview
