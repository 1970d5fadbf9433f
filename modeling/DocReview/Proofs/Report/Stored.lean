import DocReview.Proofs.Scan.Selection
import DocReview.Report.Store
/-!
# Stored — a report on disk beside all else

A report is stored where nothing stands in the way of it (`Entry.Free`).  Storing it makes the directories on the way and
puts the file at its place (`store_report`); every other file stays what it was (`at?_set_free`), and each path still
leads to it (`locate_withFile`).  So the results of a test run, which lie beside the report, are those they were
(`loadTestResults_congr`).
-/
namespace DocReview

namespace Entry

/-- A file can be put at a place: there are only directories on the way, if anything, and no directory at the place. -/
def Free : List String → Entry → Prop
  | [], e => e.isDir = false
  | _ :: _, .file _ => False
  | n :: ns, .dir es => ∀ e, lookup? n es = some e → Free ns e

theorem Free.not_dir {es : List (String × Entry)} : ∀ {ns : List String} {e : Entry}, Free ns e →
    e.at? ns ≠ some (.dir es)
  | [], _, he, heq => by
    cases heq
    cases he
  | _ :: _, .file _, he, _ => he
  | _ :: _, .dir _, he, heq => by
    obtain ⟨f, hl, hf⟩ := Option.bind_eq_some_iff.1 heq
    exact (he f hl).not_dir hf

theorem Free.not_file {c : Content} {rest : List String} (hrest : rest ≠ []) : ∀ {ns : List String} {e : Entry},
    Free (ns ++ rest) e → e.at? ns ≠ some (.file c)
  | [], _, he, heq => by
    cases heq
    obtain ⟨m, ms, rfl⟩ := List.exists_cons_of_ne_nil hrest
    exact he
  | _ :: _, .file _, he, _ => he
  | _ :: _, .dir _, he, heq => by
    obtain ⟨f, hl, hf⟩ := Option.bind_eq_some_iff.1 heq
    exact (he f hl).not_file hrest hf

variable {x : Content}

theorem mem_put {n : String} {e : Entry} {p : String × Entry} : ∀ {es : List (String × Entry)}, p ∈ put n e es →
    p = (n, e) ∨ p ∈ es
  | [], h => Or.inl (List.mem_singleton.1 h)
  | (m, g) :: es, h => by
    rw [put] at h
    split at h
    · rename_i hm
      rcases List.mem_cons.1 h with rfl | h
      · exact Or.inl (by rw [hm])
      · exact Or.inr (List.mem_cons_of_mem _ h)
    · rcases List.mem_cons.1 h with rfl | h
      · exact Or.inr List.mem_cons_self
      · exact (mem_put h).imp id (List.mem_cons_of_mem _)

theorem nodup_put {n : String} {e : Entry} : ∀ {es : List (String × Entry)}, (es.map Prod.fst).Nodup →
    ((put n e es).map Prod.fst).Nodup
  | [], _ => by simp [put]
  | (m, g) :: es, h => by
    rw [put]
    split
    · exact h
    · rename_i hm
      rw [List.map_cons, List.nodup_cons] at h ⊢
      refine ⟨fun hmem => ?_, nodup_put h.2⟩
      obtain ⟨p, hp, hpm⟩ := List.mem_map.1 hmem
      rcases mem_put hp with rfl | hp
      · exact hm hpm.symm
      · exact h.1 (hpm ▸ List.mem_map_of_mem hp)

theorem at?_cons_set (f : Entry) (n : String) (ns loc : List String) (es : List (String × Entry)) :
    (set (some f) (n :: loc) (.dir es)).at? (n :: ns) =
      (set (some f) loc ((lookup? n es).getD (.dir []))).at? ns := by
  rw [set_cons, at?, lookup?_put_self, Option.bind_some]

theorem at?_cons_set_of_ne {n m : String} (h : m ≠ n) (ns loc : List String) (es : List (String × Entry)) :
    (set (some (.file x)) (n :: loc) (.dir es)).at? (m :: ns) = (Entry.dir es).at? (m :: ns) := by
  rw [set_cons, at?, at?, lookup?_put_of_ne h]

theorem free_getD {n : String} {loc : List String} {es : List (String × Entry)} (h : Free (n :: loc) (.dir es))
    (hloc : loc ≠ []) : Free loc ((lookup? n es).getD (.dir [])) := by
  cases hl : lookup? n es with
  | some e => exact h e hl
  | none =>
    obtain ⟨m, ms, rfl⟩ := List.exists_cons_of_ne_nil hloc
    intro e he
    cases he

/-- **A file put at a free place leaves all as it is that is not on the way.** -/
theorem at?_set_free : ∀ {loc ns : List String} {e : Entry}, Free loc e → ¬ ns <+: loc →
    (set (some (.file x)) loc e).at? ns = e.at? ns
  | _, [], _, _, hp => absurd List.nil_prefix hp
  | [], n :: ns, e, hf, _ => by
    cases e with
    | dir es => cases hf
    | file c => rfl
  | n :: loc, m :: ns, e, hf, hp => by
    cases e with
    | file c => cases hf
    | dir es =>
      by_cases hmn : m = n
      · subst hmn
        have hp' : ¬ ns <+: loc := fun h => hp (List.cons_prefix_cons.2 ⟨rfl, h⟩)
        have hns : ns ≠ [] := fun h => hp' (h.symm ▸ List.nil_prefix)
        obtain ⟨k, ks, rfl⟩ := List.exists_cons_of_ne_nil hns
        rw [at?_cons_set, at?]
        cases hl : lookup? m es with
        | some e => exact at?_set_free (hf e hl) hp'
        | none =>
          -- nothing is there: below the new file there is nothing, and a new directory has that file only
          cases loc with
          | nil => rfl
          | cons n loc => exact at?_set_free (fun e he => by cases he) hp'
      · exact at?_cons_set_of_ne hmn ns loc es

theorem at?_set_prefix : ∀ {loc ns : List String} {e : Entry}, Free loc e → ns <+: loc → ns ≠ loc →
    ∃ es, (set (some (.file x)) loc e).at? ns = some (.dir es)
  | [], _, _, _, hp, hne => absurd (List.prefix_nil.1 hp) hne
  | n :: loc, [], e, hf, _, _ => by
    cases e with
    | file c => cases hf
    | dir es => exact ⟨_, by rw [set_cons]; rfl⟩
  | n :: loc, m :: ns, e, hf, hp, hne => by
    cases e with
    | file c => cases hf
    | dir es =>
      obtain ⟨rfl, hp'⟩ := List.cons_prefix_cons.1 hp
      have hne' : ns ≠ loc := fun h => hne (by rw [h])
      have hloc : loc ≠ [] := by
        rintro rfl
        exact hne' (List.prefix_nil.1 hp')
      obtain ⟨es', h⟩ := at?_set_prefix (free_getD hf hloc) hp' hne'
      exact ⟨es', by rw [at?_cons_set, h]⟩

theorem at?_set_place {f : Entry} : ∀ {loc : List String} {e : Entry}, Free loc e →
    (set (some f) loc e).at? loc = some f
  | [], _, _ => rfl
  | n :: loc, e, hf => by
    cases e with
    | file c => cases hf
    | dir es =>
      rw [at?_cons_set]
      by_cases hloc : loc = []
      · subst hloc
        rfl
      · exact at?_set_place (free_getD hf hloc)

theorem free_set : ∀ {loc : List String} {e : Entry}, Free loc e → Free loc (set (some (.file x)) loc e)
  | [], _, _ => rfl
  | n :: loc, e, hf => by
    cases e with
    | file c => cases hf
    | dir es =>
      rw [set_cons]
      intro f hfound
      rw [lookup?_put_self] at hfound
      cases hfound
      by_cases hloc : loc = []
      · subst hloc
        rfl
      · exact free_set (free_getD hf hloc)

/-- A directory on the way to a place may be made first. -/
theorem set_after_dir {f : Entry} {m : String} {ms : List String} : ∀ (ns : List String) {e : Entry},
    Free (ns ++ m :: ms) e → e.at? ns = none →
    set (some f) (ns ++ m :: ms) (set (some (.dir [])) ns e) = set (some f) (ns ++ m :: ms) e
  | [], _, _, h => by cases h
  | n :: ns, e, hf, h => by
    cases e with
    | file c => cases hf
    | dir es =>
      rw [List.cons_append, set_cons, set_cons, set_cons, lookup?_put_self, put_put, Option.getD_some]
      congr 2
      cases hl : lookup? n es with
      | some e =>
        rw [at?, hl] at h
        exact set_after_dir ns (hf e hl) h
      | none =>
        cases ns with
        | nil => rfl
        | cons k ks => exact set_after_dir (k :: ks) (fun e he => by cases he) rfl

theorem free_after_dir {m : String} {ms : List String} : ∀ (ns : List String) {e : Entry},
    Free (ns ++ m :: ms) e → e.at? ns = none → Free (ns ++ m :: ms) (set (some (.dir [])) ns e)
  | [], _, _, h => by cases h
  | n :: ns, e, hf, h => by
    cases e with
    | file c => cases hf
    | dir es =>
      rw [set_cons]
      intro f hfound
      rw [lookup?_put_self] at hfound
      cases hfound
      cases hl : lookup? n es with
      | some e =>
        rw [at?, hl] at h
        exact free_after_dir ns (hf e hl) h
      | none =>
        cases ns with
        | nil => exact fun e he => by cases he
        | cons k ks => exact free_after_dir (k :: ks) (fun e he => by cases he) rfl

theorem free_of_parent {n : String} {es : List (String × Entry)} (hn : ∀ e, lookup? n es = some e → e.isDir = false) :
    ∀ {ns : List String} {e : Entry}, e.at? ns = some (.dir es) → Free (ns ++ [n]) e
  | [], _, h => by
    cases h
    exact hn
  | _ :: _, .file _, h => by cases h
  | k :: ns, .dir top, h => by
    obtain ⟨f, hl, hf⟩ := Option.bind_eq_some_iff.1 h
    intro e he
    rw [hl] at he
    cases he
    exact free_of_parent hn hf

theorem isTree_set_free : ∀ {loc : List String} {e : Entry}, Free loc e → e.IsTree → (∀ n ∈ loc, IsName n) →
    (set (some (.file x)) loc e).IsTree
  | [], _, _, _, _ => .file x
  | n :: loc, e, hf, he, hn => by
    cases e with
    | file c => cases hf
    | dir es =>
      obtain ⟨hd, hnames, hb⟩ := IsTree.dir_iff.1 he
      have hold : ((lookup? n es).getD (.dir [])).IsTree := by
        cases hl : lookup? n es with
        | none => exact .dir [] List.nodup_nil (fun _ h => by cases h) fun _ h => by cases h
        | some e => exact hb _ (mem_of_lookup? hl)
      have hnew : (set (some (.file x)) loc ((lookup? n es).getD (.dir []))).IsTree := by
        by_cases hloc : loc = []
        · subst hloc
          exact .file x
        · exact isTree_set_free (free_getD hf hloc) hold fun m hm => hn m (List.mem_cons_of_mem _ hm)
      rw [set_cons]
      refine .dir _ (nodup_put hd) (fun p hp => ?_) fun p hp => ?_
      · rcases mem_put hp with rfl | hp
        · exact hn n List.mem_cons_self
        · exact hnames p hp
      · rcases mem_put hp with rfl | hp
        · exact hnew
        · exact hb p hp

end Entry

namespace Disk

open Entry (at? lookup? IsName Free)

/-! ## Paths after a file was put at a free place -/

def withFile (d : Disk) (loc : List String) (x : Content) : Disk := ⟨d.root.set (some (.file x)) loc⟩

section WithFile

variable {d : Disk} {loc : List String} (free : Free loc d.root) (x : Content)

include free

theorem isDir_withFile {ns : List String} {es : List (String × Entry)} (h : d.root.at? ns = some (.dir es)) :
    ∃ es', (d.withFile loc x).root.at? ns = some (.dir es') := by
  by_cases hp : ns <+: loc
  · refine Entry.at?_set_prefix free hp ?_
    rintro rfl
    exact free.not_dir h
  · exact ⟨es, (Entry.at?_set_free free hp).trans h⟩

theorem isSome_withFile {ns : List String} (h : (d.root.at? ns).isSome) : ((d.withFile loc x).root.at? ns).isSome := by
  by_cases hp : ns <+: loc
  · by_cases heq : ns = loc
    · subst heq
      exact (Entry.at?_set_place (f := .file x) free) ▸ rfl
    · obtain ⟨es, hes⟩ := Entry.at?_set_prefix (x := x) free hp heq
      exact hes ▸ rfl
  · exact (Entry.at?_set_free free hp (x := x)).symm ▸ h

theorem follow_withFile : ∀ (ps here names : List String), follow d.root here ps = .ok names →
    follow (d.withFile loc x).root here ps = .ok names
  | [], _, _, h => h
  | p :: ps, here, names, h => by
    rw [follow] at h ⊢
    split at h
    · rename_i es hes
      obtain ⟨es', hes'⟩ := isDir_withFile free x hes
      rw [hes']
      dsimp only
      split at h
      · rename_i hp
        rw [if_pos hp]
        exact follow_withFile ps here names h
      · rename_i hp
        rw [if_neg hp]
        split at h
        · rename_i hup
          rw [if_pos hup]
          exact follow_withFile ps here.tail names h
        · rename_i hup
          rw [if_neg hup]
          split at h
          · rename_i hsome
            have hat : (d.root.at? (here.reverse ++ [p])).isSome := by
              rw [Entry.at?_append, hes, Option.bind_some, Entry.at?_singleton]
              exact hsome
            have hat' := isSome_withFile free x hat
            rw [Entry.at?_append, hes', Option.bind_some, Entry.at?_singleton] at hat'
            rw [if_pos hat']
            exact follow_withFile ps (p :: here) names h
          · cases h
    · cases h
    · cases h

/-- **A path leads to where it led.** -/
theorem locate_withFile {path : String} {names : List String} (h : d.locate path = .ok names) :
    (d.withFile loc x).locate path = .ok names := by
  obtain ⟨hne, hhead, hf⟩ := locate_eq_ok_iff.1 h
  exact locate_eq_ok_iff.2 ⟨hne, hhead, follow_withFile free x _ _ _ hf⟩

/-- A file that is there after another was put in place is that one, or was there before. -/
theorem file_withFile {ns : List String} {c : Content} (h : (d.withFile loc x).root.at? ns = some (.file c)) :
    ns = loc ∨ d.root.at? ns = some (.file c) := by
  by_cases hp : ns <+: loc
  · by_cases heq : ns = loc
    · exact Or.inl heq
    · obtain ⟨es, hes⟩ := Entry.at?_set_prefix (x := x) free hp heq
      have := hes.symm.trans h
      cases this
  · exact Or.inr ((Entry.at?_set_free free hp).symm.trans h)

theorem file_stays {ns : List String} {c : Content} (hne : ns ≠ loc) (h : d.root.at? ns = some (.file c)) :
    (d.withFile loc x).root.at? ns = some (.file c) := by
  by_cases hp : ns <+: loc
  · -- a file on the way would stand in it
    obtain ⟨rest, rfl⟩ := hp
    exact absurd h (Entry.Free.not_file (fun hnil => hne (by rw [hnil, List.append_nil])) free)
  · exact (Entry.at?_set_free free hp).trans h

end WithFile

/-! ## Paths of names -/

theorem follow_names {root : Entry} : ∀ {ps here names : List String}, (∀ p ∈ ps, IsName p) →
    follow root here ps = .ok names → names = ps.reverse ++ here
  | [], _, _, _, h => by
    cases h
    rfl
  | p :: ps, here, names, hps, h => by
    have hp := hps p List.mem_cons_self
    rw [follow] at h
    split at h
    · rw [if_neg (not_or.2 ⟨hp.not_empty, hp.not_here⟩), if_neg hp.not_up] at h
      split at h
      · rw [follow_names (fun q hq => hps q (List.mem_cons_of_mem _ hq)) h]
        simp
      · cases h
    · cases h
    · cases h

theorem follow_of_at? {root : Entry} : ∀ (here : List String) {ps : List String} {e : Entry}, (∀ p ∈ ps, IsName p) →
    root.at? (here.reverse ++ ps) = some e → follow root here ps = .ok (ps.reverse ++ here)
  | _, [], _, _, _ => rfl
  | here, p :: ps, e, hps, h => by
    have hp := hps p List.mem_cons_self
    rw [Entry.at?_append] at h
    obtain ⟨f, hf, he⟩ := Option.bind_eq_some_iff.1 h
    cases f with
    | file c => cases he
    | dir es =>
      obtain ⟨g, hg, -⟩ := Option.bind_eq_some_iff.1 he
      have hnext : root.at? ((p :: here).reverse ++ ps) = some e := by
        rw [List.reverse_cons, List.append_assoc, Entry.at?_append, hf]
        exact he
      rw [follow, hf]
      dsimp only
      rw [if_neg (not_or.2 ⟨hp.not_empty, hp.not_here⟩), if_neg hp.not_up, if_pos (by rw [hg]; rfl),
        follow_of_at? _ (fun q hq => hps q (List.mem_cons_of_mem _ hq)) hnext]
      simp

/-- A path that starts somewhere and consists of names. -/
structure Plain (path : String) : Prop where
  not_empty : path ≠ ""
  not_root : path.toList.head? ≠ some '/'
  names : ∀ p ∈ parts path, IsName p

theorem find_plain {d : Disk} {path : String} {e : Entry} (hp : Plain path) :
    d.find path = .ok e ↔ d.root.at? (parts path) = some e := by
  rw [find_eq_ok_iff]
  constructor
  · rintro ⟨names, hl, he⟩
    obtain ⟨-, -, hf⟩ := locate_eq_ok_iff.1 hl
    have hnames := follow_names hp.names hf
    rw [List.append_nil, List.reverse_inj] at hnames
    exact hnames ▸ he
  · intro h
    refine ⟨parts path, locate_eq_ok_iff.2 ⟨hp.not_empty, hp.not_root, ?_⟩, h⟩
    have hf := follow_of_at? [] hp.names h
    rwa [List.append_nil] at hf

section Parent

variable {d : Disk} {path : String} (hp : Plain path) {ns : List String} {n : String} (hparts : parts path = ns ++ [n])

include hp hparts

theorem name_of_parts : IsName n := hp.names n (by rw [hparts]; simp)

theorem locateParent_plain {es : List (String × Entry)} (h : d.root.at? ns = some (.dir es)) :
    d.locateParent path = .ok (ns, n) := by
  have hnames : ∀ p ∈ ns, IsName p := fun p hmem => hp.names p (by rw [hparts]; exact List.mem_append_left _ hmem)
  have hf := follow_of_at? [] hnames h
  rw [List.append_nil] at hf
  unfold locateParent
  simp only [hp.not_empty, hp.not_root, or_self, if_false, hparts, List.dropLast_concat, hf, bind, Except.bind,
    pure, Except.pure, List.reverse_reverse, h]
  simp

theorem makeDir_missing {f : PathFault} (h : follow d.root [] ns = .error f) : d.makeDir path = .error f := by
  unfold makeDir locateParent
  simp [hp.not_empty, hp.not_root, hparts, h, bind, Except.bind]

theorem isBare_plain : isBare n = false := by
  have hn := name_of_parts hp hparts
  simp [isBare, hn.not_empty, hn.not_here, hn.not_up]

theorem makeDir_new {es : List (String × Entry)} (h : d.root.at? ns = some (.dir es)) (hnone : lookup? n es = none) :
    d.makeDir path = .ok ⟨d.root.set (some (.dir [])) (ns ++ [n])⟩ := by
  have hat : d.root.at? (ns ++ [n]) = none := by rw [Entry.at?_append, h, Option.bind_some, Entry.at?_singleton, hnone]
  unfold makeDir
  rw [locateParent_plain hp hparts h]
  simp [bind, Except.bind, pure, Except.pure, isBare_plain hp hparts, hat]

theorem makeDir_exists {es : List (String × Entry)} {e : Entry} (h : d.root.at? ns = some (.dir es))
    (hsome : lookup? n es = some e) : d.makeDir path = .error .exists := by
  have hat : d.root.at? (ns ++ [n]) = some e := by
    rw [Entry.at?_append, h, Option.bind_some, Entry.at?_singleton, hsome]
  unfold makeDir
  rw [locateParent_plain hp hparts h]
  simp [bind, Except.bind, isBare_plain hp hparts, hat, throw, throwThe, MonadExceptOf.throw]

theorem write_plain {es : List (String × Entry)} (h : d.root.at? ns = some (.dir es))
    (hfile : ∀ es', d.root.at? (ns ++ [n]) ≠ some (.dir es')) (x : Content) :
    d.write path x = .ok (d.withFile (ns ++ [n]) x) := by
  unfold write
  rw [locateParent_plain hp hparts h]
  simp only [bind, Except.bind, pure, Except.pure, isBare_plain hp hparts, Bool.false_eq_true, if_false]
  rfl

theorem locateParent_eq_ok {names : List String} {last : String} (h : d.locateParent path = .ok (names, last)) :
    names = ns ∧ last = n ∧ ∃ es, d.root.at? ns = some (.dir es) := by
  have hnames : ∀ p ∈ ns, IsName p := fun p hmem => hp.names p (by rw [hparts]; exact List.mem_append_left _ hmem)
  unfold locateParent at h
  simp only [hp.not_empty, hp.not_root, or_self, if_false] at h
  obtain ⟨back, hfollow, h⟩ := Result.bind_eq_ok_iff.1 h
  rw [hparts, List.dropLast_concat] at hfollow
  have hback := follow_names hnames hfollow
  rw [List.append_nil] at hback
  subst hback
  rw [List.reverse_reverse] at h
  split at h
  · rename_i es hes
    cases h
    exact ⟨rfl, by rw [hparts]; simp, es, hes⟩
  · cases h
  · cases h

/-- **A file is written only where nothing stands in the way**, and is then there. -/
theorem write_eq_ok {d' : Disk} {x : Content} (h : d.write path x = .ok d') :
    Free (ns ++ [n]) d.root ∧ d' = d.withFile (ns ++ [n]) x := by
  unfold write at h
  obtain ⟨⟨names, last⟩, hparent, h⟩ := Result.bind_eq_ok_iff.1 h
  obtain ⟨rfl, rfl, es, hes⟩ := locateParent_eq_ok hp hparts hparent
  simp only [isBare_plain hp hparts, Bool.false_eq_true, if_false] at h
  split at h
  · cases h
  · rename_i hdir
    cases h
    refine ⟨Entry.free_of_parent (fun e he => ?_) hes, rfl⟩
    cases e with
    | file c => rfl
    | dir es' =>
      rw [Entry.at?_append, hes, Option.bind_some, Entry.at?_singleton] at hdir
      exact absurd he (hdir es')

end Parent

end Disk

namespace Report

open Entry (at? lookup? IsName Free)
open Disk (parts Plain withFile)

instance (n : String) : Decidable (IsName n) :=
  decidable_of_iff (n ≠ "" ∧ n ≠ "." ∧ n ≠ ".." ∧ '/' ∉ n.toList)
    ⟨fun h => ⟨h.1, h.2.1, h.2.2.1, h.2.2.2⟩, fun h => ⟨h.not_empty, h.not_here, h.not_up, h.no_slash⟩⟩

/-- Where a report is put. -/
def reportPlace (file : String) : List String := ["storage", "reports", file]

def coveragePlace : List String := ["storage", "reports", "docstring_coverage.json"]

theorem names_coveragePlace : ∀ n ∈ coveragePlace, IsName n := by decide

structure IsReport (path file : String) : Prop where
  plain : Plain path
  normal : Path.normal path = path
  parts : parts path = ["storage", "reports"] ++ [file]
  depth : (Path.steps path).length = 3
  parent : Path.parent path = "storage/reports"

theorem isReport_coverage : IsReport coveragePath "docstring_coverage.json" :=
  ⟨⟨by decide, by decide, by decide⟩, by decide, by decide, by decide, by decide⟩

theorem isReport_testResults : IsReport testResultsPath "pytest_results.json" :=
  ⟨⟨by decide, by decide, by decide⟩, by decide, by decide, by decide, by decide⟩

theorem plain_storage : Plain "storage" := ⟨by decide, by decide, by decide⟩

theorem parts_storage : parts "storage" = [] ++ ["storage"] := by decide

theorem plain_reports : Plain "storage/reports" := ⟨by decide, by decide, by decide⟩

theorem parts_reports : parts "storage/reports" = ["storage"] ++ ["reports"] := by decide

section Store

variable {file : String}

/-- The directory of reports is there, and putting a file into it is the same as on the disk given. -/
structure Prepared (file : String) (d d' : Disk) : Prop where
  reports : ∃ es, d'.root.at? ["storage", "reports"] = some (.dir es)
  free : Free (reportPlace file) d'.root
  set_eq : ∀ f, d'.root.set (some f) (reportPlace file) = d.root.set (some f) (reportPlace file)

theorem makeDir_reports {d : Disk} {es : List (String × Entry)} (free : Free (reportPlace file) d.root)
    (hat : d.root.at? ["storage"] = some (.dir es)) :
    (∃ d', d.makeDir "storage/reports" = .ok d' ∧ Prepared file d d') ∨
      d.makeDir "storage/reports" = .error .exists ∧ d.isDir "storage/reports" = true ∧ Prepared file d d := by
  have hbelow : ∀ e, lookup? "reports" es = some e → Free [file] e := by
    cases hroot : d.root with
    | file c => rw [hroot] at hat; cases hat
    | dir top =>
      rw [hroot, Entry.at?_singleton] at hat
      rw [hroot] at free
      exact free _ hat
  have hinner : d.root.at? ["storage", "reports"] = lookup? "reports" es := by
    rw [show ["storage", "reports"] = ["storage"] ++ ["reports"] from rfl, Entry.at?_append, hat, Option.bind_some,
      Entry.at?_singleton]
  cases hreports : lookup? "reports" es with
  | none =>
    rw [hreports] at hinner
    have hnew : ∀ e, lookup? "reports" es = some e → e.isDir = false := by simp [hreports]
    have hfree : Free (["storage"] ++ ["reports"]) d.root := Entry.free_of_parent hnew hat
    have hplace := Entry.at?_set_place (f := .dir []) hfree
    refine Or.inl ⟨_, Disk.makeDir_new plain_reports parts_reports hat hreports, ⟨[], hplace⟩, ?_, fun f => ?_⟩
    · exact Entry.free_after_dir ["storage", "reports"] free hinner
    · exact Entry.set_after_dir ["storage", "reports"] free hinner
  | some e =>
    cases e with
    | file c => cases hbelow _ hreports
    | dir es₂ =>
      rw [hreports] at hinner
      refine Or.inr ⟨Disk.makeDir_exists plain_reports parts_reports hat hreports, ?_, ⟨es₂, hinner⟩, free, fun _ => rfl⟩
      unfold Disk.isDir
      rw [(Disk.find_plain plain_reports).2 hinner]

theorem makeDirs_of_storage {d : Disk} {es : List (String × Entry)} (free : Free (reportPlace file) d.root)
    (hat : d.root.at? ["storage"] = some (.dir es)) (bound : Nat) :
    ∃ d', d.makeDirs bound "storage/reports" = .ok d' ∧ Prepared file d d' := by
  unfold Disk.makeDirs
  rcases makeDir_reports free hat with ⟨d', hd', hp⟩ | ⟨hexists, hdir, hp⟩
  · rw [hd']
    exact ⟨d', rfl, hp⟩
  · rw [hexists]
    dsimp only
    rw [if_pos hdir]
    exact ⟨d, rfl, hp⟩

/-- Without a directory for storage, that one is made first. -/
theorem makeDirs_of_no_storage {d : Disk} {es : List (String × Entry)} (free : Free (reportPlace file) d.root)
    (hroot : d.root = .dir es) (hstorage : lookup? "storage" es = none) (bound : Nat) :
    ∃ d', d.makeDirs (bound + 1) "storage/reports" = .ok d' ∧ Prepared file d d' := by
  have htop : d.root.at? [] = some (.dir es) := congrArg some hroot
  have hnone : d.root.at? ["storage"] = none := by rw [hroot, Entry.at?_singleton, hstorage]
  have hparent : Path.parent "storage/reports" = "storage" := by decide
  have hmissing : d.makeDir "storage/reports" = .error .missing := by
    refine Disk.makeDir_missing plain_reports parts_reports ?_
    simp [Disk.follow, htop, hstorage]
  have houter := Disk.makeDir_new plain_storage parts_storage htop hstorage
  have hnew : ∀ e, lookup? "storage" es = some e → e.isDir = false := by simp [hstorage]
  have hat := Entry.at?_set_place (f := .dir []) (Entry.free_of_parent hnew htop)
  have hfree := Entry.free_after_dir ["storage"] free hnone
  have hset := fun f => Entry.set_after_dir (f := f) ["storage"] free hnone
  unfold Disk.makeDirs
  rw [hmissing]
  dsimp only
  rw [hparent]
  unfold Disk.makeDirs
  rw [houter]
  rcases makeDir_reports (d := ⟨d.root.set (some (.dir [])) ["storage"]⟩) hfree hat with
    ⟨d', hd', hp⟩ | ⟨hexists, hdir, hp⟩
  · refine ⟨d', ?_, hp.reports, hp.free, fun f => (hp.set_eq f).trans (hset f)⟩
    refine Result.bind_eq_ok_iff.2 ⟨_, rfl, ?_⟩
    rw [List.nil_append, hd']
  · refine ⟨_, ?_, hp.reports, hp.free, fun f => (hp.set_eq f).trans (hset f)⟩
    refine Result.bind_eq_ok_iff.2 ⟨_, rfl, ?_⟩
    rw [List.nil_append, hexists]
    dsimp only
    rw [if_pos hdir]

theorem makeParents_report {path : String} (hpath : IsReport path file) {d : Disk} (free : Free (reportPlace file) d.root) :
    ∃ d', d.makeParents path = .ok d' ∧ Prepared file d d' := by
  unfold Disk.makeParents
  rw [hpath.depth, hpath.parent]
  cases hroot : d.root with
  | file c => rw [hroot] at free; cases free
  | dir es =>
    cases hstorage : lookup? "storage" es with
    | none => exact makeDirs_of_no_storage free hroot hstorage 2
    | some e =>
      cases e with
      | file c =>
        rw [hroot] at free
        cases free _ hstorage
      | dir es₁ =>
        have hat : d.root.at? ["storage"] = some (.dir es₁) := by rw [hroot, Entry.at?_singleton, hstorage]
        exact makeDirs_of_storage free hat 3

/-- **Storing a report** puts it at its place, on a disk where nothing stands in the way. -/
theorem store_report {path : String} (hpath : IsReport path file) {d : Disk} (free : Free (reportPlace file) d.root)
    (report : Value) : store d report path = .ok (d.withFile (reportPlace file) (.text (Json.indented report))) := by
  obtain ⟨d', hd', ⟨es, hes⟩, hfree, hset⟩ := makeParents_report hpath free
  have hwrite := Disk.write_plain hpath.plain hpath.parts hes (fun _ => hfree.not_dir) (.text (Json.indented report))
  refine Result.bind_eq_ok_iff.2 ⟨d', hd', ?_⟩
  rw [hpath.normal, Disk.writeText, hwrite]
  exact congrArg (fun root => Except.ok (Disk.mk root)) (hset _)

end Store

theorem store_coverage {d : Disk} (free : Free coveragePlace d.root) (report : Value) :
    store d report coveragePath = .ok (d.withFile coveragePlace (.text (Json.indented report))) :=
  store_report isReport_coverage free report

/-- What a test run left is read from one place of the disk. -/
theorem loadTestResults_congr {d d' : Disk} (h : d'.root.at? (parts testResultsPath) = d.root.at? (parts testResultsPath)) :
    loadTestResults d' = loadTestResults d := by
  unfold loadTestResults load
  rw [isReport_testResults.normal]
  cases hat : d.root.at? (parts testResultsPath) with
  | some e =>
    have hfind := (Disk.find_plain isReport_testResults.plain).2 hat
    have hfind' := (Disk.find_plain isReport_testResults.plain).2 (h.trans hat)
    unfold Disk.contains Disk.readText Disk.read
    rw [hfind, hfind']
  | none =>
    have missing : ∀ {d : Disk}, d.root.at? (parts testResultsPath) = none → d.contains testResultsPath = false := by
      intro d hd
      unfold Disk.contains
      split
      · rename_i e he
        rw [(Disk.find_plain isReport_testResults.plain).1 he] at hd
        cases hd
      · rfl
    rw [missing hat, missing (h.trans hat), if_neg Bool.false_ne_true, if_neg Bool.false_ne_true]

end Report
end DocReview
