import Mathlib.Data.List.Nodup
import DocReview.Proofs.Disk
import DocReview.Scan
/-!
# Places — where the files that a scan reads are

The place of a file is the list of names that leads to it.  The places that a scan reads (`locations`) are the eligible
ones, each of them once (`mem_locations`, `nodup_locations`); they depend on the shape of the directory tree and not on
what its files hold (`locations_shape`).  A scan gives the records of what is at these places (`below_eq_locations`).
-/
namespace DocReview
namespace Scan

open Definition (FileRecord)
open Entry (IsTree IsName at? lookup?)

/-! ## The places of the files that are read -/

mutual

/-- The places below an entry of the files that a scan reads, in the order of the scan. -/
def locations (skip : List String) : Entry → List (List String)
  | .file _ => []
  | .dir es => (es.filter fun p => !p.2.isDir && isEligible p.1).map (fun p => [p.1]) ++ locationsAmong skip es

def locationsAmong (skip : List String) : List (String × Entry) → List (List String)
  | [] => []
  | (_, .file _) :: es => locationsAmong skip es
  | (n, .dir sub) :: es =>
    (if n ∈ skip then [] else (locations skip (.dir sub)).map (n :: ·)) ++ locationsAmong skip es

end

def recordOf? (path : String) (c : Content) : Option FileRecord :=
  match Disk.textOf c with
  | .ok cs =>
    match Source.parse cs with
    | .ok body => some (Definition.fileRecord path body)
    | .error _ => none
  | .error _ => none

def recordAt? (dir : String) (e : Entry) (ns : List String) : Option FileRecord :=
  match e.at? ns with
  | some (.file c) => recordOf? (Path.below dir ns) c
  | _ => none

theorem eligible?_file (dir n : String) (c : Content) :
    eligible? dir (n, .file c) = if isEligible n then recordOf? (Path.join dir n) c else none := rfl

theorem path_of_recordOf? {path : String} {c : Content} {r : FileRecord} (h : recordOf? path c = some r) :
    r.path = path := by
  unfold recordOf? at h
  split at h
  · split at h
    · cases h; rfl
    · cases h
  · cases h

theorem skips_strings (skip : List String) (n : String) : skips (.strings skip) n = .ok (decide (n ∈ skip)) := by
  unfold skips Value.strings
  simp only [List.any_map, Except.ok.injEq]
  rw [Bool.eq_iff_iff, List.any_eq_true, decide_eq_true_eq]
  constructor
  · rintro ⟨s, hs, h⟩
    simp only [Function.comp_apply, Value.isText, decide_eq_true_eq] at h
    exact h ▸ hs
  · exact fun h => ⟨n, h, by simp [Value.isText]⟩

theorem recordAt?_cons (dir : String) {n : String} {ns : List String} {es : List (String × Entry)} {e : Entry}
    (h : lookup? n es = some e) : recordAt? dir (.dir es) (n :: ns) = recordAt? (Path.join dir n) e ns := by
  simp [recordAt?, at?, h, Path.below_cons]

theorem filterMap_eligible? (dir : String) {es : List (String × Entry)} (hd : (es.map Prod.fst).Nodup) :
    es.filterMap (eligible? dir) = ((es.filter fun p => !p.2.isDir && isEligible p.1).map fun p => [p.1]).filterMap
      (recordAt? dir (.dir es)) := by
  rw [List.filterMap_map, List.filterMap_filter]
  refine List.filterMap_congr fun p hp => ?_
  obtain ⟨n, e⟩ := p
  have hl := Entry.lookup?_of_mem hd hp
  cases e with
  | dir sub => rfl
  | file c =>
    rw [eligible?_file]
    simp only [Entry.isDir, Bool.not_false, Bool.true_and, Function.comp_apply]
    rw [recordAt?_cons dir hl]
    rfl

mutual

/-- **A scan below an entry gives the records at the places it reads.** -/
theorem below_eq_locations (skip : List String) (dir : String) : ∀ (e : Entry), e.IsTree →
    below (.strings skip) true dir e = .ok ((locations skip e).filterMap (recordAt? dir e))
  | .file _, _ => rfl
  | .dir es, he => by
    obtain ⟨hd, -, hb⟩ := IsTree.dir_iff.1 he
    rw [below, locations, List.filterMap_append, ← filterMap_eligible? dir hd,
      belowAll_eq_locations skip dir es (.dir es)
        (fun p hp => (Entry.at?_singleton p.1 es).trans (Entry.lookup?_of_mem hd hp)) hb]
    rfl

theorem belowAll_eq_locations (skip : List String) (dir : String) : ∀ (es : List (String × Entry)) (whole : Entry),
    (∀ p ∈ es, at? [p.1] whole = some p.2) → (∀ p ∈ es, IsTree p.2) →
    belowAll (.strings skip) true dir es = .ok ((locationsAmong skip es).filterMap (recordAt? dir whole))
  | [], _, _, _ => rfl
  | (n, .file c) :: es, whole, hw, hb =>
    belowAll_eq_locations skip dir es whole (fun p hp => hw p (List.mem_cons_of_mem _ hp))
      (fun p hp => hb p (List.mem_cons_of_mem _ hp))
  | (n, .dir sub) :: es, whole, hw, hb => by
    have hrest := belowAll_eq_locations skip dir es whole (fun p hp => hw p (List.mem_cons_of_mem _ hp))
      (fun p hp => hb p (List.mem_cons_of_mem _ hp))
    have hsub := below_eq_locations skip (Path.join dir n) (.dir sub) (hb _ List.mem_cons_self)
    have hn : at? [n] whole = some (.dir sub) := hw _ List.mem_cons_self
    have hcons : ∀ ns, recordAt? dir whole (n :: ns) = recordAt? (Path.join dir n) (.dir sub) ns := by
      intro ns
      unfold recordAt?
      rw [show n :: ns = [n] ++ ns from rfl, Entry.at?_append, hn]
      rfl
    rw [belowAll, locationsAmong, skips_strings, hrest, List.filterMap_append]
    by_cases hk : n ∈ skip
    · simp [hk, bind, Except.bind, pure, Except.pure]
    · simp only [hk, hsub, decide_false, bind, Except.bind, pure, Except.pure, Bool.not_true, Bool.or_self,
        if_neg, not_false_eq_true, List.filterMap_map, Function.comp_def, hcons, Bool.false_eq_true]

end

/-! ## Which places those are -/

/-- **A place that a scan reads**: a file whose name is eligible, below no directory to skip. -/
def Eligible (skip : List String) (e : Entry) (ns : List String) : Prop :=
  (∃ c, e.at? ns = some (.file c)) ∧ isEligible (ns.getLastD "") = true ∧ ∀ n ∈ ns.dropLast, n ∉ skip

theorem locationsAmong_eq_flatMap (skip : List String) : ∀ (es : List (String × Entry)),
    locationsAmong skip es = es.flatMap fun p => if p.1 ∈ skip then [] else (locations skip p.2).map (p.1 :: ·)
  | [] => rfl
  | (n, .file c) :: es => by
    rw [locationsAmong, locationsAmong_eq_flatMap skip es, List.flatMap_cons]
    simp [locations]
  | (n, .dir sub) :: es => by rw [locationsAmong, locationsAmong_eq_flatMap skip es, List.flatMap_cons]

theorem mem_locations_dir {skip : List String} {es : List (String × Entry)} {ns : List String} :
    ns ∈ locations skip (.dir es) ↔ (∃ n c, (n, .file c) ∈ es ∧ isEligible n = true ∧ ns = [n]) ∨
      ∃ n e ms, (n, e) ∈ es ∧ n ∉ skip ∧ ms ∈ locations skip e ∧ ns = n :: ms := by
  rw [locations, locationsAmong_eq_flatMap, List.mem_append, List.mem_map, List.mem_flatMap]
  refine or_congr ⟨?_, ?_⟩ ⟨?_, ?_⟩
  · rintro ⟨⟨n, e⟩, hp, rfl⟩
    obtain ⟨hmem, hel⟩ := List.mem_filter.1 hp
    cases e with
    | dir sub => simp [Entry.isDir] at hel
    | file c => exact ⟨n, c, hmem, by simpa [Entry.isDir] using hel, rfl⟩
  · rintro ⟨n, c, hmem, hel, rfl⟩
    exact ⟨(n, .file c), List.mem_filter.2 ⟨hmem, by simpa [Entry.isDir] using hel⟩, rfl⟩
  · rintro ⟨⟨n, e⟩, hp, hns⟩
    split at hns
    · cases hns
    · rename_i hk
      obtain ⟨ms, hms, rfl⟩ := List.mem_map.1 hns
      exact ⟨n, e, ms, hp, hk, hms, rfl⟩
  · rintro ⟨n, e, ms, hp, hk, hms, rfl⟩
    exact ⟨(n, e), hp, by rw [if_neg hk]; exact List.mem_map_of_mem hms⟩

theorem ne_nil_of_mem_locations {skip : List String} {e : Entry} {ns : List String} (h : ns ∈ locations skip e) :
    ns ≠ [] := by
  cases e with
  | file c => cases h
  | dir es =>
    rcases mem_locations_dir.1 h with ⟨n, _, _, _, rfl⟩ | ⟨n, _, ms, _, _, _, rfl⟩ <;> simp

theorem isEligible_empty : isEligible "" = false := by decide

theorem eligible_cons {skip : List String} {es : List (String × Entry)} {n : String} {e : Entry} {ms : List String}
    (hl : lookup? n es = some e) (hms : ms ≠ []) :
    Eligible skip (.dir es) (n :: ms) ↔ n ∉ skip ∧ Eligible skip e ms := by
  obtain ⟨m, ms', rfl⟩ := List.exists_cons_of_ne_nil hms
  simp only [Eligible, at?, hl, Option.bind_some, List.getLastD_cons, List.dropLast_cons_cons, List.mem_cons,
    forall_eq_or_imp]
  constructor
  · rintro ⟨hc, he, hn, hr⟩
    exact ⟨hn, hc, he, hr⟩
  · rintro ⟨hn, hc, he, hr⟩
    exact ⟨hc, he, hn, hr⟩

/-- **The places a scan reads are the eligible ones.** -/
theorem mem_locations {skip : List String} {e : Entry} (he : e.IsTree) :
    ∀ {ns : List String}, ns ∈ locations skip e ↔ Eligible skip e ns := by
  induction he with
  | file c =>
    intro ns
    constructor
    · intro h
      cases h
    rintro ⟨⟨_, hc⟩, hel, -⟩
    cases ns with
    | nil => rw [List.getLastD_nil, isEligible_empty] at hel; cases hel
    | cons n ns => cases hc
  | dir es hd hn hb ih =>
    intro ns
    rw [mem_locations_dir]
    constructor
    · rintro (⟨n, c, hmem, hel, rfl⟩ | ⟨n, e, ms, hmem, hk, hms, rfl⟩)
      · have hl := Entry.lookup?_of_mem hd hmem
        exact ⟨⟨c, (Entry.at?_singleton n es).trans hl⟩, hel, fun _ h => by cases h⟩
      · exact (eligible_cons (Entry.lookup?_of_mem hd hmem) (ne_nil_of_mem_locations hms)).2
          ⟨hk, (ih _ hmem).1 hms⟩
    · intro h
      obtain ⟨⟨c, hc⟩, hel, -⟩ := id h
      cases ns with
      | nil => cases hc
      | cons n ms =>
        obtain ⟨e, hl, hc⟩ := Option.bind_eq_some_iff.1 hc
        have hmem := Entry.mem_of_lookup? hl
        by_cases hms : ms = []
        · subst hms
          cases hc
          exact Or.inl ⟨n, c, hmem, hel, rfl⟩
        · obtain ⟨hk, hms'⟩ := (eligible_cons hl hms).1 h
          exact Or.inr ⟨n, e, ms, hmem, hk, (ih _ hmem).2 hms', rfl⟩

/-- **No place is read twice.** -/
theorem nodup_locations {skip : List String} {e : Entry} (he : e.IsTree) : (locations skip e).Nodup := by
  induction he with
  | file c => exact List.nodup_nil
  | dir es hd hn hb ih =>
    rw [locations, locationsAmong_eq_flatMap]
    refine List.Nodup.append ?_ ?_ ?_
    · have hnames := hd.sublist (List.filter_sublist (p := fun p => !p.2.isDir && isEligible p.1).map Prod.fst)
      have := hnames.map (f := fun n => [n]) (fun a b hab => by simpa using hab)
      rwa [List.map_map] at this
    · refine List.nodup_flatMap.2 ⟨fun p hp => ?_, ?_⟩
      · split
        · exact List.nodup_nil
        · exact (ih p hp).map (fun a b hab => by simpa using hab)
      · refine (List.pairwise_map.1 hd).imp fun hne => ?_
        intro ns hns hms
        rename_i a b
        simp only at hns hms
        split at hns
        · cases hns
        · split at hms
          · cases hms
          · obtain ⟨_, _, rfl⟩ := List.mem_map.1 hns
            obtain ⟨_, _, heq⟩ := List.mem_map.1 hms
            exact hne (List.cons.inj heq).1.symm
    · intro ns hns hms
      obtain ⟨p, _, rfl⟩ := List.mem_map.1 hns
      obtain ⟨q, _, hq⟩ := List.mem_flatMap.1 hms
      split at hq
      · cases hq
      · obtain ⟨ms, hms, heq⟩ := List.mem_map.1 hq
        exact ne_nil_of_mem_locations hms (List.cons.inj heq).2

/-! ## Order and shape -/

theorem orderedAll_eq_map : ∀ (es : List (String × Entry)), orderedAll es = es.map fun p => (p.1, ordered p.2)
  | [] => rfl
  | (n, e) :: es => by rw [orderedAll, orderedAll_eq_map es, List.map_cons]

theorem ordered_dir (es : List (String × Entry)) :
    ordered (.dir es) = .dir ((Entry.sorted es).map fun p => (p.1, ordered p.2)) := by
  rw [ordered, orderedAll_eq_map, Entry.sorted, Entry.sorted]
  rw [← List.map_mergeSort (r := fun a b => decide (a.1 ≤ b.1))]
  exact fun _ _ _ _ => rfl

theorem sorted_perm (es : List (String × Entry)) : (Entry.sorted es).Perm es := List.mergeSort_perm es _

theorem map_fst_ordered (es : List (String × Entry)) :
    ((Entry.sorted es).map fun p => (p.1, ordered p.2)).map Prod.fst = (Entry.sorted es).map Prod.fst := by
  rw [List.map_map]
  rfl

theorem isTree_ordered {e : Entry} (he : e.IsTree) : (ordered e).IsTree := by
  induction he with
  | file c => exact .file c
  | dir es hd hn hb ih =>
    rw [ordered_dir]
    refine .dir _ ?_ ?_ ?_
    · rw [map_fst_ordered]
      exact ((sorted_perm es).map Prod.fst).nodup_iff.2 hd
    · rintro p hp
      obtain ⟨q, hq, rfl⟩ := List.mem_map.1 hp
      exact hn q ((sorted_perm es).mem_iff.1 hq)
    · rintro p hp
      obtain ⟨q, hq, rfl⟩ := List.mem_map.1 hp
      exact ih q ((sorted_perm es).mem_iff.1 hq)

theorem lookup?_ordered {es : List (String × Entry)} (hd : (es.map Prod.fst).Nodup) (n : String) :
    lookup? n ((Entry.sorted es).map fun p => (p.1, ordered p.2)) = (lookup? n es).map ordered := by
  have hd' : (((Entry.sorted es).map fun p => (p.1, ordered p.2)).map Prod.fst).Nodup := by
    rw [map_fst_ordered]
    exact ((sorted_perm es).map Prod.fst).nodup_iff.2 hd
  ext e
  rw [Option.map_eq_some_iff]
  constructor
  · intro h
    obtain ⟨p, hp, heq⟩ := List.mem_map.1 (Entry.mem_of_lookup? h)
    cases heq
    exact ⟨p.2, Entry.lookup?_of_mem hd ((sorted_perm es).mem_iff.1 hp), rfl⟩
  · rintro ⟨f, hf, rfl⟩
    exact Entry.lookup?_of_mem hd' (List.mem_map.2 ⟨(n, f), (sorted_perm es).mem_iff.2 (Entry.mem_of_lookup? hf), rfl⟩)

theorem at?_ordered : ∀ (ns : List String) {e : Entry}, e.IsTree → (ordered e).at? ns = (e.at? ns).map ordered
  | [], _, _ => rfl
  | _ :: _, .file _, _ => rfl
  | n :: ns, .dir es, he => by
    obtain ⟨hd, -, hb⟩ := IsTree.dir_iff.1 he
    rw [ordered_dir, at?, at?, lookup?_ordered hd]
    cases hl : lookup? n es with
    | none => rfl
    | some f => exact at?_ordered ns (hb _ (Entry.mem_of_lookup? hl))

theorem eligible_ordered {skip : List String} {e : Entry} (he : e.IsTree) {ns : List String} :
    Eligible skip (ordered e) ns ↔ Eligible skip e ns := by
  refine and_congr_left fun _ => ?_
  rw [at?_ordered ns he]
  cases e.at? ns with
  | none => simp
  | some f => cases f <;> simp [ordered]

mutual

def shape : Entry → Entry
  | .file _ => .file (.text [])
  | .dir es => .dir (shapeAll es)

def shapeAll : List (String × Entry) → List (String × Entry)
  | [] => []
  | (n, e) :: es => (n, shape e) :: shapeAll es

end

theorem shapeAll_eq_map : ∀ (es : List (String × Entry)), shapeAll es = es.map fun p => (p.1, shape p.2)
  | [] => rfl
  | (n, e) :: es => by rw [shapeAll, shapeAll_eq_map es, List.map_cons]

theorem isDir_shape (e : Entry) : (shape e).isDir = e.isDir := by cases e <;> rfl

mutual

/-- What files hold does not tell where they are. -/
theorem locations_shape (skip : List String) : ∀ (e : Entry), locations skip (shape e) = locations skip e
  | .file _ => rfl
  | .dir es => by
    rw [shape, locations, locations, locationsAmong_shape skip es, shapeAll_eq_map, List.filter_map, List.map_map]
    congr 2
    refine List.filter_congr fun p _ => ?_
    simp [isDir_shape]

theorem locationsAmong_shape (skip : List String) : ∀ (es : List (String × Entry)),
    locationsAmong skip (shapeAll es) = locationsAmong skip es
  | [] => rfl
  | (n, .file c) :: es => locationsAmong_shape skip es
  | (n, .dir sub) :: es => by
    have h := locations_shape skip (.dir sub)
    rw [shape] at h
    rw [shapeAll, shape, locationsAmong, locationsAmong, h, locationsAmong_shape skip es]

end

theorem shape_ordered {e : Entry} (he : e.IsTree) : shape (ordered e) = ordered (shape e) := by
  induction he with
  | file c => rfl
  | dir es hd hn hb ih =>
    have hsort : Entry.sorted (shapeAll es) = (Entry.sorted es).map fun p => (p.1, shape p.2) := by
      rw [shapeAll_eq_map, Entry.sorted, Entry.sorted, List.map_mergeSort]
      exact fun _ _ _ _ => rfl
    rw [ordered_dir, shape, shape, ordered_dir, shapeAll_eq_map, hsort, List.map_map, List.map_map]
    congr 1
    refine List.map_congr_left fun p hp => ?_
    simp [ih p ((sorted_perm es).mem_iff.1 hp)]

theorem shapeAll_put {n : String} {x e : Entry} (hx : shape x = shape e) : ∀ {es : List (String × Entry)},
    lookup? n es = some e → shapeAll (Entry.put n x es) = shapeAll es
  | [], h => by cases h
  | (m, f) :: es, h => by
    unfold lookup? at h
    unfold Entry.put
    split
    · rename_i hm
      rw [if_pos hm] at h
      cases h
      rw [shapeAll, shapeAll, hx]
    · rename_i hm
      rw [if_neg hm] at h
      rw [shapeAll, shapeAll, shapeAll_put hx h]

theorem shape_set {c x : Content} : ∀ {loc : List String} {e : Entry}, e.at? loc = some (.file c) →
    shape (e.set (some (.file x)) loc) = shape e
  | [], _, h => by
    cases h
    rfl
  | _ :: _, .file _, h => by cases h
  | n :: loc, .dir es, h => by
    obtain ⟨e, hl, hc⟩ := Option.bind_eq_some_iff.1 h
    rw [Entry.set_cons, hl, Option.getD_some, shape, shape, shapeAll_put (shape_set hc) hl]

theorem isTree_of_shape {e : Entry} (he : (shape e).IsTree) : e.IsTree := by
  generalize hs : shape e = s at he
  induction he generalizing e with
  | file c =>
    cases e with
    | file c => exact .file c
    | dir es => cases hs
  | dir ss hd hn hb ih =>
    cases e with
    | file c => exact .file c
    | dir es =>
      rw [shape, shapeAll_eq_map] at hs
      cases hs
      refine .dir es ?_ (fun p hp => ?_) (fun p hp => ?_)
      · simpa [List.map_map, Function.comp_def] using hd
      · exact hn (p.1, shape p.2) (List.mem_map.2 ⟨p, hp, rfl⟩)
      · exact ih (p.1, shape p.2) (List.mem_map.2 ⟨p, hp, rfl⟩) rfl

theorem isTree_shape {e : Entry} (he : e.IsTree) : (shape e).IsTree := by
  induction he with
  | file c => exact .file _
  | dir es hd hn hb ih =>
    rw [shape, shapeAll_eq_map]
    refine .dir _ ?_ (fun p hp => ?_) (fun p hp => ?_)
    · simpa [List.map_map, Function.comp_def] using hd
    · obtain ⟨q, hq, rfl⟩ := List.mem_map.1 hp
      exact hn q hq
    · obtain ⟨q, hq, rfl⟩ := List.mem_map.1 hp
      exact ih q hq

theorem lookup?_shapeAll (n : String) : ∀ (es : List (String × Entry)),
    lookup? n (shapeAll es) = (lookup? n es).map shape
  | [] => rfl
  | (m, e) :: es => by
    rw [shapeAll, lookup?, lookup?, lookup?_shapeAll n es]
    split <;> rfl

theorem at?_shape : ∀ (ns : List String) (e : Entry), (shape e).at? ns = (e.at? ns).map shape
  | [], _ => rfl
  | _ :: _, .file _ => rfl
  | n :: ns, .dir es => by
    rw [shape, at?, at?, lookup?_shapeAll]
    cases lookup? n es with
    | none => rfl
    | some f => exact at?_shape ns f

theorem follow_shape (root : Entry) : ∀ (ps here : List String),
    Disk.follow (shape root) here ps = Disk.follow root here ps
  | [], _ => rfl
  | p :: ps, here => by
    rw [Disk.follow, Disk.follow, at?_shape]
    cases hat : root.at? here.reverse with
    | none => rfl
    | some f =>
      cases f with
      | file c => rfl
      | dir es =>
        simp only [Option.map_some, shape, lookup?_shapeAll, Option.isSome_map, follow_shape root ps]

end Scan
end DocReview
