import Mathlib.Data.List.Basic
import DocReview.Path
/-!
# Disk — directory trees and the paths into them

In a directory tree the names of a directory are distinct and each is one step of a path (`Entry.IsTree`).  A path into
a directory followed by a name leads to the entry of that name (`find_join`), and the paths of different lists of names
below one directory differ (`below_injective`).
-/
namespace DocReview

namespace Text

theorem splitOn_ne_nil (sep : Char) (cs : List Char) : splitOn sep cs ≠ [] := by
  cases cs with
  | nil => simp [splitOn]
  | cons c cs =>
    unfold splitOn
    split
    · simp
    · split <;> simp

theorem splitOn_append_sep (sep : Char) : ∀ (a b : List Char),
    splitOn sep (a ++ sep :: b) = splitOn sep a ++ splitOn sep b
  | [], b => by simp [splitOn]
  | c :: a, b => by
    rw [List.cons_append, splitOn, splitOn, splitOn_append_sep sep a b]
    split
    · rfl
    · cases h : splitOn sep a with
      | nil => exact absurd h (splitOn_ne_nil sep a)
      | cons l ls => rfl

theorem splitOn_of_not_mem (sep : Char) : ∀ (a : List Char), sep ∉ a → splitOn sep a = [a]
  | [], _ => rfl
  | c :: a, h => by
    rw [List.mem_cons, not_or] at h
    rw [splitOn, if_neg (Ne.symm h.1), splitOn_of_not_mem sep a h.2]

/-- What stands before the first separator belongs to the first piece. -/
theorem splitOn_append_of_not_mem (sep : Char) {post after : List Char} {rest : List (List Char)}
    (h : splitOn sep post = after :: rest) : ∀ {a : List Char}, sep ∉ a → splitOn sep (a ++ post) = (a ++ after) :: rest
  | [], _ => h
  | c :: a, hc => by
    rw [List.mem_cons, not_or] at hc
    rw [List.cons_append, splitOn, if_neg (Ne.symm hc.1), splitOn_append_of_not_mem sep h hc.2]
    rfl

theorem not_mem_of_splitOn {sep : Char} : ∀ {cs l : List Char}, l ∈ splitOn sep cs → sep ∉ l
  | [], l, h => by
    rw [splitOn, List.mem_singleton] at h
    rw [h]
    exact List.not_mem_nil
  | c :: cs, l, h => by
    rw [splitOn] at h
    split at h
    · rcases List.mem_cons.1 h with rfl | h
      · exact List.not_mem_nil
      · exact not_mem_of_splitOn h
    · rename_i hc
      cases hl : splitOn sep cs with
      | nil => exact absurd hl (splitOn_ne_nil sep cs)
      | cons m ms =>
        rw [hl] at h
        rcases List.mem_cons.1 h with rfl | h
        · rw [List.mem_cons, not_or]
          exact ⟨Ne.symm hc, not_mem_of_splitOn (hl ▸ List.mem_cons_self)⟩
        · exact not_mem_of_splitOn (hl ▸ List.mem_cons_of_mem _ h)

theorem joinWith_splitOn (sep : Char) : ∀ cs : List Char, joinWith [sep] (splitOn sep cs) = cs
  | [] => rfl
  | c :: cs => by
    have hrest := joinWith_splitOn sep cs
    rw [splitOn]
    cases hl : splitOn sep cs with
    | nil => exact absurd hl (splitOn_ne_nil sep cs)
    | cons l ls =>
      rw [hl] at hrest
      split
      · rename_i hc
        rw [hc, ← hrest]
        rfl
      · rw [← hrest]
        cases ls with
        | nil => rfl
        | cons m ms => rfl

theorem splitOn_joinWith (sep : Char) : ∀ (ls : List (List Char)), ls ≠ [] → (∀ l ∈ ls, sep ∉ l) →
    splitOn sep (joinWith [sep] ls) = ls
  | [], h, _ => absurd rfl h
  | [l], _, hl => splitOn_of_not_mem sep l (hl l List.mem_cons_self)
  | l :: m :: ls, _, hl => by
    rw [joinWith, List.append_assoc]
    · rw [List.singleton_append, splitOn_append_sep, splitOn_of_not_mem sep l (hl l List.mem_cons_self),
        splitOn_joinWith sep (m :: ls) (by simp) (fun k hk => hl k (List.mem_cons_of_mem _ hk))]
      rfl
    · simp

end Text

namespace Entry

/-- A name that is one step of a path. -/
structure IsName (n : String) : Prop where
  not_empty : n ≠ ""
  not_here : n ≠ "."
  not_up : n ≠ ".."
  no_slash : '/' ∉ n.toList

/-- **A directory tree**: the names of each directory are distinct, and each is one step of a path. -/
inductive IsTree : Entry → Prop where
  | file (c : Content) : IsTree (.file c)
  | dir (es : List (String × Entry)) (distinct : (es.map Prod.fst).Nodup) (names : ∀ p ∈ es, IsName p.1)
      (below : ∀ p ∈ es, IsTree p.2) : IsTree (.dir es)

theorem IsTree.dir_iff {es : List (String × Entry)} :
    IsTree (.dir es) ↔ (es.map Prod.fst).Nodup ∧ (∀ p ∈ es, IsName p.1) ∧ ∀ p ∈ es, IsTree p.2 :=
  ⟨fun h => by cases h with | dir _ hd hn hb => exact ⟨hd, hn, hb⟩, fun h => .dir es h.1 h.2.1 h.2.2⟩

theorem mem_of_lookup? {n : String} {e : Entry} : ∀ {es : List (String × Entry)}, lookup? n es = some e → (n, e) ∈ es
  | [], h => by cases h
  | (m, f) :: es, h => by
    unfold lookup? at h
    split at h
    · rename_i hm
      cases h
      rw [hm]
      exact List.mem_cons_self
    · exact List.mem_cons_of_mem _ (mem_of_lookup? h)

theorem lookup?_of_mem {n : String} {e : Entry} : ∀ {es : List (String × Entry)}, (es.map Prod.fst).Nodup →
    (n, e) ∈ es → lookup? n es = some e
  | [], _, h => by cases h
  | (m, f) :: es, hd, h => by
    rw [List.map_cons, List.nodup_cons] at hd
    unfold lookup?
    rcases List.mem_cons.1 h with heq | hmem
    · cases heq
      rw [if_pos rfl]
    · have hne : m ≠ n := fun hmn => hd.1 (hmn ▸ List.mem_map.2 ⟨(n, e), hmem, rfl⟩)
      rw [if_neg hne]
      exact lookup?_of_mem hd.2 hmem

theorem at?_append : ∀ (ns ms : List String) (e : Entry), at? (ns ++ ms) e = (at? ns e).bind (at? ms)
  | [], _, _ => rfl
  | n :: ns, ms, .dir es => by
    rw [List.cons_append, at?, at?, Option.bind_assoc]
    congr 1
    funext e
    exact at?_append ns ms e
  | _ :: _, _, .file _ => rfl

theorem at?_singleton (n : String) (es : List (String × Entry)) : at? [n] (.dir es) = lookup? n es := by
  unfold at?
  cases lookup? n es <;> rfl

/-! ## Putting an entry in the place of another -/

theorem lookup?_put_self {n : String} {x : Entry} : ∀ (es : List (String × Entry)), lookup? n (put n x es) = some x
  | [] => by simp [put, lookup?]
  | (m, f) :: es => by
    unfold put
    split
    · rename_i h
      simp [lookup?, h]
    · rename_i h
      simp [lookup?, h, lookup?_put_self es]

theorem lookup?_put_of_ne {n m : String} {x : Entry} (hne : m ≠ n) : ∀ (es : List (String × Entry)),
    lookup? m (put n x es) = lookup? m es
  | [] => by simp [put, lookup?, Ne.symm hne]
  | (k, f) :: es => by
    unfold put
    split
    · rename_i h
      simp [lookup?, h, Ne.symm hne]
    · simp [lookup?, lookup?_put_of_ne hne es]

theorem put_put {n : String} {e f : Entry} : ∀ (es : List (String × Entry)), put n e (put n f es) = put n e es
  | [] => by simp [put]
  | (m, g) :: es => by
    by_cases h : m = n
    · simp [put, h]
    · simp [put, h, put_put es]

theorem put_of_lookup? {n : String} {e : Entry} : ∀ {es : List (String × Entry)}, lookup? n es = some e → put n e es = es
  | [], h => by cases h
  | (m, f) :: es, h => by
    unfold lookup? at h
    unfold put
    split at h
    · rename_i hm
      cases h
      rw [if_pos hm, hm]
    · rename_i hm
      rw [if_neg hm, put_of_lookup? h]

theorem set_cons (f : Entry) (n : String) (ns : List String) (es : List (String × Entry)) :
    set (some f) (n :: ns) (.dir es) = .dir (put n (set (some f) ns ((lookup? n es).getD (.dir []))) es) := by
  cases ns <;> rfl

theorem at?_set_self {f : Entry} : ∀ {loc : List String} {e g : Entry}, e.at? loc = some g →
    (set (some f) loc e).at? loc = some f
  | [], _, _, _ => rfl
  | _ :: _, .file _, _, h => by cases h
  | n :: ns, .dir es, g, h => by
    obtain ⟨e, hl, hg⟩ := Option.bind_eq_some_iff.1 h
    rw [set_cons, hl, at?, lookup?_put_self]
    exact at?_set_self hg

/-- **A file put in the place of another leaves all other files as they are.** -/
theorem at?_set_of_ne {f : Entry} : ∀ {loc ns : List String} {e : Entry} {c x : Content}, ns ≠ loc →
    e.at? loc = some (.file c) → e.at? ns = some (.file x) → (set (some f) loc e).at? ns = some (.file x)
  | [], [], _, _, _, hne, _, _ => absurd rfl hne
  | [], _ :: _, _, _, _, _, hc, hx => by
    cases hc
    cases hx
  | _ :: _, _, .file _, _, _, _, hc, _ => by cases hc
  | _ :: _, [], .dir _, _, _, _, _, hx => by cases hx
  | n :: loc, m :: ns, .dir es, c, x, hne, hc, hx => by
    obtain ⟨e, hl, hc'⟩ := Option.bind_eq_some_iff.1 hc
    rw [set_cons, hl, at?]
    by_cases hmn : m = n
    · subst hmn
      rw [at?, hl] at hx
      rw [lookup?_put_self]
      exact at?_set_of_ne (fun h => hne (by rw [h])) hc' hx
    · rw [lookup?_put_of_ne hmn]
      exact hx

theorem set_set {f g : Entry} : ∀ {loc : List String} {e x : Entry}, e.at? loc = some x →
    set (some f) loc (set (some g) loc e) = set (some f) loc e
  | [], _, _, _ => rfl
  | _ :: _, .file _, _, h => by cases h
  | n :: loc, .dir es, x, h => by
    obtain ⟨e, hl, hx⟩ := Option.bind_eq_some_iff.1 h
    rw [set_cons, set_cons, set_cons, lookup?_put_self, put_put, hl, Option.getD_some, Option.getD_some, set_set hx]

theorem set_of_at? {f : Entry} : ∀ {loc : List String} {e : Entry}, e.at? loc = some f → set (some f) loc e = e
  | [], _, h => by
    cases h
    rfl
  | _ :: _, .file _, h => by cases h
  | n :: loc, .dir es, h => by
    obtain ⟨e, hl, hf⟩ := Option.bind_eq_some_iff.1 h
    rw [set_cons, hl, Option.getD_some, set_of_at? hf, put_of_lookup? hl]

/-- **A file put in the place of another is the only one that differs.** -/
theorem at?_set_iff_of_ne {loc ns : List String} {e : Entry} {c y x : Content} (hne : ns ≠ loc)
    (hc : e.at? loc = some (.file c)) :
    (set (some (.file y)) loc e).at? ns = some (.file x) ↔ e.at? ns = some (.file x) := by
  refine ⟨fun h => ?_, at?_set_of_ne hne hc⟩
  -- the old file, put back, leaves it as well
  have hback := at?_set_of_ne (f := .file c) hne (at?_set_self hc) h
  rwa [set_set hc, set_of_at? hc] at hback

theorem IsTree.of_at? : ∀ {ns : List String} {e f : Entry}, e.IsTree → e.at? ns = some f →
    f.IsTree ∧ ∀ n ∈ ns, IsName n
  | [], e, f, he, h => by
    cases h
    exact ⟨he, fun _ hn => by cases hn⟩
  | n :: ns, .file _, f, _, h => by cases h
  | n :: ns, .dir es, f, he, h => by
    obtain ⟨g, hg, hf⟩ := Option.bind_eq_some_iff.1 h
    obtain ⟨-, hnames, hbelow⟩ := IsTree.dir_iff.1 he
    have hmem := mem_of_lookup? hg
    obtain ⟨ht, hns⟩ := of_at? (hbelow _ hmem) hf
    refine ⟨ht, fun m hm => ?_⟩
    rcases List.mem_cons.1 hm with rfl | hm
    · exact hnames _ hmem
    · exact hns m hm

end Entry

namespace Disk

open Entry (at? lookup? IsName)

/-! ## Following a path -/

theorem follow_append (root : Entry) : ∀ (ps qs here : List String),
    follow root here (ps ++ qs) = (follow root here ps).bind fun h => follow root h qs
  | [], _, _ => rfl
  | p :: ps, qs, here => by
    rw [List.cons_append, follow, follow]
    split
    · split
      · exact follow_append root ps qs here
      · split
        · exact follow_append root ps qs here.tail
        · split
          · exact follow_append root ps qs (p :: here)
          · rfl
    · rfl
    · rfl

theorem follow_name {root : Entry} {here : List String} {es : List (String × Entry)} {n : String} {e : Entry}
    (hdir : root.at? here.reverse = some (.dir es)) (hn : IsName n) (he : lookup? n es = some e) :
    follow root here [n] = .ok (n :: here) := by
  simp only [follow, hdir]
  rw [if_neg (not_or.2 ⟨hn.not_empty, hn.not_here⟩), if_neg hn.not_up, if_pos (by rw [he]; rfl)]

theorem find_eq_ok_iff {d : Disk} {path : String} {e : Entry} :
    d.find path = .ok e ↔ ∃ names, d.locate path = .ok names ∧ d.root.at? names = some e := by
  unfold find
  cases hl : d.locate path with
  | error f => simp [bind, Except.bind]
  | ok names =>
    cases ha : d.root.at? names with
    | none => simp [bind, Except.bind, ha, throw, throwThe, MonadExceptOf.throw]
    | some f => simp [bind, Except.bind, ha, pure, Except.pure]

theorem locate_eq_ok_iff {d : Disk} {path : String} {names : List String} :
    d.locate path = .ok names ↔
      path ≠ "" ∧ path.toList.head? ≠ some '/' ∧ follow d.root [] (parts path) = .ok names.reverse := by
  unfold locate
  split
  · rename_i h
    simp only [reduceCtorEq, ne_eq, false_iff, not_and]
    intro h1 h2
    exact absurd h (not_or.2 ⟨h1, h2⟩)
  · rename_i h
    rw [not_or] at h
    cases hf : follow d.root [] (parts path) with
    | error f => simp [Except.map]
    | ok here =>
      simp only [Except.map, Except.ok.injEq, ne_eq, h, not_false_eq_true, true_and]
      exact ⟨fun hh => by rw [← hh, List.reverse_reverse], fun hh => by rw [hh, List.reverse_reverse]⟩

end Disk

namespace Path

open Entry (IsName)

/-- The text of a directory's path up to where a name is put. -/
def opened (dir : String) : List Char :=
  if dir = "" ∨ dir.toList.getLast? = some '/' then dir.toList else dir.toList ++ ['/']

theorem toList_join (dir name : String) : (join dir name).toList = opened dir ++ name.toList := by
  unfold join opened
  split <;> simp

/-- The path that leads from a directory along names. -/
def below (dir : String) (names : List String) : String := names.foldl join dir

theorem below_cons (dir n : String) (ns : List String) : below dir (n :: ns) = below (join dir n) ns := rfl

theorem opened_join {dir n : String} (hn : IsName n) : opened (join dir n) = opened dir ++ n.toList ++ ['/'] := by
  have hne : n.toList ≠ [] := fun h => hn.not_empty (String.toList_inj.1 (by simpa using h))
  have hlast : (join dir n).toList.getLast? ≠ some '/' := by
    rw [toList_join, List.getLast?_append_of_ne_nil _ hne]
    exact fun h => hn.no_slash (List.mem_of_getLast? h)
  have hempty : join dir n ≠ "" := fun h => by
    have := toList_join dir n
    rw [h] at this
    exact hne (List.append_eq_nil_iff.1 this.symm).2
  rw [opened, if_neg (not_or.2 ⟨hempty, hlast⟩), toList_join]

theorem toList_below : ∀ (dir : String) (ns : List String), ns ≠ [] → (∀ n ∈ ns, IsName n) →
    (below dir ns).toList = opened dir ++ Text.joinWith ['/'] (ns.map String.toList)
  | _, [], h, _ => absurd rfl h
  | dir, [n], _, _ => by
    rw [below_cons]
    exact toList_join dir n
  | dir, n :: m :: ns, _, hns => by
    rw [below_cons, toList_below (join dir n) (m :: ns) (by simp) (fun k hk => hns k (List.mem_cons_of_mem _ hk)),
      opened_join (hns n List.mem_cons_self)]
    simp [Text.joinWith]

theorem slashless {ks : List String} (h : ∀ k ∈ ks, IsName k) : ∀ l ∈ ks.map String.toList, '/' ∉ l := by
  intro l hl
  obtain ⟨k, hk, rfl⟩ := List.mem_map.1 hl
  exact (h k hk).no_slash

theorem map_toList_injective {ns ms : List String} (h : ns.map String.toList = ms.map String.toList) : ns = ms :=
  List.map_injective_iff.2 (fun _ _ hab => String.toList_inj.1 hab) h

/-- **Different lists of names below a directory have different paths.** -/
theorem below_injective {dir : String} {ns ms : List String} (hns : ns ≠ []) (hms : ms ≠ [])
    (hn : ∀ n ∈ ns, IsName n) (hm : ∀ m ∈ ms, IsName m) (h : below dir ns = below dir ms) : ns = ms := by
  have hjoin : Text.joinWith ['/'] (ns.map String.toList) = Text.joinWith ['/'] (ms.map String.toList) := by
    have := congrArg String.toList h
    rw [toList_below dir ns hns hn, toList_below dir ms hms hm] at this
    exact List.append_cancel_left this
  apply map_toList_injective
  rw [← Text.splitOn_joinWith '/' _ (by simpa using hns) (slashless hn), hjoin,
    Text.splitOn_joinWith '/' _ (by simpa using hms) (slashless hm)]

/-- A path that starts with that of a directory and a slash goes on below that directory. -/
theorem names_of_prefix {dir : String} {ks ns : List String} (hks : ks ≠ []) (hns : ns ≠ [])
    (hk : ∀ k ∈ ks, IsName k) (hn : ∀ n ∈ ns, IsName n)
    (h : (below dir ks ++ "/").toList <+: (below dir ns).toList) : ∃ more, more ≠ [] ∧ ns = ks ++ more := by
  obtain ⟨t, ht⟩ := h
  rw [String.toList_append, toList_below dir ks hks hk, toList_below dir ns hns hn, List.append_assoc,
    List.append_assoc] at ht
  have hjoin := List.append_cancel_left ht
  have hsplit : ns.map String.toList = ks.map String.toList ++ Text.splitOn '/' t := by
    rw [← Text.splitOn_joinWith '/' _ (by simpa using hns) (slashless hn), ← hjoin,
      show "/".toList ++ t = '/' :: t from rfl, Text.splitOn_append_sep,
      Text.splitOn_joinWith '/' _ (by simpa using hks) (slashless hk)]
  refine ⟨(Text.splitOn '/' t).map String.ofList, by simpa using Text.splitOn_ne_nil '/' t, ?_⟩
  apply map_toList_injective
  rw [hsplit, List.map_append, List.map_map]
  congr 1
  simp

end Path

namespace Disk

open Entry (at? lookup? IsName)

theorem parts_join {dir n : String} (hn : IsName n) (hdir : dir ≠ "") :
    parts (Path.join dir n) = (if dir.toList.getLast? = some '/' then (parts dir).dropLast else parts dir) ++ [n] := by
  have hsplit : Text.splitOn '/' n.toList = [n.toList] := Text.splitOn_of_not_mem '/' _ hn.no_slash
  unfold parts
  rw [Path.toList_join, Path.opened]
  by_cases hl : dir.toList.getLast? = some '/'
  · obtain ⟨r, hr⟩ := List.getLast?_eq_some_iff.1 hl
    rw [if_pos (Or.inr hl), if_pos hl, hr, List.append_assoc, List.singleton_append, Text.splitOn_append_sep,
      Text.splitOn_append_sep, hsplit]
    simp [Text.splitOn]
  · rw [if_neg (not_or.2 ⟨hdir, hl⟩), if_neg hl, List.append_assoc, List.singleton_append, Text.splitOn_append_sep,
      hsplit]
    simp

/-- **A directory's path followed by a name leads to the entry of that name.** -/
theorem locate_join {d : Disk} {dir n : String} {names : List String} {es : List (String × Entry)} {e : Entry}
    (hl : d.locate dir = .ok names) (hd : d.root.at? names = some (.dir es)) (hn : IsName n)
    (he : lookup? n es = some e) : d.locate (Path.join dir n) = .ok (names ++ [n]) := by
  obtain ⟨hne, hhead, hf⟩ := locate_eq_ok_iff.1 hl
  have hdne : dir.toList ≠ [] := fun h => hne (String.toList_inj.1 (by simpa using h))
  have hstep : follow d.root names.reverse [n] = .ok (n :: names.reverse) :=
    follow_name (by rw [List.reverse_reverse]; exact hd) hn he
  rw [locate_eq_ok_iff]
  refine ⟨fun h => ?_, fun h => hhead ?_, ?_⟩
  · have := congrArg String.toList h
    rw [Path.toList_join] at this
    exact hn.not_empty (String.toList_inj.1 (by simpa using (List.append_eq_nil_iff.1 this).2))
  · rw [Path.toList_join, Path.opened] at h
    split at h
    · rwa [List.head?_append_of_ne_nil _ hdne] at h
    · rwa [List.append_assoc, List.head?_append_of_ne_nil _ hdne] at h
  · rw [parts_join hn hne, follow_append]
    have hbase : follow d.root [] (if dir.toList.getLast? = some '/' then (parts dir).dropLast else parts dir)
        = .ok names.reverse := by
      split
      · -- the last part is empty, and an empty part stays where it is
        rename_i hslash
        obtain ⟨r, hr⟩ := List.getLast?_eq_some_iff.1 hslash
        have hparts : parts dir = (Text.splitOn '/' r).map String.ofList ++ [""] := by
          unfold parts
          rw [hr, Text.splitOn_append_sep]
          simp [Text.splitOn]
        rw [hparts, List.dropLast_concat]
        rw [hparts, follow_append] at hf
        cases hr' : follow d.root [] ((Text.splitOn '/' r).map String.ofList) with
        | error f => rw [hr'] at hf; cases hf
        | ok here =>
          rw [hr'] at hf
          simp only [Except.bind, follow] at hf
          split at hf
          · simpa using hf
          · cases hf
          · cases hf
      · exact hf
    rw [hbase]
    simpa [Except.bind] using hstep

theorem find_join {d : Disk} {dir n : String} {es : List (String × Entry)} {e : Entry}
    (hd : d.find dir = .ok (.dir es)) (hn : IsName n) (he : lookup? n es = some e) :
    d.find (Path.join dir n) = .ok e := by
  obtain ⟨names, hl, ha⟩ := find_eq_ok_iff.1 hd
  refine find_eq_ok_iff.2 ⟨names ++ [n], locate_join hl ha hn he, ?_⟩
  rw [Entry.at?_append, ha]
  simp [at?, he]

/-- **A path along names below a directory leads to what the names lead to.** -/
theorem locate_below {d : Disk} : ∀ {ns : List String} {dir : String} {names : List String} {e f : Entry},
    d.locate dir = .ok names → d.root.at? names = some e → e.IsTree → e.at? ns = some f →
    d.locate (Path.below dir ns) = .ok (names ++ ns)
  | [], _, _, _, _, hl, _, _, _ => by rw [List.append_nil]; exact hl
  | _ :: _, _, _, .file _, _, _, _, _, h => by cases h
  | n :: ns, dir, names, .dir es, f, hl, ha, he, h => by
    obtain ⟨g, hg, hf⟩ := Option.bind_eq_some_iff.1 h
    obtain ⟨-, hnames, hbelow⟩ := Entry.IsTree.dir_iff.1 he
    have hmem := Entry.mem_of_lookup? hg
    have hl' := locate_join hl ha (hnames _ hmem) hg
    have ha' : d.root.at? (names ++ [n]) = some g := by
      rw [Entry.at?_append, ha]
      simp [at?, hg]
    rw [Path.below_cons, locate_below hl' ha' (hbelow _ hmem) hf, List.append_assoc, List.singleton_append]

theorem find_below {d : Disk} {dir : String} {ns : List String} {e f : Entry} (hd : d.find dir = .ok e)
    (he : e.IsTree) (h : e.at? ns = some f) : d.find (Path.below dir ns) = .ok f := by
  obtain ⟨names, hl, ha⟩ := find_eq_ok_iff.1 hd
  refine find_eq_ok_iff.2 ⟨names ++ ns, locate_below hl ha he h, ?_⟩
  rw [Entry.at?_append, ha]
  exact h

end Disk
end DocReview
