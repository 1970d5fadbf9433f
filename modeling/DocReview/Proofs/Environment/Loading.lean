import Mathlib.Data.List.Induction
import DocReview.Environment.Load
import DocReview.Proofs.Environment.Spelling
/-!
# Loading — a file adds to the environment, and adds once

The pairs of a file stand for values one after the other: the last pair of a key counts, with its references replaced by
what the names stand for before it (`standing`), where a variable of the environment comes first (`inScope`).  The keys
that loading resolves have these values (`lookup?_resolved`), and those that the environment lacks get them
(`setAll_eq`).  Whether a key has a value at all does not depend on the environment (`standing_some`), so that a second
load finds nothing to add (`load_only_adds`).
-/
namespace DocReview
namespace Environment

/-! ## Keys and their values -/

section Lookup

variable {α : Type} {key : String}

theorem lookup?_append : ∀ (l m : List (String × α)), lookup? key (l ++ m) = (lookup? key l).or (lookup? key m)
  | [], _ => rfl
  | (k, v) :: l, m => by
    rw [List.cons_append, lookup?, lookup?, lookup?_append l m]
    by_cases hk : k = key
    · simp [hk]
    · simp [hk]

theorem lookup?_assign (k : String) (v : α) : ∀ (l : List (String × α)),
    lookup? key (assign k v l) = if k = key then some v else lookup? key l
  | [] => rfl
  | (j, w) :: l => by
    rw [assign]
    by_cases hj : j = k
    · subst hj
      by_cases hk : j = key <;> simp [lookup?, hk]
    · rw [if_neg hj, lookup?, lookup?_assign k v l, lookup?]
      by_cases hk : j = key
      · have hne : k ≠ key := fun h => hj (hk.trans h.symm)
        simp [hk, hne]
      · simp [hk]

theorem lookup?_eq_none : ∀ {l : List (String × α)}, key ∉ l.map Prod.fst → lookup? key l = none
  | [], _ => rfl
  | (k, v) :: l, h => by
    rw [List.map_cons, List.mem_cons, not_or] at h
    rw [lookup?, if_neg (Ne.symm h.1), lookup?_eq_none h.2]

theorem mem_of_lookup? {v : α} : ∀ {l : List (String × α)}, lookup? key l = some v → (key, v) ∈ l
  | [], h => by cases h
  | (k, w) :: l, h => by
    rw [lookup?] at h
    split at h
    · rename_i hk
      cases h
      rw [hk]
      exact List.mem_cons_self
    · exact List.mem_cons_of_mem _ (mem_of_lookup? h)

theorem lookup?_of_mem {v : α} : ∀ {l : List (String × α)}, (l.map Prod.fst).Nodup → (key, v) ∈ l →
    lookup? key l = some v
  | [], _, h => by cases h
  | (k, w) :: l, hd, h => by
    rw [List.map_cons, List.nodup_cons] at hd
    rcases List.mem_cons.1 h with heq | hmem
    · cases heq
      rw [lookup?, if_pos rfl]
    · have hne : k ≠ key := by
        rintro rfl
        exact hd.1 (List.mem_map.2 ⟨_, hmem, rfl⟩)
      rw [lookup?, if_neg hne, lookup?_of_mem hd.2 hmem]

theorem mem_keys_assign {k : String} {v : α} : ∀ {l : List (String × α)}, key ∈ (assign k v l).map Prod.fst →
    key = k ∨ key ∈ l.map Prod.fst
  | [], h => Or.inl (by simpa [assign] using h)
  | (j, w) :: l, h => by
    rw [assign] at h
    split at h
    · exact Or.inr h
    · rw [List.map_cons, List.mem_cons] at h
      rcases h with h | h
      · exact Or.inr (by simp [h])
      · exact (mem_keys_assign h).imp id (List.mem_cons_of_mem _)

theorem nodup_assign {k : String} {v : α} : ∀ {l : List (String × α)}, (l.map Prod.fst).Nodup →
    ((assign k v l).map Prod.fst).Nodup
  | [], _ => by simp [assign]
  | (j, w) :: l, h => by
    rw [assign]
    split
    · exact h
    · rename_i hj
      rw [List.map_cons, List.nodup_cons] at h ⊢
      refine ⟨fun hmem => ?_, nodup_assign h.2⟩
      rcases mem_keys_assign hmem with heq | hmem
      · exact hj heq
      · exact h.1 hmem

end Lookup

/-! ## What the pairs of a file stand for -/

section Standing

variable {env : Variables} {key : String} {pairs before after : List (String × Option String)}

/-- What a key stands for after some pairs, the last of them first. -/
def standingFrom (env : Variables) : List (String × Option String) → String → Option (Option String)
  | [], _ => none
  | (k, v) :: before, key =>
    if k = key then some (v.map (resolve fun name => ((lookup? name env).map some).or (standingFrom env before name)))
    else standingFrom env before key

/-- What a key stands for after the pairs of a file: the value of the last pair with the key, if it has one, with its
references replaced by what the names stand for before that pair. -/
def standing (env : Variables) (pairs : List (String × Option String)) (key : String) : Option (Option String) :=
  standingFrom env pairs.reverse key

/-- What a name in a reference stands for after some pairs: a variable of the environment, or else what the pairs say. -/
def inScope (env : Variables) (before : List (String × Option String)) (name : String) : Option (Option String) :=
  ((lookup? name env).map some).or (standing env before name)

/-- The last pair with a key stands after the pairs `before`, and has a value or none. -/
def IsLast (key : String) (before : List (String × Option String)) (value : Option String)
    (pairs : List (String × Option String)) : Prop :=
  ∃ after, pairs = before ++ (key, value) :: after ∧ key ∉ after.map Prod.fst

theorem exists_isLast : ∀ {pairs : List (String × Option String)}, key ∈ pairs.map Prod.fst →
    ∃ before value, IsLast key before value pairs
  | [], h => by cases h
  | (k, v) :: pairs, h => by
    by_cases hmem : key ∈ pairs.map Prod.fst
    · obtain ⟨before, value, after, rfl, hafter⟩ := exists_isLast hmem
      exact ⟨(k, v) :: before, value, after, rfl, hafter⟩
    · have hk : key = k := by simpa [hmem] using h
      subst hk
      exact ⟨[], v, pairs, rfl, hmem⟩

theorem standing_concat (k : String) (v : Option String) :
    standing env (before ++ [(k, v)]) key =
      if k = key then some (v.map (resolve (inScope env before))) else standing env before key := by
  unfold standing
  rw [List.reverse_append]
  rfl

theorem standing_append (h : key ∉ after.map Prod.fst) :
    standing env (before ++ after) key = standing env before key := by
  induction after using List.reverseRecOn with
  | nil => rw [List.append_nil]
  | append_singleton after p ih =>
    rw [List.map_append, List.mem_append, not_or] at h
    have hp : p.1 ≠ key := fun heq => h.2 (by simp [heq])
    rw [← List.append_assoc, standing_concat, if_neg hp, ih h.1]

theorem standing_of_isLast {value : Option String} (h : IsLast key before value pairs) :
    standing env pairs key = some (value.map (resolve (inScope env before))) := by
  obtain ⟨after, rfl, hafter⟩ := h
  rw [List.append_cons, standing_append hafter, standing_concat, if_pos rfl]

theorem isLast_of_standing {value : Option String} (h : standing env pairs key = some value) :
    ∃ before raw, IsLast key before raw pairs ∧ value = raw.map (resolve (inScope env before)) := by
  by_cases hmem : key ∈ pairs.map Prod.fst
  · obtain ⟨before, raw, hlast⟩ := exists_isLast hmem
    rw [standing_of_isLast hlast] at h
    exact ⟨before, raw, hlast, (Option.some.inj h).symm⟩
  · have hnone : standing env ([] ++ pairs) key = standing env [] key := standing_append hmem
    rw [List.nil_append] at hnone
    rw [hnone] at h
    cases h

/-- **Whether a key has a value does not depend on the environment.** -/
theorem standing_some {value : String} (h : standing env pairs key = some (some value)) (env' : Variables) :
    ∃ value', standing env' pairs key = some (some value') := by
  obtain ⟨before, raw, hlast, hvalue⟩ := isLast_of_standing h
  cases raw with
  | none => cases hvalue
  | some raw => exact ⟨_, standing_of_isLast hlast⟩

theorem lookup?_resolved (env : Variables) (pairs : List (String × Option String)) (key : String) :
    lookup? key (resolved env pairs) = standing env pairs key := by
  induction pairs using List.reverseRecOn generalizing key with
  | nil => rfl
  | append_singleton before p ih =>
    have hscope : meaning env (resolved env before) = inScope env before := by
      funext name
      rw [meaning, inScope, ← ih name]
      cases lookup? name env <;> rfl
    have hstep : resolved env (before ++ [p]) =
        assign p.1 (p.2.map (resolve (meaning env (resolved env before)))) (resolved env before) :=
      List.foldl_append ..
    rw [hstep, lookup?_assign, standing_concat, hscope, ih key]

theorem nodup_resolved (env : Variables) (pairs : List (String × Option String)) :
    ((resolved env pairs).map Prod.fst).Nodup := by
  induction pairs using List.reverseRecOn with
  | nil => exact List.nodup_nil
  | append_singleton before p ih =>
    unfold resolved
    rw [List.foldl_append]
    exact nodup_assign ih

end Standing

/-! ## What can be set -/

/-- A variable that can be set: there is no null character in it, and no equals sign in its name. -/
structure Settable (key value : String) : Prop where
  name_null : '\x00' ∉ key.toList
  name_equals : '=' ∉ key.toList
  value_null : '\x00' ∉ value.toList

instance (key value : String) : Decidable (Settable key value) :=
  decidable_of_iff ('\x00' ∉ key.toList ∧ '=' ∉ key.toList ∧ '\x00' ∉ value.toList)
    ⟨fun h => ⟨h.1, h.2.1, h.2.2⟩, fun h => ⟨h.name_null, h.name_equals, h.value_null⟩⟩

theorem settingFault?_eq_none {key value : String} (h : Settable key value) : settingFault? key value = none := by
  have hnull : ∀ {cs : List Char}, '\x00' ∉ cs → cs.any (fun c => decide (c = '\x00')) = false := by
    intro cs hcs
    rw [List.any_eq_false]
    intro c hc
    rw [decide_eq_true_eq]
    rintro rfl
    exact hcs hc
  unfold settingFault?
  dsimp only
  rw [hnull h.name_null, hnull h.value_null, if_neg (by simp), if_neg (by simpa using h.name_equals)]

theorem settable_standing {env : Variables} (henv : ∀ p ∈ env, Settable p.1 p.2)
    {pairs : List (String × Option String)} (hpairs : ∀ key value, (key, some value) ∈ pairs → Settable key value)
    {key value : String} (h : standing env pairs key = some (some value)) : Settable key value := by
  induction pairs using List.reverseRecOn generalizing key value with
  | nil => cases h
  | append_singleton before p ih =>
    have hbefore : ∀ key value, (key, some value) ∈ before → Settable key value := fun key value hmem =>
      hpairs key value (List.mem_append_left _ hmem)
    obtain ⟨k, raw⟩ := p
    rw [standing_concat] at h
    split at h
    · rename_i hk
      subst hk
      obtain ⟨text, rfl, rfl⟩ := Option.map_eq_some_iff.1 (Option.some.inj h)
      have htext : Settable k text := hpairs k text (by simp)
      refine ⟨htext.name_null, htext.name_equals, fun hnull => ?_⟩
      rcases mem_resolve hnull with hown | ⟨name, other, hscope, hother⟩
      · exact htext.value_null hown
      · -- a name stands for a variable of the environment or for a value of the file
        rcases Option.or_eq_some_iff.1 hscope with hvariable | ⟨-, hfile⟩
        · obtain ⟨v, hv, hsome⟩ := Option.map_eq_some_iff.1 hvariable
          cases hsome
          exact (henv _ (mem_of_lookup? hv)).value_null hother
        · exact (ih hbefore hfile).value_null hother
    · exact ih hbefore h

/-- **Setting variables** that can be set has no fault: those that are there stay, and the others get the values of their
keys. -/
theorem setAll_eq : ∀ (env : Variables) {l : List (String × Option String)}, (l.map Prod.fst).Nodup →
    (∀ key value, (key, some value) ∈ l → Settable key value) →
    (setAll env l).2 = none ∧ ∀ key, lookup? key (setAll env l).1 = (lookup? key env).or (lookup? key l).join
  | env, [], _, _ => ⟨rfl, fun key => by simp [setAll, lookup?]⟩
  | env, (k, none) :: l, hd, hl => by
    rw [List.map_cons, List.nodup_cons] at hd
    obtain ⟨hfault, hlookup⟩ := setAll_eq env hd.2 fun key value h => hl key value (List.mem_cons_of_mem _ h)
    refine ⟨hfault, fun key => ?_⟩
    rw [setAll, hlookup key, lookup?]
    by_cases hk : k = key
    · subst hk
      rw [lookup?_eq_none hd.1, if_pos rfl]
      rfl
    · rw [if_neg hk]
  | env, (k, some v) :: l, hd, hl => by
    rw [List.map_cons, List.nodup_cons] at hd
    have hrest : ∀ key value, (key, some value) ∈ l → Settable key value := fun key value h =>
      hl key value (List.mem_cons_of_mem _ h)
    rw [setAll]
    by_cases hpresent : (lookup? k env).isSome
    · obtain ⟨hfault, hlookup⟩ := setAll_eq env hd.2 hrest
      rw [if_pos hpresent]
      refine ⟨hfault, fun key => ?_⟩
      rw [hlookup key, lookup?]
      by_cases hk : k = key
      · subst hk
        obtain ⟨w, hw⟩ := Option.isSome_iff_exists.1 hpresent
        simp [hw]
      · rw [if_neg hk]
    · obtain ⟨hfault, hlookup⟩ := setAll_eq (env ++ [(k, v)]) hd.2 hrest
      rw [if_neg hpresent, settingFault?_eq_none (hl k v List.mem_cons_self)]
      refine ⟨hfault, fun key => ?_⟩
      change lookup? key (setAll (env ++ [(k, v)]) l).1 = _
      rw [hlookup key, lookup?_append, lookup?, lookup?]
      by_cases hk : k = key
      · subst hk
        rw [Option.not_isSome_iff_eq_none] at hpresent
        simp [hpresent, lookup?]
      · simp [hk, lookup?]

theorem setAll_of_present {env : Variables} : ∀ {l : List (String × Option String)},
    (∀ key value, (key, some value) ∈ l → (lookup? key env).isSome) → setAll env l = (env, none)
  | [], _ => rfl
  | (k, none) :: l, h => by
    rw [setAll]
    exact setAll_of_present fun key value hmem => h key value (List.mem_cons_of_mem _ hmem)
  | (k, some v) :: l, h => by
    rw [setAll, if_pos (h k v List.mem_cons_self)]
    exact setAll_of_present fun key value hmem => h key value (List.mem_cons_of_mem _ hmem)

/-! ## Loading a file -/

/-- The keys of a text's bindings with their values. -/
def pairsOf (cs : List Char) : List (String × Option String) :=
  (bindings cs).filterMap fun b => b.key.map fun k => (k, b.value)

theorem loadText_eq (env : Variables) (cs : List Char) :
    (loadText env cs).env = (setAll env (resolved env (pairsOf cs))).1 ∧
      (loadText env cs).fault = (setAll env (resolved env (pairsOf cs))).2 := ⟨rfl, rfl⟩

/-- The variables that a text binds can be set. -/
def Bindable (cs : List Char) : Prop := ∀ b ∈ bindings cs, ∀ key ∈ b.key, ∀ value ∈ b.value, Settable key value

instance (cs : List Char) : Decidable (Bindable cs) :=
  inferInstanceAs (Decidable (∀ b ∈ bindings cs, ∀ key ∈ b.key, ∀ value ∈ b.value, Settable key value))

theorem Bindable.pairs {cs : List Char} (h : Bindable cs) (key value : String) (hmem : (key, some value) ∈ pairsOf cs) :
    Settable key value := by
  obtain ⟨b, hb, hpair⟩ := List.mem_filterMap.1 hmem
  obtain ⟨k, hk, heq⟩ := Option.map_eq_some_iff.1 hpair
  obtain ⟨rfl, hvalue⟩ := Prod.mk.inj heq
  exact h b hb k hk value hvalue

/-- **What loading a text does to an environment**: variables that are there stay, and every other key gets what it stands
for. -/
theorem lookup?_loadText {env : Variables} (henv : ∀ p ∈ env, Settable p.1 p.2) {cs : List Char} (hcs : Bindable cs) :
    (loadText env cs).fault = none ∧ ∀ key, lookup? key (loadText env cs).env =
      (lookup? key env).or (standing env (pairsOf cs) key).join := by
  have hsettable : ∀ key value, (key, some value) ∈ resolved env (pairsOf cs) → Settable key value := by
    intro key value hmem
    have hstanding := lookup?_of_mem (nodup_resolved env _) hmem
    rw [lookup?_resolved] at hstanding
    exact settable_standing henv hcs.pairs hstanding
  obtain ⟨hfault, hlookup⟩ := setAll_eq env (nodup_resolved env (pairsOf cs)) hsettable
  refine ⟨hfault, fun key => ?_⟩
  rw [← lookup?_resolved]
  exact hlookup key

/-- **Loading a text again sets nothing.** -/
theorem loadText_again (env : Variables) {env' : Variables} {cs : List Char}
    (h : ∀ key value, standing env (pairsOf cs) key = some (some value) → (lookup? key env').isSome) :
    (loadText env' cs).env = env' ∧ (loadText env' cs).fault = none := by
  have hset : setAll env' (resolved env' (pairsOf cs)) = (env', none) := by
    refine setAll_of_present fun key value hmem => ?_
    have hstanding := lookup?_of_mem (nodup_resolved env' _) hmem
    rw [lookup?_resolved] at hstanding
    obtain ⟨value', hvalue'⟩ := standing_some hstanding env
    exact h key value' hvalue'
  obtain ⟨henv, hfault⟩ := loadText_eq env' cs
  rw [henv, hfault, hset]
  exact ⟨rfl, rfl⟩

/-- **Loading only adds, and adds once.** In an environment of variables that can be set, where loading is not turned off,
the environment file of a directory is loaded without a fault if its keys and values can be set too.  Then every variable
of the environment keeps its value.  A key that was not there is there exactly if its last binding has a value; it has that
value, in which references stand for variables of the environment first and then for the bindings before it.  Loading the
file again changes nothing. -/
theorem load_only_adds {d : Disk} {dir path : String} {env : Variables} {cs : List Char}
    (henv : ∀ p ∈ env, Settable p.1 p.2) (enabled : isDisabled env = false) (found : find? d dir = some path)
    (hread : d.readText path = .ok cs) (hcs : Bindable cs) :
    (load d dir env).fault = none ∧
      (∀ key value, lookup? key env = some value → lookup? key (load d dir env).env = some value) ∧
      (∀ key, lookup? key env = none →
        ((lookup? key (load d dir env).env).isSome ↔ ∃ before value, IsLast key before (some value) (pairsOf cs)) ∧
          ∀ before value, IsLast key before (some value) (pairsOf cs) →
            lookup? key (load d dir env).env = some (resolve (inScope env before) value)) ∧
      (load d dir (load d dir env).env).env = (load d dir env).env ∧
      (load d dir (load d dir env).env).fault = none := by
  have hload : ∀ {e : Variables}, isDisabled e = false → load d dir e = loadText e cs := by
    intro e he
    unfold load
    rw [he, if_neg Bool.false_ne_true, found]
    dsimp only
    rw [hread]
  obtain ⟨hfault, hlookup⟩ := lookup?_loadText henv hcs
  rw [hload enabled]
  refine ⟨hfault, fun key value hkey => ?_, fun key hkey => ?_, ?_⟩
  · rw [hlookup key, hkey]
    rfl
  · have hvalue : ∀ before value, IsLast key before (some value) (pairsOf cs) →
        lookup? key (loadText env cs).env = some (resolve (inScope env before) value) := by
      intro before value hlast
      rw [hlookup key, hkey, standing_of_isLast hlast]
      rfl
    refine ⟨⟨fun hsome => ?_, ?_⟩, hvalue⟩
    · obtain ⟨value, hv⟩ := Option.isSome_iff_exists.1 hsome
      rw [hlookup key, hkey, Option.none_or, Option.join_eq_some_iff] at hv
      obtain ⟨before, raw, hlast, hraw⟩ := isLast_of_standing hv
      obtain ⟨text, rfl, -⟩ := Option.map_eq_some_iff.1 hraw.symm
      exact ⟨before, text, hlast⟩
    · rintro ⟨before, value, hlast⟩
      rw [hvalue before value hlast]
      rfl
  · -- the first load may itself have turned loading off
    by_cases hoff : isDisabled (loadText env cs).env = true
    · unfold load
      rw [if_pos hoff]
      exact ⟨rfl, rfl⟩
    · rw [hload (Bool.not_eq_true _ ▸ hoff)]
      refine loadText_again env fun key value hstanding => ?_
      rw [hlookup key, hstanding]
      cases lookup? key env <;> rfl

/-- A file that binds a variable of the environment, and a key twice, the second time with references. -/
def sampleFile : List Char := "HOME=/f\nA=1\nA=${A}:${HOME}\nB\n".toList

def sampleFileDisk : Disk := ⟨.dir [(".env", .file (.text sampleFile))]⟩

/-- The variable of the environment stays and comes first in the reference; the key without a value is not set. -/
theorem load_only_adds_sample :
    (∀ p ∈ [("HOME", "/h")], Settable p.1 p.2) ∧ isDisabled [("HOME", "/h")] = false ∧
      find? sampleFileDisk "." = some "./.env" ∧ sampleFileDisk.readText "./.env" = .ok sampleFile ∧
      Bindable sampleFile ∧ lookup? "HOME" (load sampleFileDisk "." [("HOME", "/h")]).env = some "/h" ∧
      lookup? "A" (load sampleFileDisk "." [("HOME", "/h")]).env = some "1:/h" ∧
      (lookup? "B" (load sampleFileDisk "." [("HOME", "/h")]).env).isSome = false ∧
      (load sampleFileDisk "." (load sampleFileDisk "." [("HOME", "/h")]).env).env =
        (load sampleFileDisk "." [("HOME", "/h")]).env := by
  have hset : ∀ p ∈ [("HOME", "/h")], Settable p.1 p.2 := by decide
  have henabled : isDisabled [("HOME", "/h")] = false := by decide
  have hfound : find? sampleFileDisk "." = some "./.env" := by decide
  have hread : sampleFileDisk.readText "./.env" = .ok sampleFile := by rfl
  have hbind : Bindable sampleFile := by decide +kernel
  have hpairs : pairsOf sampleFile = [("HOME", some "/f"), ("A", some "1"), ("A", some "${A}:${HOME}"), ("B", none)] := by
    decide +kernel
  obtain ⟨-, hkeep, hadd, hagain, -⟩ := load_only_adds hset henabled hfound hread hbind
  refine ⟨hset, henabled, hfound, hread, hbind, hkeep "HOME" "/h" rfl, ?_, ?_, hagain⟩
  · rw [(hadd "A" rfl).2 [("HOME", some "/f"), ("A", some "1")] "${A}:${HOME}" ⟨[("B", none)], hpairs, by decide⟩]
    decide
  · rw [Bool.eq_false_iff]
    intro hsome
    obtain ⟨before, value, after, hlast, -⟩ := (hadd "B" rfl).1.1 hsome
    have hmem : ("B", some value) ∈ pairsOf sampleFile := by rw [hlast]; simp
    rw [hpairs] at hmem
    simp at hmem

end Environment
end DocReview
