import Mathlib.Logic.Basic
import DocReview.Screen.Page
/-!
# Screen — what a part of a run does to the page

A part of a run, given the reader's answers and a page, ends with a value or is cut short, and leaves a page
(`Draw.exec`).  What it may do to the page is said by a relation between the page before and the page after
(`Draw.Moves`), which parts hand on to the whole: one rule for each way of putting parts together, and one for each
primitive part.  Where the value of a part matters too, conditions on the page before and on the value and the page after
say so (`Draw.Meets`), with one condition more for a part that is cut short.  Where it matters why a part is cut short, but
not what it draws, the conditions are on what is remembered and on the disk (`Draw.Lands`).
-/
namespace DocReview
namespace Screen

variable {α β : Type}

/-- How a part of a run ends, and the page it leaves. -/
def Draw.exec (m : Draw α) (a : Answers) (p : Page) : Except Halt α × Page := (m.run a).run p

/-! ## What the primitive parts do -/

theorem exec_pure (x : α) (a : Answers) (p : Page) : (pure x : Draw α).exec a p = (.ok x, p) := rfl

theorem exec_bind (m : Draw α) (f : α → Draw β) (a : Answers) (p : Page) :
    (m >>= f).exec a p =
      match m.exec a p with
      | (.ok x, p') => (f x).exec a p'
      | (.error h, p') => (.error h, p') := by
  have hbind : (m >>= f).exec a p = (ExceptT.bindCont (fun x => f x a) (m.exec a p).1 : StateM Page _) (m.exec a p).2 :=
    rfl
  rcases hm : m.exec a p with ⟨r, p'⟩
  rw [hbind, hm]
  cases r <;> rfl

theorem exec_bind_ok {m : Draw α} {f : α → Draw β} {a : Answers} {p p' : Page} {x : α}
    (h : m.exec a p = (.ok x, p')) : (m >>= f).exec a p = (f x).exec a p' := by rw [exec_bind, h]

theorem exec_bind_error {m : Draw α} {f : α → Draw β} {a : Answers} {p p' : Page} {e : Halt}
    (h : m.exec a p = (.error e, p')) : (m >>= f).exec a p = (.error e, p') := by rw [exec_bind, h]

theorem exec_bind_eq_ok {m : Draw α} {f : α → Draw β} {a : Answers} {p q : Page} {y : β}
    (h : (m >>= f).exec a p = (.ok y, q)) :
    ∃ x p', m.exec a p = (.ok x, p') ∧ (f x).exec a p' = (.ok y, q) := by
  rw [exec_bind] at h
  cases hm : m.exec a p with
  | mk r p' =>
    rw [hm] at h
    cases r with
    | ok x => exact ⟨x, p', rfl, h⟩
    | error e => cases h

theorem exec_throw (h : Halt) (a : Answers) (p : Page) : (throw h : Draw α).exec a p = (.error h, p) := rfl

theorem exec_put (e : Element) (a : Answers) (p : Page) :
    (put e).exec a p = (.ok (), { p with drawn := e :: p.drawn }) := rfl

theorem exec_check_ok (x : α) (a : Answers) (p : Page) : (check (.ok x)).exec a p = (.ok x, p) := rfl

theorem exec_check_error (f : Fault) (a : Answers) (p : Page) :
    (check (.error f) : Draw α).exec a p = (.error (.fault f), p) := rfl

theorem exec_memory (a : Answers) (p : Page) : memory.exec a p = (.ok p.memory, p) := rfl

theorem exec_disk (a : Answers) (p : Page) : disk.exec a p = (.ok p.disk, p) := rfl

theorem exec_read (a : Answers) (p : Page) : (read : Draw Answers).exec a p = (.ok a, p) := rfl

theorem exec_remember (f : Memory → Memory) (a : Answers) (p : Page) :
    (remember f).exec a p = (.ok (), { p with memory := f p.memory }) := rfl

theorem exec_setDisk (d : Disk) (a : Answers) (p : Page) : (setDisk d).exec a p = (.ok (), { p with disk := d }) := rfl

def Answers.presses (a : Answers) (label : String) (key : Option String) : Bool := a.clicks.contains (key.getD label)

theorem exec_button (label : String) (key : Option String) (a : Answers) (p : Page) :
    (button label key).exec a p =
      (.ok (a.presses label key), { p with drawn := .button label key (a.presses label key) :: p.drawn }) := rfl

theorem run_eq (app : Draw Unit) (a : Answers) (m : Memory) (d : Disk) :
    run app a m d = ⟨match (app.exec a { memory := m, disk := d }).1 with | .ok () => none | .error h => some h,
      (app.exec a { memory := m, disk := d }).2⟩ := by
  unfold run Draw.exec
  cases h : (app.run a).run { memory := m, disk := d } with
  | mk r p => cases r <;> rfl

/-! ## Relations that parts hand on -/

/-- A relation between pages that can be put together from steps. -/
structure Preorder (R : Page → Page → Prop) : Prop where
  refl : ∀ p, R p p
  trans : ∀ {p q r}, R p q → R q r → R p r

/-- A part of a run takes every page to one that is related to it. -/
def Draw.Moves (R : Page → Page → Prop) (m : Draw α) : Prop := ∀ a p, R p (m.exec a p).2

section Rules

variable {R : Page → Page → Prop}

theorem moves_pure (hR : Preorder R) (x : α) : (pure x : Draw α).Moves R := fun _ p => hR.refl p

theorem moves_throw (hR : Preorder R) (h : Halt) : (throw h : Draw α).Moves R := fun _ p => hR.refl p

theorem moves_check (hR : Preorder R) (r : Except Fault α) : (check r).Moves R := by
  cases r with
  | ok x => exact fun _ p => hR.refl p
  | error f => exact fun _ p => hR.refl p

theorem moves_memory (hR : Preorder R) : memory.Moves R := fun _ p => hR.refl p

theorem moves_disk (hR : Preorder R) : disk.Moves R := fun _ p => hR.refl p

theorem moves_read (hR : Preorder R) : (read : Draw Answers).Moves R := fun _ p => hR.refl p

theorem moves_bind (hR : Preorder R) {m : Draw α} {f : α → Draw β} (hm : m.Moves R) (hf : ∀ x, (f x).Moves R) :
    (m >>= f).Moves R := by
  intro a p
  rw [exec_bind]
  have h := hm a p
  cases hx : m.exec a p with
  | mk r p' =>
    rw [hx] at h
    cases r with
    | ok x => exact hR.trans h (hf x a p')
    | error e => exact h

/-- What comes after a check has to be looked at only for what was found. -/
theorem moves_check_bind (hR : Preorder R) {r : Except Fault α} {f : α → Draw β}
    (h : ∀ x, r = .ok x → (f x).Moves R) : (check r >>= f).Moves R := by
  intro a p
  cases r with
  | ok x =>
    rw [exec_bind_ok (exec_check_ok x a p)]
    exact h x rfl a p
  | error e =>
    rw [exec_bind_error (exec_check_error e a p)]
    exact hR.refl p

theorem moves_ite {c : Prop} [Decidable c] {m n : Draw α} (hm : m.Moves R) (hn : n.Moves R) :
    (if c then m else n).Moves R := by
  split
  · exact hm
  · exact hn

theorem moves_forM (hR : Preorder R) {f : α → Draw PUnit} : ∀ (l : List α), (∀ x ∈ l, (f x).Moves R) →
    (l.forM f).Moves R
  | [], _ => moves_pure hR _
  | x :: l, h => by
    show (f x >>= fun _ => l.forM f).Moves R
    exact moves_bind hR (h x List.mem_cons_self) fun _ =>
      moves_forM hR l fun y hy => h y (List.mem_cons_of_mem _ hy)

theorem moves_foldlM (hR : Preorder R) {f : β → α → Draw β} (h : ∀ b x, (f b x).Moves R) : ∀ (l : List α) (b : β),
    (l.foldlM f b).Moves R
  | [], b => moves_pure hR b
  | x :: l, b => by
    rw [List.foldlM_cons]
    exact moves_bind hR (h b x) fun c => moves_foldlM hR h l c

theorem moves_put {e : Element} (h : ∀ p : Page, R p { p with drawn := e :: p.drawn }) : (put e).Moves R :=
  fun _ p => h p

theorem moves_remember {f : Memory → Memory} (h : ∀ p : Page, R p { p with memory := f p.memory }) :
    (remember f).Moves R := fun _ p => h p

theorem moves_setDisk {d : Disk} (h : ∀ p : Page, R p { p with disk := d }) : (setDisk d).Moves R := fun _ p => h p

end Rules

/-! ## Conditions before and after -/

/-- From a page with `P`, a part of a run ends with `Q`, or is cut short with `E`. -/
def Draw.Meets (m : Draw α) (a : Answers) (P : Page → Prop) (Q : α → Page → Prop) (E : Page → Prop) : Prop :=
  ∀ p, P p → (∀ x q, m.exec a p = (.ok x, q) → Q x q) ∧ ∀ e q, m.exec a p = (.error e, q) → E q

section Conditions

variable {a : Answers} {P E : Page → Prop} {Q : α → Page → Prop}

theorem meets_bind {m : Draw α} {f : α → Draw β} {R : β → Page → Prop} (hm : m.Meets a P Q E)
    (hf : ∀ x, (f x).Meets a (Q x) R E) : (m >>= f).Meets a P R E := by
  intro p hp
  obtain ⟨hok, herr⟩ := hm p hp
  rw [exec_bind]
  cases hx : m.exec a p with
  | mk r p' =>
    cases r with
    | ok x => exact hf x p' (hok x p' hx)
    | error e =>
      refine ⟨fun x q h => ?_, fun e' q h => ?_⟩
      · cases h
      · cases h
        exact herr e p' hx

theorem meets_of_exec {m : Draw α} {x : Page → α} {g : Page → Page} (hm : ∀ p, m.exec a p = (.ok (x p), g p))
    (h : ∀ p, P p → Q (x p) (g p)) : m.Meets a P Q E := by
  refine fun p hp => ⟨fun y q hq => ?_, fun e q hq => ?_⟩
  · rw [hm p] at hq
    cases hq
    exact h p hp
  · rw [hm p] at hq
    cases hq

theorem meets_of_page {m : Draw α} {S : Page → Prop} (hS : ∀ p, P p → S (m.exec a p).2) (hE : ∀ q, S q → E q) :
    m.Meets a P (fun _ => S) E := by
  refine fun p hp => ⟨fun x q hx => ?_, fun e q hx => hE q ?_⟩
  · have h := hS p hp
    rw [hx] at h
    exact h
  · have h := hS p hp
    rw [hx] at h
    exact h

theorem meets_check_bind {r : Except Fault β} {f : β → Draw α} (hE : ∀ p, P p → E p)
    (h : ∀ x, r = .ok x → (f x).Meets a P Q E) : (check r >>= f).Meets a P Q E := by
  intro p hp
  cases r with
  | ok x =>
    rw [exec_bind_ok (exec_check_ok x a p)]
    exact h x rfl p hp
  | error e =>
    rw [exec_bind_error (exec_check_error e a p)]
    refine ⟨fun x q hq => ?_, fun e' q hq => ?_⟩
    · cases hq
    · cases hq
      exact hE p hp

theorem meets_ite {c : Prop} [Decidable c] {m n : Draw α} (hm : c → m.Meets a P Q E) (hn : ¬ c → n.Meets a P Q E) :
    (if c then m else n).Meets a P Q E := by
  split
  · exact hm ‹_›
  · exact hn ‹_›

theorem meets_forM {f : β → Draw PUnit} {I : Page → Prop} : ∀ (l : List β),
    (∀ x ∈ l, (f x).Meets a I (fun _ => I) E) → (l.forM f).Meets a I (fun _ => I) E
  | [], _ => meets_of_exec (exec_pure PUnit.unit a) fun _ h => h
  | x :: l, h => by
    show (f x >>= fun _ => l.forM f).Meets a I (fun _ => I) E
    exact meets_bind (h x List.mem_cons_self) fun _ => meets_forM l fun y hy => h y (List.mem_cons_of_mem _ hy)

theorem meets_exec {m : Draw α} {S : Page → Prop} (hm : m.Meets a P Q E) {p : Page} (hp : P p) (hQ : ∀ x q, Q x q → S q)
    (hE : ∀ q, E q → S q) : S (m.exec a p).2 := by
  obtain ⟨hok, herr⟩ := hm p hp
  cases hx : m.exec a p with
  | mk r q =>
    cases r with
    | ok x => exact hQ x q (hok x q hx)
    | error e => exact hE q (herr e q hx)

end Conditions

/-! ## Parts that always end well -/

/-- A page with elements drawn below. -/
def Page.draw (p : Page) (es : List Element) : Page := { p with drawn := es.reverse ++ p.drawn }

/-- A part of a run draws the given elements and does nothing else. -/
def Draw.Draws (m : Draw α) (a : Answers) (x : α) (es : List Element) : Prop := ∀ p, m.exec a p = (.ok x, p.draw es)

/-- A part of a run ends with the given value, whatever it draws. -/
def Draw.Gives (m : Draw α) (a : Answers) (x : α) : Prop := ∀ p, ∃ q, m.exec a p = (.ok x, q)

section Drawing

variable {a : Answers}

theorem Page.draw_append (p : Page) (es es' : List Element) : p.draw (es ++ es') = (p.draw es).draw es' := by
  simp [Page.draw]

theorem draws_pure (x : α) : (pure x : Draw α).Draws a x [] := fun _ => rfl

theorem draws_put (e : Element) : (put e).Draws a () [e] := fun _ => rfl

theorem draws_button (label : String) (key : Option String) :
    (button label key).Draws a (a.presses label key) [.button label key (a.presses label key)] := fun _ => rfl

theorem draws_check {r : Except Fault α} {x : α} (h : r = .ok x) : (check r).Draws a x [] := by
  rw [h]
  exact fun _ => rfl

theorem draws_bind {m : Draw α} {f : α → Draw β} {x : α} {y : β} {es es' : List Element} (hm : m.Draws a x es)
    (hf : (f x).Draws a y es') : (m >>= f).Draws a y (es ++ es') := by
  intro p
  rw [exec_bind_ok (hm p), hf (p.draw es), Page.draw_append]

theorem draws_forM {f : α → Draw PUnit} {g : α → List Element} : ∀ {l : List α},
    (∀ x ∈ l, (f x).Draws a PUnit.unit (g x)) → (l.forM f).Draws a PUnit.unit (l.flatMap g)
  | [], _ => draws_pure _
  | x :: l, h => by
    show (f x >>= fun _ => l.forM f).Draws a PUnit.unit _
    rw [List.flatMap_cons]
    exact draws_bind (h x List.mem_cons_self) (draws_forM fun y hy => h y (List.mem_cons_of_mem _ hy))

theorem gives_of_draws {m : Draw α} {x : α} {es : List Element} (h : m.Draws a x es) : m.Gives a x :=
  fun p => ⟨_, h p⟩

theorem gives_bind {m : Draw α} {f : α → Draw β} {x : α} {y : β} (hm : m.Gives a x) (hf : (f x).Gives a y) :
    (m >>= f).Gives a y := by
  intro p
  obtain ⟨p', hp'⟩ := hm p
  rw [exec_bind_ok hp']
  exact hf p'

/-- From a page with the disk `d`, a part of a run asks for another run and leaves the disk `d'`. -/
def Draw.Applies (m : Draw α) (a : Answers) (d d' : Disk) : Prop :=
  ∀ p : Page, p.disk = d → ∃ q, m.exec a p = (.error .rerun, q) ∧ q.disk = d'

variable {d d' : Disk}

theorem applies_bind {m : Draw α} {f : α → Draw β} (hm : m.Applies a d d') : (m >>= f).Applies a d d' := by
  intro p hp
  obtain ⟨q, hq, hd⟩ := hm p hp
  exact ⟨q, exec_bind_error hq, hd⟩

theorem applies_after {m : Draw α} {f : α → Draw β} {x : α} {es : List Element} (hm : m.Draws a x es)
    (hf : (f x).Applies a d d') : (m >>= f).Applies a d d' := by
  intro p hp
  rw [exec_bind_ok (hm p)]
  exact hf (p.draw es) hp

theorem applies_forM {f : α → Draw PUnit} {before after : List α} {x : α} {es : List Element}
    (hbefore : (before.forM f).Draws a PUnit.unit es) (hx : (f x).Applies a d d') :
    ((before ++ x :: after).forM f).Applies a d d' := by
  rw [List.forM_eq_forM] at hbefore ⊢
  rw [List.forM_append, List.forM_cons]
  exact applies_after hbefore (applies_bind hx)

end Drawing

/-! ## Conditions on the memory and the disk -/

/-- From a memory and a disk with `P`, a part of a run ends with `Q`, or is cut short with `E`, whatever is drawn. -/
def Draw.Lands (m : Draw α) (a : Answers) (P : Memory → Disk → Prop) (Q : α → Memory → Disk → Prop)
    (E : Halt → Memory → Disk → Prop) : Prop :=
  ∀ p, P p.memory p.disk → (∀ x q, m.exec a p = (.ok x, q) → Q x q.memory q.disk) ∧
    ∀ h q, m.exec a p = (.error h, q) → E h q.memory q.disk

section Landing

variable {a : Answers} {P : Memory → Disk → Prop} {Q : α → Memory → Disk → Prop} {E : Halt → Memory → Disk → Prop}

theorem lands_of_ok {m : Draw α} (h : ∀ p, P p.memory p.disk → ∃ x q, m.exec a p = (.ok x, q) ∧ Q x q.memory q.disk) :
    m.Lands a P Q E := by
  intro p hp
  obtain ⟨x, q, hx, hQ⟩ := h p hp
  rw [hx]
  refine ⟨fun y r h => ?_, fun e r h => ?_⟩
  · cases h
    exact hQ
  · cases h

theorem lands_of_error {m : Draw α}
    (h : ∀ p, P p.memory p.disk → ∃ e q, m.exec a p = (.error e, q) ∧ E e q.memory q.disk) : m.Lands a P Q E := by
  intro p hp
  obtain ⟨e, q, hx, hE⟩ := h p hp
  rw [hx]
  refine ⟨fun y r h => ?_, fun e' r h => ?_⟩
  · cases h
  · cases h
    exact hE

theorem lands_bind {m : Draw α} {f : α → Draw β} {R : β → Memory → Disk → Prop} (hm : m.Lands a P Q E)
    (hf : ∀ x, (f x).Lands a (Q x) R E) : (m >>= f).Lands a P R E := by
  intro p hp
  obtain ⟨hok, herr⟩ := hm p hp
  rw [exec_bind]
  cases hx : m.exec a p with
  | mk r p' =>
    cases r with
    | ok x => exact hf x p' (hok x p' hx)
    | error e =>
      refine ⟨fun x q h => ?_, fun e' q h => ?_⟩
      · cases h
      · cases h
        exact herr e p' hx

theorem lands_of_imp {m : Draw α} {R : Memory → Disk → Prop} (hm : m.Lands a R Q E) (h : ∀ m d, P m d → R m d) :
    m.Lands a P Q E := fun p hp => hm p (h _ _ hp)

theorem lands_weaken {m : Draw α} {R : α → Memory → Disk → Prop} (hm : m.Lands a P R E)
    (h : ∀ x m d, R x m d → Q x m d) : m.Lands a P Q E :=
  fun p hp => ⟨fun x q hq => h x _ _ ((hm p hp).1 x q hq), (hm p hp).2⟩

theorem lands_of_exists {ι : Type} {P : ι → Memory → Disk → Prop} {m : Draw α} (h : ∀ i, m.Lands a (P i) Q E) :
    m.Lands a (fun m d => ∃ i, P i m d) Q E := fun p ⟨i, hp⟩ => h i p hp

theorem lands_of_and {c : Prop} {m : Draw α} (h : c → m.Lands a P Q E) : m.Lands a (fun m d => c ∧ P m d) Q E :=
  fun p hp => h hp.1 p hp.2

theorem lands_pure {x : α} (h : ∀ m d, P m d → Q x m d) : (pure x : Draw α).Lands a P Q E :=
  lands_of_ok fun p hp => ⟨x, p, rfl, h _ _ hp⟩

theorem lands_of_draws {m : Draw α} {x : α} {es : List Element} (hm : m.Draws a x es) (h : ∀ m d, P m d → Q x m d) :
    m.Lands a P Q E := lands_of_ok fun p hp => ⟨x, p.draw es, hm p, h _ _ hp⟩

theorem lands_after {m : Draw α} {f : α → Draw β} {x : α} {es : List Element} {R : β → Memory → Disk → Prop}
    (hm : m.Draws a x es) (hf : (f x).Lands a P R E) : (m >>= f).Lands a P R E := by
  intro p hp
  rw [exec_bind_ok (hm p)]
  exact hf (p.draw es) hp

theorem lands_check_error {r : Except Fault α} {f : α → Draw β} {e : Fault} {R : β → Memory → Disk → Prop}
    (hr : r = .error e) (h : ∀ m d, P m d → E (.fault e) m d) : (check r >>= f).Lands a P R E := by
  rw [hr]
  exact lands_of_error fun p hp => ⟨.fault e, p, exec_bind_error (exec_check_error e a p), h _ _ hp⟩

theorem lands_remember {f : Memory → Memory} {R : Unit → Memory → Disk → Prop} (h : ∀ m d, P m d → R () (f m) d) :
    (remember f).Lands a P R E := lands_of_ok fun p hp => ⟨(), _, exec_remember f a p, h _ _ hp⟩

theorem lands_memory : memory.Lands a P (fun x m d => x = m ∧ P m d) E :=
  lands_of_ok fun p hp => ⟨p.memory, p, rfl, rfl, hp⟩

theorem lands_disk : disk.Lands a P (fun x m d => x = d ∧ P m d) E :=
  lands_of_ok fun p hp => ⟨p.disk, p, rfl, rfl, hp⟩

theorem lands_ite {c : Prop} [Decidable c] {m n : Draw α} (hm : c → m.Lands a P Q E) (hn : ¬ c → n.Lands a P Q E) :
    (if c then m else n).Lands a P Q E := by
  split
  · exact hm ‹_›
  · exact hn ‹_›

theorem lands_forM {f : β → Draw PUnit} : ∀ {l : List β}, (∀ x ∈ l, (f x).Lands a P (fun _ => P) E) →
    (l.forM f).Lands a P (fun _ => P) E
  | [], _ => lands_pure fun _ _ h => h
  | x :: l, h => by
    show (f x >>= fun _ => l.forM f).Lands a P (fun _ => P) E
    exact lands_bind (h x List.mem_cons_self) fun _ => lands_forM fun y hy => h y (List.mem_cons_of_mem _ hy)

end Landing

end Screen
end DocReview
