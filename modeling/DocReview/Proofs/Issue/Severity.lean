import DocReview.Issue
import DocReview.Proofs.Value
/-!
# Severity — errors and warnings among issues

Issues are told apart by a word in their lines (`isSerious`): those with it are errors, the others are warnings, and both
stay in order (`classifyAll_strings_eq`).  The word is the front of a code, but it is looked for everywhere.  So an issue is an
error if its code begins like that, and also if the place or the message of the issue holds the word (`isSerious_finding_iff`).
-/
namespace DocReview
namespace Text

theorem occursIn_iff {part : List Char} : ∀ {cs : List Char}, occursIn part cs = true ↔ part <:+: cs
  | [] => by rw [occursIn, List.isEmpty_iff, List.infix_nil]
  | c :: cs => by
    have ih : occursIn part cs = true ↔ part <:+: cs := occursIn_iff
    rw [occursIn, Bool.or_eq_true, List.isPrefixOf_iff_prefix, ih, List.infix_cons_iff]

theorem infix_append_cons_iff {word : List Char} {sep : Char} (h : sep ∉ word) (front back : List Char) :
    word <:+: front ++ sep :: back ↔ word <:+: front ∨ word <:+: back := by
  constructor
  · rintro ⟨before, after, heq⟩
    rcases List.append_eq_append_iff.1 heq with ⟨more, rfl, -⟩ | ⟨more, hword, hback⟩
    · exact .inl ⟨before, more, rfl⟩
    · cases more with
      | nil => exact .inl ⟨before, [], by simpa using hword⟩
      | cons c more =>
        obtain ⟨rfl, rfl⟩ := List.cons.inj hback
        -- the separator is in what stands before the word, or it is in the word
        rcases List.append_eq_append_iff.1 hword with ⟨rest, -, rfl⟩ | ⟨rest, rfl, hrest⟩
        · exact absurd (List.mem_append_right rest List.mem_cons_self) h
        · cases rest with
          | nil =>
            rw [List.nil_append] at hrest
            exact absurd (hrest ▸ List.mem_cons_self) h
          | cons d rest =>
            obtain ⟨-, rfl⟩ := List.cons.inj hrest
            exact .inr ⟨rest, after, rfl⟩
  · rintro (hfront | hback)
    · exact hfront.trans (List.prefix_append front _).isInfix
    · exact hback.trans ((List.suffix_cons sep back).trans (List.suffix_append front _)).isInfix

end Text

namespace Issue

/-! ## Telling issues apart -/

def mark : List Char := "D1".toList

def isSerious (issue : List String) : Bool := Text.occursIn mark (Text.joinWith " ".toList (issue.map String.toList))

theorem isError_strings (issue : List String) : isError (.strings issue) = .ok (isSerious issue) := by
  have hjoin := Value.joinElements_strings " " issue
  refine Result.bind_eq_ok_iff.2 ⟨_, hjoin, ?_⟩
  exact congrArg (fun text => Except.ok (Text.occursIn mark text)) String.toList_ofList

/-- **Errors are the issues with the word, and warnings those without it**, each in order. -/
theorem classifyAll_strings_eq : ∀ (issues : List (List String)), classifyAll (issues.map .strings) =
    .ok ((issues.filter isSerious).map .strings, (issues.filter fun i => !isSerious i).map .strings)
  | [] => rfl
  | issue :: issues => by
    have ih := classifyAll_strings_eq issues
    refine Result.bind_eq_ok_iff.2 ⟨_, isError_strings issue, Result.bind_eq_ok_iff.2 ⟨_, ih, ?_⟩⟩
    by_cases h : isSerious issue = true
    · simp [h, pure, Except.pure]
    · simp [h, pure, Except.pure]

/-! ## Codes -/

def code (x y z : Fin 10) : String := String.ofList ['D', Nat.digitChar x, Nat.digitChar y, Nat.digitChar z]

/-- The block that a checker writes: a place, then the code and the message of what it found there. -/
def finding (place : String) (x y z : Fin 10) (message : String) : List String :=
  [place, "        " ++ code x y z ++ ": " ++ message]

theorem digitChar_ne : ∀ x : Fin 10, 'D' ≠ Nat.digitChar x := by decide

theorem mark_infix_code_iff (x y z : Fin 10) : mark <:+: (code x y z).toList ↔ x = 1 := by
  have hx := digitChar_ne x
  have hy := digitChar_ne y
  have hz := digitChar_ne z
  rw [code, String.toList_ofList, mark]
  simp [List.infix_cons_iff, List.cons_prefix_cons, hx, hy, hz, Fin.ext_iff]

/-- **An issue is an error exactly if its code, its place or its message has the word.** -/
theorem isSerious_finding_iff (place : String) (x y z : Fin 10) (message : String) :
    isSerious (finding place x y z message) = true ↔ x = 1 ∨ mark <:+: place.toList ∨ mark <:+: message.toList := by
  have hblank : ' ' ∉ mark := by decide
  have hcolon : ':' ∉ mark := by decide
  have hindent : ¬ mark <:+: "       ".toList := by
    rw [← Text.occursIn_iff]
    decide
  have hnone : ¬ mark <:+: [] := by simp [mark]
  -- the text of the issue, with the separators at which it is cut
  have htext : Text.joinWith " ".toList ((finding place x y z message).map String.toList) =
      place.toList ++ ' ' :: ("       ".toList ++ ' ' :: (code x y z).toList ++ ':' :: ([] ++ ' ' :: message.toList)) := by
    simp [finding, Text.joinWith]
  rw [isSerious, Text.occursIn_iff, htext, Text.infix_append_cons_iff hblank, Text.infix_append_cons_iff hcolon,
    Text.infix_append_cons_iff hblank, Text.infix_append_cons_iff hblank, mark_infix_code_iff, or_iff_right hindent,
    or_iff_right hnone]
  exact or_left_comm

/-- **Every issue is an error or a warning, by the word it holds.**  For every list of issues, the errors and the warnings
together are the issues, once each and in their order.  One with a code, a place and a message is an error exactly if the first
digit of the code is one, or the word `D1` is in the place or in the message; otherwise it is a warning. -/
theorem severity_by_word (issues : List (List String)) : ∃ errors warnings : List (List String),
    classify (.list (issues.map .strings)) = .ok (errors.map .strings, warnings.map .strings) ∧
      (errors ++ warnings).Perm issues ∧ errors.Sublist issues ∧ warnings.Sublist issues ∧
      ∀ place x y z message, finding place x y z message ∈ issues →
        (finding place x y z message ∈ errors ↔
          x = 1 ∨ "D1".toList <:+: place.toList ∨ "D1".toList <:+: message.toList) ∧
        (finding place x y z message ∈ warnings ↔
          ¬ (x = 1 ∨ "D1".toList <:+: place.toList ∨ "D1".toList <:+: message.toList)) := by
  refine ⟨issues.filter isSerious, issues.filter fun i => !isSerious i, ?_, List.filter_append_perm isSerious issues,
    List.filter_sublist, List.filter_sublist, ?_⟩
  · exact Result.bind_eq_ok_iff.2 ⟨_, rfl, classifyAll_strings_eq issues⟩
  · intro place x y z message hmem
    have hserious := isSerious_finding_iff place x y z message
    rw [mark] at hserious
    rw [← hserious, List.mem_filter, List.mem_filter]
    simp [hmem]

def findingIn (file : String) : List String := finding (file ++ ":1 at module level:") 2 0 5 "1 blank line required"

/-- What is a warning in `a.py` is an error in `D1.py`. -/
theorem severity_by_word_sample : ∃ errors warnings : List (List String),
    classify (.list [.strings (findingIn "a.py"), .strings (findingIn "D1.py")]) =
      .ok (errors.map .strings, warnings.map .strings) ∧
    findingIn "a.py" ∈ warnings ∧ findingIn "D1.py" ∈ errors := by
  obtain ⟨errors, warnings, hclassify, -, -, -, hfinding⟩ := severity_by_word [findingIn "a.py", findingIn "D1.py"]
  have hmessage : ¬ "D1".toList <:+: "1 blank line required".toList := by
    rw [← Text.occursIn_iff]
    decide
  have hplain : ¬ "D1".toList <:+: ("a.py" ++ ":1 at module level:").toList := by
    rw [← Text.occursIn_iff]
    decide
  have hnamed : "D1".toList <:+: ("D1.py" ++ ":1 at module level:").toList := by
    rw [← Text.occursIn_iff]
    decide
  refine ⟨errors, warnings, hclassify, ?_, ?_⟩
  · refine (hfinding _ 2 0 5 _ List.mem_cons_self).2.2 ?_
    rintro (h | h | h)
    · cases h
    · exact hplain h
    · exact hmessage h
  · exact (hfinding _ 2 0 5 _ (List.mem_cons_of_mem _ List.mem_cons_self)).1.2 (.inr (.inl hnamed))

end Issue
end DocReview
