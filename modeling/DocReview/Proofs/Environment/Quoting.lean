import DocReview.Proofs.Environment.Consumption
import DocReview.Proofs.Text.Lines
/-!
# Quoting — values between apostrophes are read back

A value can be written between apostrophes, its own apostrophes behind backslashes (`escaped`).  If it holds no backslash
itself, the first apostrophe without a backslash before it is the one that closes it, whatever follows (`closed?_escaped`),
and taking the backslashes away gives the value (`unescape_escaped`).  So a line with a key and a value is one binding and
leaves the rest of the text (`readBinding_quotedLine`), and a text of such lines has their bindings
(`quoted_pairs_read_back`).
-/
namespace DocReview
namespace Environment

variable {r : Reader} {rest : List Char}

/-! ## Values between apostrophes -/

def escapeQuote (c : Char) : List Char := if c = '\'' then ['\\', '\''] else [c]

def escaped (value : List Char) : List Char := value.flatMap escapeQuote

theorem escaped_quote (value : List Char) : escaped ('\'' :: value) = '\\' :: '\'' :: escaped value := rfl

theorem escaped_cons {c : Char} (h : c ≠ '\'') (value : List Char) : escaped (c :: value) = c :: escaped value := by
  rw [escaped, List.flatMap_cons, escapeQuote, if_neg h]
  rfl

/-- **A value ends at the apostrophe behind it**, whatever follows. -/
theorem closed?_escaped (rest : List Char) : ∀ {value : List Char} {before : Char}, '\\' ∉ value → before ≠ '\\' →
    closed? '\'' before (escaped value ++ '\'' :: rest) = some (escaped value)
  | [], before, _, hbefore => if_pos ⟨rfl, hbefore⟩
  | c :: value, before, hvalue, hbefore => by
    have hc : c ≠ '\\' := fun hc => hvalue (hc ▸ List.mem_cons_self)
    have hrest : '\\' ∉ value := fun hmem => hvalue (List.mem_cons_of_mem c hmem)
    by_cases hquote : c = '\''
    · -- the backslash is passed over, and the apostrophe behind it closes nothing
      subst hquote
      rw [escaped_quote, List.cons_append, List.cons_append, closed?, if_neg fun h => absurd h.1 (by decide), closed?,
        if_neg fun h => h.2 rfl, closed?_escaped rest hrest hc]
      rfl
    · rw [escaped_cons hquote, List.cons_append, closed?, if_neg fun h => hquote h.1, closed?_escaped rest hrest hc]
      rfl

theorem unescape_escaped : ∀ {value : List Char}, '\\' ∉ value → unescape singleEscape (escaped value) = value
  | [], _ => rfl
  | c :: value, hvalue => by
    have hc : c ≠ '\\' := fun hc => hvalue (hc ▸ List.mem_cons_self)
    have ih : unescapeFrom singleEscape false (escaped value) = value :=
      unescape_escaped fun hmem => hvalue (List.mem_cons_of_mem c hmem)
    by_cases hquote : c = '\''
    · subst hquote
      rw [unescape, escaped_quote, unescapeFrom, if_pos rfl, unescapeFrom, singleEscape]
      exact congrArg ('\'' :: ·) ih
    · rw [unescape, escaped_cons hquote, unescapeFrom, if_neg hc, ih]

/-- A value between apostrophes, as it is written. -/
def quotedText (value : List Char) : List Char := '\'' :: (escaped value ++ ['\''])

/-- **A value between apostrophes is read back**, and reading goes on behind it. -/
theorem readValue_quotedText {value : List Char} (h : '\\' ∉ value) (hr : r.ahead = quotedText value ++ rest) :
    readValue.run.run r = (some value, r.advance (quotedText value)) := by
  have hquoted : quotedValue '\'' (quotedText value ++ rest) = some (escaped value, (quotedText value).length) := by
    rw [quotedText, List.cons_append, List.append_assoc, List.singleton_append, quotedValue, if_pos rfl,
      closed?_escaped rest h (by decide), List.length_cons, List.length_append]
    rfl
  have hhead : r.ahead.head? = some '\'' := by rw [hr]; rfl
  rw [readValue, Read.run_peek_bind, if_pos hhead, Read.run_bind_of_some (Read.run_pattern_append hr hquoted),
    unescape_escaped h]
  rfl

/-! ## Keys -/

/-- A key that can be written as it is: it has no equals sign, number sign or blank, and does not start with an apostrophe. -/
structure IsPlainKey (key : List Char) : Prop where
  ne_nil : key ≠ []
  chars : ∀ c ∈ key, c ≠ '=' ∧ c ≠ '#' ∧ Text.isBlank c = false
  head : key.head? ≠ some '\''

variable {key : List Char}

theorem IsPlainKey.exists_cons (h : IsPlainKey key) :
    ∃ c more, key = c :: more ∧ c ≠ '#' ∧ c ≠ '\'' ∧ Text.isBlank c = false := by
  obtain ⟨c, more, rfl⟩ := List.exists_cons_of_ne_nil h.ne_nil
  obtain ⟨-, hsign, hblank⟩ := h.chars c List.mem_cons_self
  exact ⟨c, more, rfl, hsign, fun hc => h.head (congrArg some hc), hblank⟩

theorem isInlineBlank_of_isBlank {c : Char} (h : Text.isBlank c = false) : isInlineBlank c = false := by
  rw [isInlineBlank, h, Bool.false_and]

theorem inlineLength_cons {c : Char} (h : isInlineBlank c = false) (cs : List Char) : inlineLength (c :: cs) = 0 := by
  rw [inlineLength, List.takeWhile_cons_of_neg (by rw [h]; exact Bool.false_ne_true), List.length_nil]

/-- The word `export` is not passed over, since no blank follows it. -/
theorem IsPlainKey.exportWord (h : IsPlainKey key) (rest : List Char) :
    exportWord (key ++ '=' :: rest) = some ((), 0) := by
  refine if_neg fun hword => hword.2 ?_
  obtain ⟨after, hafter⟩ := List.isPrefixOf_iff_prefix.1 hword.1
  have hdrop : (key ++ '=' :: rest).drop 6 = after := by
    rw [← hafter]
    rfl
  rw [hdrop]
  -- what follows the word is a character of the key, or the sign behind it
  rcases List.append_eq_append_iff.1 hafter with ⟨more, hkey, rfl⟩ | ⟨more, hexport, hmore⟩
  · cases more with
    | nil => rfl
    | cons c more =>
      have hc : c ∈ key := hkey ▸ by simp
      exact inlineLength_cons (isInlineBlank_of_isBlank (h.chars c hc).2.2) _
  · cases more with
    | nil =>
      rw [List.nil_append] at hmore
      rw [← hmore]
      rfl
    | cons c more =>
      obtain ⟨rfl, -⟩ := List.cons.inj hmore
      exact absurd (hexport ▸ by simp : '=' ∈ "export".toList) (by decide)

theorem IsPlainKey.readKey (h : IsPlainKey key) (hr : r.ahead = key ++ '=' :: rest) :
    readKey.run.run r = (some (some key), r.advance key) := by
  have hkey : ∀ c ∈ key, isKeyChar c = true := by
    intro c hc
    obtain ⟨hequals, hsign, hblank⟩ := h.chars c hc
    simp [isKeyChar, hequals, hsign, hblank]
  have hplain : plainKey (key ++ '=' :: rest) = some (key, key.length) := by
    have htake : (key ++ '=' :: rest).takeWhile isKeyChar = key := by
      rw [List.takeWhile_append_of_pos hkey, List.takeWhile_cons_of_neg (by decide), List.append_nil]
    rw [plainKey, htake]
    exact if_neg h.ne_nil
  obtain ⟨c, more, hcons, hsign, hquote, -⟩ := h.exists_cons
  have hhead : r.ahead.head? = some c := by rw [hr, hcons]; rfl
  rw [Environment.readKey, Read.run_peek_bind, hhead, if_neg fun hc => hsign (Option.some.inj hc),
    if_neg fun hc => hquote (Option.some.inj hc), Read.run_bind_of_some (Read.run_pattern_append hr hplain)]
  rfl

/-! ## Lines -/

/-- The line that binds a key to a value between apostrophes. -/
def quotedLine (key value : List Char) : List Char := key ++ '=' :: '\'' :: (escaped value ++ ['\'', '\n'])

theorem quotedLine_eq (key value : List Char) : quotedLine key value = key ++ '=' :: (quotedText value ++ ['\n']) := by
  simp [quotedLine, quotedText]

theorem readAssigned_quotedText {value : List Char} (h : '\\' ∉ value) (hr : r.ahead = '=' :: (quotedText value ++ rest)) :
    readAssigned.run.run r = (some (some value), r.advance ('=' :: quotedText value)) := by
  have hhead : r.ahead.head? = some '=' := by rw [hr]; rfl
  have hsplit : r.ahead = ['='] ++ (quotedText value ++ rest) := hr
  have hsign : (Read.pattern equalsSign).run.run r = (some (), r.advance ['=']) := Read.run_pattern_append hsplit rfl
  have hvalue := readValue_quotedText h (Reader.ahead_advance hsplit)
  rw [readAssigned, Read.run_peek_bind, if_pos hhead, Read.run_bind_of_some hsign, Read.run_bind_of_some hvalue,
    Reader.advance_advance]
  rfl

theorem readAfterKey_quotedText {value : List Char} (h : '\\' ∉ value)
    (hr : r.ahead = '=' :: (quotedText value ++ '\n' :: rest)) :
    readAfterKey.run.run r = (some (some value), r.advance ('=' :: (quotedText value ++ ['\n']))) := by
  have hinline : (Read.pattern inlineBlanks).run.run r = (some (), r) := Read.run_pattern_nil (by rw [hr]; rfl)
  have hvalue := readAssigned_quotedText h hr
  have hsplit : r.ahead = '=' :: quotedText value ++ (['\n'] ++ rest) := hr
  have hahead := Reader.ahead_advance hsplit
  have hcomment : (Read.pattern comment).run.run (r.advance ('=' :: quotedText value)) = (some (), _) :=
    Read.run_pattern_nil (by rw [hahead]; rfl)
  have hend : (Read.pattern lineEnd).run.run (r.advance ('=' :: quotedText value)) = (some (), _) :=
    Read.run_pattern_append hahead rfl
  rw [readAfterKey, Read.run_bind_of_some hinline, Read.run_bind_of_some hvalue, Read.run_bind_of_some hcomment,
    Read.run_bind_of_some hend, Reader.advance_advance]
  rfl

theorem readPair_quotedLine {value : List Char} (hkey : IsPlainKey key) (hvalue : '\\' ∉ value)
    (hr : r.ahead = quotedLine key value ++ rest) :
    readPair.run.run r = (some (some key, some value), r.advance (quotedLine key value)) := by
  have hsplit : r.ahead = key ++ '=' :: (quotedText value ++ '\n' :: rest) := by
    rw [hr, quotedLine_eq]
    simp
  have hword : (Read.pattern exportWord).run.run r = (some (), r) :=
    Read.run_pattern_nil (by rw [hsplit]; exact hkey.exportWord _)
  have hafter := readAfterKey_quotedText hvalue (Reader.ahead_advance hsplit)
  rw [readPair, Read.run_bind_of_some hword, Read.run_bind_of_some (hkey.readKey hsplit), Read.run_bind_of_some hafter,
    Reader.advance_advance, quotedLine_eq]
  rfl

def quotedBinding (line : Nat) (key value : String) : Binding :=
  ⟨some key, some value, quotedLine key.toList value.toList, line, false⟩

/-- **A line with a key and a value between apostrophes is one binding**, whatever follows it. -/
theorem readBinding_quotedLine {key value : String} (hkey : IsPlainKey key.toList) (hvalue : '\\' ∉ value.toList)
    (hr : r.ahead = quotedLine key.toList value.toList ++ rest) : readBinding.run r =
      (quotedBinding r.position.line key value, r.setMark.advance (quotedLine key.toList value.toList)) := by
  obtain ⟨c, more, hcons, -, -, hblank⟩ := hkey.exists_cons
  have hahead : r.setMark.ahead = c :: (more ++ '=' :: (quotedText value.toList ++ ['\n']) ++ rest) := by
    change r.ahead = _
    rw [hr, quotedLine_eq, hcons]
    rfl
  have hblanks : (Read.pattern blanks).run.run r.setMark = (some (), r.setMark) := by
    refine Read.run_pattern_nil ?_
    rw [blanks, hahead, List.takeWhile_cons_of_neg (by rw [hblank]; exact Bool.false_ne_true)]
    rfl
  have hnext : r.setMark.hasNext = true := Reader.hasNext_iff.2 (by rw [hahead]; exact List.cons_ne_nil _ _)
  have hbody : readBody.run.run r.setMark =
      (some (some key.toList, some value.toList), r.setMark.advance (quotedLine key.toList value.toList)) := by
    rw [readBody, Read.run_bind_of_some hblanks, Read.run_get_bind, if_pos hnext]
    exact readPair_quotedLine hkey hvalue hr
  rw [readBinding_of_some hbody, Reader.binding, Reader.marked_advance hr, Option.map_some, Option.map_some,
    String.ofList_toList, String.ofList_toList]
  rfl

/-! ## Files -/

/-- The text of a file that binds keys to values between apostrophes. -/
def quotedFile (pairs : List (String × String)) : List Char :=
  pairs.flatMap fun p => quotedLine p.1.toList p.2.toList

def quotedBindings : Nat → List (String × String) → List Binding
  | _, [] => []
  | line, p :: pairs =>
    quotedBinding line p.1 p.2 :: quotedBindings (line + (quotedLine p.1.toList p.2.toList).count '\n') pairs

theorem quotedLine_ne_nil (key value : List Char) : quotedLine key value ≠ [] := by simp [quotedLine]

/-- The loop over a text of such lines reads them one after the other. -/
theorem Streams.quotedFile : ∀ {pairs : List (String × String)} {r : Reader} {bs : List Binding}, Streams r bs →
    r.ahead = quotedFile pairs → (∀ p ∈ pairs, IsPlainKey p.1.toList ∧ '\\' ∉ p.2.toList) →
      bs = quotedBindings r.position.line pairs
  | [], r, bs, h, hr, _ => by
    cases h with
    | done => rfl
    | next more => exact absurd hr (Reader.hasNext_iff.1 more)
  | p :: pairs, r, bs, h, hr, hpairs => by
    obtain ⟨⟨hkey, hvalue⟩, hmore⟩ := List.forall_mem_cons.1 hpairs
    have hsplit : r.ahead = quotedLine p.1.toList p.2.toList ++ Environment.quotedFile pairs := hr
    cases h with
    | done last =>
      rw [Reader.ahead_of_end last] at hsplit
      exact absurd hsplit.symm (List.append_ne_nil_of_left_ne_nil (quotedLine_ne_nil _ _) _)
    | next more read rest =>
      obtain ⟨rfl, rfl⟩ := Prod.mk.inj (read.symm.trans (readBinding_quotedLine hkey hvalue hsplit))
      exact congrArg _ (Streams.quotedFile rest (Reader.ahead_advance hsplit) hmore)

theorem map_quotedBindings {α : Type} {view : Binding → α} {shown : String × String → α}
    (h : ∀ line p, view (quotedBinding line p.1 p.2) = shown p) : ∀ (line : Nat) (pairs : List (String × String)),
    (quotedBindings line pairs).map view = pairs.map shown
  | _, [] => rfl
  | line, p :: pairs => by rw [quotedBindings, List.map_cons, List.map_cons, h, map_quotedBindings h]

theorem foldNewlines_quotedFile {pairs : List (String × String)}
    (h : ∀ p ∈ pairs, IsPlainKey p.1.toList ∧ '\r' ∉ p.2.toList) :
    Text.foldNewlines (quotedFile pairs) = quotedFile pairs := by
  refine Text.foldNewlines_of_not_mem fun hmem => ?_
  obtain ⟨p, hp, hline⟩ := List.mem_flatMap.1 hmem
  obtain ⟨hkey, hvalue⟩ := h p hp
  have hkeyChar : '\r' ∉ p.1.toList := fun hc => absurd (hkey.chars _ hc).2.2 (by decide)
  have hescaped : '\r' ∉ escaped p.2.toList := by
    intro hc
    obtain ⟨c, hc, hwritten⟩ := List.mem_flatMap.1 hc
    unfold escapeQuote at hwritten
    split at hwritten
    · simp at hwritten
    · exact hvalue (List.mem_singleton.1 hwritten ▸ hc)
  simp [quotedLine, hkeyChar, hescaped] at hline

/-- **Values between apostrophes are read back.**  For every list of keys and values, where the keys are not empty, have no
equals sign, number sign or blank and do not start with an apostrophe, and the values have no backslash and no carriage
return: a file with a line for each, the value between apostrophes and its own apostrophes behind backslashes, is read as
it is written, and its bindings are the lines, with these keys and values in this order, and none of them is in error. -/
theorem quoted_pairs_read_back {pairs : List (String × String)}
    (hpairs : ∀ p ∈ pairs, IsPlainKey p.1.toList ∧ '\\' ∉ p.2.toList ∧ '\r' ∉ p.2.toList) :
    Text.foldNewlines (quotedFile pairs) = quotedFile pairs ∧
      (bindings (quotedFile pairs)).map (fun b => (b.key, b.value)) = pairs.map (fun p => (some p.1, some p.2)) ∧
      (∀ b ∈ bindings (quotedFile pairs), b.isError = false) ∧
      (bindings (quotedFile pairs)).map Binding.text = pairs.map fun p => quotedLine p.1.toList p.2.toList := by
  have hread : bindings (quotedFile pairs) = quotedBindings 1 pairs :=
    (streams_bindings _).quotedFile rfl fun p hp => ⟨(hpairs p hp).1, (hpairs p hp).2.1⟩
  have herror : (quotedBindings 1 pairs).map Binding.isError = pairs.map fun _ => false :=
    map_quotedBindings (fun _ _ => rfl) 1 pairs
  rw [hread]
  refine ⟨foldNewlines_quotedFile fun p hp => ⟨(hpairs p hp).1, (hpairs p hp).2.2⟩,
    map_quotedBindings (fun _ _ => rfl) 1 pairs, fun b hb => ?_, map_quotedBindings (fun _ _ => rfl) 1 pairs⟩
  have hmem : b.isError ∈ pairs.map fun _ => false := herror ▸ List.mem_map_of_mem hb
  obtain ⟨-, -, hfalse⟩ := List.mem_map.1 hmem
  exact hfalse.symm

/-- The word `export` as a key, a value with a line feed that looks like another binding, and an empty value. -/
def samplePairs : List (String × String) := [("export", "it's #1\nk='$x'"), ("k'", "")]

theorem quoted_pairs_sample :
    (∀ p ∈ samplePairs, IsPlainKey p.1.toList ∧ '\\' ∉ p.2.toList ∧ '\r' ∉ p.2.toList) ∧
      quotedFile samplePairs = "export='it\\'s #1\nk=\\'$x\\''\nk'=''\n".toList ∧
      (bindings (quotedFile samplePairs)).map (fun b => (b.key, b.value)) =
        [(some "export", some "it's #1\nk='$x'"), (some "k'", some "")] := by
  have hplain : ∀ key : List Char, key ≠ [] → key.all isKeyChar = true → key.head? ≠ some '\'' → IsPlainKey key := by
    intro key hne hchars hhead
    refine ⟨hne, fun c hc => ?_, hhead⟩
    have hkey := List.all_eq_true.1 hchars c hc
    simpa [isKeyChar, and_assoc] using hkey
  have hpairs : ∀ p ∈ samplePairs, IsPlainKey p.1.toList ∧ '\\' ∉ p.2.toList ∧ '\r' ∉ p.2.toList := by
    intro p hp
    simp only [samplePairs, List.mem_cons, List.not_mem_nil, or_false] at hp
    rcases hp with rfl | rfl
    · exact ⟨hplain _ (by decide) (by decide) (by decide), by decide, by decide⟩
    · exact ⟨hplain _ (by decide) (by decide) (by decide), by decide, by decide⟩
  exact ⟨hpairs, by decide, (quoted_pairs_read_back hpairs).2.1⟩

end Environment
end DocReview
