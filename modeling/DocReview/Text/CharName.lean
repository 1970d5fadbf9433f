import DocReview.Text.CharName.Data
import DocReview.Text.Lines
import DocReview.Text.Table
/-!
# CharName — characters by their names

Most names are listed in a table.  The names of ideographs end with their code point, and those of Hangul syllables are
put together from the names of their letters.  Listed names may be written in any case.
-/
namespace DocReview.Text.CharName

/-- The names of the letters that start, continue and end a Hangul syllable. -/
def leads : List String :=
  ["G", "GG", "N", "D", "DD", "R", "M", "B", "BB", "S", "SS", "", "J", "JJ", "C", "K", "T", "P", "H"]

@[inherit_doc leads]
def vowels : List String :=
  ["A", "AE", "YA", "YAE", "EO", "E", "YEO", "YE", "O", "WA", "WAE", "OE", "YO", "U", "WEO", "WE", "WI", "YU", "EU",
    "YI", "I"]

@[inherit_doc leads]
def tails : List String :=
  ["", "G", "GG", "GS", "N", "NJ", "NH", "D", "L", "LG", "LM", "LB", "LS", "LT", "LP", "LH", "M", "B", "BS", "S", "SS",
    "NG", "J", "C", "K", "T", "P", "H"]

/-- The longest of the names that a text starts with, by its number, and the rest of the text. -/
def longest? (names : List String) (cs : List Char) : Option (Nat × List Char) :=
  (names.zipIdx.foldl (fun best p =>
    let n := p.1.toList
    if n.isPrefixOf cs && (match best with
      | some (_, len) => len < n.length
      | none => true) then some (p.2, n.length) else best) (none : Option (Nat × Nat))).map
    fun b => (b.1, cs.drop b.2)

def syllable? (cs : List Char) : Option Nat := do
  let (l, cs) ← longest? leads cs
  let (v, cs) ← longest? vowels cs
  let (t, cs) ← longest? tails cs
  if cs.isEmpty then some (0xac00 + (l * 21 + v) * 28 + t) else none

/-- The unified ideographs, by the first and last of each block. -/
def unified : List (Nat × Nat) :=
  [(0x3400, 0x4dbf), (0x4e00, 0x9fff), (0x20000, 0x2a6df), (0x2a700, 0x2b738), (0x2b740, 0x2b81d), (0x2b820, 0x2cea1),
    (0x2ceb0, 0x2ebe0), (0x30000, 0x3134a)]

/-- Other characters whose names end with their code point. -/
def numbered : List (String × Nat × Nat) :=
  [("CJK COMPATIBILITY IDEOGRAPH-", 0xf900, 0xfa6d), ("CJK COMPATIBILITY IDEOGRAPH-", 0xfa70, 0xfad9),
    ("CJK COMPATIBILITY IDEOGRAPH-", 0x2f800, 0x2fa1d), ("KHITAN SMALL SCRIPT CHARACTER-", 0x18b00, 0x18cd5),
    ("NUSHU CHARACTER-", 0x1b170, 0x1b2fb)]

def capitalHex? (cs : List Char) : Option Nat :=
  cs.foldl (fun acc c => acc.bind fun n =>
    if c.isLower then none else (hexDigit? c.toLower).map fun d => 16 * n + d) (some 0)

def ideograph? (cs : List Char) : Option Nat :=
  if cs.length = 4 ∨ cs.length = 5 then
    (capitalHex? cs).bind fun n => if unified.any fun b => b.1 ≤ n && n ≤ b.2 then some n else none
  else none

def capitalHex (n : Nat) : List Char :=
  let ds := (Nat.toDigits 16 n).map Char.toUpper
  List.replicate (4 - ds.length) '0' ++ ds

/-- The character with a name in capitals that ends with its code point. -/
def numbered? (cs : List Char) : Option Nat :=
  numbered.findSome? fun (start, lo, hi) =>
    if start.toList.isPrefixOf cs then
      let digits := cs.drop start.length
      (capitalHex? digits).bind fun n => if lo ≤ n && n ≤ hi && digits = capitalHex n then some n else none
    else none

/-- A sign of the table: a character, or the number of a pair of signs. -/
inductive Sign where
  | plain (c : Char)
  | pair (n : Nat)

/-- The signs of a text, perhaps after the first character of one, by its number. -/
def signsAfter : Option Nat → List Char → List Sign
  | _, [] => []
  | some i, d :: cs => .pair (tailSigns.length * i + tailSigns.toList.idxOf d) :: signsAfter none cs
  | none, c :: cs =>
    match shortSigns.lookup c, leadSigns.toList.idxOf? c with
    | some n, _ => .pair n :: signsAfter none cs
    | none, some i => signsAfter (some i) cs
    | none, none => .plain c :: signsAfter none cs

def signs (table : String) : List Sign := signsAfter none (table.toList.filter (· ≠ '\n'))

def Sign.text (pairs : Array (List Char)) : Sign → List Char
  | .plain c => [c]
  | .pair n => (pairs[n]?).getD []

/-- The characters of the pairs that signs give, two by two, after some pairs. -/
def spellPairs : Array (List Char) → List Sign → Array (List Char)
  | pairs, a :: b :: rest => spellPairs (pairs.push (a.text pairs ++ b.text pairs)) rest
  | pairs, _ => pairs

def spellTable (table : String) : List Char := (signs table).flatMap (Sign.text (spellPairs #[] (signs pairTable)))

/-- How far the table is read: the next code point, the words of the last name, and the entry being read, backwards. -/
structure Place where
  next : Nat := 0
  words : List (List Char) := []
  entry : List Char := []
  found : Option Nat := none

/-- The number of skipped code points at the start of a text, and the rest. -/
def readGap (cs : List Char) : Nat × List Char :=
  match cs with
  | '+' :: rest => ((capitalHex? (rest.takeWhile (· ≠ '.'))).getD 0, (rest.dropWhile (· ≠ '.')).tail)
  | _ => (0, cs)

/-- Ends an entry, and compares its name. -/
def Place.close (wanted : List (List Char)) (p : Place) : Place :=
  match p.entry.reverse with
  | [] => p
  | k :: rest =>
    let (gap, rest) := readGap rest
    let words := p.words.take (k.toNat - 'a'.toNat) ++ splitOn ' ' rest
    let code := p.next + gap
    ⟨code + 1, words, [], if words = wanted then some code else p.found⟩

def Place.read (wanted : List (List Char)) (p : Place) (c : Char) : Place :=
  if c.isLower then { p.close wanted with entry := [c] } else { p with entry := c :: p.entry }

/-- The character with a listed name. -/
def listed? (cs : List Char) : Option Nat :=
  let wanted := splitOn ' ' cs
  (((spellTable nameTable).foldl (Place.read wanted) {}).close wanted).found

/-- The character with one of the further names. -/
def alias? (cs : List Char) : Option Nat :=
  (splitOn ',' (aliasTable.toList.filter (· ≠ '\n'))).findSome? fun e =>
    if (e.dropWhile (· ≠ ' ')).tail = cs then
      some ((e.takeWhile (· ≠ ' ')).foldl (fun n c => 16 * n + (hexDigit? c).getD 0) 0)
    else none

def lookup? (name : List Char) : Option Nat :=
  let syllable := "HANGUL SYLLABLE ".toList
  let ideograph := "CJK UNIFIED IDEOGRAPH-".toList
  if name.isEmpty then none
  else if syllable.isPrefixOf name then syllable? (name.drop syllable.length)
  else if ideograph.isPrefixOf name then ideograph? (name.drop ideograph.length)
  else
    let capitals := name.map Char.toUpper
    numbered? capitals <|> alias? capitals <|> listed? capitals

end DocReview.Text.CharName
