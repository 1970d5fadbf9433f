/-!
# Lines — cutting a text into lines

Two cuts are in use.  `splitLines` cuts at every line boundary of Unicode and forgets which one it was; `splitOn`
cuts at one character and keeps every piece, also empty ones.  `foldNewlines` is what reading a text file does first.
-/
namespace DocReview.Text

/-- Whether a character ends a line. A carriage return and a line feed together end one line. -/
def isLineEnd (c : Char) : Bool :=
  let n := c.toNat
  (10 ≤ n && n ≤ 13) || (28 ≤ n && n ≤ 30) || n = 0x85 || n = 0x2028 || n = 0x2029

/-- Lines of a text whose current line has read `cur`, backwards. -/
def splitLinesFrom : List Char → List Char → List (List Char)
  | cur, [] => if cur.isEmpty then [] else [cur.reverse]
  | cur, '\r' :: '\n' :: cs => cur.reverse :: splitLinesFrom [] cs
  | cur, c :: cs => if isLineEnd c then cur.reverse :: splitLinesFrom [] cs else splitLinesFrom (c :: cur) cs

/-- The lines of a text, without their ends; a text that ends with a line end has no empty last line. -/
def splitLines (cs : List Char) : List (List Char) := splitLinesFrom [] cs

/-- The pieces between the occurrences of a character, one more than there are occurrences. -/
def splitOn (sep : Char) : List Char → List (List Char)
  | [] => [[]]
  | c :: cs =>
    if c = sep then [] :: splitOn sep cs
    else match splitOn sep cs with
      | [] => [[c]]
      | l :: ls => (c :: l) :: ls

def joinWith (sep : List Char) : List (List Char) → List Char
  | [] => []
  | [l] => l
  | l :: ls => l ++ sep ++ joinWith sep ls

def occursIn (part : List Char) : List Char → Bool
  | [] => part.isEmpty
  | c :: cs => part.isPrefixOf (c :: cs) || occursIn part cs

/-- A carriage return, alone or before a line feed, becomes a line feed. -/
def foldNewlines : List Char → List Char
  | [] => []
  | '\r' :: '\n' :: cs => '\n' :: foldNewlines cs
  | c :: cs => (if c = '\r' then '\n' else c) :: foldNewlines cs

end DocReview.Text
