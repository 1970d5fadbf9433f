import DocReview.Text.Printable
/-!
# Quoted — a text between quotes

The quote is the apostrophe, or the double quote for a text with an apostrophe and no double quote.  Backslashes, the
quote in use and unprintable characters are escaped.  Texts are lists of code points, since a quoted text may hold a
lone surrogate.
-/
namespace DocReview.Text

def hexPadded (width n : Nat) : List Char :=
  let ds := Nat.toDigits 16 n
  List.replicate (width - ds.length) '0' ++ ds

def escapeCode (n : Nat) : List Char :=
  if n < 0x100 then '\\' :: 'x' :: hexPadded 2 n
  else if n < 0x10000 then '\\' :: 'u' :: hexPadded 4 n
  else '\\' :: 'U' :: hexPadded 8 n

/-- A code point outside quotes: backslash and unprintable characters escaped. -/
def escapePoint (n : Nat) : List Char :=
  if n = 0x5c then ['\\', '\\']
  else if n = 9 then ['\\', 't']
  else if n = 10 then ['\\', 'n']
  else if n = 13 then ['\\', 'r']
  else if isPrintable n then [Char.ofNat n]
  else escapeCode n

def quoteFor (ns : List Nat) : Char :=
  if ns.contains 0x27 && !ns.contains 0x22 then '"' else '\''

def quoted (ns : List Nat) : List Char :=
  let q := quoteFor ns
  q :: (ns.flatMap fun n => if n = q.toNat then ['\\', q] else escapePoint n) ++ [q]

/-- Bytes between quotes: those outside the printable ASCII range are escaped. -/
def quotedBytes (bs : List Nat) : List Char :=
  let q := quoteFor bs
  q :: (bs.flatMap fun n =>
    if n = q.toNat then ['\\', q] else if n < 0x7f then escapePoint n else escapeCode n) ++ [q]

def codePoints (s : String) : List Nat := s.toList.map Char.toNat

end DocReview.Text
