import DocReview.Text.Table
/-!
# LetterCase — lower case of a text

Each character has its own lower-case form, with two exceptions: a dotted capital I becomes two characters, and a
capital sigma becomes the final form at the end of a word.
-/
namespace DocReview.Text

/-- Runs of characters with a lower-case form: first, last, step, form of the first. -/
def lowerRuns : List Nat := hexWords "
  c0 d6 1 e0 d8 de 1 f8 100 12e 2 101 132 136 2 133 139 147 2 13a 14a 176 2 14b 178 178 1 ff 179 17d 2
  17a 181 181 1 253 182 184 2 183 186 186 1 254 187 187 1 188 189 18a 1 256 18b 18b 1 18c 18e 18e 1
  1dd 18f 18f 1 259 190 190 1 25b 191 191 1 192 193 193 1 260 194 194 1 263 196 196 1 269 197 197 1
  268 198 198 1 199 19c 19c 1 26f 19d 19d 1 272 19f 19f 1 275 1a0 1a4 2 1a1 1a6 1a6 1 280 1a7 1a7 1
  1a8 1a9 1a9 1 283 1ac 1ac 1 1ad 1ae 1ae 1 288 1af 1af 1 1b0 1b1 1b2 1 28a 1b3 1b5 2 1b4 1b7 1b7 1
  292 1b8 1b8 1 1b9 1bc 1bc 1 1bd 1c4 1c4 1 1c6 1c5 1c5 1 1c6 1c7 1c7 1 1c9 1c8 1c8 1 1c9 1ca 1ca 1
  1cc 1cb 1db 2 1cc 1de 1ee 2 1df 1f1 1f1 1 1f3 1f2 1f4 2 1f3 1f6 1f6 1 195 1f7 1f7 1 1bf 1f8 21e 2
  1f9 220 220 1 19e 222 232 2 223 23a 23a 1 2c65 23b 23b 1 23c 23d 23d 1 19a 23e 23e 1 2c66 241 241 1
  242 243 243 1 180 244 244 1 289 245 245 1 28c 246 24e 2 247 370 372 2 371 376 376 1 377 37f 37f 1
  3f3 386 386 1 3ac 388 38a 1 3ad 38c 38c 1 3cc 38e 38f 1 3cd 391 3a1 1 3b1 3a3 3ab 1 3c3 3cf 3cf 1
  3d7 3d8 3ee 2 3d9 3f4 3f4 1 3b8 3f7 3f7 1 3f8 3f9 3f9 1 3f2 3fa 3fa 1 3fb 3fd 3ff 1 37b 400 40f 1
  450 410 42f 1 430 460 480 2 461 48a 4be 2 48b 4c0 4c0 1 4cf 4c1 4cd 2 4c2 4d0 52e 2 4d1 531 556 1
  561 10a0 10c5 1 2d00 10c7 10c7 1 2d27 10cd 10cd 1 2d2d 13a0 13ef 1 ab70 13f0 13f5 1 13f8 1c90 1cba 1
  10d0 1cbd 1cbf 1 10fd 1e00 1e94 2 1e01 1e9e 1e9e 1 df 1ea0 1efe 2 1ea1 1f08 1f0f 1 1f00 1f18 1f1d 1
  1f10 1f28 1f2f 1 1f20 1f38 1f3f 1 1f30 1f48 1f4d 1 1f40 1f59 1f5f 2 1f51 1f68 1f6f 1 1f60 1f88 1f8f
  1 1f80 1f98 1f9f 1 1f90 1fa8 1faf 1 1fa0 1fb8 1fb9 1 1fb0 1fba 1fbb 1 1f70 1fbc 1fbc 1 1fb3 1fc8
  1fcb 1 1f72 1fcc 1fcc 1 1fc3 1fd8 1fd9 1 1fd0 1fda 1fdb 1 1f76 1fe8 1fe9 1 1fe0 1fea 1feb 1 1f7a
  1fec 1fec 1 1fe5 1ff8 1ff9 1 1f78 1ffa 1ffb 1 1f7c 1ffc 1ffc 1 1ff3 2126 2126 1 3c9 212a 212a 1 6b
  212b 212b 1 e5 2132 2132 1 214e 2160 216f 1 2170 2183 2183 1 2184 24b6 24cf 1 24d0 2c00 2c2f 1 2c30
  2c60 2c60 1 2c61 2c62 2c62 1 26b 2c63 2c63 1 1d7d 2c64 2c64 1 27d 2c67 2c6b 2 2c68 2c6d 2c6d 1 251
  2c6e 2c6e 1 271 2c6f 2c6f 1 250 2c70 2c70 1 252 2c72 2c72 1 2c73 2c75 2c75 1 2c76 2c7e 2c7f 1 23f
  2c80 2ce2 2 2c81 2ceb 2ced 2 2cec 2cf2 2cf2 1 2cf3 a640 a66c 2 a641 a680 a69a 2 a681 a722 a72e 2
  a723 a732 a76e 2 a733 a779 a77b 2 a77a a77d a77d 1 1d79 a77e a786 2 a77f a78b a78b 1 a78c a78d a78d
  1 265 a790 a792 2 a791 a796 a7a8 2 a797 a7aa a7aa 1 266 a7ab a7ab 1 25c a7ac a7ac 1 261 a7ad a7ad 1
  26c a7ae a7ae 1 26a a7b0 a7b0 1 29e a7b1 a7b1 1 287 a7b2 a7b2 1 29d a7b3 a7b3 1 ab53 a7b4 a7c2 2
  a7b5 a7c4 a7c4 1 a794 a7c5 a7c5 1 282 a7c6 a7c6 1 1d8e a7c7 a7c9 2 a7c8 a7d0 a7d0 1 a7d1 a7d6 a7d8 2
  a7d7 a7f5 a7f5 1 a7f6 ff21 ff3a 1 ff41 10400 10427 1 10428 104b0 104d3 1 104d8 10570 1057a 1 10597
  1057c 1058a 1 105a3 1058c 10592 1 105b3 10594 10595 1 105bb 10c80 10cb2 1 10cc0 118a0 118bf 1 118c0
  16e40 16e5f 1 16e60 1e900 1e921 1 1e922"

/-- Letters that have a case, other than those case rules pass over. -/
def casedGaps : List Nat := hexWords "
  41 1a 6 1a 2f 1 a 1 4 1 5 17 1 1f 1 c3 1 4 4 d0 1 1b c0 4 2 2 3 3 1 1 6 1 1 3 1 1 1 14 1 53 1 8b 8
  a6 1 26 9 29 b17 26 1 1 5 1 2 2b 2 3 2a0 56 2 6 882 9 7 2b 2 3 40 2c 3f d 1 22 65 116 2 6 2 26 2 6 2
  8 1 1 1 1 1 1 1 1f 2 35 1 7 1 1 3 3 1 7 3 4 2 6 4 d 5 3 1 7 105 1 4 1 2 a 1 1 3 5 6 1 1 1 1 1 1 4 1
  6 4 1 2 4 5 5 4 1 11 20 3 2 331 34 716 7c 2 67 6 4 3 2 c 26 1 1 5 1 7912 2e 12 1c 86 4e 1 17 3 4 1
  3b 5 2 1 1 1 5 1b 2 3 1 335 2b 5 9 7 50 4f40 7 c 5 409 1a 6 1a 4a5 50 60 24 4 24 74 b 1 f 1 7 1 2 1
  b 1 f 1 7 1 2 6c3 33 d 33 bad 40 5560 40 6580 55 1 47 1 2 2 1 2 2 2 4 1 c 1 1 1 7 1 41 1 4 2 8 1 7 1
  1c 1 4 1 5 1 1 3 7 1 154 2 19 1 19 1 1f 1 19 1 1f 1 19 1 1f 1 19 1 1f 1 19 1 8 734 a 1 14 9e1 44 7ec
  1a 6 1a 6 1a"

/-- Characters that case rules pass over. -/
def caseIgnorableGaps : List Nat := hexWords "
  27 1 6 1 b 1 23 1 1 1 47 1 4 1 1 1 4 1 2 2 1f7 c0 4 2 4 1 9 2 1 1 fb 7 cf 1 5 1 31 2d 1 1 1 2 1 2 1
  1 2c 1 b 6 a b 1 1 23 1 a 15 10 1 65 8 1 a 1 4 21 1 1 1 1e 1b 5b b 3a b 4 1 2 1 18 18 2b 3 2c 1 7 2
  6 8 29 3a 37 1 1 1 4 8 4 1 3 7 a 2 d 1 f 1 3a 1 4 4 8 1 14 2 1a 1 2 2 39 1 4 2 4 2 2 3 3 1 1e 2 3 1
  b 2 39 1 4 5 1 2 4 1 14 2 16 6 1 1 3a 1 2 1 1 4 8 1 7 2 b 2 1e 1 3d 1 c 1 32 1 3 1 37 1 1 3 5 3 1 4
  7 2 b 2 1d 1 3a 1 2 1 6 1 5 2 14 2 1c 2 39 2 4 4 8 1 14 2 1d 1 48 1 7 3 1 1 5a 1 2 7 b 9 62 1 2 9 9
  1 1 6 4a 2 1b 1 1 1 1 1 37 e 1 5 1 2 5 b 1 24 9 1 66 4 1 6 1 2 2 2 19 2 4 3 10 4 d 1 2 2 6 1 f 1 5e
  1 260 3 3b2 3 1d 2 1e 2 1e 2 40 2 1 7 8 1 2 b 3 1 5 1 2d 5 33 1 41 2 22 1 76 3 4 2 9 1 6 3 db 2 2 1
  3a 1 1 7 1 1 1 1 2 8 6 a 2 1 27 1 8 1f 31 4 30 1 1 5 1 1 5 1 28 9 c 2 20 4 2 2 1 3 38 1 1 2 3 1 1 3
  3a 8 2 2 40 6 52 3 1 d 1 7 4 1 6 1 3 2 32 3f d 1 22 65 1bd 1 1 3 b 3 d 3 d 3 d 2 c 5 8 2 a 1 2 1 2 5
  31 5 1 a 1 1 d 1 10 d 33 21 b8b 2 71 3 7d 1 f 1 60 20 2f 1 1d5 1 24 4 3 5 5 1 5d 6 5d 3 6f16 1 4e2 6
  10e 1 62 4 1 a 1 1 1c 4 50 2 e 22 4e 1 17 3 67 3 3 2 8 1 3 1 4 1 19 2 5 1 97 2 1a 12 d 1 26 8 19 b
  2e 3 30 1 2 4 2 2 11 1 15 2 42 6 2 2 2 2 c 1 8 1 23 1 b 1 33 1 1 3 2 2 5 2 1 1 1b 1 e 2 5 2 1 1 64 5
  9 3 79 1 2 1 4 1 4f30 1 93 11 23d 10 3 1 c 10 22 1 2 1 a9 1 7 1 6 1 b 1 23 1 1 1 2f 1 2d 2 43 1 15 3
  201 1 e2 1 95 5 405 6 1 2a 1 9 246 3 1 2 5 4 28 3 4 1 a5 2 23d 4 183 2 99 b 31 4 7b 1 36 f 29 1 2 2
  a 3 31 4 2 2 2 1 4 1 a 1 32 3 24 5 1 8 3e 1 c 2 34 9 a 4 2 1 5f 3 2 1 1 2 6 1 a0 1 3 8 15 2 39 2 3 1
  25 7 3 5 c3 8 2 3 1 1 17 1 54 6 1 1 4 2 1 2 ee 4 6 2 1 2 1b 2 55 8 2 1 1 2 6a 1 1 1 2 6 1 1 65 3 2 4
  1 5 103 9 1 2 100 2 1 1 4 1 90 4 2 2 4 1 20 a 28 6 2 4 8 1 9 6 2 3 2e d 1 2 196 7 1 6 1 1 52 16 2 7
  1 2 1 2 7a 6 3 1 1 2 1 7 1 1 48 2 3 1 1 1 15b 2 153b 9 36b7 5 3b 7 9 4 40b 1 3f 11 40 2 1 2 400b 4 1
  7 1 2 c9e 2 1 4 125c 2e 2 17 220 3 9 10 2 7 1e 4 94 3 7bb 37 4 32 8 1 e 1 16 5 1 f 550 7 1 11 2 7 1
  2 1 5 105 e 170 1 3d 4 5e0 7 6d 8 aaf 5 c0c01 1 1e 60 80 f0"

def isCased (c : Char) : Bool :=
  if c.toNat < 128 then c.isAlpha else inGaps casedGaps c.toNat false

def isCaseIgnorable (c : Char) : Bool :=
  if c.toNat < 128 then c = '\'' || c = '.' || c = ':' || c = '^' || c = '\x60'
  else inGaps caseIgnorableGaps c.toNat false

def lowerChar (c : Char) : Char :=
  if c.toNat < 128 then c.toLower
  else match imageIn? lowerRuns c.toNat with
    | some n => Char.ofNat n
    | none => c

/-- Whether the first character that case rules do not pass over is cased. -/
def meetsCased (cs : List Char) : Bool :=
  match cs.dropWhile isCaseIgnorable with
  | [] => false
  | c :: _ => isCased c

/-- Lower case of the rest of a text, given what stands before it, backwards. -/
def lowerAfter : List Char → List Char → List Char
  | _, [] => []
  | before, c :: cs =>
    let form :=
      if c = 'Σ' then [if meetsCased before && !meetsCased cs then 'ς' else 'σ']
      else if c = 'İ' then ['i', '\u0307']
      else [lowerChar c]
    form ++ lowerAfter (c :: before) cs

def lower (cs : List Char) : List Char := lowerAfter [] cs

end DocReview.Text
