/-!
# Text/Basic — text as a list of characters

Every stage of the wiki reads and writes `Text`, a list of characters, so that scanning is recursion
on the data.  This module holds the vocabulary the stages share: which characters are blank,
trimming, stripping a known beginning or end, measuring in bytes, and classes of characters as lists
of boundaries.
-/

namespace WikiPress

/-- A text: its characters in order. -/
abbrev Text := List Char

/-- The characters of a string constant. -/
abbrev lit (s : String) : Text := s.toList

namespace Text

/-- The white space of Unicode: the ASCII controls from tab to carriage return, the space, and the
separators outside ASCII. -/
def isBlank (c : Char) : Bool :=
  let n := c.toNat
  (9 ≤ n && n ≤ 13) || n == 32 || n == 0x85 || n == 0xA0 || n == 0x1680
    || (0x2000 ≤ n && n ≤ 0x200A) || n == 0x2028 || n == 0x2029 || n == 0x202F
    || n == 0x205F || n == 0x3000

/-- A space or a tab: the blanks that keep a line a line. -/
def isSpaceOrTab (c : Char) : Bool := c == ' ' || c == '\t'

/-- An ASCII decimal digit. -/
def isDigit (c : Char) : Bool := '0' ≤ c && c ≤ '9'

/-- An ASCII letter. -/
def isLetter (c : Char) : Bool := ('a' ≤ c && c ≤ 'z') || ('A' ≤ c && c ≤ 'Z')

/-- An ASCII letter in lower case; any other character as it is. -/
def lowerLetter (c : Char) : Char :=
  if 'A' ≤ c && c ≤ 'Z' then Char.ofNat (c.toNat + 32) else c

/-- The value of a hexadecimal digit. -/
def hexDigit? (c : Char) : Option Nat :=
  if '0' ≤ c && c ≤ '9' then some (c.toNat - 48)
  else if 'a' ≤ c && c ≤ 'f' then some (c.toNat - 87)
  else if 'A' ≤ c && c ≤ 'F' then some (c.toNat - 55)
  else none

/-- The value of a decimal digit, `0` for any other character. -/
def digitValue (c : Char) : Nat := if isDigit c then c.toNat - 48 else 0

/-! ## Trimming -/

/-- Drop the longest end whose characters all satisfy `p`. -/
def dropEndWhile (p : Char → Bool) (t : Text) : Text :=
  (t.reverse.dropWhile p).reverse

/-- The text without its leading blanks. -/
def trimStart (t : Text) : Text := t.dropWhile isBlank

/-- The text without its trailing blanks. -/
def trimEnd (t : Text) : Text := dropEndWhile isBlank t

/-- The text without the blanks around it. -/
def trim (t : Text) : Text := trimEnd (trimStart t)

/-- Whether a text is nothing but blanks. -/
def allBlank (t : Text) : Bool := t.all isBlank

/-! ## Known beginnings and ends -/

/-- What follows `p` in a text that begins with it. -/
def strip? : Text → Text → Option Text
  | [], t => some t
  | _ :: _, [] => none
  | p :: ps, c :: t => if p == c then strip? ps t else none

/-- What precedes `s` in a text that ends with it. -/
def stripEnd? (s t : Text) : Option Text :=
  (strip? s.reverse t.reverse).map List.reverse

/-- Whether a text begins with `p`. -/
def beginsWith (p t : Text) : Bool := (strip? p t).isSome

/-- Whether a text ends with `s`. -/
def endsWith (s t : Text) : Bool := (stripEnd? s t).isSome

/-- Whether two texts are equal up to the case of ASCII letters. -/
def sameLetters : Text → Text → Bool
  | [], [] => true
  | a :: s, b :: t => lowerLetter a == lowerLetter b && sameLetters s t
  | _, _ => false

/-- What follows `p` in a text that begins with it up to the case of ASCII letters. -/
def stripLetters? : Text → Text → Option Text
  | [], t => some t
  | _ :: _, [] => none
  | p :: ps, c :: t => if lowerLetter p == lowerLetter c then stripLetters? ps t else none

/-! ## Measures and orders -/

/-- The number of bytes of a text in UTF-8. -/
def byteLength (t : Text) : Nat := t.foldl (fun n c => n + c.utf8Size) 0

/-- Comparison by characters, which is also the order of the UTF-8 bytes. -/
def compare : Text → Text → Ordering
  | [], [] => .eq
  | [], _ :: _ => .lt
  | _ :: _, [] => .gt
  | a :: s, b :: t => if a.toNat < b.toNat then .lt else if b.toNat < a.toNat then .gt else compare s t

/-- The decimal digits of a number. -/
def ofNat (n : Nat) : Text := (Nat.repr n).toList

/-- The decimal form of an integer. -/
def ofInt : Int → Text
  | .ofNat n => ofNat n
  | .negSucc n => '-' :: ofNat (n + 1)

/-!
## Characters by boundaries

A class of characters outside ASCII is given by the code points at which membership changes, in
ascending order: a character belongs to the class when an odd number of boundaries lie at or below
it.
-/

/-- Whether the code point `n` lies in the class, given that membership is `inside` below the first
boundary. -/
def between (n : Nat) : Bool → List Nat → Bool
  | inside, [] => inside
  | inside, b :: rest => if n < b then inside else between n (!inside) rest

/-- Whether a character lies in the class with these boundaries. -/
def inBoundaries (boundaries : List Nat) (c : Char) : Bool := between c.toNat false boundaries

end Text

end WikiPress
