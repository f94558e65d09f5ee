import WikiPress.Text.Case
import WikiPress.Text.Category
import WikiPress.Text.Punctuation
import WikiPress.Text.ScriptData

/-!
# Pattern/CharSet — the sets of characters that a pattern tests

A set is an expression over ranges and named properties; `CharSet.mem` evaluates it for one
character.  Matching without regard to case is an operation on sets: `folded s` holds every
character that has the same case folding as a member of `s`.
-/

namespace WikiPress.Pattern

open WikiPress.Text (Category)

/-- A named property of characters. -/
inductive Property
  /-- Every character. -/
  | any
  /-- The characters of one general category. -/
  | category (category : Category)
  /-- Letters and what counts as a letter. -/
  | alphabetic
  /-- White space. -/
  | blank
  /-- Word characters. -/
  | word
  /-- Capital letters and what counts as one. -/
  | uppercase
  /-- Small letters and what counts as one. -/
  | lowercase
  /-- The characters of a script, or another class given by its boundaries. -/
  | within (boundaries : List Nat)
deriving DecidableEq, Repr

/-- Whether a character has a property. -/
def Property.holds : Property → Char → Bool
  | any, _ => true
  | category k, c => k.holds c
  | alphabetic, c => Text.isAlphabetic c
  | blank, c => Text.isBlank c
  | word, c => Text.isWord c
  | uppercase, c => Category.uppercaseLetter.holds c || Text.inBoundaries otherUppercase c
  | lowercase, c => Category.lowercaseLetter.holds c || Text.inBoundaries otherLowercase c
  | within boundaries, c => Text.inBoundaries boundaries c
where
  /-- Capital Roman numerals and circled capital letters. -/
  otherUppercase : List Nat :=
    [0x2160, 0x2170, 0x24B6, 0x24D0, 0x1F130, 0x1F14A, 0x1F150, 0x1F16A, 0x1F170, 0x1F18A]
  /-- Ordinal signs, modifier letters, small Roman numerals and circled small letters. -/
  otherLowercase : List Nat :=
    [0xAA, 0xAB, 0xBA, 0xBB, 0x2B0, 0x2B9, 0x2C0, 0x2C2, 0x2E0, 0x2E5, 0x345, 0x346, 0x37A, 0x37B,
     0x10FC, 0x10FD, 0x1D2C, 0x1D6B, 0x1D78, 0x1D79, 0x1D9B, 0x1DC0, 0x2071, 0x2072, 0x207F, 0x2080,
     0x2090, 0x209D, 0x2170, 0x2180, 0x24D0, 0x24EA, 0x2C7C, 0x2C7E, 0xA69C, 0xA69E, 0xA770, 0xA771,
     0xA7F2, 0xA7F5, 0xA7F8, 0xA7FA, 0xAB5C, 0xAB60, 0xAB69, 0xAB6A, 0x10780, 0x10781, 0x10783,
     0x10786, 0x10787, 0x107B1, 0x107B2, 0x107BB, 0x1E030, 0x1E06E]

/-! ## Case -/

/-- The characters that one run of a case mapping sends to the code point `n`. -/
def sources (n : Nat) (run : Text.CaseRun) : List Char :=
  let source := (Int.ofNat n - run.shift).toNat
  if run.first ≤ source && source ≤ run.last && (source - run.first) % run.step == 0
  then [Char.ofNat source] else []

/-- Every character with the same case folding as `c`. -/
def caseForms (c : Char) : List Char :=
  let base := Text.simpleFold c
  base :: Text.upperLetter base :: Text.foldRuns.flatMap (sources base.toNat)

/-! ## Sets -/

/-- A set of characters. -/
inductive CharSet
  /-- No character. -/
  | none
  /-- The characters from `first` to `last`. -/
  | range (first last : Char)
  /-- The characters with a property. -/
  | property (property : Property)
  /-- The characters of either set. -/
  | union (a b : CharSet)
  /-- The characters of both sets. -/
  | inter (a b : CharSet)
  /-- The characters that are not in a set. -/
  | compl (a : CharSet)
  /-- The characters with the case folding of a member. -/
  | folded (a : CharSet)
deriving DecidableEq, Repr

namespace CharSet

/-- Whether a character is in a set. -/
def mem : CharSet → Char → Bool
  | none, _ => false
  | range first last, c => first ≤ c && c ≤ last
  | property p, c => p.holds c
  | union a b, c => a.mem c || b.mem c
  | inter a b, c => a.mem c && b.mem c
  | compl a, c => !a.mem c
  | folded a, c => (caseForms c).any a.mem

/-- The set of one character. -/
def single (c : Char) : CharSet := range c c

/-- The characters of `a` that are not in `b`. -/
def diff (a b : CharSet) : CharSet := inter a (compl b)

/-- The characters of exactly one of the sets. -/
def symmDiff (a b : CharSet) : CharSet := union (diff a b) (diff b a)

/-- The union of several sets. -/
def unions (sets : List CharSet) : CharSet := sets.foldr union none

/-- The complement if `negated`, else the set itself. -/
def complIf (negated : Bool) (a : CharSet) : CharSet := if negated then compl a else a

/-- The characters of ASCII. -/
def ascii : CharSet := range (Char.ofNat 0) (Char.ofNat 0x7F)

/-- The members within ASCII of the set folded within ASCII. -/
def foldedAscii (a : CharSet) : CharSet := inter ascii (folded (inter ascii a))

@[simp] theorem mem_none (c : Char) : none.mem c = false := rfl

@[simp] theorem mem_union (a b : CharSet) (c : Char) : (union a b).mem c = (a.mem c || b.mem c) := rfl

@[simp] theorem mem_inter (a b : CharSet) (c : Char) : (inter a b).mem c = (a.mem c && b.mem c) := rfl

@[simp] theorem mem_compl (a : CharSet) (c : Char) : (compl a).mem c = !a.mem c := rfl

end CharSet

end WikiPress.Pattern
