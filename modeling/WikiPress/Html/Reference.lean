import WikiPress.Marks
import WikiPress.Text.NamedCharacter

/-!
# Html/Reference — character references in HTML

HTML accepts references without a semicolon: by number always, by name for the oldest names, of which
the longest one counts.
-/

namespace WikiPress.Html

/-- The characters that the numbers from 128 to 159 are taken to mean. -/
def windowsChars : List Nat :=
  [0x20AC, 0x81, 0x201A, 0x0192, 0x201E, 0x2026, 0x2020, 0x2021, 0x02C6, 0x2030, 0x0160, 0x2039,
   0x0152, 0x8D, 0x017D, 0x8F, 0x90, 0x2018, 0x2019, 0x201C, 0x201D, 0x2022, 0x2013, 0x2014, 0x02DC,
   0x2122, 0x0161, 0x203A, 0x0153, 0x9D, 0x017E, 0x0178]

/-- The character with a number in a reference. -/
def referencedChar (n : Nat) : Char :=
  if n == 0 then '\uFFFD'
  else if 128 ≤ n && n < 160 then Char.ofNat (windowsChars.getD (n - 128) n)
  else (charOfCode? n).getD '\uFFFD'

/-- What follows the semicolon a text may begin with. -/
def skipSemicolon (t : Text) : Text :=
  match t with
  | ';' :: rest => rest
  | _ => t

/-- The character of a reference by number that follows `&#`, with what follows it. -/
def numericReference? (t : Text) : Option (Text × Text) :=
  match t with
  | [] => none
  | x :: r =>
    if x == 'x' || x == 'X' then
      let digits := r.takeWhile fun c => (Text.hexDigit? c).isSome
      if digits.isEmpty then none
      else some ([referencedChar (hexValue digits)], skipSemicolon (r.drop digits.length))
    else
      let digits := t.takeWhile Text.isDigit
      let value := digits.foldl (fun n c => n * 10 + Text.digitValue c) 0
      if digits.isEmpty then none
      else some ([referencedChar value], skipSemicolon (t.drop digits.length))

/-- A character of a name. -/
def isNameChar (c : Char) : Bool := Text.isLetter c || Text.isDigit c

/-- The longest name of at most `n` characters that needs no semicolon, at the beginning of a text:
its length and its characters. -/
def bareName? (t : Text) : (n : Nat) → Option (Nat × Text)
  | 0 => none
  | n + 1 =>
    let name := t.take (n + 1)
    if Text.needsNoSemicolon name then (Text.named? name).map (n + 1, ·) else bareName? t n

/-- The characters of a reference by name that follows `&`, with what follows it.  In an attribute a
name without a semicolon is no reference if it could go on. -/
def namedReference? (inAttribute : Bool) (t : Text) : Option (Text × Text) :=
  let run := t.takeWhile isNameChar
  let rest := t.drop run.length
  let whole := match rest with
    | ';' :: after => (Text.named? run).map (·, after)
    | _ => none
  match whole with
  | some found => some found
  | none =>
    match bareName? run (min run.length 6) with
    | none => none
    | some (n, chars) =>
      let rest := t.drop n
      let goesOn := match rest with
        | c :: _ => c == '=' || isNameChar c
        | [] => false
      if inAttribute && goesOn then none else some (chars, rest)

/-- **The characters of a reference** that follows `&`, with what follows it. -/
def reference? (inAttribute : Bool) (t : Text) : Option (Text × Text) :=
  match t with
  | '#' :: r => numericReference? r
  | _ => namedReference? inAttribute t

/-- Replace the references of a text, which has at most `fuel` characters. -/
def resolveWithin (inAttribute : Bool) : (fuel : Nat) → Text → Text
  | 0, t => t
  | _, [] => []
  | fuel + 1, c :: t =>
    match (if c == '&' then reference? inAttribute t else none) with
    | some (chars, rest) => chars ++ resolveWithin inAttribute fuel rest
    | none => c :: resolveWithin inAttribute fuel t

/-- A text with its references replaced. -/
def resolveReferences (inAttribute : Bool) (t : Text) : Text := resolveWithin inAttribute t.length t

end WikiPress.Html
