import WikiPress.Text.Basic

/-!
# Text/Number — reading decimal numbers

Two readings are used: the lenient one of clip parameters, which takes the number a text begins with
and saturates, and the strict one of sizes and indices, which takes a whole text within a bound.
-/

namespace WikiPress.Text

/-- The largest signed number of 64 bits. -/
def maxSigned : Nat := 9223372036854775807

/-- Numbers of 32 bits are below this bound. -/
def bound32 : Nat := 4294967296

/-- Numbers of 64 bits are below this bound. -/
def bound64 : Nat := 18446744073709551616

/-- Append a digit to a number that saturates at `maxSigned`. -/
def pushDigit (n : Nat) (c : Char) : Nat := min maxSigned (min maxSigned (n * 10) + digitValue c)

/-- The value of a run of digits, saturating at `maxSigned`. -/
def saturatingValue (digits : Text) : Nat := digits.foldl pushDigit 0

/-- The value of a run of digits. -/
def decimalValue (digits : Text) : Nat := digits.foldl (fun n c => n * 10 + digitValue c) 0

/-- **The integer a text begins with**: optional blanks, an optional sign and at least one digit.
What follows is ignored, and numbers beyond the signed range of 64 bits saturate. -/
def leadingInt? (t : Text) : Option Int :=
  let (negative, t) := match trimStart t with
    | '-' :: r => (true, r)
    | '+' :: r => (false, r)
    | r => (false, r)
  match t.takeWhile isDigit with
  | [] => none
  | digits =>
    let n : Int := saturatingValue digits
    some (if negative then -n else n)

/-- The number a whole text writes in decimal digits, with an optional plus sign, if it is below
`bound`. -/
def unsigned? (bound : Nat) (t : Text) : Option Nat :=
  let digits := match t with
    | '+' :: r => r
    | r => r
  if digits.isEmpty || !digits.all isDigit then none
  else
    let n := decimalValue digits
    if n < bound then some n else none

end WikiPress.Text
