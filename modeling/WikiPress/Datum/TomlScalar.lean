import WikiPress.Datum.Basic
import WikiPress.Text.Number

/-!
# Datum/TomlScalar — the words of TOML

Comments, names and the values that hold no others: texts in four kinds of quotes, truth values,
numbers, dates and times.
-/

namespace WikiPress.Datum.Toml

/-- A space or a tab. -/
def isSpace (c : Char) : Bool := c == ' ' || c == '\t'

/-- A character that may stand in a comment or between quotes. -/
def isPlain (c : Char) : Bool := c == '\t' || (0x20 ≤ c.toNat && c.toNat != 0x7F)

/-- The text from its first character that is neither space nor tab. -/
def skipSpaces (t : Text) : Text := t.dropWhile isSpace

/-- What follows the line end that a text begins with. -/
def lineEnd? : Text → Option Text
  | '\n' :: t => some t
  | '\r' :: '\n' :: t => some t
  | _ => none

/-- The text without the comment it begins with. -/
def skipComment : Text → Text
  | '#' :: t => t.dropWhile isPlain
  | t => t

/-- What follows the end of a line of which only spaces and a comment may be left. -/
def endLine? (t : Text) : Option Text :=
  match skipComment (skipSpaces t) with
  | [] => some []
  | t => lineEnd? t

/-- The text without spaces, comments and line ends; within `fuel` steps. -/
def skipFiller : (fuel : Nat) → Text → Text
  | 0, t => t
  | fuel + 1, t =>
    let t := skipComment (skipSpaces t)
    match lineEnd? t with
    | some rest => skipFiller fuel rest
    | none => t

/-! ## Texts -/

/-- The character with the code point that `n` hexadecimal digits write, and what follows them. -/
def codePoint? (n : Nat) (t : Text) : Option (Char × Text) :=
  let digits := t.take n
  if digits.length == n && digits.all fun c => (Text.hexDigit? c).isSome then
    let code := digits.foldl (fun n c => n * 16 + (Text.hexDigit? c).getD 0) 0
    if h : code.isValidChar then some (Char.ofNatAux code h, t.drop n) else none
  else none

/-- The character that an escape stands for, after the backslash, and what follows it. -/
def escape? : Text → Option (Char × Text)
  | [] => none
  | c :: t =>
    if c == '"' || c == '\\' then some (c, t)
    else if c == 'b' then some (Char.ofNat 8, t)
    else if c == 't' then some ('\t', t)
    else if c == 'n' then some ('\n', t)
    else if c == 'f' then some (Char.ofNat 12, t)
    else if c == 'r' then some ('\r', t)
    else if c == 'e' then some (Char.ofNat 27, t)
    else if c == 'x' then codePoint? 2 t
    else if c == 'u' then codePoint? 4 t
    else if c == 'U' then codePoint? 8 t
    else none

/-- A text in double quotes on one line, after the opening quote; within `fuel` characters. -/
def basic? : (fuel : Nat) → Text → Option (Text × Text)
  | 0, _ => none
  | _ + 1, [] => none
  | fuel + 1, c :: t =>
    if c == '"' then some ([], t)
    else if c == '\\' then
      match escape? t with
      | none => none
      | some (c, t) => (basic? fuel t).map fun (s, t) => (c :: s, t)
    else if isPlain c then (basic? fuel t).map fun (s, t) => (c :: s, t)
    else none

/-- A text in single quotes on one line, after the opening quote. -/
def literal? (t : Text) : Option (Text × Text) :=
  match t.dropWhile fun c => isPlain c && c != '\'' with
  | '\'' :: rest => some (t.takeWhile fun c => isPlain c && c != '\'', rest)
  | _ => none

/-- The end of a text in three quotes: up to two quotes before the closing ones belong to it. -/
def closeQuotes (quote : Char) (t : Text) : Option (Text × Text) :=
  let n := min 5 (t.takeWhile (· == quote)).length
  if n < 3 then none else some (List.replicate (n - 3) quote, t.drop n)

/-- What follows a backslash at the end of a line: the text from the next character that is no
white space. -/
def continueLine? (t : Text) : Option Text :=
  (lineEnd? (skipSpaces t)).map fun rest =>
    rest.dropWhile fun c => isSpace c || c == '\n' || c == '\r'

/-- A text in three quotes after the opening ones; with `escapes` a backslash begins an escape.
Within `fuel` characters. -/
def lines? (quote : Char) (escapes : Bool) : (fuel : Nat) → Text → Option (Text × Text)
  | 0, _ => none
  | _ + 1, [] => none
  | fuel + 1, c :: t =>
    match closeQuotes quote (c :: t) with
    | some found => some found
    | none =>
      if escapes && c == '\\' then
        match continueLine? t with
        | some rest => lines? quote escapes fuel rest
        | none => match escape? t with
          | none => none
          | some (c, t) => (lines? quote escapes fuel t).map fun (s, t) => (c :: s, t)
      else if isPlain c || c == '\n' || (c == '\r' && t.head? == some '\n') then
        (lines? quote escapes fuel t).map fun (s, t) => (c :: s, t)
      else none

/-- A text without the line end it begins with. -/
def dropLineEnd (t : Text) : Text := (lineEnd? t).getD t

/-- The text in quotes that a text begins with, and what follows it; `none` in place of it if the
quotes hold no text. -/
def quoted? (t : Text) : Option (Option (Text × Text)) :=
  match t with
  | '"' :: '"' :: '"' :: t => some (lines? '"' true (t.length + 1) (dropLineEnd t))
  | '\'' :: '\'' :: '\'' :: t => some (lines? '\'' false (t.length + 1) (dropLineEnd t))
  | '"' :: t => some (basic? (t.length + 1) t)
  | '\'' :: t => some (literal? t)
  | _ => none

/-! ## Names -/

/-- A character of a name without quotes. -/
def isNameChar (c : Char) : Bool := Text.isLetter c || Text.isDigit c || c == '_' || c == '-'

/-- The name that a text begins with, and what follows it. -/
def name? (t : Text) : Option (Text × Text) :=
  match t with
  | '"' :: t => basic? (t.length + 1) t
  | '\'' :: t => literal? t
  | t =>
    let name := t.takeWhile isNameChar
    if name.isEmpty then none else some (name, t.dropWhile isNameChar)

/-- Names between dots, and what follows them; within `fuel` names. -/
def names? : (fuel : Nat) → Text → Option (List Text × Text)
  | 0, _ => none
  | fuel + 1, t =>
    match name? (skipSpaces t) with
    | none => none
    | some (name, t) => match skipSpaces t with
      | '.' :: t => (names? fuel t).map fun (names, t) => (name :: names, t)
      | t => some ([name], t)

/-! ## Numbers, dates and times -/

/-- Whether a text is digits, with single underscores between them. -/
def isDigits (digit : Char → Bool) : Text → Bool
  | [] => false
  | [c] => digit c
  | c :: '_' :: t => digit c && isDigits digit t
  | c :: t => digit c && isDigits digit t

/-- The text without its sign. -/
def unsigned (t : Text) : Text :=
  match t with
  | '+' :: t => t
  | '-' :: t => t
  | t => t

/-- Whether a text is a whole number without sign and without leading zeros. -/
def isWhole (t : Text) : Bool :=
  match t with
  | '0' :: _ :: _ => false
  | t => isDigits Text.isDigit t

/-- Whether a text is an integer. -/
def isInteger (t : Text) : Bool :=
  match t with
  | '0' :: 'x' :: t => isDigits (fun c => (Text.hexDigit? c).isSome) t
  | '0' :: 'o' :: t => isDigits (fun c => '0' ≤ c && c ≤ '7') t
  | '0' :: 'b' :: t => isDigits (fun c => c == '0' || c == '1') t
  | t => isWhole (unsigned t)

/-- Whether a text is an exponent. -/
def isExponent (t : Text) : Bool := isDigits Text.isDigit (unsigned t)

/-- Whether a text is a number with a fraction or an exponent, or one of the numbers with names. -/
def isFloat (t : Text) : Bool :=
  let t := unsigned t
  if t == lit "inf" || t == lit "nan" then true
  else
    let isE (c : Char) : Bool := c == 'e' || c == 'E'
    let mantissa := t.takeWhile fun c => !isE c
    let exponent := t.dropWhile fun c => !isE c
    let whole := mantissa.takeWhile (· != '.')
    let fraction := mantissa.dropWhile (· != '.')
    isWhole whole && (fraction.isEmpty || isDigits Text.isDigit (fraction.drop 1))
      && (exponent.isEmpty || isExponent (exponent.drop 1))
      && !(fraction.isEmpty && exponent.isEmpty)

/-- The number that two digits write. -/
def twoDigits? (a b : Char) : Option Nat :=
  if Text.isDigit a && Text.isDigit b then some (Text.digitValue a * 10 + Text.digitValue b) else none

/-- The number of days of a month. -/
def daysOf (year month : Nat) : Nat :=
  if month == 2 then
    if (year % 4 == 0 && year % 100 != 0) || year % 400 == 0 then 29 else 28
  else if [4, 6, 9, 11].contains month then 30
  else 31

/-- What follows the date that a text begins with. -/
def afterDate? : Text → Option Text
  | y :: y' :: y'' :: y''' :: '-' :: m :: m' :: '-' :: d :: d' :: t =>
    match twoDigits? y y', twoDigits? y'' y''', twoDigits? m m', twoDigits? d d' with
    | some c, some y, some m, some d =>
      if 1 ≤ m && m ≤ 12 && 1 ≤ d && d ≤ daysOf (c * 100 + y) m then some t else none
    | _, _, _, _ => none
  | _ => none

/-- What follows the hours and minutes that a text begins with. -/
def afterMinutes? : Text → Option Text
  | h :: h' :: ':' :: m :: m' :: t =>
    match twoDigits? h h', twoDigits? m m' with
    | some h, some m => if h ≤ 23 && m ≤ 59 then some t else none
    | _, _ => none
  | _ => none

/-- What follows the time that a text begins with. -/
def afterTime? (t : Text) : Option Text :=
  match afterMinutes? t with
  | some (':' :: s :: s' :: t) =>
    match twoDigits? s s' with
    | none => none
    | some n =>
      if 60 < n then none
      else match t with
        | '.' :: t =>
          if (t.takeWhile Text.isDigit).isEmpty then none else some (t.dropWhile Text.isDigit)
        | t => some t
  | other => other

/-- Whether a text is empty or the distance of a time zone. -/
def isOffset (t : Text) : Bool :=
  match t with
  | [] => true
  | ['Z'] | ['z'] => true
  | c :: t => (c == '+' || c == '-') && afterMinutes? t == some []

/-- Whether a text is a date, a time or both. -/
def isMoment (t : Text) : Bool :=
  match afterDate? t with
  | some [] => true
  | some (c :: t) =>
    (c == 'T' || c == 't' || c == ' ') && ((afterTime? t).map isOffset).getD false
  | none => afterTime? t == some []

/-- A character of a value without quotes. -/
def isWordChar (c : Char) : Bool := isNameChar c || c == '+' || c == '.' || c == ':'

/-- The word that a text begins with; the space between a date and a time belongs to it. -/
def word (t : Text) : Text × Text :=
  let first := t.takeWhile isWordChar
  let rest := t.dropWhile isWordChar
  match rest with
  | ' ' :: c :: _ =>
    if afterDate? first == some [] && Text.isDigit c then
      (first ++ ' ' :: (rest.drop 1).takeWhile isWordChar, (rest.drop 1).dropWhile isWordChar)
    else (first, rest)
  | _ => (first, rest)

/-- The value of a word. -/
def wordValue? (w : Text) : Option Datum :=
  if w == lit "true" then some (.bool true)
  else if w == lit "false" then some (.bool false)
  else if isInteger w || isFloat w || isMoment w then some (.scalar w)
  else none

end WikiPress.Datum.Toml
