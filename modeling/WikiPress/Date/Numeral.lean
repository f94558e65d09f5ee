import WikiPress.Date.Civil
import WikiPress.Text.Number

/-!
# Date/Numeral — reading dates written in numbers

A date is written `2021-03-04` or `20210304`; years of six digits have a sign.  A time of day, an
offset and annotations in brackets may follow; they are checked and then ignored.  A date at offset
`Z` names an instant and no date.
-/

namespace WikiPress.Date

/-- The number written by exactly `n` digits, and what follows. -/
def digits? (n : Nat) (t : Text) : Option (Nat × Text) :=
  let ds := t.take n
  if ds.length == n && ds.all Text.isDigit then some (Text.decimalValue ds, t.drop n) else none

/-- A number of two digits from `low` to `high`, and what follows. -/
def pair? (low high : Nat) (t : Text) : Option (Nat × Text) :=
  (digits? 2 t).filter fun (n, _) => low ≤ n && n ≤ high

/-- The year: four digits, or a sign and six digits. -/
def year? : Text → Option (Int × Text)
  | '+' :: t => (digits? 6 t).map fun (n, rest) => ((n : Int), rest)
  | '-' :: t => ((digits? 6 t).filter fun (n, _) => n != 0).map fun (n, rest) => (-(n : Int), rest)
  | t => (digits? 4 t).map fun (n, rest) => ((n : Int), rest)

/-- The year, month and day that a text begins with. -/
def calendarDate? (t : Text) : Option (Date × Text) := do
  let (year, t) ← year? t
  let dashed := Text.beginsWith ['-'] t
  let separator (t : Text) : Option Text :=
    if dashed then Text.strip? ['-'] t else if Text.beginsWith ['-'] t then none else some t
  let (month, t) ← pair? 1 12 (← separator t)
  let (day, t) ← pair? 1 31 (← separator t)
  let date ← mk? year month day
  return (date, t)

/-- What follows the separator before the next two digits of a time: a colon where times are written
with colons, nothing otherwise. -/
def nextPart? (colons : Bool) (t : Text) : Option Text :=
  if colons then Text.strip? [':'] t else (digits? 2 t).map fun _ => t

/-- What follows an optional fraction of at most nine digits. -/
def skipFraction? : Text → Option Text
  | c :: t =>
    if c == '.' || c == ',' then
      match (t.takeWhile Text.isDigit).length with
      | 0 => none
      | n => some (t.drop (min n 9))
    else some (c :: t)
  | [] => some []

/-- What follows a time of day. -/
def skipTime? (t : Text) : Option Text := do
  let (_, t) ← pair? 0 23 t
  let colons := Text.beginsWith [':'] t
  match nextPart? colons t with
  | none => return t
  | some t =>
    let (_, t) ← pair? 0 59 t
    match nextPart? colons t with
    | none => return t
    | some t =>
      let (_, t) ← pair? 0 60 t
      skipFraction? t

/-- What follows the hours, minutes and seconds of an offset after its sign. -/
def skipOffsetNumber? (t : Text) : Option Text := do
  let (_, t) ← pair? 0 25 t
  let colons := Text.beginsWith [':'] t
  match nextPart? colons t with
  | none => return t
  | some t =>
    let (_, t) ← pair? 0 59 t
    match nextPart? colons t with
    | none => return t
    | some t =>
      let (_, t) ← pair? 0 59 t
      skipFraction? t

/-- What follows an optional offset in numbers. -/
def skipOffset? : Text → Option Text
  | c :: t =>
    if c == '+' || c == '-' then skipOffsetNumber? t
    else if c == 'Z' || c == 'z' then none
    else some (c :: t)
  | [] => some []

/-- A character of a time zone name after its first one. -/
def isZoneChar (c : Char) : Bool :=
  Text.isLetter c || Text.isDigit c || c == '.' || c == '_' || c == '+' || c == '-'

/-- What follows one part of a time zone name. -/
def skipZonePart? : Text → Option Text
  | c :: t =>
    if Text.isLetter c || c == '.' || c == '_' then some (t.dropWhile isZoneChar) else none
  | [] => none

/-- What follows the further parts of a time zone name and the closing bracket, within `fuel`
parts. -/
def skipZoneRest? : (fuel : Nat) → Text → Option Text
  | 0, _ => none
  | fuel + 1, t =>
    match t with
    | '/' :: t => (skipZonePart? t).bind (skipZoneRest? fuel)
    | ']' :: t => some t
    | _ => none

/-- What follows the values of an annotation and the closing bracket, within `fuel` values. -/
def skipValues? : (fuel : Nat) → Text → Option Text
  | 0, _ => none
  | fuel + 1, t =>
    let isValueChar (c : Char) := Text.isLetter c || Text.isDigit c
    if (t.takeWhile isValueChar).isEmpty then none
    else
      match t.dropWhile isValueChar with
      | '-' :: t => skipValues? fuel t
      | ']' :: t => some t
      | _ => none

/-- What follows the annotations `[key=value]`, within `fuel` of them.  None may be critical. -/
def skipAnnotations? : (fuel : Nat) → Text → Option Text
  | 0, t => some t
  | fuel + 1, t =>
    match t with
    | '[' :: t => do
      let isLower (c : Char) := 'a' ≤ c && c ≤ 'z'
      let isKeyChar (c : Char) := isLower c || Text.isDigit c || c == '_' || c == '-'
      match t with
      | c :: rest =>
        if isLower c || c == '_' then
          let t ← Text.strip? ['='] (rest.dropWhile isKeyChar)
          skipAnnotations? fuel (← skipValues? t.length t)
        else none
      | [] => none
    | t => some t

/-- What follows the time zone and the annotations in brackets. -/
def skipBrackets? (t : Text) : Option Text :=
  match t with
  | '[' :: inner => do
    let inner := (Text.strip? ['!'] inner).getD inner
    match inner with
    | c :: after =>
      if c == '+' || c == '-' then
        let rest ← Text.strip? [']'] (← skipOffsetNumber? after)
        skipAnnotations? rest.length rest
      else
        let rest ← skipZonePart? inner
        if Text.beginsWith ['='] rest then skipAnnotations? t.length t
        else
          let rest ← skipZoneRest? (rest.length + 1) rest
          skipAnnotations? rest.length rest
    | [] => none
  | t => some t

/-- **Read a date.**  The whole text has to be a date, or a date with a time of day. -/
def read? (t : Text) : Option Date := do
  let (date, t) ← calendarDate? t
  let t ← match t with
    | c :: rest =>
      if c == ' ' || c == 'T' || c == 't' then (skipTime? rest).bind skipOffset? else some t
    | [] => some []
  let rest ← skipBrackets? t
  if rest.isEmpty then some date else none

end WikiPress.Date
