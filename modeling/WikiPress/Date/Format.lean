import WikiPress.Date.Civil
import WikiPress.Text.Case

/-!
# Date/Format — dates by a format text

A format text is copied, except for directives: a percent sign, an optional flag, an optional width
and a letter.  A directive that asks for what a date does not have, or that does not exist, is
copied as well.
-/

namespace WikiPress.Date

/-- How a directive changes its default rendering. -/
inductive Flag
  /-- Pad with spaces. -/
  | padSpace
  /-- Pad with zeros. -/
  | padZero
  /-- Do not pad. -/
  | noPad
  /-- Write letters in upper case. -/
  | upper
  /-- Swap the case of what is written in one case. -/
  | swap
deriving DecidableEq, Repr

/-- The flag and the width of a directive. -/
structure Layout where
  flag : Option Flag
  width : Option Nat
deriving DecidableEq, Repr

/-- The full English names of the days of the week, from Monday. -/
def weekdayNames : List Text :=
  [lit "Monday", lit "Tuesday", lit "Wednesday", lit "Thursday", lit "Friday", lit "Saturday",
    lit "Sunday"]

/-- The full English names of the months. -/
def monthNames : List Text :=
  [lit "January", lit "February", lit "March", lit "April", lit "May", lit "June", lit "July",
    lit "August", lit "September", lit "October", lit "November", lit "December"]

/-- A number padded with `pad` to `width` characters, the sign included, unless the layout says
otherwise. -/
def Layout.number (l : Layout) (pad : Char) (width : Option Nat) (n : Int) : Text :=
  let pad := match l.flag with
    | some .padZero => '0'
    | some .padSpace => ' '
    | _ => pad
  let width := match l.flag with
    | some .noPad => 0
    | _ => (l.width.or width).getD 0
  let digits := Text.ofNat n.natAbs
  let sign : Text := if n < 0 then ['-'] else []
  sign ++ List.replicate (width - sign.length - digits.length) pad ++ digits

/-- A name, in upper case if the layout asks for it. -/
def Layout.name (l : Layout) (name : Text) : Text :=
  match l.flag with
  | some .upper => name.flatMap Text.upperChar
  | _ => name

/-- The rendering of a directive letter that stands for one part of a date. -/
def field? (d : Date) (l : Layout) (letter : Char) : Option Text :=
  match letter with
  | '%' => some ['%']
  | 'n' => some ['\n']
  | 't' => some ['\t']
  | 'A' => some (l.name (weekdayNames.getD d.weekday []))
  | 'a' => some (l.name ((weekdayNames.getD d.weekday []).take 3))
  | 'B' => some (l.name (monthNames.getD (d.month - 1) []))
  | 'b' | 'h' => some (l.name ((monthNames.getD (d.month - 1) []).take 3))
  | 'C' => some (l.number ' ' none (d.year.tdiv 100))
  | 'd' => some (l.number '0' (some 2) d.day)
  | 'e' => some (l.number ' ' (some 2) d.day)
  | 'G' => some (l.number '0' (some 4) d.isoWeek.1)
  | 'g' => some (l.number '0' (some 2) (d.isoWeek.1.tmod 100))
  | 'j' => some (l.number '0' (some 3) d.ordinal)
  | 'm' => some (l.number '0' (some 2) d.month)
  | 'q' => some (l.number '0' none ((d.month + 2) / 3 : Nat))
  | 'U' => some (l.number '0' (some 2) (d.weekOfYear 6))
  | 'u' => some (l.number ' ' none (d.weekday + 1 : Nat))
  | 'V' => some (l.number '0' (some 2) d.isoWeek.2)
  | 'W' => some (l.number '0' (some 2) (d.weekOfYear 0))
  | 'w' => some (l.number ' ' none ((d.weekday + 1) % 7 : Nat))
  | 'Y' => some (l.number '0' (some 4) d.year)
  | 'y' => some (l.number '0' (some 2) (d.year.tmod 100))
  | _ => none

/-- The rendering of a directive letter, combined ones included.  Those with a time of day show what
a date cannot fill as the directive itself. -/
def directive? (d : Date) (l : Layout) (letter : Char) : Option Text :=
  let plain : Layout := ⟨none, none⟩
  let fields (l : Layout) (letters : Text) (between : Char) : Option Text :=
    (letters.mapM (field? d l)).map fun parts => (parts.intersperse [between]).flatten
  match letter with
  | 'D' => fields l (lit "mdy") '/'
  | 'F' => fields l (lit "Ymd") '-'
  | 'x' | 'c' => do
    let year ← field? d plain 'Y'
    let month ← field? d plain 'm'
    let day ← field? d ⟨some .noPad, none⟩ 'd'
    let date := year ++ lit " M" ++ month ++ ' ' :: day
    if letter == 'x' then some date
    else some (date ++ lit ", " ++ (← field? d plain 'a') ++ lit " %H:%M:%S")
  | 'X' => some (lit "%H:%M:%S")
  | 'r' => some (lit "%-I:%M:%S %p")
  | _ => field? d l letter

/-- The flag that a character writes. -/
def flag? (c : Char) : Option Flag :=
  if c == '_' then some .padSpace
  else if c == '0' then some .padZero
  else if c == '-' then some .noPad
  else if c == '^' then some .upper
  else if c == '#' then some .swap
  else none

/-- The rendering of the directive after a percent sign, and what follows it. -/
def renderDirective? (d : Date) (t : Text) : Option (Text × Text) :=
  let (flag, t) : Option Flag × Text := match t with
    | c :: rest => match flag? c with
      | some flag => (some flag, rest)
      | none => (none, t)
    | [] => (none, [])
  let digits := t.takeWhile Text.isDigit
  let width := digits.foldl (fun n c => n * 10 + Text.digitValue c) 0
  if 255 < width then none
  else
    match t.dropWhile Text.isDigit with
    | letter :: rest =>
      (directive? d ⟨flag, if digits.isEmpty then none else some width⟩ letter).map (·, rest)
    | [] => none

/-- Render a format text, within `fuel` characters and directives. -/
def formatWithin (d : Date) : (fuel : Nat) → Text → Text
  | 0, _ => []
  | _, [] => []
  | fuel + 1, c :: t =>
    if c == '%' then
      match renderDirective? d t with
      | some (rendered, rest) => rendered ++ formatWithin d fuel rest
      | none => '%' :: formatWithin d fuel t
    else c :: formatWithin d fuel t

/-- **A date by a format text.** -/
def format (pattern : Text) (d : Date) : Text := formatWithin d pattern.length pattern

/-- A date as year, month and day; years before zero have a sign and six digits. -/
def iso (d : Date) : Text :=
  let pad (width n : Nat) : Text :=
    let digits := Text.ofNat n
    List.replicate (width - digits.length) '0' ++ digits
  (if d.year < 0 then '-' :: pad 6 d.year.natAbs else pad 4 d.year.natAbs)
    ++ '-' :: pad 2 d.month ++ '-' :: pad 2 d.day

end WikiPress.Date
