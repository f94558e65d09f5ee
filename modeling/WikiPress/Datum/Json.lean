import WikiPress.Datum.Basic
import WikiPress.Text.Split

/-!
# Datum/Json — data in JSON

`Datum.ofJson?` reads a whole text as one value, and `Datum.toJson` writes one.
-/

namespace WikiPress.Datum

/-!
## Reading

Names may repeat; whoever uses the table decides what that means.
-/

/-- The white space of JSON. -/
def isJsonSpace (c : Char) : Bool := c == ' ' || c == '\n' || c == '\t' || c == '\r'

/-- The text from its first character that is no white space. -/
def skipSpace (t : Text) : Text := t.dropWhile isJsonSpace

/-- The number that four hexadecimal digits write. -/
def hexQuad? (a b c d : Char) : Option Nat :=
  match Text.hexDigit? a, Text.hexDigit? b, Text.hexDigit? c, Text.hexDigit? d with
  | some a, some b, some c, some d => some (((a * 16 + b) * 16 + c) * 16 + d)
  | _, _, _, _ => none

/-- The character of an escape with one letter. -/
def letterEscape? (c : Char) : Option Char :=
  if c == '"' || c == '\\' || c == '/' then some c
  else if c == 'b' then some (Char.ofNat 8)
  else if c == 'f' then some (Char.ofNat 12)
  else if c == 'n' then some '\n'
  else if c == 'r' then some '\r'
  else if c == 't' then some '\t'
  else none

/-- What a text in quotes holds, whether all its escapes stand for characters, and what follows. -/
structure Quotation where
  text : Text
  sound : Bool
  rest : Text

namespace Quotation

/-- The quotation with a character in front. -/
def push (c : Char) (q : Quotation) : Quotation := { q with text := c :: q.text }

/-- The quotation with an escape in it that stands for no character. -/
def spoil (q : Quotation) : Quotation := { q with sound := false }

/-- Read up to the closing quote.  `high` is the first half of a character whose second half is
awaited. -/
def read? : (high : Option Nat) → Text → Option Quotation
  | _, [] => none
  | high, '\\' :: 'u' :: a :: b :: c :: d :: t =>
    match hexQuad? a b c d with
    | none => none
    | some n =>
      let spoilt := fun q : Quotation => if high.isSome then q.spoil else q
      if 0xD800 ≤ n && n < 0xDC00 then (read? (some n) t).map spoilt
      else if 0xDC00 ≤ n && n < 0xE000 then
        match high with
        | some h =>
          (read? none t).map (push (Char.ofNat (0x10000 + (h - 0xD800) * 0x400 + (n - 0xDC00))))
        | none => (read? none t).map spoil
      else (read? none t).map fun q => spoilt (q.push (Char.ofNat n))
  | high, '\\' :: c :: t =>
    match letterEscape? c with
    | none => none
    | some c => (read? none t).map fun q => if high.isSome then (q.push c).spoil else q.push c
  | high, c :: t =>
    if c == '"' then some ⟨[], high.isNone, t⟩
    else if c == '\\' || c.toNat < 0x20 then none
    else (read? none t).map fun q => if high.isSome then (q.push c).spoil else q.push c

end Quotation

/-- The number that a text begins with, as it is written, and what follows it. -/
def jsonNumber? (t : Text) : Option (Text × Text) :=
  let (sign, t) := match t with
    | '-' :: t => (['-'], t)
    | t => ([], t)
  let whole := t.takeWhile Text.isDigit
  let t := t.dropWhile Text.isDigit
  let leading := match whole with
    | '0' :: _ :: _ => true
    | _ => false
  if whole.isEmpty || leading then none
  else
    let fraction : Option (Text × Text) := match t with
      | '.' :: t =>
        let digits := t.takeWhile Text.isDigit
        if digits.isEmpty then none else some ('.' :: digits, t.dropWhile Text.isDigit)
      | t => some ([], t)
    match fraction with
    | none => none
    | some (fraction, t) =>
      let exponent : Option (Text × Text) := match t with
        | e :: t' =>
          if e == 'e' || e == 'E' then
            let (sign, t') := match t' with
              | '+' :: t' => (['+'], t')
              | '-' :: t' => (['-'], t')
              | t' => ([], t')
            let digits := t'.takeWhile Text.isDigit
            if digits.isEmpty then none
            else some (e :: sign ++ digits, t'.dropWhile Text.isDigit)
          else some ([], t)
        | [] => some ([], t)
      exponent.map fun (exponent, t) => (sign ++ whole ++ fraction ++ exponent, t)

mutual

/-- A value, and what follows it; within `fuel` steps. -/
def jsonValue? : (fuel : Nat) → Text → Option (Datum × Text)
  | 0, _ => none
  | fuel + 1, t =>
    match skipSpace t with
    | [] => none
    | c :: r =>
      if c == '"' then
        (Quotation.read? none r).map fun q => (if q.sound then text q.text else brokenText, q.rest)
      else if c == '[' then
        match skipSpace r with
        | ']' :: r => some (list [], r)
        | r => (jsonItems? fuel r).map fun (items, r) => (list items, r)
      else if c == Char.ofNat 123 then
        match skipSpace r with
        | [] => none
        | d :: r =>
          if d == Char.ofNat 125 then some (table [], r)
          else (jsonFields? fuel (d :: r)).map fun (fields, r) => (table fields, r)
      else match Text.strip? (lit "null") (c :: r) with
        | some r => some (null, r)
        | none => match Text.strip? (lit "true") (c :: r) with
          | some r => some (bool true, r)
          | none => match Text.strip? (lit "false") (c :: r) with
            | some r => some (bool false, r)
            | none => (jsonNumber? (c :: r)).map fun (written, r) => (scalar written, r)

/-- The items of a list up to its end. -/
def jsonItems? : (fuel : Nat) → Text → Option (List Datum × Text)
  | 0, _ => none
  | fuel + 1, t =>
    match jsonValue? fuel t with
    | none => none
    | some (item, t) => match skipSpace t with
      | ',' :: t => (jsonItems? fuel t).map fun (items, t) => (item :: items, t)
      | ']' :: t => some ([item], t)
      | _ => none

/-- The fields of a table up to its end. -/
def jsonFields? : (fuel : Nat) → Text → Option (List (Text × Datum) × Text)
  | 0, _ => none
  | fuel + 1, t =>
    match skipSpace t with
    | '"' :: t => match Quotation.read? none t with
      | none => none
      | some name =>
        if !name.sound then none
        else match skipSpace name.rest with
          | ':' :: t => match jsonValue? fuel t with
            | none => none
            | some (value, t) => match skipSpace t with
              | ',' :: t =>
                (jsonFields? fuel t).map fun (fields, t) => ((name.text, value) :: fields, t)
              | c :: t =>
                if c == Char.ofNat 125 then some ([(name.text, value)], t) else none
              | [] => none
          | _ => none
    | _ => none

end

/-- **The datum that a text writes in JSON.** -/
def ofJson? (t : Text) : Option Datum :=
  match jsonValue? (2 * t.length + 2) t with
  | some (value, rest) => if (skipSpace rest).isEmpty then some value else none
  | none => none

/-!
## Writing

Every item and every field stands on a line of its own, two spaces further in than what holds it.
-/

/-- A digit of a hexadecimal number. -/
def hexDigit (n : Nat) : Char := if n < 10 then Char.ofNat (48 + n) else Char.ofNat (87 + n)

/-- A character in a JSON text. -/
def jsonChar (c : Char) : Text :=
  if c == '"' then lit "\\\""
  else if c == '\\' then lit "\\\\"
  else if c == '\n' then lit "\\n"
  else if c == '\r' then lit "\\r"
  else if c == '\t' then lit "\\t"
  else if c == Char.ofNat 8 then lit "\\b"
  else if c == Char.ofNat 12 then lit "\\f"
  else if c.toNat < 0x20 then lit "\\u00" ++ [hexDigit (c.toNat / 16), hexDigit (c.toNat % 16)]
  else [c]

/-- A text in JSON. -/
def jsonText (t : Text) : Text := '"' :: t.flatMap jsonChar ++ ['"']

/-- A new line `depth` levels in. -/
def newLine (depth : Nat) : Text := '\n' :: List.replicate (2 * depth) ' '

mutual

/-- A datum in JSON, `depth` levels in. -/
def jsonAt (depth : Nat) : Datum → Text
  | null => lit "null"
  | bool b => if b then lit "true" else lit "false"
  | scalar written => written
  | text t => jsonText t
  | brokenText => jsonText []
  | list items =>
    if items.isEmpty then lit "[]"
    else '[' :: jsonItemsAt (depth + 1) items ++ newLine depth ++ [']']
  | table fields =>
    if fields.isEmpty then lit "\x7b\x7d"
    else Char.ofNat 123 :: jsonFieldsAt (depth + 1) fields ++ newLine depth ++ [Char.ofNat 125]

/-- Items on lines of their own. -/
def jsonItemsAt (depth : Nat) : List Datum → Text
  | [] => []
  | item :: rest =>
    newLine depth ++ jsonAt depth item ++ (if rest.isEmpty then [] else [','])
      ++ jsonItemsAt depth rest

/-- Fields on lines of their own. -/
def jsonFieldsAt (depth : Nat) : List (Text × Datum) → Text
  | [] => []
  | (name, value) :: rest =>
    newLine depth ++ jsonText name ++ lit ": " ++ jsonAt depth value
      ++ (if rest.isEmpty then [] else [',']) ++ jsonFieldsAt depth rest

end

/-- **A datum written in JSON.** -/
def toJson (d : Datum) : Text := jsonAt 0 d

end WikiPress.Datum
