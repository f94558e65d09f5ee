import WikiPress.Datum.Basic
import WikiPress.Datum.TomlScalar

/-!
# Datum/TomlReader — data in TOML

`Datum.ofToml?` reads a text line by line: headings choose the table that the lines below them
fill.
-/

namespace WikiPress.Datum.Toml

/-!
## Tables that lines fill

The lines of a TOML text put values into tables, open tables and add elements to lists of tables.
What was written once cannot be written again: a value has one line, a table one heading, and a
table that dotted names have made has none.
-/

/-- What a name stands for in a table that is being filled. -/
inductive Item
  /-- A value. -/
  | value (d : Datum)
  /-- A table; `headed` if it had a heading, `dotted` if dotted names have made it. -/
  | table (headed dotted : Bool) (fields : List (Text × Item))
  /-- A list of tables: the fields of the last one, and those of the ones before it, the last
  first. -/
  | tables (last : List (Text × Item)) (before : List (List (Text × Item)))
deriving Repr

/-- The names of a table with what they stand for. -/
abbrev Fields := List (Text × Item)

/-- Fields with what a name stands for replaced. -/
def Fields.replace (name : Text) (item : Item) (fields : Fields) : Fields :=
  fields.map fun (other, old) => (other, if other == name then item else old)

/-- Change the table that names lead to from a heading; tables on the way are made. -/
def enter? (change : Fields → Option Fields) : List Text → Fields → Option Fields
  | [], fields => change fields
  | name :: path, fields => match fields.lookup name with
    | none => (enter? change path []).map fun inner => fields ++ [(name, .table false false inner)]
    | some (.table headed dotted inner) =>
      (enter? change path inner).map fun inner => fields.replace name (.table headed dotted inner)
    | some (.tables last before) =>
      (enter? change path last).map fun last => fields.replace name (.tables last before)
    | some (.value _) => none

/-- The heading of a table. -/
def openTable? (name : Text) (fields : Fields) : Option Fields :=
  match fields.lookup name with
  | none => some (fields ++ [(name, .table true false [])])
  | some (.table false false inner) => some (fields.replace name (.table true false inner))
  | _ => none

/-- The heading of an element of a list of tables. -/
def openElement? (name : Text) (fields : Fields) : Option Fields :=
  match fields.lookup name with
  | none => some (fields ++ [(name, .tables [] [])])
  | some (.tables last before) => some (fields.replace name (.tables [] (last :: before)))
  | _ => none

/-- A value under dotted names. -/
def assign? (d : Datum) : List Text → Fields → Option Fields
  | [], _ => none
  | [name], fields => match fields.lookup name with
    | none => some (fields ++ [(name, .value d)])
    | some _ => none
  | name :: path, fields => match fields.lookup name with
    | none => (assign? d path []).map fun inner => fields ++ [(name, .table false true inner)]
    | some (.table false dotted inner) =>
      (assign? d path inner).map fun inner => fields.replace name (.table false dotted inner)
    | _ => none

mutual

/-- The datum of an item. -/
def Item.datum : Item → Datum
  | .value d => d
  | .table _ _ fields => .table (fieldData fields)
  | .tables last before => .list ((Datum.table (fieldData last) :: elementData before).reverse)

/-- The data of fields. -/
def fieldData : List (Text × Item) → List (Text × Datum)
  | [] => []
  | (name, item) :: rest => (name, item.datum) :: fieldData rest

/-- The data of elements. -/
def elementData : List (List (Text × Item)) → List Datum
  | [] => []
  | fields :: rest => .table (fieldData fields) :: elementData rest

end

/-! ## Lines -/

mutual

/-- A value, and what follows it; within `fuel` steps. -/
def value? : (fuel : Nat) → Text → Option (Datum × Text)
  | 0, _ => none
  | fuel + 1, t =>
    match quoted? t with
    | some found => found.map fun (s, t) => (.text s, t)
    | none => match t with
      | '[' :: t => items? fuel (skipFiller t.length t)
      | c :: r =>
        if c == Char.ofNat 123 then
          (fields? fuel [] (skipFiller r.length r)).map fun (fields, t) =>
            (.table (fieldData fields), t)
        else
          let (w, rest) := word t
          (wordValue? w).map fun d => (d, rest)
      | [] => none

/-- The items of a list up to its end. -/
def items? : (fuel : Nat) → Text → Option (Datum × Text)
  | 0, _ => none
  | _ + 1, ']' :: t => some (.list [], t)
  | fuel + 1, t =>
    match value? fuel t with
    | none => none
    | some (item, t) =>
      match skipFiller t.length t with
      | ',' :: t =>
        match items? fuel (skipFiller t.length t) with
        | some (.list items, t) => some (.list (item :: items), t)
        | _ => none
      | ']' :: t => some (.list [item], t)
      | _ => none

/-- The fields of a table in braces up to its end. -/
def fields? : (fuel : Nat) → Fields → Text → Option (Fields × Text)
  | 0, _, _ => none
  | _ + 1, _, [] => none
  | fuel + 1, fields, c :: t =>
    if c == Char.ofNat 125 then some (fields, t)
    else match names? (t.length + 1) (c :: t) with
      | some (path, '=' :: t) =>
        match value? fuel (skipSpaces t) with
        | none => none
        | some (d, t) => match assign? d path fields with
          | none => none
          | some fields => match skipFiller t.length t with
            | ',' :: t => fields? fuel fields (skipFiller t.length t)
            | d :: t => if d == Char.ofNat 125 then some (fields, t) else none
            | [] => none
      | _ => none

end

/-- A heading: whether it begins an element of a list, its names, and what follows its line. -/
def heading? (t : Text) : Option (Bool × List Text × Text) :=
  let element := Text.beginsWith (lit "[[") t
  let close := if element then lit "]]" else lit "]"
  match names? (t.length + 1) (t.drop close.length) with
  | none => none
  | some (path, t) => match Text.strip? close t with
    | none => none
    | some t => (endLine? t).map fun t => (element, path, t)

/-- A line with a value: its names, the value, and what follows the line. -/
def assignment? (t : Text) : Option (List Text × Datum × Text) :=
  match names? (t.length + 1) t with
  | some (path, '=' :: t) =>
    match value? (2 * t.length + 2) (skipSpaces t) with
    | none => none
    | some (d, t) => (endLine? t).map fun t => (path, d, t)
  | _ => none

/-- Read lines into tables; `current` leads to the table they fill. -/
def readLines? : (fuel : Nat) → (current : List Text) → Fields → Text → Option Fields
  | 0, _, _, _ => none
  | fuel + 1, current, fields, t =>
    match skipSpaces t with
    | [] => some fields
    | '[' :: t => match heading? ('[' :: t) with
      | none => none
      | some (element, path, rest) =>
        let change := (if element then openElement? else openTable?) (path.getLastD [])
        match enter? change path.dropLast fields with
        | none => none
        | some fields => readLines? fuel path fields rest
    | t => match endLine? t with
      | some rest => readLines? fuel current fields rest
      | none => match assignment? t with
        | none => none
        | some (path, d, rest) => match enter? (assign? d path) current fields with
          | none => none
          | some fields => readLines? fuel current fields rest

end WikiPress.Datum.Toml

namespace WikiPress.Datum

/-- **The datum that a text writes in TOML.** -/
def ofToml? (t : Text) : Option Datum :=
  let t := match t with
    | c :: rest => if c == Char.ofNat 0xFEFF then rest else t
    | [] => t
  (Toml.readLines? (t.length + 2) [] [] t).map fun fields => .table (Toml.fieldData fields)

end WikiPress.Datum
