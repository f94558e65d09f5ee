import WikiPress.Datum.Json
import WikiPress.Text.Case

/-!
# Datum/TomlPrinter — data written in TOML

The values of a table stand on lines of their own; the tables in it follow, each under a heading with
its full name.
-/

namespace WikiPress.Datum.Toml

/-- A control character by its code point. -/
def controlEscape (c : Char) : Text :=
  lit "\\u00" ++ [hexDigit (c.toNat / 16), hexDigit (c.toNat % 16)].map Text.upperLetter

/-- A character in a TOML text. -/
def textChar (c : Char) : Text :=
  let hasLetter := List.elem c (lit "\n\r\t") || c.toNat == 8 || c.toNat == 12
  if c.toNat == 0x7F || (c.toNat < 0x20 && !hasLetter) then controlEscape c else jsonChar c

mutual

/-- A value on the line of its name. -/
def inline : Datum → Text
  | .null => []
  | .bool b => if b then lit "true" else lit "false"
  | .scalar written => written
  | .text t => '"' :: t.flatMap textChar ++ ['"']
  | .brokenText => lit "\"\""
  | .list items => '[' :: inlineItems items ++ [']']
  | .table fields => lit "\x7b " ++ inlineFields fields ++ lit " \x7d"

/-- Items between commas. -/
def inlineItems : List Datum → Text
  | [] => []
  | [d] => inline d
  | d :: rest => inline d ++ lit ", " ++ inlineItems rest

/-- Fields between commas. -/
def inlineFields : List (Text × Datum) → Text
  | [] => []
  | [(name, d)] => name ++ lit " = " ++ inline d
  | (name, d) :: rest => name ++ lit " = " ++ inline d ++ lit ", " ++ inlineFields rest

end

/-- The lines of the fields that are no tables. -/
def valueLines (fields : List (Text × Datum)) : Text :=
  fields.flatMap fun (name, d) => match d with
    | .table _ | .null => []
    | d => name ++ lit " = " ++ inline d ++ ['\n']

/-- The fields that are tables, each under a heading. -/
def tableLines (fields : List (Text × Datum)) : Text :=
  fields.flatMap fun (name, d) => match d with
    | .table inner => lit "\n[" ++ name ++ lit "]\n" ++ valueLines inner
    | _ => []

end WikiPress.Datum.Toml

namespace WikiPress.Datum

/-- **A datum written in TOML**, if it is a table of values and of tables of values. -/
def toToml : Datum → Text
  | table fields => Toml.valueLines fields ++ Toml.tableLines fields
  | d => Toml.inline d

end WikiPress.Datum
