import WikiPress.Text.Basic

/-!
# Datum/Basic — data as files write it

The common shape of the two notations for data.  Numbers and dates are kept as they are written,
since nothing in the wiki computes with them.
-/

namespace WikiPress

/-- A piece of data. -/
inductive Datum
  /-- Nothing. -/
  | null
  /-- A truth value. -/
  | bool (b : Bool)
  /-- A number or a date, as it is written. -/
  | scalar (written : Text)
  /-- A text. -/
  | text (t : Text)
  /-- A text with an escape that stands for no character. -/
  | brokenText
  /-- A list. -/
  | list (items : List Datum)
  /-- A table of named data, in the order of writing. -/
  | table (fields : List (Text × Datum))
deriving Repr

namespace Datum

/-- The text, if that is what the datum is. -/
def text? : Datum → Option Text
  | text t => some t
  | _ => none

/-- The text, or none where nothing is written. -/
def optionalText? : Datum → Option (Option Text)
  | null => some none
  | text t => some (some t)
  | _ => none

end Datum

end WikiPress
