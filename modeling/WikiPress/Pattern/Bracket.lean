import WikiPress.Pattern.Escape

/-!
# Pattern/Bracket — classes in brackets

A class lists characters, ranges and other classes; `&&`, `--` and `~~` combine what stands before
and after them, from the left.  A circumflex at the beginning means the complement.  Hyphens at the
beginning, and a closing bracket there, stand for themselves.
-/

namespace WikiPress.Pattern

/-- How two parts of a class are combined. -/
inductive Combination
  | inter | diff | symmDiff

/-- The set of two parts under a combination. -/
def Combination.apply (flags : Flags) (op : Combination) (a b : CharSet) : CharSet :=
  let a := flags.fold a
  let b := flags.fold b
  match op with
  | inter => .inter a b
  | diff => .diff a b
  | symmDiff => .symmDiff a b

/-- The part read last, combined with what awaits it. -/
def closePart (flags : Flags) (pending : Option (Combination × CharSet)) (s : CharSet) : CharSet :=
  match pending with
  | none => s
  | some (op, before) => op.apply flags before s

/-- The ASCII class that a text begins with, after the opening bracket. -/
def readAsciiClass? (flags : Flags) : Text → Option (Option CharSet × Text)
  | ':' :: t =>
    let (negated, t) := match t with
      | '^' :: r => (true, r)
      | r => (false, r)
    match Text.cut? [':'] t with
    | some (name, ']' :: rest) =>
      (CharSet.ofAsciiName? name).map fun s => (flags.complIf? negated (flags.fold s), rest)
    | _ => none
  | _ => none

/-- An element of a class: a character or an escape. -/
def readElement? (flags : Flags) : Text → Option (Atom × Text)
  | [] => none
  | '\\' :: t => readEscape? flags t
  | c :: t => some (.literal c false, t)

/-- An element, or the range from one element to another. -/
def readRange? (flags : Flags) (t : Text) : Option (CharSet × Text) :=
  match readElement? flags t with
  | none => none
  | some (first, t) =>
    let alone := (first.toSet? flags).map fun s => (s, flags.skip t)
    match flags.skip t with
    | '-' :: r => match flags.skip r with
      | [] => none
      | c :: r =>
        if c == ']' || c == '-' then alone
        else match readElement? flags (c :: r) with
          | none => none
          | some (last, rest) =>
            match first.toChar? flags, last.toChar? flags with
            | some a, some b => if a ≤ b then some (.range a b, rest) else none
            | _, _ => none
    | _ => alone

/-- The hyphens that a text begins with, as a set, and what follows them; within `fuel`
characters. -/
def dropHyphens (flags : Flags) : (fuel : Nat) → (met : Bool) → Text → Bool × Text
  | fuel + 1, met, t => match flags.skip t with
    | '-' :: r => dropHyphens flags fuel true r
    | t => (met, t)
  | 0, met, t => (met, t)

mutual

/-- A class in brackets, after the opening bracket; within `fuel` steps. -/
def readBracket? (flags : Flags) : (fuel : Nat) → Text → Option (CharSet × Text)
  | 0, _ => none
  | fuel + 1, t =>
    let (negated, t) := match flags.skip t with
      | '^' :: r => (true, r)
      | t => (false, t)
    let (hyphen, t) := dropHyphens flags t.length false t
    let (s, t) := match hyphen, t with
      | true, t => (CharSet.single '-', t)
      | false, ']' :: r => (CharSet.single ']', r)
      | false, t => (CharSet.none, t)
    match readParts? flags fuel none s t with
    | none => none
    | some (s, rest) => (flags.complIf? negated (flags.fold s)).map fun s => (s, rest)

/-- The parts of a class up to its closing bracket; `s` is what has been read of the current part,
`pending` what came before it. -/
def readParts? (flags : Flags) :
    (fuel : Nat) → Option (Combination × CharSet) → CharSet → Text → Option (CharSet × Text)
  | 0, _, _, _ => none
  | fuel + 1, pending, s, t =>
    let combine (op : Combination) (rest : Text) :=
      readParts? flags fuel (some (op, closePart flags pending s)) .none rest
    match flags.skip t with
    | [] => none
    | ']' :: rest => some (closePart flags pending s, rest)
    | '&' :: '&' :: rest => combine .inter rest
    | '-' :: '-' :: rest => combine .diff rest
    | '~' :: '~' :: rest => combine .symmDiff rest
    | '[' :: t => match readAsciiClass? flags t with
      | some (none, _) => none
      | some (some inner, rest) => readParts? flags fuel pending (.union s inner) rest
      | none => match readBracket? flags fuel t with
        | none => none
        | some (inner, rest) => readParts? flags fuel pending (.union s inner) rest
    | t => match readRange? flags t with
      | none => none
      | some (inner, rest) => readParts? flags fuel pending (.union s inner) rest

end

end WikiPress.Pattern
