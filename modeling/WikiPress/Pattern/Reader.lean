import WikiPress.Pattern.Bracket
import WikiPress.Text.Number

/-!
# Pattern/Reader — patterns from their written form

`Pattern.parse?` reads alternatives of sequences of repeated elements.  Groups restore the flags
that were in force before them.  A pattern is refused if it is not well formed, and also if it is
nested too deeply or is too large when its repetitions are written out.
-/

namespace WikiPress.Pattern

/-- What the reader carries from left to right. -/
structure ReaderState where
  /-- The flags in force. -/
  flags : Flags := {}
  /-- How many groups have been opened. -/
  groups : Nat := 0
  /-- The names of groups met so far, with the numbers of their groups. -/
  names : List (Text × Nat) := []

/-! ## Repetitions -/

/-- The number of repetitions that is limited by the reader's numbers of 32 bits. -/
def countBound : Nat := Text.bound32

/-- Decimal digits with blanks around them, if the flags allow blanks between them; what follows
them is returned. -/
def takeDigits (flags : Flags) : (fuel : Nat) → Text → Text × Text
  | 0, t => ([], t)
  | _ + 1, [] => ([], [])
  | fuel + 1, c :: t =>
    if Text.isDigit c then
      let (digits, rest) := takeDigits flags fuel (flags.skip t)
      (c :: digits, rest)
    else ([], c :: t)

/-- The number of a repetition: `none` if it is too large, `some none` if there are no digits. -/
def readCount? (flags : Flags) (t : Text) : Option (Option Nat × Text) :=
  let (digits, rest) := takeDigits flags t.length (Text.trimStart t)
  let rest := Text.trimStart rest
  if digits.isEmpty then some (none, rest)
  else (Text.unsigned? countBound digits).map fun n => (some n, flags.skip rest)

/-- The bounds of a repetition in braces, after the opening brace. -/
def readBounds? (flags : Flags) (t : Text) : Option ((Nat × Option Nat) × Text) :=
  let close (bounds : Nat × Option Nat) : Text → Option ((Nat × Option Nat) × Text)
    | [] => none
    | c :: t => if c == Char.ofNat 125 then some (bounds, t) else none
  match readCount? flags (flags.skip t) with
  | some (some min, ',' :: t) => match flags.skip t with
    | [] => none
    | c :: r =>
      if c == Char.ofNat 125 then some ((min, none), r)
      else match readCount? flags (c :: r) with
        | some (some max, t) => if min ≤ max then close (min, some max) t else none
        | _ => none
  | some (some min, t) => close (min, some min) t
  | _ => none

/-- Whether a repetition is greedy: a question mark after it says the contrary of the flags. -/
def readGreed (flags : Flags) : Text → Bool × Text
  | '?' :: t => (flags.lazy, t)
  | t => (!flags.lazy, t)

/-- The repetition operator that a text begins with: its bounds, its greed and what follows it.
`none` in place of all that means the operator is malformed. -/
def readRepetition? (flags : Flags) : Text → Option (Option ((Nat × Option Nat) × Bool × Text))
  | [] => none
  | c :: t =>
    let plain (bounds : Nat × Option Nat) :=
      let (greedy, rest) := readGreed flags t
      some (some (bounds, greedy, rest))
    if c == '?' then plain (0, some 1)
    else if c == '*' then plain (0, none)
    else if c == '+' then plain (1, none)
    else if c == Char.ofNat 123 then
      match readBounds? flags t with
      | none => some none
      | some (bounds, t) =>
        let (greedy, rest) := readGreed flags (flags.skip t)
        some (some (bounds, greedy, rest))
    else none

/-! ## Groups -/

/-- Whether a character may stand in the name of a group, `first` in its first place. -/
def isNameCharacter (first : Bool) (c : Char) : Bool :=
  if first then c == '_' || Text.isAlphabetic c
  else c == '_' || c == '.' || c == '[' || c == ']' || Text.isAlphanumeric c

/-- The name of a group up to its closing bracket, and what follows it. -/
def readName? (t : Text) : Option (Text × Text) :=
  let name := t.takeWhile fun c => c != '>'
  match t.dropWhile (fun c => c != '>'), name with
  | '>' :: rest, first :: others =>
    if isNameCharacter true first && others.all (isNameCharacter false) then some (name, rest)
    else none
  | _, _ => none

/-- What an opening parenthesis begins. -/
inductive GroupHead
  /-- A group that notes where it matched. -/
  | capture (state : ReaderState) (rest : Text)
  /-- A group for itself, under flags. -/
  | plain (flags : Flags) (rest : Text)
  /-- New flags for the rest of the group around it. -/
  | setting (flags : Flags) (rest : Text)

/-- The beginning of a group, after the opening parenthesis.  Tests of what lies before or after a
position are not supported. -/
def readGroupHead? (s : ReaderState) (t : Text) : Option GroupHead :=
  let t := s.flags.skip t
  let opened := { s with groups := s.groups + 1 }
  let named (r : Text) : Option GroupHead :=
    match readName? r with
    | none => none
    | some (name, rest) =>
      if (s.names.lookup name).isSome then none
      else some (.capture { opened with names := s.names ++ [(name, opened.groups)] } rest)
  match t with
  | '?' :: '=' :: _ | '?' :: '!' :: _ | '?' :: '<' :: '=' :: _ | '?' :: '<' :: '!' :: _ => none
  | '?' :: 'P' :: '<' :: r => named r
  | '?' :: '<' :: r => named r
  | '?' :: r => match s.flags.readFrom [] false false r with
    | none => none
    | some (opening, rest) =>
      if opening.grouped then some (.plain opening.flags rest)
      else if opening.bare then none
      else some (.setting opening.flags rest)
  | t => some (.capture opened t)

/-! ## Alternatives -/

/-- One element that is neither a group, a class nor an operator. -/
def readPrimitive? (flags : Flags) : Text → Option (Expr × Text)
  | [] => none
  | '\\' :: t => match readEscape? flags t with
    | none => none
    | some (atom, rest) => (atom.toExpr? flags).map fun e => (e, rest)
  | '.' :: t => (flags.dot?).map fun s => (.one s, t)
  | '^' :: t => some (.assert flags.caret, t)
  | '$' :: t => some (.assert flags.dollar, t)
  | c :: t => (flags.literal? c).map fun s => (.one s, t)

/-- Read alternatives, within a group if `nested`.  `done` holds the alternatives before the current
one and `items` its elements, both the last first; `repeatable` tells whether the last element may
be followed by a repetition operator. -/
def readAlternatives? : (fuel : Nat) → ReaderState → (nested : Bool) → (done items : List Expr) →
    (repeatable : Bool) → Text → Option (Expr × ReaderState × Text)
  | 0, _, _, _, _, _, _ => none
  | fuel + 1, s, nested, done, items, repeatable, t =>
    let whole := Expr.alts (Expr.seqs items.reverse :: done).reverse
    match s.flags.skip t with
    | [] => if nested then none else some (whole, s, [])
    | c :: t =>
      match readRepetition? s.flags (c :: t) with
      | some none => none
      | some (some ((min, max), greedy, rest)) => match items, repeatable with
        | item :: items, true =>
          readAlternatives? fuel s nested done (.repeated min max greedy item :: items) true rest
        | _, _ => none
      | none =>
        if c == ')' then if nested then some (whole, s, t) else none
        else if c == '|' then
          readAlternatives? fuel s nested (Expr.seqs items.reverse :: done) [] false t
        else if c == '(' then
          match readGroupHead? s t with
          | none => none
          | some (.setting flags rest) =>
            readAlternatives? fuel { s with flags } nested done items false rest
          | some (.plain flags rest) =>
            match readAlternatives? fuel { s with flags } true [] [] false rest with
            | none => none
            | some (e, inner, rest) =>
              readAlternatives? fuel { inner with flags := s.flags } nested done (e :: items) true rest
          | some (.capture inside rest) =>
            match readAlternatives? fuel inside true [] [] false rest with
            | none => none
            | some (e, inner, rest) =>
              readAlternatives? fuel { inner with flags := s.flags } nested done
                (.group inside.groups e :: items) true rest
        else
          match (if c == '[' then
              (readBracket? s.flags (t.length + 1) t).map fun (set, rest) => (Expr.one set, rest)
            else readPrimitive? s.flags (c :: t)) with
          | none => none
          | some (e, rest) => readAlternatives? fuel s nested done (e :: items) true rest

/-- The deepest nesting of a pattern. -/
def depthLimit : Nat := 250

/-- The largest number of steps of a pattern. -/
def sizeLimit : Nat := 300000

/-- **The pattern with a written form**, if it has one. -/
def parse? (source : Text) : Option Pattern :=
  match readAlternatives? (2 * source.length + 2) {} false [] [] false source with
  | some (expr, s, _) =>
    if expr.depth ≤ depthLimit && expr.size ≤ sizeLimit then some ⟨source, expr, s.names⟩ else none
  | none => none

end WikiPress.Pattern
