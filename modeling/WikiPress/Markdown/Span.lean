import WikiPress.Markdown.Address
import WikiPress.Markdown.Emphasis
import WikiPress.Markdown.Link
import WikiPress.Markdown.RawHtml

/-!
# Markdown/Span — reading the inlines of a block

The text of a block is read from left to right.  An opening bracket is kept open until it turns out
what it opens: with its closing bracket it becomes a link, an image or a reference to a note, and
otherwise plain text.  Runs of delimiters are left as pieces, which are paired at the end of a link
and of the block.
-/

namespace WikiPress.Markdown

/-- What the reading of inlines depends on. -/
structure Dialect where
  /-- Whether quotes, hyphens and dots are set as in print. -/
  smart : Bool
  /-- Whether bare addresses become links. -/
  autolink : Bool
deriving DecidableEq, Repr

namespace Span

/-- A bracket that is still open. -/
structure Bracket where
  /-- Whether an exclamation mark stands before it. -/
  image : Bool
  /-- The number of characters read up to and including the bracket. -/
  start : Nat
  /-- Whether another bracket was opened inside. -/
  followed : Bool
  /-- The pieces before the bracket, the last first. -/
  outer : List Piece

/-- The pieces before and inside a bracket that is plain text. -/
def Bracket.reopen (b : Bracket) (pieces : List Piece) : List Piece :=
  pieces ++ .done (.text (if b.image then ['!', '['] else ['['])) :: b.outer

/-- A state of the reading. -/
structure Scan where
  /-- The characters read, the last first. -/
  before : Text
  /-- The characters to come. -/
  rest : Text
  /-- The pieces since the innermost open bracket, the last first. -/
  pieces : List Piece
  /-- The open brackets, the innermost first. -/
  brackets : List Bracket
  /-- Whether the last bracket read was an opening one, so that no bare address is looked for. -/
  inBrackets : Bool
  /-- Whether a link ended since the last opening bracket of a link, so that the links around it end
  as text. -/
  linkEnded : Bool

namespace Scan

/-- Read `n` characters. -/
def advance (n : Nat) (s : Scan) : Scan :=
  { s with before := (s.rest.take n).reverse ++ s.before, rest := s.rest.drop n }

/-- Read up to the given rest of the text. -/
def advanceTo (rest : Text) (s : Scan) : Scan := s.advance (s.rest.length - rest.length)

/-- Add a piece. -/
def push (piece : Piece) (s : Scan) : Scan := { s with pieces := piece :: s.pieces }

/-- Add an inline. -/
def add (inline : Inline) (s : Scan) : Scan := s.push (.done inline)

/-- Read `n` characters as the given inline. -/
def read (n : Nat) (inline : Inline) (s : Scan) : Scan := (s.advance n).add inline

/-- Read `n` characters as text. -/
def readText (n : Nat) (text : Text) (s : Scan) : Scan := s.read n (.text text)

end Scan

/-! ## Line ends, code and runs of delimiters -/

/-- A line end; after two spaces it is a hard break. -/
def lineBreak (s : Scan) : Scan :=
  let inline := match s.before with
    | ' ' :: ' ' :: _ => Inline.hardBreak
    | _ => Inline.softBreak
  let s := s.read 1 inline
  s.advance (s.rest.takeWhile Text.isSpaceOrTab).length

/-- The length of the code before the next run of exactly `size` backticks, of which `run` have just
been passed; `passed` counts all characters passed. -/
def codeLength? (size : Nat) : (run passed : Nat) → Text → Option Nat
  | run, passed, [] => if run == size then some (passed - size) else none
  | run, passed, c :: t =>
    if c == '`' then codeLength? size (run + 1) (passed + 1) t
    else if run == size then some (passed - size)
    else codeLength? size 0 (passed + 1) t

/-- Code as it is shown: on one line, without one space on either side. -/
def shownCode (t : Text) : Text :=
  let t := t.map fun c => if c == '\n' then ' ' else c
  match t, t.getLast? with
  | ' ' :: inner, some ' ' => if t.all (· == ' ') then t else inner.dropLast
  | _, _ => t

/-- A run of backticks, with the code it begins. -/
def backticks (s : Scan) : Scan :=
  let size := (s.rest.takeWhile (· == '`')).length
  match (if size ≤ 80 then codeLength? size 0 0 (s.rest.drop size) else none) with
  | some n => s.read (size + n + size) (.code (shownCode ((s.rest.drop size).take n)))
  | none => s.readText size (s.rest.take size)

/-- A run of delimiters; quotes stand alone. -/
def delimiters (mark : Char) (s : Scan) : Scan :=
  let quote := mark == '"' || mark == '\''
  let size := if quote then 1 else (s.rest.takeWhile (· == mark)).length
  let before := ((s.before.dropWhile (· == '~')).head?).getD '\n'
  let after := (((s.rest.drop size).dropWhile (· == '~')).head?).getD '\n'
  let (opens, closes) := DelimiterRun.flanking mark before after
  let shown :=
    if mark == '\'' then '’'
    else if mark == '"' then (if closes then '”' else '“')
    else mark
  let run : DelimiterRun := ⟨mark, shown, size, size, opens, closes⟩
  let s := s.advance size
  if opens || closes then s.push (.run run) else s.add (.text run.text)

/-- The dashes that a number of hyphens is set as. -/
def dashes (hyphens : Nat) : Text :=
  let (long, short) :=
    if hyphens % 3 == 0 then (hyphens / 3, 0)
    else if hyphens % 2 == 0 then (0, hyphens / 2)
    else if hyphens % 3 == 2 then ((hyphens - 2) / 3, 1)
    else ((hyphens - 4) / 3, 2)
  List.replicate long '—' ++ List.replicate short '–'

/-- Hyphens; more than one become dashes. -/
def hyphens (s : Scan) : Scan :=
  let n := (s.rest.takeWhile (· == '-')).length
  if n == 1 then s.readText 1 ['-'] else s.readText n (dashes n)

/-- Dots; three of them become an ellipsis. -/
def dots (s : Scan) : Scan :=
  match s.rest with
  | '.' :: '.' :: '.' :: _ => s.readText 3 ['…']
  | '.' :: '.' :: _ => s.readText 2 ['.', '.']
  | _ => s.readText 1 ['.']

/-! ## Escapes, references and angle brackets -/

/-- A backslash: before punctuation it stands for the character, before a line end for a hard
break. -/
def backslash (s : Scan) : Scan :=
  match s.rest with
  | _ :: '\n' :: _ => s.read 2 .hardBreak
  | _ :: c :: _ => if Text.isAsciiPunctuation c then s.readText 2 [c] else s.readText 1 ['\\']
  | _ => s.readText 1 ['\\']

/-- An ampersand, with the reference it begins. -/
def ampersand (s : Scan) : Scan :=
  match reference? (s.rest.drop 1) with
  | some (chars, rest) => (s.advanceTo rest).add (.text chars)
  | none => s.readText 1 ['&']

/-- The URL in angle brackets whose opening one has been read, with what follows. -/
def angledUrl? (t : Text) : Option (Text × Text) :=
  let scheme := t.takeWhile fun c =>
    Text.isLetter c || Text.isDigit c || c == '.' || c == '+' || c == '-'
  match t, t.drop scheme.length with
  | first :: _, ':' :: r =>
    let path := r.takeWhile fun c => 32 < c.toNat && c != '<' && c != '>'
    match r.drop path.length with
    | '>' :: rest =>
      if Text.isLetter first && 2 ≤ scheme.length && scheme.length ≤ 32 then
        some (scheme ++ ':' :: path, rest)
      else none
    | _ => none
  | _, _ => none

/-- Whether a text is a label of a host name. -/
def isHostLabel (t : Text) : Bool :=
  let word := fun c => Text.isLetter c || Text.isDigit c
  match t, t.getLast? with
  | first :: _, some last =>
    word first && word last && t.length ≤ 63 && t.all fun c => word c || c == '-'
  | _, _ => false

/-- The email address in angle brackets whose opening one has been read, with what follows. -/
def angledEmail? (t : Text) : Option (Text × Text) :=
  let name := t.takeWhile fun c =>
    Text.isLetter c || Text.isDigit c || List.elem c (lit ".!#$%&'*+/=?^_`\x7b|\x7d~-")
  match t.drop name.length with
  | '@' :: r =>
    let host := r.takeWhile fun c => Text.isLetter c || Text.isDigit c || c == '-' || c == '.'
    match r.drop host.length with
    | '>' :: rest =>
      if !name.isEmpty && (Text.splitOn '.' host).all isHostLabel then
        some (name ++ '@' :: host, rest)
      else none
    | _ => none
  | _ => none

/-- An angle bracket, with the address or the raw HTML it begins. -/
def angle (s : Scan) : Scan :=
  let t := s.rest.drop 1
  match angledUrl? t with
  | some (url, rest) =>
    (s.advanceTo rest).add (.link ⟨resolveReferences url, []⟩ [.text (resolveReferences url)])
  | none =>
    match angledEmail? t with
    | some (address, rest) =>
      let shown := resolveReferences address
      (s.advanceTo rest).add (.link ⟨lit "mailto:" ++ shown, []⟩ [.text shown])
    | none =>
      match RawHtml.rest? t with
      | some rest => (s.advanceTo rest).add (.html (s.rest.take (s.rest.length - rest.length)))
      | none => s.readText 1 ['<']

/-! ## Bare addresses -/

/-- Take `n` characters back from the texts read last. -/
def takeBack : (n : Nat) → List Piece → List Piece
  | 0, pieces => pieces
  | n, .done (.text t) :: rest =>
    if n < t.length then .done (.text (t.take (t.length - n))) :: rest
    else takeBack (n - t.length) rest
  | _, pieces => pieces

/-- Read an address, or the character it would be found at. -/
def address (found : Option Address.Found) (mark : Char) (s : Scan) : Scan :=
  match (if s.inBrackets then none else found) with
  | some a => ({ s with pieces := takeBack a.rewound s.pieces }.advanceTo a.rest).add a.link
  | none => s.readText 1 [mark]

/-! ## Brackets -/

/-- An opening bracket. -/
def openBracket (image : Bool) (s : Scan) : Scan :=
  let s := s.advance (if image then 2 else 1)
  let brackets := match s.brackets with
    | [] => []
    | b :: outer => { b with followed := true } :: outer
  { s with
    pieces := []
    brackets := ⟨image, s.before.length, false, s.pieces⟩ :: brackets
    inBrackets := true
    linkEnded := s.linkEnded && image }

/-- Whether a piece is shown as its text. -/
def pieceText? : Piece → Option Text
  | .done (.text t) => some t
  | .done (.html t) => some t
  | .run r => some r.text
  | _ => none

/-- The label of the reference to a note that the pieces of a bracket write. -/
def noteLabel? (pieces : List Piece) : Option Text :=
  match pieces with
  | .done (.text ('^' :: _)) :: _ =>
    match (pieces.filterMap pieceText?).flatten with
    | _ :: c :: label => some (c :: label)
    | _ => none
  | _ => none

/-- The target that follows a closing bracket, with what follows it: in parentheses, by a label, or
by the text of the bracket as its label. -/
def target? (targets : List (Text × Target)) (bracket : Bracket) (inside after : Text) :
    Option (Target × Text) :=
  match inlineTarget? after with
  | some found => some found
  | none =>
    let (label, rest) := match label? after with
      | some (label, rest) => (some label, rest)
      | none => (none, after)
    let label :=
      if (label.getD []).isEmpty && !bracket.followed then some inside else label
    match label with
    | none => none
    | some label => (targets.lookup (labelKey label)).map (·, rest)

/-- A closing bracket. -/
def closeBracket (targets : List (Text × Target)) (s : Scan) : Scan :=
  let s := { s with inBrackets := false }
  match s.brackets with
  | [] => s.readText 1 [']']
  | b :: outer =>
    let asText :=
      let s := { s with
        pieces := b.reopen s.pieces
        brackets := outer }
      s.readText 1 [']']
    if !b.image && s.linkEnded then asText
    else
      let inside := (s.before.take (s.before.length - b.start)).reverse
      match target? targets b inside (s.rest.drop 1) with
      | some (target, rest) =>
        let body := pairRuns s.pieces.reverse
        let s := { s with
          pieces := b.outer
          brackets := outer
          linkEnded := s.linkEnded || !b.image }
        (s.advanceTo rest).add (if b.image then .image target body else .link target body)
      | none =>
        match noteLabel? s.pieces.reverse with
        | some label =>
          let others : List Piece := s.pieces.filter fun piece => (pieceText? piece).isNone
          let s := { s with
            pieces := others ++ Piece.done (.note label none) :: b.outer
            brackets := outer }
          s.advance 1
        | none => asText

/-- An exclamation mark, with the bracket after it. -/
def exclamation (s : Scan) : Scan :=
  match s.rest with
  | _ :: '[' :: '^' :: _ => s.readText 1 ['!']
  | _ :: '[' :: _ => openBracket true s
  | _ => s.readText 1 ['!']

/-! ## Reading a text -/

/-- A character that may begin something other than plain text. -/
def isSpecial (dialect : Dialect) (c : Char) : Bool :=
  List.elem c ['\n', '`', '\\', '&', '<', '*', '_', '~', '[', ']', '!']
    || (dialect.autolink && (c == ':' || c == 'w'))
    || (dialect.smart && (c == '"' || c == '\'' || c == '-' || c == '.'))

/-- Plain text up to the next special character, without the spaces around a line end. -/
def plain (dialect : Dialect) (s : Scan) : Scan :=
  let t := match s.rest with
    | c :: r => c :: r.takeWhile fun c => !isSpecial dialect c
    | [] => []
  let text := match s.rest.drop t.length with
    | '\n' :: _ => Text.dropEndWhile isSpace t
    | _ => t
  let text := match s.pieces with
    | .done .hardBreak :: _ => text.dropWhile isSpace
    | _ => text
  s.readText t.length text

/-- Read what begins with the next character. -/
def step (dialect : Dialect) (targets : List (Text × Target)) (c : Char) (s : Scan) : Scan :=
  match c with
  | '\n' => lineBreak s
  | '`' => backticks s
  | '\\' => backslash s
  | '&' => ampersand s
  | '<' => angle s
  | '*' | '_' | '~' => delimiters c s
  | '[' => openBracket false s
  | ']' => closeBracket targets s
  | '!' => exclamation s
  | ':' => if dialect.autolink then address (Address.url? s.before s.rest) c s else plain dialect s
  | 'w' => if dialect.autolink then address (Address.host? s.before s.rest) c s else plain dialect s
  | '"' | '\'' => if dialect.smart then delimiters c s else plain dialect s
  | '-' => if dialect.smart then hyphens s else plain dialect s
  | '.' => if dialect.smart then dots s else plain dialect s
  | _ => plain dialect s

/-- Read the characters to come, in at most `fuel` steps. -/
def run (dialect : Dialect) (targets : List (Text × Target)) : (fuel : Nat) → Scan → Scan
  | 0, s => s
  | fuel + 1, s =>
    match s.rest with
    | [] => s
    | c :: _ => run dialect targets fuel (step dialect targets c s)

/-- The pieces of a reading that is over, the last first; open brackets are text. -/
def allPieces : List Piece → List Bracket → List Piece
  | pieces, [] => pieces
  | pieces, b :: outer => allPieces (b.reopen pieces) outer

/-- **The inlines of a text**, with the targets that its labels refer to. -/
def inlines (dialect : Dialect) (targets : List (Text × Target)) (t : Text) : List Inline :=
  let t := Text.dropEndWhile isSpace t
  let s := run dialect targets t.length ⟨[], t, [], [], false, false⟩
  pairRuns (allPieces s.pieces s.brackets).reverse

end Span

end WikiPress.Markdown
