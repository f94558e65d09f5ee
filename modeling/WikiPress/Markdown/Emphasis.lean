import WikiPress.Markdown.Syntax
import WikiPress.Text.Punctuation

/-!
# Markdown/Emphasis — runs of delimiters and what they enclose

While a line is read, a run of delimiters stands between the finished inlines, with a note of whether
it can open or close.  `pairRuns` pairs the runs from left to right: a closing run takes the nearest
opening run of its kind and what stands between them.  Runs that find no partner are plain text.
-/

namespace WikiPress.Markdown

/-- A run of delimiters. -/
structure DelimiterRun where
  /-- The character that decides which runs pair up. -/
  mark : Char
  /-- The character that is shown if the run stays plain text. -/
  shown : Char
  /-- The number of delimiters as written. -/
  written : Nat
  /-- The number of delimiters not used yet. -/
  left : Nat
  canOpen : Bool
  canClose : Bool
deriving DecidableEq, Repr

/-- A part of a line that is being read. -/
inductive Piece
  | done (inline : Inline)
  | run (run : DelimiterRun)
deriving Repr

namespace DelimiterRun

/-- A run that encloses quoted text. -/
def isQuote (r : DelimiterRun) : Bool := r.mark == '"' || r.mark == '\''

/-- The delimiters that are left, as text. -/
def text (r : DelimiterRun) : Text := List.replicate r.left r.shown

/-- **Flanking**: whether a run of `mark` between two characters can open and can close. -/
def flanking (mark before after : Char) : Bool × Bool :=
  let blankBefore := Text.isBlank before
  let blankAfter := Text.isBlank after
  let signBefore := Text.isPunctuation before
  let signAfter := Text.isPunctuation after
  let opens := !blankAfter && !(signAfter && !blankBefore && !signBefore)
  let closes := !blankBefore && !(signBefore && !blankAfter && !signAfter)
  if mark == '_' then (opens && (!closes || signBefore), closes && (!opens || signAfter))
  else if mark == '"' || mark == '\'' then
    (opens && (!closes || before == '(' || before == '[') && before != ']' && before != ')', closes)
  else (opens, closes)

/-- Whether a run can be the partner of a closing one.  Where one of the two can both open and close,
their lengths may not add up to a multiple of three unless both are. -/
def pairsWith (opener closer : DelimiterRun) : Bool :=
  opener.canOpen && opener.mark == closer.mark
    && !((closer.canOpen || opener.canClose) && (opener.written + closer.written) % 3 == 0
      && !(opener.written % 3 == 0 && closer.written % 3 == 0))

/-- The quotation mark that opens quoted text. -/
def openingQuote (mark : Char) : Char := if mark == '"' then '“' else '‘'

/-- The quotation mark that closes quoted text. -/
def closingQuote (mark : Char) : Char := if mark == '"' then '”' else '’'

/-- The inline that `used` delimiters on either side make of what they enclose. -/
def enclose (mark : Char) (used : Nat) (body : List Inline) : Inline :=
  if mark == '~' then .deleted body else if used == 1 then .emphasis body else .strong body

end DelimiterRun

/-- A piece that will not change any more. -/
def Piece.settle : Piece → Inline
  | .done inline => inline
  | .run r => .text r.text

/-- The nearest partner of a closing run in the pieces before it, the last first: the pieces in
between, the partner, and the pieces before it. -/
def partner? (closer : DelimiterRun) :
    (between : List Piece) → List Piece → Option (List Piece × DelimiterRun × List Piece)
  | _, [] => none
  | between, .run r :: rest =>
    if r.pairsWith closer then some (between.reverse, r, rest)
    else partner? closer (.run r :: between) rest
  | between, .done inline :: rest => partner? closer (.done inline :: between) rest

/-- Pair the runs of the pieces to come with those read before, which are in reverse order.  Each
step passes a piece or uses up delimiters, so that `fuel` bounds the steps. -/
def pairWithin : (fuel : Nat) → (before : List Piece) → List Piece → List Piece
  | 0, before, pieces => before.reverse ++ pieces
  | _, before, [] => before.reverse
  | fuel + 1, before, .done inline :: rest => pairWithin fuel (.done inline :: before) rest
  | fuel + 1, before, .run c :: rest =>
    if !c.canClose then pairWithin fuel (.run c :: before) rest
    else
      let shown := if c.isQuote then DelimiterRun.closingQuote c.mark else c.shown
      match partner? c [] before with
      | none =>
        let piece :=
          if c.canOpen then .run { c with shown := shown }
          else .done (.text { c with shown := shown }.text)
        pairWithin fuel (piece :: before) rest
      | some (between, opener, outer) =>
        if c.isQuote then
          let opening := { opener with shown := DelimiterRun.openingQuote c.mark }
          let closing := { c with shown := shown }
          pairWithin fuel
            (.done (.text closing.text) :: between ++ .done (.text opening.text) :: outer) rest
        else
          let used := if 2 ≤ opener.left && 2 ≤ c.left then 2 else 1
          if c.mark == '~' && (opener.left != c.left || used < opener.left) then
            before.reverse ++ .run c :: rest
          else
            let inline := DelimiterRun.enclose c.mark used (between.reverse.map Piece.settle)
            let outer :=
              if opener.left == used then outer
              else .run { opener with left := opener.left - used } :: outer
            let rest := if c.left == used then rest else .run { c with left := c.left - used } :: rest
            pairWithin fuel (.done inline :: outer) rest

/-- A bound for the steps that the pieces take. -/
def Piece.steps : Piece → Nat
  | .done _ => 1
  | .run r => r.left + 1

/-- **The inlines of a line**: its pieces with all runs paired. -/
def pairRuns (pieces : List Piece) : List Inline :=
  let fuel := pieces.foldl (fun n piece => n + piece.steps) 0
  (pairWithin fuel [] pieces).map Piece.settle

end WikiPress.Markdown
