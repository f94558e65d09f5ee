import WikiPress.Pattern.Syntax

/-!
# Pattern/Matching — where a pattern matches

The program of a pattern is run with several threads at once, ordered by preference.  At every
position the threads are carried on to the steps that read a character; an address that has been
reached by a preferred thread is not visited again.  A thread that accepts ends those that are less
preferred, so the match found is the first one, and among those the one that alternatives and
repetitions prefer.
-/

namespace WikiPress.Pattern

/-!
## Patterns as programs

A program is an array of steps that name each other by address.  Patterns are laid out from the back,
so that each is compiled knowing where to go on.  Alternatives become forks whose first branch is
preferred, and repetitions become loops or written-out copies.
-/

/-- One step of a program. -/
inductive Step
  /-- Consume a character of a set. -/
  | read (set : CharSet) (next : Nat)
  /-- Go on if a test holds. -/
  | check (assertion : Assertion) (next : Nat)
  /-- Note the position in a slot. -/
  | save (slot next : Nat)
  /-- Go on at either address, preferably the first. -/
  | fork (first second : Nat)
  /-- The pattern has matched. -/
  | accept
  /-- The pattern does not match. -/
  | fail
deriving Repr

/-- A program under construction: the address to go on at, and the steps laid out so far. -/
abbrev Layout := Nat × Array Step

namespace Layout

/-- Lay out one step and go on there. -/
def push (step : Step) (code : Layout) : Layout := (code.2.size, code.2.push step)

/-- Lay out a fork between the current address and `other`; a greedy one prefers the current. -/
def fork (greedy : Bool) (other : Nat) (code : Layout) : Layout :=
  code.push (if greedy then .fork code.1 other else .fork other code.1)

/-- Do something `n` times. -/
def times (f : Layout → Layout) : Nat → Layout → Layout
  | 0, code => code
  | n + 1, code => times f n (f code)

/-- A loop over a body, left at the address `code.1`: the body, then a fork back to it. -/
def loop (body : Layout → Layout) (greedy : Bool) (code : Layout) : Layout :=
  let back := code.2.size
  let inside := body (back, code.2.push .fail)
  (inside.1, inside.2.setIfInBounds back
    (if greedy then .fork inside.1 code.1 else .fork code.1 inside.1))

end Layout

/-- Lay out a pattern in front of what is there. -/
def Expr.layOut : Expr → Layout → Layout
  | empty, code => code
  | one set, code => code.push (.read set code.1)
  | assert a, code => code.push (.check a code.1)
  | group index body, code =>
    let inside := body.layOut (code.push (.save (2 * index + 1) code.1))
    inside.push (.save (2 * index) inside.1)
  | repeated min none greedy body, code => match min with
    | 0 => (code.loop body.layOut greedy).fork greedy code.1
    | n + 1 => Layout.times body.layOut n (code.loop body.layOut greedy)
  | repeated min (some max) greedy body, code =>
    let optional := Layout.times (fun inner => (body.layOut inner).fork greedy code.1) (max - min) code
    Layout.times body.layOut min optional
  | seq a b, code => a.layOut (b.layOut code)
  | alt a b, code =>
    let second := b.layOut code
    let first := a.layOut (code.1, second.2)
    first.fork true second.1

/-- A program and the address it begins at. -/
structure Program where
  /-- The steps. -/
  steps : Array Step
  /-- The first address. -/
  start : Nat


/-- The program of a pattern; the whole match is group `0`. -/
def program (p : Pattern) : Program :=
  let code := (Expr.group 0 p.expr).layOut (0, #[.accept])
  ⟨code.2, code.1⟩

/-! ## Threads -/

/-- The positions noted in slots, the latest first. -/
abbrev Slots := List (Nat × Nat)

/-- An address together with the positions noted on the way to it. -/
abbrev Thread := Nat × Slots

/-- **Carry threads on** to the steps that read or accept.  `pending` are the threads to visit in
order of preference, `seen` marks the addresses visited and `ready` the threads carried on, the last
first. -/
def carryOn (steps : Array Step) (before after : Option Char) (position : Nat) :
    (fuel : Nat) → (pending : List Thread) → (seen : Array Bool) → (ready : List Thread) → List Thread
  | 0, _, _, ready => ready.reverse
  | _ + 1, [], _, ready => ready.reverse
  | fuel + 1, (address, slots) :: pending, seen, ready =>
    if seen.getD address true then carryOn steps before after position fuel pending seen ready
    else
      let seen := seen.setIfInBounds address true
      match steps.getD address .fail with
      | .fork first second =>
        carryOn steps before after position fuel ((first, slots) :: (second, slots) :: pending) seen ready
      | .save slot next =>
        carryOn steps before after position fuel ((next, (slot, position) :: slots) :: pending) seen ready
      | .check a next =>
        carryOn steps before after position fuel
          (if a.holds before after then (next, slots) :: pending else pending) seen ready
      | .fail => carryOn steps before after position fuel pending seen ready
      | .read _ _ | .accept =>
        carryOn steps before after position fuel pending seen ((address, slots) :: ready)

/-- The threads after a character, and the slots of a thread that accepts before it; the threads
behind such a one are dropped. -/
def advance (steps : Array Step) (next : Option Char) : List Thread → List Thread × Option Slots
  | [] => ([], none)
  | (address, slots) :: rest =>
    match steps.getD address .fail with
    | .accept => ([], some slots)
    | .read set target =>
      let (threads, found) := advance steps next rest
      match next with
      | some c => if set.mem c then ((target, slots) :: threads, found) else (threads, found)
      | none => (threads, found)
    | _ => advance steps next rest

/-- Run a program from a position on.  `found` is the best match so far; while there is none, a new
thread begins at every position. -/
def runFrom (p : Program) (threads : List Thread) (found : Option Slots) (before : Option Char)
    (position : Nat) : Text → Option Slots
  | [] =>
    let ready := carryOn p.steps before none position (threads.length + 2 * p.steps.size + 2)
      (if found.isNone then threads ++ [(p.start, [])] else threads)
      (Array.replicate p.steps.size false) []
    (advance p.steps none ready).2.orElse fun _ => found
  | c :: t =>
    let ready := carryOn p.steps before (some c) position (threads.length + 2 * p.steps.size + 2)
      (if found.isNone then threads ++ [(p.start, [])] else threads)
      (Array.replicate p.steps.size false) []
    let (threads, better) := advance p.steps (some c) ready
    let found := better.orElse fun _ => found
    if threads.isEmpty && found.isSome then found
    else runFrom p threads found (some c) (position + 1) t

/-- A match: where it begins and ends, and the positions noted in it. -/
structure Match where
  /-- The position of the first character. -/
  first : Nat
  /-- The position after the last character. -/
  past : Nat
  /-- The positions noted. -/
  slots : Slots
deriving Repr

/-- The match that slots describe. -/
def Match.ofSlots (slots : Slots) : Match :=
  ⟨(slots.lookup 0).getD 0, (slots.lookup 1).getD 0, slots⟩

/-- What a group has matched in the text `t`. -/
def Match.group? (m : Match) (t : Text) (index : Nat) : Option Text :=
  match m.slots.lookup (2 * index), m.slots.lookup (2 * index + 1) with
  | some first, some past => some ((t.take past).drop first)
  | _, _ => none

/-- The first match in `t` that begins at `start` or later. -/
def Program.find? (p : Program) (t : Text) (start : Nat) : Option Match :=
  let before := if start == 0 then none else t[start - 1]?
  (runFrom p [] none before start (t.drop start)).map Match.ofSlots

/-- The matches from `start` on, one after another.  A match of nothing at the end of the last match
does not count; the search then goes on one character later. -/
def Program.matchesFrom (p : Program) (t : Text) :
    (fuel : Nat) → (start : Nat) → (last : Option Nat) → List Match
  | 0, _, _ => []
  | fuel + 1, start, last => match p.find? t start with
    | none => []
    | some m =>
      if m.first == m.past && last == some m.past then
        if start < t.length then p.matchesFrom t fuel (start + 1) last else []
      else m :: p.matchesFrom t fuel m.past (some m.past)

/-- **The matches of a pattern in a text**, from left to right and without overlap. -/
def allMatches (p : Pattern) (t : Text) : List Match :=
  p.program.matchesFrom t (2 * t.length + 2) 0 none

end WikiPress.Pattern
