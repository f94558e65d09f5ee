import WikiPress.Markdown.Escape
import WikiPress.Markdown.Syntax
import WikiPress.Text.Split

/-!
# Markdown/Address — addresses that become links without being marked

A URL of a known scheme, a host that begins with `www.`, and an email address are links where they
stand in running text.  The characters that end a sentence do not belong to an address.
-/

namespace WikiPress.Markdown.Address

/-- An address found in a text. -/
structure Found where
  /-- The number of characters before the place of the search that belong to the address. -/
  rewound : Nat
  /-- The address as it is written. -/
  shown : Text
  url : Text
  /-- What follows the address. -/
  rest : Text

/-- The link of an address. -/
def Found.link (a : Found) : Inline := .link ⟨a.url, []⟩ [.text a.shown]

/-! ## Where an address ends -/

/-- A character that does not end an address. -/
def isTrailing (c : Char) : Bool := List.elem c (lit "?!.,:*_~'\"")

/-- Drop the characters from the end that do not belong to an address, given in reverse: punctuation,
an entity, and a closing parenthesis without an opening one. -/
def dropTrailing : (fuel : Nat) → Text → Text
  | 0, r => r
  | _, [] => []
  | fuel + 1, c :: r =>
    if isTrailing c then dropTrailing fuel r
    else if c == ';' then
      let letters := r.takeWhile Text.isLetter
      match r.drop letters.length with
      | '&' :: before => dropTrailing fuel (if letters.isEmpty then r else before)
      | _ => dropTrailing fuel r
    else if c == ')' then
      if (c :: r).count ')' ≤ (c :: r).count '(' then c :: r else dropTrailing fuel r
    else c :: r

/-- The part of a candidate that belongs to the address. -/
def trimTrailing (t : Text) : Text :=
  let t := t.takeWhile (· != '<')
  (dropTrailing t.length t.reverse).reverse

/-- A character of a host name, dots and hyphens apart. -/
def isHostChar (c : Char) : Bool := !(Text.isBlank c || Text.isPunctuation c)

/-- The length of the host a text begins with, `length` characters of which have been read: `dots`
counts its dots, and the other two the underscores in the last label and in the one before it, which
must have none in a host of at most ten dots. -/
def hostLength? (needsDot : Bool) (length dots previous current : Nat) : Text → Option Nat
  | [] =>
    if (0 < previous || 0 < current) && dots ≤ 10 then none
    else if needsDot && dots == 0 then none
    else some length
  | c :: t =>
    if c == '_' then hostLength? needsDot (length + 1) dots previous (current + 1) t
    else if c == '.' then hostLength? needsDot (length + 1) (dots + 1) current 0 t
    else if c == '-' || isHostChar c then hostLength? needsDot (length + 1) dots previous current t
    else if previous == 0 && current == 0 && !(needsDot && dots == 0) then some length
    else none

/-! ## Addresses in running text -/

/-- **A host that begins with `www.`** at the beginning of a text, if the characters before it, the
last first, allow one. -/
def host? (before t : Text) : Option Found :=
  let allowed := match before with
    | c :: _ => isSpace c || List.elem c (lit "*_~([")
    | [] => true
  if allowed && Text.beginsWith (lit "www.") t then
    match hostLength? true 0 0 0 0 t with
    | none => none
    | some _ =>
      let shown := trimTrailing (t.takeWhile fun c => !isSpace c)
      some ⟨0, shown, lit "http://" ++ shown, t.drop shown.length⟩
  else none

/-- **A URL whose colon begins a text**; its scheme stands at the end of the characters before, which
are given with the last first. -/
def url? (before t : Text) : Option Found :=
  match t with
  | ':' :: '/' :: '/' :: r =>
    let scheme := (before.takeWhile Text.isLetter).reverse
    if r.isEmpty || !([lit "http", lit "https", lit "ftp"].contains scheme) then none
    else
      match hostLength? false 0 0 0 0 r with
      | none => none
      | some _ =>
        let shown := trimTrailing (t.takeWhile fun c => !isSpace c)
        some ⟨scheme.length, scheme ++ shown, scheme ++ shown, t.drop shown.length⟩
  | _ => none

/-! ## Email addresses -/

/-- A letter or digit. -/
def isWordChar (c : Char) : Bool := Text.isLetter c || Text.isDigit c

/-- A character of the name in an email address. -/
def isEmailChar (c : Char) : Bool := isWordChar c || List.elem c (lit ".+-_")

/-- The number of characters before an at sign that belong to the address, whether they name a scheme
of their own, and whether it is that of a chat.  The characters are given with the last first. -/
def emailName : Text → Nat × Bool × Bool
  | [] => (0, false, false)
  | c :: t =>
    let next := emailName t
    if isEmailChar c then (next.1 + 1, next.2)
    else if c == ':' then
      let scheme := (t.takeWhile Text.isLetter).reverse
      if scheme == lit "mailto" then (next.1 + 1, true, next.2.2)
      else if scheme == lit "xmpp" then (next.1 + 1, true, true)
      else (0, false, false)
    else (0, false, false)

/-- The number of characters after an at sign that may belong to the address, and the number of dots
among them; none where a second at sign follows. -/
def emailHost? (chat : Bool) : Text → Option (Nat × Nat)
  | [] => some (0, 0)
  | c :: t =>
    let beginsWord := match t with
      | d :: _ => isWordChar d
      | [] => false
    if isWordChar c || (c == '/' && chat) || c == '-' || c == '_' then
      (emailHost? chat t).map fun (n, dots) => (n + 1, dots)
    else if c == '@' then none
    else if c == '.' && beginsWord then (emailHost? chat t).map fun (n, dots) => (n + 1, dots + 1)
    else some (0, 0)

/-- **An email address whose at sign begins a text**; its name stands at the end of the characters
before, which are given with the last first. -/
def email? (before t : Text) : Option Found :=
  match t with
  | '@' :: r =>
    let (rewound, hasScheme, chat) := emailName before
    if rewound == 0 then none
    else
      match emailHost? chat r with
      | none => none
      | some (n, dots) =>
        let host := r.take n
        let endsWell := match host.getLast? with
          | some c => Text.isLetter c
          | none => false
        if dots == 0 || !endsWell then none
        else
          let shown := trimTrailing ('@' :: host)
          if shown.isEmpty then none
          else
            let address := (before.take rewound).reverse ++ shown
            some ⟨rewound, address, if hasScheme then address else lit "mailto:" ++ address,
              t.drop shown.length⟩
  | _ => none

/-- Find the email addresses of a text; `before` holds the characters passed, the last first, and
`depth` is the number of brackets open, inside which no address is looked for. -/
def linkEmailsWithin : (fuel : Nat) → (before : Text) → (depth : Int) → Text → List Inline
  | 0, before, _, t => [.text (before.reverse ++ t)]
  | _, before, _, [] => [.text before.reverse]
  | fuel + 1, before, depth, c :: t =>
    let depth := if c == '[' then depth + 1 else if c == ']' then depth - 1 else depth
    match (if depth ≤ 0 then email? before (c :: t) else none) with
    | some found =>
      .text (before.drop found.rewound).reverse :: found.link
        :: linkEmailsWithin fuel [] 0 found.rest
    | none => linkEmailsWithin fuel (c :: before) depth t

/-- **A text with its email addresses as links.** -/
def linkEmails (t : Text) : List Inline := linkEmailsWithin t.length [] 0 t

end WikiPress.Markdown.Address
