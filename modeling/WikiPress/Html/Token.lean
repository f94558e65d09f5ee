import WikiPress.Html.Node
import WikiPress.Html.Reference
import WikiPress.Text.Split

/-!
# Html/Token — the tags, texts and comments of an HTML source

A source is read token by token, since what a tag means decides how the text after it is read: as
ordinary content, or as raw text up to a closing tag.  Every source has tokens; faults are repaired
where they stand.
-/

namespace WikiPress.Html

/-- A tag. -/
structure Tag where
  name : Text
  attributes : List Attribute
  selfClosing : Bool
deriving DecidableEq, Repr

/-- A document type declaration. -/
structure Doctype where
  name : Text
  publicId : Option Text
  systemId : Option Text
  /-- Whether the declaration is faulty. -/
  faulty : Bool
deriving DecidableEq, Repr

/-- A part of a source. -/
inductive Token
  | opening (tag : Tag)
  | closing (tag : Tag)
  /-- Text that is nothing but white space, or begins with something else. -/
  | text (t : Text)
  /-- A null character. -/
  | null
  | comment (t : Text)
  | doctype (d : Doctype)
  | eof
deriving DecidableEq, Repr

/-- How the text at a place is to be read. -/
inductive ContentMode
  /-- Markup and text. -/
  | markup
  /-- Text with references up to the closing tag with a name. -/
  | escapable (name : Text)
  /-- Text without references up to the closing tag with a name. -/
  | raw (name : Text)
  /-- A script, which may hide its closing tag in a comment. -/
  | script
  /-- Text up to the end. -/
  | plain
deriving DecidableEq, Repr

namespace Source

/-- The white space of HTML. -/
def isSpace (c : Char) : Bool := c == ' ' || c == '\t' || c == '\n' || c == '\x0C'

/-- A text with null characters replaced. -/
def replaceNull (t : Text) : Text := t.map fun c => if c.toNat == 0 then '\uFFFD' else c

/-- A name in lower case, with null characters replaced. -/
def lowerName (t : Text) : Text := (replaceNull t).map Text.lowerLetter

/-! ## Tags -/

/-- The value of an attribute that a text begins with, with what follows it; none if the source ends
before the value does. -/
def value? (t : Text) : Option (Text × Text) :=
  let clean := fun (raw : Text) => replaceNull (resolveReferences true raw)
  match t with
  | [] => none
  | c :: r =>
    if c == '"' || c == '\'' then
      match r.dropWhile (· != c) with
      | _ :: rest => some (clean (r.takeWhile (· != c)), rest)
      | [] => none
    else if c == '>' then some ([], t)
    else
      let bare := fun c => !(isSpace c || c == '>')
      some (clean (t.takeWhile bare), t.dropWhile bare)

/-- The attributes that a text begins with, at most `fuel`, whether a slash ends the tag, and what
follows it; none if the source ends before the tag does. -/
def attributes? : (fuel : Nat) → Text → Option (List Attribute × Bool × Text)
  | 0, _ => none
  | fuel + 1, t =>
    match t.dropWhile isSpace with
    | [] => none
    | '>' :: rest => some ([], false, rest)
    | '/' :: r =>
      match r with
      | '>' :: rest => some ([], true, rest)
      | _ => attributes? fuel r
    | c :: r =>
      let further := fun c => !(isSpace c || c == '/' || c == '>' || c == '=')
      let name := lowerName (c :: r.takeWhile further)
      let r := r.dropWhile further
      let read := match r.dropWhile isSpace with
        | '=' :: r => value? (r.dropWhile isSpace)
        | r => some ([], r)
      match read with
      | none => none
      | some (value, r) =>
        (attributes? fuel r).map fun (others, slash, rest) => (⟨name, value⟩ :: others, slash, rest)

/-- The attributes without those whose name came before. -/
def firstOfName : (seen : List Text) → List Attribute → List Attribute
  | _, [] => []
  | seen, a :: rest =>
    if seen.contains a.name then firstOfName seen rest else a :: firstOfName (a.name :: seen) rest

/-- The tag whose name a text begins with, with what follows it; none if the source ends before the
tag does. -/
def tag? (t : Text) : Option (Tag × Text) :=
  let further := fun c => !(isSpace c || c == '/' || c == '>')
  let r := t.dropWhile further
  (attributes? (r.length + 1) r).map fun (attributes, slash, rest) =>
    (⟨lowerName (t.takeWhile further), firstOfName [] attributes, slash⟩, rest)

/-! ## Comments and declarations -/

/-- The text of a comment up to its end, with what follows; where the source ends first, hyphens that
could begin the end do not count. -/
def commentRest : Text → Text × Text
  | [] => ([], [])
  | '-' :: t =>
    match t with
    | [] => ([], [])
    | ['-'] => ([], [])
    | ['-', '!'] => ([], [])
    | '-' :: '>' :: rest => ([], rest)
    | '-' :: '!' :: '>' :: rest => ([], rest)
    | _ =>
      let (text, rest) := commentRest t
      ('-' :: text, rest)
  | c :: t =>
    let (text, rest) := commentRest t
    (c :: text, rest)

/-- The comment after `<!--`. -/
def comment (t : Text) : Token × Text :=
  match t with
  | '>' :: rest => (.comment [], rest)
  | '-' :: '>' :: rest => (.comment [], rest)
  | _ =>
    let (text, rest) := commentRest t
    (.comment (replaceNull text), rest)

/-- What stands before the next closing angle bracket, as a comment. -/
def bogusComment (t : Text) : Token × Text :=
  (.comment (replaceNull (t.takeWhile (· != '>'))), (t.dropWhile (· != '>')).drop 1)

/-- A quoted identifier, with what follows it. -/
def identifier? (t : Text) : Option (Text × Text) :=
  match t with
  | c :: r =>
    if c == '"' || c == '\'' then
      match r.dropWhile (· != c) with
      | _ :: rest => some (replaceNull (r.takeWhile (· != c)), rest)
      | [] => none
    else none
  | [] => none

/-- The document type that the text of its declaration writes. -/
def readDoctype (t : Text) : Doctype :=
  let t := t.dropWhile isSpace
  let name := lowerName (t.takeWhile fun c => !isSpace c)
  let r := (t.dropWhile fun c => !isSpace c).dropWhile isSpace
  if name.isEmpty then ⟨[], none, none, true⟩
  else if r.isEmpty then ⟨name, none, none, false⟩
  else
    match Text.stripLetters? (lit "public") r, Text.stripLetters? (lit "system") r with
    | some r, _ =>
      match identifier? (r.dropWhile isSpace) with
      | none => ⟨name, none, none, true⟩
      | some (publicId, r) =>
        let r := r.dropWhile isSpace
        if r.isEmpty then ⟨name, some publicId, none, false⟩
        else
          match identifier? r with
          | some (systemId, _) => ⟨name, some publicId, some systemId, false⟩
          | none => ⟨name, some publicId, none, true⟩
    | none, some r =>
      match identifier? (r.dropWhile isSpace) with
      | some (systemId, _) => ⟨name, none, some systemId, false⟩
      | none => ⟨name, none, none, true⟩
    | none, none => ⟨name, none, none, true⟩

/-- The declaration after `<!`; sections of character data count only where they are `allowed`. -/
def declaration (sections : Bool) (t : Text) : Token × Text :=
  match t with
  | '-' :: '-' :: r => comment r
  | _ =>
    match Text.stripLetters? (lit "doctype") t, Text.strip? (lit "[CDATA[") t with
    | some r, _ =>
      let d := readDoctype (r.takeWhile (· != '>'))
      match r.dropWhile (· != '>') with
      | _ :: rest => (.doctype d, rest)
      | [] => (.doctype { d with faulty := true }, [])
    | none, some r =>
      if sections then
        match Text.cut? (lit "]]>") r with
        | some (text, rest) => (.text text, rest)
        | none => (.text r, [])
      else bogusComment t
    | none, none => bogusComment t

/-! ## Text -/

/-- The text that a source begins with, up to the next character that may mean something else, with
what follows it.  White space at the beginning is a text of its own. -/
def plainRun (t : Text) : Text × Text :=
  let ends := fun (c : Char) => c == '<' || c == '&' || c.toNat == 0
  let spaces := t.takeWhile isSpace
  if spaces.isEmpty then (t.takeWhile (!ends ·), t.dropWhile (!ends ·))
  else (spaces, t.drop spaces.length)

/-- A token of ordinary content. -/
def ofMarkup (sections : Bool) (t : Text) : Token × Text :=
  match t with
  | [] => (.eof, [])
  | '<' :: r =>
    match r with
    | '!' :: r => declaration sections r
    | '/' :: c :: r =>
      if Text.isLetter c then
        match tag? (c :: r) with
        | some (tag, rest) => (.closing tag, rest)
        | none => (.eof, [])
      else if c == '>' then (.text [], r)
      else bogusComment (c :: r)
    | '/' :: [] => (.text ['<', '/'], [])
    | c :: _ =>
      if Text.isLetter c then
        match tag? r with
        | some (tag, rest) => (.opening tag, rest)
        | none => (.eof, [])
      else if c == '?' then bogusComment r
      else (.text ['<'], r)
    | [] => (.text ['<'], [])
  | '&' :: r =>
    match reference? false r with
    | some (chars, rest) => (.text chars, rest)
    | none => (.text ['&'], r)
  | c :: r => if c.toNat == 0 then (.null, r) else
    let (text, rest) := plainRun (c :: r)
    (.text text, rest)

/-- What follows `<`, and a slash with `closing`, and the name of a tag in any letter case, if the
name is complete. -/
def afterTagName? (closing : Bool) (name t : Text) : Option Text :=
  let t := if closing then Text.strip? ['<', '/'] t else Text.strip? ['<'] t
  match t.bind (Text.stripLetters? name) with
  | some (c :: rest) => if isSpace c || c == '/' || c == '>' then some (c :: rest) else none
  | _ => none

/-- The text up to the closing tag with a name, and what follows the text. -/
def untilClosing (name : Text) : Text → Text × Text
  | [] => ([], [])
  | c :: t =>
    if (afterTagName? true name (c :: t)).isSome then ([], c :: t)
    else
      let (text, rest) := untilClosing name t
      (c :: text, rest)

/-- How far a script is covered in a comment: not at all, in a comment, or in a script inside the
comment. -/
inductive Cover
  | none
  | comment
  | inner
deriving DecidableEq, Repr

/-- The text of a script and what follows it; `hyphens` counts those just passed in a comment. -/
def untilScriptEnd : (cover : Cover) → (hyphens : Nat) → Text → Text × Text
  | _, _, [] => ([], [])
  | cover, hyphens, c :: t =>
    let closes := (afterTagName? true (lit "script") (c :: t)).isSome
    if closes && cover != .inner then ([], c :: t)
    else
      let cover' :=
        match cover with
        | .none => if Text.beginsWith (lit "<!--") (c :: t) then .comment else .none
        | .comment =>
          if c == '>' && 2 ≤ hyphens then .none
          else if (afterTagName? false (lit "script") (c :: t)).isSome then .inner
          else .comment
        | .inner =>
          if c == '>' && 2 ≤ hyphens then .none
          else if closes then .comment
          else .inner
      let hyphens' := if c == '-' then hyphens + 1 else 0
      let (text, rest) := untilScriptEnd cover' hyphens' t
      (c :: text, rest)

/-- A token of raw text: the text, or the closing tag that stands at the beginning. -/
def ofRaw (text : Text) (rest : Text) : Token × Text :=
  if text.isEmpty then ofMarkup false rest else (.text text, rest)

/-- **The next token** of a source, with what follows it. -/
def next (mode : ContentMode) (sections : Bool) (t : Text) : Token × Text :=
  match mode with
  | .markup => ofMarkup sections t
  | .escapable name =>
    let (text, rest) := untilClosing name t
    ofRaw (replaceNull (resolveReferences false text)) rest
  | .raw name =>
    let (text, rest) := untilClosing name t
    ofRaw (replaceNull text) rest
  | .script =>
    let (text, rest) := untilScriptEnd .none 0 t
    ofRaw (replaceNull text) rest
  | .plain => ofRaw (replaceNull t) []

/-- A source as the reading begins with: without a byte order mark, and with newlines as line
ends. -/
def normalize (t : Text) : Text :=
  let t := match t with
    | '\uFEFF' :: r => r
    | _ => t
  lineEnds t
where
  /-- Line ends as newlines. -/
  lineEnds : Text → Text
    | [] => []
    | '\r' :: t =>
      match t with
      | '\n' :: _ => lineEnds t
      | _ => '\n' :: lineEnds t
    | c :: t => c :: lineEnds t

end Source

end WikiPress.Html
