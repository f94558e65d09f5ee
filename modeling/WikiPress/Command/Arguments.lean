import WikiPress.Files.Location

/-!
# Command/Arguments — what a command line asks for

A command line names a subcommand; flags may stand before and after it, by their long name or by one
letter, and a flag's value follows it or is attached to it.  What does not fit is refused as a whole.
-/

namespace WikiPress.Command

open Files (Location)

/-- A flag that a command knows. -/
structure Flag where
  /-- The long name. -/
  name : Text
  /-- The letter, if it has one. -/
  letter : Option Char
  /-- Whether it takes a value. -/
  takesValue : Bool
  /-- Whether it may be repeated. -/
  repeatable : Bool := false
  /-- Which values it takes. -/
  accepts : Text → Bool := fun _ => true

/-- A flag met on a command line with its value. -/
abbrev Setting := Text × Text

/-- Why reading ends before the end of the command line. -/
inductive Stop
  /-- The version is asked for. -/
  | version
  /-- The help text is asked for. -/
  | help
  /-- The command line does not fit. -/
  | refused
deriving DecidableEq, Repr

/-- A location that is not empty. -/
def isGiven (value : Text) : Bool := !value.isEmpty

/-- The flags of every command. -/
def commonFlags : List Flag :=
  [⟨lit "verbose", some 'v', false, false, fun _ => true⟩,
   ⟨lit "config-file", some 'c', true, true, isGiven⟩,
   ⟨lit "help", some 'h', false, true, fun _ => true⟩]

/-- The flags before the subcommand. -/
def topFlags : List Flag := commonFlags ++ [⟨lit "version", some 'V', false, true, fun _ => true⟩]

/-- The flags of a subcommand, and how many other arguments it takes. -/
def subcommand? (name : Text) : Option (List Flag × Nat) :=
  let location (name : String) (letter : Char) : Flag :=
    ⟨lit name, some letter, true, false, isGiven⟩
  if name == lit "init" then
    some ([location "output" 'o', ⟨lit "force", some 'f', false, false, fun _ => true⟩,
      ⟨lit "format", some 'F', true, false, fun v => v == lit "toml" || v == lit "json"⟩], 0)
  else if name == lit "render" then some ([location "output" 'o'], 1)
  else if name == lit "build" then some ([location "input-dir" 'i', location "output-dir" 'o'], 0)
  else if name == lit "search" then some ([⟨lit "json", none, false, false, fun _ => true⟩], 1)
  else none

/-- Note a flag with its value. -/
def note (flag : Flag) (value : Text) (settings : List Setting) : Except Stop (List Setting) :=
  if flag.name == lit "version" then .error .version
  else if flag.name == lit "help" then .error .help
  else if !flag.repeatable && (settings.lookup flag.name).isSome then .error .refused
  else if !flag.accepts value then .error .refused
  else .ok (settings ++ [(flag.name, value)])

/-- Whether an argument looks like a flag. -/
def isFlag : Text → Bool
  | '-' :: _ :: _ => true
  | _ => false

/-- Note a flag whose value is the next argument. -/
def noteNext (flag : Flag) (settings : List Setting) :
    List Text → Except Stop (List Setting × List Text)
  | [] => .error .refused
  | value :: rest =>
    if isFlag value then .error .refused
    else (note flag value settings).map fun settings => (settings, rest)

/-- Read a flag by its long name; `rest` are the arguments after it. -/
def readLong (flags : List Flag) (settings : List Setting) (arg : Text) (rest : List Text) :
    Except Stop (List Setting × List Text) :=
  let (name, value) := Text.chop ['='] false false arg
  match flags.find? (·.name == name), value with
  | none, _ => .error .refused
  | some flag, some value =>
    if flag.takesValue then (note flag value settings).map fun settings => (settings, rest)
    else .error .refused
  | some flag, none =>
    if flag.takesValue then noteNext flag settings rest
    else (note flag [] settings).map fun settings => (settings, rest)

/-- Read flags by their letters. -/
def readLetters (flags : List Flag) :
    List Setting → Text → List Text → Except Stop (List Setting × List Text)
  | settings, [], rest => .ok (settings, rest)
  | settings, c :: letters, rest =>
    match flags.find? (·.letter == some c) with
    | none => .error .refused
    | some flag =>
      if flag.takesValue then
        match letters with
        | [] => noteNext flag settings rest
        | '=' :: value => (note flag value settings).map fun settings => (settings, rest)
        | value => (note flag value settings).map fun settings => (settings, rest)
      else match note flag [] settings with
        | .error stop => .error stop
        | .ok settings => readLetters flags settings letters rest

/-- What has been read of a command line: the flags, and the other arguments. -/
structure Reading where
  settings : List Setting := []
  arguments : List Text := []

/-- Read the arguments of a subcommand that takes `count` arguments besides flags, within `fuel`
arguments. -/
def readArguments (flags : List Flag) (count : Nat) :
    (fuel : Nat) → Reading → List Text → Except Stop Reading
  | 0, _, _ => .error .refused
  | _ + 1, r, [] => if r.arguments.length == count then .ok r else .error .refused
  | fuel + 1, r, arg :: rest =>
    let flag (found : Except Stop (List Setting × List Text)) : Except Stop Reading :=
      match found with
      | .error stop => .error stop
      | .ok (settings, rest) => readArguments flags count fuel { r with settings } rest
    match arg with
    | ['-', '-'] =>
      if r.arguments.length + rest.length == count then
        .ok { r with arguments := r.arguments ++ rest }
      else .error .refused
    | '-' :: '-' :: name => flag (readLong flags r.settings name rest)
    | '-' :: c :: letters => flag (readLetters flags r.settings (c :: letters) rest)
    | arg =>
      if r.arguments.length < count then
        readArguments flags count fuel { r with arguments := r.arguments ++ [arg] } rest
      else .error .refused

/-- A command line that has been read: the subcommand, its flags and arguments, and the flags before
it. -/
structure Line where
  name : Text
  reading : Reading
  before : List Setting

/-- Read a command line up to its subcommand and beyond, within `fuel` arguments. -/
def readLine : (fuel : Nat) → List Setting → List Text → Except Stop Line
  | 0, _, _ => .error .refused
  | _ + 1, _, [] => .error .refused
  | fuel + 1, settings, arg :: rest =>
    let flag (found : Except Stop (List Setting × List Text)) : Except Stop Line :=
      match found with
      | .error stop => .error stop
      | .ok (settings, rest) => readLine fuel settings rest
    match arg with
    | ['-', '-'] => .error .refused
    | '-' :: '-' :: name => flag (readLong topFlags settings name rest)
    | '-' :: c :: letters => flag (readLetters topFlags settings (c :: letters) rest)
    | name =>
      if name == lit "help" then
        match rest with
        | [] => .error .help
        | [other] =>
          if (subcommand? other).isSome || other == lit "help" then .error .help else .error .refused
        | _ => .error .refused
      else match subcommand? name with
        | none => .error .refused
        | some (flags, count) =>
          match readArguments (flags ++ commonFlags) count (rest.length + 1) {} rest with
          | .error stop => .error stop
          | .ok reading => .ok ⟨name, reading, settings⟩

/-- What is to be done. -/
inductive Task
  /-- Write the default configuration. -/
  | init (output : Location) (format : Text) (force : Bool)
  /-- Render one page, to a file or to the output. -/
  | render (page : Text) (output : Option Location)
  /-- Build the site, with directories in place of the configured ones. -/
  | build (inputDir outputDir : Option Location)
  /-- Search all documents. -/
  | search (query : Text) (json : Bool)
deriving DecidableEq, Repr

/-- A command that has been understood. -/
structure Invocation where
  task : Task
  /-- The configuration files given. -/
  configFiles : List Location
deriving DecidableEq, Repr

/-- The configuration files among flags. -/
def configFiles (settings : List Setting) : List Location :=
  (settings.filter (·.1 == lit "config-file")).map Prod.snd

/-- What a command line that has been read asks for.  Configuration files after the subcommand make
those before it void. -/
def Line.invocation (l : Line) : Invocation :=
  let settings := l.reading.settings
  let value (name : String) : Option Text := settings.lookup (lit name)
  let first := l.reading.arguments.headD []
  let task : Task :=
    if l.name == lit "init" then
      .init ((value "output").getD (lit "snipwiki.toml")) ((value "format").getD (lit "toml"))
        (value "force").isSome
    else if l.name == lit "render" then .render first (value "output")
    else if l.name == lit "build" then .build (value "input-dir") (value "output-dir")
    else .search first (value "json").isSome
  let after := configFiles settings
  ⟨task, if after.isEmpty then configFiles l.before else after⟩

/-- **What a command line asks for**, or why it is not carried out. -/
def read (args : List Text) : Except Stop Invocation :=
  (readLine (args.length + 1) [] args).map Line.invocation

end WikiPress.Command
