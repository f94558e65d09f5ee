import WikiPress.Config.Basic
import WikiPress.Datum.Basic
import WikiPress.Datum.Json
import WikiPress.Datum.TomlPrinter
import WikiPress.Datum.TomlReader
import WikiPress.Files.Tree
import WikiPress.Site.Fault
import WikiPress.Text.Case

/-!
# Config/File — configurations in files

A configuration file is in TOML or in JSON, as its name tells.  If none is given, the first of a few
places that holds a file is taken.  Several files are merged in their order.
-/

namespace WikiPress.Config

/-!
## Configurations as data

A configuration is a table of settings; settings that are not listed have their defaults, and names
that are no settings are passed over.  A list of values stands for the settings in their order.  The
two notations differ in whether a list may be longer than what it stands for.
-/

/-- The names of the settings, in their order. -/
def settingNames : List Text :=
  [lit "input_dir", lit "output_dir", lit "base_path", lit "home_path", lit "smart_quotes",
   lit "replacer", lit "date_format", lit "default_author", lit "messages"]

/-- The names of the messages, in their order. -/
def messageNames : List Text :=
  [lit "footnotes", lit "untagged", lit "searching", lit "search_nothing", lit "search_done"]

/-- Whether each of the names occurs at most once. -/
def isDistinct : List Text → Bool
  | [] => true
  | name :: rest => !rest.contains name && isDistinct rest

/-- The values of names that a datum gives, by name or in their order.  With `exact` a list must not
be longer than there are names. -/
def namedValues? (exact : Bool) (names : List Text) : Datum → Option (List (Text × Datum))
  | .table fields =>
    let known := fields.filter fun field => names.contains field.1
    if isDistinct (known.map Prod.fst) then some known else none
  | .list items => if exact && names.length < items.length then none else some (names.zip items)
  | _ => none

/-- The value of a name: the default if it is not listed, none if what is listed cannot be read. -/
def valueOf? {α : Type} (read? : Datum → Option α) (default : α) (name : String)
    (values : List (Text × Datum)) : Option α :=
  match values.lookup (lit name) with
  | none => some default
  | some d => read? d

/-- A pair of texts. -/
def pair? (exact : Bool) : Datum → Option (Text × Text)
  | .list [a, b] => match a.text?, b.text? with
    | some a, some b => some (a, b)
    | _, _ => none
  | .list (a :: b :: _) =>
    if exact then none
    else match a.text?, b.text? with
      | some a, some b => some (a, b)
      | _, _ => none
  | _ => none

/-- The pairs that data are. -/
def pairsAmong? (exact : Bool) : List Datum → Option (List (Text × Text))
  | [] => some []
  | d :: rest => match pair? exact d, pairsAmong? exact rest with
    | some p, some ps => some (p :: ps)
    | _, _ => none

/-- A list of pairs of texts. -/
def pairs? (exact : Bool) : Datum → Option (List (Text × Text))
  | .list items => pairsAmong? exact items
  | _ => none

/-- The messages that a datum lists. -/
def messages? (exact : Bool) (d : Datum) : Option Messages := do
  let values ← namedValues? exact messageNames d
  let standard : Messages := {}
  let footnotes ← valueOf? Datum.text? standard.footnotes "footnotes" values
  let untagged ← valueOf? Datum.text? standard.untagged "untagged" values
  let searching ← valueOf? Datum.text? standard.searching "searching" values
  let searchNothing ← valueOf? Datum.text? standard.searchNothing "search_nothing" values
  let searchDone ← valueOf? Datum.text? standard.searchDone "search_done" values
  return { footnotes, untagged, searching, searchNothing, searchDone }

/-- **The configuration that a datum lists.** -/
def ofDatum? (exact : Bool) (d : Datum) : Option Config := do
  let values ← namedValues? exact settingNames d
  let standard : Config := {}
  let inputDir ← valueOf? Datum.text? standard.inputDir "input_dir" values
  let outputDir ← valueOf? Datum.text? standard.outputDir "output_dir" values
  let basePath ← valueOf? Datum.text? standard.basePath "base_path" values
  let homePath ← valueOf? Datum.text? standard.homePath "home_path" values
  let smartQuotes ← valueOf? Datum.text? standard.smartQuotes "smart_quotes" values
  let replacer ← valueOf? (pairs? exact) standard.replacer "replacer" values
  let dateFormat ← valueOf? Datum.text? standard.dateFormat "date_format" values
  let defaultAuthor ← valueOf? Datum.optionalText? standard.defaultAuthor "default_author" values
  let messages ← valueOf? (messages? exact) standard.messages "messages" values
  return { inputDir, outputDir, basePath, homePath, smartQuotes, replacer, dateFormat,
           defaultAuthor, messages }

/-- The messages as data. -/
def messagesDatum (m : Messages) : Datum :=
  .table [(lit "footnotes", .text m.footnotes), (lit "untagged", .text m.untagged),
    (lit "searching", .text m.searching), (lit "search_nothing", .text m.searchNothing),
    (lit "search_done", .text m.searchDone)]

/-- **A configuration as data**, with every setting listed; the author only if there is one. -/
def toDatum (c : Config) : Datum :=
  .table ([(lit "input_dir", .text c.inputDir), (lit "output_dir", .text c.outputDir),
    (lit "base_path", .text c.basePath), (lit "home_path", .text c.homePath),
    (lit "smart_quotes", .text c.smartQuotes),
    (lit "replacer", .list (c.replacer.map fun (p, r) => .list [.text p, .text r])),
    (lit "date_format", .text c.dateFormat)]
    ++ (match c.defaultAuthor with
      | some author => [(lit "default_author", .text author)]
      | none => [])
    ++ [(lit "messages", messagesDatum c.messages)])

/-! ## Configuration files -/

open Files (Entry Location)

/-- The notation that the name of a file tells. -/
def formatOf? (file : Location) : Option ConfigFormat :=
  match (Location.extension? file).map Text.toLower with
  | none => none
  | some extension =>
    if extension == lit "json" then some .json
    else if extension == lit "toml" then some .toml
    else none

/-- The configuration that a text lists in a notation. -/
def ofText? (kind : ConfigFormat) (t : Text) : Option Config :=
  match kind with
  | .json => (Datum.ofJson? t).bind (ofDatum? true)
  | .toml => (Datum.ofToml? t).bind (ofDatum? false)

/-- **The configuration in a file.** -/
def ofFile (files : Entry) (file : Location) : Except ConfigFault Config :=
  match Files.readText files file with
  | .error cause => .error (.unreadable file cause)
  | .ok t => match formatOf? file with
    | none => .error (.unknownFile file)
    | some kind => match ofText? kind t with
      | none => .error (.malformed kind file)
      | some c => .ok c

/-- Where a configuration file is looked for. -/
def places : List Text :=
  [lit "snipwiki.toml", lit "snipwiki.json", lit ".config/snipwiki.toml", lit ".config/snipwiki.json"]

/-- The first place in a directory that holds a file. -/
def discover? (files : Entry) (dir : Location) : Option Location :=
  (places.map (Location.join dir)).find? (Files.isFile files)

/-- Merge the configurations in files into one. -/
def mergeFiles (files : Entry) (c : Config) : List Location → Except ConfigFault Config
  | [] => .ok c
  | file :: rest => match ofFile files file with
    | .error fault => .error fault
    | .ok later => mergeFiles files (c.merge later) rest

/-- **The configuration in the given files**, or in the one that a directory holds, or the default. -/
def load (files : Entry) (given : List Location) (dir : Location) : Except ConfigFault Config :=
  match given with
  | first :: rest => match ofFile files first with
    | .error fault => .error fault
    | .ok c => mergeFiles files c rest
  | [] => match discover? files dir with
    | some file => ofFile files file
    | none => .ok {}

/-- The default configuration as a text in the format of a name. -/
def defaultText (format : Text) : Except ConfigFault Text :=
  let d := toDatum {}
  if format == lit "toml" then .ok d.toToml
  else if format == lit "json" then .ok d.toJson
  else .error (.unknownFormat format)

/-- The files with the default configuration written to one of them. -/
def writeDefault (files : Entry) (format : Text) (file : Location) : Except ConfigFault Entry :=
  match defaultText format with
  | .error fault => .error fault
  | .ok t => match Files.writeText files file t with
    | .error cause => .error (.unwritable file cause)
    | .ok files => .ok files

end WikiPress.Config
