import WikiPress.Command.Arguments
import WikiPress.Config.File
import WikiPress.Site.Build

/-!
# Command/Run — carrying out a command line

A run takes the files it sees to the files it leaves, and has an exit code and an output.  Nothing
but what was asked for goes to the output; every failure is told by the exit code.
-/

namespace WikiPress.Command

open Files (Entry Location)

/-- What a run leaves behind. -/
structure Outcome where
  /-- Zero if everything was done, one if something failed, two if the command line was refused. -/
  code : Nat
  /-- What was printed. -/
  output : Text
  /-- The files afterwards. -/
  files : Entry

/-- The name and version of the program. -/
def version : Text := lit "snipwiki 0.3.0\n"

/-- How the program is used. -/
def usage : Text := lit "Usage: snipwiki [OPTIONS] <COMMAND>\n"

/-- A run that has failed. -/
def failed (files : Entry) : Outcome := ⟨1, [], files⟩

/-- A run that has done everything. -/
def done (output : Text) (files : Entry) : Outcome := ⟨0, output, files⟩

/-- Write the default configuration; a file that is there is only replaced by force. -/
def runInit (output : Location) (format : Text) (force : Bool) (files : Entry) : Outcome :=
  if Files.isThere files output && !force then failed files
  else
    let made : Option Files.Fault × Entry := match Location.parent? output with
      | some dir =>
        if dir.isEmpty || Files.isThere files dir then (none, files)
        else Files.makeDirectories files dir
      | none => (none, files)
    match made with
    | (some _, files) => failed files
    | (none, files) => match Config.writeDefault files format output with
      | .error _ => failed files
      | .ok files => done [] files

/-- Render one page. -/
def runRender (c : Config) (page : Text) (output : Option Location) (files : Entry) : Outcome :=
  match (Site.renderPage c files page {}).1 with
  | .error _ => failed files
  | .ok html => match output with
    | none => done html files
    | some l => match Files.writeText files l html with
      | .error _ => failed files
      | .ok files => done [] files

/-- Build the site. -/
def runBuild (c : Config) (files : Entry) : Outcome :=
  if !Files.isDirectory files c.inputDir then failed files
  else match Site.build c files {} with
    | (.error _, files, _) => failed files
    | (.ok _, files, _) => done [] files

/-- A hit as data. -/
def hitDatum (h : Hit) : Datum :=
  let orNull : Option Text → Datum := fun t => (t.map Datum.text).getD .null
  .table [(lit "path", .text h.path), (lit "title", .text h.title),
    (lit "tags", .list (h.tags.map .text)), (lit "updated", orNull h.updated),
    (lit "excerpt", orNull h.excerpt)]

/-- A hit as lines for readers. -/
def hitLines (h : Hit) : Text :=
  h.title ++ lit " (" ++ h.path ++ lit ")\n"
    ++ (if h.tags.isEmpty then [] else lit "  tags: " ++ Text.join (lit ", ") h.tags ++ ['\n'])
    ++ (match h.excerpt with
      | some excerpt => lit "  " ++ excerpt ++ ['\n']
      | none => [])

/-- The line after the hits. -/
def doneLine (messages : Messages) (count total : Nat) : Text :=
  Text.replaceAll (lit "\x7btotal\x7d") (Text.ofNat total)
    (Text.replaceAll (lit "\x7bcount\x7d") (Text.ofNat count) messages.searchDone) ++ ['\n']

/-- Search all documents. -/
def runSearch (c : Config) (query : Text) (json : Bool) (files : Entry) : Outcome :=
  match Site.search c files query {} with
  | (.error _, _) => failed files
  | (.ok hits, s) => match (Site.documents c files s).1 with
    | .error _ => failed files
    | .ok documents =>
      if json then done (Datum.toJson (.list (hits.map hitDatum)) ++ ['\n']) files
      else if hits.isEmpty then done (c.messages.searchNothing ++ ['\n']) files
      else done (hits.flatMap hitLines ++ doneLine c.messages hits.length documents.length) files

/-- Carry out an invocation. -/
def carryOut (i : Invocation) (files : Entry) : Outcome :=
  match i.task with
  | .init output format force => runInit output format force files
  | task => match Config.load files i.configFiles ['.'] with
    | .error _ => failed files
    | .ok c => match task with
      | .init .. => done [] files
      | .render page output => runRender c page output files
      | .build inputDir outputDir => runBuild (c.withDirectories inputDir outputDir) files
      | .search query json => runSearch c query json files

/-- **Carry out a command line.** -/
def run (args : List Text) (files : Entry) : Outcome :=
  match read args with
  | .error .version => done version files
  | .error .help => done usage files
  | .error .refused => ⟨2, [], files⟩
  | .ok i => carryOut i files

end WikiPress.Command
