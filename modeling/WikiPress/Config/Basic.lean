import WikiPress.Files.Location
import WikiPress.Page.Options

/-!
# Config/Basic — the configuration of a wiki

Where the documents are, where the pages go, and how they are rendered.  Every setting has a default,
so a configuration file lists only what it changes, and configurations are merged setting by setting.
-/

namespace WikiPress

/-- The texts shown to readers. -/
structure Messages where
  /-- The label above footnotes. -/
  footnotes : Text := lit "Footnotes"
  /-- The heading for documents without tags. -/
  untagged : Text := lit "Untagged"
  searching : Text := lit "Searching..."
  searchNothing : Text := lit "Nothing found."
  /-- Shown after the hits, with the number of hits and of documents in its two places. -/
  searchDone : Text := lit "Found \x7bcount\x7d of \x7btotal\x7d documents."
deriving DecidableEq, Repr

/-- The configuration of a wiki. -/
structure Config where
  /-- The directory of the documents. -/
  inputDir : Files.Location := lit "docs"
  /-- The directory that pages are written to. -/
  outputDir : Files.Location := lit "build"
  /-- The path of the wiki on its host. -/
  basePath : Text := lit "/"
  /-- The document that is the home of the wiki. -/
  homePath : Text := lit "/index.md"
  /-- The quotes of the wiki. -/
  smartQuotes : Text := lit "“”‘’"
  /-- Patterns and what replaces their matches. -/
  replacer : List (Text × Text) := []
  /-- How update dates are written. -/
  dateFormat : Text := lit "%Y-%m-%d"
  /-- The author of documents that name none. -/
  defaultAuthor : Option Text := none
  messages : Messages := {}
deriving DecidableEq, Repr

namespace Config

/-- The value that a later configuration gives a setting: its own, unless that is the default. -/
def laterUnlessDefault {α : Type} [DecidableEq α] (default earlier later : α) : α :=
  if later = default then earlier else later

/-- The location that a later configuration gives: its own, unless that says the same as the
default. -/
def laterLocation (default earlier later : Files.Location) : Files.Location :=
  if later.same default then earlier else later

/-- **A configuration with a later one merged into it.**  What the later one leaves at the default
stays; its replacers come after those that are there. -/
def merge (earlier later : Config) : Config :=
  let standard : Config := {}
  { inputDir := laterLocation standard.inputDir earlier.inputDir later.inputDir
    outputDir := laterLocation standard.outputDir earlier.outputDir later.outputDir
    basePath := laterUnlessDefault standard.basePath earlier.basePath later.basePath
    homePath := laterUnlessDefault standard.homePath earlier.homePath later.homePath
    smartQuotes := laterUnlessDefault standard.smartQuotes earlier.smartQuotes later.smartQuotes
    replacer := earlier.replacer ++ later.replacer
    dateFormat := laterUnlessDefault standard.dateFormat earlier.dateFormat later.dateFormat
    defaultAuthor := laterUnlessDefault standard.defaultAuthor earlier.defaultAuthor later.defaultAuthor
    messages := laterUnlessDefault standard.messages earlier.messages later.messages }

/-- A configuration with the directories given on the command line. -/
def withDirectories (inputDir outputDir : Option Files.Location) (c : Config) : Config :=
  { c with inputDir := inputDir.getD c.inputDir, outputDir := outputDir.getD c.outputDir }

/-- The options of the renderer. -/
def options (c : Config) : Page.Options :=
  { smartQuotes := c.smartQuotes
    replacers := Page.Replacer.compileAll c.replacer
    basePath := c.basePath
    homePath := c.homePath
    footnotesLabel := c.messages.footnotes }

end Config

end WikiPress
