import WikiPress.Files.Location
import WikiPress.Files.Tree

/-!
# Site/Fault — why a wiki cannot do what it is asked

The causes, and the messages that readers of the command line see.
-/

namespace WikiPress

/-- The formats of configuration files. -/
inductive ConfigFormat
  | toml
  | json
deriving DecidableEq, Repr

/-- The name of a format. -/
def ConfigFormat.name : ConfigFormat → Text
  | .toml => lit "TOML"
  | .json => lit "JSON"

/-- What is wrong with a configuration. -/
inductive ConfigFault
  /-- The file cannot be read. -/
  | unreadable (file : Files.Location) (cause : Files.Fault)
  /-- The file is not written in its notation, or lists something else than settings. -/
  | malformed (kind : ConfigFormat) (file : Files.Location)
  /-- The name of the file tells no notation. -/
  | unknownFile (file : Files.Location)
  /-- There is no notation of that name. -/
  | unknownFormat (format : Text)
  /-- The file cannot be written. -/
  | unwritable (file : Files.Location) (cause : Files.Fault)
deriving DecidableEq, Repr

/-- The message of a fault in a configuration.  What exactly is malformed is not told. -/
def ConfigFault.message : ConfigFault → Text
  | .unreadable file cause => lit "Failed to read config file: " ++ file ++ lit ": " ++ cause.message
  | .malformed kind file => lit "Failed to parse " ++ kind.name ++ lit " config from " ++ file
  | .unknownFile file => lit "Unsupported config file format: " ++ file
  | .unknownFormat format => lit "Unsupported config format: " ++ format
  | .unwritable file cause =>
    lit "Failed to write default config to " ++ file ++ lit ": " ++ cause.message

/-- Why a wiki cannot do what it is asked. -/
inductive SiteFault
  /-- The configuration is at fault. -/
  | config (cause : ConfigFault)
  /-- A document cannot be had. -/
  | pageMissing (path reason : Text)
  /-- A path names no document of the wiki. -/
  | badPath (page : Text)
  /-- A page cannot be written. -/
  | unwritten (cause : Files.Fault)
  /-- The documents cannot be listed. -/
  | unlisted (dir : Files.Location) (cause : Files.Fault)
deriving DecidableEq, Repr

/-- The message of a fault. -/
def SiteFault.message : SiteFault → Text
  | .config cause => lit "Configuration error: " ++ cause.message
  | .pageMissing path reason => lit "Page not found: " ++ path ++ lit ": " ++ reason
  | .badPath page => lit "Invalid page path: " ++ page
  | .unwritten cause => lit "I/O error: " ++ cause.message
  | .unlisted dir cause =>
    lit "Directory walk error: IO error for operation on " ++ dir ++ lit ": " ++ cause.message

end WikiPress
