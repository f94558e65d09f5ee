import WikiPress.Command.Run
import WikiPress.Files.Change

/-!
# Main — the program

The files below the working directory are read, the command line is carried out on them, and what has
changed is written back.
-/

namespace WikiPress.Disk

/-- The tree of files below an entry of a directory. -/
partial def readEntry (e : IO.FS.DirEntry) : IO Files.Entry := do
  if ← e.path.isDir then
    let inside ← e.path.readDir
    let entries ← inside.toList.mapM fun e => do return (lit e.fileName, ← readEntry e)
    return .directory entries
  else
    let bytes ← IO.FS.readBinFile e.path
    return .file ((String.fromUTF8? bytes).map String.toList)

/-- The place on disk that names lead to from the working directory. -/
def place (names : List Text) : String := String.ofList (Text.join ['/'] (['.'] :: names))

/-- Carry out one change. -/
def apply : Files.Change → IO Unit
  | .make names => IO.FS.createDirAll (place names)
  | .write names content => IO.FS.writeFile (place names) (String.ofList content)

end WikiPress.Disk

open WikiPress in
/-- Carry out the command line on the files below the working directory. -/
def main (args : List String) : IO UInt32 := do
  let before ← Disk.readEntry ⟨".", "."⟩
  let outcome := Command.run (args.map String.toList) before
  (Files.Entry.changes before outcome.files).forM Disk.apply
  IO.print (String.ofList outcome.output)
  return outcome.code.toUInt32
