import WikiPress.Files.Tree

/-!
# Files/Change — what makes one tree of files into another

A run of the program takes a tree of files to another and never removes anything, so the difference
is a list of directories to make and files to write.  A directory comes before what stands in it.
-/

namespace WikiPress.Files

/-- One step from a tree of files to a later one. -/
inductive Change
  /-- The names lead to a directory that was not there. -/
  | make (names : List Text)
  /-- The names lead to a file whose content is new. -/
  | write (names : List Text) (content : Text)
deriving DecidableEq, Repr

namespace Entry

/-- The directory that a directory which was not there needs. -/
def making (trail : List Text) : Option Entry → List Change
  | some (directory _) => []
  | _ => [.make trail]

mutual

/-- The steps to an entry at `trail` from the entry there before, if there was one. -/
def changesAt (trail : List Text) : Entry → Option Entry → List Change
  | file none, _ => []
  | file (some content), some (file (some old)) =>
    if old == content then [] else [.write trail content]
  | file (some content), _ => [.write trail content]
  | directory entries, before => making trail before ++ changesAmong trail entries before

/-- The steps to the entries of a directory at `trail` from what was there before. -/
def changesAmong (trail : List Text) : List (Text × Entry) → Option Entry → List Change
  | [], _ => []
  | (name, e) :: rest, before =>
    changesAt (trail ++ [name]) e (before.bind (at? [name])) ++ changesAmong trail rest before

end

/-- **The steps from one tree to another.** -/
def changes (before after : Entry) : List Change := changesAt [] after (some before)

end Entry

end WikiPress.Files
