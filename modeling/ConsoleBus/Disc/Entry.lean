import ConsoleBus.Text

/-!
# Names of disc images

A browser for disc images lists directories and files. Names are kept up to a fixed number of
bytes, and are compared byte by byte. A raw disc image often comes with a cue sheet of the same
name, which is the one to open.
-/

namespace ConsoleBus.Disc

/-- The number of bytes of the longest name that is kept. -/
def maxNameLength : Nat := 255

/-- As many characters from the front as fit into `room` bytes. -/
def fitting (room : Nat) : List Char → List Char
  | [] => []
  | c :: rest => if c.utf8Size ≤ room then c :: fitting (room - c.utf8Size) rest else []

/-- A name cut to what is kept of it. Characters are not cut in two. -/
def clampName (name : String) : String := String.ofList (fitting maxNameLength name.toList)

/-- A directory or a file. -/
structure Entry where
  /-- Whether it is a directory. -/
  isDirectory : Bool
  /-- Its name. -/
  name : String
  deriving DecidableEq, Repr, Inhabited

namespace Entry

/-- The entry for a name, which is cut if it is too long. -/
def named (isDirectory : Bool) (name : String) : Entry := ⟨isDirectory, clampName name⟩

/-- Directories come first, and then the order is by the bytes of the name. -/
instance : Ord Entry where
  compare a b :=
    (compare b.isDirectory a.isDirectory).then (compare (Text.bytes a.name) (Text.bytes b.name))

/-- What is left of the bytes of a name without the given ending, if they have it. -/
def stem? (ending name : List UInt8) : Option (List UInt8) :=
  if ending.isSuffixOf name then some (name.take (name.length - ending.length)) else none

/-- Whether an entry is named like a raw disc image, and the other like the cue sheet for it. -/
def isImageOf (image sheet : Entry) : Bool :=
  match stem? (Text.bytes ".bin") (Text.bytes image.name),
    stem? (Text.bytes ".cue") (Text.bytes sheet.name) with
  | some stem, some other => stem == other
  | _, _ => false

end Entry

end ConsoleBus.Disc
