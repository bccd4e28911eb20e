import EnvInject.Text.Utf8

/-!
# Paths

A path is bytes, cut into pieces at each `/`. `Path.displayName` is what reports call a file: the
last piece of its path, where a trailing `/` and a trailing `/.` do not count.
-/

namespace EnvInject

/-- The path of a file or directory. -/
abbrev Path := Bytes

namespace Path

/-- The byte `/`. -/
def separator : UInt8 := 0x2F

/-- The piece `.`, the directory itself. -/
def self : Bytes := [0x2E]

/-- The piece `..`, the directory above. -/
def above : Bytes := [0x2E, 0x2E]

/-- The stretches of a path between its slashes, the empty ones included. -/
def pieces : Path → List Bytes
  | [] => [[]]
  | byte :: rest =>
    if byte = separator then [] :: pieces rest
    else
      match pieces rest with
      | [] => [[byte]]
      | piece :: more => (byte :: piece) :: more

/-- Whether a path starts at the root directory. -/
def isAbsolute (path : Path) : Bool :=
  path.head? == some separator

/-- The path of an entry of a directory. -/
def entry (directory : Path) (name : Bytes) : Path :=
  if directory.isEmpty || directory.getLast? == some separator then directory ++ name
  else directory ++ separator :: name

/-- The last piece of a path that names an entry, after trailing slashes and `.` pieces; none if
that is `..` or nothing is left. -/
def fileName? (path : Path) : Option Bytes :=
  match (pieces path).reverse.dropWhile (fun piece => piece.isEmpty || piece == self) with
  | [] => none
  | piece :: _ => if piece = above then none else some piece

/-- What reports call the file at a path: its name, or the path as given where it has none. -/
def displayName (path : Path) : String :=
  Utf8.lossy ((fileName? path).getD path)

/-- The directory that holds the entry at a path, and the name of that entry. Slashes at the end do
not count. -/
def parent (path : Path) : Path × Bytes :=
  let backwards := path.reverse.dropWhile (· == separator)
  let name := (backwards.takeWhile (· != separator)).reverse
  let above := (backwards.dropWhile (· != separator)).reverse
  (if above.isEmpty then self else above, name)

end Path

end EnvInject
