/-!
# Files

A run reads and writes files by their paths. `FileAccess` is all it needs to know of them, so that
it can work in a real directory as well as in a `FileTree`, a directory in memory.

A path is followed name by name. Each name but the last has to be that of a directory; `.` stands
for the directory itself and `..` for the one around it. Paths and names have a greatest length.
-/

namespace Portability

/-- A way to read and write files. -/
structure FileAccess (m : Type → Type) where
  /-- The text of a file, `none` where there is none or it holds no text. -/
  read : String → m (Option String)
  /-- Writes a file and tells whether that could be done. No directory is made. -/
  write : String → String → m Bool

/-- What a name in a directory stands for. -/
inductive FileEntry where
  | directory
  | file (content : ByteArray)

/-- A directory in memory, as the entries at the paths below it. -/
structure FileTree where
  entries : List (List String × FileEntry) := []

namespace FileTree

/-- The entry at a path; the empty path is the directory itself. -/
def entry? (tree : FileTree) (path : List String) : Option FileEntry :=
  if path.isEmpty then some .directory else tree.entries.lookup path

/-- Whether a path leads to a directory. -/
def isDirectory (tree : FileTree) (path : List String) : Bool :=
  match tree.entry? path with
  | some .directory => true
  | _ => false

/-- Puts an entry in the place of the one at its path. -/
def insert (tree : FileTree) (path : List String) (entry : FileEntry) : FileTree :=
  { entries := (path, entry) :: tree.entries.filter fun other => other.1 != path }

/-- Puts a file or a directory at a path, with the directories that lead to it. -/
def insertWithParents (tree : FileTree) (path : List String) (entry : FileEntry) : FileTree :=
  let parents := (List.range path.length).map fun n => path.take n
  let tree := parents.foldl (fun tree parent =>
    if tree.isDirectory parent then tree else tree.insert parent .directory) tree
  tree.insert path entry

/-- The greatest length of a path text, in bytes. -/
def pathLimit : Nat := 4095

/-- The greatest length of a name in a directory, in bytes. -/
def nameLimit : Nat := 255

/-- The names of a path text, `none` where it does not start in the directory or is too long. -/
def namesOf? (path : String) : Option (List String) :=
  let rec split : List Char → List (List Char)
    | [] => [[]]
    | c :: rest =>
      match split rest with
      | [] => [[c]]
      | first :: others => if c = '/' then [] :: first :: others else (c :: first) :: others
  let names := (split path.toList).map String.ofList
  if path.toList.head? = some '/' ∨ path.toList.contains '\x00' then none
  else if pathLimit < path.utf8ByteSize ∨ names.any (nameLimit < ·.utf8ByteSize) then none
  else some names

/-- Follows names from a directory on; all of them are to lead to directories. -/
def enter? (tree : FileTree) (directory : List String) : List String → Option (List String)
  | [] => some directory
  | name :: rest =>
    if name = "" ∨ name = "." then tree.enter? directory rest
    else if name = ".." then
      if directory.isEmpty then none else tree.enter? directory.dropLast rest
    else
      let next := directory ++ [name]
      if tree.isDirectory next then tree.enter? next rest else none

/-- Where a file with the given path text is or would be. -/
def locate? (tree : FileTree) (path : String) : Option (List String) := do
  let names ← namesOf? path
  let directory ← tree.enter? [] names.dropLast
  let name ← names.getLast?
  if name = "" ∨ name = "." ∨ name = ".." then none else some (directory ++ [name])

/-- The path of the null device, which is read as an empty text and keeps nothing. -/
def nullDevice : String := "/dev/null"

/-- The text of a file. -/
def read? (tree : FileTree) (path : String) : Option String := do
  if path = nullDevice then return ""
  match tree.entry? (← tree.locate? path) with
  | some (.file content) => String.fromUTF8? content
  | _ => none

/-- The directory with a file written, `none` where that cannot be done. -/
def write? (tree : FileTree) (path text : String) : Option FileTree := do
  if path = nullDevice then return tree
  let place ← tree.locate? path
  if tree.isDirectory place then none else some (tree.insert place (.file text.toUTF8))

/-- Reading and writing in a directory in memory. -/
def access : FileAccess (StateM FileTree) where
  read path := do
    return (← get).read? path
  write path text := do
    match (← get).write? path text with
    | some tree =>
      set tree
      return true
    | none => return false

end FileTree

end Portability
