import Rollout.Text.Hex

/-!
# Files

The part of a file system that a command sees: files and directories by their paths, and the two
devices of which one takes everything and the other nothing.
-/

namespace Rollout

/-- A normalized path: below the working directory or from the root. -/
structure Path where
  /-- Whether the path starts in the working directory. -/
  relative : Bool
  /-- The names on the way. -/
  names : List String
  deriving DecidableEq, Inhabited

namespace Path

/-- Split a text at slashes. -/
def splitSlashes : List Char → List (List Char)
  | [] => [[]]
  | c :: rest =>
      match splitSlashes rest with
      | [] => [[c]]
      | part :: parts => if c = '/' then [] :: part :: parts else (c :: part) :: parts

/-- Follow a name from a place that is told by the names on the way from the root. -/
def follow (names : List String) (name : List Char) : List String :=
  if name = [] ∨ name = ['.'] then names
  else if name = ['.', '.'] then names.dropLast
  else names ++ [String.ofList name]

/-- The place to which a text leads from another one. -/
def walk (names : List String) (text : String) : List String :=
  (splitSlashes text.toList).foldl follow names

/-- The path that a text names in a working directory.  However it is written, a path into the
working directory is told from there. -/
def resolveIn (home : List String) (text : String) : Path :=
  let names := walk (if text.toList.head? = some '/' then [] else home) text
  if home ≠ [] ∧ home.isPrefixOf names then ⟨true, names.drop home.length⟩ else ⟨false, names⟩

/-- The path that a text names in the working directory of a given name. -/
def resolve (workingDirectory text : String) : Path := resolveIn (walk [] workingDirectory) text

/-- The path that a text names in a working directory below the root that nothing else names. -/
def ofText (text : String) : Path := resolveIn ["."] text

/-- The text of a path. -/
def text (path : Path) (workingDirectory : String) : String :=
  if path.relative then
    workingDirectory ++ String.join (path.names.map fun name => "/" ++ name)
  else "/" ++ String.intercalate "/" path.names

end Path

/-- What a path leads to. -/
inductive FileItem where
  /-- A file with its text. -/
  | file (content : String)
  /-- A directory. -/
  | directory
  /-- A device that takes everything and keeps nothing. -/
  | discard
  /-- A device that takes nothing. -/
  | full
  deriving DecidableEq, Inhabited

/-- Why a file cannot be opened or written. -/
inductive FileFault where
  /-- There is nothing at the path. -/
  | notFound
  /-- Something on the way is not a directory. -/
  | notDirectory
  /-- The path leads to a directory. -/
  | isDirectory
  /-- A name on the way is too long. -/
  | nameTooLong
  deriving DecidableEq

/-- The complaint about a path that cannot be opened. -/
def FileFault.message (fault : FileFault) (path : String) : String :=
  let reason :=
    match fault with
    | notFound => "ENOENT: no such file or directory"
    | notDirectory => "ENOTDIR: not a directory"
    | isDirectory => "EISDIR: illegal operation on a directory"
    | nameTooLong => "ENAMETOOLONG: name too long"
  reason ++ ", open '" ++ path ++ "'"

/-- The complaint of a device that takes nothing. -/
def noSpaceMessage : String := "ENOSPC: no space left on device, write"

/-- The items of a file system; a path that is not listed leads nowhere. -/
structure FileTree where
  /-- The items by their paths. -/
  items : List (Path × FileItem)
  deriving Inhabited

namespace FileTree

/-- What a path leads to. -/
def find? (tree : FileTree) (path : Path) : Option FileItem :=
  if path.names.isEmpty then some .directory
  else (tree.items.find? fun entry => entry.1 == path).map Prod.snd

/-- Put an item at a path. -/
def put (path : Path) (item : FileItem) : List (Path × FileItem) → List (Path × FileItem)
  | [] => [(path, item)]
  | entry :: rest => if entry.1 = path then (path, item) :: rest else entry :: put path item rest

/-- A tree with an item at a path. -/
def insert (tree : FileTree) (path : Path) (item : FileItem) : FileTree :=
  ⟨put path item tree.items⟩

/-- The directories on the way to a path. -/
def parents (path : Path) : List Path :=
  (List.range path.names.length).map fun count => { path with names := path.names.take count }

/-- A tree with a directory at every path of a list that leads nowhere. -/
def addDirectories (tree : FileTree) (paths : List Path) : FileTree :=
  paths.foldl
    (fun tree path => if (tree.find? path).isSome then tree else tree.insert path .directory) tree

/-- A tree with a file and the directories on the way to it. -/
def addFile (tree : FileTree) (path : Path) (content : String) : FileTree :=
  (tree.addDirectories (parents path)).insert path (.file content)

/-- The devices and directories that every tree has. -/
def standard : FileTree :=
  { items :=
      [(⟨false, ["dev", "null"]⟩, .discard), (⟨false, ["dev", "full"]⟩, .full)] ++
        ["bin", "dev", "etc", "home", "lib", "opt", "proc", "root", "run", "sys", "tmp", "usr",
          "var"].map fun name => (⟨false, [name]⟩, .directory) }

/-- The text that reading a path gives, if it gives any. -/
def read? (tree : FileTree) (path : Path) : Option String :=
  match tree.find? path with
  | some (.file content) => some content
  | some .discard => some ""
  | _ => none

/-- The number of bytes that a name may have. -/
def nameLimit : Nat := 255

/-- Walk along names; every one but the last must lead to a directory. -/
def walk? (tree : FileTree) (path : Path) : List String → Option FileFault
  | [] => none
  | name :: rest =>
      let next : Path := { path with names := path.names ++ [name] }
      if nameLimit < name.utf8ByteSize then some .nameTooLong
      else if rest.isEmpty then none
      else
        match tree.find? next with
        | some .directory => walk? tree next rest
        | some _ => some .notDirectory
        | none => some .notFound

/-- Open a path for writing: a file there becomes empty, and a new file is created. -/
def openForWriting (tree : FileTree) (path : Path) : Except FileFault FileTree :=
  match walk? tree { path with names := [] } path.names with
  | some fault => .error fault
  | none =>
      match tree.find? path with
      | some .directory => .error .isDirectory
      | some (.file _) | none => .ok (tree.insert path (.file ""))
      | some _ => .ok tree

/-- Write to an opened path; the device that takes nothing refuses any text but the empty one. -/
def write? (tree : FileTree) (path : Path) (content : String) : Option FileTree :=
  match tree.find? path with
  | some (.file _) => some (tree.insert path (.file content))
  | some .full => if content = "" then some tree else none
  | _ => some tree

/-- The files that a later tree has anew or with another text. -/
def changes (before after : FileTree) : List (Path × String) :=
  after.items.filterMap fun (path, item) =>
    match item with
    | .file content => if before.find? path = some item then none else some (path, content)
    | _ => none

/-- The changed files below the working directory by their names, sorted. -/
def localChanges (before after : FileTree) : List (String × String) :=
  let changed := (changes before after).filter fun entry => entry.1.relative
  (changed.map fun (path, content) => (String.intercalate "/" path.names, content)).mergeSort
    fun left right => !(right.1 < left.1)

end FileTree

end Rollout
