import ExactInteger.Decimal
import ExactInteger.Text.Utf8

/-!
# Files and directories

A store of files and directories in one tree, with a working directory in it that
paths start from unless they start with a slash.  A path is walked component by
component; every component but the last has to lead to a directory.  Names and
paths have a greatest length in bytes.  The directories on the way to the working
directory and to the null device are always there.

Some places may refuse to be written, whether there is a file or not, for a cause
that is part of the store: a file that is read-only, a directory that is closed, a
device without room.  A write that is not refused is complete, and is kept by any
place but the null device.  Every file that is there can be read, and there are no
links.
-/

namespace ExactInteger

inductive FileError where
  | notFound
  | notDirectory
  | isDirectory
  | nameTooLong
  /-- The path holds the null character, which no name can hold. -/
  | nullCharacter
  /-- Any other cause, as the operating system describes and numbers it. -/
  | other (description : String) (code : Nat)
  deriving DecidableEq

namespace FileError

def description : FileError → String
  | .notFound => "No such file or directory"
  | .notDirectory => "Not a directory"
  | .isDirectory => "Is a directory"
  | .nameTooLong => "File name too long"
  | .nullCharacter => "file name contained an interior NUL byte"
  | .other description _ => description

/-- The number an operating system has for a cause. It is never asked for a path
with the null character. -/
def code? : FileError → Option Nat
  | .notFound => some 2
  | .notDirectory => some 20
  | .isDirectory => some 21
  | .nameTooLong => some 36
  | .nullCharacter => none
  | .other _ code => some code

def message (error : FileError) : String :=
  error.description ++
    match error.code? with
    | some code => " (os error " ++ Decimal.ofNat code ++ ")"
    | none => ""

end FileError

/-- The names that lead from the root directory to a file or directory. -/
abbrev Path :=
  List String

/-- What a name in a directory stands for. -/
inductive Node where
  | file (contents : Bytes)
  | directory
  deriving DecidableEq

structure FileStore where
  /-- The directory that paths start from. -/
  workingDirectory : Path
  nodes : List (Path × Node)
  /-- The places where no file can be written, and what an attempt fails with. -/
  refusals : List (Path × FileError)

namespace FileStore

/-- The place of the null device, which is empty and keeps nothing that is written
to it. -/
def nullDevice : Path :=
  ["dev", "null"]

/-- Whether a path leads to the working directory or to the directory of the null
device. It passes through directories only. -/
def isFixed (store : FileStore) (path : Path) : Bool :=
  path.isPrefixOf store.workingDirectory || path.isPrefixOf nullDevice.dropLast

/-- What a path stands for, if there is anything. The empty path stands for the root
directory. -/
def node? (store : FileStore) (path : Path) : Option Node :=
  if store.isFixed path then some .directory
  else if path = nullDevice then some (.file [])
  else store.nodes.lookup path

/-- The store in which a path stands for a node, all others being as before. -/
def put (store : FileStore) (path : Path) (node : Node) : FileStore :=
  { store with
    nodes :=
      if store.nodes.any (·.1 == path) then
        store.nodes.map fun entry => if entry.1 == path then (path, node) else entry
      else
        store.nodes ++ [(path, node)] }

/-! ## Paths as texts -/

def greatestNameSize : Nat :=
  255

def greatestPathSize : Nat :=
  4095

/-- What is wrong with the text of a path, whatever there is in the store. -/
def pathError? (path : String) : Option FileError :=
  if path.isEmpty then some .notFound
  else if path.toList.contains '\x00' then some .nullCharacter
  else if greatestPathSize < path.utf8ByteSize then some .nameTooLong
  else none

def components (path : String) : List String :=
  (path.toList.splitOn '/').map String.ofList

/-- Where the walk along the text of a path starts. -/
def start (store : FileStore) (path : String) : Path :=
  if path.toList.head? = some '/' then [] else store.workingDirectory

/-- Whether a component names the directory it stands in or the one above. -/
def isStep (component : String) : Bool :=
  component == "" || component == "." || component == ".."

/-- The path of a name in a directory. -/
def named (directory : Path) (name : String) : Except FileError Path :=
  if greatestNameSize < name.utf8ByteSize then
    .error .nameTooLong
  else
    .ok (directory ++ [name])

/-- The directory that a component leads to. The root directory is the one above
itself. -/
def enter (store : FileStore) (directory : Path) (component : String) :
    Except FileError Path :=
  if component == ".." then
    .ok directory.dropLast
  else if isStep component then
    .ok directory
  else do
    let next ← named directory component
    match store.node? next with
    | none => .error .notFound
    | some (.file _) => .error .notDirectory
    | some .directory => .ok next

def walk (store : FileStore) (directory : Path) (components : List String) :
    Except FileError Path :=
  components.foldlM store.enter directory

def read (store : FileStore) (path : String) : Except FileError Bytes :=
  match pathError? path with
  | some error => .error error
  | none => do
      let name := (components path).getLastD ""
      let directory ← store.walk (store.start path) (components path).dropLast
      if isStep name then
        .error .isDirectory
      else
        match store.node? (← named directory name) with
        | none => .error .notFound
        | some .directory => .error .isDirectory
        | some (.file contents) => .ok contents

/-- The place that a file is written to, if one can be. A path that ends in a
slash is that of a directory, whether there is one or not. -/
def writable (store : FileStore) (path : String) : Except FileError Path :=
  match pathError? path with
  | some error => .error error
  | none =>
      let written := ((components path).reverse.dropWhile (· == "")).reverse
      match written.getLast? with
      | none => .error .isDirectory
      | some name => do
          let directory ← store.walk (store.start path) written.dropLast
          if isStep name || written.length < (components path).length then
            .error .isDirectory
          else
            let target ← named directory name
            match store.node? target with
            | some .directory => .error .isDirectory
            | _ =>
                match store.refusals.lookup target with
                | some cause => .error cause
                | none => .ok target

/-- The store after a file was written to a place, replaced if there was one. -/
def writeAt (store : FileStore) (contents : Bytes) (path : Path) : FileStore :=
  if path = nullDevice then store else store.put path (.file contents)

def write (store : FileStore) (path : String) (contents : Bytes) :
    Except FileError FileStore :=
  (store.writable path).map (store.writeAt contents)

/-! ## Stores from names -/

/-- The entries of a working directory, by the names that lead there from it. -/
def entries (store : FileStore) : List (Path × Node) :=
  store.nodes.filterMap fun (path, node) =>
    if store.workingDirectory.isPrefixOf path then
      some (path.drop store.workingDirectory.length, node)
    else
      none

/-- A working directory with the given entries, in a tree with nothing else and
where everything can be written. -/
def ofEntries (entries : List (Path × Node)) : FileStore where
  workingDirectory := ["work"]
  nodes := entries.map fun (path, node) => (["work"] ++ path, node)
  refusals := []

def empty : FileStore :=
  ofEntries []

/-- The store with an entry added to the working directory under a name whose
components slashes separate, together with the directories on the way to it. A
name that ends in a slash is that of a directory. -/
def addNamed (store : FileStore) (name : String) (contents : Bytes) :
    FileStore :=
  let path := (components name).filter fun component =>
    component != "" && component != "."
  let directories := (List.range path.length).map fun count => path.take count
  let withDirectories := (directories.filter (!·.isEmpty)).foldl
    (fun store directory => store.put (store.workingDirectory ++ directory) .directory)
    store
  let node := if (components name).getLast? == some "" then .directory
    else .file contents
  withDirectories.put (store.workingDirectory ++ path) node

/-- The name of an entry, which ends in a slash for a directory. -/
def entryName (entry : Path × Node) : String :=
  "/".intercalate entry.1 ++
    match entry.2 with
    | .file _ => ""
    | .directory => "/"

end FileStore

end ExactInteger
