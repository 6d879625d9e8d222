import LiveTemplates.Assoc
import LiveTemplates.Files.Fault
import LiveTemplates.Files.Path
import LiveTemplates.Fingerprint

set_option autoImplicit false

/-! # A tree of files

A tree holds files and folders at locations, which are lists of names from the root on. A path is
followed name by name from the root or from the folder that is open: each name leads on from a
folder only, and `..` leads back. Operations that fail tell why; what they have changed before
stays changed. -/

namespace LiveTemplates

/-- What can stand at a location. -/
inductive Node where
  | file (content : ByteArray) (modified : Moment)
  | folder

/-- Files are equal if they hold the same bytes and were modified at the same time. -/
instance : DecidableEq Node
  | .file content modified, .file other moment =>
    decidable_of_iff (content.data = other.data ∧ modified = moment)
      (by rw [Node.file.injEq, ByteArray.ext_iff])
  | .file _ _, .folder => isFalse nofun
  | .folder, .file _ _ => isFalse nofun
  | .folder, .folder => isTrue rfl

/-- Where something stands: the names from the root on. -/
abbrev Location := List String

/-- Files and folders, and the folder that relative paths start from. -/
structure Tree where
  nodes : List (Location × Node) := []
  start : Location := []
  deriving DecidableEq

namespace Tree

/-- What stands at a location. At the root there is always a folder. -/
def node? (tree : Tree) (location : Location) : Option Node :=
  if location.isEmpty then some .folder else Assoc.find? location tree.nodes

/-- Put a file or a folder at a location. -/
def put (tree : Tree) (location : Location) (node : Node) : Tree :=
  { tree with nodes := Assoc.set location node tree.nodes }

/-! ## Following a path -/

/-- The longest name of a file, in bytes. -/
def nameLimit : Nat := 255

/-- The longest path, in bytes. -/
def pathLimit : Nat := 4095

/-- Fails unless a folder stands at a location. -/
def requireFolder (tree : Tree) (location : Location) : Except FileFault Unit :=
  match tree.node? location with
  | some .folder => .ok ()
  | some (.file _ _) => .error .notDirectory
  | none => .error .notFound

/-- Follow the parts of a path from a location on. The last part need not exist. -/
def follow (tree : Tree) : Location → List String → Except FileFault Location
  | location, [] => .ok location
  | location, part :: rest =>
    match tree.requireFolder location with
    | .error fault => .error fault
    | .ok () =>
      if !Path.isStep part then follow tree location rest
      else if part = ".." then follow tree location.dropLast rest
      else if nameLimit < part.utf8ByteSize then .error .nameTooLong
      else follow tree (location ++ [part]) rest

/-- Fails if a text cannot be a path at all. -/
def checkPath (path : String) : Except FileFault Unit :=
  if path.contains '\x00' then .error .nulInName
  else if path.isEmpty then .error .notFound
  else if pathLimit < path.utf8ByteSize then .error .nameTooLong
  else .ok ()

/-- Where a path starts. -/
def origin (tree : Tree) (path : String) : Location :=
  if Path.isAbsolute path then [] else tree.start

/-- The location that a path leads to. -/
def locate (tree : Tree) (path : String) : Except FileFault Location :=
  match checkPath path with
  | .ok () => tree.follow (tree.origin path) (Path.parts path)
  | .error fault => .error fault

/-! ## Reading -/

/-- What a path leads to. -/
def look (tree : Tree) (path : String) : Except FileFault Node :=
  match tree.locate path with
  | .error fault => .error fault
  | .ok location =>
    match tree.node? location with
    | some node => .ok node
    | none => .error .notFound

/-- The content of the file that a path leads to. -/
def read (tree : Tree) (path : String) : Except FileFault ByteArray :=
  match tree.look path with
  | .ok (.file content _) => .ok content
  | .ok .folder => .error .isDirectory
  | .error fault => .error fault

/-- Whether a path leads to a file. -/
def isFile (tree : Tree) (path : String) : Bool :=
  match tree.look path with
  | .ok (.file _ _) => true
  | _ => false

/-- Whether one location comes before another: name by name, and a folder before what it holds. -/
def precedes (a b : Location) : Bool :=
  !b.lex a fun first second => decide (first < second)

/-- The files below a location, with the names that lead to them from there. -/
def filesBelow (tree : Tree) (location : Location) : List (Location × ByteArray) :=
  let below := tree.nodes.filterMap fun (place, node) =>
    match node with
    | .file content _ =>
      if location.isPrefixOf place && location.length < place.length then
        some (place.drop location.length, content)
      else none
    | .folder => none
  below.mergeSort fun a b => precedes a.1 b.1

/-! ## Writing -/

/-- Follow the parts of a path and make the folders that are missing on the way. -/
def makeFolders : Tree → Location → List String → Tree × Except FileFault Location
  | tree, location, [] => (tree, (tree.requireFolder location).map fun _ => location)
  | tree, location, part :: rest =>
    match tree.requireFolder location with
    | .error fault => (tree, .error fault)
    | .ok () =>
      if !Path.isStep part then makeFolders tree location rest
      else if part = ".." then makeFolders tree location.dropLast rest
      else if nameLimit < part.utf8ByteSize then (tree, .error .nameTooLong)
      else
        let next := location ++ [part]
        if (tree.node? next).isNone then makeFolders (tree.put next .folder) next rest
        else makeFolders tree next rest

/-- Make a folder and the folders it stands in. The empty path needs none. -/
def makeFolder (tree : Tree) (path : String) : Tree × Except FileFault Unit :=
  if path.isEmpty then (tree, .ok ())
  else
    match checkPath path with
    | .error fault => (tree, .error fault)
    | .ok () =>
      let (tree, outcome) := tree.makeFolders (tree.origin path) (Path.parts path)
      (tree, outcome.map fun _ => ())

/-- Write a file into a folder that exists. -/
def write (tree : Tree) (path : String) (content : ByteArray) (modified : Moment) :
    Tree × Except FileFault Unit :=
  match tree.locate path with
  | .error fault => (tree, .error fault)
  | .ok location =>
    match tree.node? location with
    | some .folder => (tree, .error .isDirectory)
    | _ => (tree.put location (.file content modified), .ok ())

/-- Write a file and make the folders it stands in. -/
def writeBelow (tree : Tree) (path : String) (content : ByteArray) (modified : Moment) :
    Tree × Except FileFault Unit :=
  match tree.makeFolder (Path.parent path) with
  | (tree, .error fault) => (tree, .error fault)
  | (tree, .ok ()) => tree.write path content modified

/-- Change the time of modification of a file. -/
def touch (tree : Tree) (path : String) (modified : Moment) : Tree :=
  match tree.locate path with
  | .error _ => tree
  | .ok location =>
    match tree.node? location with
    | some (.file content _) => tree.put location (.file content modified)
    | _ => tree

/-- Remove a file, or a folder with all it holds. -/
def remove (tree : Tree) (path : String) : Tree :=
  match tree.locate path with
  | .error _ => tree
  | .ok location =>
    { tree with nodes := tree.nodes.filter fun entry => !location.isPrefixOf entry.1 }

end Tree

end LiveTemplates
