import CgroupLimits.Files
import CgroupLimits.Path

/-! A tree of directories and files, and how a path is followed in it.

    A place is the list of names that leads to it from the root. A path is followed name by name:
    an empty name or a dot stays, two dots go to the parent, and the root is its own parent. Only
    a directory has names below it, so a slash behind a file makes the path fail. -/

namespace CgroupLimits

/-- What stands at a place. -/
inductive Node
  | directory
  | file (bytes : List UInt8)
  deriving DecidableEq, Repr

/-- What stands where, and the directory that relative paths start from. -/
structure FileTree where
  here : List String
  nodes : List (List String × Node)
  deriving DecidableEq, Repr

namespace FileTree

/-- The most bytes a name may have. -/
def longestName : Nat := 255

/-- The most bytes a path may have. -/
def longestPath : Nat := 4095

/-- What stands at a place; the root is always a directory. -/
def node? (tree : FileTree) (place : List String) : Option Node :=
  if place = [] then some .directory else tree.nodes.lookup place

/-- Follows names from a directory. -/
def follow (tree : FileTree) (place : List String) : List String → Opened
  | [] => .directory
  | name :: names =>
    if name = "" || name = "." then tree.follow place names
    else if name = ".." then tree.follow place.dropLast names
    else if longestName < name.utf8ByteSize then .failed .nameTooLong
    else
      match tree.node? (place ++ [name]) with
      | none => .failed .missing
      | some .directory => tree.follow (place ++ [name]) names
      | some (.file bytes) => if names = [] then .file bytes else .failed .notDirectory

/-- Where a path starts. -/
def start (tree : FileTree) (path : String) : List String :=
  if Path.isAbsolute path then [] else tree.here

/-- The view that a program in the directory `here` has of the tree. -/
def view (tree : FileTree) : Files := fun path =>
  if path.toList.contains '\x00' then .failed .zeroByte
  else if path = "" then .failed .missing
  else if longestPath < path.utf8ByteSize then .failed .nameTooLong
  else tree.follow (tree.start path) (Path.parts path)

/-! ### Changes -/

/-- The place a path names, read without looking at the tree. -/
def place (tree : FileTree) (path : String) : List String :=
  (Path.segments path).foldl
    (fun place name => if name = ".." then place.dropLast else place ++ [name]) (tree.start path)

/-- Makes a directory of a place and of each place above it where nothing stands. -/
def makeDirectories (tree : FileTree) (place : List String) : FileTree :=
  (List.range place.length).foldl
    (fun t k =>
      let above := place.take (k + 1)
      if (t.node? above).isSome then t else { t with nodes := (above, .directory) :: t.nodes })
    tree

/-- Puts a node at a path, below directories made as needed. -/
def put (tree : FileTree) (path : String) (node : Node) : FileTree :=
  let place := tree.place path
  let below := tree.makeDirectories place.dropLast
  { below with nodes := (place, node) :: below.nodes.filter (·.1 ≠ place) }

/-- Removes what stands at a path with all that is below it. -/
def remove (tree : FileTree) (path : String) : FileTree :=
  { tree with nodes := tree.nodes.filter fun entry => !(tree.place path).isPrefixOf entry.1 }

/-- The tree that holds one directory only. -/
def ofDirectory (here : List String) : FileTree :=
  (FileTree.mk here []).makeDirectories here

end FileTree

end CgroupLimits
