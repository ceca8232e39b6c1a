import Std.Data.TreeMap
import ShellPages.Files.Tree
import ShellPages.Text.Edit

/-!
# Stores of pages

Pages live in a space of their own, addressed by segments between slashes. Empty segments and
`.` mean nothing and are dropped; `..` would leave the space and makes the whole path invalid.
A path in normal form is the remaining segments joined by single slashes. The page for a key stands
directly below a base, under the key's name with `.html` at its end.

A store answers two questions: what there is at a path, and which keys have a page directly below
a base. What is there may be a whole page, but it may also fail to open, or break off while it is
read. There are two kinds of stores.

* A shelf holds resources in memory, under the normal forms of their paths. Putting a resource at a
  path that has no normal form changes nothing, and putting one at a path with the normal form of
  another replaces it. A shelf lists its keys in the order of the paths.
* Pages may also be regular files below a directory, each at its path. A path is followed like any
  other file path, so links lead to pages; listing a directory takes its regular files only.
-/

namespace ShellPages

/-! ## Paths of pages -/

namespace Page

/-- The ending of the name of every page. -/
def ending : String := ".html"

/-- The parts of a path between its slashes. -/
def segments (path : String) : List (List Char) :=
  path.toList.splitOn '/'

/-- A segment that names something: neither empty nor `.`. -/
def isOrdinary (segment : List Char) : Bool :=
  segment != [] && segment != ['.']

/-- The segment that leads to the parent. -/
def parentSegment : List Char := ['.', '.']

/-- The segments of a path that name something. -/
def ordinarySegments (path : String) : List (List Char) :=
  (segments path).filter isOrdinary

/-- Segments joined by slashes. -/
def joinSegments (parts : List (List Char)) : String :=
  String.ofList (['/'].intercalate parts)

/-- The normal form of a path: its ordinary segments. A path with a `..` segment, or with no
ordinary one, has none. -/
def normalize? (path : String) : Option String :=
  let parts := ordinarySegments path
  if parts.isEmpty || parts.contains parentSegment then none else some (joinSegments parts)

/-- The path of the page for a key below a base; neither may be empty. -/
def path? (base key : String) : Option String :=
  if base.isEmpty || key.isEmpty then none else some (base ++ "/" ++ key ++ ending)

/-- The key of the page with the given file name. -/
def keyOfName? (name : List Char) : Option String :=
  match Text.stripEnd? ending.toList name with
  | none | some [] => none
  | some key => some (String.ofList key)

end Page

/-! ## Stores -/

/-- What a store has at a path. -/
inductive Resource where
  /-- A resource that can be read to its end. -/
  | whole (bytes : ByteArray)
  /-- A resource that exists but does not open. -/
  | closed (reason : String)
  /-- A resource that delivers some bytes and then fails. -/
  | cutOff (bytes : ByteArray) (reason : String)

/-- A space of pages that can be read. -/
structure Store where
  /-- What there is at a path, if anything. -/
  find? : String → Option Resource
  /-- The keys of the pages directly below a base. -/
  keys : String → List String

namespace Store

/-- The store with a resource at every path and no keys. -/
def everywhere (resource : Resource) : Store where
  find? _ := some resource
  keys _ := []

end Store

/-! ## Shelves -/

/-- Resources held in memory, under the normal forms of their paths. -/
structure Shelf where
  entries : Std.TreeMap String ByteArray := ∅

namespace Shelf

/-- The shelf without resources. -/
def empty : Shelf := {}

/-- Put a resource at a path, in place of the one that is there. -/
def put (s : Shelf) (path : String) (bytes : ByteArray) : Shelf :=
  match Page.normalize? path with
  | some place => { s with entries := s.entries.insert place bytes }
  | none => s

/-- Put resources at paths, one after the other. -/
def putAll (s : Shelf) (resources : List (String × ByteArray)) : Shelf :=
  resources.foldl (fun s (path, bytes) => s.put path bytes) s

/-- The shelf with the given resources, of which later ones replace earlier ones. -/
def ofList (resources : List (String × ByteArray)) : Shelf :=
  empty.putAll resources

/-- Whether a shelf holds nothing. -/
def isEmpty (s : Shelf) : Bool :=
  s.entries.isEmpty

/-- The bytes at a path. -/
def get? (s : Shelf) (path : String) : Option ByteArray := do
  s.entries[← Page.normalize? path]?

/-- The beginning of the paths below a base. A base without normal form stands for the whole
space. -/
def below (base : String) : List Char :=
  match Page.normalize? base with
  | some place => place.toList ++ ['/']
  | none => []

/-- The key of a path, if it is that of a page directly below the given beginning. -/
def keyOfPath? (beginning : List Char) (path : String) : Option String := do
  let name ← Text.stripStart? beginning path.toList
  if name.contains '/' then none else Page.keyOfName? name

/-- The keys of the pages directly below a base, in the order of their paths. -/
def keys (s : Shelf) (base : String) : List String :=
  s.entries.keys.filterMap (keyOfPath? (below base))

/-- A shelf as a store. -/
def store (s : Shelf) : Store where
  find? path := (s.get? path).map .whole
  keys := s.keys

end Shelf

/-! ## Directories -/

/-- A directory of pages: a path in a file tree, seen from a working directory. -/
structure PageDirectory where
  tree : Files.Tree
  cwd : Files.Place
  root : String

namespace PageDirectory

/-- The regular file at a path below the root. -/
def get? (d : PageDirectory) (path : String) : Option ByteArray := do
  d.tree.file? d.cwd (Files.join d.root (← Page.normalize? path))

/-- The file path of a base. A base without normal form stands for the root. -/
def pathOf (d : PageDirectory) (base : String) : String :=
  match Page.normalize? base with
  | some place => Files.join d.root place
  | none => d.root

/-- The key of an entry of a directory, if it is a regular file with the name of a page. -/
def keyOfEntry? : String × Files.Entry → Option String
  | (name, .file _) => Page.keyOfName? name.toList
  | _ => none

/-- The keys of the pages directly below a base, sorted. -/
def keys (d : PageDirectory) (base : String) : List String :=
  match d.tree.follow d.cwd (d.pathOf base) with
  | .ok place => ((d.tree.list place).filterMap keyOfEntry?).mergeSort (· ≤ ·)
  | .error _ => []

/-- A directory of pages as a store. -/
def store (d : PageDirectory) : Store where
  find? path := (d.get? path).map .whole
  keys := d.keys

end PageDirectory

end ShellPages
