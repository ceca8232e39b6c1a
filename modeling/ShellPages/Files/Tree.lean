/-!
# File trees

A file path is names between slashes. It is absolute if it starts with a slash and relative to
the working directory otherwise. Empty parts and `.` name nothing, except that a path may begin
with `.`; `..` is a part like any other until the path is followed.

A file tree says what there is at each place: a regular file with its bytes, a directory, or a
symbolic link to another path. A place is the list of names that leads there from the root.
Following a path goes through its parts one by one: through directories, up with `..`, and on
with the target of a link. `Tree.follow` does so to the end, links included, and says why it
cannot.
-/

namespace ShellPages.Files

/-! ## Paths -/

/-- The parts of a path between its slashes. -/
def parts (path : String) : List String :=
  (path.toList.splitOn '/').map String.ofList

/-- Parts joined by slashes. -/
def joinParts (parts : List String) : String :=
  "/".intercalate parts

/-- Whether a path starts at the root. -/
def isAbsolute (path : String) : Bool :=
  path.toList.head? == some '/'

/-- A path followed by another; an absolute one is taken by itself. -/
def join (base path : String) : String :=
  if isAbsolute path || base.isEmpty then path
  else if base.toList.getLast? == some '/' then base ++ path
  else base ++ "/" ++ path

/-- A part that names nothing. -/
def isIdle (part : String) : Bool :=
  part == "" || part == "."

/-- Parts without the idle ones at their end. -/
def dropIdleEnd (parts : List String) : List String :=
  (parts.reverse.dropWhile isIdle).reverse

/-- The parts of a relative path without the idle ones at their end. A `.` that the path begins
with counts. -/
def relevantParts : List String → List String
  | [] => []
  | first :: rest =>
    if first == "." then first :: dropIdleEnd rest else dropIdleEnd (first :: rest)

/-- The path without its last name. The root and the empty path have no parent. -/
def parent? (path : String) : Option String :=
  match isAbsolute path, parts path with
  | true, _ :: rest =>
    match dropIdleEnd rest with
    | [] => none
    | names => some ("/" ++ joinParts (dropIdleEnd names.dropLast))
  | true, [] => none
  | false, names =>
    match relevantParts names with
    | [] => none
    | names => some (joinParts (relevantParts names.dropLast))

/-! ## Trees -/

/-- The names that lead to a place from the root. -/
abbrev Place := List String

/-- What there is at a place. -/
inductive Entry where
  | file (bytes : ByteArray)
  | directory
  | link (target : String)

/-- Why something cannot be done with a file. -/
inductive Fault where
  | notFound
  | exists
  | notDirectory
  | isDirectory
  | nameTooLong
  | tooManyLinks
  | zeroByte
  | notUtf8
  deriving DecidableEq, Repr

/-- The text of a fault. -/
def Fault.message : Fault → String
  | notFound => "No such file or directory (os error 2)"
  | .exists => "File exists (os error 17)"
  | notDirectory => "Not a directory (os error 20)"
  | isDirectory => "Is a directory (os error 21)"
  | nameTooLong => "File name too long (os error 36)"
  | tooManyLinks => "Too many levels of symbolic links (os error 40)"
  | zeroByte => "file name contained an unexpected NUL byte"
  | notUtf8 => "stream did not contain valid UTF-8"

/-- What there is at each place. The root is always a directory and is not listed; no place is
listed twice. -/
structure Tree where
  entries : List (Place × Entry) := []
  distinct : (entries.map Prod.fst).Nodup := by simp

namespace Tree

/-- A tree with nothing but its root. -/
def empty : Tree := {}

/-- What there is at a place. -/
def get? (t : Tree) : Place → Option Entry
  | [] => some .directory
  | place => t.entries.lookup place

/-- A tree without what is at a place. -/
def erase (t : Tree) (place : Place) : Tree where
  entries := t.entries.filter fun e => e.1 != place
  distinct := (List.filter_sublist.map Prod.fst).nodup t.distinct

/-- A tree with the given entry at a place, instead of what was there. -/
def set (t : Tree) (place : Place) (entry : Entry) : Tree where
  entries := (place, entry) :: (t.erase place).entries
  distinct := by
    refine List.nodup_cons.2 ⟨?_, (t.erase place).distinct⟩
    simp [erase]

/-- A tree without a place and all that is below it. -/
def eraseBelow (t : Tree) (place : Place) : Tree where
  entries := t.entries.filter fun e => !place.isPrefixOf e.1
  distinct := (List.filter_sublist.map Prod.fst).nodup t.distinct

/-- The names in a directory, with what each stands for. -/
def list (t : Tree) (place : Place) : List (String × Entry) :=
  t.entries.filterMap fun (p, entry) =>
    match p.getLast? with
    | some name => if p.dropLast == place then some (name, entry) else none
    | none => none

/-! ## Following paths -/

/-- How many bytes a name may have. -/
def maxName : Nat := 255

/-- How many bytes a path may have. -/
def maxPath : Nat := 4095

/-- How many links may be followed on the way to a place. -/
def maxLinks : Nat := 40

/-- Where following some parts without following links ends. -/
inductive Stop where
  /-- Every part has been followed. -/
  | done (place : Place)
  /-- A link, with the directory that it is in and the parts after it. -/
  | link (directory : Place) (name target : String) (rest : List String)
  deriving DecidableEq, Repr

/-- Follow parts from a directory up to the first link. -/
def goOn (t : Tree) (here : Place) : List String → Except Fault Stop
  | [] => .ok (.done here)
  | part :: rest =>
    if isIdle part then t.goOn here rest
    else if part == ".." then t.goOn here.dropLast rest
    else if part.utf8ByteSize > maxName then .error .nameTooLong
    else
      match t.get? (here ++ [part]) with
      | none => .error .notFound
      | some .directory => t.goOn (here ++ [part]) rest
      | some (.link target) => .ok (.link here part target rest)
      | some (.file _) =>
        if rest.isEmpty then .ok (.done (here ++ [part])) else .error .notDirectory

/-- The directory in which a path starts. -/
def start (cwd : Place) (path : String) : Place :=
  if isAbsolute path then [] else cwd

/-- Follow parts from a directory to the end, through at most as many links as given. -/
def followParts (t : Tree) : Nat → Place → List String → Except Fault Place
  | links, here, parts => do
    match ← t.goOn here parts with
    | .done place => .ok place
    | .link directory _ target rest =>
      match links with
      | 0 => .error .tooManyLinks
      | links + 1 => t.followParts links (start directory target) (Files.parts target ++ rest)

/-- Refuse a text that can be no path. -/
def checkPath (path : String) : Except Fault Unit :=
  if path.toList.contains '\x00' then .error .zeroByte
  else if path.isEmpty then .error .notFound
  else if path.utf8ByteSize > maxPath then .error .nameTooLong
  else .ok ()

/-- The place to which a path leads from a working directory, links followed. -/
def follow (t : Tree) (cwd : Place) (path : String) : Except Fault Place := do
  checkPath path
  t.followParts maxLinks (start cwd path) (parts path)

/-- What there is at the end of a path, links followed. -/
def stat (t : Tree) (cwd : Place) (path : String) : Except Fault Entry := do
  match t.get? (← t.follow cwd path) with
  | some entry => .ok entry
  | none => .error .notFound

/-- Whether a path leads to anything. -/
def leads (t : Tree) (cwd : Place) (path : String) : Bool :=
  (t.stat cwd path).isOk

/-- Whether a path leads to a directory. -/
def isDirectory (t : Tree) (cwd : Place) (path : String) : Bool :=
  match t.stat cwd path with
  | .ok .directory => true
  | _ => false

/-- The bytes of the regular file to which a path leads. -/
def file? (t : Tree) (cwd : Place) (path : String) : Option ByteArray :=
  match t.stat cwd path with
  | .ok (.file bytes) => some bytes
  | _ => none

/-- Read the file to which a path leads. -/
def read (t : Tree) (cwd : Place) (path : String) : Except Fault ByteArray := do
  match ← t.stat cwd path with
  | .file bytes => .ok bytes
  | .directory => .error .isDirectory
  | .link _ => .error .tooManyLinks

end Tree

end ShellPages.Files
