import ShellPages.Files.Tree

/-!
# Changing file trees

Making directories, writing files, making links and removing what is there. All but writing stop
at the last name of a path and do not follow a link there; writing follows it, and may make the
file that a dangling link names.
-/

namespace ShellPages.Files

/-- A path before its last name is followed. -/
structure LastName where
  /-- The parts before the last one. -/
  before : List String
  /-- The last part that is not empty; absent for the root. -/
  name? : Option String

/-- Take the last part off. -/
def lastName (parts : List String) : LastName :=
  match parts.reverse.dropWhile (· == "") with
  | [] => ⟨[], none⟩
  | name :: before => ⟨before.reverse, some name⟩

namespace Tree

/-- The directory to which some parts lead. -/
def followToDirectory (t : Tree) (here : Place) (parts : List String) : Except Fault Place :=
  t.followParts maxLinks here (parts ++ ["."])

/-- The place that the last name of a path stands for, without following a link there. The root
and the parts `.` and `..` are no names. -/
def placeOf (t : Tree) (here : Place) (parts : List String) : Except Fault (Option Place) := do
  let last := lastName parts
  let directory ← t.followToDirectory here last.before
  match last.name? with
  | none | some "." | some ".." => .ok none
  | some name =>
    if name.utf8ByteSize > maxName then .error .nameTooLong else .ok (some (directory ++ [name]))

/-- Make a directory in one that exists. -/
def makeDirectory (t : Tree) (cwd : Place) (path : String) : Except Fault Tree := do
  checkPath path
  match ← t.placeOf (start cwd path) (parts path) with
  | none => .error .exists
  | some place =>
    match t.get? place with
    | some _ => .error .exists
    | none => .ok (t.set place .directory)

/-- A tree after an attempt to change it, and the fault if the attempt failed. What has been done
before the fault stays. -/
structure Attempt where
  tree : Tree
  fault? : Option Fault := none

/-- Make a directory; one that is there already will do. -/
def ensureDirectory (t : Tree) (cwd : Place) (path : String) : Attempt :=
  match t.makeDirectory cwd path with
  | .ok t => ⟨t, none⟩
  | .error fault => ⟨t, if t.isDirectory cwd path then none else some fault⟩

/-- Make a directory, and those above it that are missing. The first argument bounds how many are
missing. -/
def makeDirectoriesUpTo : Nat → Tree → Place → String → Attempt
  | 0, t, _, _ => ⟨t, none⟩
  | bound + 1, t, cwd, path =>
    if path.isEmpty then ⟨t, none⟩
    else
      match t.makeDirectory cwd path with
      | .error .notFound =>
        let above := makeDirectoriesUpTo bound t cwd ((parent? path).getD "")
        if above.fault?.isSome then above else above.tree.ensureDirectory cwd path
      | _ => t.ensureDirectory cwd path

/-- Make a directory, and those above it that are missing. A directory that exists is left as it
is. -/
def makeDirectories (t : Tree) (cwd : Place) (path : String) : Attempt :=
  makeDirectoriesUpTo (path.length + 1) t cwd path

/-- Follow parts from a directory up to the first link, to where a file can be written. Nothing
need stand under the last name yet, but it has to be the last. -/
def goOnToWrite (t : Tree) (here : Place) : List String → Except Fault Stop
  | [] => .error .isDirectory
  | part :: rest =>
    if isIdle part then t.goOnToWrite here rest
    else if part == ".." then t.goOnToWrite here.dropLast rest
    else if !rest.isEmpty && rest.all (· == "") then .error .isDirectory
    else if part.utf8ByteSize > maxName then .error .nameTooLong
    else
      match t.get? (here ++ [part]) with
      | none => if rest.isEmpty then .ok (.done (here ++ [part])) else .error .notFound
      | some .directory => t.goOnToWrite (here ++ [part]) rest
      | some (.link target) => .ok (.link here part target rest)
      | some (.file _) =>
        if rest.isEmpty then .ok (.done (here ++ [part])) else .error .notDirectory

/-- Write a file at the end of some parts, through at most as many links as given. -/
def writeParts (t : Tree) (bytes : ByteArray) : Nat → Place → List String → Except Fault Tree
  | links, here, parts => do
    match ← t.goOnToWrite here parts with
    | .done place => .ok (t.set place (.file bytes))
    | .link directory _ target rest =>
      match links with
      | 0 => .error .tooManyLinks
      | links + 1 => t.writeParts bytes links (start directory target) (Files.parts target ++ rest)

/-- Write a file. A link at the last name is followed. -/
def write (t : Tree) (cwd : Place) (path : String) (bytes : ByteArray) : Except Fault Tree := do
  checkPath path
  t.writeParts bytes maxLinks (start cwd path) (parts path)

/-- Make a symbolic link. -/
def makeLink (t : Tree) (cwd : Place) (path target : String) : Except Fault Tree := do
  checkPath path
  checkPath target
  match ← t.placeOf (start cwd path) (parts path) with
  | none => .error .exists
  | some place =>
    match t.get? place with
    | some _ => .error .exists
    | none => .ok (t.set place (.link target))

/-- Remove a file, a link, or a directory with all that is in it. -/
def remove (t : Tree) (cwd : Place) (path : String) : Except Fault Tree := do
  checkPath path
  match ← t.placeOf (start cwd path) (parts path) with
  | none => .error .isDirectory
  | some place =>
    match t.get? place with
    | none => .error .notFound
    | some _ => .ok (t.eraseBelow place)

end Tree

end ShellPages.Files
