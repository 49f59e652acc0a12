/-!
# A store of files

A `FileStore` is a small file tree given by relative names, written in order:
each name holds a file's text or marks a directory, every parent of a name is a
directory, and a name written later replaces an earlier name for the same file.
It stands for the working directory of a process on a POSIX system.

`FileStore.read` reads a file by a path as the system resolves it:

* a path holding a NUL character cannot be passed to the system at all;
* a path of `pathLimit` bytes or more is too long, whatever it names;
* a relative path walks the store from its top and an absolute one walks
  `FileStore.system`, the few entries every POSIX system has, from the root;
* the walk goes one part after the other: empty and `.` parts stay where they
  are, `..` goes up (the root is its own parent), a name longer than
  `nameLimit` bytes is too long, every part before the last must be a
  directory, and the last must be a file.

Failures are `FileError`s, worded as the system words them.
-/

namespace DftTaxonomy

/-- Why a file cannot be read. -/
inductive FileError where
  /-- No file or directory has that name. -/
  | notFound
  /-- The name is a directory. -/
  | isDirectory
  /-- A part before the last is a file. -/
  | notADirectory
  /-- The path, or one of its names, is longer than the system allows. -/
  | nameTooLong
  /-- The path holds a NUL character. -/
  | nulInName
  /-- Any other failure, by the system's description of it. -/
  | other (description : String)
  deriving DecidableEq

/-- The system's words for a read failure, with its error number. -/
def FileError.message : FileError → String
  | .notFound => "No such file or directory (os error 2)"
  | .isDirectory => "Is a directory (os error 21)"
  | .notADirectory => "Not a directory (os error 20)"
  | .nameTooLong => "File name too long (os error 36)"
  | .nulInName => "file name contained an unexpected NUL byte"
  | .other description => description

/-- A way to read files by path in a monad `m`: a file's text, or why it
cannot be read. -/
abbrev FileReader (m : Type → Type) := String → m (Except FileError String)

/-- A file tree: relative names with a file's text, or `none` for a
directory. -/
structure FileStore where
  entries : List (String × Option String)

namespace FileStore

/-- The store without files. -/
def empty : FileStore := ⟨[]⟩

/-- What every POSIX system has below its root: the directories `dev` and
`tmp`, and the device `dev/null`, which reads as empty. -/
def system : FileStore := ⟨[("dev", none), ("dev/null", some ""), ("tmp", none)]⟩

/-- The most bytes a single name in a path may have. -/
def nameLimit : Nat := 255

/-- A path of this many bytes or more is too long. -/
def pathLimit : Nat := 4096

/-- The parts of a relative name, empty and `.` parts skipped and `..` going
up; `none` when `..` leaves the tree. -/
def parts (name : String) : Option (List String) :=
  (name.splitOn "/").foldl (fun acc part =>
    match acc with
    | none => none
    | some ps =>
      if part == "" || part == "." then some ps
      else if part == ".." then (if ps.isEmpty then none else some ps.dropLast)
      else some (ps ++ [part])) (some [])

/-- The text of the file at exactly these parts, if one is stored there.
Names are written one after the other, so of two names for the same file the
later one holds its text. -/
def fileAt (store : FileStore) (ps : List String) : Option String :=
  (store.entries.filterMap fun (name, content) =>
    match content with
    | some text => if parts name == some ps then some text else none
    | none => none).getLast?

/-- Whether these parts name a directory: the top, a stored directory, or a
parent of a stored name. -/
def isDirectoryAt (store : FileStore) (ps : List String) : Bool :=
  ps.isEmpty || store.entries.any fun (name, content) =>
    match parts name with
    | some qs => (content.isNone && qs == ps) || (ps.length < qs.length && qs.take ps.length == ps)
    | none => false

/-- Read the file that the remaining parts of a path lead to, from the
directory at `here` (`none` once the path has climbed above the top, where
nothing but directories is known; when `rooted`, the top is the root and
climbing from it stays there).  Empty and `.` parts stay, `..` climbs, a name
longer than `nameLimit` bytes is `nameTooLong`, another name steps into a
directory, and a file ends the walk: it is read when no part follows it, and
is `notADirectory` otherwise.  A walk that ends on a directory is
`isDirectory`. -/
def readParts (store : FileStore) (rooted : Bool) :
    Option (List String) → List String → Except FileError String
  | _, [] => .error .isDirectory
  | here, part :: rest =>
    if part == "" || part == "." then readParts store rooted here rest
    else if part == ".." then
      match here with
      | some (p :: ps) => readParts store rooted (some (p :: ps).dropLast) rest
      | some [] => readParts store rooted (if rooted then some [] else none) rest
      | none => readParts store rooted none rest
    else if nameLimit < part.utf8ByteSize then .error .nameTooLong
    else
      match here with
      | none => .error .notFound
      | some ps =>
        let child := ps ++ [part]
        match store.fileAt child with
        | some text => if rest.isEmpty then .ok text else .error .notADirectory
        | none =>
          if store.isDirectoryAt child then readParts store rooted (some child) rest
          else .error .notFound

/-- Read a file by its path: a relative path from the top of the store, an
absolute one from the root of `system`. -/
def read (store : FileStore) (path : String) : Except FileError String :=
  if path.toList.contains (Char.ofNat 0) then .error .nulInName
  else if pathLimit ≤ path.utf8ByteSize then .error .nameTooLong
  else if path.isEmpty then .error .notFound
  else if path.startsWith "/" then system.readParts true (some []) (path.splitOn "/")
  else store.readParts false (some []) (path.splitOn "/")

/-- Reading files of the store, as a file reader without effects. -/
def reader (store : FileStore) : FileReader Id := fun path => pure (store.read path)

end FileStore

end DftTaxonomy
