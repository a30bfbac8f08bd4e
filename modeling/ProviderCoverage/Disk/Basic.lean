/-!
# Directory trees

A directory tree as the analysis sees it from its working directory: files with their bytes,
directories, and symbolic links with their targets, each under the list of names that leads
to it from the top of the tree.

A path is looked up one name at a time from the top, or from above the top when it starts
with `/`. Empty names and `.` stay where they are, `..` goes to the directory above, and a
symbolic link is replaced by its target, read from the directory holding the link, except at
the end of the path when the link itself is asked for. At most forty links are followed in one
lookup. A name under a file is refused as not a directory. Nothing is known above the top of
the tree: every name there is missing.
-/

namespace ProviderCoverage.Disk

/-- What a name in the tree stands for. -/
inductive Entry where
  | file (bytes : ByteArray)
  | dir
  | link (target : String)

/-- Why an operation on a path failed. -/
inductive IoError where
  | notFound
  | notADirectory
  | isADirectory
  | tooManyLinks
  | invalidUtf8
  deriving Repr, DecidableEq

def IoError.message : IoError → String
  | .notFound => "No such file or directory (os error 2)"
  | .notADirectory => "Not a directory (os error 20)"
  | .isADirectory => "Is a directory (os error 21)"
  | .tooManyLinks => "Too many levels of symbolic links (os error 40)"
  | .invalidUtf8 => "stream did not contain valid UTF-8"

/-- The kind of what a path leads to. -/
inductive Kind where
  | file
  | dir
  | link
  deriving Repr, DecidableEq

/-- A place reached by a lookup: a list of names from the top of the tree, or `none` above it. -/
abbrev Place := Option (List String)

/-- The names of a path, empty names and `.` included. -/
def names (path : String) : List String := path.splitOn "/"

def Place.up : Place → Place
  | none => none
  | some [] => none
  | some p => some p.dropLast

def linkLimit : Nat := 40

end Disk

/-- A directory tree: every entry under the names leading to it from the top. -/
structure Disk where
  entries : List (List String × Disk.Entry) := []

namespace Disk

def entry? (d : Disk) (p : List String) : Option Entry :=
  (d.entries.find? (·.1 == p)).map (·.2)

/-- Follows `rest` from `here`, with `budget` links left; a link at the end is followed when
`followLast`. Each step consumes a name or a link, so the pair of the budget and the names
left decreases. -/
def lookupFrom (d : Disk) (followLast : Bool) (budget : Nat) (here : Place) :
    List String → Except IoError Place
  | [] => .ok here
  | c :: rest =>
    if c == "" || c == "." then lookupFrom d followLast budget here rest
    else if c == ".." then lookupFrom d followLast budget here.up rest
    else
      match here with
      | none => .error .notFound
      | some dir =>
        let p := dir ++ [c]
        match d.entry? p with
        | none => .error .notFound
        | some (.file _) => if rest.isEmpty then .ok (some p) else .error .notADirectory
        | some .dir => lookupFrom d followLast budget (some p) rest
        | some (.link target) =>
          if rest.isEmpty && !followLast then .ok (some p)
          else if target.isEmpty then .error .notFound
          else
            match budget with
            | 0 => .error .tooManyLinks
            | b + 1 =>
              let start : Place := if target.startsWith "/" then none else some dir
              lookupFrom d followLast b start (names target ++ rest)
termination_by rest => (budget, rest.length)

/-- The place a path leads to, links followed, the last one too when `followLast`; the empty
path leads nowhere. -/
def lookup (d : Disk) (path : String) (followLast : Bool := true) : Except IoError Place :=
  if path.isEmpty then .error .notFound
  else
    let start : Place := if path.startsWith "/" then none else some []
    d.lookupFrom followLast linkLimit start (names path)

def kindAt (d : Disk) : Place → Kind
  | none => .dir
  | some p =>
    match d.entry? p with
    | some (.file _) => .file
    | some (.link _) => .link
    | _ => .dir

/-- What a path leads to, links followed. -/
def metadata (d : Disk) (path : String) : Except IoError Kind :=
  (d.lookup path).map d.kindAt

/-- What a path names, a final link not followed. -/
def symlinkMetadata (d : Disk) (path : String) : Except IoError Kind :=
  (d.lookup path false).map d.kindAt

def isDir (d : Disk) (path : String) : Bool :=
  match d.metadata path with
  | .ok .dir => true
  | _ => false

def isFile (d : Disk) (path : String) : Bool :=
  match d.metadata path with
  | .ok .file => true
  | _ => false

def exists? (d : Disk) (path : String) : Bool := (d.metadata path).toOption.isSome

def readBytes (d : Disk) (path : String) : Except IoError ByteArray := do
  match ← d.lookup path with
  | none => .error .isADirectory
  | some p =>
    match d.entry? p with
    | some (.file bytes) => .ok bytes
    | _ => .error .isADirectory

/-- The text of the file a path leads to, which must be UTF-8. -/
def readText (d : Disk) (path : String) : Except IoError String := do
  match String.fromUTF8? (← d.readBytes path) with
  | some text => .ok text
  | none => .error .invalidUtf8

/-- Inserts a name into a sorted list without repeats. -/
def insertName (n : String) : List String → List String
  | [] => [n]
  | x :: xs => if n == x then x :: xs else if n < x then n :: x :: xs else x :: insertName n xs

/-- The names directly under a directory, in order. -/
def children (d : Disk) (dir : List String) : List String :=
  d.entries.foldl (fun acc (p, _) =>
    if p.length == dir.length + 1 && dir.isPrefixOf p then
      match p.getLast? with
      | some n => insertName n acc
      | none => acc
    else acc) []

/-- The names of a path written for creating entries: empty names and `.` dropped. -/
def creationNames (path : String) : List String :=
  (names path).filter fun n => n != "" && n != "."

/-- Sets the entry under a list of names, replacing what was there. -/
def set (d : Disk) (p : List String) (e : Entry) : Disk :=
  ⟨(d.entries.filter (·.1 != p)) ++ [(p, e)]⟩

/-- Makes every directory above a list of names that is not there yet. -/
def makeParents (d : Disk) (p : List String) : Disk :=
  (List.range p.length).foldl (fun d k =>
    let q := p.take k
    if q.isEmpty || (d.entry? q).isSome then d else d.set q .dir) d

/-- Adds a file with its bytes, making the directories above it. -/
def addFile (d : Disk) (path : String) (bytes : ByteArray) : Disk :=
  let p := creationNames path
  (d.makeParents p).set p (.file bytes)

def addDir (d : Disk) (path : String) : Disk :=
  let p := creationNames path
  if p.isEmpty || (d.entry? p).isSome then d.makeParents p else (d.makeParents p).set p .dir

/-- Adds a symbolic link to `target`, making the directories above it. -/
def addLink (d : Disk) (path target : String) : Disk :=
  let p := creationNames path
  (d.makeParents p).set p (.link target)

end ProviderCoverage.Disk
