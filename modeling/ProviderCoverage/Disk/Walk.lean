import ProviderCoverage.Disk.Ignore

/-!
# Walking a directory tree

A walk lists what lies under a root, depth first, each directory before what it holds and the
names of a directory in order. Paths are written as the root joined with the names below it.
Symbolic links are followed: a link to a directory is walked like the directory, unless the
directory is one the walk is already inside, which is reported as a loop; a link that leads
nowhere is reported with the error of following it. A root that is a file is listed alone; a
root that cannot be reached is reported.

Below the root, an entry is skipped when the ignore files say so, or when its name starts with
`.` and no ignore file re-includes it; a skipped directory is not entered. For each kind of
ignore file (`.ignore` before `.gitignore` before `.git/info/exclude`) the nearest directory
whose file matches the entry decides; the ignore files of the directories above the root are
consulted last, with the entry's path taken from the root's real place.
-/

namespace ProviderCoverage.Disk

/-- One step of a walk: an entry reached, or why one could not be. -/
inductive WalkItem where
  | entry (path : String) (kind : Kind)
  | failure (message : String)

/-- A directory the walk is inside: its path as walked, its real place and its ignore files. -/
structure Frame where
  path : String
  real : Place
  rules : DirRules

/-- What stays fixed during one walk. -/
structure Walker where
  disk : Disk
  /-- The real place of the root. -/
  rootPlace : List String
  /-- The directories above the root's real place, nearest first, with their ignore files. -/
  above : List (List String × DirRules)

/-- `path` without a leading `./`. -/
def stripDot (path : String) : String := (Text.stripPrefix? path "./").getD path

/-- The last name of a path. -/
def lastName (path : String) : String :=
  String.ofList ((path.toList.reverse.takeWhile (· != '/')).reverse)

def isHidden (path : String) : Bool := (lastName path).startsWith "."

/-- The path of a real place, written from the top of the tree. -/
def placePath (p : List String) : String := if p.isEmpty then "." else "/".intercalate p

namespace Walker

/-- The path of an entry as seen from a directory above the root: the root's real place below
that directory, then the entry's path with its own directory's path removed. -/
def pathFromAbove (w : Walker) (dir : List String) (frame : Frame) (path : String) : String :=
  let pathPrefix := stripDot frame.path
  let rest := match Text.stripPrefix? path pathPrefix with
    | some r => (Text.stripPrefix? r "/").getD r
    | none => path
  "/".intercalate (w.rootPlace.drop dir.length ++ [rest])

/-- What the ignore files of the open directories and of those above the root say of an entry,
the kinds of file in order of rank. -/
def verdict (w : Walker) (frames : List Frame) (path : String) (isDir : Bool) : Verdict :=
  let path := stripDot path
  let ofKind (pick : DirRules → IgnoreFile) : Verdict :=
    let inside := frames.map fun f => (pick f.rules).verdict path isDir
    let outside := match frames with
      | f :: _ => w.above.map fun (dir, rules) =>
          (pick rules).verdict (w.pathFromAbove dir f path) isDir
      | [] => []
    Verdict.first (inside ++ outside)
  Verdict.first [ofKind (·.ignore), ofKind (·.gitignore), ofKind (·.exclude)]

def skips (w : Walker) (frames : List Frame) (path : String) (isDir : Bool) : Bool :=
  match w.verdict frames path isDir with
  | .ignored => true
  | .whitelisted => false
  | .unmatched => isHidden path

/-- The kind and real place of the entry `name` of a directory, links followed. -/
def reach (w : Walker) (dir : Place) (name : String) : Except IoError (Kind × Place) := do
  let place ← w.disk.lookupFrom true linkLimit dir [name]
  pure (w.disk.kindAt place, place)

def childrenOf (w : Walker) : Place → List String
  | some p => w.disk.children p
  | none => []

/-- Walks the directories below the innermost frame, at most `fuel` deep. -/
def walkBelow (w : Walker) : Nat → List Frame → List WalkItem
  | 0, _ => []
  | _, [] => []
  | fuel + 1, frames@(top :: _) =>
    (w.childrenOf top.real).flatMap fun name =>
      let path := join top.path name
      match w.reach top.real name with
      | .error e =>
        [.failure (path ++ ": IO error for operation on " ++ path ++ ": " ++ e.message)]
      | .ok (kind, place) =>
        let isDir := kind == .dir
        match (if isDir then frames.find? (·.real == place) else none) with
        | some ancestor =>
          [.failure ("File system loop found: " ++ path ++ " points to an ancestor " ++ ancestor.path)]
        | none =>
          if w.skips frames path isDir then []
          else if isDir then
            let frame : Frame := ⟨path, place, DirRules.read w.disk path (stripDot path)⟩
            .entry path .dir :: w.walkBelow fuel (frame :: frames)
          else [.entry path kind]

end Walker

/-- Everything under `root`, in walk order. A directory is entered at most once on any one
descent, so the number of entries bounds the depth. -/
def walk (d : Disk) (root : String) : List WalkItem :=
  match d.lookup root with
  | .error e => [.failure (root ++ ": IO error for operation on " ++ root ++ ": " ++ e.message)]
  | .ok place =>
    match d.kindAt place with
    | .dir =>
      let rootPlace := place.getD []
      let above := match place with
        | some p => (List.range p.length).reverse.map fun k =>
            (p.take k, DirRules.read d (placePath (p.take k)) ".")
        | none => []
      let w : Walker := ⟨d, rootPlace, above⟩
      let frame : Frame := ⟨root, place, DirRules.read d root (stripDot root)⟩
      .entry root .dir :: w.walkBelow (d.entries.length + 1) [frame]
    | kind => [.entry root kind]

end ProviderCoverage.Disk
