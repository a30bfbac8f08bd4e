import ProviderCoverage.Disk.Basic
import ProviderCoverage.Glob
import ProviderCoverage.Text.Basic

/-!
# Ignore files

The `.gitignore`, `.ignore` and `.git/info/exclude` files of a directory: one pattern per line,
read relative to the directory.

A line starting with `#` is a comment and a blank line says nothing; trailing white space is
dropped unless escaped. A leading `!` re-includes what the pattern matches, and `\!` or `\#`
start a pattern with that character. A leading `/` anchors the pattern at the directory, a
trailing `/` makes it match directories only, and a pattern with no other `/` matches a name at
any depth. `*` and `?` never match `/`. A line whose pattern cannot be read is skipped, and
reading stops at the first line that is not UTF-8.

Of the patterns of one file that match a path, the last one decides.
-/

namespace ProviderCoverage.Disk

/-- What ignore patterns say of a path. -/
inductive Verdict where
  | unmatched
  | ignored
  | whitelisted
  deriving Repr, DecidableEq

/-- The verdict of the first of a list that says something. -/
def Verdict.first (vs : List Verdict) : Verdict :=
  (vs.find? (· != .unmatched)).getD .unmatched

/-- One pattern of an ignore file. -/
structure IgnoreRule where
  glob : Glob.Glob
  whitelist : Bool
  onlyDir : Bool

/-- The patterns of one ignore file, with the directory they are read relative to. -/
structure IgnoreFile where
  root : String := "."
  rules : List IgnoreRule := []

/-- The pattern of one line, if the line has one that can be read. -/
def IgnoreRule.ofLine? (line : String) : Option IgnoreRule := do
  if line.startsWith "#" then none
  let line := if line.endsWith "\\ " then line else Text.trimEnd line
  if line.isEmpty then none
  let (line, whitelist, anchored) :=
    if line.startsWith "\\!" || line.startsWith "\\#" then
      let rest := Text.dropChars line 1
      (rest, false, rest.startsWith "/")
    else
      let (rest, whitelist) :=
        if line.startsWith "!" then (Text.dropChars line 1, true) else (line, false)
      if rest.startsWith "/" then (Text.dropChars rest 1, whitelist, true)
      else (rest, whitelist, false)
  let (line, onlyDir) :=
    if line.endsWith "/" then
      let rest := Text.dropLastChars line 1
      (if rest.endsWith "\\" then Text.dropLastChars rest 1 else rest, true)
    else (line, false)
  let anywhere := !anchored && !line.toList.contains '/' &&
    !(line.startsWith "**/" || line == "**")
  let actual := if anywhere then "**/" ++ line else line
  let actual := if actual.endsWith "/**" then actual ++ "/*" else actual
  match Glob.Glob.parse actual with
  | .ok glob => some ⟨glob, whitelist, onlyDir⟩
  | .error _ => none

/-- The lines of a file's bytes that are UTF-8, up to the first that is not. -/
def utf8Lines (bytes : ByteArray) : List String :=
  let lines := (bytes.toList.splitOn 10).map fun l => String.fromUTF8? ⟨l.toArray⟩
  (lines.takeWhile Option.isSome).filterMap id

namespace IgnoreFile

/-- The patterns of a file's bytes, read relative to `root`; a line break may be preceded by a
carriage return, and a byte order mark opens the first line. -/
def ofBytes (root : String) (bytes : ByteArray) : IgnoreFile :=
  let lines := (utf8Lines bytes).map fun l => (Text.stripSuffix? l "\r").getD l
  let lines := match lines with
    | first :: rest => Text.trimStartChar first (Char.ofNat 0xFEFF) :: rest
    | [] => []
  ⟨root, lines.filterMap IgnoreRule.ofLine?⟩

/-- A path as the patterns see it: without a leading `./` and, for a directory other than
`.`, without the directory's own path. -/
def relative (f : IgnoreFile) (path : String) : String :=
  let path := (Text.stripPrefix? path "./").getD path
  if f.root != "." && path.toList.contains '/' then
    match Text.stripPrefix? path f.root with
    | some rest => (Text.stripPrefix? rest "/").getD rest
    | none => path
  else path

/-- What the file says of a path: the last matching pattern decides. -/
def verdict (f : IgnoreFile) (path : String) (isDir : Bool) : Verdict :=
  let rel := f.relative path
  match f.rules.reverse.find? fun r => (!r.onlyDir || isDir) && r.glob.matchesPath rel with
  | some r => if r.whitelist then .whitelisted else .ignored
  | none => .unmatched

end IgnoreFile

/-- The ignore files of one directory. -/
structure DirRules where
  /-- From `.ignore`, which outranks the others. -/
  ignore : IgnoreFile := {}
  /-- From `.gitignore`. -/
  gitignore : IgnoreFile := {}
  /-- From `.git/info/exclude`. -/
  exclude : IgnoreFile := {}

def join (dir name : String) : String :=
  if dir.isEmpty then name else if dir.endsWith "/" then dir ++ name else dir ++ "/" ++ name

/-- The patterns of the file at `path`, none when it cannot be read. -/
def IgnoreFile.read (d : Disk) (path root : String) : IgnoreFile :=
  match d.readBytes path with
  | .ok bytes => IgnoreFile.ofBytes root bytes
  | .error _ => { root := root }

/-- The ignore files of the directory at `dir`, read relative to `root`. -/
def DirRules.read (d : Disk) (dir root : String) : DirRules :=
  ⟨IgnoreFile.read d (join dir ".ignore") root, IgnoreFile.read d (join dir ".gitignore") root,
    IgnoreFile.read d (join (join dir ".git") "info/exclude") root⟩

end ProviderCoverage.Disk
