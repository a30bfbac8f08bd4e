import ProviderCoverage.Command

/-!
# The command-line program

Reads the working directory into a directory tree, runs the command over it with the program's
arguments and the `RUST_LOG` filter, and writes what the command writes. Files are read in full
when an analysis may read them (Go sources, ignore files, settings files and the named settings
file); other files are kept as empty files. A symbolic link is kept with a target relative to
its directory when it leads inside the working directory, and as a link leading nowhere
otherwise.
-/

open ProviderCoverage
open System

def readsFile (name : String) : Bool :=
  name.endsWith ".go" || name.endsWith ".yaml" || name.endsWith ".yml" ||
    name == ".gitignore" || name == ".ignore" || name == "exclude"

/-- `path` relative to `base`, when it lies inside it. -/
def insideOf (base path : String) : Option String :=
  if path == base then some "."
  else Text.stripPrefix? path (if base.endsWith "/" then base else base ++ "/")

/-- Adds everything under the directory `dir` (a path from the working directory, whose real
path is `cwd`) to the tree. -/
partial def snapshot (cwd : String) (dir : String) (depth : Nat) (d : Disk) : IO Disk := do
  let mut d := d
  for entry in ← FilePath.readDir dir do
    let path := Disk.join dir entry.fileName
    let info ← entry.path.symlinkMetadata
    match info.type with
    | .dir =>
      d := d.addDir path
      d ← snapshot cwd path (depth + 1) d
    | .symlink =>
      let target ← try
          let real ← IO.FS.realPath entry.path
          pure (match insideOf cwd real.toString with
            | some rel => String.join (List.replicate depth "../") ++ rel
            | none => "/nowhere")
        catch _ => pure "/nowhere"
      d := d.addLink path target
    | _ =>
      let bytes ← if readsFile entry.fileName then IO.FS.readBinFile entry.path
        else pure ByteArray.empty
      d := d.addFile path bytes
  return d

/-- The time since the program started, as a log stamp. -/
def stamp (start : Nat) : IO String := do
  let ms := (← IO.monoMsNow) - start
  let frac := toString (ms % 1000)
  return toString (ms / 1000) ++ "." ++ String.ofList (List.replicate (3 - frac.length) '0') ++
    frac ++ "s"

def main (args : List String) : IO UInt32 := do
  let start ← IO.monoMsNow
  let cwd ← IO.FS.realPath "."
  let mut d ← snapshot cwd.toString "." 0 {}
  match Command.parseArguments args {} with
  | .ok a =>
    match a.config with
    | some config =>
      if (← FilePath.pathExists config) && !(← FilePath.isDir config) then
        d := d.addFile config (← IO.FS.readBinFile config)
    | none => pure ()
  | .error _ => pure ()
  let outcome := Command.run d args (← IO.getEnv "RUST_LOG")
  IO.print outcome.stdout
  IO.eprint (outcome.stderrText (← stamp start))
  (← IO.getStdout).flush
  return outcome.status.toUInt32
