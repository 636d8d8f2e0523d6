import BundlePatch.Program
import Std.Time.DateTime

/-!
# Main — the program on a disk

A run is a function of files, surroundings and arguments (`Program.run`).  Here the part of the disk
that a run looks at is read into a `FileSystem` beforehand, and afterwards **what the run has changed
is written down** and what it has said is printed.
-/

namespace BundlePatch

namespace Disk

/-- A location as the operating system writes it. -/
def written (loc : Location) : String := "/" ++ "/".intercalate loc

/-- Puts what stands at a location of the disk into a file system.  The bytes of a file are read only
if they are wanted. -/
def observe (fs : FileSystem) (loc : Location) (wanted : Bool) : IO FileSystem := do
  let place := (← IO.currentDir) / written loc
  if loc.isEmpty then return fs
  else if ← place.isDir then return fs.put loc .directory
  else if ← place.pathExists then
    if wanted then return fs.put loc (.file (← IO.FS.readBinFile place).toList)
    else return fs.put loc (.file [])
  else return fs

/-- Observes a path: **every directory that it leads through** and what it ends in. -/
def observePath (fs : FileSystem) (p : Path) : IO FileSystem := do
  let step := fun (place : FileSystem × Location) (name : String) => do
    let loc := if name = ".." then place.2.dropLast else place.2 ++ [name]
    return (← observe place.1 loc true, loc)
  let start := match p.root with
    | .here => fs.cwd
    | _ => []
  return (← p.parts.foldlM step (fs, start)).1

/-- Observes the names in a directory.  What the files hold is of no interest. -/
def observeNames (fs : FileSystem) (dir : Path) : IO FileSystem := do
  match fs.stat dir with
  | .ok (loc, .directory) =>
    let names := (← ((← IO.currentDir) / written loc).readDir).toList.map (·.fileName)
    names.foldlM (fun fs name => observe fs (loc ++ [name]) false) fs
  | _ => return fs

/-- The **part of the disk** that a run looks at. -/
def observeFor (settings? : Option Settings) : IO FileSystem := do
  let here := FileSystem.atDirectory (Path.ofString (← IO.currentDir).toString).parts
  match settings? with
  | none => return here
  | some settings =>
    let fs ← observePath here settings.backupDir
    let fs ← observeNames fs settings.backupDir
    observePath fs settings.target

/-- Makes one change on the disk. -/
def make : Location × Entry → IO Unit
  | (loc, .directory) => IO.FS.createDir (written loc)
  | (loc, .file bytes) => IO.FS.writeBinFile (written loc) bytes.toByteArray

end Disk

/-- The present instant. -/
def Instant.now : IO Instant := do
  let time := Std.Time.PlainDateTime.ofWallTime ((← Std.Time.Timestamp.now).toWallTime .zero)
  return {
    year := time.year.toInt.toNat
    month := time.month.toNat
    day := time.day.toNat
    hour := time.hour.toNat
    minute := time.minute.toNat
    second := time.second.toNat
    microsecond := time.nanosecond.toNat / 1000 }

/-- The surroundings of this process. -/
def Environment.current : IO Environment := do
  let accounts ← (IO.FS.readFile "/etc/passwd").toBaseIO
  return {
    backupDir := (← IO.getEnv "LSP_FIX_BACKUP_DIR").getD ""
    home? := ← IO.getEnv "HOME"
    homes := Environment.homesIn (accounts.toOption.getD "") }

/-- Prints a notice on its stream. -/
def Notice.print (n : Notice) : IO Unit :=
  match n.stream with
  | .output => IO.print n.render
  | .error => IO.eprint n.render

/-- The exit code of a program that has ended.  A fault that nobody handles is **named on the error
stream**. -/
def Program.Ending.exit : Program.Ending → IO UInt32
  | .returned code => return code.toUInt32
  | .left code => return code.toUInt32
  | .crashed why => do
    IO.eprintln why.message
    return 1

end BundlePatch

open BundlePatch in
/-- **Runs the program** on the disk. -/
def main (arguments : List String) : IO UInt32 := do
  let env ← Environment.current
  let before ← Disk.observeFor (Program.settings? env arguments)
  let report := Program.run before env (← Instant.now) .whole arguments
  (report.files.changesSince before).forM Disk.make
  report.said.forM Notice.print
  report.ending.exit
