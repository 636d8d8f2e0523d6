import BundlePatch.Console
import BundlePatch.Fault
import BundlePatch.File.Copy
import BundlePatch.Stamp

/-!
# Backup — a copy of the target before it is touched

A backup is named after its target and the instant at which it is made; if that name is taken, a
number follows, the least that makes the name free.  `Backup.create` never writes over anything, and
`Backup.restore` copies a backup back and says so if it cannot.  Either copy is made if it can be,
unless one is given that the system **breaks off**; what that has left, nobody takes away.
-/

namespace BundlePatch

namespace Backup

/-- The directory of backups that goes with a target. -/
def defaultDirectory (target : Path) : Path := target.parent.child "backups"

/-- The name of a backup: number 0 is the plain one. -/
def name (target : Path) (now : Instant) : Nat → String
  | 0 => s!"{target.stem}-{now.stamp}{target.suffix}"
  | k + 1 => s!"{target.stem}-{now.stamp}-{k + 1}{target.suffix}"

/-- The path of the backup with this number. -/
def candidate (dir target : Path) (now : Instant) (k : Nat) : Path := dir.child (name target now k)

/-- **Tries the numbers in turn**, from `k` on, until nothing stands at the path of one.  At most
`taken` of them are passed over. -/
def search (fs : FileSystem) (dir target : Path) (now : Instant) :
    Nat → Nat → Except FileError Path
  | 0, k => do
    let _ ← fs.exists? (candidate dir target now k)
    return candidate dir target now k
  | taken + 1, k => do
    if ← fs.exists? (candidate dir target now k) then search fs dir target now taken (k + 1)
    else return candidate dir target now k

/-- The path of the next backup in a directory that exists: no more numbers are passed over than
there are names in it. -/
def nextPath (fs : FileSystem) (dir target : Path) (now : Instant) : Except FileError Path :=
  let taken :=
    match fs.follow dir with
    | .ok loc => (fs.namesIn loc).length
    | .error _ => 0
  search fs dir target now taken 0

/-- Copies the target to the next backup in a directory that exists. -/
def store (fs : FileSystem) (target dir : Path) (now : Instant)
    (broken? : Option BrokenCopy := none) : FileSystem × Except FileError Path :=
  match nextPath fs dir target now with
  | .error why => (fs, .error why)
  | .ok backup =>
    let (fs', copied) := fs.copyUnless broken? target backup
    (fs', copied.map fun _ => backup)

/-- The fault that a failure to make a backup amounts to. -/
def faultOf (target : Path) (why : FileError) : Fault :=
  if why.isEnvironmental then .backupFailed target why else .disk why

/-- **Makes a backup** of a target, and the directory for it.  The directory is made first and stays
when the copy fails. -/
def create (fs : FileSystem) (target dir : Path) (now : Instant)
    (broken? : Option BrokenCopy := none) : FileSystem × Except Fault Path :=
  match fs.makeDirectories dir with
  | (fs', .error why) => (fs', .error (faultOf target why))
  | (fs', .ok ()) =>
    let (fs'', stored) := store fs' target dir now broken?
    (fs'', stored.mapError (faultOf target))

/-- **Copies a backup back** over its target.  A failure of the environment is reported in words and
as `false`. -/
def restore (fs : FileSystem) (backup target : Path) (broken? : Option BrokenCopy := none) :
    FileSystem × Spoken Fault Bool :=
  match fs.copyUnless broken? backup target with
  | (fs', .ok ()) => (fs', ⟨[], .ok true⟩)
  | (fs', .error why) =>
    if why.isEnvironmental then
      (fs', ⟨[.fail s!"Rollback failed: {why.message}",
              .info s!"Manual restore needed from: {backup}"], .ok false⟩)
    else (fs', ⟨[], .error (.disk why)⟩)

end Backup

end BundlePatch
