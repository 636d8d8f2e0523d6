import BundlePatch.Fault
import BundlePatch.File.System

/-!
# File/Source — a bundle as the text in its file

A source is read as strict UTF-8 and written as UTF-8.  Nothing else happens to it: line ends and a
byte order mark are characters like others.
-/

namespace BundlePatch

namespace FileSystem

/-- The **text of a file**. -/
def readSource (fs : FileSystem) (p : Path) : Except Fault Text :=
  if p.hasNul then .error (.disk .embeddedNul)
  else
    match fs.read p with
    | .error why => .error (.unreadable p (FileError.refused why p.toString).message)
    | .ok bytes => (Utf8.decode bytes).mapError fun bad => .unreadable p bad.message

/-- Writes a text to a file. -/
def writeSource (fs : FileSystem) (p : Path) (s : Text) : FileSystem × Except Fault Unit :=
  if p.hasNul then (fs, .error (.disk .embeddedNul))
  else
    match fs.write p (Utf8.encode s) with
    | .error why => (fs, .error (.unwritable p (.refused why p.toString)))
    | .ok fs' => (fs', .ok ())

end FileSystem

end BundlePatch
