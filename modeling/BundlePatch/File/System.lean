import BundlePatch.File.Error
import BundlePatch.File.Path

/-!
# File/System — a tree of directories and files

A `FileSystem` is what stands at each `Location`, a list of names from the top, together with the
working directory.  The top is always a directory.  Everything is seen through `get?`, and the two
changes, `put` and `erase`, are known by what they do to it (`get?_put`, `get?_erase`).

A path is followed name by name (`follow`): every name that is stepped over must be a directory, and
`..` steps back.  The operations on paths (`read`, `write`, `makeDirectory`) either succeed as a
whole or leave everything as it is.
-/

namespace BundlePatch

/-- The names that lead from the top to an entry. -/
abbrev Location := List String

/-- What stands at a location. -/
inductive Entry where
  | directory
  | file (bytes : List UInt8)
  deriving DecidableEq, Repr

/-- A **file system**: its entries below the top, and the working directory. -/
structure FileSystem where
  entries : List (Location × Entry) := []
  cwd : Location := []

namespace FileSystem

/-- The file system with nothing but a working directory and what leads to it. -/
def atDirectory (cwd : Location) : FileSystem where
  entries := (List.range cwd.length).map fun n => (cwd.take (n + 1), .directory)
  cwd := cwd

/-- **What stands at a location**, if anything does. -/
def get? (fs : FileSystem) (loc : Location) : Option Entry :=
  if loc = [] then some .directory else fs.entries.lookup loc

/-- Puts an entry at a location, in place of what was there. -/
def put (fs : FileSystem) (loc : Location) (entry : Entry) : FileSystem :=
  { fs with entries := (loc, entry) :: fs.entries.filter fun e => e.1 != loc }

/-- Takes away a location and everything below it. -/
def erase (fs : FileSystem) (loc : Location) : FileSystem :=
  { fs with entries := fs.entries.filter fun e => !loc.isPrefixOf e.1 }

/-- The names of the entries that stand directly in a location. -/
def namesIn (fs : FileSystem) (dir : Location) : List String :=
  fs.entries.filterMap fun (loc, _) =>
    if loc.dropLast = dir then loc.getLast? else none

/-- The entries below a location, each with its path from there, in the order of the paths. -/
def below (fs : FileSystem) (dir : Location) : List (String × Entry) :=
  let inside := fs.entries.filterMap fun (loc, entry) =>
    if dir.isPrefixOf loc && dir.length < loc.length then
      some ("/".intercalate (loc.drop dir.length), entry)
    else none
  inside.mergeSort fun a b => !(b.1 < a.1)

/-- The entries that are not as they were in `old`, the earliest change first. -/
def changesSince (fs old : FileSystem) : List (Location × Entry) :=
  (fs.entries.filter fun e => old.get? e.1 != some e.2).reverse

/-! ## Following paths -/

/-- The most bytes that a name may have. -/
def maxName : Nat := 255

/-- The number of bytes that a path may not reach. -/
def maxPath : Nat := 4096

/-- The location that names lead to from a location.  Only **directories are stepped into**; the
last name need not exist. -/
def walk (fs : FileSystem) (here : Location) : List String → Except Refusal Location
  | [] => .ok here
  | name :: names =>
    match fs.get? here with
    | none => .error .missing
    | some (.file _) => .error .notDirectory
    | some .directory =>
      if name = ".." then walk fs here.dropLast names
      else if maxName < name.utf8ByteSize then .error .nameTooLong
      else walk fs (here ++ [name]) names

/-- The **location of a path**. -/
def follow (fs : FileSystem) (p : Path) : Except Refusal Location :=
  if maxPath ≤ p.toString.utf8ByteSize then .error .nameTooLong
  else walk fs (match p.root with | .here => fs.cwd | _ => []) p.parts

/-- What stands at a path, and where that is. -/
def stat (fs : FileSystem) (p : Path) : Except Refusal (Location × Entry) := do
  let loc ← fs.follow p
  match fs.get? loc with
  | none => .error .missing
  | some entry => .ok (loc, entry)

/-- Whether a path leads to a directory; a path that leads nowhere does not. -/
def isDirectory (fs : FileSystem) (p : Path) : Bool :=
  !p.hasNul &&
  match fs.stat p with
  | .ok (_, .directory) => true
  | _ => false

/-- Whether **something stands** at a path.  A path that cannot be followed leads to nothing, unless
it is too long to be looked at. -/
def exists? (fs : FileSystem) (p : Path) : Except FileError Bool :=
  if p.hasNul then .ok false
  else
    match fs.stat p with
    | .ok _ => .ok true
    | .error .nameTooLong => .error (.refused .nameTooLong p.toString)
    | .error _ => .ok false

/-! ## Operations on paths -/

/-- The bytes of a file. -/
def read (fs : FileSystem) (p : Path) : Except Refusal (List UInt8) := do
  match ← fs.stat p with
  | (_, .directory) => .error .isDirectory
  | (_, .file bytes) => .ok bytes

/-- Writes a file, new or in place of an old one. -/
def write (fs : FileSystem) (p : Path) (bytes : List UInt8) : Except Refusal FileSystem := do
  let loc ← fs.follow p
  match fs.get? loc with
  | some .directory => .error .isDirectory
  | _ => .ok (fs.put loc (.file bytes))

/-- Writes bytes to a file if that can be done. -/
def writeIfPossible (fs : FileSystem) (p : Path) (bytes : List UInt8) : FileSystem :=
  match fs.write p bytes with
  | .ok fs' => fs'
  | .error _ => fs

/-- Makes a directory in a directory that exists. -/
def makeDirectory (fs : FileSystem) (p : Path) : Except Refusal FileSystem := do
  let loc ← fs.follow p
  match fs.get? loc with
  | some _ => .error .alreadyThere
  | none => .ok (fs.put loc .directory)

/-- Settles the refusal to make a directory: if there is one already, **all is well**. -/
def settle (fs : FileSystem) (p : Path) (why : Refusal) : Except FileError Unit :=
  if fs.isDirectory p then .ok () else .error (.refused why p.toString)

/-- Makes a directory with the **directories that lead to it**, as far as they are missing.  What
was made before a failure stays. -/
def makeDirectories (fs : FileSystem) (p : Path) : FileSystem × Except FileError Unit :=
  if p.hasNul then (fs, .error .embeddedNul)
  else
    match fs.makeDirectory p with
    | .ok fs' => (fs', .ok ())
    | .error .missing =>
      if p.parts.length = 0 then (fs, .error (.refused .missing p.toString))
      else
        match makeDirectories fs p.parent with
        | (fs', .error e) => (fs', .error e)
        | (fs', .ok ()) =>
          match fs'.makeDirectory p with
          | .ok fs'' => (fs'', .ok ())
          | .error .missing => (fs', .error (.refused .missing p.toString))
          | .error why => (fs', fs'.settle p why)
    | .error why => (fs, fs.settle p why)
termination_by p.parts.length
decreasing_by simp only [Path.parent, List.length_dropLast]; omega

/-! ## What the changes do -/

@[simp] theorem get?_nil (fs : FileSystem) : fs.get? [] = some .directory := by simp [get?]

/-- Striking out entries by their locations **does not touch the entries that stay**. -/
theorem lookup_filter (keep : Location → Bool) (loc : Location)
    (entries : List (Location × Entry)) :
    (entries.filter fun e => keep e.1).lookup loc =
      if keep loc then entries.lookup loc else none := by
  induction entries with
  | nil => simp
  | cons e entries ih =>
    obtain ⟨place, entry⟩ := e
    by_cases hl : loc = place
    · subst hl
      by_cases hk : keep loc <;> simp [hk, ih]
    · by_cases hp : keep place <;> simp [hp, ih, List.lookup_cons, beq_eq_false_iff_ne.2 hl]

/-- A put entry is there, and **everything else is where it was**. -/
theorem get?_put {fs : FileSystem} {place loc : Location} {entry : Entry} (h : place ≠ []) :
    (fs.put place entry).get? loc = if loc = place then some entry else fs.get? loc := by
  by_cases hl : loc = place
  · subst hl
    simp [get?, put, h]
  · by_cases hn : loc = []
    · simp [hn, Ne.symm h]
    · have hf := lookup_filter (· != place) loc fs.entries
      simp only [bne_iff_ne, ne_eq, hl, not_false_eq_true, if_true] at hf
      simp [get?, put, hn, hl, List.lookup_cons, beq_eq_false_iff_ne.2 hl, hf]

/-- What was taken away is gone with **everything below it**, and nothing else is. -/
theorem get?_erase {fs : FileSystem} {place loc : Location} (h : loc ≠ []) :
    (fs.erase place).get? loc = if place.isPrefixOf loc then none else fs.get? loc := by
  have hf := lookup_filter (fun l => !place.isPrefixOf l) loc fs.entries
  simp only [get?, erase, h, if_false, hf]
  cases place.isPrefixOf loc <;> rfl

end FileSystem

end BundlePatch
