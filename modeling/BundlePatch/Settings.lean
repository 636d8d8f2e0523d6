import BundlePatch.Backup
import BundlePatch.CommandLine
import BundlePatch.Preview

/-!
# Settings — what a run works on

The options of a command line become settings once a target is named and the home directories in its
paths are known.  A path that begins with `~` begins in the home directory of the user, one that
begins with `~NAME` in that of the user NAME.
-/

namespace BundlePatch

/-- What a run knows of its surroundings: the directory of backups that holds if none is given, the
home directory of the user, and those of others. -/
structure Environment where
  backupDir : String := ""
  home? : Option String := none
  homes : List (String × String) := []
  deriving Repr

namespace Environment

/-- The home directories in a list of accounts: an account is a line, its fields stand between
colons, the first is the name of the user and the sixth the home directory. -/
def homesIn (accounts : String) : List (String × String) :=
  (accounts.splitOn "\n").filterMap fun line =>
    match line.splitOn ":" with
    | user :: _ :: _ :: _ :: _ :: home :: _ => some (user, home)
    | _ => none

/-- The home directory that a first part `~` or `~NAME` stands for. -/
def homeOf? (env : Environment) (user : String) : Option String :=
  if user = "" then env.home? else env.homes.lookup user

/-- The written form of a home directory without slashes at its end. -/
def trimmed (home : String) : String :=
  let text := String.ofList (home.toList.reverse.dropWhile (· = '/')).reverse
  if text = "" then "/" else text

/-- A path with the **home directory** put in for its first part, if that begins with `~`. -/
def expand (env : Environment) (p : Path) : Except Fault Path :=
  match p.root, p.parts with
  | .here, part :: parts =>
    match part.toList with
    | '~' :: user =>
      if user.contains '\x00' then .error (.disk .embeddedNul)
      else
        match (env.homeOf? (String.ofList user)).map trimmed with
        | none => .error .homeUnknown
        | some home =>
          if home.startsWith "~" then .error .homeUnknown
          else
            let base := Path.ofString home
            .ok { base with parts := base.parts ++ parts }
    | _ => .ok p
  | _, _ => .ok p

end Environment

/-- The **settings of a run**. -/
structure Settings where
  target : Path
  backupDir : Path
  dryRun : Bool := false
  context : Int := Preview.defaultContext
  deriving DecidableEq, Repr

namespace Settings

/-- The settings that options ask for.  A context of **less than nothing** is none. -/
def ofOptions (env : Environment) (options : Options) : Except Fault Settings := do
  let named := options.target?.getD ""
  if named = "" then throw .targetUnnamed
  let target ← env.expand (Path.ofString named)
  let backupDir ←
    if options.backupDir = "" then pure (Backup.defaultDirectory target)
    else env.expand (Path.ofString options.backupDir)
  match options.context? with
  | none => throw .contextUnset
  | some context => return ⟨target, backupDir, options.dryRun, max 0 context⟩

end Settings

end BundlePatch
