import BundlePatch.Console
import BundlePatch.Text.Decimal
import BundlePatch.Text.Quoted

/-!
# CommandLine — options and arguments

The arguments are first sorted one by one into `Word`s: flags, with a value attached or not, plain
arguments, and what looks like a flag and is none.  After `--` everything is a plain argument.  Then
the words are taken from left to right: a flag that wants a value takes the one attached to it or
the argument behind it, the first argument that no flag takes is the target, and **what nobody takes
is refused at the end**.

A long flag may be cut short as long as only one flag begins like that.
-/

namespace BundlePatch

/-! ## Flags -/

/-- A flag. -/
inductive Flag where
  | help
  | backupDir
  | dryRun
  | context
  deriving DecidableEq, Repr

namespace Flag

/-- All **spellings** of flags, in the order in which they are listed. -/
def spellings : List (String × Flag) :=
  [("-h", .help), ("--help", .help), ("--backup-dir", .backupDir), ("--dry-run", .dryRun),
    ("--context", .context)]

/-- The flag with a spelling. -/
def ofSpelling? (s : String) : Option Flag := spellings.lookup s

/-- A flag as messages name it: all its spellings. -/
def title (f : Flag) : String :=
  "/".intercalate ((spellings.filter fun entry => entry.2 == f).map (·.1))

end Flag

/-! ## Misuses -/

/-- Why a command line is not understood. -/
inductive Misuse where
  /-- A flag is cut so short that it could be several. -/
  | ambiguous (argument : String) (spellings : List String)
  /-- A flag that wants a value has none. -/
  | valueMissing (flag : Flag)
  /-- A flag that wants no value has one. -/
  | valueUnwanted (flag : Flag) (value : String)
  /-- A value is not a whole number. -/
  | notInteger (flag : Flag) (value : String)
  /-- Nobody takes these arguments. -/
  | leftover (arguments : List String)
  deriving DecidableEq, Repr

/-- The **wording** of a misuse. -/
def Misuse.message : Misuse → String
  | .ambiguous argument spellings =>
    s!"ambiguous option: {argument} could match " ++ ", ".intercalate spellings
  | .valueMissing flag => s!"argument {flag.title}: expected one argument"
  | .valueUnwanted flag value =>
    s!"argument {flag.title}: ignored explicit argument {quoted value}"
  | .notInteger flag value => s!"argument {flag.title}: invalid int value: {quoted value}"
  | .leftover arguments => "unrecognized arguments: " ++ " ".intercalate arguments

/-! ## Words -/

/-- An argument, sorted. -/
inductive Word where
  /-- A plain argument. -/
  | argument (s : String)
  /-- The mark after which there are only plain arguments. -/
  | separator
  /-- A flag in one of its spellings, and the value attached to it. -/
  | flag (flag : Flag) (spelling : String) (attached? : Option String)
  /-- What looks like a flag and is none. -/
  | unknown (s : String)
  deriving DecidableEq, Repr

namespace Word

/-- The mark after which there are only plain arguments. -/
def mark : String := "--"

/-- The text before the first `=`, and the text after it if there is one. -/
def cutAtEquals (s : String) : String × Option String :=
  let cs := s.toList
  match cs.dropWhile (· ≠ '=') with
  | [] => (s, none)
  | _ :: value => (String.ofList (cs.takeWhile (· ≠ '=')), some (String.ofList value))

/-- The flags that an argument can stand for **without being one of their spellings**: a long flag
cut short, or a short one with its value right behind it. -/
def candidates (s : String) : List (String × Flag × Option String) :=
  match s.toList with
  | '-' :: '-' :: _ =>
    let (start, value?) := cutAtEquals s
    Flag.spellings.filterMap fun (spelling, f) =>
      if start.toList.isPrefixOf spelling.toList then some (spelling, f, value?) else none
  | '-' :: c :: value =>
    Flag.spellings.filterMap fun (spelling, f) =>
      if spelling.toList = ['-', c] then some (spelling, f, some (String.ofList value))
      else none
  | _ => []

/-- Sorts one argument that is not the mark. -/
def ofArgument (s : String) : Except Misuse Word :=
  match s.toList with
  | '-' :: (_ :: _) =>
    match Flag.ofSpelling? s, cutAtEquals s with
    | some f, _ => .ok (.flag f s none)
    | none, (start, value?) =>
      match value?, Flag.ofSpelling? start with
      | some value, some f => .ok (.flag f start (some value))
      | _, _ =>
        match candidates s with
        | [(spelling, f, value?)] => .ok (.flag f spelling value?)
        | [] =>
          if Decimal.isNegativeNumber s.toList || s.toList.contains ' ' then .ok (.argument s)
          else .ok (.unknown s)
        | several => .error (.ambiguous s (several.map (·.1)))
  | _ => .ok (.argument s)

/-- **Sorts all arguments.** -/
def ofArguments : List String → Except Misuse (List Word)
  | [] => .ok []
  | s :: rest =>
    if s = mark then .ok (.separator :: rest.map .argument)
    else do
      let word ← ofArgument s
      let words ← ofArguments rest
      return word :: words

end Word

/-! ## Options -/

/-- What a command line asks for.  A directory is absent when it is empty; the width of the context
is absent only if its flag was given the mark as its value, which stands for none. -/
structure Options where
  target? : Option String := none
  backupDir : String := ""
  dryRun : Bool := false
  context? : Option Int := some 80
  deriving DecidableEq, Repr

namespace Options

/-- The options read so far, and the arguments that nobody took. -/
structure Reading where
  options : Options
  targetTaken : Bool := false
  leftover : List String := []

namespace Reading

/-- Takes an argument as the target. -/
def takeTarget (r : Reading) (s : String) : Reading :=
  { r with options := { r.options with target? := some s }, targetTaken := true }

/-- Leaves an argument to nobody. -/
def leave (r : Reading) (s : String) : Reading := { r with leftover := r.leftover ++ [s] }

/-- Takes the value of a flag. -/
def takeValue (r : Reading) (flag : Flag) (value : String) : Except Misuse Reading :=
  match flag with
  | .backupDir =>
    let dir := if value = Word.mark then "" else value
    .ok { r with options := { r.options with backupDir := dir } }
  | .context =>
    if value = Word.mark then .ok { r with options := { r.options with context? := none } }
    else
      match Decimal.integer? value.toList with
      | some n => .ok { r with options := { r.options with context? := some n } }
      | none => .error (.notInteger .context value)
  | .help | .dryRun => .error (.valueUnwanted flag value)

end Reading

/-- What short flags written together ask for: **help over and over** is help. -/
def helpChain (value : Text) : Except Misuse Unit :=
  match value with
  | ['h'] => .ok ()
  | 'h' :: rest => helpChain rest
  | rest => .error (.valueUnwanted .help (String.ofList rest))

/-- Takes the words from left to right.  There is no answer if help is asked for on the way. -/
def take (r : Reading) : List Word → Except Misuse (Option Options)
  | [] => if r.leftover = [] then .ok (some r.options) else .error (.leftover r.leftover)
  | .unknown s :: words => take (r.leave s) words
  | .argument s :: words =>
    if r.targetTaken then take (r.leave s) words
    else
      match words with
      | .separator :: words => take (r.takeTarget s) words
      | words => take (r.takeTarget s) words
  | .separator :: words =>
    if r.targetTaken then take (r.leave Word.mark) words
    else
      match words with
      | .argument s :: words => take (r.takeTarget s) words
      | words => take r words
  | .flag .help spelling attached? :: _ =>
    match attached? with
    | none => .ok none
    | some value =>
      if spelling = "-h" then (helpChain value.toList).map fun _ => none
      else .error (.valueUnwanted .help value)
  | .flag .dryRun _ attached? :: words =>
    match attached? with
    | none => take { r with options := { r.options with dryRun := true } } words
    | some value => .error (.valueUnwanted .dryRun value)
  | .flag f _ (some value) :: words =>
    match r.takeValue f value with
    | .ok r => take r words
    | .error why => .error why
  | .flag f _ none :: words =>
    match words with
    | .argument value :: words =>
      match r.takeValue f value with
      | .ok r => take r words
      | .error why => .error why
    | _ => .error (.valueMissing f)

/-- What a command line comes to. -/
inductive Request where
  /-- A run with these options. -/
  | run (options : Options)
  /-- The help text. -/
  | help
  /-- Nothing, since it is not understood. -/
  | misuse (why : Misuse)

/-- **Reads a command line**, with the directory of backups that holds if none is given. -/
def parse (backupDir : String) (arguments : List String) : Request :=
  let read := do
    let words ← Word.ofArguments arguments
    take { options := { backupDir := backupDir } } words
  match read with
  | .error why => .misuse why
  | .ok none => .help
  | .ok (some options) => .run options

end Options

/-! ## Texts -/

namespace Usage

/-- The name of the program. -/
def program : String := "apply-lsp-fix"

/-- How the program is called. -/
def usage : String :=
  "usage: apply-lsp-fix [-h] [--backup-dir BACKUP_DIR] [--dry-run]\n" ++
  "                     [--context CONTEXT]\n" ++
  "                     [target]\n"

/-- What the program does and what its options mean. -/
def help : String :=
  usage ++ "\n" ++
  "Rewrite the LSP file URI construction in a minified CLI bundle\n\n" ++
  "positional arguments:\n" ++
  "  target                Path to the bundled cli.js\n\n" ++
  "options:\n" ++
  "  -h, --help            show this help message and exit\n" ++
  "  --backup-dir BACKUP_DIR\n" ++
  "                        Where backups are written (default: <target\n" ++
  "                        dir>/backups)\n" ++
  "  --dry-run             Show what would change without writing\n" ++
  "  --context CONTEXT     Characters of context shown around each change\n"

/-- A call of the program. -/
def sample : String := "apply-lsp-fix /path/to/node_modules/<cli-package>/cli.js"

/-- What is said of a command line that is not understood. -/
def complaint (why : Misuse) : List Notice :=
  [.text .error usage, .text .error s!"{program}: error: {why.message}\n"]

end Usage

end BundlePatch
