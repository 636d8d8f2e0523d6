/-!
# Console — what a run says

A run speaks in `Notice`s: values that know their wording, their colour and the stream that they go
to.  Nothing is printed while a run goes on; its notices are printed afterwards, or compared.

`Spoken α` is a computation that may fail and says something on the way; **what was said is kept
either way**.
-/

namespace BundlePatch

/-! ## Colours -/

namespace Ink

/-- A control sequence that selects how the following text looks. -/
def sequence (code : Nat) : String := s!"\x1b[{code}m"

/-- Back to plain text. -/
def plain : String := sequence 0

def bright : String := sequence 1
def dim : String := sequence 2
def red : String := sequence 31
def green : String := sequence 32
def yellow : String := sequence 33
def blue : String := sequence 34
def cyan : String := sequence 36

/-- A text in bright letters. -/
def bold (s : String) : String := bright ++ s ++ plain

/-- A line across the console. -/
def rule : String := String.ofList (List.replicate 80 '━')

end Ink

/-! ## Notices -/

/-- Where a notice goes. -/
inductive Stream where
  | output
  | error
  deriving DecidableEq, Repr

/-- Something that a run says. -/
inductive Notice where
  /-- The title of a run. -/
  | banner (message : String)
  /-- The start of one of the steps. -/
  | step (index : Int) (message : String)
  /-- A success. -/
  | ok (message : String)
  /-- A remark. -/
  | info (message : String)
  /-- A warning. -/
  | warn (message : String)
  /-- A detail. -/
  | dim (message : String)
  /-- A failure. -/
  | fail (message : String)
  /-- A line as it is. -/
  | line (message : String)
  /-- A text as it is, for a given stream. -/
  | text (stream : Stream) (message : String)
  deriving DecidableEq, Repr

namespace Notice

/-- The number of steps of a run. -/
def steps : Nat := 5

/-- The **stream** of a notice: failures go to the error stream. -/
def stream : Notice → Stream
  | .fail _ => .error
  | .text stream _ => stream
  | _ => .output

/-- A mark in a colour and a message. -/
def marked (colour mark message : String) : String :=
  colour ++ mark ++ Ink.plain ++ " " ++ message ++ "\n"

/-- The **characters** of a notice, the end of the line included. -/
def render : Notice → String
  | .banner message => Ink.bright ++ Ink.blue ++ message ++ Ink.plain ++ "\n\n"
  | .step index message => marked Ink.cyan s!"[{index}/{steps}]" message
  | .ok message => marked Ink.green "✓" message
  | .info message => marked Ink.yellow "ℹ" message
  | .warn message => marked Ink.yellow "⚠" message
  | .dim message => Ink.dim ++ "  " ++ message ++ Ink.plain ++ "\n"
  | .fail message => marked Ink.red "✗" message
  | .line message => message ++ "\n"
  | .text _ message => message

/-- What a stream receives from a list of notices. -/
def transcript (stream : Stream) (notices : List Notice) : String :=
  String.join ((notices.filter fun n => n.stream == stream).map render)

end Notice

/-! ## Speaking computations -/

/-- A computation that **says something and may fail**. -/
structure Spoken (ε α : Type) where
  said : List Notice
  result : Except ε α

namespace Spoken

variable {ε α β : Type}

/-- A value, without a word. -/
def pure (a : α) : Spoken ε α := ⟨[], .ok a⟩

/-- One computation after another; after a failure nothing more is said. -/
def bind (x : Spoken ε α) (f : α → Spoken ε β) : Spoken ε β :=
  match x.result with
  | .ok a => ⟨x.said ++ (f a).said, (f a).result⟩
  | .error e => ⟨x.said, .error e⟩

instance : Monad (Spoken ε) where
  pure := Spoken.pure
  bind := Spoken.bind

/-- Says something. -/
def say (notices : List Notice) : Spoken ε Unit := ⟨notices, .ok ()⟩

/-- A computation that says nothing. -/
def silent (result : Except ε α) : Spoken ε α := ⟨[], result⟩

@[simp] theorem result_pure (a : α) : (Pure.pure a : Spoken ε α).result = .ok a := rfl

@[simp] theorem result_say (notices : List Notice) :
    (say notices : Spoken ε Unit).result = .ok () := rfl

@[simp] theorem result_silent (r : Except ε α) : (silent r).result = r := rfl

/-- **The words do not touch the result.** -/
@[simp] theorem result_bind (x : Spoken ε α) (f : α → Spoken ε β) :
    (x >>= f).result = x.result.bind fun a => (f a).result := by
  show (Spoken.bind x f).result = _
  unfold Spoken.bind
  cases x.result <;> rfl

end Spoken

end BundlePatch
