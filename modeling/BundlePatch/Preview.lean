import BundlePatch.Console
import BundlePatch.Edit

/-!
# Preview — showing a replacement before it is made

A preview shows the text around a range twice, once with what stands there and once with what will,
each time between the same **characters of context**.  The context is cut off at the ends of the
text.
-/

namespace BundlePatch

/-- A replacement in its surroundings. -/
structure Preview where
  title : String
  before : Text
  old : Text
  new : Text
  after : Text
  deriving DecidableEq, Repr

namespace Preview

/-- The usual number of characters of context on either side. -/
def defaultContext : Int := 80

/-- The preview of putting `new` in place of a range of `content`. -/
def ofRange (title : String) (content : Text) (start stop : Int) (new : Text) (context : Int) :
    Preview where
  title := title
  before := content.slice (max 0 (start - context)) start
  old := content.slice start stop
  new := new
  after := content.slice stop (min content.length (stop + context))

/-- A line that shows a text in its surroundings, in a colour. -/
def shown (p : Preview) (colour label : String) (text : Text) : String :=
  colour ++ label ++ Ink.plain ++ " " ++ String.ofList p.before ++ colour ++ String.ofList text ++
    Ink.plain ++ String.ofList p.after

/-- The **four lines** of a preview: a title, the old text, the new text, and a rule. -/
def lines (p : Preview) : List String :=
  [ "\n" ++ Ink.dim ++ "━━━ " ++ p.title ++ " ━━━" ++ Ink.plain,
    p.shown Ink.red "[-] OLD:" p.old,
    p.shown Ink.green "[+] NEW:" p.new,
    Ink.dim ++ Ink.rule ++ Ink.plain ++ "\n" ]

/-- The notices that print a preview. -/
def notices (p : Preview) : List Notice := p.lines.map .line

end Preview

/-- The title of the preview of an edit. -/
def Edit.title (e : Edit) : String :=
  s!"Fix URI construction (file variable: {String.ofList e.file})"

/-- The preview of an edit of a source. -/
def Edit.preview (source : Text) (context : Int) (e : Edit) : Preview :=
  .ofRange e.title source e.start e.stop e.new context

end BundlePatch
