import Scaffold.Shape
import Scaffold.Text.Visible
import Scaffold.Value

/-!
# Events of a run

What a run does is told as it does it. A verbose run writes each event as a line of its log, with the
part of the program it comes from.
-/

namespace Scaffold

/-- A step of a run that is worth telling. -/
inductive Event where
  | licensing (year : Int)
  | resolvedRoot (root : Text)
  | planningClass (name : ClassName) (shape : Shape)
  | planningTest (name : ClassName)
  /-- The renderer is asked for a template in a context. -/
  | rendering (template : Text) (context : Value)
  | createdDirectory (path : Text)
  | foundDirectory (path : Text)
  | wrote (path : Text)

namespace Event

/-- Writing a file is of interest to users, all else to developers; levels are padded to one width. -/
def level : Event → Text
  | .wrote _ => "INFO "
  | _ => "DEBUG"

/-- The part of the program an event comes from. -/
def origin : Event → Text
  | .licensing _ => "synqgen::license"
  | .planningClass _ _ | .planningTest _ => "synqgen::generator"
  | .rendering _ _ => "synqgen::catalog"
  | .resolvedRoot _ | .createdDirectory _ | .foundDirectory _ | .wrote _ => "synqgen::emitter"

/-- An event in words. -/
def text : Event → Text
  | .licensing year => "Using copyright year " ++ Text.ofInt year
  | .resolvedRoot root => "Resolved repository root " ++ root
  | .planningClass name shape => "Generating '" ++ name.pascal ++ "' as " ++ shape.text
  | .planningTest name => "Generating test scaffold for '" ++ name.pascal ++ "'"
  | .rendering template _ => "Rendering " ++ template
  | .createdDirectory path => "Created directory " ++ path
  | .foundDirectory path => "Directory " ++ path ++ " already exists"
  | .wrote path => "Wrote " ++ path

/-- The line of an event in the log. Further lines of its text are set in by four blanks. A command that
the text leaves open takes in the end of the line. -/
def line (event : Event) : Text :=
  Text.streamed ("[" ++ event.level ++ " " ++ event.origin ++ "] "
    ++ event.text.flatMap (fun c => if c = '\n' then "\n    " else [c]) ++ "\n")

end Event

end Scaffold
