import Scaffold.Text

/-!
# The visible part of a text

Texts are shown without what would steer a terminal: control characters other than blank ones, and the
commands that follow an escape. A command ends with a letter, a title with a bell, and a command that
takes a text with the byte 9C, be it in the middle of a character; a cancel and the next escape end all
of them. A blank control character inside the numbers of a command is shown all the same. It ends the
command if the text is shown as a whole. A stream shows what follows it but resumes the command at the
next control character, unless it has come upon a character beyond ASCII by then.
-/

namespace Scaffold.Text

/-- The place in a command that an escape started. -/
inductive Steering where
  /-- Right behind the escape. -/
  | escape
  /-- Behind a mark that follows the escape. -/
  | marks
  /-- In the numbers and marks that an opening bracket starts. -/
  | sequence
  /-- In a title, which a closing bracket starts. -/
  | title
  /-- Right behind the letter of a command for the device. -/
  | device
  /-- In the numbers of a command for the device. -/
  | deviceNumbers
  /-- In the marks behind them. -/
  | deviceMarks
  /-- In the text that a command takes. -/
  | payload

/-- What the next character is read as. -/
inductive Reading where
  | shown
  | within (place : Steering)
  /-- Shown, though a command is to be resumed. -/
  | paused (place : Steering)

/-- Control characters that are blank: tab, line feed, form feed and carriage return. -/
def isBlankControl (c : Char) : Bool := c == '\t' || c == '\n' || c == '\x0c' || c == '\r'

/-- Control characters of ASCII. -/
def isControl (c : Char) : Bool := c < ' ' || c == '\x7f'

/-- Whether a character outside of commands is shown. -/
def isVisible (c : Char) : Bool := isBlankControl c || !isControl c

/-- Membership in a range of characters. -/
def isBetween (first last c : Char) : Bool := first ≤ c && c ≤ last

/-- Whether a byte of a character ends the text of a command. -/
def hasTerminator (c : Char) : Bool := (String.utf8EncodeChar c).contains 0x9C

/-- How the character behind one inside a command is read. -/
def Steering.after (c : Char) : Steering → Reading
  | .escape =>
    if c = '[' then .within .sequence
    else if c = ']' then .within .title
    else if c = 'P' then .within .device
    else if c = 'X' || c = '^' || c = '_' then .within .payload
    else if isBetween ' ' '/' c then .within .marks
    else if isBetween '0' '~' c then .shown
    else .within .escape
  | .marks => if isBetween '0' '~' c then .shown else .within .marks
  | .sequence => if isBetween '@' '~' c then .shown else .within .sequence
  | .title => if c = '\x07' then .shown else .within .title
  | .device =>
    if isBetween ' ' '/' c then .within .deviceMarks
    else if isBetween '0' '?' c then .within .deviceNumbers
    else if isBetween '@' '~' c then .within .payload
    else .within .device
  | .deviceNumbers =>
    if isBetween ' ' '/' c then .within .deviceMarks
    else if isBetween '<' '~' c then .within .payload
    else .within .deviceNumbers
  | .deviceMarks => if isBetween '0' '~' c then .within .payload else .within .deviceMarks
  | .payload => if hasTerminator c then .shown else .within .payload

/-- Whether blank control characters are shown at a place in a command. -/
def Steering.showsBlanks : Steering → Bool
  | .escape | .marks | .sequence => true
  | .title | .device | .deviceNumbers | .deviceMarks | .payload => false

/-- Whether a character is shown, and how the next one is read. -/
def Reading.take (resumes : Bool) (c : Char) (reading : Reading) : Bool × Reading :=
  if c = '\x1b' then (false, .within .escape)
  else if c = '\x18' || c = '\x1a' then (false, .shown)
  else
    match reading with
    | .shown => (isVisible c, .shown)
    | .within place =>
      if isBlankControl c && place.showsBlanks then (true, if resumes then .paused place else .shown)
      else (false, place.after c)
    | .paused place =>
      if !isVisible c then (false, place.after c)
      else (true, if c ≤ '\x7f' then .paused place else .shown)

/-- The visible part of a text whose first character is read in the given way. -/
def visibleFrom (resumes : Bool) : Reading → Text → Text
  | _, [] => []
  | reading, c :: cs =>
    let (isShown, next) := reading.take resumes c
    if isShown then c :: visibleFrom resumes next cs else visibleFrom resumes next cs

/-- The visible part of a text that is shown as a whole. -/
def visible (text : Text) : Text := visibleFrom false .shown text

/-- The visible part of a text that goes through a stream. -/
def streamed (text : Text) : Text := visibleFrom true .shown text

end Scaffold.Text
