import CookieAuth.Json.Printer
import CookieAuth.Text.Quoted

/-!
# Mail templates

A template is a text with places for named values.  Every place needs a value, and what is put there
is escaped for markup.

## Main definitions

* `Piece`, `Template`: text and places for values;
* `valueText`, `escape`: the text of a value, and its escaped form;
* `Template.render`: the text with values put in;
* `oneLine`: a text without its line ends;
* `resetSubject`, `resetBody`: the templates of the service, found by `template?`.
-/

namespace CookieAuth.Mail

open Text

/-- A part of a template. -/
inductive Piece where
  | literal (text : String)
  | place (name : String)
  deriving DecidableEq, Repr

/-- A text with places for values. -/
structure Template where
  /-- The name of the template. -/
  name : String
  /-- Its parts in order. -/
  pieces : List Piece
  deriving DecidableEq, Repr

/-- Why a template cannot be rendered. -/
inductive TemplateError where
  /-- There is no template of this name. -/
  | unknown (name : String)
  /-- A place has no value. -/
  | missing (template : String) (line column : Nat) (place : String)
  /-- The values have positions instead of names. -/
  | unnamed (template : String) (line column : Nat) (place : String)
  deriving DecidableEq, Repr

/-- Where in a template an error happened. -/
def positionText (template : String) (line column : Nat) : String :=
  "Error rendering " ++ quote template ++ " line " ++ toString line ++ ", col " ++ toString column
    ++ ": "

/-- The text of an error. -/
def TemplateError.message : TemplateError → String
  | .unknown name => "Template not found " ++ name
  | .missing template line column place =>
    positionText template line column ++ "Failed to access variable in strict mode Some("
      ++ quote place ++ ")"
  | .unnamed template line column place =>
    positionText template line column ++ "Cannot access array/vector with string index, " ++ place

/-! ### Values -/

mutual

/-- The text of a value: nothing for null, the items of an array in brackets, and a fixed text for
an object. -/
def valueText : Json → String
  | .str s => s
  | .null => ""
  | .arr items => "[" ++ ", ".intercalate (valueTexts items) ++ "]"
  | .obj _ => "[object]"
  | .bool b => if b then "true" else "false"
  | .int n => (Json.int n).render
  | .float bits => (Json.float bits).render

/-- The texts of values. -/
def valueTexts : List Json → List String
  | [] => []
  | item :: rest => valueText item :: valueTexts rest

end

/-- The escaped form of a character. -/
def escapeChar (c : Char) : List Char :=
  if c = '<' then "&lt;".toList
  else if c = '>' then "&gt;".toList
  else if c = '"' then "&quot;".toList
  else if c = '&' then "&amp;".toList
  else if c.toNat = 0x27 then "&#x27;".toList
  else if c.toNat = 0x60 then "&#x60;".toList
  else if c = '=' then "&#x3D;".toList
  else [c]

/-- The escaped form of a text. -/
def escape (s : String) : String :=
  String.ofList (s.toList.flatMap escapeChar)

/-! ### Rendering -/

/-- A place in a template. -/
structure Position where
  /-- The line, from 1. -/
  line : Nat := 1
  /-- The column, from 1. -/
  column : Nat := 1
  deriving DecidableEq, Repr

/-- The position after a character. -/
def Position.next (p : Position) (c : Char) : Position :=
  if c = '\n' then ⟨p.line + 1, 1⟩ else ⟨p.line, p.column + 1⟩

/-- The position after a part; a place is written between pairs of braces. -/
def Position.after (p : Position) : Piece → Position
  | .literal text => text.toList.foldl Position.next p
  | .place name => ⟨p.line, p.column + name.length + 4⟩

/-- The value of a place. -/
def lookUp (template : String) (p : Position) (context : Json) (name : String) :
    Except TemplateError Json :=
  match context with
  | .arr _ => .error (.unnamed template p.line p.column name)
  | _ =>
    match context.get? name with
    | some value => .ok value
    | none => .error (.missing template p.line p.column name)

/-- Render the parts from a position on. -/
def renderFrom (template : String) (context : Json) : Position → List Piece →
    Except TemplateError String
  | _, [] => .ok ""
  | p, piece :: rest =>
    match piece with
    | .literal text => (renderFrom template context (p.after piece) rest).map (text ++ ·)
    | .place name =>
      match lookUp template p context name with
      | .error e => .error e
      | .ok value =>
        (renderFrom template context (p.after piece) rest).map (escape (valueText value) ++ ·)

/-- The text of a template with the values of a context. -/
def Template.render (t : Template) (context : Json) : Except TemplateError String :=
  renderFrom t.name context {} t.pieces

/-- A list of characters without its line ends: a line feed, and a carriage return that stands right
before one. -/
def dropLineEnds : List Char → List Char
  | '\r' :: '\n' :: rest => dropLineEnds rest
  | '\n' :: rest => dropLineEnds rest
  | c :: rest => c :: dropLineEnds rest
  | [] => []

/-- A text without its line ends. -/
def oneLine (s : String) : String :=
  String.ofList (dropLineEnds s.toList)

/-! ### Templates of the service -/

/-- The subject of a mail about a forgotten password. -/
def resetSubject : Template where
  name := "password_reset_subject.txt"
  pieces := [.literal "Password reset on ", .place "site_name", .literal "\n"]

/-- The text of a mail about a forgotten password. -/
def resetBody : Template where
  name := "password_reset_email.html"
  pieces := [
    .literal ("You're receiving this email because you requested a password reset for your user "
      ++ "account at "), .place "site_name", .literal
    ".\n\nPlease go to the following page and choose a new password:\n\n",
    .place "protocol", .literal "://", .place "domain", .literal "/reset/", .place "uid",
    .literal "/", .place "token", .literal
    "/\n\nYour username, in case you've forgotten: ", .place "username", .literal
    "\n\nThanks for using our site!\n\nThe ", .place "site_name", .literal " team\n"]

/-- All templates of the service. -/
def templates : List Template := [resetSubject, resetBody]

/-- The template of a name. -/
def template? (name : String) : Option Template :=
  templates.find? (·.name = name)

/-- The text of the template of a name. -/
def render (name : String) (context : Json) : Except TemplateError String :=
  match template? name with
  | some t => t.render context
  | none => .error (.unknown name)

/-- The text of the template of a name, in one line. -/
def renderLine (name : String) (context : Json) : Except TemplateError String :=
  (render name context).map oneLine

end CookieAuth.Mail
