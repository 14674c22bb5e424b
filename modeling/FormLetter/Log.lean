/-!
# Log lines

What the program reports while it works. A line has a level, the part of the program that speaks,
and a message.
-/

namespace FormLetter

namespace Log

/-- How important a line is. -/
inductive Level where
  | debug
  | info
  | warning
  | error
  deriving DecidableEq, Repr

/-- The written name of a level. -/
def Level.label : Level → String
  | .debug => "DEBUG"
  | .info => "INFO"
  | .warning => "WARNING"
  | .error => "ERROR"

/-- True for the levels from `info` upwards. -/
def Level.isInfo : Level → Bool
  | .debug => false
  | _ => true

/-- The parts of the program that write log lines. -/
inductive Source where
  | program
  | engine
  | package
  | compiler
  | styles
  | part
  | context
  | document
  deriving DecidableEq, Repr

/-- The name under which a part of the program writes. -/
def Source.label : Source → String
  | .program => "documatic"
  | .engine => "documatic.jinja_env"
  | .package => "documatic.package"
  | .compiler => "documatic.opendocument.compiler"
  | .styles => "documatic.opendocument.styles"
  | .part => "documatic.opendocument.component"
  | .context => "documatic.opendocument.context"
  | .document => "documatic.opendocument.template"

/-- One line of the log. -/
structure Line where
  level : Level
  source : Source
  message : String
  deriving DecidableEq, Repr

/-- The written form of a line. -/
def Line.render (line : Line) : String :=
  line.level.label ++ " " ++ line.source.label ++ ": " ++ line.message

end Log

end FormLetter
