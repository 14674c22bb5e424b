import FormLetter.CommandLine.Help
import FormLetter.Json.Reader
import FormLetter.Letter.Deliver

/-!
# Running the program

The program reads its arguments and its data, makes a document from a letter, and reports what
happened. It ends with a number: 0 when the document was made, 1 when it could not be made, and 2
when the arguments or the data cannot be used. A fault that it is not made to report ends it
without a number.
-/

namespace FormLetter.CommandLine

open FormLetter.Script

/-- How the program ended. -/
structure Ended where
  exit : Nat
  /-- What the log shows. -/
  log : List Log.Line
  /-- What is printed. -/
  output : String
  /-- What is said about the arguments, if they were not used. -/
  usage : Option String
  /-- The fault for which the document was not made. -/
  fault : Option Fault

/-- What came of a run: how it ended, or the fault that broke it off, and the files after it. -/
structure Run where
  ended : Except Fault Ended
  files : Files

/-! ## Data -/

/-- Why data cannot be read. -/
inductive DataProblem where
  | file (fault : Fault)
  | json (error : Json.Error)
  /-- A fault that the program is not made to report. -/
  | unexpected (fault : Fault)

/-- A text in which every line ends in one way. -/
def plainLines : List Char → List Char
  | '\r' :: '\n' :: rest => '\n' :: plainLines rest
  | '\r' :: rest => '\n' :: plainLines rest
  | c :: rest => c :: plainLines rest
  | [] => []

/-- Reads the data in a file. -/
def readData (files : Files) (path : Path) : Except DataProblem Json :=
  match files.read path with
  | .error fault => .error (.file fault)
  | .ok (.bytes content) =>
    match String.fromUTF8? content with
    | none => .error (.unexpected .notText)
    | some text =>
      match Json.read (String.ofList (plainLines text.toList)) with
      | .ok data => .ok data
      | .error ⟨.nesting, _, _, _⟩ => .error (.unexpected (.trouble .recursion))
      | .error ⟨.digits count, _, _, _⟩ =>
        .error (.unexpected (.trouble (.value (.longNumeral count))))
      | .error error => .error (.json error)
  | .ok _ => .error (.unexpected .notText)

/-! ## Making the document -/

/-- True for the faults that the program reports. -/
def isReported : Fault → Bool
  | .mistake _ | .trouble _ | .notText | .missingEntry _ => false
  | _ => true

/-- The options as template code finds them. -/
def Arguments.options (arguments : Arguments) : List (String × Json) :=
  let text (value : Option String) : Json := match value with
    | some value => .text value
    | none => .null
  [("template_file", text arguments.template), ("output_file", text arguments.output),
    ("data", text arguments.data), ("lenient", .bool arguments.isLenient),
    ("debug", .bool arguments.isDebug)]

/-- The line about the undefined names that were used, if there are any. A label that is no text
cannot be listed. -/
def undefinedLine (recorded : List Label) : Except Fault (List Log.Line) :=
  let names := recorded.filterMap fun label => match label with
    | .text name => some name
    | _ => none
  if names.length < recorded.length then .error (.trouble (.kind (.joinedItem 0 "int")))
  else if names.isEmpty then .ok []
  else
    let list := ", ".intercalate (names.mergeSort (· ≤ ·))
    .ok [⟨.warning, .program, "Undefined names rendered empty: " ++ list⟩]

/-- The lines of a log that are shown. -/
def shown (isDebug : Bool) (log : List Log.Line) : List Log.Line :=
  log.filter fun line => isDebug || line.level.isInfo

/-- The end of a run that made no document, after some lines of the log. -/
def failed (exit : Nat) (log : List Log.Line) (message : String) (fault : Option Fault) : Ended :=
  ⟨exit, log ++ [⟨.error, .program, message⟩], "", none, fault⟩

/-- Makes the document with some data. -/
def deliver (files : Files) (arguments : Arguments) (data : Json) : Run :=
  let prepared : Log.Line :=
    ⟨.debug, .engine, "Prepared Jinja environment (debug="
      ++ (if arguments.isLenient then "True" else "False") ++ ")"⟩
  let done := Work.run arguments.isLenient [] ⟨files, #[]⟩
    (Work.deliver ⟨.arguments, arguments.options, data⟩ none)
  let log := shown arguments.isDebug (prepared :: done.log)
  let ended : Except Fault Ended :=
    match done.result with
    | .error fault =>
      if isReported fault then .ok (failed 1 log fault.message (some fault)) else .error fault
    | .ok path => do
      let warning ← undefinedLine done.recorded
      let wrote : Log.Line := ⟨.info, .program, "Wrote " ++ path.toString⟩
      return ⟨0, log ++ warning ++ [wrote], "", none, none⟩
  ⟨ended, done.workspace.files⟩

/-- Reads the data and makes the document. -/
def runArguments (files : Files) (arguments : Arguments) : Run :=
  let name := arguments.data.getD ""
  let refused (reason : String) : Run :=
    ⟨.ok (failed 2 [] ("Could not load data from " ++ name ++ ": " ++ reason) none), files⟩
  if name.isEmpty then deliver files arguments .null
  else
    match readData files (.ofString name) with
    | .ok data => deliver files arguments data
    | .error (.file fault) => refused fault.message
    | .error (.json error) => refused error.message
    | .error (.unexpected fault) => ⟨.error fault, files⟩

/-- Runs the program. -/
def run (files : Files) (arguments : List String) : Run :=
  match Arguments.read arguments with
  | .ok arguments => runArguments files arguments
  | .error .help => ⟨.ok ⟨0, [], help, some "", none⟩, files⟩
  | .error (.complaint complaint) => ⟨.ok ⟨2, [], "", some complaint.report, none⟩, files⟩

end FormLetter.CommandLine
