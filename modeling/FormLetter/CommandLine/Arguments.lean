import FormLetter.Text.Digit
import FormLetter.Text.Quoted
import FormLetter.Text.Search

/-!
# Arguments

The arguments of the command line: the file of a letter, that of the document, and flags in any
place. A flag may be cut short as long as only one begins that way, and its value may follow an
equals sign. After two dashes nothing is a flag.
-/

namespace FormLetter.CommandLine

open FormLetter.Text

/-- The flags, in the order in which they are listed. -/
inductive Flag where
  | help
  | data
  | lenient
  | debug
  deriving DecidableEq, Repr

namespace Flag

/-- All flags. -/
def all : List Flag := [help, data, lenient, debug]

/-- The full spelling of a flag. -/
def spelling : Flag → String
  | help => "--help"
  | data => "--data"
  | lenient => "--lenient"
  | debug => "--debug"

/-- The name of a flag in a complaint: all its spellings. -/
def label : Flag → String
  | help => "-h/--help"
  | other => other.spelling

end Flag

/-- What is wrong with arguments. -/
inductive Complaint where
  | ambiguous (written : String) (candidates : List Flag)
  /-- A value was given to a flag that takes none. -/
  | surplusValue (flag : Flag) (value : String)
  /-- A flag lacks its value. -/
  | noValue (flag : Flag)
  | missing (names : List String)
  | unrecognized (arguments : List String)
  deriving DecidableEq, Repr

/-- The wording of a complaint. -/
def Complaint.wording : Complaint → String
  | ambiguous written candidates =>
    "ambiguous option: " ++ written ++ " could match "
      ++ ", ".intercalate (candidates.map Flag.spelling)
  | surplusValue flag value =>
    "argument " ++ flag.label ++ ": ignored explicit argument " ++ Quoted.quote value
  | noValue flag => "argument " ++ flag.label ++ ": expected one argument"
  | missing names => "the following arguments are required: " ++ ", ".intercalate names
  | unrecognized arguments => "unrecognized arguments: " ++ " ".intercalate arguments

/-! ## Words -/

/-- What an argument is by its spelling. -/
inductive Word where
  /-- Two dashes, after which nothing is a flag. -/
  | separator
  | plain (text : String)
  /-- A flag, and the value after its equals sign. -/
  | flag (flag : Flag) (value : Option String)
  /-- The short spelling of the flag for help, and what is written behind it. -/
  | short (rest : List Char)
  | unknown (text : String)
  deriving DecidableEq, Repr

/-- A text up to its first equals sign, and the text behind that. -/
def splitValue (text : List Char) : List Char × Option String :=
  match text.span (· != '=') with
  | (before, _ :: after) => (before, some (String.ofList after))
  | (before, []) => (before, none)

/-- True for a negative number, which is no flag. It may end a line. -/
def isNegativeNumber (text : List Char) : Bool :=
  match text with
  | '-' :: rest =>
    let rest := if rest.getLast? == some '\n' then rest.dropLast else rest
    match rest.dropWhile isDecimalDigit with
    | [] => !rest.isEmpty
    | '.' :: fraction => !fraction.isEmpty && fraction.all isDecimalDigit
    | _ => false
  | _ => false

/-- A word that begins with a dash and is no flag. A number or a text with a blank is plain. -/
def otherWord (text : String) : Word :=
  if isNegativeNumber text.toList || text.toList.contains ' ' then .plain text else .unknown text

/-- The word that is written in an argument. -/
def Word.ofArgument (text : String) : Except Complaint Word :=
  match text.toList with
  | ['-', '-'] => .ok .separator
  | '-' :: '-' :: _ =>
    let (start, value) := splitValue text.toList
    match Flag.all.find? (·.spelling.toList == start) with
    | some found => .ok (.flag found value)
    | none =>
      match Flag.all.filter (start.isPrefixOf ·.spelling.toList) with
      | [] => .ok (otherWord text)
      | [found] => .ok (.flag found value)
      | several => .error (.ambiguous text several)
  | '-' :: 'h' :: rest => .ok (.short rest)
  | '-' :: _ :: _ => .ok (otherWord text)
  | _ => .ok (.plain text)

/-- The words that are written in arguments. -/
def words : List String → Except Complaint (List Word)
  | [] => .ok []
  | "--" :: rest => .ok (.separator :: rest.map .plain)
  | first :: rest => do return (← Word.ofArgument first) :: (← words rest)

/-! ## Reading words -/

/-- Why arguments are not used: help was asked for, or something is wrong with them. -/
inductive Ending where
  | help
  | complaint (complaint : Complaint)
  deriving DecidableEq, Repr

/-- What was read of the arguments. -/
structure Progress where
  /-- The files, in order. One that is written as two dashes only may count as none. -/
  files : List (Option String)
  data : Option String
  isLenient : Bool
  isDebug : Bool
  /-- The arguments that nothing takes. -/
  surplus : List String
  /-- True when the word before was taken as a file. -/
  isAfterFile : Bool
  /-- True when the word before separated. -/
  isAfterSeparator : Bool
  deriving DecidableEq, Repr

/-- What is read when there is nothing to read yet. -/
def Progress.start : Progress := ⟨[], none, false, false, [], false, false⟩

/-- What the arguments say. -/
structure Arguments where
  template : Option String
  output : Option String
  data : Option String
  isLenient : Bool
  isDebug : Bool
  deriving DecidableEq, Repr

/-- The names of the files that must be given. -/
def fileNames : List String := ["template_file", "output_file"]

/-- What follows the short spelling of the flag for help: the same flag again, other letters that
say nothing, or a value, which the flag does not take. -/
def helpEnding : List Char → Ending
  | '=' :: value => .complaint (.surplusValue .help (String.ofList value))
  | '-' :: rest => .complaint (.surplusValue .help (String.ofList ('-' :: rest)))
  | 'h' :: rest => helpEnding rest
  | _ => .help

/-- Takes a plain word as a file, unless all files are given. -/
def Progress.takePlain (progress : Progress) (text : String) : Progress :=
  if progress.files.length < fileNames.length then
    let file := if text == "--" && !progress.isAfterSeparator then none else some text
    { progress with
      files := progress.files ++ [file], isAfterFile := true, isAfterSeparator := false }
  else { progress with surplus := progress.surplus ++ [text], isAfterFile := false }

/-- Takes a separator. One that no file stands beside is not needed. -/
def Progress.takeSeparator (progress : Progress) : Progress :=
  if progress.isAfterFile then { progress with isAfterFile := false }
  else if progress.files.length < fileNames.length then { progress with isAfterSeparator := true }
  else { progress with surplus := progress.surplus ++ ["--"] }

/-- Takes a flag that stands alone. -/
def Progress.takeFlag (progress : Progress) (flag : Flag) : Progress :=
  let progress := { progress with isAfterFile := false }
  match flag with
  | .lenient => { progress with isLenient := true }
  | .debug => { progress with isDebug := true }
  | _ => progress

/-- Reads words. -/
def Progress.read (progress : Progress) : List Word → Except Ending Progress
  | [] => .ok progress
  | .separator :: rest => progress.takeSeparator.read rest
  | .plain text :: rest => (progress.takePlain text).read rest
  | .unknown text :: rest =>
    Progress.read
      { progress with surplus := progress.surplus ++ [text], isAfterFile := false } rest
  | .short after :: _ => .error (helpEnding after)
  | .flag .data (some value) :: rest =>
    Progress.read { progress with data := some value, isAfterFile := false } rest
  | .flag .data none :: .plain value :: rest =>
    Progress.read { progress with data := some value, isAfterFile := false } rest
  | .flag .data none :: _ => .error (.complaint (.noValue .data))
  | .flag flag (some value) :: _ => .error (.complaint (.surplusValue flag value))
  | .flag .help none :: _ => .error .help
  | .flag flag none :: rest => (progress.takeFlag flag).read rest

/-- What the words said, if nothing is missing and nothing is too much. -/
def Progress.finish (progress : Progress) : Except Ending Arguments :=
  match progress.files, progress.surplus with
  | [template, output], [] =>
    .ok ⟨template, output, progress.data, progress.isLenient, progress.isDebug⟩
  | [_, _], surplus => .error (.complaint (.unrecognized surplus))
  | given, _ => .error (.complaint (.missing (fileNames.drop given.length)))

/-- Reads arguments. -/
def Arguments.read (arguments : List String) : Except Ending Arguments :=
  match words arguments with
  | .error complaint => .error (.complaint complaint)
  | .ok words => do (← Progress.start.read words).finish

end FormLetter.CommandLine
