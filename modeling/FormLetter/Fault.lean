import FormLetter.Script.Parser
import FormLetter.Script.Trouble

/-!
# Faults

Everything that can keep a document from being made, and the message for each. A part that could
not be rendered keeps the fault that it failed with, so the first cause is never lost.
-/

namespace FormLetter

open FormLetter.Text

/-- What can be wrong with a file. -/
inductive FileProblem where
  | missing
  | present
  | notDirectory
  | isDirectory
  deriving DecidableEq, Repr, Inhabited

namespace FileProblem

/-- The number of a problem with a file. -/
def number : FileProblem → Nat
  | missing => 2
  | present => 17
  | notDirectory => 20
  | isDirectory => 21

/-- The description of a problem with a file. -/
def description : FileProblem → String
  | missing => "No such file or directory"
  | present => "File exists"
  | notDirectory => "Not a directory"
  | isDirectory => "Is a directory"

end FileProblem

/-- Why a document was not made. -/
inductive Fault where
  /-- The template is not written in the template language. -/
  | mistake (mistake : Script.Mistake)
  /-- Template code ran into trouble. -/
  | trouble (trouble : Script.Trouble)
  /-- A part is not well formed; the line where that was noticed. -/
  | malformed (line : Nat)
  /-- Bytes that are no text. -/
  | notText
  | missingEntry (name : String)
  | archiveMissing (path : String)
  | archiveInvalid (path : String)
  | imageMissing (path : String)
  | pathsNotGiven
  | notProcessedForSave (name : String)
  | notProcessedForBody (name : String)
  /-- A part could not be rendered. -/
  | render (part : String) (line : Option Nat) (cause : Fault)
  | mergeUnrendered (part : String)
  /-- A file cannot be used as it was meant to be; another file may take part. -/
  | file (problem : FileProblem) (path : String) (other : Option String)
  | sameFile (source target : String)
  deriving Repr, Inhabited

namespace Fault

/-- The message of a fault. -/
def message : Fault → String
  | mistake found => found.problem.wording
  | trouble found => found.wording
  | malformed line => "not well formed (line " ++ toString line ++ ")"
  | notText => "not a text in UTF-8"
  | missingEntry name => Quoted.quote name
  | archiveMissing path => "Template archive not found: " ++ path
  | archiveInvalid path => "Not a valid template archive: " ++ path
  | imageMissing path => "Attempted to add non-existent image to template: " ++ path
  | pathsNotGiven => "Need to specify both template_file and output_file in options"
  | notProcessedForSave name => name ++ " must be processed before it is saved"
  | notProcessedForBody name => name ++ " must be processed before its body is read"
  | render part _ cause => "Failed to render " ++ part ++ ": " ++ cause.message
  | mergeUnrendered part => "Cannot merge partial styles into unrendered " ++ part
  | file problem path other =>
    let target := match other with
      | none => ""
      | some other => " -> " ++ Quoted.quote other
    "[Errno " ++ toString problem.number ++ "] " ++ problem.description ++ ": "
      ++ Quoted.quote path ++ target
  | sameFile source target =>
    "PosixPath(" ++ Quoted.quote source ++ ") and PosixPath(" ++ Quoted.quote target
      ++ ") are the same file"

/-- The line of a template that a fault brings with it: that of a mistake, of a part that is not
well formed, or of a part that failed before. -/
def ownLine? : Fault → Option Nat
  | mistake found => some found.line
  | malformed line => some line
  | render _ line _ => line
  | _ => none

end Fault

end FormLetter
