import FormLetter.CommandLine.Arguments

/-!
# Help

What is said about the arguments, on request and before a complaint.
-/

namespace FormLetter.CommandLine

/-- The name of the program. -/
def programName : String := "documatic"

/-- How the program is called. -/
def usage : String :=
  "usage: " ++ programName ++ " [-h] [--data DATA] [--lenient] [--debug]\n"
    ++ "                 template_file output_file\n"

/-- The description of the program and its arguments. -/
def help : String :=
  usage
    ++ "\nRender an OpenDocument Text template into a finished document\n"
    ++ "\npositional arguments:\n"
    ++ "  template_file  Path to the .odt template\n"
    ++ "  output_file    Where to write the rendered document\n"
    ++ "\noptions:\n"
    ++ "  -h, --help     show this help message and exit\n"
    ++ "  --data DATA    JSON file whose contents are bound to 'data' in the template\n"
    ++ "  --lenient      Render undefined names as empty text and report them instead\n"
    ++ "                 of failing\n"
    ++ "  --debug        Enable debug logging\n"

/-- What is said when the arguments cannot be used. -/
def Complaint.report (complaint : Complaint) : String :=
  usage ++ programName ++ ": error: " ++ complaint.wording ++ "\n"

end FormLetter.CommandLine
