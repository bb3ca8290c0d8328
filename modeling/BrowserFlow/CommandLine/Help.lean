import BrowserFlow.CommandLine.Request

/-!
# Help

What the program tells about itself: its version, and for the program and every command what it
does, how it is used, and what it takes. The explanations in a list begin in the same column.
-/

namespace BrowserFlow.CommandLine.Help

/-- The program's name. -/
def programName : String := "fluxo-tester"

/-- The program's version. -/
def versionLine : String := programName ++ " 0.1.0\n"

/-- What the program does. -/
def aboutProgram : String := "Run browser tests written as Portuguese sentences"

/-- What a command does. -/
def about : Command → String
  | .run => "Run flow file(s) or a directory of flows"
  | .parse => "Show how a flow file is grouped and classified without running it"
  | .help => "Print this message or the help of the given subcommand(s)"

/-- An item of a list, and what is to be said about it. -/
abbrev Entry := StyledText × String

/-- A list under a heading, or nothing if the list is empty. -/
def listing (title : String) (entries : List Entry) : StyledText :=
  let width := (entries.map (·.1.width)).foldl max 0
  let lines := entries.flatMap fun (item, explanation) =>
    (.plain, "  ") :: item ++ [(.plain, item.fill width ++ "  " ++ explanation ++ "\n")]
  if entries.isEmpty then []
  else (.plain, "\n") :: (.heading, title ++ ":") :: (.plain, "\n") :: lines

/-- The line that shows how something is used. -/
def usage (name rest : String) : StyledText :=
  [(.heading, "Usage:"), (.plain, " "), (.bold, name), (.plain, rest ++ "\n")]

/-- A command in the list of commands. -/
def commandEntry (command : Command) : Entry :=
  ([(.bold, command.name)], about command)

/-- An option in the list of options. -/
def parameterEntry {α : Type} (parameter : Parameter α) : Entry :=
  let letter : StyledText := match parameter.letter with
    | some c => [(.bold, "-" ++ String.singleton c), (.plain, ", ")]
    | none => [(.plain, "    ")]
  let value : StyledText := match parameter.effect with
    | .value name _ => [(.plain, " <" ++ name ++ ">")]
    | _ => []
  (letter ++ (.bold, "--" ++ parameter.name) :: value, parameter.help)

/-- A value without a name in the list of such values. -/
def positionalEntry {α : Type} (positional : Positional α) : Entry :=
  ([(.plain, positional.display)], positional.help)

/-- Whether an option is more than a question about the program. -/
def isProper {α : Type} (parameter : Parameter α) : Bool :=
  match parameter.effect with
  | .help | .version => false
  | _ => true

/-- Help about something that takes what a form says. -/
def page {α : Type} (about name : String) (form : Form α) : StyledText :=
  let options := if form.parameters.any isProper then " [OPTIONS]" else ""
  let place := match form.positional with
    | some positional => " " ++ positional.display
    | none => ""
  (.plain, about ++ "\n\n") :: usage name (options ++ place) ++
    listing "Arguments" (form.positional.toList.map positionalEntry) ++
    listing "Options" (form.parameters.map parameterEntry)

/-- Help about a command, or about the program. -/
def text : Option Command → StyledText
  | none =>
    (.plain, aboutProgram ++ "\n\n") :: usage programName " <COMMAND>" ++
      listing "Commands" (Command.all.map commandEntry) ++
      listing "Options" (programForm.parameters.map parameterEntry)
  | some .run => page (about .run) (programName ++ " run") runForm
  | some .parse => page (about .parse) (programName ++ " parse") parseForm
  | some .help =>
    (.plain, about .help ++ "\n\n") :: usage (programName ++ " help") " [COMMAND]..." ++
      listing "Arguments" [([(.plain, "[COMMAND]...")], "Print help for the subcommand(s)")]

/-- What is said when the arguments are wrong. -/
def refusal (error : UsageError) : StyledText :=
  (.alarm, "error:") :: (.plain, " ") :: error.message ++
    [(.plain, "\n\nFor more information, try '"), (.bold, "--help"), (.plain, "'.\n")]

end BrowserFlow.CommandLine.Help
