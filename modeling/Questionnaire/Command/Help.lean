import Questionnaire.Command.Arguments

/-!
# Help on the command line

What the command line prints when it is asked for help or for its version. Lists are set in two
columns, of which the first is as wide as its longest entry.
-/

namespace Questionnaire

/-- The name of the program. -/
def programName : String := "docket"

/-- The version of the program. -/
def programVersion : String := "0.1.0"

/-- The text with blanks after it, up to a width. -/
def padRight (width : Nat) (text : String) : String :=
  text ++ String.ofList (List.replicate (width - text.length) ' ')

/-- A headed list in two columns; nothing if the list is empty. -/
def helpList (heading : String) (entries : List (String × String)) : String :=
  if entries.isEmpty then ""
  else
    let width := (entries.map fun entry => entry.1.length).foldl max 0
    let lines := entries.map fun (left, right) =>
      "  " ++ padRight width left ++ "  " ++ right ++ "\n"
    "\n" ++ heading ++ ":\n" ++ String.join lines

/-- What a verb does, in one line. -/
def Verb.summary : Verb → String
  | validate => "Validate a graph JSON file"
  | progress => "Show completion and stage of an assignment"
  | coverage => "Show filing-label coverage of an assignment"
  | migrate => "Load the store, migrating if needed"
  | normalizeTitles => "Strip copy artifacts from titles"

/-- What the help does, in one line. -/
def helpSummary : String :=
  "Print this message or the help of the given subcommand(s)"

/-- What the subject of a verb is. -/
def Verb.arguments : Verb → List (String × String)
  | validate => [("<graph>", "Path to a graph document (\x7bnodes, edges\x7d)")]
  | progress | coverage => [("<assignment>", "Assignment id")]
  | migrate | normalizeTitles => []

/-- The options that may stand anywhere. -/
def storeOptionHelp : List (String × String) :=
  [("    --store <store>", "Directory holding the questionnaire documents [default: .docket]"),
    ("    --scope <scope>", "Workspace scope prefixed to document keys [default: gbi]"),
    ("    --log-json", "Emit logs as JSON"),
    ("-h, --help", "Print help")]

/-- The options of a verb. -/
def Verb.optionHelp : Verb → List (String × String)
  | validate =>
    ("    --max-nodes <max-nodes>",
      "Workflow-node count above which a warning is raised [default: 60]") :: storeOptionHelp
  | _ => storeOptionHelp

/-- The help on a topic. -/
def HelpTopic.text : HelpTopic → String
  | program =>
    "Questionnaire graph runtime for legal intake\n\nUsage: " ++ programName ++
      " [OPTIONS] <COMMAND>\n" ++
      helpList "Commands"
        (Verb.all.map (fun verb => (verb.name, verb.summary)) ++ [("help", helpSummary)]) ++
      helpList "Options" (storeOptionHelp ++ [("-V, --version", "Print version")])
  | help =>
    helpSummary ++ "\n\nUsage: " ++ programName ++ " help [COMMAND]...\n" ++
      helpList "Arguments" [("[COMMAND]...", "Print help for the subcommand(s)")]
  | verb topic =>
    let subject := (topic.subject?.map fun subject => " <" ++ subject ++ ">").getD ""
    topic.summary ++ "\n\nUsage: " ++ programName ++ " " ++ topic.name ++ " [OPTIONS]" ++ subject ++
      "\n" ++ helpList "Arguments" topic.arguments ++ helpList "Options" topic.optionHelp

end Questionnaire
