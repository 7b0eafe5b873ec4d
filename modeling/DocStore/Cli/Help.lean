import DocStore.Cli.Command

/-!
# Help

The help on the program and on its commands.
-/

namespace DocStore.Cli

/-- Entries in two columns under a heading, if there are any. -/
def columns (heading : String) (entries : List (String × String)) : List String :=
  let width := (entries.map (·.1.length)).foldl max 0
  if entries.isEmpty then []
  else "" :: heading :: entries.map fun (left, right) =>
    "  " ++ left ++ String.ofList (List.replicate (width - left.length + 2) ' ') ++ right

namespace OptionRule

def usage (rule : OptionRule) : String :=
  "    --" ++ rule.name ++ (if rule.takes = .nothing then "" else s!" <{rule.valueName}>")

/-- What the option does, with its default and the words that it takes. -/
def explanation (rule : OptionRule) : String :=
  rule.about ++
    (match rule.default with
      | some value => s!" [default: {value}]"
      | none => "") ++
    (match rule.takes with
      | .oneOf words => " [possible values: " ++ ", ".intercalate words ++ "]"
      | _ => "")

end OptionRule

/-- The entries of options, with those that every command has. -/
def optionEntries (rules : List OptionRule) (hasVersion : Bool) : List (String × String) :=
  rules.map (fun rule => (rule.usage, rule.explanation)) ++ [("-h, --help", "Print help")] ++
    if hasVersion then [("-V, --version", "Print version")] else []

def programHelp : List String :=
  [programAbout, "", s!"Usage: {programName} [OPTIONS] <COMMAND>"] ++
    columns "Commands:" (commandRules.map (fun rule => (rule.name, rule.about)) ++
      [("help", "Print this message or the help of the given subcommand(s)")]) ++
    columns "Options:" (optionEntries commonOptions true)

def commandHelp (rule : CommandRule) : List String :=
  let words := [programName, rule.name] ++ (if rule.options.isEmpty then [] else ["[OPTIONS]"]) ++
    rule.plain.map fun (name, _) => s!"<{name}>"
  [rule.about, "", "Usage: " ++ " ".intercalate words] ++
    columns "Arguments:" (rule.plain.map fun (name, about) => (s!"<{name}>", about)) ++
    columns "Options:" (optionEntries rule.options false)

def helpHelp : List String :=
  ["Print this message or the help of the given subcommand(s)", "",
    s!"Usage: {programName} help [COMMAND]..."] ++
    columns "Arguments:" [("[COMMAND]...", "Print help for the subcommand(s)")]

def helpText (command : Option String) : String :=
  let help := match command with
    | none => programHelp
    | some name => ((commandRule? name).map commandHelp).getD helpHelp
  "\n".intercalate help ++ "\n"

end DocStore.Cli
