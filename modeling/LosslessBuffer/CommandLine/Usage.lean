import LosslessBuffer.CommandLine.Args
/-!
# Usage texts

What `--help`, the `help` command and a command that cannot run by itself print: a line
saying what the command does, how it is called, the commands under it, and its flags.

The `help` command describes the command its words name (`topicOf`), following them
down as far as they name subcommands; `completion` has one subcommand per shell. Words
whose first names no command are an unknown topic, answered with the program's usage.

Flags are listed in the order of their names, each as `--name` (after `-h, ` for the one
with a one-letter name), then `string` for a flag that takes text, then its description
in a column that lines up across the list, and its default in parentheses unless the
default is empty or false. The flags a command takes from the top level are listed apart,
under `Global Flags:`.
-/

set_option autoImplicit false

namespace LosslessBuffer.CommandLine

/-- What a flag is for. -/
def flagSummary : String → String
  | "config" => "Run profile (YAML) with defaults for any flag"
  | "log" => "Log level (trace, debug, info, warn, error, fatal, panic)"
  | "asic" => "ASIC family (td2, td3, th, th2, th3)"
  | "scenario" => "Target scenario key, e.g. 100000_5m"
  | "qos-params" => "Path to the per-ASIC qos parameter table (YAML)"
  | "buffer-config" => "Path to the buffer configuration (config_db JSON or YAML)"
  | "asic-config" => "Path to a register snapshot carrying shared_limit_sp0"
  | "profile" =>
    "Ingress lossless BUFFER_PROFILE name (default pg_lossless_<speed>_<length>m_profile)"
  | "dualtor" => "Testbed is dual-ToR"
  | "dut-topo" => "DUT topology, e.g. t0"
  | "testbed" => "Testbed topology name"
  | "override-gate" =>
    "When shared_limit_sp0 replaces the computed shared buffer (always, dualtor)"
  | "trace" => "Calculation trace written to stderr (none, decisions, terms)"
  | "scenario-only" => "Print only the target scenario block"
  | "no-descriptions" => "disable completion descriptions"
  | _ => ""

/-- What a command does. -/
def Verb.summary : Verb → String
  | .calc => "Compute expected buffer watermarks for one speed/cable-length scenario"
  | .asics => "List supported ASIC families and their buffer parameters"
  | .help => "Help about any command"
  | .completion => "Generate the autocompletion script for the specified shell"

/-- What the program does. -/
def programSummary : String := "Expected buffer watermark generator for Broadcom ASICs"

/-- A text padded with spaces to a width. -/
def padRight (width : Nat) (text : String) : String :=
  text ++ String.ofList (List.replicate (width - text.length) ' ')

/-- The lines listing flags; `owner` names the command the help flag belongs to. -/
def flagLines (owner : String) (flags : List Flag) : String :=
  let sorted := flags.mergeSort fun a b => decide (a.name ≤ b.name)
  let heads := sorted.map fun f =>
    let lead := match f.shorthand with
      | some c => "  -" ++ c.toString ++ ", --" ++ f.name
      | none => "      --" ++ f.name
    lead ++ (if f.kind = .text then " string" else "")
  let width := heads.foldl (fun m h => max m h.length) 0
  let tails := sorted.map fun f =>
    let summary := if f.name = "help" then "help for " ++ owner else flagSummary f.name
    let default :=
      if f.default.isEmpty || (f.kind = .switch && f.default = "false") then ""
      else if f.kind = .text then " (default " ++ Text.quote f.default ++ ")"
      else " (default " ++ f.default ++ ")"
    summary ++ default
  String.join ((heads.zip tails).map fun line => padRight (width + 3) line.1 ++ line.2 ++ "\n")

/-- The usage text of the program as a whole, listing the given flags as its own. -/
def usageListing (flags : List Flag) : String :=
  let names := Verb.all.map Verb.name
  "Usage:\n  " ++ programName ++ " [command]\n\nAvailable Commands:\n" ++
    String.join ((Verb.all.mergeSort fun a b => decide (a.name ≤ b.name)).map fun v =>
      "  " ++ padRight (max 11 (names.foldl (fun m n => max m n.length) 0)) v.name ++ " " ++
        v.summary ++ "\n") ++
    "\nFlags:\n" ++ flagLines programName flags ++
    "\nUse \"" ++ programName ++ " [command] --help\" for more information about a command.\n"

/-- The program's usage text, with its help switch among its flags. -/
def programUsage : String := usageListing commonFlags

/-- The shells `completion` writes scripts for, each a subcommand of it. -/
def completionShells : List String := ["bash", "fish", "powershell", "zsh"]

/-- The switch of a shell's subcommand that leaves descriptions out of the script. -/
def noDescriptionsFlag : Flag := .switchFlag "no-descriptions"

/-- How the completion script of a shell is loaded, as the shell's help explains it. -/
def shellGuide (shell : String) : String :=
  let p := programName
  let sessions := "\n\nTo load completions for every new session, execute once:\n\n"
  let restart := "\n\nYou will need to start a new shell for this setup to take effect."
  match shell with
  | "bash" =>
    "Generate the autocompletion script for the bash shell.\n\n" ++
      "This script depends on the 'bash-completion' package.\n" ++
      "If it is not installed already, you can install it via your OS's package manager.\n\n" ++
      "To load completions in your current shell session:\n\n\tsource <(" ++ p ++
      " completion bash)" ++ sessions ++ "#### Linux:\n\n\t" ++ p ++
      " completion bash > /etc/bash_completion.d/" ++ p ++ "\n\n#### macOS:\n\n\t" ++ p ++
      " completion bash > $(brew --prefix)/etc/bash_completion.d/" ++ p ++ restart
  | "zsh" =>
    "Generate the autocompletion script for the zsh shell.\n\n" ++
      "If shell completion is not already enabled in your environment you will need\n" ++
      "to enable it.  You can execute the following once:\n\n" ++
      "\techo \"autoload -U compinit; compinit\" >> ~/.zshrc\n\n" ++
      "To load completions in your current shell session:\n\n\tsource <(" ++ p ++
      " completion zsh)" ++ sessions ++ "#### Linux:\n\n\t" ++ p ++
      " completion zsh > \"$\x7bfpath[1]\x7d/_" ++ p ++ "\"\n\n#### macOS:\n\n\t" ++ p ++
      " completion zsh > $(brew --prefix)/share/zsh/site-functions/_" ++ p ++ restart
  | "fish" =>
    "Generate the autocompletion script for the fish shell.\n\n" ++
      "To load completions in your current shell session:\n\n\t" ++ p ++
      " completion fish | source" ++ sessions ++ "\t" ++ p ++
      " completion fish > ~/.config/fish/completions/" ++ p ++ ".fish" ++ restart
  | _ =>
    "Generate the autocompletion script for powershell.\n\n" ++
      "To load completions in your current shell session:\n\n\t" ++ p ++
      " completion powershell | Out-String | Invoke-Expression\n\n" ++
      "To load completions for every new session, add the output of the above command\n" ++
      "to your powershell profile."

/-- The help text of a shell's subcommand of `completion`; only `bash` leaves the flags out
of its usage line. -/
def shellHelp (shell : String) : String :=
  shellGuide shell ++ "\n\nUsage:\n  " ++ Verb.completion.path ++ " " ++ shell ++
    (if shell = "bash" then "" else " [flags]") ++ "\n\nFlags:\n" ++
    flagLines shell [helpFlag, noDescriptionsFlag] ++
    "\nGlobal Flags:\n" ++ flagLines programName globalFlags

/-- The usage text of a command. -/
def Verb.usage : Verb → String
  | .completion =>
    "Usage:\n  " ++ Verb.completion.path ++ " [command]\n\nAvailable Commands:\n" ++
      String.join (["bash", "fish", "powershell", "zsh"].map fun shell =>
        "  " ++ padRight 11 shell ++ " Generate the autocompletion script for " ++ shell ++ "\n") ++
      "\nFlags:\n" ++ flagLines Verb.completion.name [helpFlag] ++
      "\nGlobal Flags:\n" ++ flagLines programName globalFlags ++
      "\nUse \"" ++ Verb.completion.path ++
      " [command] --help\" for more information about a command.\n"
  | v =>
    let own := (v.flags.filter fun f => !globalFlags.any (·.name == f.name))
    let line := if v = .help then v.path ++ " [command]" else v.path
    "Usage:\n  " ++ line ++ " [flags]\n\nFlags:\n" ++ flagLines v.name own ++
      "\nGlobal Flags:\n" ++ flagLines programName globalFlags

/-- The help text of the program, or of a command. -/
def helpText : Option Verb → String
  | none => programSummary ++ "\n\n" ++ programUsage
  | some .completion =>
    "Generate the autocompletion script for " ++ programName ++
      " for the specified shell.\nSee each sub-command's help for details on how to use " ++
      "the generated script.\n\n" ++ Verb.completion.usage
  | some .help =>
    "Help provides help for any command in the application.\nSimply type " ++ programName ++
      " help [path to command] for full details.\n\n" ++ Verb.help.usage
  | some v => v.summary ++ "\n\n" ++ v.usage

/-! ## The help command -/

/-- What the help command describes. -/
inductive Topic where
  | program
  | verb (v : Verb)
  /-- The subcommand of `completion` for a shell. -/
  | shell (name : String)
  deriving Repr

/-- The topic the words after `help` name: the command the first word names, and under
`completion` the shell the next word names, if it names one; the program when no word
is left once flags are passed over; none when the first word names no command. -/
def topicOf (words : List String) : Option Topic :=
  match commandWords globalFlags words with
  | [] => some .program
  | first :: _ =>
    match Verb.all.find? (·.name == first) with
    | none => none
    | some .completion =>
      match commandWords globalFlags (withoutWord globalFlags first words) with
      | next :: _ => some (if completionShells.contains next then .shell next else .verb .completion)
      | [] => some (.verb .completion)
    | some v => some (.verb v)

/-- The help text of a topic. -/
def Topic.help : Topic → String
  | .program => helpText none
  | .verb v => helpText (some v)
  | .shell name => shellHelp name

/-- Whether a word can be shown between backquotes: no backquote, no control character
but tab, and no byte order mark. -/
def canBackquote (word : String) : Bool :=
  word.all fun c => !((c < ' ' && c ≠ '\t') || c = '\x60' || c = '\x7F' || c = '\uFEFF')

/-- A word between backquotes when it can stand there, else quoted. -/
def backquoted (word : String) : String :=
  if canBackquote word then "\x60" ++ word ++ "\x60" else Text.quote word

/-- What the help command answers for words that name no command: the words, then the
program's usage. The program's help switch is only added when help on it is asked for,
so this usage lists the global flags alone. -/
def unknownTopic (words : List String) : String :=
  "Unknown help topic [" ++ " ".intercalate (words.map backquoted) ++ "]\n" ++
    usageListing globalFlags

end LosslessBuffer.CommandLine
