import EncoderBench.Cli.Args
import EncoderBench.Text.Pad
/-
The help texts of `transcode`: a description, a usage line, and sections of entries, one line
each in the short layout and with descriptions indented below in the full one. Entries stand in
the order their command declares them, then by key.
-/
namespace EncoderBench

namespace Cli

/-- One entry of a help section. -/
structure HelpEntry where
  name : String
  description : String
  default : Option String := none
  values : List (String × String) := []
  position : Nat := 999
  key : String := ""

def letterKey (letter : Char) : String :=
  String.singleton letter.toLower ++ (if letter.isUpper then "1" else "0")

def shortEntry (letter : Char) (long description : String) : HelpEntry :=
  { name := "-" ++ String.singleton letter ++ ", --" ++ long, description, key := letterKey letter }

def longEntry (long : String) (valueName : Option String) (description : String) : HelpEntry :=
  { name := "    --" ++ long ++ (valueName.map (" <" ++ · ++ ">")).getD "", description, key := long }

def HelpEntry.before (a b : HelpEntry) : Bool :=
  a.position < b.position || (a.position == b.position && decide (a.key ≤ b.key))

def arrange (entries : List HelpEntry) : List HelpEntry := entries.mergeSort HelpEntry.before

def declared (entries : List HelpEntry) (earlier : Nat := 0) : List HelpEntry :=
  (entries.zipIdx earlier).map fun (e, i) => { e with position := i }

def descriptionIndent : String := Pad.rule ' ' 10

def notes (e : HelpEntry) (listed : Bool) : List String :=
  (e.default.map (fun d => "[default: " ++ d ++ "]")).toList ++
  (if e.values.isEmpty || listed then []
   else ["[possible values: " ++ ", ".intercalate (e.values.map (·.1)) ++ "]"])

def documented (e : HelpEntry) : Bool := e.values.any (!·.2.isEmpty)

def shortSection (entries : List HelpEntry) : String :=
  let width := entries.foldl (fun w e => max w e.name.length) 0
  "\n".intercalate (entries.map fun e =>
    "  " ++ Pad.right e.name width ++ "  " ++ " ".intercalate (e.description :: notes e false))

def longEntryText (e : HelpEntry) : String :=
  let listed := documented e
  let indented (text : String) := text.replace "\n" ("\n" ++ descriptionIndent)
  let width := e.values.foldl (fun w v => max w v.1.length) 0
  let valueLines := if listed then
      "\n\n" ++ descriptionIndent ++ "Possible values:" ++ String.join (e.values.map fun (v, d) =>
        "\n" ++ descriptionIndent ++ "- " ++ v ++ ": " ++ Pad.rule ' ' (width - v.length) ++ d)
    else ""
  let noteLines := match notes e listed with
    | [] => ""
    | ns => "\n\n" ++ "\n".intercalate ns
  "  " ++ e.name ++ "\n" ++ descriptionIndent ++ indented e.description ++ valueLines ++
    indented noteLines

def longSection (entries : List HelpEntry) : String := "\n\n".intercalate (entries.map longEntryText)

def commandNames : List CommandName := [.autotune, .advise, .presets]

def globalEntries (helpText : String) : List HelpEntry :=
  declared [shortEntry 'v' "verbose" "Show debug logging",
    shortEntry 'q' "quiet" "Only print the final result"] commandNames.length ++
    [shortEntry 'h' "help" helpText]

/-- The options of a command, as help lists them, without the global ones. -/
def commandEntries (c : CommandName) : List HelpEntry := declared (commandOptions c)
where
  commandOptions : CommandName → List HelpEntry
  | .advise => [
    longEntry "upload" (some "UPLOAD") "Upload speed available for broadcasting",
    { longEntry "unit" (some "UNIT") "Unit of --upload (kbps, mbps, KBps, MBps)" with default := some "kbps" },
    { longEntry "fps" (some "FPS") "Output frame rate" with
      default := some "30", values := [("30", ""), ("60", "")] },
    longEntry "interactive" none "Another interactive application (e.g. a game) shares the connection",
    longEntry "high-action" none "Content is fast moving and needs more bits",
    longEntry "transcoder" none "The streaming service transcodes for viewers",
    longEntry "json" none "Output in JSON format"]
  | .presets => [
    longEntry "show" (some "SHOW") "Show detailed info for a specific preset",
    longEntry "json" none "Output in JSON format"]
  | .autotune => [
    longEntry "upload" (some "UPLOAD") "Upload speed available for broadcasting",
    { longEntry "unit" (some "UNIT") "Unit of --upload (kbps, mbps, KBps, MBps)" with default := some "kbps" },
    longEntry "local-file" none "Record to a local file instead of broadcasting",
    { longEntry "cpu" (some "CPU") "How much of the CPU the encoder may use" with
      default := some "low",
      values := [("low", "About 20% of the CPU"), ("medium", "About 40% of the CPU"),
        ("high", "About 80% of the CPU")] },
    longEntry "interactive" none "Another interactive application (e.g. a game) shares the connection",
    longEntry "high-action" none "Content is fast moving and needs more bits",
    longEntry "transcoder" none "The streaming service transcodes for viewers",
    longEntry "config" (some "CONFIG") "Benchmark configuration file (JSON)",
    longEntry "select" (some "SELECT") "Use this result instead of the recommended one",
    longEntry "json" none "Output in JSON format"]

def CommandName.about : CommandName → String
  | .autotune => "Benchmark the encoder and recommend output settings"
  | .advise => "Recommend bitrates and output size for an upload speed"
  | .presets => "List encoder speed presets"

def CommandName.word : CommandName → String
  | .autotune => "autotune"
  | .advise => "advise"
  | .presets => "presets"

def CommandName.usage : CommandName → String
  | .advise => "Usage: transcode advise [OPTIONS] --upload <UPLOAD>"
  | .presets => "Usage: transcode presets [OPTIONS]"
  | .autotune => "Usage: transcode autotune [OPTIONS]"

def CommandName.hasMore (c : CommandName) : Bool := (commandEntries c).any documented

def programAbout : String := "Benchmark this machine and recommend live encoding settings"

def programLongAbout : String :=
  "Transcode measures how much CPU a live video encoder needs on this \n" ++
  "machine at a range of output sizes, frame rates and presets, and \n" ++
  "recommends the best combination that fits a CPU and bandwidth budget.\n\n" ++
  "EXAMPLES:\n" ++
  "    transcode autotune --upload 5 --unit mbps --cpu medium\n" ++
  "    transcode autotune --local-file --cpu high --json\n" ++
  "    transcode advise --upload 3000 --high-action\n" ++
  "    transcode presets --show veryfast"

def helpCommandText : String :=
  "Print this message or the help of the given subcommand(s)\n\n" ++
  "Usage: transcode help [COMMAND]...\n\n" ++
  "Arguments:\n" ++ shortSection [{ name := "[COMMAND]...", description := "Print help for the subcommand(s)" }] ++ "\n"

/-- The help text of the program or of a command, in full or in short. -/
def helpText (topic : HelpTopic) (long : Bool) : String :=
  match topic with
  | .helpCommand => helpCommandText
  | .program =>
    let helpLine := if long then "Print help (see a summary with '-h')" else "Print help (see more with '--help')"
    let options := arrange (globalEntries helpLine ++ [shortEntry 'V' "version" "Print version"])
    let commands : List HelpEntry :=
      (commandNames.map fun c => { name := c.word, description := c.about }) ++
      [{ name := "help", description := "Print this message or the help of the given subcommand(s)" }]
    (if long then programLongAbout else programAbout) ++ "\n\n" ++
    "Usage: transcode [OPTIONS] <COMMAND>\n\n" ++
    "Commands:\n" ++ shortSection commands ++ "\n\n" ++
    "Options:\n" ++ (if long then longSection options else shortSection options) ++ "\n"
  | .command c =>
    let full := long && c.hasMore
    let helpLine := if !c.hasMore then "Print help"
      else if long then "Print help (see a summary with '-h')" else "Print help (see more with '--help')"
    let options := arrange (commandEntries c ++ globalEntries helpLine)
    c.about ++ "\n\n" ++ c.usage ++ "\n\n" ++
    "Options:\n" ++ (if full then longSection options else shortSection options) ++ "\n"

end Cli

end EncoderBench
