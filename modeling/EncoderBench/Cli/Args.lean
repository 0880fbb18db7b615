import EncoderBench.Decimal.Read
import EncoderBench.Advice.UploadUnit
import EncoderBench.Bench.Budget
/-
The command-line grammar of `transcode`. Options are long or grouped short letters, each value is
checked as it is read, and the first argument that fails ends the reading with a usage error. No
option may be given twice at one level; `advise` needs `--upload`, and `autotune` exactly one of
`--upload` and `--local-file`.
-/
namespace EncoderBench

namespace Cli

def versionLine : String := "transcode 0.1.0"

/-- An option a command understands. -/
structure OptionSpec where
  long : String
  short : Option Char := none
  accepts : Option (String → Bool) := none

def flag (long : String) (short : Option Char := none) : OptionSpec := { long, short }

def valued (long : String) (ok : String → Bool) : OptionSpec := { long, accepts := some ok }

def readsAs (r : String → Except String α) (s : String) : Bool :=
  match r s with
  | .ok _ => true
  | .error _ => false

def globalOptions : List OptionSpec := [flag "verbose" (some 'v'), flag "quiet" (some 'q')]

def adviseOptions : List OptionSpec := [
  valued "upload" (fun s => (NumberText.float? s).isSome), valued "unit" (readsAs UploadUnit.parse),
  valued "fps" (fun s => s == "30" || s == "60"), flag "interactive", flag "high-action",
  flag "transcoder", flag "json"]

def presetsOptions : List OptionSpec := [valued "show" (readsAs Preset.parse), flag "json"]

def autotuneOptions : List OptionSpec := [
  valued "upload" (fun s => (NumberText.float? s).isSome), valued "unit" (readsAs UploadUnit.parse),
  flag "local-file", valued "cpu" (fun s => (CpuLimit.ofName? s).isSome), flag "interactive",
  flag "high-action", flag "transcoder", valued "config" (fun s => !s.isEmpty),
  valued "select" (fun s => (NumberText.count? (Nat.pow 2 64) s).isSome), flag "json"]

inductive CommandName
  | advise
  | presets
  | autotune
  deriving Repr, DecidableEq, Inhabited

def CommandName.ofName? : String → Option CommandName
  | "advise" => some .advise
  | "presets" => some .presets
  | "autotune" => some .autotune
  | _ => none

inductive HelpTopic
  | program
  | command (name : CommandName)
  | helpCommand
  deriving Repr, DecidableEq, Inhabited

def HelpTopic.ofLevel : Option CommandName → HelpTopic
  | none => .program
  | some c => .command c

def CommandName.options : CommandName → List OptionSpec
  | .advise => adviseOptions
  | .presets => presetsOptions
  | .autotune => autotuneOptions

abbrev Given := List (String × String)

inductive Stop
  | done (given : Given)
  | command (given : Given) (name : CommandName) (rest : List String)
  | help (topic : HelpTopic) (long : Bool)
  | version
  | misuse
  deriving Repr, DecidableEq, Inhabited

def valueLike (w : String) : Bool := w == "-" || !w.startsWith "-"

def record (given : Given) (long value : String) : Option Given :=
  if given.any (·.1 == long) then none else some (given ++ [(long, value)])

/-- Reads one level of the line: the options of `specs`, and at the top (`topic = none`) the
command name that starts the next level. -/
def readLevel (specs : List OptionSpec) (topic : Option CommandName) :
    (fuel : Nat) → Given → List String → Stop
  | 0, given, _ => .done given
  | _ + 1, given, [] => .done given
  | fuel + 1, given, w :: rest =>
    if w == "--" then (if rest.isEmpty then .done given else .misuse)
    else if w.startsWith "--" then
      let body := (w.drop 2).toString
      let (name, inline) := match body.splitOn "=" with
        | [n] => (n, none)
        | n :: vs => (n, some ("=".intercalate vs))
        | [] => (body, none)
      match specs.find? (·.long == name) with
      | none =>
        if name == "help" && inline.isNone then .help (HelpTopic.ofLevel topic) true
        else if name == "version" && topic.isNone && inline.isNone then .version
        else .misuse
      | some spec =>
        match spec.accepts, inline with
        | none, some _ => .misuse
        | none, none =>
          match record given name "" with
          | some g => readLevel specs topic fuel g rest
          | none => .misuse
        | some ok, some v =>
          if ok v then
            match record given name v with
            | some g => readLevel specs topic fuel g rest
            | none => .misuse
          else .misuse
        | some ok, none =>
          match rest with
          | v :: rest' =>
            if valueLike v && ok v then
              match record given name v with
              | some g => readLevel specs topic fuel g rest'
              | none => .misuse
            else .misuse
          | [] => .misuse
    else if w.startsWith "-" && w != "-" then
      readShorts specs topic fuel given (w.drop 1).toString.toList rest
    else
      match topic, CommandName.ofName? w with
      | none, some c => .command given c rest
      | _, _ =>
        if topic.isNone && w == "help" then
          match rest with
          | [] => .help .program true
          | [c] => match CommandName.ofName? c with
            | some c => .help (.command c) true
            | none => if c == "help" then .help .helpCommand true else .misuse
          | _ => .misuse
        else .misuse
where
  readShorts (specs : List OptionSpec) (topic : Option CommandName) (fuel : Nat) (given : Given) :
      List Char → List String → Stop
    | [], rest => readLevel specs topic fuel given rest
    | c :: cs, rest =>
      if c == 'h' then .help (HelpTopic.ofLevel topic) false
      else if c == 'V' && topic.isNone then .version
      else
        match specs.find? (·.short == some c) with
        | some spec =>
          if spec.accepts.isSome then .misuse
          else
            match record given spec.long "" with
            | some g => readShorts specs topic fuel g cs rest
            | none => .misuse
        | none => .misuse

def has (given : Given) (long : String) : Bool := given.any (·.1 == long)

def valueOf (given : Given) (long : String) : Option String := (given.find? (·.1 == long)).map (·.2)

def clashes (given : Given) : Bool := has given "verbose" && has given "quiet"

structure AdviseArgs where
  upload : Float
  unit : UploadUnit := .kilobits
  frameRate : FrameRate := FrameRate.fps30
  interactive : Bool := false
  highAction : Bool := false
  transcoder : Bool := false
  json : Bool := false

structure PresetsArgs where
  detail : Option Preset := none
  json : Bool := false

structure AutotuneArgs where
  upload : Option Float := none
  unit : UploadUnit := .kilobits
  localFile : Bool := false
  cpu : CpuLimit := .low
  interactive : Bool := false
  highAction : Bool := false
  transcoder : Bool := false
  config : Option String := none
  select : Option Nat := none
  json : Bool := false

/-- A command with its options. -/
inductive Command
  | advise (a : AdviseArgs)
  | presets (p : PresetsArgs)
  | autotune (t : AutotuneArgs)

structure Invocation where
  verbose : Bool
  quiet : Bool
  command : Command

def Command.json : Command → Bool
  | .advise a => a.json
  | .presets p => p.json
  | .autotune t => t.json

/-- What a command line asks for. -/
inductive Request
  | run (i : Invocation)
  | help (topic : HelpTopic) (long : Bool)
  | version
  | misuse

def readOr (r : String → Option α) (fallback : α) (s : Option String) : α :=
  (s.bind r).getD fallback

def unitOf (given : Given) : UploadUnit :=
  readOr (fun s => (UploadUnit.parse s).toOption) .kilobits (valueOf given "unit")

def commandOf (name : CommandName) (given : Given) : Option Command :=
  match name with
  | .advise =>
    (valueOf given "upload").bind NumberText.float? |>.map fun upload =>
      .advise {
        upload
        unit := unitOf given
        frameRate := if valueOf given "fps" == some "60" then FrameRate.fps60 else FrameRate.fps30
        interactive := has given "interactive"
        highAction := has given "high-action"
        transcoder := has given "transcoder"
        json := has given "json" }
  | .presets =>
    some (.presets {
      detail := (valueOf given "show").bind fun s => (Preset.parse s).toOption
      json := has given "json" })
  | .autotune =>
    let upload := (valueOf given "upload").bind NumberText.float?
    if upload.isSome == has given "local-file" then none
    else
      some (.autotune {
        upload
        unit := unitOf given
        localFile := has given "local-file"
        cpu := readOr CpuLimit.ofName? .low (valueOf given "cpu")
        interactive := has given "interactive"
        highAction := has given "high-action"
        transcoder := has given "transcoder"
        config := valueOf given "config"
        select := (valueOf given "select").bind (NumberText.count? (Nat.pow 2 64))
        json := has given "json" })

/-- Reads a command line (without the program's name). -/
def parse (args : List String) : Request :=
  match readLevel globalOptions none (args.length + 1) [] args with
  | .help t l => .help t l
  | .version => .version
  | .misuse | .done _ => .misuse
  | .command top name rest =>
    match readLevel (globalOptions ++ name.options) (some name) (rest.length + 1) [] rest with
    | .help t l => .help t l
    | .version | .misuse | .command .. => .misuse
    | .done sub =>
      if clashes top || clashes sub then .misuse
      else
        match commandOf name sub with
        | none => .misuse
        | some c =>
          .run ⟨has top "verbose" || has sub "verbose", has top "quiet" || has sub "quiet", c⟩

end Cli

end EncoderBench
