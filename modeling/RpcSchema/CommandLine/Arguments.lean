import RpcSchema.Code.Artifact
import RpcSchema.Decimal.Text
import RpcSchema.Text.Split

/-!
# Arguments of the command line

What the arguments of the generator ask for. A switch stands alone; a setting has a value, which
is the rest of its own argument or the next argument, unless that looks like an option itself.
Options have a long name after `--`, and some a letter after `-`; letters of switches can be
joined.

Exactly one target must be asked for. An option may be given once, but the list of stateful
commands grows with each time and asking for more messages may be repeated.

Arguments are read from left to right, and the first that is wrong, or asks for help, decides.

## Main definitions

* `Target`, `Job` — what can be asked for, and all that is asked
* `Switch`, `Setting` — the options
* `Stop` — why arguments are no job
* `Job.ofArguments` — the job of some arguments
-/

namespace RpcSchema.CommandLine

/-! ### Jobs -/

/-- What is wanted of a schema. -/
inductive Target
  | artifact (artifact : Code.Artifact)
  /-- only to know whether it is valid -/
  | check
  deriving Repr, DecidableEq

/-- All targets. -/
def Target.every : List Target := Code.Artifact.every.map .artifact ++ [.check]

/-- The long name of a target. -/
def Target.name : Target → String
  | .artifact a => a.name
  | .check => "check"

/-- All that is asked. Without a file the standard input or output is meant. -/
structure Job where
  target : Target
  input : Option String
  output : Option String
  config : Code.Config

/-! ### Options -/

/-- The options without a value. -/
inductive Switch
  | target (target : Target)
  | verbose
  | help
  deriving Repr, DecidableEq

/-- The options with a value. -/
inductive Setting
  | input
  | output
  | runtime
  | maxTypeSize
  | asyncMark
  | stateful
  deriving Repr, DecidableEq

/-- The switches by their long names. -/
def switches : List (String × Switch) :=
  Target.every.map (fun t => (t.name, .target t)) ++ [("verbose", .verbose), ("help", .help)]

/-- The settings by their long names. -/
def settings : List (String × Setting) :=
  [("input", .input), ("output", .output), ("runtime-crate", .runtime),
    ("max-type-size", .maxTypeSize), ("async-prefix", .asyncMark), ("stateful", .stateful)]

/-- The switch of a letter. -/
def switchOfLetter? : Char → Option Switch
  | 'v' => some .verbose
  | 'h' => some .help
  | _ => none

/-- The setting of a letter. -/
def settingOfLetter? : Char → Option Setting
  | 'i' => some .input
  | 'o' => some .output
  | _ => none

/-! ### What was read -/

/-- Why arguments are no job. -/
inductive Stop
  /-- help is wanted -/
  | help
  /-- no option, or not one that is known -/
  | unexpected (argument : String)
  | missingValue (setting : Setting)
  | unwantedValue (switch : Switch)
  | badValue (setting : Setting) (value : String)
  | repeatedSwitch (switch : Switch)
  | repeatedSetting (setting : Setting)
  | noTarget
  | severalTargets
  deriving Repr, DecidableEq

/-- What the arguments so far ask for. -/
structure Reading where
  targets : List Target
  /-- the values of settings, in the order they were given -/
  values : List (Setting × String)
  /-- the setting whose value is the next argument -/
  pending : Option Setting
  /-- whether the options have ended -/
  ended : Bool

namespace Reading

/-- Nothing was read. -/
def start : Reading := ⟨[], [], none, false⟩

/-- The first value of a setting. -/
def value? (r : Reading) (setting : Setting) : Option String := r.values.lookup setting

/-- All values of a setting. -/
def valuesOf (r : Reading) (setting : Setting) : List String :=
  (r.values.filter (·.1 == setting)).map (·.2)

/-- What was read after a switch. -/
def switch (r : Reading) : Switch → Except Stop Reading
  | .help => .error .help
  | .verbose => .ok r
  | .target t =>
    if r.targets.contains t then .error (.repeatedSwitch (.target t))
    else .ok { r with targets := r.targets ++ [t] }

/-- Whether a setting takes a value: a file needs a name, and a size must be a machine word. -/
def accepts : Setting → String → Bool
  | .input, value | .output, value => !value.isEmpty
  | .maxTypeSize, value => (Decimal.natural? UInt64.size value).isSome
  | _, _ => true

/-- What was read after a setting with its value. -/
def set (r : Reading) (setting : Setting) (value : String) : Except Stop Reading :=
  if setting != .stateful && (r.value? setting).isSome then .error (.repeatedSetting setting)
  else if accepts setting value then
    .ok { r with values := r.values ++ [(setting, value)], pending := none }
  else .error (.badValue setting value)

/-- What was read after an option given by its long name, with its value if it had one. -/
def long (r : Reading) (name : String) (value : Option String) : Except Stop Reading :=
  match settings.lookup name, switches.lookup name, value with
  | some setting, _, some value => r.set setting value
  | some setting, _, none => .ok { r with pending := some setting }
  | none, some switch, none => r.switch switch
  | none, some switch, some _ => .error (.unwantedValue switch)
  | none, none, _ => .error (.unexpected ("--" ++ name))

/-- What was read after joined letters. The rest after the letter of a setting is its value. -/
def letters (r : Reading) : List Char → Except Stop Reading
  | [] => .ok r
  | c :: rest =>
    match settingOfLetter? c, switchOfLetter? c, rest with
    | some setting, _, [] => .ok { r with pending := some setting }
    | some setting, _, '=' :: value => r.set setting (String.ofList value)
    | some setting, _, value => r.set setting (String.ofList value)
    | none, some switch, rest => do letters (← r.switch switch) rest
    | none, none, _ => .error (.unexpected (String.ofList ['-', c]))

/-- Whether an argument looks like an option. A single hyphen does not. -/
def looksLikeOption (argument : String) : Bool :=
  match argument.toList with
  | '-' :: _ :: _ => true
  | _ => false

/-- What was read after an argument. -/
def argument (r : Reading) (text : String) : Except Stop Reading :=
  match r.pending with
  | some setting =>
    if looksLikeOption text then .error (.missingValue setting) else r.set setting text
  | none =>
    if r.ended then .error (.unexpected text)
    else
      match text.toList with
      | ['-', '-'] => .ok { r with ended := true }
      | '-' :: '-' :: option =>
        let name := String.ofList (option.takeWhile (· != '='))
        match option.dropWhile (· != '=') with
        | [] => r.long name none
        | _ :: value => r.long name (some (String.ofList value))
      | '-' :: c :: rest => r.letters (c :: rest)
      | _ => .error (.unexpected text)

/-- The parts of a value that are separated by commas. -/
def commaParts (value : String) : List String :=
  (Text.splitWhere (· == ',') value.toList).map String.ofList

/-- The commands that are handled with the session, if any are given. -/
def stateful (r : Reading) : List String :=
  match r.valuesOf .stateful with
  | [] => Code.Conventions.default.stateful
  | values => values.flatMap commaParts

/-- The decisions that were read. -/
def config (r : Reading) : Code.Config where
  runtime := (r.value? .runtime).getD Code.Config.default.runtime
  maxTypeSize := ((r.value? .maxTypeSize).bind (Decimal.natural? UInt64.size)).getD
    Code.Config.default.maxTypeSize
  conventions := ⟨(r.value? .asyncMark).getD Code.Conventions.default.asyncMark, r.stateful⟩

/-- The job that was read, once all arguments are. -/
def finish (r : Reading) : Except Stop Job :=
  match r.pending, r.targets with
  | some setting, _ => .error (.missingValue setting)
  | none, [] => .error .noTarget
  | none, [target] => .ok ⟨target, r.value? .input, r.value? .output, r.config⟩
  | none, _ => .error .severalTargets

end Reading

/-- The job that some arguments ask for. -/
def Job.ofArguments (arguments : List String) : Except Stop Job := do
  (← arguments.foldlM Reading.argument .start).finish

/-! ### Wording -/

/-- The long name of a setting, as it is written. -/
def Setting.name (setting : Setting) : String :=
  match settings.find? (·.2 == setting) with
  | some (name, _) => "--" ++ name
  | none => ""

/-- The long name of a switch, as it is written. -/
def Switch.name (switch : Switch) : String :=
  match switches.find? (·.2 == switch) with
  | some (name, _) => "--" ++ name
  | none => ""

/-- Why arguments are refused, in words; nothing if they only ask for help. -/
def Stop.message : Stop → String
  | .help => ""
  | .unexpected argument => s!"unexpected argument '{argument}' found"
  | .missingValue setting => s!"a value is required for '{setting.name}'"
  | .unwantedValue switch => s!"no value is wanted for '{switch.name}'"
  | .badValue setting value => s!"invalid value '{value}' for '{setting.name}'"
  | .repeatedSwitch switch => s!"the argument '{switch.name}' cannot be used multiple times"
  | .repeatedSetting setting => s!"the argument '{setting.name}' cannot be used multiple times"
  | .noTarget => "one of the artifacts or --check is required"
  | .severalTargets => "only one of the artifacts or --check can be used"

/-- How the arguments are written. -/
def usage : String :=
  "Usage: bqapi <" ++ "|".intercalate (Target.every.map ("--" ++ ·.name)) ++ "> " ++
    " ".intercalate (settings.map fun (name, _) => s!"[--{name} <value>]")

end RpcSchema.CommandLine
