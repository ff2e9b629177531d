import ToolGateway.Config.Basic
import ToolGateway.Log

/-!
# The command line

The arguments name a task by a path of subcommands. Options have a value, behind a sign of equality
or in the next argument, and stand behind a subcommand that knows them; the log format is known
everywhere, and where it is given at several places the last place counts. An option must not be
given twice at one place.

Arguments are read from left to right and the first that asks for help, asks for the version or
cannot be read settles what becomes of them. An option whose value is in the next argument is
checked late: when another option or such a question follows at the same place, or else when all
that is below that place has been read. So help about a subcommand is given even if the option
before it is no good.
-/

namespace ToolGateway.Command

/-- What can be done. -/
inductive Task where
  /-- Serve until told to stop. -/
  | serve (config : Option String)
  /-- Tell whether a configuration is valid. -/
  | validate (config : Option String)
  /-- Seal a secret under the key in an environment variable. -/
  | encrypt (keyVariable : String)
  deriving DecidableEq, Repr

/-- What the arguments ask for. -/
inductive Invocation where
  | run (format : Log.Format) (task : Task)
  | help
  | version
  /-- They cannot be read. -/
  | misuse
  deriving DecidableEq, Repr

/-! ## What may stand where -/

/-- A place in the tree of subcommands. -/
inductive Place where
  | root
  | config
  | credential
  | serve
  | validate
  | encrypt
  deriving DecidableEq, Repr

/-- An option. -/
inductive Setting where
  | logFormat
  | configPath
  | keyVariable
  deriving DecidableEq, Repr

/-- The name of an option. -/
def Setting.name : Setting → String
  | .logFormat => "log-format"
  | .configPath => "config"
  | .keyVariable => "key-env"

/-- Whether an option may have a value. -/
def Setting.accepts (setting : Setting) (value : String) : Bool :=
  match setting with
  | .logFormat => (Log.Format.named.lookup value).isSome
  | .configPath => value ≠ ""
  | .keyVariable => true

namespace Place

/-- The subcommands of a place. -/
def below : Place → List (String × Place)
  | .root => [("serve", .serve), ("config", .config), ("credential", .credential)]
  | .config => [("validate", .validate)]
  | .credential => [("encrypt", .encrypt)]
  | .serve => []
  | .validate => []
  | .encrypt => []

/-- The options that a place knows. -/
def settings : Place → List Setting
  | .root => [.logFormat]
  | .config => [.logFormat]
  | .credential => [.logFormat]
  | .serve => [.logFormat, .configPath]
  | .validate => [.logFormat, .configPath]
  | .encrypt => [.logFormat, .keyVariable]

end Place

/-! ## Arguments -/

/-- What an argument is by its form. -/
inductive Word where
  /-- The name of a subcommand, or a value. -/
  | plain (name : String)
  /-- An option, with its value if it is in the same argument. -/
  | option (name : String) (value : Option String)
  | help
  | version
  /-- No options follow. -/
  | endOfOptions
  | unknown
  deriving DecidableEq, Repr

/-- A long option with or without its value. -/
def Word.long (name : String) (value : Option String) : Word :=
  match name, value with
  | "help", none => .help
  | "version", none => .version
  | name, value => .option name value

/-- The word of an argument. -/
def Word.ofArgument (argument : String) : Word :=
  match argument.toList with
  | ['-', '-'] => .endOfOptions
  | '-' :: '-' :: cs =>
    let value :=
      match cs.dropWhile (· ≠ '=') with
      | [] => none
      | _ :: value => some (String.ofList value)
    .long (String.ofList (cs.takeWhile (· ≠ '='))) value
  | '-' :: 'h' :: _ => .help
  | '-' :: 'V' :: _ => .version
  | '-' :: _ :: _ => .unknown
  | _ => .plain argument

/-! ## Reading -/

/-- What has been read so far. -/
structure Progress where
  place : Place
  /-- The options given at this place. -/
  here : List (Setting × String)
  /-- The last option, if it is still to be checked. Its value is missing until the next argument is
  read. -/
  unchecked : Option (Setting × Option String)
  /-- The options given at the places before, the last place first. -/
  before : List (Setting × String)
  /-- Whether the last options of the places before are good. -/
  isSound : Bool
  deriving DecidableEq, Repr

namespace Progress

/-- Nothing yet. -/
def start : Progress := ⟨.root, [], none, [], true⟩

/-- Takes an option and its value. -/
def give? (p : Progress) (setting : Setting) (value : String) : Option Progress :=
  if (p.here.lookup setting).isNone && setting.accepts value then
    some { p with here := (setting, value) :: p.here }
  else none

/-- Checks the last option. -/
def check? (p : Progress) : Option Progress :=
  match p.unchecked with
  | none => some p
  | some (setting, some value) => { p with unchecked := none }.give? setting value
  | some (_, none) => none

/-- Takes an option by its name. -/
def takeOption? (p : Progress) (name : String) (value : Option String) : Option Progress := do
  let setting ← p.place.settings.find? (·.name == name)
  let p ← p.check?
  match value with
  | some value => p.give? setting value
  | none => some { p with unchecked := some (setting, none) }

/-- The option whose value is to come. -/
def waiting? (p : Progress) : Option Setting :=
  match p.unchecked with
  | some (setting, none) => some setting
  | _ => none

/-- Goes down to a subcommand. -/
def enter? (p : Progress) (name : String) : Option Progress :=
  (p.place.below.lookup name).map fun place =>
    match p.check? with
    | some p => ⟨place, [], none, p.here ++ p.before, p.isSound⟩
    | none => ⟨place, [], none, p.here ++ p.before, false⟩

/-- Takes the name of a subcommand, or the value of the last option. -/
def takePlain? (p : Progress) (text : String) : Option Progress :=
  match p.waiting? with
  | some setting => some { p with unchecked := some (setting, some text) }
  | none => p.enter? text

/-- The value of an option. -/
def value? (p : Progress) (setting : Setting) : Option String :=
  (p.here ++ p.before).lookup setting

/-- The format of log lines. -/
def format (p : Progress) : Log.Format :=
  ((p.value? .logFormat).bind fun name => Log.Format.named.lookup name).getD .text

/-- The task of a place. -/
def task? (p : Progress) : Option Task :=
  match p.place with
  | .serve => some (.serve (p.value? .configPath))
  | .validate => some (.validate (p.value? .configPath))
  | .encrypt => some (.encrypt ((p.value? .keyVariable).getD Config.standardKeyVariable))
  | .root => none
  | .config => none
  | .credential => none

/-- The end of the arguments: there must be a task, and every option must be good. -/
def finish (p : Progress) : Invocation :=
  match p.check? with
  | some p =>
    match p.task? with
    | some task => if p.isSound then .run p.format task else .misuse
    | none => .misuse
  | none => .misuse

/-- Reads arguments. -/
def read (p : Progress) : List String → Invocation
  | [] => p.finish
  | argument :: rest =>
    match Word.ofArgument argument with
    | .help => if p.check?.isSome then .help else .misuse
    | .version => if p.place = .root ∧ p.check?.isSome then .version else .misuse
    | .endOfOptions => if rest = [] then p.finish else .misuse
    | .unknown => .misuse
    | .option name value =>
      match p.takeOption? name value with
      | some p => p.read rest
      | none => .misuse
    | .plain text =>
      match p.takePlain? text with
      | some p => p.read rest
      | none => .misuse

end Progress

/-- What arguments ask for. -/
def Invocation.ofArguments (arguments : List String) : Invocation := Progress.start.read arguments

end ToolGateway.Command
