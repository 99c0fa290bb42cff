import TernaryGossip.Command.Arguments
import TernaryGossip.Number.Reading

/-!
# Commands

    The program has four commands: to run a node, to make its data
    directory, to ask a running node for its status, and to tell the version.
    An option that is not given has its default.
-/

namespace TernaryGossip

/-- Where a node keeps its records. -/
inductive Backend
  /-- In a database. -/
  | database
  /-- In memory, with a backup when the node stops. -/
  | memory
  deriving DecidableEq, Repr

/-- The name of a backend. -/
def Backend.name : Backend → String
  | .database => "sled"
  | .memory => "memory"

/-- The form of log lines. -/
inductive LogFormat
  /-- For people. -/
  | pretty
  /-- For programs. -/
  | json
  deriving DecidableEq, Repr

/-- The name of a form of log lines. -/
def LogFormat.name : LogFormat → String
  | .pretty => "pretty"
  | .json => "json"

/-- The options of a running node. -/
structure RunOptions where
  /-- The settings file, if it is not the one in the data directory. -/
  config : Option String
  /-- The data directory. -/
  dataDir : String
  /-- Where records are kept. -/
  storage : Backend
  /-- The port for packets. -/
  udpPort : UInt16
  /-- The port of the API. -/
  apiPort : UInt16
  /-- The port of the metrics. -/
  metricsPort : UInt16
  /-- The neighbors, in place of those of the settings file. -/
  neighbors : List String
  /-- A probability in place of that of the settings file. -/
  dropChance : Option Binary64
  /-- A probability in place of that of the settings file. -/
  selectMilestoneChance : Option Binary64
  /-- A probability in place of that of the settings file. -/
  sendMilestoneChance : Option Binary64
  /-- Unknown senders become neighbors. -/
  permissive : Bool
  /-- The proof of work that a payload needs. -/
  minWeight : UInt32
  /-- The form of log lines. -/
  logFormat : LogFormat
  deriving DecidableEq, Repr

/-- The options of a new data directory. -/
structure InitOptions where
  /-- The data directory. -/
  dataDir : String
  /-- The neighbors of the settings file. -/
  neighbors : List String
  /-- A settings file that is there is overwritten. -/
  force : Bool
  deriving DecidableEq, Repr

/-- A command. -/
inductive Command
  /-- To run a node. -/
  | run (options : RunOptions)
  /-- To make a data directory. -/
  | init (options : InitOptions)
  /-- To ask a running node for its status. -/
  | status (apiUrl : String)
  /-- To tell the version. -/
  | version
  deriving DecidableEq, Repr

namespace Command

/-! ## Values -/

/-- Nothing is wrong with a value. -/
def anyText (_ : String) : Option ArgumentError := none

/-- A path is not empty. -/
def path (s : String) : Option ArgumentError := if s = "" then some .invalidValue else none

/-- A value is one of several words. -/
def oneOf (words : List String) (s : String) : Option ArgumentError :=
  if s ∈ words then none else some .invalidValue

/-- The whole number of a text, if it is not negative and below `bound`. -/
def numberBelow? (bound : Nat) (s : String) : Option Nat :=
  match Number.integer? s with
  | some n => if 0 ≤ n ∧ n < bound then some n.toNat else none
  | none => none

/-- A value is a whole number below `bound`. -/
def below (bound : Nat) (s : String) : Option ArgumentError :=
  if (numberBelow? bound s).isSome then none else some .valueValidation

/-- A value is a binary number. -/
def binary (s : String) : Option ArgumentError :=
  if (Number.binary64? s).isSome then none else some .valueValidation

/-! ## Options -/

/-- The options of a running node. -/
def runSpecs : List OptionSpec :=
  [ ⟨"config", some 'c', .single, path⟩,
    ⟨"data-dir", some 'd', .single, path⟩,
    ⟨"storage", none, .single, oneOf [Backend.database.name, Backend.memory.name]⟩,
    ⟨"udp-port", none, .single, below 65536⟩,
    ⟨"api-port", none, .single, below 65536⟩,
    ⟨"metrics-port", none, .single, below 65536⟩,
    ⟨"neighbor", some 'n', .repeated, anyText⟩,
    ⟨"p-drop-transaction", none, .single, binary⟩,
    ⟨"p-select-milestone", none, .single, binary⟩,
    ⟨"p-send-milestone", none, .single, binary⟩,
    ⟨"permissive", none, .flag, anyText⟩,
    ⟨"min-weight-magnitude", none, .single, below 4294967296⟩,
    ⟨"log-format", none, .single, oneOf [LogFormat.pretty.name, LogFormat.json.name]⟩ ]

/-- The options of a new data directory. -/
def initSpecs : List OptionSpec :=
  [ ⟨"data-dir", some 'd', .single, path⟩,
    ⟨"neighbor", some 'n', .repeated, anyText⟩,
    ⟨"force", none, .flag, anyText⟩ ]

/-- The options of a status request. -/
def statusSpecs : List OptionSpec := [⟨"api-url", none, .single, anyText⟩]

/-- The data directory unless another one is named. -/
def defaultDataDir : String := "./tangle-data"

/-- The API of a node on this machine. -/
def defaultApiUrl : String := "http://127.0.0.1:14265"

/-- The value of an option. -/
def value? (found : Arguments.Found) (long : String) : Option String :=
  (Arguments.values found long).head?

/-- The value of an option that is a number. -/
def numberOr (found : Arguments.Found) (long : String) (bound default : Nat) : Nat :=
  ((value? found long).bind (numberBelow? bound)).getD default

/-- The value of an option that is a binary number. -/
def binaryValue? (found : Arguments.Found) (long : String) : Option Binary64 :=
  (value? found long).bind Number.binary64?

/-- The options of a running node, with their defaults. -/
def runOptions (found : Arguments.Found) : RunOptions :=
  { config := value? found "config"
    dataDir := (value? found "data-dir").getD defaultDataDir
    storage := if value? found "storage" = some Backend.memory.name then .memory else .database
    udpPort := UInt16.ofNat (numberOr found "udp-port" 65536 14600)
    apiPort := UInt16.ofNat (numberOr found "api-port" 65536 14265)
    metricsPort := UInt16.ofNat (numberOr found "metrics-port" 65536 14266)
    neighbors := Arguments.values found "neighbor"
    dropChance := binaryValue? found "p-drop-transaction"
    selectMilestoneChance := binaryValue? found "p-select-milestone"
    sendMilestoneChance := binaryValue? found "p-send-milestone"
    permissive := Arguments.has found "permissive"
    minWeight := UInt32.ofNat (numberOr found "min-weight-magnitude" 4294967296 0)
    logFormat := if value? found "log-format" = some LogFormat.json.name then .json else .pretty }

/-- The options of a new data directory, with their defaults. -/
def initOptions (found : Arguments.Found) : InitOptions :=
  { dataDir := (value? found "data-dir").getD defaultDataDir
    neighbors := Arguments.values found "neighbor"
    force := Arguments.has found "force" }

/-! ## Commands -/

/-- The words that name commands. -/
def names : List String := ["run", "init", "status", "version", "help"]

/-- The command of a name with its arguments. -/
def named? (name : String) (args : List String) : Option (Except ArgumentError Command) :=
  match name with
  | "run" => some ((Arguments.parse runSpecs args).map fun found => .run (runOptions found))
  | "init" => some ((Arguments.parse initSpecs args).map fun found => .init (initOptions found))
  | "status" =>
      some ((Arguments.parse statusSpecs args).map fun found =>
        .status ((value? found "api-url").getD defaultApiUrl))
  | "version" => some ((Arguments.parse [] args).map fun _ => .version)
  | _ => none

/-- Asking for help about a command. -/
def help : List String → ArgumentError
  | [] => .displayHelp
  | [name] => if name ∈ names then .displayHelp else .invalidSubcommand
  | _ => .invalidSubcommand

/-- The command of the arguments of the program. -/
def parse (args : List String) : Except ArgumentError Command :=
  match args with
  | [] => .error .noCommand
  | arg :: rest =>
      match named? arg rest with
      | some command => command
      | none =>
          if arg = "help" then .error (help rest)
          else
            match arg.toList with
            | ['-', '-'] =>
                match rest with
                | [] => .error .noCommand
                | name :: _ => .error (if name ∈ names then .unknownArgument else .invalidSubcommand)
            | '-' :: '-' :: cs =>
                (Arguments.long [] ([], none) cs).bind fun _ => .error .unknownArgument
            | '-' :: c :: cs =>
                (Arguments.short [] ([], none) (c :: cs)).bind fun _ => .error .unknownArgument
            | _ => .error .invalidSubcommand

end Command

end TernaryGossip
