import TernaryGossip.Number.Shortest
import TernaryGossip.Text.Quoted

/-!
# Why a command fails

    A command ends at its first error, which is told in one line.
-/

namespace TernaryGossip

/-- Why a command fails. -/
inductive CommandError
  /-- The data directory is not there and cannot be made. -/
  | dataDirectory (path : String)
  /-- The settings file cannot be read. -/
  | unreadableSettings (path : String)
  /-- The content of the settings file is no settings. -/
  | invalidSettings (path : String)
  /-- The settings file that was named is not there. -/
  | missingSettings (path : String)
  /-- The settings file is there already. -/
  | settingsExist (path : String)
  /-- The settings file cannot be written. -/
  | unwritableSettings (path : String)
  /-- A probability is not between 0 and 1. -/
  | notProbability (setting : String) (value : Binary64)
  /-- The database cannot be opened. -/
  | database (path : String)
  /-- The store cannot begin work. -/
  | storeStart
  /-- The tips cannot be loaded. -/
  | tips
  /-- The latest milestone cannot be loaded. -/
  | latestMilestone
  /-- The port for packets is in use. -/
  | gossipPort (port : UInt16)
  /-- The port of the API is in use. -/
  | apiPort (port : UInt16)
  /-- The port of the metrics is in use. -/
  | metricsPort (port : UInt16)
  /-- The store cannot end its work. -/
  | storeStop
  /-- A URL cannot be read. -/
  | invalidUrl (url : String)
  /-- A URL has a scheme that is not supported. -/
  | unsupportedScheme (scheme : String)
  /-- A URL has no host. -/
  | missingHost
  /-- Nobody answers at an address. -/
  | unreachable (address : String)
  deriving DecidableEq, Repr

namespace CommandError

/-- The address of a port on all networks. -/
def anywhere (port : UInt16) : String := "0.0.0.0:" ++ toString port.toNat

/-- The text shown for an error. -/
def message : CommandError → String
  | .dataDirectory path => "failed to create data directory: " ++ path
  | .unreadableSettings path => "failed to read " ++ path
  | .invalidSettings path => "invalid gossip config in " ++ path
  | .missingSettings path => "config file not found: " ++ path
  | .settingsExist path => path ++ " already exists (use --force to overwrite)"
  | .unwritableSettings path => "failed to write " ++ path
  | .notProbability setting value => setting ++ " must be between 0 and 1, got " ++ value.text
  | .database path => "failed to open database at " ++ path
  | .storeStart => "failed to initialize storage"
  | .tips => "failed to load tips"
  | .latestMilestone => "failed to load latest milestone"
  | .gossipPort port => "failed to bind gossip socket on " ++ anywhere port
  | .apiPort port => "failed to bind API listener on " ++ anywhere port
  | .metricsPort port => "failed to bind metrics listener on " ++ anywhere port
  | .storeStop => "failed to shut down storage"
  | .invalidUrl url => "invalid URL: " ++ url
  | .unsupportedScheme scheme =>
      "unsupported scheme " ++ Text.quoted scheme ++ ", only http is supported"
  | .missingHost => "missing host in URL"
  | .unreachable address => "failed to connect to " ++ address

end CommandError

end TernaryGossip
