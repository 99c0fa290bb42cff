import TernaryGossip.Command.Basic
import TernaryGossip.Json.Basic
import TernaryGossip.Number.Shortest

/-!
# Commands as records

    A command can be told as a JSON object: its name, and each of its options
    with the value that holds.  An option without a value is null.
-/

namespace TernaryGossip.Command

/-- A text that may be missing. -/
def optionalText (s : Option String) : Json := (s.map Json.text).getD .null

/-- A probability that may be missing. -/
def optionalChance (x : Option Binary64) : Json := (x.map fun x => .number x.jsonText).getD .null

/-- The name of a command and its options. -/
def members : Command → List (String × Json)
  | .run o =>
      [ ("command", .text "run"),
        ("config", optionalText o.config),
        ("data_dir", .text o.dataDir),
        ("storage", .text o.storage.name),
        ("udp_port", .natural o.udpPort.toNat),
        ("api_port", .natural o.apiPort.toNat),
        ("metrics_port", .natural o.metricsPort.toNat),
        ("neighbors", .array (o.neighbors.map Json.text)),
        ("p_drop_transaction", optionalChance o.dropChance),
        ("p_select_milestone", optionalChance o.selectMilestoneChance),
        ("p_send_milestone", optionalChance o.sendMilestoneChance),
        ("permissive", .bool o.permissive),
        ("min_weight_magnitude", .natural o.minWeight.toNat),
        ("log_format", .text o.logFormat.name) ]
  | .init o =>
      [ ("command", .text "init"),
        ("data_dir", .text o.dataDir),
        ("neighbors", .array (o.neighbors.map Json.text)),
        ("force", .bool o.force) ]
  | .status url => [("command", .text "status"), ("api_url", .text url)]
  | .version => [("command", .text "version")]

/-- A command as a JSON object. -/
def toJson (c : Command) : Json := .record c.members

end TernaryGossip.Command
