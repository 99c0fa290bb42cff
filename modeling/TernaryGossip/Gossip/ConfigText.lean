import TernaryGossip.Gossip.Config
import TernaryGossip.Json.Number
import TernaryGossip.Number.Shortest

/-!
# The settings file

    Settings are kept as a JSON object with one member per setting.  A member
    that is missing leaves its setting as it is by default; a member of
    another name is ignored, and one that stands there twice is refused.
    The settings may also be written as a list of their values in order,
    from which the last ones may be missing.
-/

namespace TernaryGossip.GossipConfig

/-- The settings in the order in which they are written. -/
def members (c : GossipConfig) : List (String × Json) :=
  [ ("neighbors", .array (c.neighbors.map Json.text)),
    ("p_drop_transaction", .number c.dropChance.jsonText),
    ("p_select_milestone", .number c.selectMilestoneChance.jsonText),
    ("p_send_milestone", .number c.sendMilestoneChance.jsonText),
    ("permissive", .bool c.permissive),
    ("broadcast_queue_size", .natural c.broadcastCapacity),
    ("receive_queue_size", .natural c.receiveCapacity),
    ("reply_queue_size", .natural c.replyCapacity),
    ("seen_hashes_cache_size", .natural c.seenHashesCapacity),
    ("seen_packets_cache_size", .natural c.seenPacketsCapacity),
    ("pause_between_transactions_ms", .natural c.pauseMillis),
    ("tip_request_interval_ms", .natural c.tipRequestMillis),
    ("dns_refresh_interval_ms", .natural c.nameRefreshMillis) ]

/-- The names of the settings, in order. -/
def names : List String := standard.members.map (·.1)

/-- The settings as a JSON value. -/
def toJson (c : GossipConfig) : Json := .record c.members

/-- The texts of a list of texts. -/
def texts? : Json → Option (List String)
  | .array items => items.mapM fun
      | .string s => s
      | _ => none
  | _ => none

/-- A truth value. -/
def truth? : Json → Option Bool
  | .bool b => some b
  | _ => none

/-- The settings with the setting of a name changed; a name that belongs to
no setting changes nothing. -/
def set? (c : GossipConfig) (name : String) (x : Json) : Option GossipConfig :=
  match name with
  | "neighbors" => (texts? x).map fun v => { c with neighbors := v }
  | "p_drop_transaction" => x.binary64?.map fun v => { c with dropChance := v }
  | "p_select_milestone" => x.binary64?.map fun v => { c with selectMilestoneChance := v }
  | "p_send_milestone" => x.binary64?.map fun v => { c with sendMilestoneChance := v }
  | "permissive" => (truth? x).map fun v => { c with permissive := v }
  | "broadcast_queue_size" => x.natural64?.map fun v => { c with broadcastCapacity := v }
  | "receive_queue_size" => x.natural64?.map fun v => { c with receiveCapacity := v }
  | "reply_queue_size" => x.natural64?.map fun v => { c with replyCapacity := v }
  | "seen_hashes_cache_size" => x.natural64?.map fun v => { c with seenHashesCapacity := v }
  | "seen_packets_cache_size" => x.natural64?.map fun v => { c with seenPacketsCapacity := v }
  | "pause_between_transactions_ms" => x.natural64?.map fun v => { c with pauseMillis := v }
  | "tip_request_interval_ms" => x.natural64?.map fun v => { c with tipRequestMillis := v }
  | "dns_refresh_interval_ms" => x.natural64?.map fun v => { c with nameRefreshMillis := v }
  | _ => some c

/-- The settings with several members read one after another. -/
def setAll? (c : GossipConfig) : List (String × Json) → Option GossipConfig
  | [] => some c
  | (name, x) :: rest => do
      let c ← c.set? name x
      c.setAll? rest

/-- Some setting is named twice. -/
def namedTwice (ms : List (String × Json)) : Bool :=
  names.any fun name => decide ((ms.filter (·.1 = name)).length > 1)

/-- The settings of a JSON value. -/
def ofJson? : Json → Option GossipConfig
  | .object ms => do
      let ms ← ms.mapM fun m => m.1.map fun name => (name, m.2)
      if namedTwice ms then none else standard.setAll? ms
  | .array items =>
      if items.length ≤ names.length then standard.setAll? (names.zip items) else none
  | _ => none

/-- The settings of a text. -/
def ofText? (s : String) : Option GossipConfig := Json.parse? s >>= ofJson?

/-- The text of the settings file. -/
def fileText (c : GossipConfig) : String := c.toJson.pretty

end TernaryGossip.GossipConfig
