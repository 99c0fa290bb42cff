import TernaryGossip.Command.Basic
import TernaryGossip.Command.Error
import TernaryGossip.Gossip.ConfigText
import TernaryGossip.Text.Utf8

/-!
# Settings of a run

    The settings of a node are read from a file, and what the operator gives
    on the command line takes the place of what stands there.  Without a
    file the settings are the standard ones, unless the operator named the
    file.  At the end each probability has to be one.
-/

namespace TernaryGossip

/-- What is found under the name of a file. -/
inductive FileContent
  /-- Nothing. -/
  | absent
  /-- Something that cannot be read. -/
  | unreadable
  /-- A file. -/
  | bytes (content : Bytes)
  deriving DecidableEq, Repr

/-- The path of a name in a directory. -/
def pathIn (directory name : String) : String :=
  if directory.toList.getLast? = some '/' then directory ++ name else directory ++ "/" ++ name

/-- The name of the settings file in a data directory. -/
def settingsFileName : String := "gossip.json"

namespace GossipConfig

/-- The first probability that is none, and the name of its setting. -/
def firstImproper? (c : GossipConfig) : Option (String × Binary64) :=
  [ ("p_drop_transaction", c.dropChance),
    ("p_select_milestone", c.selectMilestoneChance),
    ("p_send_milestone", c.sendMilestoneChance) ].find? fun p => !p.2.isProbability

end GossipConfig

namespace RunOptions

/-- The path of the settings file. -/
def settingsPath (o : RunOptions) : String := o.config.getD (pathIn o.dataDir settingsFileName)

/-- The settings of the file. -/
def fileSettings (o : RunOptions) : FileContent → Except CommandError GossipConfig
  | .absent =>
      if o.config.isSome then .error (.missingSettings o.settingsPath) else .ok .standard
  | .unreadable => .error (.unreadableSettings o.settingsPath)
  | .bytes content =>
      match Utf8.read content with
      | .error _ => .error (.unreadableSettings o.settingsPath)
      | .ok text =>
          match GossipConfig.ofText? text with
          | none => .error (.invalidSettings o.settingsPath)
          | some c => .ok c

/-- The settings with those of the command line put in their place. -/
def override (o : RunOptions) (c : GossipConfig) : GossipConfig :=
  { c with
    neighbors := if o.neighbors.isEmpty then c.neighbors else o.neighbors
    dropChance := o.dropChance.getD c.dropChance
    selectMilestoneChance := o.selectMilestoneChance.getD c.selectMilestoneChance
    sendMilestoneChance := o.sendMilestoneChance.getD c.sendMilestoneChance
    permissive := c.permissive || o.permissive }

/-- The settings of a run. -/
def settings (o : RunOptions) (found : FileContent) : Except CommandError GossipConfig := do
  let c := o.override (← o.fileSettings found)
  match c.firstImproper? with
  | some (setting, value) => throw (.notProbability setting value)
  | none => return c

end RunOptions

end TernaryGossip
