import TernaryGossip.Command.DataDirectory

/-!
# New data directories

    A new data directory holds a settings file with the neighbors that were
    given and otherwise standard settings.  A settings file that is there
    already is kept unless the operator insists.
-/

namespace TernaryGossip.InitOptions

/-- The path of the settings file. -/
def settingsPath (o : InitOptions) : String := pathIn o.dataDir settingsFileName

/-- The text of the settings file. -/
def settingsText (o : InitOptions) : String :=
  { GossipConfig.standard with neighbors := o.neighbors }.fileText

/-- What is printed when the directory was made. -/
def report (o : InitOptions) : String :=
  "Node initialized successfully.\n" ++
    "  Data directory : " ++ o.dataDir ++ "\n" ++
    "  Gossip config  : " ++ o.settingsPath ++ "\n" ++
    "  Neighbors      : " ++ toString o.neighbors.length ++ "\n"

/-- Makes a data directory, or writes new settings into one that is there. -/
def apply (o : InitOptions) (d : DataDirectory) : Except CommandError DataDirectory :=
  if !d.usable then .error (.dataDirectory o.dataDir)
  else if d.settings ≠ .absent ∧ !o.force then .error (.settingsExist o.settingsPath)
  else if d.settings = .unreadable then .error (.unwritableSettings o.settingsPath)
  else .ok { d with settings := .bytes (Bytes.ofText o.settingsText) }

end TernaryGossip.InitOptions
