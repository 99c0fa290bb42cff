import TernaryGossip.Command.Settings
import TernaryGossip.Store.Provider

/-!
# Data directories

    What a node leaves behind when it stops and finds again when it starts
    stands in its data directory: the settings file, the backup of the
    records kept in memory, and the database.  The operator may have put
    something else where one of them belongs.
-/

namespace TernaryGossip

/-- The content of a data directory. -/
structure DataDirectory where
  /-- The directory is there or can be made. -/
  usable : Bool
  /-- What stands at the name of the settings file. -/
  settings : FileContent
  /-- The file of the backup. -/
  backup : Backup
  /-- The records of the database; `none` if it cannot be opened. -/
  database : Option Tables

namespace DataDirectory

/-- The name of the database. -/
def databaseName : String := "db"

/-- The name of the backup. -/
def backupName : String := "memory.snapshot"

/-- A directory that holds nothing but some files. -/
def ofFiles (usable : Bool) (files : List (String × Bytes)) : DataDirectory :=
  { usable
    settings := ((files.lookup settingsFileName).map FileContent.bytes).getD .absent
    backup := ((files.lookup backupName).map Backup.file).getD .absent
    database := if (files.lookup databaseName).isSome then none else some .empty }

/-- The provider of a backend; `none` if it cannot be opened. -/
def provider? (d : DataDirectory) : Backend → Option Provider
  | .memory => some (.memoryWithBackup d.backup)
  | .database => d.database.map fun tables => { Provider.database with tables }

/-- The directory once a provider that was opened from it is given up. -/
def leave (d : DataDirectory) (p : Provider) : DataDirectory :=
  match p.backup with
  | some backup => { d with backup }
  | none => { d with database := some p.tables }

end DataDirectory

end TernaryGossip
