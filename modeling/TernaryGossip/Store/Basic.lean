import TernaryGossip.Store.Key
import TernaryGossip.Store.Provider

/-!
# Stores

    A store is a list of providers.  Reading asks them in order and takes
    the first answer that is one: the first record found, the first table
    that is not empty.  A record exists if any provider has it.  Writing
    changes every provider in order and reports what the first one said.

    The first provider that fails ends an operation with its error; changes
    made to the providers before it stay.  Only stopping goes on and tells
    the first error at the end.
-/

namespace TernaryGossip

/-- A list of providers. -/
structure Store where
  /-- The providers, in the order in which they are asked. -/
  providers : List Provider

namespace Store

instance : Inhabited Store := ⟨⟨[]⟩⟩

/-- The text of a store in messages. -/
def text (s : Store) : String :=
  "Tangle \x7b providers: [" ++
    String.intercalate ", " (s.providers.map fun p => Text.quoted p.name) ++ "] \x7d"

/-! ## Asking providers in order -/

/-- The first answer that is one. -/
def firstSome {α : Type} (ask : Provider → Except StorageError (Option α)) :
    List Provider → Except StorageError (Option α)
  | [] => .ok none
  | p :: ps =>
      match ask p with
      | .error e => .error e
      | .ok (some a) => .ok (some a)
      | .ok none => firstSome ask ps

/-- Some provider says yes. -/
def anyTrue (ask : Provider → Except StorageError Bool) :
    List Provider → Except StorageError Bool
  | [] => .ok false
  | p :: ps =>
      match ask p with
      | .error e => .error e
      | .ok true => .ok true
      | .ok false => anyTrue ask ps

/-- Changes every provider; the first one's answer, or the first error. -/
def everywhere {α : Type} (change : Provider → Except StorageError α × Provider) :
    List Provider → Except StorageError (Option α) × List Provider
  | [] => (.ok none, [])
  | p :: ps =>
      match change p with
      | (.error e, p) => (.error e, p :: ps)
      | (.ok a, p) =>
          let (rest, ps) := everywhere change ps
          (rest.map fun _ => some a, p :: ps)

/-- An operation on no providers fails. -/
def asking {α : Type} (s : Store) (answer : Except StorageError α) : Except StorageError α :=
  if s.providers.isEmpty then .error .noProviders else answer

/-- Changes every provider of a store. -/
def changing {α : Type} (s : Store) (change : Provider → Except StorageError α × Provider) :
    Except StorageError α × Store :=
  match everywhere change s.providers with
  | (.error e, ps) => (.error e, ⟨ps⟩)
  | (.ok none, ps) => (.error .noProviders, ⟨ps⟩)
  | (.ok (some a), ps) => (.ok a, ⟨ps⟩)

/-! ## Starting and stopping -/

/-- Starts every provider. -/
def start (s : Store) : Except StorageError Unit × Store := s.changing Provider.start

/-- Stops the providers, all of them; the first error. -/
def stopAll : List Provider → Except StorageError Unit × List Provider
  | [] => (.ok (), [])
  | p :: ps =>
      let (here, p) := p.stop
      let (later, ps) := stopAll ps
      (match here with | .error e => .error e | .ok () => later, p :: ps)

/-- Stops every provider. -/
def stop (s : Store) : Except StorageError Unit × Store :=
  let (result, ps) := stopAll s.providers
  (s.asking result, ⟨ps⟩)

/-! ## Reading -/

/-- The value under a key. -/
def get (s : Store) (part : Partition) (key : Bytes) : Except StorageError (Option Bytes) :=
  s.asking (firstSome (fun p => p.get part key) s.providers)

/-- The record with the least key. -/
def first (s : Store) (part : Partition) : Except StorageError (Option (Bytes × Bytes)) :=
  s.asking (firstSome (fun p => p.first part) s.providers)

/-- The record with the greatest key. -/
def last (s : Store) (part : Partition) : Except StorageError (Option (Bytes × Bytes)) :=
  s.asking (firstSome (fun p => p.last part) s.providers)

/-- The record with the least key above a key. -/
def next (s : Store) (part : Partition) (key : Bytes) :
    Except StorageError (Option (Bytes × Bytes)) :=
  s.asking (firstSome (fun p => p.next part key) s.providers)

/-- The record with the greatest key below a key. -/
def previous (s : Store) (part : Partition) (key : Bytes) :
    Except StorageError (Option (Bytes × Bytes)) :=
  s.asking (firstSome (fun p => p.previous part key) s.providers)

/-- A record is there. -/
def contains (s : Store) (part : Partition) (key : Bytes) : Except StorageError Bool :=
  s.asking (anyTrue (fun p => p.contains part key) s.providers)

/-- A record might be there. -/
def mayContain (s : Store) (part : Partition) (key : Bytes) : Except StorageError Bool :=
  s.asking (anyTrue (fun p => p.mayContain part key) s.providers)

/-- An answer counts only if it is not empty. -/
def unlessEmpty {α : Type} (isEmpty : α → Bool) (answer : Except StorageError α) :
    Except StorageError (Option α) :=
  answer.map fun a => if isEmpty a then none else some a

/-- The number of records. -/
def count (s : Store) (part : Partition) : Except StorageError Nat :=
  s.asking ((firstSome (fun p => unlessEmpty (· == 0) (p.count part)) s.providers).map (·.getD 0))

/-- The keys that begin with `start`, in order. -/
def keys (s : Store) (part : Partition) (start : Bytes) : Except StorageError (List Bytes) :=
  s.asking
    ((firstSome (fun p => unlessEmpty List.isEmpty (p.keys part start)) s.providers).map
      (·.getD []))

/-- The keys that nothing refers to, in order. -/
def unreferenced (s : Store) (part : Partition) : Except StorageError (List Bytes) :=
  s.asking
    ((firstSome (fun p => unlessEmpty List.isEmpty (p.unreferenced part)) s.providers).map
      (·.getD []))

/-! ## Writing -/

/-- Writes a record; says whether it was confirmed. -/
def save (s : Store) (part : Partition) (key value : Bytes) : Except StorageError Bool × Store :=
  s.changing fun p => p.save ⟨part, key, value⟩

/-- Writes several records. -/
def saveAll (s : Store) (rs : List Put) : Except StorageError Bool × Store :=
  s.changing fun p => p.saveAll rs

/-- Removes a record. -/
def delete (s : Store) (part : Partition) (key : Bytes) : Except StorageError Unit × Store :=
  s.changing fun p => p.delete part key

/-! ## Size -/

/-- The number of records in all providers together. -/
def totalSize (s : Store) (part : Partition) : Nat :=
  (s.providers.map fun p => (p.tables.table part).size).foldr (· + ·) 0

end Store

end TernaryGossip
