import TernaryGossip.Text.Quoted

/-!
# What a node knows about a transaction

    The payload of a transaction never changes.  What a node learns about it
    afterwards is kept beside it: whether the payload is known at all, two
    marks, the height, the time and sender of its arrival, and a validity
    number.
-/

namespace TernaryGossip

/-- How much is known about a hash. -/
inductive Knowledge
  /-- Something refers to the hash, but its payload has not arrived. -/
  | prefilled
  /-- The payload is known. -/
  | filled
  /-- The null hash: no payload will ever arrive. -/
  | nonexistent
  deriving DecidableEq, Repr

/-- The name of a state of knowledge. -/
def Knowledge.name : Knowledge → String
  | .prefilled => "Prefilled"
  | .filled => "Filled"
  | .nonexistent => "Nonexistent"

/-- Facts about a transaction that are not part of its payload. -/
structure Metadata where
  /-- Whether the payload is known. -/
  knowledge : Knowledge
  /-- The transaction and all its ancestors are known. -/
  solid : Bool
  /-- The transaction is confirmed. -/
  confirmed : Bool
  /-- The distance to the null hash along the trunk; zero if unknown. -/
  height : UInt64
  /-- When the payload arrived, in milliseconds since 1970. -/
  arrival : Int64
  /-- The address that the payload arrived from. -/
  sender : String
  /-- A number for the use of higher layers. -/
  validity : Int32
  deriving DecidableEq, Repr

namespace Metadata

/-- Nothing but the state of knowledge. -/
def fresh (knowledge : Knowledge) : Metadata :=
  { knowledge, solid := false, confirmed := false, height := 0, arrival := 0, sender := "",
    validity := 0 }

/-- The text of metadata in messages. -/
def text (m : Metadata) : String :=
  "TransactionMetadata \x7b tx_type: " ++ m.knowledge.name ++ ", solid: " ++ toString m.solid ++
    ", confirmed: " ++ toString m.confirmed ++ ", height: " ++ toString m.height.toNat ++
    ", arrival_time: " ++ toString m.arrival.toInt ++ ", sender: " ++ Text.quoted m.sender ++
    ", validity: " ++ toString m.validity.toInt ++ " \x7d"

end Metadata

/-! ## Facts -/

/-- One thing that a node learns about a transaction. -/
inductive Fact
  /-- The transaction and all its ancestors are known, or not. -/
  | solid (value : Bool)
  /-- The transaction is confirmed, or not. -/
  | confirmed (value : Bool)
  /-- The distance to the null hash along the trunk. -/
  | height (value : UInt64)
  /-- When the payload arrived. -/
  | arrival (value : Int64)
  /-- Where the payload came from. -/
  | sender (value : String)
  /-- The validity number. -/
  | validity (value : Int32)
  deriving DecidableEq, Repr

/-- The metadata once a fact is learned. -/
def Metadata.learn (m : Metadata) : Fact → Metadata
  | .solid value => { m with solid := value }
  | .confirmed value => { m with confirmed := value }
  | .height value => { m with height := value }
  | .arrival value => { m with arrival := value }
  | .sender value => { m with sender := value }
  | .validity value => { m with validity := value }

/-- Learning the fact would change nothing. -/
def Metadata.knows (m : Metadata) (f : Fact) : Bool := m.learn f == m

end TernaryGossip
