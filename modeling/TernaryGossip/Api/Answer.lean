import TernaryGossip.Api.Route
import TernaryGossip.Api.Target
import TernaryGossip.Gossip.Stats
import TernaryGossip.Json.Basic
import TernaryGossip.Trit.Tryte

/-!
# Answers of the API

    The API tells what a node knows.  Reading a route changes nothing but
    the milestones that the node has seen.  Failures are answered by an
    object with one member that says what went wrong: a hash that is none is
    the client's fault, a payload that is not stored is not found, and an
    error of the store is the node's.
-/

namespace TernaryGossip.Api

/-- The content of an answer. -/
inductive Body
  /-- No content. -/
  | empty
  /-- A plain text. -/
  | plain (text : String)
  /-- A JSON value. -/
  | json (value : Json)

/-- An answer. -/
structure Response where
  /-- The status code. -/
  status : Nat
  /-- The content. -/
  body : Body

namespace Response

/-- The value that was asked for. -/
def ok (value : Json) : Response := ⟨200, .json value⟩

/-- What went wrong. -/
def failure (status : Nat) (message : String) : Response :=
  ⟨status, .json (.record [("error", .text message)])⟩

/-- The store failed. -/
def storeFailed (e : StorageError) : Response := failure 500 ("Storage error: " ++ e.message)

/-- An answer without its content. -/
def bare (r : Response) : Response := { r with body := .empty }

end Response

/-! ## Values -/

/-- The name of a transport in answers. -/
def connectionType (k : TransportKind) : Json := .text k.caption

/-- A milestone. -/
def milestoneJson (m : Milestone) : Json :=
  .record [("index", .natural m.index.toNat), ("hash", .text m.hash.toTrytes)]

/-- The figures of a node. -/
def statsJson (s : GossipStats) : Json :=
  .record
    [ ("neighbors", .natural s.neighbors),
      ("receive_queue", .natural s.received),
      ("broadcast_queue", .natural s.outgoing),
      ("reply_queue", .natural s.requests),
      ("pending_requests", .natural s.wanted),
      ("seen_packet_hits", .natural s.hits),
      ("seen_packet_misses", .natural s.misses) ]

/-- A neighbor and its traffic. -/
def neighborJson (m : Neighbor × Tally) : Json :=
  .record
    [ ("address", .text m.1.address.text),
      ("connection_type", connectionType m.1.kind),
      ("configured", .bool m.1.configured),
      ("all_transactions", .natural m.2.all),
      ("new_transactions", .natural m.2.fresh),
      ("invalid_transactions", .natural m.2.invalid),
      ("random_transaction_requests", .natural m.2.random) ]

/-- The state of a node.  A store that cannot count its transactions is
reported as having none. -/
def statusJson (n : Node) (version time : String) : Json :=
  .record
    [ ("version", .text version),
      ("transactions", .natural ((Transaction.storedCount n.store).toOption.getD 0)),
      ("tips", .natural n.tips.size),
      ("solid_tips", .natural n.tips.solid.length),
      ("latest_milestone", (n.milestones.latest.map milestoneJson).getD .null),
      ("gossip", statsJson n.stats),
      ("timestamp", .text time) ]

/-- The tips of a node. -/
def tipsJson (t : Tips) : Json :=
  .record
    [ ("count", .natural t.size),
      ("hashes", .array (t.toList.map fun h => .text h.toTrytes)) ]

/-- A transaction with its trytes and its approvers. -/
def transactionJson (t : Transaction) (trytes : String) (approvers : List Hash) : Json :=
  .record
    [ ("hash", .text t.hash.toTrytes),
      ("trytes", .text trytes),
      ("address", .text t.address.toTrytes),
      ("value", .integer t.value),
      ("tag", .text t.tag.toTrytes),
      ("timestamp", .integer t.timestamp),
      ("current_index", .integer t.currentIndex),
      ("last_index", .integer t.lastIndex),
      ("bundle", .text t.bundle.toTrytes),
      ("trunk", .text t.trunk.toTrytes),
      ("branch", .text t.branch.toTrytes),
      ("weight_magnitude", .natural t.weight),
      ("solid", .bool t.facts.solid),
      ("confirmed", .bool t.facts.confirmed),
      ("height", .natural t.facts.height.toNat),
      ("arrival_time", .integer t.facts.arrival.toInt),
      ("sender", .text t.facts.sender),
      ("approvers", .array (approvers.map fun h => .text h.toTrytes)) ]

/-! ## Routes -/

/-- The transaction of a hash. -/
def transactionOf (s : Store) (h : Hash) : Response :=
  match Transaction.load s h with
  | .error e => .storeFailed e
  | .ok t =>
      if t.isFilled then
        match t.approvers s with
        | .error e => .storeFailed e
        | .ok approvers =>
            match Tryte.write t.trits with
            | .error e => .failure 500 ("Encoding error: " ++ e.message)
            | .ok trytes => .ok (transactionJson t trytes approvers)
      else .failure 404 ("Transaction not found: " ++ h.toTrytes)

/-- The transaction whose hash has these trytes. -/
def transactionNamed (s : Store) (trytes : String) : Response :=
  match Hash.ofTrytes trytes with
  | .error e => .failure 400 ("Invalid hash: " ++ e.message)
  | .ok h => transactionOf s h

/-- The transaction that a segment of a path names. -/
def transactionAt (s : Store) (segment : List Char) : Response :=
  match Route.decodeSegment? segment with
  | none => ⟨400, .plain "Invalid URL: Invalid UTF-8 in \x60hash\x60"⟩
  | some trytes => transactionNamed s trytes

/-- The last stored milestone. -/
def latestMilestone (found : Except StorageError (Option Milestone)) : Response :=
  match found with
  | .ok (some m) => .ok (milestoneJson m)
  | .ok none => .failure 404 "No milestone stored yet"
  | .error e => .storeFailed e

/-- Reads a route. -/
def read (n : Node) (version time : String) : Route → Response × Node
  | .health => (.ok (.record [("status", .text "ok")]), n)
  | .status => (.ok (statusJson n version time), n)
  | .neighbors => (.ok (.array (n.traffic.map neighborJson)), n)
  | .tips => (.ok (tipsJson n.tips), n)
  | .transaction segment => (transactionAt n.store segment, n)
  | .latestMilestone =>
      let (found, milestones) := n.milestones.last n.store
      (latestMilestone found, { n with milestones })

/-- The answer to a target that names nothing. -/
def Response.unreadable : TargetFault → Response
  | .malformed => ⟨400, .empty⟩
  | .tooLong => ⟨414, .empty⟩

/-- Answers a request about a path.  Asking for options is always allowed;
otherwise a route can only be read. -/
def answerPath (n : Node) (version time : String) (method : Method) (path : List Char) :
    Response × Node :=
  if method = .options then (⟨200, .empty⟩, n)
  else
    match Route.ofPath? path with
    | none => (⟨404, .empty⟩, n)
    | some route =>
        match method with
        | .get => read n version time route
        | .head => let (r, n) := read n version time route; (r.bare, n)
        | _ => (⟨405, .empty⟩, n)

/-- Answers a request.  `version` and `time` are what the node reports of
itself. -/
def answer (n : Node) (version time : String) (method : Method) (target : String) :
    Response × Node :=
  match Target.path target with
  | .ok path => answerPath n version time method path
  | .error fault => (.unreadable fault, n)

end TernaryGossip.Api
