import TernaryGossip.Gossip.Config
import TernaryGossip.Gossip.Packet
import TernaryGossip.Gossip.Seen
import TernaryGossip.Gossip.Wanted
import TernaryGossip.Gossip.Work
import TernaryGossip.Tangle.Milestones
import TernaryGossip.Tangle.Tips
import TernaryGossip.Transaction.Validation

/-!
# The node

    A node receives packets, stores the transactions in them, passes new
    transactions on, and answers requests.  Receiving never touches the
    store: a received transaction waits in a queue until it is stored, and a
    request waits in another until it is answered.

    Each function here is one step.  It takes what it needs from outside as
    arguments: the time, the random numbers, and the link over which packets
    leave.  A step that draws more than one random number takes a sequence of
    them.  Packets that leave are part of the result, in the order in which
    they leave.
-/

namespace TernaryGossip

/-- The state of a node. -/
structure Node where
  /-- What the operator chose. -/
  config : GossipConfig
  /-- The proof of work that a payload needs. -/
  minWeight : Nat
  /-- The stored records. -/
  store : Store
  /-- The tips. -/
  tips : Tips
  /-- The milestones seen. -/
  milestones : Milestones
  /-- The hashes to ask for. -/
  wanted : Wanted
  /-- The neighbors. -/
  roster : Roster
  /-- The payloads and hashes seen. -/
  seen : Seen
  /-- Transactions to store. -/
  received : WeightQueue Received
  /-- Transactions to pass on. -/
  outgoing : WeightQueue Transaction
  /-- Requests to answer. -/
  requests : WeightQueue Request

/-- Random numbers in the order in which they are drawn. -/
abbrev Draws := Nat → Nat

/-- What became of a packet. -/
inductive Outcome
  /-- The sender is no neighbor; perhaps it is one now. -/
  | unknownSender
  /-- Chance dropped the packet. -/
  | dropped
  /-- The size is wrong, or the payload is not accepted. -/
  | invalid
  /-- The payload was seen before. -/
  | duplicate
  /-- The payload waits to be stored. -/
  | queued
  deriving DecidableEq, Repr

/-- The name of an outcome. -/
def Outcome.name : Outcome → String
  | .unknownSender => "UnknownSender"
  | .dropped => "Dropped"
  | .invalid => "Invalid"
  | .duplicate => "Duplicate"
  | .queued => "Queued"

namespace Node

/-- A node that has done nothing yet. -/
def fresh (config : GossipConfig) (minWeight : Nat) (store : Store) (wantedCapacity : Nat) : Node :=
  { config, minWeight, store, tips := .empty, milestones := .empty,
    wanted := .empty wantedCapacity, roster := .empty,
    seen := .empty config.seenHashesCapacity config.seenPacketsCapacity,
    received := .empty config.receiveCapacity,
    outgoing := .empty config.broadcastCapacity,
    requests := .empty config.replyCapacity }

/-- Counts one more for a neighbor. -/
def bump (n : Node) (neighbor : Neighbor) (c : Counter) : Node :=
  { n with roster := n.roster.bump neighbor c }

/-! ## Neighbors -/

/-- Adds the neighbor of a URI; says whether it is new. -/
def addNeighbor (n : Node) (names : NeighborUri.Resolver) (text : String) :
    Except ConfigError (Bool × Node) := do
  let uri ← NeighborUri.parse text
  let address ← uri.resolve names
  let (neighbor, roster) := n.roster.make uri address true
  let (added, roster) := roster.add neighbor
  return (added, { n with roster })

/-- Removes the neighbor of a URI; says whether there was one. -/
def removeNeighbor (n : Node) (names : NeighborUri.Resolver) (text : String) :
    Except ConfigError (Bool × Node) := do
  let uri ← NeighborUri.parse text
  let address ← uri.resolve names
  let (removed, roster) := n.roster.remove address uri.kind
  return (removed, { n with roster })

/-- Adds the neighbors of a list of URIs and leaves out those that name
none; yields how many are new. -/
def addNeighbors (n : Node) (names : NeighborUri.Resolver) : List String → Nat × Node
  | [] => (0, n)
  | text :: rest =>
      match n.addNeighbor names text with
      | .ok (true, n) => let (count, n) := n.addNeighbors names rest; (count + 1, n)
      | .ok (false, n) => n.addNeighbors names rest
      | .error _ => n.addNeighbors names rest

/-- Looks the names of neighbors up again and replaces those whose address
changed; yields how many were replaced. -/
def refreshNames (n : Node) (names : NeighborUri.Resolver) : List Neighbor → Nat × Node
  | [] => (0, n)
  | neighbor :: rest =>
      if !neighbor.configured || (IpAddress.ofText? neighbor.uri.host).isSome then
        n.refreshNames names rest
      else
        match neighbor.uri.resolve names with
        | .error _ => n.refreshNames names rest
        | .ok address =>
            if address.ip = neighbor.address.ip then n.refreshNames names rest
            else
              let (fresh, roster) := n.roster.make neighbor.uri address true
              let (replaced, roster) := roster.replace neighbor fresh
              let (count, n) := { n with roster }.refreshNames names rest
              (if replaced then count + 1 else count, n)

/-! ## Receiving -/

/-- Queues the request of a packet whose transaction has the hash `hash`,
unless the requested hash is not valid. -/
def queueRequest (n : Node) (neighbor : Neighbor) (hash requested : Hash) : Node :=
  if requested.Valid then
    let r : Request := ⟨if requested = hash then Hash.null else requested, neighbor⟩
    { n with requests := (n.requests.push r.priority r).2 }
  else n

/-- Takes the payload of a packet: looks whether it was seen, and if not
checks it and queues it.  Yields its hash, or `none` if it is not accepted. -/
def takePayload (n : Node) (neighbor : Neighbor) (payload : Bytes) :
    Option (Hash × Outcome) × Node :=
  let digest := Sha256.digest payload
  match n.seen.lookupPacket digest with
  | (some hash, seen) => (some (hash, .duplicate), { n with seen })
  | (none, seen) =>
      match validate n.minWeight payload with
      | .error _ => (none, { n with seen }.bump neighbor .invalid)
      | .ok t =>
          let r : Received := ⟨t, neighbor⟩
          (some (t.hash, .queued),
            { n with
              seen := seen.insertPacket digest t.hash
              received := (n.received.push r.priority r).2 })

/-- Receives a packet. -/
def receive (n : Node) (draw : Nat) (packet : Bytes) (sender : SocketAddress) (kind : TransportKind) :
    Outcome × Node :=
  match n.roster.find? sender kind with
  | none =>
      if n.config.permissive then
        let (neighbor, roster) := n.roster.makeDiscovered kind sender
        (.unknownSender, { n with roster := (roster.add neighbor).2 })
      else (.unknownSender, n)
  | some neighbor =>
      let n := n.bump neighbor .all
      if n.config.dropChance.happens draw then (.dropped, n)
      else if packet.length ≠ 1653 then (.invalid, n.bump neighbor .invalid)
      else
        match n.takePayload neighbor (Packet.payload packet) with
        | (none, n) => (.invalid, n)
        | (some (hash, outcome), n) => (outcome, n.queueRequest neighbor hash (Packet.request packet))

/-! ## Storing -/

/-- Stores when and from where a transaction arrived. -/
def stampArrival (n : Node) (t : Transaction) (now : Int64) (sender : String) : Transaction × Node :=
  match t.learn n.store (.arrival now) with
  | (.error _, t, store) => (t, { n with store })
  | (.ok _, t, store) =>
      let (_, t, store) := t.learn store (.sender sender)
      (t, { n with store })

/-- Takes the parents of a stored transaction from the tips and asks for
those that are not stored, up to the first that the store fails on. -/
def visitParents (n : Node) : List Hash → Node
  | [] => n
  | parent :: rest =>
      let n := { n with tips := (n.tips.remove parent).2 }
      if parent.isNull then n.visitParents rest
      else
        match Transaction.isStored n.store parent with
        | .error _ => n
        | .ok true => n.visitParents rest
        | .ok false => { n with wanted := (n.wanted.request parent).2 }.visitParents rest

/-- Brings the tips up to date after a transaction was stored: it is a tip
unless something approves it, and its parents are none. -/
def updateTips (n : Node) (t : Transaction) : Node :=
  match t.approvers n.store with
  | .error _ => n
  | .ok approvers =>
      let n := if approvers.isEmpty then { n with tips := (n.tips.add t.hash).2 } else n
      n.visitParents [t.trunk, t.branch]

/-- Queues a transaction to be passed on. -/
def broadcast (n : Node) (t : Transaction) : Node :=
  { n with outgoing := (n.outgoing.push t.priority t).2 }

/-- What follows when a transaction is stored for the first time. -/
def onFirstStore (n : Node) (t : Transaction) (neighbor : Neighbor) (now : Int64) : Node :=
  let (t, n) := n.stampArrival t now neighbor.address.text
  let n := (n.bump neighbor .fresh).updateTips t
  { n with wanted := (n.wanted.clear t.hash).2 }.broadcast t

/-- Stores a received transaction unless it was stored recently. -/
def storeReceived (n : Node) (r : Received) (now : Int64) : Node :=
  if n.seen.containsHash r.transaction.hash then n
  else
    match r.transaction.store n.store with
    | (.error _, store) => { n with store }.bump r.neighbor .invalid
    | (.ok stored, store) =>
        let n := { n with store, seen := (n.seen.insertHash r.transaction.hash).2 }
        if stored then n.onFirstStore r.transaction r.neighbor now else n

/-- Stores the received transaction that comes first; `none` if there is none. -/
def storeNext (n : Node) (now : Int64) : Option Node :=
  n.received.pop?.map fun (r, received) => { n with received }.storeReceived r now

/-! ## Sending -/

/-- The hash that a packet asks for: by chance the latest milestone, else
what is wanted next, else its own transaction, which asks for any tip. -/
def chooseRequest (n : Node) (t : Transaction) (draw : Nat) : Hash × Node :=
  let latest := n.milestones.latestHash
  if !latest.isNull && n.config.selectMilestoneChance.happens draw then (latest, n)
  else
    let (next, wanted) := n.wanted.next
    (next.getD t.hash, { n with wanted })

/-- Sends a transaction to a neighbor. -/
def sendTo (n : Node) (link : Link) (t : Transaction) (neighbor : Neighbor) (draw : Nat) :
    Except SendError Delivery × Node :=
  let (request, n) := n.chooseRequest t draw
  ((link.send neighbor).map fun _ => ⟨neighbor, Packet.encode t.payload request⟩, n)

/-- Sends a transaction to several neighbors; those that cannot be reached
get nothing. -/
def sendAll (n : Node) (link : Link) (t : Transaction) (draws : Draws) :
    List Neighbor → List Delivery × Node
  | [] => ([], n)
  | neighbor :: rest =>
      let (result, n) := n.sendTo link t neighbor (draws 0)
      let (deliveries, n) := n.sendAll link t (fun i => draws (i + 1)) rest
      (match result with | .ok d => d :: deliveries | .error _ => deliveries, n)

/-- Sends the queued transaction that comes first to every neighbor; `none`
if there is none. -/
def broadcastNext (n : Node) (link : Link) (draws : Draws) : Option (List Delivery × Node) :=
  n.outgoing.pop?.map fun (t, outgoing) =>
    { n with outgoing }.sendAll link t draws n.roster.listed

/-- Sends the latest milestone to every neighbor and asks each for any tip;
nothing is sent as long as its payload is not stored. -/
def requestTips (n : Node) (link : Link) : Except StorageError (List Delivery) := do
  let t ← Transaction.load n.store n.milestones.latestHash
  if t.isFilled then
    let packet := Packet.encode t.payload t.hash
    return n.roster.listed.filterMap fun neighbor =>
      match link.send neighbor with
      | .ok () => some ⟨neighbor, packet⟩
      | .error _ => none
  else return []

/-! ## Answering -/

/-- The hash that answers a request for any tip: by chance the latest
milestone, else a random tip, and the null hash if there is no tip. -/
def anyTip (n : Node) (draws : Draws) : Hash :=
  if n.config.sendMilestoneChance.happens (draws 0) then n.milestones.latestHash
  else (n.tips.randomSolid (draws 1)).getD Hash.null

/-- Sends the transaction of a hash to a neighbor if its payload is stored. -/
def answer (n : Node) (link : Link) (hash : Hash) (neighbor : Neighbor) (draws : Draws) :
    List Delivery × Node :=
  match Transaction.load n.store hash with
  | .error _ => ([], n)
  | .ok t =>
      if t.isFilled then
        match n.sendTo link t neighbor (draws 2) with
        | (.ok d, n) => ([d], n)
        | (.error _, n) => ([], n)
      else ([], n)

/-- Answers a request.  A request for any tip is answered only while the
node itself wants transactions. -/
def answerRequest (n : Node) (link : Link) (r : Request) (draws : Draws) : List Delivery × Node :=
  if r.hash.isNull then
    if n.wanted.size = 0 then ([], n)
    else (n.bump r.neighbor .random).answer link (n.anyTip draws) r.neighbor draws
  else n.answer link r.hash r.neighbor draws

/-- Answers the request that comes first; `none` if there is none. -/
def answerNext (n : Node) (link : Link) (draws : Draws) : Option (List Delivery × Node) :=
  n.requests.pop?.map fun (r, requests) => { n with requests }.answerRequest link r draws

end Node

end TernaryGossip
