import TernaryGossip.Api.Wire
import TernaryGossip.Command.DataDirectory
import TernaryGossip.Command.Version
import TernaryGossip.Gossip.Agenda
import TernaryGossip.Metrics

/-!
# Running nodes

    A run begins when everything that it needs was found: the data directory,
    the settings, the provider and the ports.  Of several things that are
    wrong, the one that is needed first is told.  The tips and the latest
    milestone are taken from the store, and the neighbors from the settings.

    A running node does the tasks of its agenda millisecond by millisecond.
    Its metrics are a sample that is taken at the start and then every five
    seconds.  In the end the store is stopped.
-/

namespace TernaryGossip

/-- What a run finds when it begins. -/
structure Premises where
  /-- The data directory. -/
  directory : DataDirectory
  /-- What stands at the path of the settings file. -/
  settings : FileContent
  /-- The port for packets is free. -/
  gossipPort : Bool
  /-- The port of the API is free. -/
  apiPort : Bool
  /-- The port of the metrics is free. -/
  metricsPort : Bool

/-- A running node. -/
structure Running where
  /-- The node. -/
  node : Node
  /-- When its tasks are due. -/
  agenda : Agenda
  /-- The packets that left and were not collected yet. -/
  outbox : List Delivery
  /-- The latest sample of its figures. -/
  metrics : Metrics
  /-- When the next sample is due. -/
  sampleDue : Nat
  /-- The milliseconds that it has run. -/
  time : Nat
  /-- The data directory. -/
  directory : DataDirectory

namespace Running

/-- The milliseconds between two samples. -/
def samplePause : Nat := 5000

/-! ## Beginning -/

/-- Turns an error of the store into one of the command. -/
def orElseFail {α : Type} (e : CommandError) : Except StorageError α → Except CommandError α
  | .ok a => .ok a
  | .error _ => .error e

/-- Fails unless a condition holds. -/
def require (condition : Bool) (e : CommandError) : Except CommandError Unit :=
  if condition then .ok () else .error e

/-- A node over a provider that has just been opened, with the tips and the
latest milestone that are stored. -/
def restore (o : RunOptions) (c : GossipConfig) (p : Provider) : Except CommandError Node := do
  let (started, store) := Store.start ⟨[p]⟩
  orElseFail .storeStart started
  let (_, tips) ← orElseFail .tips (Tips.empty.load store)
  let (latest, milestones) := Milestones.empty.loadLatest store
  let _ ← orElseFail .latestMilestone latest
  let n := Node.fresh c o.minWeight.toNat store Wanted.defaultCapacity
  return { n with tips, milestones }

/-- A node that begins to run now. -/
def ofNode (n : Node) (d : DataDirectory) : Running :=
  { node := n, agenda := .start, outbox := [], metrics := .blank n, sampleDue := 0, time := 0,
    directory := d }

/-- Begins a run. -/
def start (o : RunOptions) (p : Premises) (names : NeighborUri.Resolver) :
    Except CommandError Running := do
  require p.directory.usable (.dataDirectory o.dataDir)
  let c ← o.settings p.settings
  let some provider := p.directory.provider? o.storage
    | throw (.database (pathIn o.dataDir DataDirectory.databaseName))
  let n ← restore o c provider
  require p.gossipPort (.gossipPort o.udpPort)
  require p.apiPort (.apiPort o.apiPort)
  require p.metricsPort (.metricsPort o.metricsPort)
  let (_, n) := n.addNeighbors names c.neighbors
  return ofNode n p.directory

/-! ## Going on -/

/-- Does what is due now. -/
def work (r : Running) (w : Surroundings) : Running :=
  let (sent, node, agenda) := r.agenda.round w r.time r.node
  let r := { r with node, agenda, outbox := r.outbox ++ sent }
  if r.sampleDue ≤ r.time then
    { r with metrics := r.metrics.refresh r.node, sampleDue := r.time + samplePause }
  else r

/-- Lets a millisecond go by and does what is due then. -/
def tick (r : Running) (w : Nat → Surroundings) : Running :=
  { r with time := r.time + 1 }.work (w (r.time + 1))

/-- Lets milliseconds go by, at most a number of them, until a condition
holds. -/
def elapse (w : Nat → Surroundings) (done : Running → Bool) : Nat → Running → Running
  | 0, r => r
  | ms + 1, r => if done r then r else elapse w done ms (r.tick w)

/-- Receives a datagram. -/
def receive (r : Running) (draw : Nat) (packet : Bytes) (sender : SocketAddress) : Running :=
  { r with node := (r.node.receive draw packet sender .datagram).2 }

/-- The packets for an address that were not collected yet, at most `count`
of them, and the node without them. -/
def collect (r : Running) (address : SocketAddress) (count : Nat) : List Bytes × Running :=
  let (here, others) := r.outbox.partition (·.neighbor.address == address)
  ((here.take count).map Delivery.packet, { r with outbox := others ++ here.drop count })

/-- Answers a message to the API at a time of day. -/
def answer (r : Running) (time : String) (message : Bytes) : Api.Response × Running :=
  match Api.Request.ofBytes? message with
  | none => (.malformed, r)
  | some request =>
      let (response, node) :=
        Api.answer r.node Version.reported time request.method request.target
      (response, { r with node })

/-- Answers a message that asks for the metrics. -/
def report (r : Running) (message : Bytes) : Api.Response :=
  match Api.Request.ofBytes? message with
  | none => .malformed
  | some request => r.metrics.answer request.method request.target

/-! ## Ending -/

/-- A provider that finds its backup as the directory has it now. -/
def refind (d : DataDirectory) (p : Provider) : Provider :=
  { p with backup := p.backup.map fun _ => d.backup }

/-- Ends the run.  Yields the data directory as it is left behind. -/
def stop (r : Running) : Except CommandError Unit × DataDirectory :=
  let (result, store) := Store.stop ⟨r.node.store.providers.map (refind r.directory)⟩
  (orElseFail .storeStop result, store.providers.foldl DataDirectory.leave r.directory)

end Running

end TernaryGossip
