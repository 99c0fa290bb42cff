import Std.Async
import TernaryGossip.Api.Wire
import TernaryGossip.Calendar
import TernaryGossip.Command.Init
import TernaryGossip.Command.Status
import TernaryGossip.Running

/-!
# The program

    The commands of the operator, on real files, sockets and clocks.  All
    that is decided here is when something is read and where it is written:
    what a node does is in the other modules.

    A running node is one state.  A receiver, two servers and a clock that
    ticks once a millisecond change it in turn, and the clock sends the
    packets that have to leave.
-/

namespace TernaryGossip.Program

open Std.Async

/-! ## Files -/

/-- What stands at a path. -/
def contentAt (path : String) : IO FileContent := do
  try
    return .bytes (← IO.FS.readBinFile path).toList
  catch
    | .noFileOrDirectory .. => return .absent
    | _ => return .unreadable

/-- Makes a directory; says whether it is there. -/
def makeDirectory (path : String) : IO Bool := do
  try
    IO.FS.createDirAll path
    return true
  catch _ => return false

/-- Writes a file. -/
def write (path : String) (content : Bytes) : IO Unit :=
  IO.FS.writeBinFile path content.toByteArray

/-- The directory of the database in a data directory. -/
def databasePath (dataDir : String) : String := pathIn dataDir DataDirectory.databaseName

/-- The file of the database. -/
def tablesPath (dataDir : String) : String := pathIn (databasePath dataDir) "tables"

/-- The records of the database; `none` if it cannot be opened. -/
def openDatabase (dataDir : String) : IO (Option Tables) := do
  match ← contentAt (tablesPath dataDir) with
  | .bytes content => return (Snapshot.read content).toOption
  | .unreadable => return none
  | .absent => return if ← makeDirectory (databasePath dataDir) then some .empty else none

/-- The backup of the records kept in memory. -/
def openBackup (dataDir : String) : IO Backup := do
  match ← contentAt (pathIn dataDir DataDirectory.backupName) with
  | .bytes content => return .file content
  | .unreadable => return .obstructed
  | .absent => return .absent

/-- The data directory as a run in memory or on the database finds it. -/
def openDirectory (dataDir : String) (storage : Backend) : IO DataDirectory := do
  let usable ← makeDirectory dataDir
  let settings ← contentAt (pathIn dataDir settingsFileName)
  match storage with
  | .memory => return { usable, settings, backup := ← openBackup dataDir, database := none }
  | .database => return { usable, settings, backup := .absent, database := ← openDatabase dataDir }

/-- Writes the records of a data directory. -/
def saveRecords (dataDir : String) (storage : Backend) (d : DataDirectory) : IO Unit := do
  match storage, d.backup, d.database with
  | .memory, .file content, _ => write (pathIn dataDir DataDirectory.backupName) content
  | .database, _, some tables => write (tablesPath dataDir) (Snapshot.write tables)
  | _, _, _ => return ()

/-! ## Addresses -/

/-- An IP address for a socket. -/
def ipForSocket : IpAddress → Std.Net.IPAddr
  | .v4 bits => .v4 ⟨Vector.ofFn fun i => UInt8.ofNat ((IpAddress.octets bits).getD i 0)⟩
  | .v6 bits => .v6 ⟨Vector.ofFn fun i => UInt16.ofNat ((IpAddress.groups bits).getD i 0)⟩

/-- The IP address of a socket. -/
def ipOfSocket : Std.Net.IPAddr → IpAddress
  | .v4 ip => .v4 (IpAddress.ofOctets (ip.octets.toList.map UInt8.toNat))
  | .v6 ip => .v6 (IpAddress.ofGroups (ip.segments.toList.map UInt16.toNat))

/-- An address for a socket. -/
def forSocket (a : SocketAddress) : Std.Net.SocketAddress :=
  match ipForSocket a.ip with
  | .v4 ip => .v4 ⟨ip, a.port⟩
  | .v6 ip => .v6 ⟨ip, a.port⟩

/-- The address of a socket; the sockets here know no flow and no scope. -/
def ofSocket : Std.Net.SocketAddress → SocketAddress
  | .v4 a => ⟨.ofIp (ipOfSocket (.v4 a.addr)), a.port⟩
  | .v6 a => ⟨.ofIp (ipOfSocket (.v6 a.addr)), a.port⟩

/-- A port on all networks. -/
def anywhere (port : UInt16) : Std.Net.SocketAddress := .v4 ⟨.ofParts 0 0 0 0, port⟩

/-- What a host name stands for. -/
def lookUp (name : String) : Async (Option ScopedAddress) := do
  try
    return (← DNS.getAddrInfo name "")[0]?.map fun ip => .ofIp (ipOfSocket ip)
  catch _ => return NeighborUri.Resolver.own name

/-- What the host names of neighbors stand for. -/
def lookUpAll (uris : List String) : Async NeighborUri.Resolver := do
  let hosts := uris.filterMap fun text => (NeighborUri.parse text).toOption.map NeighborUri.host
  let known ← hosts.mapM fun host => return (host, ← lookUp host)
  return fun name => (known.lookup name).join

/-! ## Running a node -/

/-- The milliseconds since 1970. -/
def timeOfDay : IO Int := return (← Std.Time.Timestamp.now).toMillisecondsSinceUnixEpoch.toInt

/-- What a node finds around it now. -/
def surroundings (names : NeighborUri.Resolver) : IO Surroundings := do
  let seed ← IO.rand 0 (Nat.pow 2 31)
  return {
    link := ⟨true, []⟩, names, clock := Int64.ofInt (← timeOfDay)
    draws := fun i =>
      let (high, g) := stdNext (mkStdGen (seed + i))
      let (low, _) := stdNext g
      (high * Nat.pow 2 31 + low) % Nat.pow 2 53 }

/-- Receives datagrams. -/
def receiveAll (socket : UDP.Socket) (state : IO.Ref Running) : Async Unit := do
  repeat
    try
      let (packet, sender) ← socket.recv 1654
      let draw ← IO.rand 0 (Nat.pow 2 53 - 1)
      if let some sender := sender then
        state.modify (·.receive draw packet.toList (ofSocket sender))
    catch _ => sleep 1

/-- Does what is due every millisecond and sends the packets that leave. -/
def tickAll (socket : UDP.Socket) (names : IO.Ref NeighborUri.Resolver) (state : IO.Ref Running) :
    Async Unit := do
  let begun ← IO.monoMsNow
  repeat
    sleep 1
    let now := (← IO.monoMsNow) - begun
    let w ← surroundings (← names.get)
    let sent ← state.modifyGet fun r =>
      let r := r.elapse (fun _ => w) (fun _ => false) (now - r.time)
      (r.outbox, { r with outbox := [] })
    for d in sent do
      try
        socket.send d.packet.toByteArray (some (forSocket d.neighbor.address))
      catch _ => continue

/-- Looks the host names of neighbors up again and again. -/
def refreshAll (c : GossipConfig) (names : IO.Ref NeighborUri.Resolver) : Async Unit := do
  repeat
    sleep (Std.Time.Millisecond.Offset.ofNat (max c.nameRefreshMillis 1))
    names.set (← lookUpAll c.neighbors)

/-- Writes the records every five seconds. -/
def saveAll (o : RunOptions) (state : IO.Ref Running) : Async Unit := do
  repeat
    sleep (Std.Time.Millisecond.Offset.ofNat Running.samplePause)
    let r ← state.get
    try
      saveRecords o.dataDir o.storage (r.node.store.providers.foldl DataDirectory.leave r.directory)
    catch _ => continue

/-- Reads a request up to the end of its head. -/
def readRequest (client : TCP.Socket.Client) : Async Bytes := do
  let mut received : Bytes := []
  while !Api.Request.isComplete received && received.length < 131072 do
    match ← client.recv? 4096 with
    | some more => received := received ++ more.toList
    | none => return received
  return received

/-- Answers one client. -/
def serve (client : TCP.Socket.Client) (answer : Bytes → IO Api.Response) : Async Unit := do
  try
    let response ← answer (← readRequest client)
    client.send response.bytes.toByteArray
    client.shutdown
  catch _ => return ()

/-- Answers all clients. -/
def serveAll (server : TCP.Socket.Server) (answer : Bytes → IO Api.Response) : Async Unit := do
  repeat
    try
      let client ← server.accept
      background (serve client answer)
    catch _ => sleep 1

/-- Answers a message to the API. -/
def answerApi (state : IO.Ref Running) (message : Bytes) : IO Api.Response := do
  let time := Calendar.text (← timeOfDay)
  state.modifyGet (·.answer time message)

/-- Answers a message that asks for the metrics. -/
def answerMetrics (state : IO.Ref Running) (message : Bytes) : IO Api.Response :=
  return (← state.get).report message

/-- A server at a port, if the port is free. -/
def listen? (port : UInt16) : IO (Option TCP.Socket.Server) := do
  try
    let server ← TCP.Socket.Server.mk
    server.bind (anywhere port)
    server.listen 128
    return some server
  catch _ => return none

/-- A socket for packets at a port, if the port is free. -/
def openGossip? (port : UInt16) : IO (Option UDP.Socket) := do
  try
    let socket ← UDP.Socket.mk
    socket.bind (anywhere port)
    return some socket
  catch _ => return none

/-- Waits until the operator ends the program. -/
def awaitEnd : IO Unit := do
  let interrupt ← (← Signal.Waiter.mk .sigint false).wait
  let terminate ← (← Signal.Waiter.mk .sigterm false).wait
  let _ ← IO.waitAny [interrupt, terminate]

/-- What the operator is told of an error. -/
def complain (message : String) : IO UInt32 := do
  IO.eprintln ("Error: " ++ message)
  return 1

/-- Runs a node until the operator ends it. -/
def run (o : RunOptions) : IO UInt32 := do
  let directory ← openDirectory o.dataDir o.storage
  let settings ← match o.config with
    | some path => contentAt path
    | none => pure directory.settings
  let uris := ((o.settings settings).toOption.map GossipConfig.neighbors).getD []
  let names ← (lookUpAll uris).block
  let gossip ← openGossip? o.udpPort
  let api ← listen? o.apiPort
  let metrics ← listen? o.metricsPort
  let premises := ⟨directory, settings, gossip.isSome, api.isSome, metrics.isSome⟩
  match Running.start o premises names, gossip, api, metrics with
  | .ok r, some gossip, some api, some metrics => do
      let state ← IO.mkRef (r.work (← surroundings names))
      let resolver ← IO.mkRef names
      let _ ← (receiveAll gossip state).toIO
      let _ ← (tickAll gossip resolver state).toIO
      let _ ← (refreshAll r.node.config resolver).toIO
      let _ ← (serveAll api (answerApi state)).toIO
      let _ ← (serveAll metrics (answerMetrics state)).toIO
      if o.storage = .database then
        let _ ← (saveAll o state).toIO
      awaitEnd
      let (result, left) := (← state.get).stop
      try
        saveRecords o.dataDir o.storage left
        match result with
        | .ok () => return 0
        | .error e => complain e.message
      catch _ => complain CommandError.storeStop.message
  | .error e, _, _, _ => complain e.message
  | .ok _, _, _, _ => complain (CommandError.gossipPort o.udpPort).message

/-! ## The other commands -/

/-- Makes a data directory. -/
def init (o : InitOptions) : IO UInt32 := do
  let d ← openDirectory o.dataDir .memory
  match o.apply d with
  | .error e => complain e.message
  | .ok _ => do
      try
        write o.settingsPath (Bytes.ofText o.settingsText)
        IO.print o.report
        return 0
      catch _ => complain (CommandError.unwritableSettings o.settingsPath).message

/-- The address of a host and a port. -/
def addressOf? (text : String) : Async (Option SocketAddress) := do
  if let some address := SocketAddress.ofText? text then return some address
  match text.splitOn ":" with
  | [host, port] =>
      match SocketAddress.port? port.toList with
      | none => return none
      | some port => return (← lookUp host).map fun host => ⟨host, port⟩
  | _ => return none

/-- Reads all that comes until the connection ends. -/
def readAll (client : TCP.Socket.Client) : Async Bytes := do
  let mut received : Bytes := []
  repeat
    match ← client.recv? 4096 with
    | some more => received := received ++ more.toList
    | none => break
  return received

/-- Sends a request and reads the answer. -/
def exchange (r : HttpRequest) : Async (Except CommandError Bytes) := do
  let some address ← addressOf? r.address | return .error (.unreachable r.address)
  try
    let client ← TCP.Socket.Client.mk
    client.connect (forSocket address)
    client.send r.text.toUTF8
    return .ok (← readAll client)
  catch _ => return .error (.unreachable r.address)

/-- Asks a running node for its status. -/
def status (apiUrl : String) : IO UInt32 := do
  match HttpRequest.ofUrl (Status.urlOf apiUrl) with
  | .error e => complain e.message
  | .ok request => do
      match ← (exchange request).block with
      | .error e => complain e.message
      | .ok answer => do
          IO.print (Status.report answer)
          return 0

/-- How the program is used. -/
def usage : String :=
  "Tangle gossip node\n\nUsage: tangle-node <COMMAND>\n\nCommands:\n" ++
    "  run      Start the node\n" ++
    "  init     Initialize a data directory with a default gossip configuration\n" ++
    "  status   Query the status of a running node via its API\n" ++
    "  version  Print version information and exit\n"

/-- Does what the operator asks for. -/
def perform (args : List String) : IO UInt32 := do
  match Command.parse args with
  | .ok (.run o) => run o
  | .ok (.init o) => init o
  | .ok (.status apiUrl) => status apiUrl
  | .ok .version => do
      IO.print (Version.text none)
      return 0
  | .error .displayHelp => do
      IO.print usage
      return 0
  | .error .displayVersion => do
      IO.println ("tangle-node " ++ Version.program)
      return 0
  | .error _ => do
      IO.eprint usage
      return 2

end TernaryGossip.Program

/-- The program. -/
def main (args : List String) : IO UInt32 := TernaryGossip.Program.perform args
