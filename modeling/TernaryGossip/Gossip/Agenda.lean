import TernaryGossip.Gossip.Node

/-!
# The agenda of a node

    A running node has five tasks: to pass a transaction on, to ask for
    tips, to look host names up, to store a received transaction, and to
    answer a request.  Each is done at once when the node starts, and then
    again whenever a time that the operator chose has gone by since it was
    done last.

    Time is counted in whole milliseconds from the start.  In one millisecond
    no task is done twice.
-/

namespace TernaryGossip

/-- What a running node does again and again. -/
inductive Task
  /-- To send the next transaction to every neighbor. -/
  | passOn
  /-- To ask every neighbor for any tip. -/
  | requestTips
  /-- To look up the host names of the neighbors. -/
  | refreshNames
  /-- To store the next received transaction. -/
  | store
  /-- To answer the next request. -/
  | answer
  deriving DecidableEq, Repr

namespace Task

/-- The tasks in the order in which those due at one time are done. -/
def all : List Task := [.passOn, .requestTips, .refreshNames, .store, .answer]

/-- The time between two rounds of a task, in milliseconds. -/
def pause (c : GossipConfig) : Task → Nat
  | .passOn => c.pauseMillis
  | .requestTips => c.tipRequestMillis
  | .refreshNames => c.nameRefreshMillis
  | .store => c.pauseMillis
  | .answer => c.pauseMillis

end Task

/-- What a node needs from outside to do its tasks. -/
structure Surroundings where
  /-- How packets leave. -/
  link : Link
  /-- What host names stand for. -/
  names : NeighborUri.Resolver
  /-- The time of day, in milliseconds since 1970. -/
  clock : Int64
  /-- Random numbers. -/
  draws : Draws

namespace Node

/-- Does a task once.  Yields the packets that leave. -/
def perform (n : Node) (w : Surroundings) : Task → List Delivery × Node
  | .passOn => (n.broadcastNext w.link w.draws).getD ([], n)
  | .requestTips => ((n.requestTips w.link).toOption.getD [], n)
  | .refreshNames => ([], (n.refreshNames w.names n.roster.listed).2)
  | .store => ([], (n.storeNext w.clock).getD n)
  | .answer => (n.answerNext w.link w.draws).getD ([], n)

end Node

/-- The tasks of a node, each with the time when it is due. -/
abbrev Agenda := List (Task × Nat)

namespace Agenda

/-- Every task is due at once. -/
def start : Agenda := Task.all.map fun t => (t, 0)

/-- Does every task that is due.  Yields the packets that leave. -/
def round (w : Surroundings) (now : Nat) : Agenda → Node → List Delivery × Node × Agenda
  | [], n => ([], n, [])
  | (task, due) :: rest, n =>
      if due ≤ now then
        let (sent, n) := n.perform w task
        let (later, n, rest) := round w now rest n
        (sent ++ later, n, (task, now + task.pause n.config) :: rest)
      else
        let (later, n, rest) := round w now rest n
        (later, n, (task, due) :: rest)

end Agenda

end TernaryGossip
