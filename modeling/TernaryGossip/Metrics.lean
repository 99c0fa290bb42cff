import TernaryGossip.Api.Answer

/-!
# Metrics

    A sample of the figures of a node, as lines for a collector.  Each figure
    has a name, a line that explains it, and its value; the figures stand in
    the order of their names.
-/

namespace TernaryGossip

/-- A figure that goes up and down. -/
structure Gauge where
  /-- Its name. -/
  name : String
  /-- What it counts. -/
  help : String
  /-- Its value. -/
  value : Nat
  deriving DecidableEq, Repr

namespace Gauge

/-- The lines of a figure. -/
def lines (g : Gauge) : List String :=
  let name := "tangle_" ++ g.name
  [ "# HELP " ++ name ++ " " ++ g.help, "# TYPE " ++ name ++ " gauge",
    name ++ " " ++ toString g.value ]

end Gauge

/-- Figures taken at one time. -/
abbrev Metrics := List Gauge

namespace Metrics

/-- The figures of a node that has stored a number of transactions. -/
def sample (n : Node) (stored : Nat) : Metrics :=
  let s := n.stats
  [ ⟨"broadcast_queue_size", "Transactions waiting to be broadcast", s.outgoing⟩,
    ⟨"invalid_transactions", "Transactions rejected as invalid", n.total Tally.invalid⟩,
    ⟨"neighbors", "Current number of neighbors", s.neighbors⟩,
    ⟨"new_transactions", "Transactions stored for the first time", n.total Tally.fresh⟩,
    ⟨"pending_requests", "Hashes still being requested from neighbors", s.wanted⟩,
    ⟨"receive_queue_size", "Transactions waiting to be stored", s.received⟩,
    ⟨"received_transactions", "Transactions received from neighbors", n.total Tally.all⟩,
    ⟨"reply_queue_size", "Requests waiting for a reply", s.requests⟩,
    ⟨"solid_tips", "Tips whose history is complete", n.tips.solid.length⟩,
    ⟨"stored_transactions", "Transactions in storage", stored⟩,
    ⟨"tips", "Transactions nothing approves yet", n.tips.size⟩ ]

/-- The figures of a node once more.  When its store cannot count, the ones
taken before stay. -/
def refresh (m : Metrics) (n : Node) : Metrics :=
  match Transaction.storedCount n.store with
  | .ok stored => sample n stored
  | .error _ => m

/-- Figures before any were taken. -/
def blank (n : Node) : Metrics := (sample n 0).map fun g => { g with value := 0 }

/-- The text of the figures. -/
def text (m : Metrics) : String := String.join (m.flatMap fun g => g.lines.map (· ++ "\n"))

/-- Answers a request.  Collectors read the text at `/metrics`, the only path
there is. -/
def answer (m : Metrics) (method : Api.Method) (target : String) : Api.Response :=
  match Api.Target.path target with
  | .error fault => .unreadable fault
  | .ok path =>
      if path = "/metrics".toList then
        match method with
        | .get => ⟨200, .plain m.text⟩
        | .head => ⟨200, .empty⟩
        | _ => ⟨405, .empty⟩
      else ⟨404, .empty⟩

end Metrics

end TernaryGossip
