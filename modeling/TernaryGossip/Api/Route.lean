import TernaryGossip.Text.Utf8
import TernaryGossip.Url.Percent

/-!
# Routes of the API

    A route is what a path names.  One route takes a segment of its path as a parameter; the
    segment is percent-encoded, and it must be UTF-8 when decoded.
-/

namespace TernaryGossip.Api

/-- What a client wants to do with a route. -/
inductive Method
  /-- To read it. -/
  | get
  /-- To read all but its content. -/
  | head
  /-- To learn what may be done. -/
  | options
  /-- Anything else. -/
  | other
  deriving DecidableEq, Repr

/-- The method of a name. -/
def Method.ofName (name : String) : Method :=
  match name with
  | "GET" => .get
  | "HEAD" => .head
  | "OPTIONS" => .options
  | _ => .other

/-- What a path names. -/
inductive Route
  /-- Whether the node is alive. -/
  | health
  /-- The figures of the node. -/
  | status
  /-- The neighbors and their traffic. -/
  | neighbors
  /-- The tips. -/
  | tips
  /-- The transaction of a hash, named by a segment of the path. -/
  | transaction (segment : List Char)
  /-- The last stored milestone. -/
  | latestMilestone
  deriving DecidableEq, Repr

namespace Route

/-- The rest of a text after its beginning. -/
def after? (start : List Char) (cs : List Char) : Option (List Char) :=
  if start.isPrefixOf cs then some (cs.drop start.length) else none

/-- The route of a path. -/
def ofPath? (path : List Char) : Option Route :=
  match String.ofList path with
  | "/health" => some .health
  | "/status" => some .status
  | "/neighbors" => some .neighbors
  | "/tips" => some .tips
  | "/milestones/latest" => some .latestMilestone
  | _ => do
      let segment ← after? "/transactions/".toList path
      if segment ≠ [] ∧ '/' ∉ segment then some (.transaction segment) else none

/-- The text of a percent-encoded segment, if it is UTF-8. -/
def decodeSegment? (segment : List Char) : Option String :=
  (Utf8.read (Url.Percent.decode (Bytes.ofText (String.ofList segment)))).toOption

end Route

end TernaryGossip.Api
