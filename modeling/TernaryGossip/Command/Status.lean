import TernaryGossip.Command.Error
import TernaryGossip.Text.Utf8
import TernaryGossip.Url.Basic

/-!
# Asking a node for its status

    The status of a running node is read from its API with one request.
    What is printed is the content of the answer, whatever the answer says
    about itself.
-/

namespace TernaryGossip

/-- A request and where it goes. -/
structure HttpRequest where
  /-- The host and the port. -/
  address : String
  /-- The text of the request. -/
  text : String
  deriving DecidableEq, Repr

namespace HttpRequest

/-- The request for a URL. -/
def ofUrl (url : String) : Except CommandError HttpRequest := do
  let some u := Url.parse? url | throw (.invalidUrl url)
  if u.scheme ≠ "http" then throw (.unsupportedScheme u.scheme)
  let some host := u.host | throw .missingHost
  let address := host.text ++ ":" ++ toString (u.port.getD 80).toNat
  let target := match u.query with
    | some query => u.path ++ "?" ++ query
    | none => u.path
  return ⟨address, "GET " ++ target ++ " HTTP/1.1\r\nHost: " ++ address ++
    "\r\nConnection: close\r\n\r\n"⟩

end HttpRequest

namespace Status

/-- The URL of the status in the API at a URL. -/
def urlOf (apiUrl : String) : String :=
  String.ofList (apiUrl.toList.reverse.dropWhile (· = '/')).reverse ++ "/status"

/-- What follows the first empty line, if there is one. -/
def content? : List Char → Option (List Char)
  | '\r' :: '\n' :: '\r' :: '\n' :: rest => some rest
  | _ :: rest => content? rest
  | [] => none

/-- What is printed of an answer: its content, or all of it if no empty line
ends its head. -/
def report (answer : Bytes) : String :=
  let text := Utf8.readLenient answer
  String.ofList ((content? text.toList).getD text.toList) ++ "\n"

end Status

end TernaryGossip
