import TernaryGossip.Api.Answer
import TernaryGossip.Text.Utf8

/-!
# Requests and answers as bytes

    A request begins with a line of three words: what to do, with which
    target, and the form of the message.  One blank stands between two of
    them.  The head of a request ends at the first empty line.  An
    answer states its status, the kind and the length of its content, and
    that the connection ends with it.
-/

namespace TernaryGossip.Api

/-- What a client asks for. -/
structure Request where
  /-- What to do. -/
  method : Method
  /-- What it is about. -/
  target : String
  deriving DecidableEq, Repr

namespace Request

/-- The head of a request is there up to its empty line. -/
def isComplete : Bytes → Bool
  | 13 :: 10 :: 13 :: 10 :: _ => true
  | _ :: rest => isComplete rest
  | [] => false

/-- The first line of a message. -/
def firstLine (b : Bytes) : Bytes := b.takeWhile fun x => x ≠ 13 ∧ x ≠ 10

/-- A word in a line has no blanks and no controls. -/
def isWord (word : String) : Bool :=
  word ≠ "" && word.toList.all fun c => 0x20 < c.toNat && c.toNat ≠ 0x7f

/-- Reads the first line of a request. -/
def ofBytes? (b : Bytes) : Option Request := do
  let line ← (Utf8.read (firstLine b)).toOption
  match line.splitOn " " with
  | [method, target, form] =>
      if isWord method ∧ isWord target ∧ (form = "HTTP/1.0" ∨ form = "HTTP/1.1") then
        some ⟨.ofName method, target⟩
      else none
  | _ => none

end Request

namespace Response

/-- The words for a status. -/
def reason : Nat → String
  | 200 => "OK"
  | 400 => "Bad Request"
  | 404 => "Not Found"
  | 405 => "Method Not Allowed"
  | 414 => "URI Too Long"
  | _ => "Internal Server Error"

/-- The kind and the text of a content. -/
def content : Body → String × String
  | .empty => ("", "")
  | .plain text => ("text/plain; charset=utf-8", text)
  | .json value => ("application/json", value.compact)

/-- The bytes of an answer. -/
def bytes (r : Response) : Bytes :=
  let (kind, text) := content r.body
  let content := Bytes.ofText text
  Bytes.ofText ("HTTP/1.1 " ++ toString r.status ++ " " ++ reason r.status ++ "\r\n" ++
    (if kind = "" then "" else "content-type: " ++ kind ++ "\r\n") ++
    "content-length: " ++ toString content.length ++
    "\r\naccess-control-allow-origin: *\r\nconnection: close\r\n\r\n") ++ content

/-- The answer to bytes that are no request. -/
def malformed : Response := ⟨400, .empty⟩

end Response

end TernaryGossip.Api
