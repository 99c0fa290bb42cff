import TernaryGossip.Url.Host

/-!
# URLs

    An absolute URL is read from a text in one pass: scheme, authority
    (user, host and port), path, query and fragment.  Blanks and controls at
    both ends are dropped, and so are tabs and line ends anywhere.

    The schemes `http`, `https`, `ws`, `wss`, `ftp` and `file` are special:
    a backslash counts as a slash, the slashes in front of the authority may
    be missing or too many, the host is a domain name, and the path is never
    empty.  The default port of a special scheme is the same as none.

    The text of a part is kept in its encoded form.
-/

namespace TernaryGossip

/-- An absolute URL. -/
structure Url where
  /-- The scheme, in small letters. -/
  scheme : String
  /-- The user name. -/
  username : String
  /-- The password; an empty one counts as none. -/
  password : Option String
  /-- The host; an empty one counts as none. -/
  host : Option Url.Host
  /-- The port, unless it is the default of the scheme. -/
  port : Option UInt16
  /-- The path. -/
  path : String
  /-- What follows the question mark. -/
  query : Option String
  /-- What follows the number sign. -/
  fragment : Option String
  deriving DecidableEq, Repr

namespace Url

/-! ## Schemes -/

/-- How the rest of a URL is read. -/
inductive SchemeKind
  /-- The scheme of files. -/
  | file
  /-- Another special scheme. -/
  | special
  /-- Any other scheme. -/
  | plain
  deriving DecidableEq, Repr

/-- The kind of a scheme. -/
def SchemeKind.of (scheme : String) : SchemeKind :=
  if scheme = "file" then .file
  else if ["http", "https", "ws", "wss", "ftp"].contains scheme then .special
  else .plain

/-- Backslashes count as slashes. -/
def SchemeKind.isSpecial (k : SchemeKind) : Bool := k != .plain

/-- The default port of a scheme. -/
def defaultPort? (scheme : String) : Option UInt16 :=
  if scheme = "http" ∨ scheme = "ws" then some 80
  else if scheme = "https" ∨ scheme = "wss" then some 443
  else if scheme = "ftp" then some 21
  else none

/-- The characters of a text that are read: not the blanks and controls at
its ends, and no tabs and line ends. -/
def significant (s : String) : List Char :=
  let blank := fun c : Char => c.toNat ≤ 0x20
  ((s.toList.dropWhile blank).reverse.dropWhile blank).reverse.filter
    fun c => c ≠ '\t' ∧ c ≠ '\n' ∧ c ≠ '\r'

/-- A character that may follow the first one of a scheme. -/
def inScheme (c : Char) : Bool := c.isAlphanum || c == '+' || c == '-' || c == '.'

/-- Reads the scheme and its colon. -/
def scheme? (cs : List Char) : Option (String × List Char) :=
  match cs with
  | [] => none
  | c :: _ =>
      if c.isAlpha then
        match cs.dropWhile inScheme with
        | ':' :: rest => some (String.ofList ((cs.takeWhile inScheme).map Char.toLower), rest)
        | _ => none
      else none

/-! ## Authority -/

/-- A character that ends the authority. -/
def endsAuthority (k : SchemeKind) (c : Char) : Bool :=
  c == '/' || c == '?' || c == '#' || (k.isSpecial && c == '\\')

/-- User name, password, and what follows them; `none` when something is
missing behind them. -/
def user? (k : SchemeKind) (cs : List Char) : Option (String × Option String × List Char) :=
  let authority := cs.takeWhile fun c => !endsAuthority k c
  if authority.contains '@' then
    let after := (authority.reverse.takeWhile (· ≠ '@')).reverse
    let credentials := authority.take (authority.length - after.length - 1)
    let rest := cs.drop (credentials.length + 1)
    if credentials.isEmpty ∧ (rest.head?.any (endsAuthority k)) then none
    else
      let name := credentials.takeWhile (· ≠ ':')
      let secret := credentials.drop (name.length + 1)
      let encoded := fun part => String.ofList (Percent.encode Percent.userinfo part)
      some (encoded name, if secret.isEmpty then none else some (encoded secret), rest)
  else some ("", none, cs)

/-- The characters of a host: up to a colon that is not in brackets, or to
the end of the authority. -/
def hostChars (k : SchemeKind) : Bool → List Char → List Char
  | _, [] => []
  | inside, c :: cs =>
      if (c = ':' ∧ !inside) ∨ endsAuthority k c then []
      else c :: hostChars k (if c = '[' then true else if c = ']' then false else inside) cs

/-- Reads the host; an empty one is refused under a special scheme. -/
def host? (k : SchemeKind) (cs : List Char) : Option (Host × List Char) :=
  let text := hostChars k false cs
  let rest := cs.drop text.length
  if k.isSpecial then
    if text.isEmpty then none else (Host.special? text).map (·, rest)
  else (Host.verbatim? text).map (·, rest)

/-- Reads the digits of a port, which the authority or a backslash ends. -/
def port? (cs : List Char) : Option (Option UInt16 × List Char) :=
  let digits := cs.takeWhile Char.isDigit
  let rest := cs.drop digits.length
  let n := digits.foldl (fun acc c => 10 * acc + (c.toNat - 48)) 0
  if n > 65535 then none
  else if rest.head?.all fun c => c == '/' || c == '\\' || c == '?' || c == '#' then
    some (if digits.isEmpty then none else some (UInt16.ofNat n), rest)
  else none

/-! ## Path, query and fragment -/

/-- A path segment that stands for the one it is in. -/
def isSingleDot (segment : List Char) : Bool :=
  [".", "%2e", "%2E"].contains (String.ofList segment)

/-- A path segment that stands for the one above. -/
def isDoubleDot (segment : List Char) : Bool :=
  ["..", "%2e%2e", "%2e%2E", "%2E%2e", "%2E%2E", "%2e.", "%2E.", ".%2e", ".%2E"].contains
    (String.ofList segment)

/-- The segments of a path, between its slashes. -/
def segments (k : SchemeKind) (cs : List Char) : List (List Char) :=
  Text.pieces (fun c => c == '/' || (k.isSpecial && c == '\\')) cs

/-- A path segment that begins with the name of a drive: a letter and a colon
or a bar. -/
def beginsWithDrive : List Char → Bool
  | a :: b :: rest => a.isAlpha && (b == ':' || b == '|') && rest.head?.all (· == '\\')
  | _ => false

/-- The segments above, in reverse; nothing is above a drive. -/
def above : List (List Char) → List (List Char)
  | [] => []
  | s :: rest => if beginsWithDrive s then s :: rest else rest

/-- Resolves dots: the segments so far in reverse, and those to come. -/
def resolve (done : List (List Char)) : List (List Char) → List (List Char)
  | [] => done.reverse
  | s :: rest =>
      if isDoubleDot s then
        resolve (if rest.isEmpty then [] :: above done else above done) rest
      else if isSingleDot s then resolve (if rest.isEmpty then [] :: done else done) rest
      else resolve (s :: done) rest

/-- The path that follows an authority. -/
def pathAfter (k : SchemeKind) (cs : List Char) : List Char :=
  if cs.isEmpty ∧ !k.isSpecial then []
  else
    let body := match cs with
      | '/' :: rest => rest
      | '\\' :: rest => if k.isSpecial then rest else cs
      | _ => cs
    (resolve [] ((segments k body).map (Percent.encode Percent.path))).flatMap fun s => '/' :: s

/-- The parts behind the path: query and fragment. -/
def trailer (k : SchemeKind) (cs : List Char) : Option String × Option String :=
  let fragmentOf := fun cs : List Char => match cs with
    | '#' :: f => some (String.ofList (Percent.encode Percent.fragment f))
    | _ => none
  match cs with
  | '?' :: rest =>
      let q := rest.takeWhile (· ≠ '#')
      let set := if k.isSpecial then Percent.specialQuery else Percent.query
      (some (String.ofList (Percent.encode set q)), fragmentOf (rest.drop q.length))
  | _ => (none, fragmentOf cs)

/-- The characters of a path: up to a question mark or a number sign. -/
def pathChars (cs : List Char) : List Char := cs.takeWhile fun c => c ≠ '?' ∧ c ≠ '#'

/-! ## Reading -/

/-- Reads a URL from its authority on. -/
def withAuthority? (scheme : String) (cs : List Char) : Option Url := do
  let k := SchemeKind.of scheme
  let (username, password, cs) ← user? k cs
  let (host, cs) ← host? k cs
  let noHost := host = .domain ""
  if noHost ∧ (cs.head? = some ':' ∨ username ≠ "" ∨ password ≠ none) then none
  else
    let (port, cs) ← match cs with
      | ':' :: rest => port? rest
      | _ => some (none, cs)
    let path := pathChars cs
    let (query, fragment) := trailer k (cs.drop path.length)
    return { scheme, username, password
             host := if noHost then none else some host
             port := if port = defaultPort? scheme then none else port
             path := String.ofList (pathAfter k path), query, fragment }

/-- Reads a URL of another than the special schemes that has no authority. -/
def withoutAuthority (scheme : String) (cs : List Char) : Url :=
  let path := pathChars cs
  let (query, fragment) := trailer .plain (cs.drop path.length)
  let text := match path with
    | '/' :: _ => pathAfter .plain path
    | _ => Percent.encode Percent.control path
  { scheme, username := "", password := none, host := none, port := none
    path := String.ofList text, query, fragment }

/-- A letter and a colon or a bar: the name of a drive. -/
def isDrive (cs : List Char) : Bool :=
  match cs with
  | [a, b] => a.isAlpha && (b == ':' || b == '|')
  | _ => false

/-- Reads the URL of a file. -/
def file? (cs : List Char) : Option Url :=
  let slash := fun c : Option Char => c == some '/' || c == some '\\'
  let plain := fun (host : Option Host) (cs : List Char) =>
    let path := pathChars cs
    let (query, fragment) := trailer .file (cs.drop path.length)
    ({ scheme := "file", username := "", password := none, host, port := none
       path := String.ofList (pathAfter .file path), query, fragment } : Url)
  if slash cs.head? ∧ slash (cs.drop 1).head? then
    let rest := cs.drop 2
    let text := rest.takeWhile fun c => !endsAuthority .file c
    if text.isEmpty ∨ isDrive text then some (plain none rest)
    else
      (Host.special? text).map fun h =>
        plain (if h = .domain "localhost" then none else some h) (rest.drop text.length)
  else some (plain none cs)

/-- Reads an absolute URL. -/
def parse? (s : String) : Option Url := do
  let (scheme, cs) ← scheme? (significant s)
  match SchemeKind.of scheme with
  | .file => file? cs
  | .special => withAuthority? scheme (cs.dropWhile fun c => c = '/' ∨ c = '\\')
  | .plain =>
      match cs with
      | '/' :: '/' :: rest => withAuthority? scheme rest
      | _ => some (withoutAuthority scheme cs)

end Url

end TernaryGossip
