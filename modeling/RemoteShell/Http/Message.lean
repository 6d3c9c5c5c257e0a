import RemoteShell.Json.Printer
import RemoteShell.Text.Utf8

/-!
# Requests and answers

What a request asks for and what it is answered with. The names of headers are
compared without regard to case; their values are bytes.
-/

namespace RemoteShell.Http

/-- A request. -/
structure Request where
  method : String
  /-- The path, and after a question mark the query. -/
  target : String
  headers : List (String × List UInt8)
  /-- Whether the connection can be taken over by another protocol. -/
  canSwitch : Bool
  deriving Repr

/-- An answer. -/
structure Response where
  status : Nat
  contentType : Option String
  body : String
  /-- The methods that the path takes, if the request had another one. -/
  allow : Option String
  deriving DecidableEq, Repr

namespace Request

/-- The target without a fragment. -/
def address (request : Request) : List Char := request.target.toList.takeWhile (· ≠ '#')

/-- The path. -/
def path (request : Request) : String := .ofList (request.address.takeWhile (· ≠ '?'))

/-- The query; an empty one if there is none. -/
def query (request : Request) : String :=
  .ofList ((request.address.dropWhile (· ≠ '?')).drop 1)

/-- The value of the first header with a name. The name is given in lower case. -/
def header? (request : Request) (name : String) : Option (List UInt8) :=
  (request.headers.find? fun (key, _) => key.toLower = name).map (·.2)

end Request

/-- Tells whether a byte is a tab or a printable character of the ASCII range. -/
def isVisible (byte : UInt8) : Bool := byte = 9 || (32 ≤ byte && byte < 127)

/-- The text of a header value, if all of it is visible. -/
def visibleText? (value : List UInt8) : Option (List Char) :=
  if value.all isVisible then some (value.map fun byte => Char.ofNat byte.toNat) else none

namespace Response

/-- An answer without a body. -/
def bare (status : Nat) : Response := ⟨status, none, "", none⟩

/-- An answer of plain text. -/
def text (status : Nat) (body : String) : Response :=
  ⟨status, some "text/plain; charset=utf-8", body, none⟩

/-- An answer in JSON: an object with these members. -/
def json (status : Nat) (members : List (String × List Char)) : Response :=
  ⟨status, some "application/json", .ofList (Json.printObject members), none⟩

/-- The refusal of a method by a path that takes others. -/
def methodNotAllowed : Response := bare 405

/-- The answer for one who only asks what the answer would be. -/
def withoutBody (response : Response) : Response := { response with body := "" }

end Response

/-- A text as it stands in a JSON answer. -/
def jsonText (text : String) : List Char := Json.printText text.toList

/-- A number as it stands in a JSON answer. -/
def jsonNat (n : Nat) : List Char := Json.printInt n

end RemoteShell.Http
