import RemoteShell.Http.Message
import RemoteShell.Hub.Basic
import RemoteShell.Secret

/-!
# Access to a hub

A hub has one key. A request shows it in its first `Authorization` header, after
the word `Bearer`, or, where a session is opened, in the query.
-/

namespace RemoteShell.Hub

/-- The word before a key in a header, with the space after it. -/
def bearer : List Char := "Bearer ".toList

/-- The key that a request shows in its header. -/
def shownKey? (request : Http.Request) : Option String := do
  let text ← Http.visibleText? (← request.header? "authorization")
  if bearer.isPrefixOf text then return .ofList (text.drop bearer.length) else failure

/-- Tells whether a key is the one of the hub. -/
def acceptsKey (hub : Hub) (key : String) : Bool := isKey hub.settings.auth.apiKey key

/-- The refusal of a request that does not show the key; none if it does. -/
def refusal? (hub : Hub) (request : Http.Request) : Option Http.Response :=
  match shownKey? request with
  | none =>
    some (.json 401 [("error", Http.jsonText "Missing or invalid Authorization header")])
  | some key =>
    if hub.acceptsKey key then none
    else some (.json 403 [("error", Http.jsonText "Invalid API key")])

end RemoteShell.Hub
