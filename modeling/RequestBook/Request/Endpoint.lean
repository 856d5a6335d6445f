import RequestBook.Failure
import RequestBook.Text.Pieces

/-!
# Endpoints

A URL taken apart at its first `://`, then at slashes, and the authority at points. The
parts put together again give the URL back, so nothing of it is lost in a request.
-/

namespace RequestBook

structure Endpoint where
  raw : String
  protocol : String
  host : List String
  path : List String
  deriving DecidableEq, Repr

namespace Endpoint

def ofUrl (url : String) : Except Failure Endpoint :=
  match Text.cutAt [':', '/', '/'] url.toList with
  | none => .error (.relativeUrl url)
  | some (protocol, rest) =>
    let parts := Text.pieces '/' rest
    let authority := parts.headD []
    .ok ⟨url, String.ofList protocol, (Text.pieces '.' authority).map String.ofList,
      (parts.drop 1).map String.ofList⟩

/-- Everything between the scheme and the path, as it stands in the URL. -/
def authority (e : Endpoint) : String := Text.separated "." e.host

/-- What the collection of this endpoint is called. -/
def collectionName (e : Endpoint) : String := e.authority ++ "-autoGQL"

/-- Where the collection of this endpoint goes unless the user says otherwise. -/
def defaultOutput (e : Endpoint) : String := e.authority ++ ".postman_collection.json"

end Endpoint

end RequestBook
