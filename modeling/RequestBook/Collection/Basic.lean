import RequestBook.Json.Basic
import RequestBook.Request.Endpoint

/-!
# Collections

The document that the requests are handed over in: a name, and one item per request,
each posting an operation with its variables to the endpoint.
-/

namespace RequestBook

/-- The format that a collection declares. -/
def collectionFormat : String :=
  "https://schema.getpostman.com/json/collection/v2.1.0/collection.json"

structure RequestBody where
  mode : String
  query : String
  /-- The values of the query's variables. -/
  values : String
  deriving Repr

structure Request where
  method : String
  header : List Json
  body : RequestBody
  url : Endpoint
  deriving Repr

structure Item where
  name : String
  request : Request
  response : List Json
  deriving Repr

structure Collection where
  name : String
  format : String
  items : List Item
  deriving Repr

def Json.texts (xs : List String) : Json := .arr (xs.map .str)

def Endpoint.toJson (e : Endpoint) : Json :=
  .obj [("raw", .str e.raw), ("protocol", .str e.protocol), ("host", .texts e.host),
    ("path", .texts e.path)]

def RequestBody.toJson (b : RequestBody) : Json :=
  .obj [("mode", .str b.mode),
    ("graphql", .obj [("query", .str b.query), ("variables", .str b.values)])]

def Request.toJson (r : Request) : Json :=
  .obj [("method", .str r.method), ("header", .arr r.header), ("body", r.body.toJson),
    ("url", r.url.toJson)]

def Item.toJson (i : Item) : Json :=
  .obj [("name", .str i.name), ("request", i.request.toJson), ("response", .arr i.response)]

def Collection.toJson (c : Collection) : Json :=
  .obj [("info", .obj [("name", .str c.name), ("schema", .str c.format)]),
    ("item", .arr (c.items.map Item.toJson))]

end RequestBook
