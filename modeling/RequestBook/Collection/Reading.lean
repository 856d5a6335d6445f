import RequestBook.Collection.Basic
import RequestBook.Files
import RequestBook.Json.Printer

/-!
# Reading and saving collections

A JSON value is checked against the shape of a collection. Every issue is found, in the
order of the members, and the collection is read only if there is none. A collection is saved
as the text of its JSON value.
-/

namespace RequestBook

/-- A value, or every issue found on the way to it. -/
abbrev Checked (α : Type) := Except (List Issue) α

namespace Checked

def fail (kind : IssueKind) : Checked α := .error [⟨[], kind⟩]

/-- The issues of a part, under the step that leads to it. -/
def within (step : PathStep) : Checked α → Checked α
  | .error issues => .error (issues.map fun i => { i with path := step :: i.path })
  | .ok a => .ok a

/-- Both values, or the issues of both. -/
def both (f : α → β → γ) : Checked α → Checked β → Checked γ
  | .ok a, .ok b => .ok (f a b)
  | .error xs, .error ys => .error (xs ++ ys)
  | .error xs, .ok _ => .error xs
  | .ok _, .error ys => .error ys

def text : Json → Checked String
  | .str s => .ok s
  | _ => fail .notString

def items : Json → Checked (List Json)
  | .arr xs => .ok xs
  | _ => fail .notList

def object : Json → Checked (List (String × Json))
  | .obj members => .ok members
  | _ => fail .notObject

/-- Every item read, with the issues of all of them. -/
def each (read : Json → Checked α) (xs : List Json) : Checked (List α) :=
  go 0 xs
where
  go : Nat → List Json → Checked (List α)
    | _, [] => .ok []
    | n, x :: rest => both List.cons (within (.index n) (read x)) (go (n + 1) rest)

/-- A member that has to be there. -/
def member (name : String) (read : Json → Checked α) (members : List (String × Json)) :
    Checked α :=
  within (.member name) <|
    match members.lookup name with
    | some j => read j
    | none => fail .missing

/-- A member that may be absent. -/
def memberOr (name : String) (absent : α) (read : Json → Checked α)
    (members : List (String × Json)) : Checked α :=
  match members.lookup name with
  | some j => within (.member name) (read j)
  | none => .ok absent

end Checked

open Checked

def Endpoint.check (j : Json) : Checked Endpoint := do
  let m ← object j
  let texts := fun (j : Json) => items j >>= each text
  both (fun (raw, protocol) (host, path) => ⟨raw, protocol, host, path⟩)
    (both Prod.mk (member "raw" text m) (member "protocol" text m))
    (both Prod.mk (member "host" texts m) (member "path" texts m))

def RequestBody.check (j : Json) : Checked RequestBody := do
  let m ← object j
  let content := fun (j : Json) => do
    let m ← object j
    both Prod.mk (member "query" text m) (member "variables" text m)
  both (fun mode (query, values) => ⟨mode, query, values⟩)
    (memberOr "mode" "graphql" text m) (member "graphql" content m)

def Request.check (j : Json) : Checked Request := do
  let m ← object j
  both (fun (method, header) (body, url) => ⟨method, header, body, url⟩)
    (both Prod.mk (memberOr "method" "POST" text m) (memberOr "header" [] items m))
    (both Prod.mk (member "body" RequestBody.check m) (member "url" Endpoint.check m))

def Item.check (j : Json) : Checked Item := do
  let m ← object j
  both (fun name (request, response) => ⟨name, request, response⟩)
    (member "name" text m)
    (both Prod.mk (member "request" Request.check m) (memberOr "response" [] items m))

/-- The format may stand under either of two names; the first one goes before. -/
def checkInfo (j : Json) : Checked (String × String) := do
  let m ← object j
  let format := match m.lookup "schema", m.lookup "schema_" with
    | none, some j => within (.member "schema") (text j)
    | some j, _ => within (.member "schema") (text j)
    | none, none => .ok collectionFormat
  both Prod.mk (member "name" text m) format

namespace Collection

def check (j : Json) : Checked Collection := do
  let m ← object j
  both (fun (name, format) items => ⟨name, format, items⟩)
    (member "info" checkInfo m)
    (memberOr "item" [] (fun j => Checked.items j >>= each Item.check) m)

/-- The collection that a JSON value describes. -/
def ofJson (j : Json) : Except Failure Collection :=
  (check j).mapError .invalidCollection

/-- The text of a saved collection. -/
def fileText (c : Collection) : Except Failure String :=
  if c.toJson.isWritable then .ok c.toJson.tabbed else .error .hugeInteger

/-- Where a collection that is saved under a path goes, and its text. -/
def fileAt (c : Collection) (fs : Files) (path : String) : Except Failure (Place × String) := do
  let place ← fs.destination path
  let text ← c.fileText
  return (place, text)

end Collection

end RequestBook
