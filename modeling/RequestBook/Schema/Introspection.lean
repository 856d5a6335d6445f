import RequestBook.Failure
import RequestBook.Schema.Basic

/-!
# Reading introspection results

A server describes its schema as JSON. The description may be the whole response, its
`data` member, or an object around the schema alone. Reading keeps every type, field
and argument in order and stops at the first part that cannot be read.
-/

namespace RequestBook

namespace Json

theorem sizeOf_lookup_lt {members : List (String × Json)} {name : String} {v : Json}
    (h : members.lookup name = some v) : sizeOf v < sizeOf members := by
  induction members with
  | nil => simp at h
  | cons m rest ih =>
    obtain ⟨key, value⟩ := m
    rw [List.lookup_cons] at h
    split at h
    · obtain rfl := Option.some.inj h
      simp
      omega
    · have := ih h
      simp
      omega

end Json

open Json

/-- The members of a value that has to be an object. -/
def Json.objectMembers (j : Json) : Except Failure (List (String × Json)) :=
  match j with
  | .obj members => .ok members
  | _ => .error (.shape (@.notObject j.typeName))

/-- A member that has to be there. -/
def Json.required (name : String) (j : Json) : Except Failure Json :=
  match j with
  | .obj members =>
    match members.lookup name with
    | some value => .ok value
    | none => .error (.shape (.missingMember name))
  | _ => .error (.shape (@.notIndexable j.typeName))

/-- The parts of a value that is read one after the other: the items of a list, the
characters of a text, the names of an object. What counts as absent has no parts. -/
def Json.parts (j : Json) : Except Failure (List Json) :=
  if !j.truthy then .ok []
  else match j with
    | .arr items => .ok items
    | .str s => .ok (s.toList.map fun c => .str c.toString)
    | .obj members => .ok (members.map fun (name, _) => .str name)
    | _ => .error (.shape (@.notIterable j.typeName))

def Kind.ofJson (j : Json) : Except Failure Kind :=
  match j with
  | .str s => if s = "" then .error (.integrity (.badKind j)) else .ok (.ofSpelling s)
  | _ => .error (.integrity (.badKind j))

/-- A chain of wrappers linked by `ofType`, down to a named leaf. -/
def TypeRef.ofJson (j : Json) : Except Failure TypeRef :=
  match j with
  | .obj members => do
    let kind ← Kind.ofJson (j.memberOrNull "kind")
    if kind.isWrapper then
      match h : members.lookup "ofType" with
      | none | some .null => .error (.integrity (.cutWrapper kind.spelling))
      | some inner =>
        have := sizeOf_lookup_lt h
        let item ← TypeRef.ofJson inner
        return if kind = .list then .list item else .nonNull item
    else
      let name := j.memberOrNull "name"
      if name.truthy then return .named name kind
      else .error (.integrity (.unnamedReference kind.spelling))
  | _ => .error (.integrity .missingReference)
termination_by j

def Argument.ofJson (j : Json) : Except Failure Argument := do
  let name ← j.required "name"
  let type ← TypeRef.ofJson (← j.required "type")
  return ⟨name, type, j.memberOrNull "description", j.memberOrNull "defaultValue"⟩

def Field.ofJson (j : Json) : Except Failure Field := do
  let name ← j.required "name"
  let type ← TypeRef.ofJson (← j.required "type")
  let arguments ← (← (j.memberOrNull "args").parts).mapM Argument.ofJson
  return ⟨name, type, j.memberOrNull "description", arguments⟩

/-- The member that lists the fields of a type of that kind. -/
def Kind.fieldsMember (k : Kind) : String :=
  if k = .inputObject then "inputFields" else "fields"

def SchemaType.ofJson (j : Json) : Except Failure SchemaType := do
  let _ ← j.objectMembers
  let kind ← Kind.ofJson (j.memberOrNull "kind")
  let name ← j.required "name"
  let fields ← (← (j.memberOrNull kind.fieldsMember).parts).mapM Field.ofJson
  return ⟨name, kind, j.memberOrNull "description", fields⟩

namespace Schema

/-- The schema inside a response, its data, or an object around it. -/
def node? (j : Json) : Option Json :=
  match ((j.member? "data").getD j).member? "__schema" with
  | some (.obj members) => some (.obj members)
  | _ => none

def ofJson (j : Json) : Except Failure Schema :=
  match node? j with
  | none => .error (.integrity .noSchema)
  | some node =>
    match node.memberOrNull "types" with
    | .arr types => Schema.mk <$> types.mapM SchemaType.ofJson
    | _ => .error (.integrity .noTypes)

end Schema

end RequestBook
