import RequestBook.Json.Display

/-!
# Schemas

What a server says about itself: its types, their fields and the arguments of those
fields, in the order of its answer. Names and descriptions are whatever JSON value the
server sent; normally they are texts.
-/

namespace RequestBook

/-- The kinds of types. A kind that is none of the eight known ones keeps its spelling. -/
inductive Kind where
  | scalar | object | interface | union | enum | inputObject | list | nonNull
  | other (spelling : String)
  deriving DecidableEq, Repr

namespace Kind

def spelling : Kind → String
  | scalar => "SCALAR"
  | object => "OBJECT"
  | interface => "INTERFACE"
  | union => "UNION"
  | enum => "ENUM"
  | inputObject => "INPUT_OBJECT"
  | list => "LIST"
  | nonNull => "NON_NULL"
  | other s => s

def ofSpelling : String → Kind
  | "SCALAR" => scalar
  | "OBJECT" => object
  | "INTERFACE" => interface
  | "UNION" => union
  | "ENUM" => enum
  | "INPUT_OBJECT" => inputObject
  | "LIST" => list
  | "NON_NULL" => nonNull
  | s => other s

def isKnown : Kind → Bool
  | other _ => false
  | _ => true

def isWrapper (k : Kind) : Bool := k == list || k == nonNull

theorem spelling_ofSpelling (s : String) : (ofSpelling s).spelling = s := by
  unfold ofSpelling
  split <;> rfl

end Kind

/-- A reference to a type: the name and kind of a leaf under any number of wrappers. -/
inductive TypeRef where
  | named (name : Json) (kind : Kind)
  | list (item : TypeRef)
  | nonNull (item : TypeRef)
  deriving Repr

namespace TypeRef

/-- The kind of the outermost part. -/
def kind : TypeRef → Kind
  | named _ k => k
  | list _ => .list
  | nonNull _ => .nonNull

def leafName : TypeRef → Json
  | named n _ => n
  | list t | nonNull t => t.leafName

def leafKind : TypeRef → Kind
  | named _ k => k
  | list t | nonNull t => t.leafKind

/-- The reference as the request language writes it. -/
def signature : TypeRef → String
  | named n _ => n.plain
  | list t => "[" ++ t.signature ++ "]"
  | nonNull t => t.signature ++ "!"

/-- As `signature`; a bare leaf stands for its name even if that is no text. -/
def signatureValue : TypeRef → Json
  | named n _ => n
  | t => .str t.signature

end TypeRef

structure Argument where
  name : Json
  type : TypeRef
  description : Json
  defaultValue : Json
  deriving Repr

structure Field where
  name : Json
  type : TypeRef
  description : Json
  arguments : List Argument
  deriving Repr

structure SchemaType where
  name : Json
  kind : Kind
  description : Json
  fields : List Field
  deriving Repr

structure Schema where
  types : List SchemaType
  deriving Repr

namespace Schema

/-- The first type of that name. -/
def find? (s : Schema) (name : Json) : Option SchemaType :=
  s.types.find? fun t => t.name.same name

def query? (s : Schema) : Option SchemaType := s.find? (.str "Query")

def mutation? (s : Schema) : Option SchemaType := s.find? (.str "Mutation")

end Schema

end RequestBook
