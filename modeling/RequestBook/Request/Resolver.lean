import RequestBook.Request.Synthesis

/-!
# Resolvers

All requests of one run are made by one resolver, which remembers every argument and every
field that it has formatted, by name. A name keeps the place of its first use and has the
texts of its last. What is remembered outlives a failure.
-/

namespace RequestBook

/-- Values remembered by name, in the order in which the names first came up. -/
abbrev Memory (α : Type) := List (Json × α)

structure Resolver where
  arguments : Memory FormattedArgument
  fields : Memory String

namespace Resolver

/-- A resolver that has formatted nothing yet. -/
def empty : Resolver := ⟨[], []⟩

def rememberArgument (name : Json) (formatted : FormattedArgument) (r : Resolver) : Resolver :=
  { r with arguments := Entries.put Json.samePart name formatted r.arguments }

def rememberField (name : Json) (line : String) (r : Resolver) : Resolver :=
  { r with fields := Entries.put Json.samePart name line r.fields }

end Resolver

/-- Work on a resolver, which may fail. -/
abbrev Resolving := ExceptT Failure (StateM Resolver)

namespace Resolving

/-- The outcome of work on a resolver, and the resolver afterwards. -/
def outcome (work : Resolving α) (r : Resolver) : Except Failure α × Resolver := StateT.run work.run r

/-- The outcome of work on a resolver of its own. -/
def fresh (work : Resolving α) : Except Failure α := (work.outcome .empty).1

end Resolving

/-- Formats and remembers. -/
def Formatter.remembering : Formatter Resolving where
  argument a := do
    let formatted ← ofExcept a.format
    modify (·.rememberArgument a.name formatted)
    return formatted
  field f := do
    let line ← ofExcept f.format
    modify (·.rememberField f.name line)
    return line

end RequestBook
