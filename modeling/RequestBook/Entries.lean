/-!
# Entries

Values under keys, in the order in which the keys were first written. Writing under a key
that is there replaces its value and nothing else.
-/

namespace RequestBook.Entries

/-- The entries with one more, or with its value replaced where the key is there already. -/
def put (same : κ → κ → Bool) (key : κ) (value : α) : List (κ × α) → List (κ × α)
  | [] => [(key, value)]
  | (other, old) :: rest =>
    if same other key then (other, value) :: rest else (other, old) :: put same key value rest

/-- All of `new` written, one after the other. -/
def putAll (same : κ → κ → Bool) (new entries : List (κ × α)) : List (κ × α) :=
  new.foldl (fun entries (key, value) => put same key value entries) entries

end RequestBook.Entries
