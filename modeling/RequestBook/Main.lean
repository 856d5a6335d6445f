import RequestBook.CommandLine.Run

/-!
# The program

The outer layer of a run: it collects what the arguments name, and writes what comes of them.
There is no way to a server from here, so a run that needs one fails as it does without a
network.
-/

namespace RequestBook.CommandLine

/-- What the system has under a path whose last name stands in a directory. -/
def entryAt? (path : String) : IO (Option Entry) := do
  try
    return some (.file (← IO.FS.readBinFile path).toList)
  catch
    | .inappropriateType .. => return some .directory
    | _ => return none

/-- The entries on the way from a directory along some names. -/
def entriesAlong (start : Place) : List String → IO (List (Place × Entry))
  | [] => return []
  | name :: rest => do
    let place := if name = ".." then start.parent else start ++ [name]
    match ← entryAt? place.text with
    | some .directory => return (place, .directory) :: (← entriesAlong place rest)
    | some e => return [(place, e)]
    | none => return []

/-- The files that arguments may mean: every argument and every value in one is tried as a
path, alone and as a directory of templates. -/
def filesOf (args : List String) : IO Files := do
  let values := args.flatMap fun arg =>
    let cs := arg.toList
    [arg, String.ofList (cs.drop 2), String.ofList ((cs.dropWhile (· ≠ '=')).drop 1)]
  let entries ← (values.filter (· ≠ "")).mapM fun path =>
    entriesAlong (pathStart path) (pathSteps path ++ [templateName])
  return ⟨entries.flatten⟩

/-- Writes a file and the directories it needs. -/
def save (place : Place) (text : String) : IO Unit := do
  let directory : Place := place.dropLast
  unless directory.isEmpty do IO.FS.createDirAll directory.text
  IO.FS.writeFile place.text text

def levelText : Level → String
  | .debug => "DEBUG"
  | .info => "INFO"
  | .error => "ERROR"

end RequestBook.CommandLine

open RequestBook CommandLine in
def main (args : List String) : IO UInt32 := do
  let environment : Environment :=
    ⟨← IO.getEnv "GQL_POSTMAN_TOKEN", ← IO.getEnv "GQL_POSTMAN_API_KEY"⟩
  let outcome := run args ⟨environment, ← filesOf args, .broken "offline"⟩
  for (place, text) in outcome.saved do save place text
  for e in outcome.events do IO.eprintln (levelText e.level ++ " " ++ e.message)
  IO.print outcome.output
  IO.eprint outcome.errors
  for f in outcome.failure do IO.eprintln ("Error: " ++ f.message)
  return UInt32.ofNat outcome.exitCode
