import RequestBook.Text.Layout
import RequestBook.Text.Pieces
import RequestBook.Text.Resemblance

/-!
# Options

How arguments are read against a list of options. A long option takes its value from behind an
equals sign or from the next argument; short options may share an argument, in which the first
that needs a value takes the rest. An argument of two hyphens ends the options.
-/

namespace RequestBook.CommandLine

/-- An option that a command knows under the name `id`. -/
structure Opt (α : Type) where
  id : α
  short : Option Char
  /-- The long form, with its two hyphens. -/
  long : String
  /-- What the help calls the value; a flag has none. -/
  metavar : String
  help : String
  /-- What the help adds about the value. -/
  note : String

inductive OptionFault where
  | unknown (name : String) (close : List String)
  | missingValue (name : String)
  | unexpectedValue (name : String)
  deriving DecidableEq, Repr

/-- The options that arguments give, with a value each, and the words beside them. -/
structure Given (α : Type) where
  options : List (α × String)
  words : List String

/-- An option whose value has not been read, and the form in which it was given. -/
structure Pending (α : Type) where
  id : α
  form : String

/-- What one argument gives. -/
structure Taken (α : Type) where
  complete : List (α × String)
  pending : Option (Pending α)

namespace Opt

def takesValue (o : Opt α) : Bool := o.metavar ≠ ""

/-- The forms of the option as a message quotes them. -/
def hint (o : Opt α) : String :=
  "'" ++ o.long ++ "'" ++ (o.short.map fun c => " / '-" ++ c.toString ++ "'").getD ""

end Opt

namespace Given

/-- More options in front. -/
def withOptions (g : Given α) (options : List (α × String)) : Given α :=
  { g with options := options ++ g.options }

def withWord (g : Given α) (word : String) : Given α := { g with words := word :: g.words }

/-- All values of an option. -/
def values [DecidableEq α] (g : Given α) (id : α) : List String :=
  (g.options.filter (·.1 = id)).map (·.2)

/-- The last value of an option. -/
def value? [DecidableEq α] (g : Given α) (id : α) : Option String := (g.values id).getLast?

def has [DecidableEq α] (g : Given α) (id : α) : Bool := !(g.values id).isEmpty

end Given

/-- Short options in one argument, hyphen aside. -/
def readShort (opts : List (Opt α)) : List Char → Except OptionFault (Taken α)
  | [] => .ok ⟨[], none⟩
  | c :: cs =>
    match opts.find? fun o => o.short = some c with
    | none => .error (.unknown ("-" ++ c.toString) [])
    | some o =>
      if o.takesValue then
        if cs.isEmpty then .ok ⟨[], some ⟨o.id, "-" ++ c.toString⟩⟩
        else .ok ⟨[(o.id, String.ofList cs)], none⟩
      else (readShort opts cs).map fun t => ⟨(o.id, "") :: t.complete, t.pending⟩

/-- An argument that starts with a hyphen. A long option may start with one hyphen only, so that
form is tried first. -/
def readOption (opts : List (Opt α)) (arg : String) : Except OptionFault (Taken α) :=
  let (name, value) := match Text.cutAt ['='] arg.toList with
    | some (name, value) => (String.ofList name, some (String.ofList value))
    | none => (arg, none)
  match opts.find? fun o => o.long = name with
  | some o =>
    match o.takesValue, value with
    | true, some value => .ok ⟨[(o.id, value)], none⟩
    | true, none => .ok ⟨[], some ⟨o.id, name⟩⟩
    | false, some _ => .error (.unexpectedValue name)
    | false, none => .ok ⟨[(o.id, "")], none⟩
  | none =>
    if arg.startsWith "--" then .error (.unknown name (Text.closeNames name (opts.map (·.long))))
    else readShort opts (arg.toList.drop 1)

/-- What arguments give. Where options are not `mixed` with words, the first word ends them. -/
def readArguments (opts : List (Opt α)) (mixed : Bool) :
    List String → Except OptionFault (Given α)
  | [] => .ok ⟨[], []⟩
  | arg :: rest =>
    if arg = "--" then .ok ⟨[], rest⟩
    else if arg.startsWith "-" ∧ arg ≠ "-" then
      match readOption opts arg with
      | .error fault => .error fault
      | .ok ⟨complete, none⟩ => (readArguments opts mixed rest).map (·.withOptions complete)
      | .ok ⟨complete, some pending⟩ =>
        match rest with
        | [] => .error (.missingValue pending.form)
        | value :: rest =>
          (readArguments opts mixed rest).map
            (·.withOptions (complete ++ [(pending.id, value)]))
    else if mixed then (readArguments opts mixed rest).map (·.withWord arg)
    else .ok ⟨[], arg :: rest⟩

end RequestBook.CommandLine
