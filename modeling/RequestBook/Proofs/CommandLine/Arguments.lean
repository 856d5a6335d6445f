import RequestBook.CommandLine.Options

/-!
# Arguments in two runs

What reading arguments makes of two lists of arguments that give the same words and the same
options, apart from the options that one does not want to tell apart. Such options may have other
values, stand elsewhere or be missing; what is read of everything else is the same, the faults
included.
-/

namespace RequestBook.CommandLine

variable {α : Type} {opts : List (Opt α)} {hidden : α → Bool} {mixed : Bool}

/-- An argument that is read as options. -/
def IsHyphened (arg : String) : Prop := arg ≠ "--" ∧ arg.startsWith "-" = true ∧ arg ≠ "-"

instance (arg : String) : Decidable (IsHyphened arg) :=
  inferInstanceAs (Decidable (arg ≠ "--" ∧ arg.startsWith "-" = true ∧ arg ≠ "-"))

/-- An argument that gives options, with the value of the last one behind it or not, or nothing at
all. -/
inductive Gives (opts : List (Opt α)) : List String → List (α × String) → Prop where
  | nothing : Gives opts [] []
  | alone {arg : String} {complete : List (α × String)} (hyphened : IsHyphened arg)
      (read : readOption opts arg = .ok ⟨complete, none⟩) : Gives opts [arg] complete
  | withValue {arg : String} {complete : List (α × String)} {pending : Pending α} (value : String)
      (hyphened : IsHyphened arg) (read : readOption opts arg = .ok ⟨complete, some pending⟩) :
      Gives opts [arg, value] (complete ++ [(pending.id, value)])

/-- The options that are not hidden. -/
def shown (hidden : α → Bool) (options : List (α × String)) : List (α × String) :=
  options.filter fun o => !hidden o.1

/-- What arguments give apart from hidden options. -/
def Given.without (hidden : α → Bool) (g : Given α) : Given α :=
  { g with options := shown hidden g.options }

/-- Arguments that agree on everything apart from hidden options. Behind an argument that is at
fault nothing is read. -/
inductive AgreeBut (opts : List (Opt α)) (hidden : α → Bool) : List String → List String → Prop where
  | same (args : List String) : AgreeBut opts hidden args args
  | word {word : String} {rest rest' : List String} (plain : ¬ IsHyphened word) (inner : word ≠ "--")
      (behind : AgreeBut opts hidden rest rest') : AgreeBut opts hidden (word :: rest) (word :: rest')
  | options {args args' rest rest' : List String} {options options' : List (α × String)}
      (left : Gives opts args options) (right : Gives opts args' options')
      (agree : shown hidden options = shown hidden options')
      (behind : AgreeBut opts hidden rest rest') :
      AgreeBut opts hidden (args ++ rest) (args' ++ rest')
  | fault {arg : String} {fault : OptionFault} (rest rest' : List String)
      (hyphened : IsHyphened arg) (read : readOption opts arg = .error fault) :
      AgreeBut opts hidden (arg :: rest) (arg :: rest')

/-! ## One step of reading -/

theorem readArguments_word {word : String} (plain : ¬ IsHyphened word) (inner : word ≠ "--")
    (rest : List String) :
    readArguments opts true (word :: rest) =
      (readArguments opts true rest).map (·.withWord word) := by
  have hplain : ¬ (word.startsWith "-" = true ∧ word ≠ "-") := fun h => plain ⟨inner, h⟩
  rw [readArguments, if_neg inner, if_neg hplain, if_pos rfl]

theorem readArguments_fault {arg : String} {fault : OptionFault} (hyphened : IsHyphened arg)
    (read : readOption opts arg = .error fault) (rest : List String) :
    readArguments opts mixed (arg :: rest) = .error fault := by
  rw [readArguments, if_neg hyphened.1, if_pos hyphened.2, read]

/-- Options in front of other arguments are in front of what these give. -/
theorem Gives.readArguments {args : List String} {options : List (α × String)}
    (h : Gives opts args options) (rest : List String) :
    readArguments opts mixed (args ++ rest) =
      (readArguments opts mixed rest).map (·.withOptions options) := by
  cases h with
  | nothing =>
    rw [List.nil_append]
    cases CommandLine.readArguments opts mixed rest <;> rfl
  | alone hyphened read =>
    rw [List.singleton_append, CommandLine.readArguments, if_neg hyphened.1, if_pos hyphened.2, read]
  | withValue value hyphened read =>
    rw [List.cons_append, List.singleton_append, CommandLine.readArguments, if_neg hyphened.1,
      if_pos hyphened.2, read]

/-! ## Hidden options -/

theorem Given.without_withOptions (g : Given α) (options : List (α × String)) :
    (g.withOptions options).without hidden =
      (g.without hidden).withOptions (shown hidden options) := by
  simp [Given.without, Given.withOptions, shown]

/-- Two readings with the same fault, or without one and then with the same apart from hidden
options. -/
inductive SameBut (hidden : α → Bool) :
    Except OptionFault (Given α) → Except OptionFault (Given α) → Prop where
  | fault (fault : OptionFault) : SameBut hidden (.error fault) (.error fault)
  | given {g g' : Given α} (same : g.without hidden = g'.without hidden) :
      SameBut hidden (.ok g) (.ok g')

theorem SameBut.refl (x : Except OptionFault (Given α)) : SameBut hidden x x := by
  cases x with
  | error fault => exact .fault fault
  | ok g => exact .given rfl

theorem SameBut.map {x y : Except OptionFault (Given α)} {f g k : Given α → Given α}
    (h : SameBut hidden x y) (hf : ∀ a, (f a).without hidden = k (a.without hidden))
    (hg : ∀ a, (g a).without hidden = k (a.without hidden)) :
    SameBut hidden (x.map f) (y.map g) := by
  cases h with
  | fault fault => exact .fault fault
  | @given a b same => exact .given ((hf a).trans ((congrArg k same).trans (hg b).symm))

/-- What is read of arguments does not depend on hidden options, apart from these. -/
theorem AgreeBut.readArguments {args args' : List String} (h : AgreeBut opts hidden args args') :
    SameBut hidden (readArguments opts true args) (readArguments opts true args') := by
  induction h with
  | same args => exact .refl _
  | @word word _ _ plain inner _ ih =>
    rw [readArguments_word plain inner, readArguments_word plain inner]
    exact ih.map (k := (·.withWord word)) (fun _ => rfl) fun _ => rfl
  | @options _ _ _ _ options _ left right agree _ ih =>
    rw [left.readArguments, right.readArguments]
    refine ih.map (k := (·.withOptions (shown hidden options)))
      (fun a => a.without_withOptions options) fun a => ?_
    rw [agree]
    exact a.without_withOptions _
  | fault rest rest' hyphened read =>
    rw [readArguments_fault hyphened read, readArguments_fault hyphened read]
    exact .fault _

section Shown

variable [DecidableEq α] {id : α}

theorem Given.values_without (g : Given α) (h : hidden id = false) :
    (g.without hidden).values id = g.values id := by
  rw [Given.values, Given.values, Given.without, shown, List.filter_filter]
  refine congrArg (List.map Prod.snd) (List.filter_congr fun o _ => ?_)
  by_cases ho : o.1 = id <;> simp [ho, h]

theorem Given.value?_without (g : Given α) (h : hidden id = false) :
    (g.without hidden).value? id = g.value? id := by
  rw [Given.value?, Given.value?, g.values_without h]

theorem Given.has_without (g : Given α) (h : hidden id = false) :
    (g.without hidden).has id = g.has id := by
  rw [Given.has, Given.has, g.values_without h]

theorem Given.isSome_value? (g : Given α) (id : α) : (g.value? id).isSome = g.has id := by
  rw [Given.value?, Given.has]
  cases g.values id <;> simp

end Shown

end RequestBook.CommandLine
