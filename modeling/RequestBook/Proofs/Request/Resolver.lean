import RequestBook.Proofs.Outcomes
import RequestBook.Request.Resolver

/-!
# What a resolver remembers

A resolver remembers by bare name, so that one use of a name takes the place of another. Nothing
that is made of arguments and fields ever looks at what was remembered: every request comes out as
if it were made on its own, after whatever requests, made or failed.
-/

namespace RequestBook

namespace Resolving

variable {α β : Type}

theorem outcome_bind (work : Resolving α) (next : α → Resolving β) (r : Resolver) :
    (work >>= next).outcome r = match work.outcome r with
      | (.ok a, r') => (next a).outcome r'
      | (.error e, r') => (.error e, r') := by
  rw [outcome, outcome, ExceptT.run_bind, StateT.run_bind]
  change StateT.run _ (StateT.run work.run r).2 = _
  rcases StateT.run work.run r with ⟨e | a, r'⟩ <;> rfl

/-- Work answers in one way, whatever the resolver has remembered. -/
def Answers (work : Resolving α) (answer : Except Failure α) : Prop :=
  ∀ r, (work.outcome r).1 = answer

theorem answers_pure (a : α) : Answers (pure a) (.ok a) := fun _ => rfl

theorem answers_ofExcept (x : Except Failure α) : Answers (ofExcept x) (ofExcept x) := by
  cases x with
  | error e => exact fun _ => rfl
  | ok a => exact fun _ => rfl

theorem Answers.bind {work : Resolving α} {answer : Except Failure α} {next : α → Resolving β}
    {answers : α → Except Failure β} (h : Answers work answer)
    (hnext : ∀ a, Answers (next a) (answers a)) : Answers (work >>= next) (answer >>= answers) := by
  intro r
  have hr := h r
  rw [outcome_bind]
  cases hwork : work.outcome r with
  | mk result r' =>
    rw [hwork] at hr
    obtain rfl : result = answer := hr
    cases result with
    | error e => rfl
    | ok a => exact hnext a r'

theorem answers_mapM {f : α → Resolving β} {g : α → Except Failure β} {xs : List α}
    (h : ∀ x ∈ xs, Answers (f x) (g x)) : Answers (xs.mapM f) (xs.mapM g) := by
  induction xs with
  | nil => exact answers_pure []
  | cons x xs ih =>
    rw [List.mapM_cons, List.mapM_cons]
    have hxs := ih fun y hy => h y (List.mem_cons_of_mem x hy)
    exact (h x List.mem_cons_self).bind fun y => hxs.bind fun ys => answers_pure _

theorem Answers.fresh {work : Resolving α} {answer : Except Failure α} (h : Answers work answer) :
    work.fresh = answer := h .empty

end Resolving

open Resolving

namespace Formatter

theorem answers_argument (a : Argument) : Answers (remembering.argument a) a.format := by
  have h : Answers (remembering.argument a) (ofExcept a.format >>= pure) :=
    (answers_ofExcept a.format).bind fun g r => rfl
  rwa [bind_pure, ofExcept_self] at h

theorem answers_field (f : Field) : Answers (remembering.field f) f.format := by
  have h : Answers (remembering.field f) (ofExcept f.format >>= pure) :=
    (answers_ofExcept f.format).bind fun line r => rfl
  rwa [bind_pure, ofExcept_self] at h

theorem answers_argumentTexts (f : Field) :
    Answers (remembering.argumentTexts f) (plain.argumentTexts f) :=
  (answers_mapM fun a _ => (answers_argument a).bind fun g => answers_pure (a, g)).bind
    fun formatted => answers_pure (ArgumentTexts.ofFormatted formatted)

theorem answers_selection (t : SchemaType) :
    Answers (remembering.selection t) (plain.selection t) := by
  rw [selection, selection]
  split
  · exact (answers_mapM fun g _ => answers_field g).bind fun lines => answers_pure _
  · exact answers_pure ""

theorem answers_templateInput (s : Schema) (f : Field) (operation : String) :
    Answers (remembering.templateInput s f operation) (plain.templateInput s f operation) :=
  (answers_argumentTexts f).bind fun _ => (answers_ofExcept (s.returned f)).bind fun t =>
    (answers_selection t).bind fun _ => answers_pure _

theorem answers_compose (source : TemplateSource) (s : Schema) (f : Field) (operation : String) :
    Answers (remembering.compose source s f operation) (plain.compose source s f operation) :=
  (answers_templateInput s f operation).bind fun (input, _) =>
    (answers_ofExcept source.load).bind fun template =>
      (answers_ofExcept (normalizeSource (template.render input))).bind fun _ => answers_pure _

/-- A request is the same whether anything was remembered before it or not. -/
theorem answers_synthesize (source : TemplateSource) (s : Schema) (f : Field)
    (url operation : String) :
    Answers (remembering.synthesize source s f url operation)
      (RequestBook.synthesize source s f url operation) :=
  (answers_compose source s f operation).bind fun composition =>
    answers_ofExcept (composition.item f.name url)

end Formatter

end RequestBook
