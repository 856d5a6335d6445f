import RequestBook.Proofs.Request.Memory
import RequestBook.Proofs.Request.Synthesis
import RequestBook.Request.Session

/-!
# What a session does and what it remembers

Steps share one resolver, yet each of them gives what it gives with a resolver of its own. Their
memory is that of all arguments and fields that they have formatted, in the order of the steps; a
step that fails has formatted everything that comes before its failure.
-/

namespace RequestBook

open Resolving

/-! ## What work formats -/

/-- The resolver remembers that these arguments and these fields have been formatted, in this
order. -/
structure Resolver.Remembers (as : List Argument) (fs : List Field) (r : Resolver) : Prop where
  arguments : Memory.Holds Argument.name (fun a g => a.format = .ok g) as r.arguments
  fields : Memory.Holds Field.name (fun f line => f.format = .ok line) fs r.fields

theorem Resolver.remembers_empty : Resolver.empty.Remembers [] [] := ⟨.nil, .nil⟩

/-- Whatever was remembered before and however the work ends, it formats these arguments and
fields. -/
def Resolving.Formats {α : Type} (as : List Argument) (fs : List Field) (work : Resolving α) : Prop :=
  ∀ as₀ fs₀ r, Resolver.Remembers as₀ fs₀ r →
    (work.outcome r).2.Remembers (as₀ ++ as) (fs₀ ++ fs)

namespace Resolving

variable {α β : Type} {as as' : List Argument} {fs fs' : List Field} {work : Resolving α}
  {next : α → Resolving β}

theorem formats_pure (a : α) : Formats [] [] (pure a : Resolving α) := by
  intro as₀ fs₀ r h
  rwa [List.append_nil, List.append_nil]

theorem formats_ofExcept (x : Except Failure α) : Formats [] [] (ofExcept x : Resolving α) := by
  intro as₀ fs₀ r h
  rw [List.append_nil, List.append_nil]
  cases x <;> exact h

/-- Where the first part succeeds, the second one formats behind it. -/
theorem Formats.bind {a : α} (h : Formats as fs work) (ha : Answers work (.ok a))
    (hnext : Formats as' fs' (next a)) : Formats (as ++ as') (fs ++ fs') (work >>= next) := by
  intro as₀ fs₀ r hr
  have hwork := h as₀ fs₀ r hr
  have hok := ha r
  rw [outcome_bind]
  cases hout : work.outcome r with
  | mk result r' =>
    rw [hout] at hwork hok
    obtain rfl : result = .ok a := hok
    rw [← List.append_assoc, ← List.append_assoc]
    exact hnext _ _ r' hwork

/-- Where the first part fails, nothing more is formatted. -/
theorem Formats.bind_error {e : Failure} (h : Formats as fs work) (he : Answers work (.error e)) :
    Formats as fs (work >>= next) := by
  intro as₀ fs₀ r hr
  have hwork := h as₀ fs₀ r hr
  have herror := he r
  rw [outcome_bind]
  cases hout : work.outcome r with
  | mk result r' =>
    rw [hout] at hwork herror
    obtain rfl : result = .error e := herror
    exact hwork

/-- What formats nothing adds nothing. -/
theorem Formats.bind_silent (h : Formats as fs work) (hnext : ∀ a, Formats [] [] (next a)) :
    Formats as fs (work >>= next) := by
  intro as₀ fs₀ r hr
  have hwork := h as₀ fs₀ r hr
  rw [outcome_bind]
  cases hout : work.outcome r with
  | mk result r' =>
    rw [hout] at hwork
    cases result with
    | error e => exact hwork
    | ok a => simpa using hnext a _ _ r' hwork

theorem Formats.map (h : Formats as fs work) (g : α → β) : Formats as fs (g <$> work) := by
  rw [← bind_pure_comp]
  exact h.bind_silent fun a => formats_pure (g a)

theorem formats_mapM {γ : Type} {f : γ → Resolving β} {as : γ → List Argument} {fs : γ → List Field}
    {xs : List γ} (h : ∀ x ∈ xs, Formats (as x) (fs x) (f x) ∧ ∃ y, Answers (f x) (.ok y)) :
    Formats (xs.flatMap as) (xs.flatMap fs) (xs.mapM f) ∧ ∃ ys, Answers (xs.mapM f) (.ok ys) := by
  induction xs with
  | nil => exact ⟨formats_pure [], [], answers_pure []⟩
  | cons x xs ih =>
    obtain ⟨hx, y, hy⟩ := h x List.mem_cons_self
    obtain ⟨hxs, ys, hys⟩ := ih fun z hz => h z (List.mem_cons_of_mem x hz)
    rw [List.mapM_cons]
    have hrest : Formats (xs.flatMap as) (xs.flatMap fs) (xs.mapM f >>= fun ys => pure (y :: ys)) :=
      hxs.bind_silent fun ys => formats_pure (y :: ys)
    have hanswer : Answers (f x >>= fun y => xs.mapM f >>= fun ys => pure (y :: ys))
        (.ok y >>= fun y => .ok ys >>= fun ys => .ok (y :: ys)) :=
      hy.bind fun y => hys.bind fun ys => answers_pure (y :: ys)
    exact ⟨hx.bind hy hrest, y :: ys, hanswer⟩

end Resolving

/-! ## Formatting texts -/

/-- What can be formatted: names are texts, and the description is a text or nothing. -/
structure Field.Textual (f : Field) : Prop where
  name : f.name.IsString
  description : f.description.IsText
  arguments : ∀ a ∈ f.arguments, a.name.IsString

def SchemaType.Textual (t : SchemaType) : Prop := ∀ f ∈ t.fields, f.Textual

def Schema.Textual (s : Schema) : Prop := ∀ t ∈ s.types, t.Textual

instance (f : Field) : Decidable f.Textual :=
  decidable_of_iff (f.name.IsString ∧ f.description.IsText ∧ ∀ a ∈ f.arguments, a.name.IsString)
    ⟨fun ⟨hname, hdescription, harguments⟩ => ⟨hname, hdescription, harguments⟩,
      fun h => ⟨h.name, h.description, h.arguments⟩⟩

instance (t : SchemaType) : Decidable t.Textual :=
  inferInstanceAs (Decidable (∀ f ∈ t.fields, f.Textual))

instance (s : Schema) : Decidable s.Textual :=
  inferInstanceAs (Decidable (∀ t ∈ s.types, t.Textual))

theorem Field.Textual.format {f : Field} (h : f.Textual) : f.format = .ok f.line :=
  Field.format_of_isString h.name h.description

/-- The fields that the selection of a type formats. -/
def SchemaType.formattedFields (t : SchemaType) : List Field :=
  if t.kind = .object then t.fields else []

namespace Formatter

theorem formats_argument {a : Argument} (h : a.name.IsString) :
    Formats [a] [] (remembering.argument a) := by
  intro as₀ fs₀ r hr
  have hformat := Argument.format_of_isString h
  have hout : (remembering.argument a).outcome r =
      (.ok a.formatted, r.rememberArgument a.name a.formatted) := by
    change (ofExcept a.format >>= _ : Resolving _).outcome r = _
    rw [hformat]
    rfl
  rw [hout, List.append_nil]
  exact ⟨hr.arguments.put h hformat, hr.fields⟩

theorem formats_field {f : Field} (h : f.Textual) : Formats [] [f] (remembering.field f) := by
  intro as₀ fs₀ r hr
  have hout : (remembering.field f).outcome r = (.ok f.line, r.rememberField f.name f.line) := by
    change (ofExcept f.format >>= _ : Resolving _).outcome r = _
    rw [h.format]
    rfl
  rw [hout, List.append_nil]
  exact ⟨hr.arguments, hr.fields.put h.name h.format⟩

theorem formats_argumentTexts {f : Field} (h : ∀ a ∈ f.arguments, a.name.IsString) :
    Formats f.arguments [] (remembering.argumentTexts f) ∧
      ∃ texts, Answers (remembering.argumentTexts f) (.ok texts) := by
  have hargument (a : Argument) (ha : a ∈ f.arguments) :
      Answers (remembering.argument a >>= fun g => pure (a, g)) (.ok (a, a.formatted)) := by
    have hanswer : Answers (remembering.argument a >>= fun g => pure (a, g))
        (a.format >>= fun g => .ok (a, g)) :=
      (answers_argument a).bind fun g => answers_pure (a, g)
    rwa [Argument.format_of_isString (h a ha)] at hanswer
  have hitems : Formats (f.arguments.flatMap fun a => [a]) (f.arguments.flatMap fun _ => [])
        (f.arguments.mapM fun a => remembering.argument a >>= fun g => pure (a, g)) ∧
      ∃ formatted, Answers _ (.ok formatted) :=
    formats_mapM fun a ha =>
      ⟨(formats_argument (h a ha)).bind_silent fun g => formats_pure (a, g), _, hargument a ha⟩
  obtain ⟨hformats, formatted, hanswers⟩ := hitems
  have hfields : (f.arguments.flatMap fun _ => ([] : List Field)) = [] := by simp
  rw [List.flatMap_singleton', hfields] at hformats
  exact ⟨hformats.bind_silent fun _ => formats_pure _, .ofFormatted formatted,
    hanswers.bind fun formatted => answers_pure (ArgumentTexts.ofFormatted formatted)⟩

theorem formats_selection {t : SchemaType} (h : t.Textual) :
    Formats [] t.formattedFields (remembering.selection t) := by
  have hitems : Formats (t.fields.flatMap fun _ => []) (t.fields.flatMap fun f => [f])
        (t.fields.mapM remembering.field) ∧ ∃ lines, Answers _ (.ok lines) :=
    formats_mapM fun f hf =>
      ⟨formats_field (h f hf), f.line, (h f hf).format ▸ answers_field f⟩
  have harguments : (t.fields.flatMap fun _ => ([] : List Argument)) = [] := by simp
  rw [List.flatMap_singleton', harguments] at hitems
  rw [selection, SchemaType.formattedFields]
  by_cases hkind : t.kind = .object
  · rw [if_pos hkind]
    split
    · exact hitems.1.bind_silent fun _ => formats_pure _
    · next hempty =>
      have hfields : t.fields = [] := by simpa [hkind] using hempty
      rw [hfields]
      exact formats_pure ""
  · rw [if_neg hkind, if_neg fun hobject => hkind hobject.1]
    exact formats_pure ""

end Formatter

/-- The fields of the type that a field returns, if the schema has that type. -/
def Schema.fieldsReturned (s : Schema) (f : Field) : List Field :=
  ((s.find? f.type.leafName).map SchemaType.formattedFields).getD []

theorem Schema.Textual.of_find? {s : Schema} (h : s.Textual) {name : Json} {t : SchemaType}
    (ht : s.find? name = some t) : t.Textual := h t (List.mem_of_find?_eq_some ht)

namespace Formatter

variable {s : Schema} {f : Field}

theorem formats_templateInput (hs : s.Textual) (hf : f.Textual) (operation : String) :
    Formats f.arguments (s.fieldsReturned f) (remembering.templateInput s f operation) := by
  obtain ⟨harguments, texts, htexts⟩ := formats_argumentTexts hf.arguments
  have hrest : Formats [] (s.fieldsReturned f)
      ((ofExcept (s.returned f) : Resolving SchemaType) >>= fun t =>
        remembering.selection t >>= fun selection => pure
          (TemplateInput.mk operation f.name (!f.arguments.isEmpty) texts.declarations texts.call
            selection, texts.entries)) := by
    rw [Schema.fieldsReturned, Schema.returned]
    cases hfind : s.find? f.type.leafName with
    | none => exact (formats_ofExcept _).bind_error (answers_ofExcept _)
    | some t =>
      have hselection := formats_selection (hs.of_find? hfind)
      exact (formats_ofExcept (.ok t)).bind (answers_ofExcept (.ok t))
        (hselection.bind_silent fun _ => formats_pure _)
  have hinput : Formats (f.arguments ++ []) ([] ++ s.fieldsReturned f)
      (remembering.templateInput s f operation) := harguments.bind htexts hrest
  rwa [List.append_nil] at hinput

/-- A request formats the arguments of its field and then, where the returned type is found, the
fields of that. Nothing that can fail later on changes this. -/
theorem formats_synthesize (hs : s.Textual) (hf : f.Textual) (source : TemplateSource)
    (url operation : String) :
    Formats f.arguments (s.fieldsReturned f) (remembering.synthesize source s f url operation) := by
  have hcompose : Formats f.arguments (s.fieldsReturned f)
      (remembering.compose source s f operation) :=
    (formats_templateInput hs hf operation).bind_silent fun _ =>
      (formats_ofExcept _).bind_silent fun _ => (formats_ofExcept _).bind_silent fun _ =>
        formats_pure _
  exact hcompose.bind_silent fun _ => formats_ofExcept _

end Formatter

/-! ## Steps -/

namespace Step

/-- The arguments that a step formats. -/
def arguments : Step → List Argument
  | formatArgument a => [a]
  | buildArguments f | synthesize f _ _ => f.arguments
  | formatField _ | buildSelection _ | lookup _ | addType _ => []

/-- The fields that a step formats. -/
def fields (s : Schema) : Step → List Field
  | formatField f => [f]
  | buildSelection t => t.formattedFields
  | synthesize f _ _ => s.fieldsReturned f
  | formatArgument _ | buildArguments _ | lookup _ | addType _ => []

/-- The step is about texts. -/
def Textual : Step → Prop
  | formatArgument a => a.name.IsString
  | formatField f | buildArguments f | synthesize f _ _ => f.Textual
  | buildSelection t | addType t => t.Textual
  | lookup name => name.IsString

instance : (step : Step) → Decidable step.Textual
  | formatArgument a => inferInstanceAs (Decidable a.name.IsString)
  | formatField f | buildArguments f | synthesize f _ _ => inferInstanceAs (Decidable f.Textual)
  | buildSelection t | addType t => inferInstanceAs (Decidable t.Textual)
  | lookup name => inferInstanceAs (Decidable name.IsString)

theorem formats_perform {s : Schema} (hs : s.Textual) (template : TemplateSource) {step : Step}
    (h : step.Textual) : Formats step.arguments (step.fields s) (step.perform s template) := by
  cases step with
  | formatArgument a => exact (Formatter.formats_argument h).map _
  | formatField f => exact (Formatter.formats_field h).map _
  | buildArguments f => exact (Formatter.formats_argumentTexts h.arguments).1.map _
  | buildSelection t => exact (Formatter.formats_selection h).map _
  | synthesize f url operation => exact (Formatter.formats_synthesize hs h template url operation).map _
  | lookup name => exact formats_pure _
  | addType t => exact formats_pure _

/-- No step looks at what was remembered before it. -/
theorem answers_perform (s : Schema) (template : TemplateSource) (step : Step) :
    Answers (step.perform s template) (step.perform s template).fresh := by
  have map_answers {α β : Type} {work : Resolving α} {answer : Except Failure α}
      (h : Answers work answer) (g : α → β) : Answers (g <$> work) (g <$> work).fresh := by
    rw [← bind_pure_comp]
    have hbind := h.bind fun a => answers_pure (g a)
    rwa [hbind.fresh]
  cases step with
  | formatArgument a => exact map_answers (Formatter.answers_argument a) _
  | formatField f => exact map_answers (Formatter.answers_field f) _
  | buildArguments f => exact map_answers (Formatter.answers_argumentTexts f) _
  | buildSelection t => exact map_answers (Formatter.answers_selection t) _
  | synthesize f url operation =>
    exact map_answers (Formatter.answers_synthesize template s f url operation) _
  | lookup name => exact fun _ => rfl
  | addType t => exact fun _ => rfl

theorem textual_schemaAfter {s : Schema} (hs : s.Textual) {step : Step} (h : step.Textual) :
    (step.schemaAfter s).Textual := by
  cases step with
  | addType t =>
    intro u hu
    rcases List.mem_append.mp hu with hu | hu
    · exact hs u hu
    · rw [List.mem_singleton.mp hu]
      exact h
  | _ => exact hs

end Step

/-! ## Sessions -/

namespace Session

/-- What each step gives with a resolver of its own, over the schema as it is when its turn comes. -/
def resultsAlone (template : TemplateSource) : Schema → List Step → List (Except Failure StepResult)
  | _, [] => []
  | s, step :: rest =>
    (step.perform s template).fresh :: resultsAlone template (step.schemaAfter s) rest

/-- All arguments that steps format, in their order. -/
def argumentsOf (steps : List Step) : List Argument := steps.flatMap Step.arguments

/-- All fields that steps format, in their order, over a schema that grows with the steps. -/
def fieldsOf : Schema → List Step → List Field
  | _, [] => []
  | s, step :: rest => step.fields s ++ fieldsOf (step.schemaAfter s) rest

theorem take_eq (σ : Session) (step : Step) :
    σ.take step = ((step.perform σ.schema σ.template).fresh,
      { σ with
        toResolver := ((step.perform σ.schema σ.template).outcome σ.toResolver).2
        schema := step.schemaAfter σ.schema }) := by
  rw [take, ← Step.answers_perform σ.schema σ.template step σ.toResolver]

/-- What one step preserves: its result is the one it has alone, and what has been remembered grows
by what the step formats. -/
theorem remembers_take {σ : Session} {as : List Argument} {fs : List Field} {step : Step}
    (hs : σ.schema.Textual) (h : step.Textual) (hσ : σ.toResolver.Remembers as fs) :
    (σ.take step).2.toResolver.Remembers (as ++ step.arguments) (fs ++ step.fields σ.schema) := by
  rw [take_eq]
  exact Step.formats_perform hs σ.template h as fs σ.toResolver hσ

theorem run_cons (σ : Session) (step : Step) (rest : List Step) :
    σ.run (step :: rest) =
      ((σ.take step).1 :: ((σ.take step).2.run rest).1, ((σ.take step).2.run rest).2) := rfl

theorem fst_run (σ : Session) (steps : List Step) :
    (σ.run steps).1 = resultsAlone σ.template σ.schema steps := by
  induction steps generalizing σ with
  | nil => rfl
  | cons step rest ih => rw [run_cons, ih, take_eq, resultsAlone]

theorem remembers_run {σ : Session} {as : List Argument} {fs : List Field} {steps : List Step}
    (hs : σ.schema.Textual) (h : ∀ step ∈ steps, step.Textual) (hσ : σ.toResolver.Remembers as fs) :
    (σ.run steps).2.toResolver.Remembers (as ++ argumentsOf steps)
      (fs ++ fieldsOf σ.schema steps) := by
  induction steps generalizing σ as fs with
  | nil => simpa [run, argumentsOf, fieldsOf] using hσ
  | cons step rest ih =>
    have hstep := h step List.mem_cons_self
    have hrest := ih (σ := (σ.take step).2) (by rw [take_eq]; exact Step.textual_schemaAfter hs hstep)
      (fun other hother => h other (List.mem_cons_of_mem step hother)) (remembers_take hs hstep hσ)
    rw [run_cons]
    simpa [argumentsOf, fieldsOf, take_eq] using hrest

/-- Every step of a session gives what it gives with a resolver of its own, and the memories behind
the session are those of all arguments and of all fields that its steps have formatted. -/
theorem run_start (s : Schema) (template : TemplateSource) (steps : List Step) (hs : s.Textual)
    (h : ∀ step ∈ steps, step.Textual) :
    ((start s template).run steps).1 = resultsAlone template s steps ∧
    Memory.Holds Argument.name (fun a g => a.format = .ok g) (argumentsOf steps)
      ((start s template).run steps).2.arguments ∧
    Memory.Holds Field.name (fun f line => f.format = .ok line) (fieldsOf s steps)
      ((start s template).run steps).2.fields := by
  have hmemory := remembers_run (σ := start s template) hs h Resolver.remembers_empty
  rw [List.nil_append, List.nil_append] at hmemory
  exact ⟨fst_run _ _, hmemory.arguments, hmemory.fields⟩

/-- The second step has no type to return yet, and the fourth one writes a doubled mark. -/
def failingSteps : List Step :=
  [.formatArgument ⟨.str "ids", .named (.str "Int") .scalar, .null, .null⟩,
    .synthesize doubledField "https://api" "query", .addType userType,
    .synthesize doubledField "https://api" "query", .formatField ⟨.str "pet", .named (.str "Pet") .enum,
      .str "a\nb", []⟩]

/-- Both failing requests have formatted their arguments, but only the second one the fields of the
returned type; each name stands where it came up first. -/
theorem run_start_failingSteps :
    ((start ⟨[]⟩ .standard).run failingSteps).1 = resultsAlone .standard ⟨[]⟩ failingSteps ∧
    ((start ⟨[]⟩ .standard).run failingSteps).2.arguments.map Prod.fst =
      [.str "ids", .str "first", .str "role", .str "where", .str "tags"] ∧
    ((start ⟨[]⟩ .standard).run failingSteps).2.fields.map Prod.fst =
      [.str "id", .str "friends", .str "role", .str "pet"] :=
  have h := run_start ⟨[]⟩ .standard failingSteps (by decide) (by decide)
  have hfields : fieldsOf ⟨[]⟩ failingSteps = userType.fields ++
      [⟨.str "pet", .named (.str "Pet") .enum, .str "a\nb", []⟩] := by
    simp [fieldsOf, failingSteps, Step.fields, Step.schemaAfter, Schema.fieldsReturned,
      doubledField, usersField, TypeRef.leafName, Schema.find?,
      SchemaType.formattedFields, userType, Json.same]
  ⟨h.1, h.2.1.names.trans rfl, h.2.2.names.trans (by rw [hfields]; rfl)⟩

end Session

end RequestBook
