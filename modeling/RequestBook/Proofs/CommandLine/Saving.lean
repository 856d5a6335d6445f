import RequestBook.CommandLine.Run
import RequestBook.Proofs.Collection.Assembly
import RequestBook.Proofs.Collection.Saving
import RequestBook.Proofs.Collection.Sources
import RequestBook.Proofs.Files
import RequestBook.Proofs.Request.Synthesis
import RequestBook.Proofs.Schema.Describing

/-!
# What a run leaves behind

A run that fails at any point leaves all files as they were. A run that ends well has saved one
file, the whole collection, and says how many requests are in it.
-/

namespace RequestBook

/-! ## Assembled collections -/

theorem Composition.entries_item {c : Composition} {name : Json} {url : String} {i : Item}
    (h : c.item name url = .ok i) : i.entries = [] := by
  obtain ⟨e, -, h⟩ := bind_eq_ok.mp h
  split at h <;> cases h
  rfl

theorem entries_synthesize {source : TemplateSource} {s : Schema} {f : Field}
    {url operation : String} {i : Item} (h : synthesize source s f url operation = .ok i) :
    i.entries = [] := by
  obtain ⟨composition, -, h⟩ := bind_eq_ok.mp h
  rw [ofExcept_self] at h
  exact Composition.entries_item h

namespace Schema

variable {source : TemplateSource} {s : Schema} {url : String} {c : Collection}

theorem exists_query_of_assemble (h : s.assemble source url = .ok c) :
    ∃ q, s.query? = some q := by
  cases hquery : s.query? with
  | none =>
    rw [assemble_of_noQuery hquery] at h
    cases h
  | some q => exact ⟨q, rfl⟩

/-- Nothing that is assembled has entries of its own. -/
theorem entries_of_assemble (h : s.assemble source url = .ok c) : c.entries = [] := by
  obtain ⟨q, hquery⟩ := exists_query_of_assemble h
  obtain ⟨items, e, hitems, -, rfl⟩ := (assemble_eq_ok hquery).mp h
  refine List.flatMap_eq_nil_iff.mpr fun i hi => ?_
  obtain ⟨root, -, hroot⟩ := exists_of_mem_left hitems.flip hi
  rw [requestAlone_eq] at hroot
  exact entries_synthesize hroot

theorem exists_ofUrl_of_assemble (h : s.assemble source url = .ok c) :
    ∃ e, Endpoint.ofUrl url = .ok e := by
  obtain ⟨q, hquery⟩ := exists_query_of_assemble h
  obtain ⟨-, e, -, he, -⟩ := (assemble_eq_ok hquery).mp h
  exact ⟨e, he⟩

end Schema

theorem Collection.savedAs_of_entries {c : Collection} (h : c.entries = []) :
    c.SavedAs c.toJson.tabbed :=
  Collection.savedAs_tabbed (by simp [h]) (by simp [h])

theorem Collection.fileAt_of_entries {c : Collection} (h : c.entries = []) (fs : Files)
    (path : String) : c.fileAt fs path = (fs.destination path).map (·, c.toJson.tabbed) := by
  rw [Collection.fileAt, (Collection.savedAs_of_entries h).saved]
  cases fs.destination path <;> rfl

/-! ## Texts as they are printed -/

namespace Text

variable {before : List Char}

theorem withoutControls_append (h : '\x1b' ∉ before) (rest : List Char) :
    withoutControls 0 (before ++ rest) = before ++ withoutControls 0 rest := by
  induction before with
  | nil => rfl
  | cons c before ih =>
    obtain ⟨hc, hbefore⟩ := not_or.mp (mt List.mem_cons.mpr h)
    have hnone : controlSequence? (c :: (before ++ rest)) = none := by
      rw [controlSequence?]
      intro cs h
      exact hc (List.cons.inj h).1.symm
    rw [List.cons_append, withoutControls, hnone, ih hbefore]
    rfl

theorem replaceAll_append {first : Char} {old : List Char} (h : first ∉ before)
    (new rest : List Char) :
    replaceAll (first :: old) new (before ++ rest) =
      before ++ replaceAll (first :: old) new rest := by
  rw [replaceAll]
  induction before with
  | nil => rfl
  | cons c before ih =>
    obtain ⟨hc, hbefore⟩ := not_or.mp (mt List.mem_cons.mpr h)
    rw [List.cons_append, replaceAll.go, ih hbefore]
    simp [hc]

theorem printed_append {before : String} (hcontrol : '\x1b' ∉ before.toList)
    (hbreak : '\r' ∉ before.toList) (rest : String) :
    printed (before ++ rest) = before ++ printed rest := by
  rw [printed, printed, String.toList_append, withoutControls_append hcontrol,
    replaceAll_append hbreak, String.ofList_append, String.ofList_toList]

end Text

namespace CommandLine

/-! ## What is asked for -/

/-- The collection that the settings ask for is made: from the schema file that they name, or from
the server's reply if they name none. -/
inductive Settings.Makes (s : Settings) (w : World) (c : Collection) : Prop where
  | fromFile {path : String} {bytes : List UInt8} (named : s.schema = some path)
      (found : w.files.look path = some (.file bytes))
      (made : (Schema.ofFile (pathName path) bytes).bind
        (Schema.assemble (templateSource w.files s.templateDirectory) · s.url) = .ok c)
  | fromServer {lines : Headers} (unnamed : s.schema = none)
      (headers : Headers.ofLines s.headers = .ok lines)
      (made : (Introspection.fetch s.url (s.providers lines) s.timeout w.reply).2.bind
        (Collection.ofResult (templateSource w.files s.templateDirectory) s.url) = .ok c)

/-- The path that the settings name, or one after the authority of the URL if they name none. -/
inductive Settings.OutputPath (s : Settings) : String → Prop where
  | named {path : String} (given : s.output = some path) (present : path ≠ "") : OutputPath s path
  | standard {authority : String} (absent : s.output = none ∨ s.output = some "")
      (authority_url : IsAuthority authority s.url) :
      OutputPath s (authority ++ ".postman_collection.json")

namespace Settings

variable {s : Settings} {w : World} {c : Collection} {path : String}

theorem makes_iff : s.Makes w c ↔ ∃ a, s.attempt w = .ok a ∧ a.result = .ok c := by
  constructor
  · rintro (⟨named, found, made⟩ | ⟨unnamed, headers, made⟩)
    · rw [attempt, named]
      dsimp only
      rw [found]
      exact ⟨_, rfl, made⟩
    · rw [attempt, unnamed, headers]
      exact ⟨_, rfl, made⟩
  · rintro ⟨a, ha, hc⟩
    rw [attempt] at ha
    split at ha
    · next path hpath =>
      split at ha
      · next bytes hbytes =>
        cases ha
        exact .fromFile hpath hbytes hc
      · cases ha
    · next hnone =>
      split at ha
      · next lines hlines =>
        cases ha
        exact .fromServer hnone hlines hc
      · cases ha

theorem OutputPath.unique {other : String} (h : s.OutputPath path) (h' : s.OutputPath other) :
    path = other := by
  cases h with
  | named given present =>
    cases h' with
    | named given' _ => exact Option.some.inj (given.symm.trans given')
    | standard absent _ => simp [given, present] at absent
  | standard absent hauthority =>
    cases h' with
    | named given' present => simp [given', present] at absent
    | standard _ hauthority' => rw [hauthority.unique hauthority']

theorem outputPath_of_ofUrl {e : Endpoint} (h : Endpoint.ofUrl s.url = .ok e) :
    ∃ path, s.OutputPath path ∧ s.outputPath e = normalPath path := by
  have hauthority := Endpoint.isAuthority_of_ofUrl h
  rw [outputPath]
  cases hgiven : s.output with
  | none => exact ⟨_, .standard (.inl hgiven) hauthority, rfl⟩
  | some path =>
    by_cases hempty : path = ""
    · rw [hempty] at hgiven ⊢
      exact ⟨_, .standard (.inr hgiven) hauthority, rfl⟩
    · refine ⟨path, .named hgiven hempty, ?_⟩
      simp [CommandLine.present, Option.filter, hempty]

theorem Makes.exists_assemble (h : s.Makes w c) :
    ∃ source schema, Schema.assemble source schema s.url = .ok c := by
  cases h with
  | fromFile _ _ made =>
    obtain ⟨schema, -, hc⟩ := bind_eq_ok.mp made
    exact ⟨_, schema, hc⟩
  | fromServer _ _ made =>
    obtain ⟨data, -, made⟩ := bind_eq_ok.mp made
    obtain ⟨schema, -, hc⟩ := bind_eq_ok.mp made
    exact ⟨_, schema, hc⟩

theorem Makes.entries (h : s.Makes w c) : c.entries = [] := by
  obtain ⟨source, schema, hc⟩ := h.exists_assemble
  exact Schema.entries_of_assemble hc

theorem Makes.exists_ofUrl (h : s.Makes w c) : ∃ e, Endpoint.ofUrl s.url = .ok e := by
  obtain ⟨source, schema, hc⟩ := h.exists_assemble
  exact Schema.exists_ofUrl_of_assemble hc

end Settings

/-! ## How a run ends -/

namespace Outcome

@[simp] theorem exitCode_printed (o : Outcome) : o.printed.exitCode = o.exitCode := rfl

@[simp] theorem saved_printed (o : Outcome) : o.printed.saved = o.saved := rfl

@[simp] theorem requests_printed (o : Outcome) : o.printed.requests = o.requests := rfl

@[simp] theorem output_printed (o : Outcome) : o.printed.output = Text.printed o.output := rfl

/-- The files behind a run that started from these files. -/
def filesAfter (o : Outcome) (fs : Files) : Files :=
  match o.saved with
  | some (place, text) => fs.save place text
  | none => fs

/-- A collection is saved under a path, in whole and with the right count, and all other files are
as they were. -/
structure Saves (o : Outcome) (fs : Files) (c : Collection) (path : String) : Prop where
  written : (o.filesAfter fs).content? (Place.ofPath path) =
    some c.toJson.tabbed.toByteArray.data.toList
  kept : ∀ p, p ≠ Place.ofPath path → (o.filesAfter fs).content? p = fs.content? p
  counted : ∃ value items, Json.parse c.toJson.tabbed = .ok value ∧
    value.member? "item" = some (.arr items) ∧
    o.output = s!"Done! Generated {items.length} requests in " ++
      Text.printed (normalPath path ++ "\n")

/-- A run that fails has saved nothing. -/
structure Fails (o : Outcome) : Prop where
  exitCode : o.exitCode ≠ 0
  saved : o.saved = none

theorem fails_ofRefusal (r : Refusal) : (ofRefusal r).Fails := by
  cases r <;> exact ⟨Nat.succ_ne_zero _, rfl⟩

theorem fails_failedRun (a : Attempt) (f : Failure) : (a.failedRun f).Fails := by
  rw [Attempt.failedRun]
  split <;> exact ⟨Nat.succ_ne_zero _, rfl⟩

theorem requests_ofRefusal (r : Refusal) : (ofRefusal r).requests = [] := by
  cases r <;> rfl

theorem not_mem_counted {c : Char} (hdigit : c.isDigit = false)
    (hbefore : c ∉ "Done! Generated ".toList) (hbehind : c ∉ " requests in ".toList) (n : Nat) :
    c ∉ (s!"Done! Generated {n} requests in ").toList := by
  have hcount : c ∉ (toString n).toList := by
    intro h
    have hmem : c ∈ Nat.toDigits 10 n := by simpa using h
    rw [Nat.isDigit_of_mem_toDigits (by decide) (by decide) hmem] at hdigit
    cases hdigit
  rw [String.toList_append, String.toList_append, List.mem_append, List.mem_append, or_assoc]
  exact not_or.mpr ⟨hbefore, not_or.mpr ⟨hcount, hbehind⟩⟩

/-- A run that has saved the whole collection. -/
structure Done (o : Outcome) (c : Collection) (path : String) (place : Place) : Prop where
  exitCode : o.exitCode = 0
  saved : o.saved = some (place, c.toJson.tabbed)
  output : o.output = s!"Done! Generated {c.items.length} requests in " ++ path ++ "\n"

theorem Done.saves_printed {o : Outcome} {fs : Files} {c : Collection} {path : String}
    (h : o.Done c (normalPath path) (Place.ofPath path)) (hentries : c.entries = []) :
    o.printed.Saves fs c path := by
  have hfiles : o.printed.filesAfter fs = fs.save (Place.ofPath path) c.toJson.tabbed := by
    rw [filesAfter, saved_printed, h.saved]
  refine ⟨?_, fun p hp => ?_, c.toJson, c.items.map Item.toJson,
    (Collection.savedAs_of_entries hentries).loaded, rfl, ?_⟩
  · rw [hfiles, Files.content?_save]
  · rw [hfiles, Files.content?_save_of_ne hp]
  · rw [output_printed, h.output, List.length_map,
      String.append_assoc, Text.printed_append]
    · exact not_mem_counted (by decide) (by decide) (by decide) _
    · exact not_mem_counted (by decide) (by decide) (by decide) _

end Outcome

theorem Attempt.requests_run (a : Attempt) (fs : Files) (path : String) :
    (a.run fs path).requests = a.requests := by
  rw [Attempt.run]
  split
  · rw [Attempt.failedRun]
    split <;> rfl
  · split
    · rw [Attempt.failedRun]
      split <;> rfl
    · rfl

namespace Settings

variable {s : Settings} {w : World} {c : Collection} {path : String}

/-- A run that has something to save and a place for it saves it as its last step. -/
theorem done_of_makes {e : Endpoint} {place : Place} (he : Endpoint.ofUrl s.url = .ok e)
    (hc : s.Makes w c) (hplace : w.files.destination (s.outputPath e) = .ok place) :
    (s.run w).Done c (s.outputPath e) place := by
  obtain ⟨a, ha, hresult⟩ := makes_iff.mp hc
  have hfile := Collection.fileAt_of_entries hc.entries w.files (s.outputPath e)
  rw [hplace] at hfile
  rw [Settings.run, he]
  dsimp only
  rw [ha]
  dsimp only
  rw [Attempt.run, hresult]
  dsimp only
  rw [hfile]
  exact ⟨rfl, rfl, rfl⟩

/-- Any other run fails. -/
theorem fails_or_makes (s : Settings) (w : World) :
    (s.run w).Fails ∨ ∃ e c place, Endpoint.ofUrl s.url = .ok e ∧ s.Makes w c ∧
      w.files.destination (s.outputPath e) = .ok place := by
  rw [Settings.run]
  split
  · exact .inl ⟨Nat.succ_ne_zero _, rfl⟩
  next e he =>
  split
  · exact .inl (Outcome.fails_ofRefusal _)
  next a ha =>
  have hevents {o : Outcome} (h : o.Fails) : { o with events := s.reported o.events }.Fails :=
    ⟨h.exitCode, h.saved⟩
  rw [Attempt.run]
  split
  · exact .inl (hevents (Outcome.fails_failedRun _ _))
  next c hresult =>
  have hc : s.Makes w c := makes_iff.mpr ⟨a, ha, hresult⟩
  split
  · exact .inl (hevents (Outcome.fails_failedRun _ _))
  next file hfile =>
  rw [Collection.fileAt_of_entries hc.entries] at hfile
  cases hplace : w.files.destination (s.outputPath e) with
  | error f =>
    rw [hplace] at hfile
    cases hfile
  | ok place => exact .inr ⟨e, c, place, he, hc, hplace⟩

theorem requests_attempt {a : Attempt} (h : s.attempt w = .ok a) :
    a.requests.length ≤ 1 ∧ (s.schema.isSome = true → a.requests = []) := by
  rw [attempt] at h
  split at h
  · split at h
    · cases h
      exact ⟨Nat.zero_le 1, fun _ => rfl⟩
    · cases h
  · next hnone =>
    refine ⟨?_, fun hsome => by simp [hnone] at hsome⟩
    split at h
    · cases h
      rw [fromServer, Introspection.fetch]
      dsimp only
      split <;> simp
    · cases h

theorem requests_run (s : Settings) (w : World) :
    (s.run w).requests.length ≤ 1 ∧ (s.schema.isSome = true → (s.run w).requests = []) := by
  rw [Settings.run]
  split
  · exact ⟨Nat.zero_le 1, fun _ => rfl⟩
  split
  · rw [Outcome.requests_ofRefusal]
    exact ⟨Nat.zero_le 1, fun _ => rfl⟩
  next a ha =>
  dsimp only
  rw [Attempt.requests_run]
  exact requests_attempt ha

end Settings

variable {args : List String} {w : World} {s : Settings}

theorem run_of_ofArguments {invocation : Invocation}
    (h : Invocation.ofArguments w.environment w.files args = .ok invocation) :
    run args w = (invocation.run w).printed := by
  rw [run, h]

theorem run_of_refusal {refusal : Refusal}
    (h : Invocation.ofArguments w.environment w.files args = .error refusal) :
    run args w = (Outcome.ofRefusal refusal).printed := by
  rw [run, h]

/-- Whatever a run was asked for, it has saved nothing if it fails. -/
theorem saved_of_exitCode (h : (run args w).exitCode ≠ 0) : (run args w).saved = none := by
  cases hargs : Invocation.ofArguments w.environment w.files args with
  | error refusal =>
    rw [run_of_refusal hargs, Outcome.saved_printed, (Outcome.fails_ofRefusal refusal).saved]
  | ok invocation =>
    rw [run_of_ofArguments hargs, Outcome.exitCode_printed] at h
    rw [run_of_ofArguments hargs, Outcome.saved_printed]
    cases invocation with
    | version => rfl
    | help command => rfl
    | generate s =>
      rcases s.fails_or_makes w with hfails | ⟨e, c, place, he, hc, hplace⟩
      · exact hfails.saved
      · exact absurd (Settings.done_of_makes he hc hplace).exitCode h

theorem length_requests (args : List String) (w : World) : (run args w).requests.length ≤ 1 := by
  cases hargs : Invocation.ofArguments w.environment w.files args with
  | error refusal =>
    rw [run_of_refusal hargs, Outcome.requests_printed, Outcome.requests_ofRefusal]
    exact Nat.zero_le 1
  | ok invocation =>
    rw [run_of_ofArguments hargs, Outcome.requests_printed]
    cases invocation with
    | version => exact Nat.zero_le 1
    | help command => exact Nat.zero_le 1
    | generate s => exact (s.requests_run w).1

/-- A run saves the collection that it is asked for, as one file and with its count, or it fails
and leaves all files alone. A server is asked at most once, and never if a schema file is named. -/
theorem run_all_or_nothing (args : List String) (w : World) :
    ((run args w).exitCode ≠ 0 → (run args w).filesAfter w.files = w.files) ∧
    (run args w).requests.length ≤ 1 ∧
    ∀ s, Invocation.ofArguments w.environment w.files args = .ok (.generate s) →
      (s.schema.isSome = true → (run args w).requests = []) ∧
      ((run args w).exitCode = 0 → ∃ c path, s.Makes w c ∧ s.OutputPath path ∧
        (run args w).Saves w.files c path) ∧
      ∀ c path place, s.Makes w c → s.OutputPath path →
        w.files.destination (normalPath path) = .ok place → (run args w).exitCode = 0 := by
  refine ⟨fun h => ?_, length_requests args w, fun s hargs => ?_⟩
  · rw [Outcome.filesAfter, saved_of_exitCode h]
  rw [run_of_ofArguments hargs, Outcome.exitCode_printed, Outcome.requests_printed, Invocation.run]
  refine ⟨(s.requests_run w).2, fun h => ?_, fun c path place hc hpath hplace => ?_⟩
  · rcases s.fails_or_makes w with hfails | ⟨e, c, place, he, hc, hplace⟩
    · exact absurd h hfails.exitCode
    obtain ⟨path, hpath, heq⟩ := Settings.outputPath_of_ofUrl he
    have hdone := Settings.done_of_makes he hc hplace
    have hwritten : place = Place.ofPath path := by
      rw [Files.eq_of_destination hplace, heq, Place.ofPath_normalPath]
    rw [heq, hwritten] at hdone
    exact ⟨c, path, hc, hpath, hdone.saves_printed hc.entries⟩
  · obtain ⟨e, he⟩ := hc.exists_ofUrl
    obtain ⟨path', hpath', heq⟩ := Settings.outputPath_of_ofUrl he
    rw [hpath.unique hpath', ← heq] at hplace
    exact (Settings.done_of_makes he hc hplace).exitCode

/-! ## Two runs -/

def countField : Field := ⟨.str "count", .named (.str "Int") .scalar, .null, []⟩

def countSchema : Schema :=
  ⟨[⟨.str "Query", .object, .null, [countField]⟩, ⟨.str "Int", .scalar, .null, []⟩]⟩

def countResult : Json := .obj [("__schema", countSchema.toJson)]

theorem plain_countResult : countResult.Plain := by
  simp [countResult, countSchema, countField, Schema.toJson, SchemaType.toJson, Field.toJson,
    TypeRef.toJson, Kind.fieldsMember]

theorem ofJson_countResult : Schema.ofJson countResult = .ok countSchema := by
  have hnumber : countField.type.Describable := ⟨⟨by decide, rfl⟩, rfl, rfl⟩
  refine Schema.ToldBy.ofJson ⟨_, countSchema.describedBy_toJson, .inr ⟨rfl, rfl⟩⟩ ?_
  refine List.forall_mem_cons.mpr ⟨⟨⟨by decide, rfl⟩, ?_⟩, List.forall_mem_singleton.mpr
    ⟨⟨by decide, rfl⟩, by simp⟩⟩
  exact List.forall_mem_singleton.mpr ⟨hnumber, by simp [countField]⟩

theorem ofFile_countResult :
    Schema.ofFile "s.json" countResult.compact.toByteArray.data.toList = .ok countSchema := by
  have hparse : Json.parse countResult.compact = .ok countResult :=
    plain_countResult.parse_write (by decide +kernel) none
  rw [Schema.ofFile_of_parse (Text.Encoding.decode_bytes _) hparse (by decide +kernel),
    ofJson_countResult]

theorem assemble_countSchema :
    ∃ c, countSchema.assemble .standard "http://h/g" = .ok c := by
  have hquery : countSchema.query? = some ⟨.str "Query", .object, .null, [countField]⟩ := by
    simp [Schema.query?, Schema.find?, countSchema, Json.same]
  have hmutation : countSchema.mutation? = none := by
    simp [Schema.mutation?, Schema.find?, countSchema, Json.same]
  have hroots : countSchema.rootFields = [(countField, "query")] := by
    rw [Schema.rootFields, hquery, hmutation]
    rfl
  have hreturned : countSchema.find? countField.type.leafName =
      some ⟨.str "Int", .scalar, .null, []⟩ := by
    simp [Schema.find?, countSchema, countField, TypeRef.leafName, Json.same]
  obtain ⟨e, he⟩ := Endpoint.exists_ofUrl (show IsAbsolute "http://h/g" by decide)
  obtain ⟨item, hitem⟩ : ∃ item, countSchema.requestAlone .standard "http://h/g"
      (countField, "query") = .ok item := by
    rw [Schema.requestAlone_eq]
    have hsound := synthesize_sound .query "http://h/g" (by decide +kernel) (by decide +kernel)
      hreturned (by decide +kernel)
    rw [he] at hsound
    exact ⟨_, hsound⟩
  refine ⟨_, (Schema.assemble_eq_ok hquery).mpr ⟨[item], e, ?_, he, rfl⟩⟩
  rw [hroots]
  exact .cons hitem .nil

/-- The file next to an older collection. -/
def countWorld : World where
  environment := ⟨none, none⟩
  files :=
    ⟨[(["s.json"], .file countResult.compact.toByteArray.data.toList), (["out", "c.json"], .file [])]⟩
  reply := .broken "offline"

def countArguments : List String :=
  ["generate", "-u", "http://h/g", "-s", "s.json", "-o", "a/../out//c.json"]

def countSettings : Settings where
  url := "http://h/g"
  schema := some "s.json"
  output := some "a/../out//c.json"
  token := none
  apiKey := none
  apiKeyHeader := Provider.defaultKeyHeader
  headers := []
  timeout := Introspection.defaultTimeout
  templateDirectory := none
  verbose := false

set_option maxRecDepth 20000 in
theorem ofArguments_countArguments :
    Invocation.ofArguments countWorld.environment countWorld.files countArguments =
      .ok (.generate countSettings) := by
  with_unfolding_all rfl

set_option maxRecDepth 20000 in
theorem destination_countSettings :
    countWorld.files.destination (normalPath "a/../out//c.json") = .ok ["out", "c.json"] := by
  with_unfolding_all rfl

theorem makes_countSettings : ∃ c, countSettings.Makes countWorld c := by
  obtain ⟨c, hc⟩ := assemble_countSchema
  have hfound : countWorld.files.look "s.json" =
      some (.file countResult.compact.toByteArray.data.toList) := by
    with_unfolding_all rfl
  refine ⟨c, .fromFile rfl hfound ?_⟩
  rw [show pathName "s.json" = "s.json" by decide +kernel, ofFile_countResult]
  exact hc

/-- The older collection is overwritten, without a request; a header that is none keeps it. -/
theorem run_all_or_nothing_count :
    ((run countArguments countWorld).requests = [] ∧
      ∃ c, (run countArguments countWorld).Saves countWorld.files c "a/../out//c.json") ∧
    (run ["generate", "-u", "http://h/g", "-H", "none", "-o", "out/c.json"]
      countWorld).filesAfter countWorld.files = countWorld.files := by
  obtain ⟨c, hc⟩ := makes_countSettings
  obtain ⟨-, -, hgenerate⟩ := run_all_or_nothing countArguments countWorld
  obtain ⟨hrequests, hsaves, hends⟩ := hgenerate countSettings ofArguments_countArguments
  have hpath : countSettings.OutputPath "a/../out//c.json" := .named rfl (by decide)
  obtain ⟨c', path, -, hpath', hsaved⟩ := hsaves (hends c _ _ hc hpath destination_countSettings)
  rw [hpath'.unique hpath] at hsaved
  refine ⟨⟨hrequests rfl, c', hsaved⟩, ?_⟩
  exact (run_all_or_nothing _ countWorld).1 (by decide +kernel)

end CommandLine

end RequestBook
