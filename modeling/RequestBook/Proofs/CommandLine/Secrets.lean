import RequestBook.Proofs.CommandLine.Arguments
import RequestBook.Proofs.CommandLine.Saving
import RequestBook.Proofs.Introspection.Secrecy
import RequestBook.Proofs.Repetitions

/-!
# Credentials in a run

Two runs that differ in their credentials only, wherever these come from, differ in nothing but the
values of the headers of a request. A run that reads a schema file makes nothing of credentials or
headers, not even of headers that are none.
-/

namespace RequestBook.CommandLine

open Introspection

/-- The options that give credentials. -/
def GenerateOption.isCredential (o : GenerateOption) : Bool := o = token || o = apiKey

/-- The options that give credentials or other headers. -/
def GenerateOption.isForServer (o : GenerateOption) : Bool := o.isCredential || o = header

/-- The credentials of a run, from its arguments or, failing that, from its environment. -/
structure Credentials where
  token : Option String
  apiKey : Option String

def Environment.credentials (env : Environment) (given : Given GenerateOption) : Credentials where
  token := present ((given.value? .token).or (present env.token))
  apiKey := present ((given.value? .apiKey).or (present env.apiKey))

/-- Both values are missing, or they are the same, or both of them can be sent. -/
def Interchangeable (value value' : Option String) : Prop :=
  value = value' ∨
    ∃ v v', value = some v ∧ value' = some v' ∧ isAscii v = true ∧ isAscii v' = true

/-- An outcome without the values of headers that were sent. -/
def Outcome.masked (o : Outcome) : Outcome := { o with requests := o.requests.map Outgoing.masked }

/-! ## What is asked for -/

section Asking

variable {env : Environment} {fs : Files} {given given' : Given GenerateOption}
  {args args' : List String} {hidden : GenerateOption → Bool}

/-- The URL that is asked for, or none where only help is. -/
def askedUrl (fs : Files) (given : Given GenerateOption) : Except Refusal (Option String) := do
  if given.has .help then return none
  (checkingOrder given).forM fun o => checkValue fs o (given.value? o)
  unless given.words.isEmpty do throw (.usage .generate (.extraWords given.words))
  match given.value? .url with
  | some url => return some url
  | none => throw (.usage .generate (.missingOption .url))

theorem readGenerate_of_ok (h : readArguments generateOptions true args = .ok given) :
    readGenerate env fs args = (askedUrl fs given).map fun url? =>
      match url? with
      | some url => .generate (settingsOf env url given)
      | none => .help .generate := by
  rw [readGenerate, askedUrl, h]
  dsimp only
  cases given.has .help
  · cases (checkingOrder given).forM fun o => checkValue fs o (given.value? o) with
    | error refusal => rfl
    | ok =>
      cases given.words.isEmpty
      · rfl
      · cases given.value? .url <;> rfl
  · rfl

theorem readGenerate_of_error {fault : OptionFault}
    (h : readArguments generateOptions true args = .error fault) :
    readGenerate env fs args = .error (.usage .generate (.option fault)) := by
  rw [readGenerate, h]
  rfl

theorem forM_filter {f : GenerateOption → Except Refusal Unit} {p : GenerateOption → Bool}
    (h : ∀ o, p o = false → f o = .ok ()) (xs : List GenerateOption) :
    (xs.filter p).forM f = xs.forM f := by
  induction xs with
  | nil => rfl
  | cons x xs ih =>
    cases hp : p x with
    | false =>
      rw [List.filter_cons_of_neg (by simp [hp]), ih]
      change _ = (f x >>= fun _ => xs.forM f)
      rw [h x hp]
      rfl
    | true =>
      rw [List.filter_cons_of_pos hp]
      exact congrArg (fun checked => f x >>= fun _ => checked) ih

theorem filter_checkingOrder (given : Given GenerateOption) (hidden : GenerateOption → Bool) :
    (checkingOrder given).filter (fun o => !hidden o) =
      (((given.without hidden).options.map Prod.fst) ++
        GenerateOption.all.filter fun o => !hidden o).eraseDups := by
  rw [checkingOrder, ← eraseDups_filter, List.filter_append, List.filter_map]
  rfl

/-- Hidden options are not asked for anything if their values are not checked. -/
theorem askedUrl_of_without (fs : Files) (h : given.without hidden = given'.without hidden)
    (hhelp : hidden .help = false) (hurl : hidden .url = false)
    (hunchecked : ∀ o, hidden o = true → ∀ value, checkValue fs o value = .ok ()) :
    askedUrl fs given = askedUrl fs given' := by
  have hvalue {o : GenerateOption} (ho : hidden o = false) : given.value? o = given'.value? o := by
    rw [← given.value?_without ho, h, given'.value?_without ho]
  have hcheck : (fun o => checkValue fs o (given.value? o)) =
      fun o => checkValue fs o (given'.value? o) := by
    funext o
    cases ho : hidden o with
    | false => rw [hvalue ho]
    | true => rw [hunchecked o ho, hunchecked o ho]
  have hchecked : (checkingOrder given).forM (fun o => checkValue fs o (given.value? o)) =
      (checkingOrder given').forM fun o => checkValue fs o (given'.value? o) := by
    have hnone (o : GenerateOption) (ho : (!hidden o) = false) :
        checkValue fs o (given'.value? o) = .ok () :=
      hunchecked o (by simpa using ho) _
    rw [hcheck, ← forM_filter hnone, ← forM_filter hnone (checkingOrder given'),
      filter_checkingOrder, filter_checkingOrder, h]
  have hwords : (given.without hidden).words = (given'.without hidden).words := by rw [h]
  change given.words = given'.words at hwords
  rw [askedUrl, askedUrl, ← given.has_without hhelp, ← given'.has_without hhelp, h, hchecked, hwords,
    hvalue hurl]

theorem checkValue_isForServer {o : GenerateOption} (h : o.isForServer = true)
    (fs : Files) (value : Option String) : checkValue fs o value = .ok () := by
  cases o with
  | token | apiKey | header => rfl
  | _ => exact absurd h (by decide)

theorem settingsOf_of_without (env env' : Environment) (url : String)
    (h : given.without GenerateOption.isForServer = given'.without GenerateOption.isForServer) :
    settingsOf env' url given' =
      { settingsOf env url given with
        token := (settingsOf env' url given').token
        apiKey := (settingsOf env' url given').apiKey
        headers := given'.values .header } := by
  have hvalue (o : GenerateOption) (ho : o.isForServer = false) : given'.value? o = given.value? o := by
    rw [← given.value?_without ho, h, given'.value?_without ho]
  have hshown : GenerateOption.isForServer .verbose = false := rfl
  have hverbose : given'.has .verbose = given.has .verbose := by
    rw [← given.has_without hshown, h, given'.has_without hshown]
  simp only [settingsOf, hvalue .schema rfl, hvalue .output rfl, hvalue .apiKeyHeader rfl,
    hvalue .timeout rfl, hvalue .templateDirectory rfl, hverbose]

theorem without_isForServer
    (h : given.without GenerateOption.isCredential = given'.without GenerateOption.isCredential) :
    given.without GenerateOption.isForServer = given'.without GenerateOption.isForServer ∧
      given.values .header = given'.values .header := by
  have hboth (g : Given GenerateOption) : g.without GenerateOption.isForServer =
      (g.without GenerateOption.isCredential).without (· = .header) := by
    simp [Given.without, shown, List.filter_filter, GenerateOption.isForServer, Bool.and_comm]
  have hshown : GenerateOption.isCredential .header = false := rfl
  refine ⟨by rw [hboth, hboth, h], ?_⟩
  rw [← given.values_without hshown, h, given'.values_without hshown]

end Asking

/-! ## What is sent -/

/-- Whether a value is there and can be sent is the same of interchangeable values. -/
theorem Interchangeable.shapes {value value' : Option String} (h : Interchangeable value value')
    {provide : String → Provider}
    (hshape : ∀ {v v'}, isAscii v = true → isAscii v' = true →
      (provide v).headers.shape = (provide v').headers.shape) :
    List.Forall₂ (fun p p' => p.headers.shape = p'.headers.shape)
      (value.map provide).toList (value'.map provide).toList := by
  rcases h with rfl | ⟨v, v', rfl, rfl, hv, hv'⟩
  · exact List.forall₂_same.mpr fun _ _ => rfl
  · exact .cons (hshape hv hv') .nil

theorem isAscii_append (s t : String) : isAscii (s ++ t) = (isAscii s && isAscii t) := by
  simp [isAscii, List.all_append]

namespace Settings

variable {s : Settings} {token apiKey : Option String} {w w' : World}

theorem shape_providers (htoken : Interchangeable (present s.token) (present token))
    (hkey : Interchangeable (present s.apiKey) (present apiKey)) (lines : Headers) :
    (s.providers lines).headers.shape =
      ({ s with token, apiKey }.providers lines).headers.shape := by
  refine Provider.shape_allHeaders (.cons rfl (List.rel_append (hkey.shapes ?_) (htoken.shapes ?_))) rfl
  · intro v v' hv hv'
    simp [Provider.headers, Headers.shape, hv, hv']
  · intro v v' hv hv'
    simp [Provider.headers, Headers.shape, isAscii_append, hv, hv']

theorem fromServer_masked (htoken : Interchangeable (present s.token) (present token))
    (hkey : Interchangeable (present s.apiKey) (present apiKey)) (source : TemplateSource)
    (lines : Headers) (reply : Reply) :
    ∃ requests, { s with token, apiKey }.fromServer source lines reply =
        { s.fromServer source lines reply with requests } ∧
      (s.fromServer source lines reply).requests.map Outgoing.masked =
        requests.map Outgoing.masked := by
  have hfetch := fetch_masked (shape_providers htoken hkey lines) s.url s.timeout reply
  simp only [fromServer]
  generalize fetch s.url (s.providers lines) s.timeout reply = sent at hfetch ⊢
  generalize fetch s.url ({ s with token, apiKey }.providers lines) s.timeout reply = sent'
    at hfetch ⊢
  obtain ⟨requests, data⟩ := sent
  obtain ⟨requests', data'⟩ := sent'
  obtain ⟨hrequests, rfl⟩ := hfetch
  exact ⟨requests', rfl, hrequests⟩

/-- What an attempt comes to does not depend on credentials, apart from the requests. -/
theorem attempt_masked (htoken : Interchangeable (present s.token) (present token))
    (hkey : Interchangeable (present s.apiKey) (present apiKey))
    (hfiles : w.files = w'.files) (hreply : w.reply = w'.reply) :
    (∃ refusal, s.attempt w = .error refusal ∧ { s with token, apiKey }.attempt w' = .error refusal) ∨
    ∃ a requests, s.attempt w = .ok a ∧
      { s with token, apiKey }.attempt w' = .ok { a with requests } ∧
      a.requests.map Outgoing.masked = requests.map Outgoing.masked := by
  rw [attempt, attempt, ← hfiles, ← hreply]
  dsimp only
  split
  · split
    · exact .inr ⟨_, _, rfl, rfl, rfl⟩
    · exact .inl ⟨_, rfl, rfl⟩
  · split
    · next lines _ =>
      obtain ⟨requests, hother, hrequests⟩ := fromServer_masked htoken hkey
        (templateSource w.files s.templateDirectory) lines w.reply
      exact .inr ⟨_, requests, rfl, congrArg Except.ok hother, hrequests⟩
    · exact .inl ⟨_, rfl, rfl⟩

end Settings

theorem Attempt.run_of_requests (a : Attempt) (requests : List Outgoing) (fs : Files)
    (path : String) :
    { a with requests }.run fs path = { a.run fs path with requests } := by
  rw [run, run]
  dsimp only
  cases a.result with
  | error f => cases hf : f.isReported <;> simp [failedRun, hf]
  | ok c =>
    cases hfile : c.fileAt fs path with
    | error f => cases hf : f.isReported <;> simp [failedRun, hfile, hf]
    | ok file => simp [savedRun, hfile]

/-! ## Runs -/

namespace Settings

variable {s : Settings} {token apiKey : Option String} {w w' : World}

theorem run_masked (htoken : Interchangeable (present s.token) (present token))
    (hkey : Interchangeable (present s.apiKey) (present apiKey))
    (hfiles : w.files = w'.files) (hreply : w.reply = w'.reply) :
    (s.run w).masked = ({ s with token, apiKey }.run w').masked := by
  rw [run, run]
  dsimp only
  cases Endpoint.ofUrl s.url with
  | error f => rfl
  | ok endpoint =>
    dsimp only
    rcases attempt_masked htoken hkey hfiles hreply with
      ⟨refusal, hleft, hright⟩ | ⟨a, requests, hleft, hright, hrequests⟩
    · rw [hleft, hright]
    · rw [hleft, hright]
      dsimp only
      rw [a.run_of_requests requests, ← hfiles, Outcome.masked, Outcome.masked]
      dsimp only
      rw [← hrequests, ← a.requests_run]
      rfl

/-- A run with a schema file makes nothing of credentials and headers. -/
theorem run_of_schema (hschema : s.schema.isSome = true) (hfiles : w.files = w'.files)
    (headers : List String) : { s with token, apiKey, headers }.run w' = s.run w := by
  obtain ⟨path, hpath⟩ := Option.isSome_iff_exists.mp hschema
  have hattempt : { s with token, apiKey, headers }.attempt w' = s.attempt w := by
    rw [attempt, attempt, ← hfiles]
    dsimp only
    rw [hpath]
    rfl
  rw [run, run, hattempt, ← hfiles]
  rfl

end Settings

theorem readProgram_generate (rest : List String) :
    readProgram ("generate" :: rest) = .ok (.inr ("generate" :: rest)) := by
  rw [readProgram, readArguments, if_neg (by decide), if_neg (by decide +kernel),
    if_neg (by decide)]

theorem run_generate {args rest : List String} {w : World}
    (h : readProgram args = .ok (.inr ("generate" :: rest))) :
    run args w = (match readGenerate w.environment w.files rest with
      | .ok invocation => invocation.run w
      | .error refusal => .ofRefusal refusal).printed := by
  have hargs : args.isEmpty = false := by
    cases args with
    | nil => cases h
    | cons arg args => rfl
  rw [run, Invocation.ofArguments, hargs, h]
  rfl

theorem Outcome.masked_printed (o : Outcome) : o.printed.masked = o.masked.printed := rfl

/-- Arguments that agree apart from what only a server needs ask for the same. -/
theorem readGenerate_cases {rest rest' : List String} {env env' : Environment}
    {hidden : GenerateOption → Bool} (fs : Files) (hserver : ∀ o, hidden o = true → o.isForServer = true)
    (h : AgreeBut generateOptions hidden rest rest') :
    (∃ refusal, readGenerate env fs rest = .error refusal ∧
      readGenerate env' fs rest' = .error refusal) ∨
    (readGenerate env fs rest = .ok (.help .generate) ∧
      readGenerate env' fs rest' = .ok (.help .generate)) ∨
    ∃ given given' url, readArguments generateOptions true rest = .ok given ∧
      readArguments generateOptions true rest' = .ok given' ∧
      given.without hidden = given'.without hidden ∧
      readGenerate env fs rest = .ok (.generate (settingsOf env url given)) ∧
      readGenerate env' fs rest' = .ok (.generate (settingsOf env' url given')) := by
  have hshown {o : GenerateOption} (ho : o.isForServer = false) : hidden o = false := by
    by_contra hne
    simp [hserver o (by simpa using hne)] at ho
  have hread := h.readArguments
  generalize hleft : readArguments generateOptions true rest = left at hread
  generalize hright : readArguments generateOptions true rest' = right at hread
  cases hread with
  | fault fault => exact .inl ⟨_, readGenerate_of_error hleft, readGenerate_of_error hright⟩
  | @given given given' same =>
    have hurl := askedUrl_of_without fs same (hshown rfl) (hshown rfl) fun o ho =>
      checkValue_isForServer (hserver o ho) fs
    rw [readGenerate_of_ok hleft, readGenerate_of_ok hright, hurl]
    cases askedUrl fs given' with
    | error refusal => exact .inl ⟨refusal, rfl, rfl⟩
    | ok url? =>
      cases url? with
      | none => exact .inr (.inl ⟨rfl, rfl⟩)
      | some url => exact .inr (.inr ⟨given, given', url, rfl, rfl, same, rfl, rfl⟩)

/-- Two runs of `generate` that agree on everything but credentials, wherever these come from, end
alike, print, save and report the same, and send requests that differ in nothing but the values of
headers. With a schema file, other headers may differ too, and nothing is sent. -/
theorem run_secrets {args args' rest rest' : List String} {w w' : World}
    (hargs : readProgram args = .ok (.inr ("generate" :: rest)))
    (hargs' : readProgram args' = .ok (.inr ("generate" :: rest')))
    (hfiles : w.files = w'.files) (hreply : w.reply = w'.reply) :
    (AgreeBut generateOptions GenerateOption.isCredential rest rest' →
      (∀ given given', readArguments generateOptions true rest = .ok given →
        readArguments generateOptions true rest' = .ok given' →
        Interchangeable (w.environment.credentials given).token
          (w'.environment.credentials given').token ∧
        Interchangeable (w.environment.credentials given).apiKey
          (w'.environment.credentials given').apiKey) →
      (run args w).masked = (run args' w').masked) ∧
    (AgreeBut generateOptions GenerateOption.isForServer rest rest' →
      (∀ given, readArguments generateOptions true rest = .ok given → given.has .schema = true) →
      run args w = run args' w' ∧ (run args w).requests = []) := by
  rw [run_generate hargs, run_generate hargs', ← hfiles]
  refine ⟨fun hagree hcredentials => ?_, fun hagree hschema => ?_⟩
  · rcases readGenerate_cases w.files (fun o ho => by simp [GenerateOption.isForServer, ho]) hagree with
      ⟨refusal, hleft, hright⟩ | ⟨hleft, hright⟩ |
        ⟨given, given', url, hgiven, hgiven', hsame, hleft, hright⟩
    · rw [hleft, hright]
    · rw [hleft, hright]
      rfl
    · obtain ⟨htoken, hkey⟩ := hcredentials given given' hgiven hgiven'
      obtain ⟨hserver, hheaders⟩ := without_isForServer hsame
      have hsettings := settingsOf_of_without w.environment w'.environment url hserver
      rw [← hheaders] at hsettings
      rw [hleft, hright, Outcome.masked_printed, Outcome.masked_printed]
      dsimp only
      rw [Invocation.run, Invocation.run, hsettings,
        Settings.run_masked (s := settingsOf w.environment url given) htoken hkey hfiles hreply]
      rfl
  · rcases readGenerate_cases w.files (fun o ho => ho) hagree with
      ⟨refusal, hleft, hright⟩ | ⟨hleft, hright⟩ |
        ⟨given, given', url, hgiven, hgiven', hsame, hleft, hright⟩
    · rw [hleft, hright, Outcome.requests_printed]
      exact ⟨rfl, Outcome.requests_ofRefusal refusal⟩
    · rw [hleft, hright]
      exact ⟨rfl, rfl⟩
    · have hsome : (settingsOf w.environment url given).schema.isSome = true :=
        (given.isSome_value? .schema).trans (hschema given hgiven)
      have hsettings := settingsOf_of_without w.environment w'.environment url hsame
      rw [hleft, hright]
      dsimp only
      rw [Invocation.run, Invocation.run, hsettings, Settings.run_of_schema hsome hfiles,
        Outcome.requests_printed]
      exact ⟨rfl, ((settingsOf w.environment url given).requests_run w).2 hsome⟩

/-! ## Other credentials -/

/-- A world with a token in its environment, or without one, and with no server. -/
def tokenWorld (token : Option String) : World where
  environment := ⟨token, none⟩
  files := countWorld.files
  reply := .broken "offline"

def plainArguments : List String := ["-u", "http://h/g", "-v"]

def bothArguments : List String := ["--token", "a"] ++ (["--api-key=k"] ++ plainArguments)

def keyArguments : List String := ["--api-key", "other"] ++ plainArguments

set_option maxRecDepth 20000 in
theorem readArguments_both : readArguments generateOptions true bothArguments =
    .ok ⟨[(.token, "a"), (.apiKey, "k"), (.url, "http://h/g"), (.verbose, "")], []⟩ := by
  with_unfolding_all rfl

set_option maxRecDepth 20000 in
theorem readArguments_key : readArguments generateOptions true keyArguments =
    .ok ⟨[(.apiKey, "other"), (.url, "http://h/g"), (.verbose, "")], []⟩ := by
  with_unfolding_all rfl

theorem gives_token : Gives generateOptions ["--token", "a"] [(.token, "a")] := by
  have hread : readOption generateOptions "--token" = .ok ⟨[], some ⟨.token, "--token"⟩⟩ := by
    with_unfolding_all rfl
  exact .withValue "a" (by decide +kernel) hread

theorem gives_key : Gives generateOptions ["--api-key=k"] [(.apiKey, "k")] :=
  .alone (by decide +kernel) (by with_unfolding_all rfl)

theorem gives_otherKey : Gives generateOptions ["--api-key", "other"] [(.apiKey, "other")] := by
  have hread : readOption generateOptions "--api-key" = .ok ⟨[], some ⟨.apiKey, "--api-key"⟩⟩ := by
    with_unfolding_all rfl
  exact .withValue "other" (by decide +kernel) hread

theorem agreeBut_both :
    AgreeBut generateOptions GenerateOption.isCredential bothArguments keyArguments := by
  have hkey : AgreeBut generateOptions GenerateOption.isCredential
      (["--api-key=k"] ++ plainArguments) (["--api-key", "other"] ++ plainArguments) :=
    .options gives_key gives_otherKey rfl (.same plainArguments)
  have hboth : AgreeBut generateOptions GenerateOption.isCredential bothArguments
      ([] ++ keyArguments) := .options gives_token .nothing rfl hkey
  exact hboth

theorem gives_header : Gives generateOptions ["-Hnone"] [(.header, "none")] :=
  .alone (by decide +kernel) (by with_unfolding_all rfl)

def schemaArguments : List String := ["-u", "http://h/g", "-s", "s.json"]

set_option maxRecDepth 20000 in
theorem readArguments_schema : readArguments generateOptions true (["-Hnone"] ++ schemaArguments) =
    .ok ⟨[(.header, "none"), (.url, "http://h/g"), (.schema, "s.json")], []⟩ := by
  with_unfolding_all rfl

/-- The token comes from the arguments or from the environment; a malformed header is of no account
next to a schema file. -/
theorem run_secrets_tokens :
    (run ("generate" :: bothArguments) (tokenWorld none)).masked =
      (run ("generate" :: keyArguments) (tokenWorld (some "b"))).masked ∧
    run ("generate" :: "-Hnone" :: schemaArguments) (tokenWorld none) =
      run ("generate" :: schemaArguments) (tokenWorld (some "b")) := by
  have hfiles : (tokenWorld none).files = (tokenWorld (some "b")).files := rfl
  have hreply : (tokenWorld none).reply = (tokenWorld (some "b")).reply := rfl
  constructor
  · obtain ⟨hsecrets, -⟩ := run_secrets (readProgram_generate bothArguments)
      (readProgram_generate keyArguments) hfiles hreply
    refine hsecrets agreeBut_both fun given given' hgiven hgiven' => ?_
    rw [readArguments_both] at hgiven
    rw [readArguments_key] at hgiven'
    cases hgiven
    cases hgiven'
    exact ⟨.inr ⟨"a", "b", rfl, rfl, by decide, by decide⟩,
      .inr ⟨"k", "other", rfl, rfl, by decide, by decide⟩⟩
  · obtain ⟨-, hschema⟩ := run_secrets (readProgram_generate (["-Hnone"] ++ schemaArguments))
      (readProgram_generate ([] ++ schemaArguments)) hfiles hreply
    refine (hschema (.options gives_header .nothing rfl (.same schemaArguments)) fun given hgiven => ?_).1
    rw [readArguments_schema] at hgiven
    cases hgiven
    rfl

end RequestBook.CommandLine
