import RequestBook.Proofs.Headers
import RequestBook.Proofs.Introspection.Fetch

/-!
# The headers of a request

What a request carries of the headers that are set for it, by default and by a tree of providers. A
setting overrules an earlier one of the same spelling. Names that differ in the case of their
letters are one name to a server, but they are sent side by side, so that a name reaches the server
once exactly if all its settings spell it alike. User and password in the URL come before all of
them.
-/

namespace RequestBook

/-- Two spellings of one name of a header. -/
def SameName (a b : String) : Prop := a.toLower = b.toLower

instance : DecidableRel SameName := fun a b => inferInstanceAs (Decidable (a.toLower = b.toLower))

/-- The headers of a name, in whatever spelling. -/
def Headers.named (name : String) (headers : Headers) : Headers :=
  headers.filter fun h => SameName h.1 name

theorem Headers.mem_named {name : String} {headers : Headers} {h : String × String} :
    h ∈ headers.named name ↔ h ∈ headers ∧ SameName h.1 name := by
  simp [named]

theorem Headers.map_fst_named (name : String) (headers : Headers) :
    (headers.named name).map Prod.fst =
      (headers.map Prod.fst).filter fun spelling => SameName spelling name := by
  rw [List.filter_map]
  rfl

/-- The characters of a name of a header. -/
def isTokenChar (c : Char) : Bool := c.isAlphanum || "!#$%&'*+-.^_`|~".toList.contains c

/-- A name that a header can have. -/
def IsToken (name : String) : Prop := name ≠ "" ∧ name.toList.all isTokenChar = true

instance (name : String) : Decidable (IsToken name) :=
  inferInstanceAs (Decidable (name ≠ "" ∧ name.toList.all isTokenChar = true))

namespace Introspection

open Headers

/-- Everything that is set for a request, in turn: the standard headers and those of the provider. -/
def requested (provider : Provider) : Headers := standardHeaders ++ provider.settings

/-! ## Setting a header -/

section SetHeader

variable (name value : String)

theorem setHeader_cons (h : String × String) (headers : Headers) :
    setHeader name value (h :: headers) =
      if SameName h.1 name then (name, value) :: headers.filter fun e => ¬ SameName e.1 name
      else h :: setHeader name value headers := by
  simp only [setHeader, List.span_eq_takeWhile_dropWhile, SameName]
  by_cases hname : h.1.toLower = name.toLower
  · rw [if_pos hname, List.takeWhile_cons_of_neg (by simpa using hname),
      List.dropWhile_cons_of_neg (by simpa using hname)]
    rfl
  · rw [if_neg hname, List.takeWhile_cons_of_pos (by simpa using hname),
      List.dropWhile_cons_of_pos (by simpa using hname)]
    cases headers.dropWhile fun e => decide (e.1.toLower ≠ name.toLower) <;> rfl

/-- A header that is set stands alone under its name. -/
theorem named_setHeader (headers : Headers) :
    (setHeader name value headers).named name = [(name, value)] := by
  induction headers with
  | nil => simp [setHeader, Headers.named, SameName]
  | cons h headers ih =>
    rw [setHeader_cons]
    split
    · rw [Headers.named, List.filter_cons_of_pos (by simp [SameName]), List.filter_filter]
      refine congrArg ((name, value) :: ·) (List.filter_eq_nil_iff.mpr fun e _ => ?_)
      by_cases hsame : SameName e.1 name <;> simp [hsame]
    · next hname =>
      rw [Headers.named, List.filter_cons_of_neg (by simpa using hname)]
      exact ih

theorem named_setHeader_of_not {other : String} (h : ¬ SameName other name) (headers : Headers) :
    (setHeader name value headers).named other = headers.named other := by
  have hdiffer {spelling : String} (hsame : SameName spelling name) : ¬ SameName spelling other :=
    fun hother => h (Eq.trans (Eq.symm hother) hsame)
  have hset : ¬ SameName name other := hdiffer rfl
  induction headers with
  | nil => simpa [setHeader, Headers.named] using hset
  | cons e headers ih =>
    rw [setHeader_cons]
    split
    · next hname =>
      rw [Headers.named, Headers.named, List.filter_cons_of_neg (by simpa using hset),
        List.filter_cons_of_neg (by simpa using hdiffer hname), List.filter_filter]
      refine List.filter_congr fun e' _ => ?_
      by_cases hsame : SameName e'.1 name
      · simp [hsame, hdiffer hsame]
      · simp [hsame]
    · simp only [Headers.named, List.filter_cons] at ih ⊢
      rw [ih]

end SetHeader

/-! ## What is sent -/

variable {url : String} {provider : Provider} {timeout : Json} {reply : Reply}
  {request : Outgoing}

/-- The URL names a user, so that the header of that name is its own. -/
def OverruledByUrl (url name : String) : Prop :=
  SameName name "Authorization" ∧
    ∃ target value, Target.parse? url = some target ∧ target.credentials? = some value

/-- The headers of a request to a target, whose credentials come before those that are set. -/
def Target.authorized (target : Target) (headers : Headers) : Headers :=
  match target.credentials? with
  | some value => setHeader "Authorization" value headers
  | none => headers

/-- Where a request goes. Of its headers, only two things count: whether they are ASCII, and whether
one of them names the host. -/
def destination (url : String) (ascii namesHost : Bool) : Except Failure Target :=
  if !ascii then .error .nonAsciiHeader
  else match Target.parse? url with
    | none => .error .invalidUrl
    | some target =>
      if !target.isShort then .error .invalidUrl
      else if namesHost || !target.isAbsolute then .ok target
      else if !isAscii target.host then .error .nonAsciiHeader
      else match target.hostFault? with
        | some fault => .error (.unreadableHost fault)
        | none => .ok target

def areAscii (headers : Headers) : Bool := headers.all fun h => isAscii h.1 && isAscii h.2

def nameHost (headers : Headers) : Bool := headers.any (·.1.toLower = "host")

theorem outgoing_eq (url : String) (provider : Provider) (timeout : Json) :
    outgoing url provider timeout =
      (destination url (areAscii (standardHeaders.merge provider.headers))
        (nameHost (standardHeaders.merge provider.headers))).map fun target =>
          ⟨"POST", target.text, target.authorized (standardHeaders.merge provider.headers),
            payload, timeout⟩ := by
  rw [outgoing, destination]
  change (if areAscii _ = true then _ else _) = _
  cases areAscii (standardHeaders.merge provider.headers)
  · rfl
  cases Target.parse? url with
  | none => rfl
  | some target =>
    dsimp only
    change (if target.isShort = true then (if (nameHost _ || _) = true then _ else _) else _) = _
    cases target.isShort
    · rfl
    cases nameHost (standardHeaders.merge provider.headers) || !target.isAbsolute
    · cases isAscii target.host
      · rfl
      · cases target.hostFault? <;> rfl
    · rfl

theorem nodup_standardHeaders : (standardHeaders.map Prod.fst).Nodup := by decide

theorem alike_requested (provider : Provider) :
    Entries.Alike (standardHeaders.merge provider.headers) (requested provider) :=
  (Entries.alike_putAll nodup_standardHeaders provider.headers).trans
    (.append (.refl standardHeaders) provider.alike_headers)

/-! ## Names -/

/-- Under a name, headers have one entry for each spelling that it was set in, with the value that
was set last in this spelling. -/
structure Carries (headers settings : Headers) (name : String) : Prop where
  spellings : (headers.named name).map Prod.fst = ((settings.named name).map Prod.fst).eraseDups
  last : ∀ h ∈ headers.named name, settings.SetLast (· = h.1) h.2

/-- Under a name, headers have one entry, with the value that was set last in any spelling. -/
def CarriesOnce (headers settings : Headers) (name : String) : Prop :=
  ∃ h, headers.named name = [h] ∧ settings.SetLast (SameName · name) h.2

/-- All settings of a name spell it in the same way. -/
def SpelledAlike (settings : Headers) (name : String) : Prop :=
  ∀ h ∈ settings.named name, ∀ h' ∈ settings.named name, h.1 = h'.1

instance (settings : Headers) (name : String) : Decidable (SpelledAlike settings name) :=
  inferInstanceAs (Decidable (∀ h ∈ settings.named name, ∀ h' ∈ settings.named name, h.1 = h'.1))

section Names

variable {headers settings : Headers} {name : String}

theorem carries_of_alike (h : Entries.Alike headers settings) (hnodup : (headers.map Prod.fst).Nodup)
    (name : String) : Carries headers settings name where
  spellings := by
    rw [Headers.map_fst_named, Headers.map_fst_named, eraseDups_filter, ← h.keys,
      eraseDups_of_nodup hnodup]
  last e he := Headers.setLast_of_mem h hnodup (Headers.mem_named.mp he).1

/-- One spelling is all there is of settings that are spelled alike. -/
theorem eraseDups_spellings (h : SpelledAlike settings name) {setting : String × String}
    (hmem : setting ∈ settings.named name) :
    ((settings.named name).map Prod.fst).eraseDups = [setting.1] := by
  have hall : ∀ spelling ∈ (settings.named name).map Prod.fst, spelling = setting.1 := by
    intro spelling hspelling
    obtain ⟨e, he, rfl⟩ := List.mem_map.mp hspelling
    exact h e he setting hmem
  cases hnames : (settings.named name).map Prod.fst with
  | nil => simp [List.map_eq_nil_iff.mp hnames] at hmem
  | cons first rest =>
    rw [hnames, List.forall_mem_cons] at hall
    have hnone : rest.filter (fun spelling => !spelling == first) = [] :=
      List.filter_eq_nil_iff.mpr fun spelling hspelling => by simp [hall.1, hall.2 spelling hspelling]
    rw [List.eraseDups_cons, hnone, hall.1]
    rfl

/-- A name that is set is carried once exactly if it is spelled in one way. -/
theorem Carries.once_iff (h : Carries headers settings name) (hset : settings.named name ≠ []) :
    CarriesOnce headers settings name ↔ SpelledAlike settings name := by
  constructor
  · rintro ⟨only, honly, -⟩ e he e' he'
    have hspelling {e : String × String} (he : e ∈ settings.named name) : e.1 = only.1 := by
      have hmem := List.mem_eraseDups.mpr (List.mem_map_of_mem (f := Prod.fst) he)
      rw [← h.spellings, honly] at hmem
      exact List.mem_singleton.mp hmem
    rw [hspelling he, hspelling he']
  · intro halike
    obtain ⟨setting, rest, hsettings⟩ := List.exists_cons_of_ne_nil hset
    have hmem : setting ∈ settings.named name := hsettings ▸ List.mem_cons_self
    have hsame := (Headers.mem_named.mp hmem).2
    have hone := h.spellings
    rw [eraseDups_spellings halike hmem, List.map_eq_singleton_iff] at hone
    obtain ⟨only, honly, hspelling⟩ := hone
    obtain ⟨before, e, after, hlast, hname, hvalue, hafter⟩ := h.last only (by rw [honly]; simp)
    refine ⟨only, honly, before, e, after, hlast, ?_, hvalue, fun later hlater hsameLater => ?_⟩
    · rw [hname, hspelling]
      exact hsame
    · -- a later setting of the name would have the same spelling
      have hmemLater : later ∈ settings.named name :=
        Headers.mem_named.mpr ⟨by rw [hlast]; simp [hlater], hsameLater⟩
      exact hafter later hlater ((halike later hmemLater setting hmem).trans hspelling.symm)

end Names

/-! ## Requests -/

theorem parse_of_destination {ascii namesHost : Bool} {target : Target}
    (h : destination url ascii namesHost = .ok target) : Target.parse? url = some target := by
  rw [destination] at h
  split at h
  · cases h
  split at h
  · cases h
  next found hfound =>
  rw [hfound]
  split at h
  · cases h
  split at h
  · cases h; rfl
  split at h
  · cases h
  split at h
  · cases h
  · cases h; rfl

theorem headers_of_mem (h : request ∈ (fetch url provider timeout reply).1) :
    ∃ target, Target.parse? url = some target ∧
      request.headers = target.authorized (standardHeaders.merge provider.headers) := by
  rw [fetch] at h
  split at h
  · cases h
  next sent hsent =>
  rw [outgoing_eq] at hsent
  obtain rfl := List.mem_singleton.mp h
  cases htarget : destination url (areAscii (standardHeaders.merge provider.headers))
      (nameHost (standardHeaders.merge provider.headers)) with
  | error f =>
    rw [htarget] at hsent
    cases hsent
  | ok target =>
    rw [htarget] at hsent
    cases hsent
    exact ⟨target, parse_of_destination htarget, rfl⟩

theorem named_authorized {target : Target} (hurl : Target.parse? url = some target) {name : String}
    (hname : ¬ OverruledByUrl url name) (headers : Headers) :
    (target.authorized headers).named name = headers.named name := by
  rw [Target.authorized]
  split
  · next value hvalue =>
    exact named_setHeader_of_not _ _ (fun hsame => hname ⟨hsame, target, value, hurl, hvalue⟩) headers
  · rfl

theorem carries_of_mem (h : request ∈ (fetch url provider timeout reply).1) {name : String}
    (hname : ¬ OverruledByUrl url name) : Carries request.headers (requested provider) name := by
  obtain ⟨target, hurl, hheaders⟩ := headers_of_mem h
  have hnamed : request.headers.named name = (standardHeaders.merge provider.headers).named name := by
    rw [hheaders, named_authorized hurl hname]
  have hmerged := carries_of_alike (alike_requested provider)
    (Entries.nodup_putAll nodup_standardHeaders provider.headers) name
  exact ⟨hnamed ▸ hmerged.spellings, hnamed ▸ hmerged.last⟩

/-- A request is sent wherever one can be. Under every name that is set for it, it carries one header
for each spelling of the name, with the value that was set last in this spelling; so it carries the
name once and with the value that was set last exactly if all settings spell it alike. Under the
name for credentials, it carries those of its URL instead if the URL has any. -/
theorem fetch_headers (url : String) (provider : Provider) (timeout : Json) (reply : Reply) :
    (∀ target, IsAsciiProvider provider → Deliverable url provider target →
      ∃ request, (fetch url provider timeout reply).1 = [request]) ∧
    ∀ request ∈ (fetch url provider timeout reply).1,
      (∀ name, ¬ OverruledByUrl url name →
        Carries request.headers (requested provider) name ∧
        ((requested provider).named name ≠ [] →
          (CarriesOnce request.headers (requested provider) name ↔
            SpelledAlike (requested provider) name))) ∧
      ∀ target value, Target.parse? url = some target → target.credentials? = some value →
        request.headers.named "Authorization" = [("Authorization", value)] := by
  refine ⟨fun target hascii hurl => ?_, fun request hsent => ⟨fun name hname => ?_, ?_⟩⟩
  · obtain ⟨headers, hrequest⟩ := hurl.exists_outgoing hascii timeout
    exact ⟨_, by rw [fetch, hrequest]⟩
  · have hcarries := carries_of_mem hsent hname
    exact ⟨hcarries, hcarries.once_iff⟩
  · intro target value hurl hvalue
    obtain ⟨target', hurl', hheaders⟩ := headers_of_mem hsent
    obtain rfl := Option.some.inj (hurl.symm.trans hurl')
    rw [hheaders, Target.authorized, hvalue]
    exact named_setHeader _ _ _

/-! ## Two spellings of one name -/

/-- A line in small letters in front of a token, and a name that is set twice in one spelling. -/
def twiceAuthorized : Provider :=
  .combined [.fixed [("authorization", "Basic dTpw"), ("x-trace", "1")],
    .combined [.none, .bearer "t", .fixed [("x-trace", "2")]]]

theorem deliverable_twiceAuthorized : Deliverable "https://api.example.com/graphql" twiceAuthorized
    ⟨"https", "", "api.example.com", none, "/graphql", none, none⟩ :=
  ⟨by cbv, .inr rfl, by simp, .inr ⟨by decide, by decide +kernel⟩⟩

theorem not_overruled_plainUrl (name : String) :
    ¬ OverruledByUrl "https://api.example.com/graphql" name := by
  rintro ⟨-, target, value, htarget, hvalue⟩
  obtain rfl := Option.some.inj (deliverable_twiceAuthorized.parsed.symm.trans htarget)
  have hnone : Target.credentials? ⟨"https", "", "api.example.com", none, "/graphql", none, none⟩ =
      none := by cbv
  cases hnone.symm.trans hvalue

theorem named_trace :
    (requested twiceAuthorized).named "x-trace" = [("x-trace", "1"), ("x-trace", "2")] := by
  decide +kernel

theorem spelledAlike_trace : SpelledAlike (requested twiceAuthorized) "x-trace" := by
  rw [SpelledAlike, named_trace]
  decide

theorem mem_line_authorization :
    ("authorization", "Basic dTpw") ∈ (requested twiceAuthorized).named "authorization" :=
  mem_named.mpr ⟨by decide, rfl⟩

theorem not_spelledAlike_authorization :
    ¬ SpelledAlike (requested twiceAuthorized) "authorization" := by
  intro h
  have htoken : ("Authorization", "Bearer t") ∈ (requested twiceAuthorized).named "authorization" :=
    mem_named.mpr ⟨by decide, by cbv⟩
  exact absurd (h _ mem_line_authorization _ htoken) (by decide)

theorem fetch_headers_twiceAuthorized : ∃ request,
    (fetch "https://api.example.com/graphql" twiceAuthorized defaultTimeout
      (.broken "offline")).1 = [request] ∧
    CarriesOnce request.headers (requested twiceAuthorized) "x-trace" ∧
    ¬ CarriesOnce request.headers (requested twiceAuthorized) "authorization" := by
  obtain ⟨hsends, hcarries⟩ := fetch_headers "https://api.example.com/graphql" twiceAuthorized
    defaultTimeout (.broken "offline")
  have hascii : IsAsciiProvider twiceAuthorized := by decide +kernel
  obtain ⟨request, hrequest⟩ := hsends _ hascii deliverable_twiceAuthorized
  have hsent : request ∈ (fetch "https://api.example.com/graphql" twiceAuthorized defaultTimeout
      (.broken "offline")).1 := by
    rw [hrequest]
    exact List.mem_singleton_self request
  obtain ⟨hnames, -⟩ := hcarries request hsent
  have htrace := (hnames "x-trace" (not_overruled_plainUrl _)).2
    (by simp [named_trace])
  have htoken := (hnames "authorization" (not_overruled_plainUrl _)).2
    (List.ne_nil_of_mem mem_line_authorization)
  exact ⟨request, hrequest, htrace.mpr spelledAlike_trace,
    fun honce => not_spelledAlike_authorization (htoken.mp honce)⟩

/-- Not every name that is set reaches the server once with the value that was set last, however
well formed the headers are. -/
theorem not_forall_carriesOnce :
    ¬ ∀ (url : String) (provider : Provider) (timeout : Json) (reply : Reply) (request : Outgoing),
      (∀ h ∈ provider.settings, IsToken h.1 ∧ isAscii h.2 = true) →
      request ∈ (fetch url provider timeout reply).1 →
      ∀ name, (requested provider).named name ≠ [] →
        CarriesOnce request.headers (requested provider) name := by
  intro h
  have hascii : IsAsciiProvider twiceAuthorized := by decide +kernel
  obtain ⟨headers, hrequest⟩ := deliverable_twiceAuthorized.exists_outgoing hascii defaultTimeout
  generalize hsame : Outgoing.mk "POST" _ headers payload defaultTimeout = request at hrequest
  have hsent : request ∈ (fetch "https://api.example.com/graphql" twiceAuthorized defaultTimeout
      (.broken "offline")).1 := by
    rw [fetch, hrequest]
    exact List.mem_singleton_self request
  have hset := List.ne_nil_of_mem mem_line_authorization
  have honce := h _ twiceAuthorized _ _ request (by decide +kernel) hsent "authorization" hset
  have hcarries := carries_of_mem hsent (not_overruled_plainUrl "authorization")
  exact not_spelledAlike_authorization ((hcarries.once_iff hset).mp honce)

end Introspection

end RequestBook
