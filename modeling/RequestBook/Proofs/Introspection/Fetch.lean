import Mathlib
import RequestBook.Introspection.Fetch
import RequestBook.Proofs.Entries
import RequestBook.Proofs.Outcomes

/-!
# What becomes of a response

A fetch sends one request, whatever comes back. The response brings data under one condition on its
status and on its body; every other response is a failure of the transport that carries the status,
and the errors that the server listed if it listed any.
-/

namespace RequestBook.Introspection

/-! ## The request -/

/-- All headers that a provider gives are ASCII. -/
def IsAsciiProvider (provider : Provider) : Prop :=
  ∀ h ∈ provider.headers, isAscii h.1 = true ∧ isAscii h.2 = true

instance (provider : Provider) : Decidable (IsAsciiProvider provider) :=
  inferInstanceAs (Decidable (∀ h ∈ provider.headers, isAscii h.1 = true ∧ isAscii h.2 = true))

/-- A URL that a request can be sent to: absolute, over HTTP, and with a host that can be named in a
header unless a header names one already. -/
structure Deliverable (url : String) (provider : Provider) (target : Target) : Prop where
  parsed : Target.parse? url = some target
  scheme : target.scheme = "http" ∨ target.scheme = "https"
  host : target.host ≠ ""
  named : (∃ h ∈ Headers.merge standardHeaders provider.headers, h.1.toLower = "host") ∨
    (isAscii target.host = true ∧ target.hostFault? = none)

theorem IsAsciiProvider.merged {provider : Provider} (h : IsAsciiProvider provider) :
    ((Headers.merge standardHeaders provider.headers).all fun (name, value) =>
      isAscii name && isAscii value) = true := by
  have hstandard : ∀ e ∈ standardHeaders, isAscii e.1 = true ∧ isAscii e.2 = true := by decide
  rw [List.all_eq_true]
  intro e he
  obtain ⟨hname, hvalue⟩ := Entries.forall_putAll (P := fun n => isAscii n = true)
    (Q := fun v => isAscii v = true) hstandard h e he
  simp [hname, hvalue]

namespace Deliverable

variable {url : String} {provider : Provider} {target : Target}

theorem isAbsolute (h : Deliverable url provider target) : target.isAbsolute = true := by
  have hscheme : target.scheme ≠ "" := by
    rcases h.scheme with hs | hs <;> simp [hs]
  simp [Target.isAbsolute, hscheme, h.host]

/-- The text of the target starts with its scheme. -/
theorem startsWith_text (h : Deliverable url provider target) :
    target.text.startsWith "/" = false := by
  rw [String.startsWith_string_eq_false_iff, Target.text, if_pos h.isAbsolute]
  rintro ⟨rest, hrest⟩
  rcases h.scheme with hs | hs <;> simp [hs] at hrest

theorem exists_outgoing (h : Deliverable url provider target) (hp : IsAsciiProvider provider)
    (timeout : Json) : ∃ headers,
      outgoing url provider timeout = .ok ⟨"POST", target.text, headers, payload, timeout⟩ := by
  have hshort : target.isShort = true := by simp [Target.isShort, h.isAbsolute]
  have hheaders := hp.merged
  rw [outgoing]
  simp only [hheaders, h.parsed, hshort, h.isAbsolute]
  rw [if_pos trivial, if_pos trivial]
  rcases h.named with ⟨e, he, hname⟩ | ⟨hascii, hfault⟩
  · have hany : ((Headers.merge standardHeaders provider.headers).any fun x =>
        decide (x.1.toLower = "host")) = true :=
      List.any_eq_true.mpr ⟨e, he, by simpa using hname⟩
    rw [if_pos (by simp [hany])]
    exact ⟨_, rfl⟩
  · rw [hascii, hfault]
    split <;> exact ⟨_, rfl⟩

/-- A response to a request that can be sent is turned into its result. -/
theorem fetch_eq_result (h : Deliverable url provider target) (hp : IsAsciiProvider provider)
    (timeout : Json) (status : Int) (body : List UInt8) :
    (fetch url provider timeout (.response status body)).2 =
      (Reply.response status body).result := by
  obtain ⟨headers, houtgoing⟩ := h.exists_outgoing hp timeout
  rw [fetch, houtgoing]
  simp [received, h.startsWith_text]

end Deliverable

set_option maxRecDepth 20000 in
theorem deliverable_https : Deliverable "https://api.example.com/graphql" .none
    ⟨"https", "", "api.example.com", none, "/graphql", none, none⟩ :=
  ⟨by cbv, .inr rfl, by simp, .inr ⟨by decide, by decide +kernel⟩⟩

/-! ## The response -/

def IsSuccess (status : Int) : Prop := 200 ≤ status ∧ status ≤ 299

/-- An object that is an answer with data: its errors are absent or count as absent, its data are
there and do not. -/
def HasData (members : List (String × Json)) (data : Json) : Prop :=
  (∀ errors, members.lookup "errors" = some errors → errors.truthy = false) ∧
    members.lookup "data" = some data ∧ data.truthy = true

/-- An object that lists these errors, at least one. -/
def ListsErrors (members : List (String × Json)) (errors : List Json) : Prop :=
  members.lookup "errors" = some (.arr errors) ∧ errors ≠ []

/-- The response is a success, and its body an answer with data. -/
def Brings (status : Int) (body : List UInt8) (data : Json) : Prop :=
  IsSuccess status ∧ ∃ members, parseBody body = .ok (.obj members) ∧ HasData members data

/-- The response is a success, and its body an object that lists these errors. -/
def Reports (status : Int) (body : List UInt8) (errors : List Json) : Prop :=
  IsSuccess status ∧ ∃ members, parseBody body = .ok (.obj members) ∧ ListsErrors members errors

variable {status : Int} {body : List UInt8} {members : List (String × Json)}

/-! ## The answer -/

theorem memberOrNull_of_lookup {name : String} {value : Json} (h : members.lookup name = some value) :
    (Json.obj members).memberOrNull name = value := by
  rw [Json.memberOrNull, Json.member?, h]
  rfl

/-- What does not count as absent is there. -/
theorem lookup_of_truthy {name : String}
    (h : ((Json.obj members).memberOrNull name).truthy = true) :
    members.lookup name = some ((Json.obj members).memberOrNull name) := by
  cases hlookup : members.lookup name with
  | none =>
    rw [Json.memberOrNull, Json.member?, hlookup] at h
    cases h
  | some value => rw [memberOrNull_of_lookup hlookup]

theorem truthy_of_ne_nil {items : List Json} (h : items ≠ []) : (Json.arr items).truthy = true := by
  cases items with
  | nil => exact absurd rfl h
  | cons item rest => rfl

theorem resultOf_of_hasData {data : Json} (h : HasData members data) :
    resultOf (.obj members) = .ok data := by
  obtain ⟨herrors, hdata, htruthy⟩ := h
  have hfalsy : ((Json.obj members).memberOrNull "errors").truthy ≠ true := by
    intro hpresent
    rw [herrors _ (lookup_of_truthy hpresent)] at hpresent
    cases hpresent
  rw [resultOf, memberOrNull_of_lookup hdata, if_neg hfalsy, if_pos htruthy]

/-- An answer has data, or its fault tells the errors that it lists. -/
theorem hasData_or_fault (members : List (String × Json)) :
    (∃ data, HasData members data) ∨ ∃ fault, resultOf (.obj members) = .error fault ∧
      (∀ errors, ListsErrors members errors → fault.errors = errors) ∧
      ((∀ errors, ¬ ListsErrors members errors) → fault.errors = []) := by
  by_cases hpresent : ((Json.obj members).memberOrNull "errors").truthy = true
  · -- errors count before data, and a list of them is told as it is
    right
    have hlookup := lookup_of_truthy hpresent
    rw [resultOf, if_pos hpresent]
    split
    · next items hitems =>
      rw [hitems] at hlookup hpresent
      have hlists : ListsErrors members items := ⟨hlookup, by rintro rfl; cases hpresent⟩
      refine ⟨_, rfl, fun errors h => ?_, fun h => absurd hlists (h items)⟩
      have hsame := hlookup.symm.trans h.1
      rw [Option.some.injEq, Json.arr.injEq] at hsame
      exact hsame
    · next hother =>
      refine ⟨_, rfl, fun errors h => ?_, fun _ => rfl⟩
      exact absurd (memberOrNull_of_lookup h.1) (hother errors)
  · by_cases hdata : ((Json.obj members).memberOrNull "data").truthy = true
    · left
      refine ⟨_, fun errors herrors => ?_, lookup_of_truthy hdata, hdata⟩
      rwa [memberOrNull_of_lookup herrors, Bool.not_eq_true] at hpresent
    · right
      rw [resultOf, if_neg hpresent, if_neg hdata]
      refine ⟨_, rfl, fun errors h => ?_, fun _ => rfl⟩
      rw [memberOrNull_of_lookup h.1] at hpresent
      exact absurd (truthy_of_ne_nil h.2) hpresent

/-! ## The result -/

theorem parseBody_eq_error {fault : TransportFault} (h : parseBody body = .error fault) :
    fault = .invalidJson := by
  rw [parseBody] at h
  split at h <;> cases h
  rfl

theorem result_of_brings {data : Json} (h : Brings status body data) :
    (Reply.response status body).result = .ok data := by
  obtain ⟨⟨hleast, hmost⟩, members, hbody, hdata⟩ := h
  rw [Reply.result, if_pos ⟨hleast, by omega⟩, hbody]
  change (resultOf (.obj members)).mapError _ = _
  rw [resultOf_of_hasData hdata]
  rfl

/-- Without data, a response fails with its status and with the errors that it reports. -/
theorem result_of_not_brings (h : ∀ data, ¬ Brings status body data) :
    ∃ fault, (Reply.response status body).result = .error (.transport fault (some status)) ∧
      (∀ errors, Reports status body errors → fault.errors = errors) ∧
      ((∀ errors, ¬ Reports status body errors) → fault.errors = []) := by
  by_cases hstatus : IsSuccess status
  · have hrange : 200 ≤ status ∧ status < 300 := ⟨hstatus.1, by have := hstatus.2; omega⟩
    rw [Reply.result, if_pos hrange]
    cases hbody : parseBody body with
    | error fault =>
      obtain rfl := parseBody_eq_error hbody
      refine ⟨_, rfl, ?_, fun _ => rfl⟩
      rintro errors ⟨-, members, hmembers, -⟩
      simp [hbody] at hmembers
    | ok answer =>
      change ∃ fault, (resultOf answer).mapError _ = _ ∧ _
      cases answer with
      | obj members =>
        have hreports (errors : List Json) : Reports status body errors ↔ ListsErrors members errors := by
          simp [Reports, hstatus, hbody]
        simp only [hreports]
        rcases hasData_or_fault members with ⟨data, hdata⟩ | ⟨fault, hfault, hlisted, hnone⟩
        · exact absurd ⟨hstatus, members, hbody, hdata⟩ (h data)
        · exact ⟨fault, by rw [hfault]; rfl, hlisted, hnone⟩
      | _ =>
        refine ⟨.notObject, rfl, ?_, fun _ => rfl⟩
        rintro errors ⟨-, members, hmembers, -⟩
        simp [hbody] at hmembers
  · have hrange : ¬ (200 ≤ status ∧ status < 300) := fun hr => hstatus ⟨hr.1, by omega⟩
    rw [Reply.result, if_neg hrange]
    exact ⟨_, rfl, fun errors hr => absurd hr.1 hstatus, fun _ => rfl⟩

end RequestBook.Introspection
