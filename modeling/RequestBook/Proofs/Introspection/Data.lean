import RequestBook.Proofs.Introspection.Fetch

/-!
# The data of an answer

The data of an introspection answer should be an object with members. A fetch only asks whether
they count as absent, so that nothing empty passes for data, but a number, a text, a list or a truth
value does. Such stray data are the only ones that come back without being an object.
-/

namespace RequestBook

namespace Json

/-- An object that has members. -/
def IsFilledObject (j : Json) : Prop := ∃ members, j = .obj members ∧ members ≠ []

/-- What is there, but is no object. -/
def IsStray (j : Json) : Prop := j.truthy = true ∧ ∀ members, j ≠ .obj members

theorem truthy_iff {j : Json} : j.truthy = true ↔ j.IsFilledObject ∨ j.IsStray := by
  cases j with
  | obj members => cases members <;> simp [truthy, IsFilledObject, IsStray]
  | _ => simp [IsFilledObject, IsStray]

end Json

namespace Introspection

variable {url : String} {provider : Provider} {timeout : Json} {status : Int} {body : List UInt8}

/-- What is fetched has come with the response. -/
theorem result_of_fetch {data : Json}
    (h : (fetch url provider timeout (.response status body)).2 = .ok data) :
    (Reply.response status body).result = .ok data := by
  rw [fetch] at h
  split at h
  · cases h
  · rw [received] at h
    split at h
    · cases h
    · exact h

theorem brings_of_result {data : Json} (h : (Reply.response status body).result = .ok data) :
    Brings status body data := by
  by_contra hnot
  -- A response brings at most its result. Where it does not bring that, it brings nothing and fails.
  have hnone : ∀ other, ¬ Brings status body other := by
    intro other hother
    have hsame := (result_of_brings hother).symm.trans h
    rw [Except.ok.injEq] at hsame
    exact hnot (hsame ▸ hother)
  obtain ⟨fault, hfault, -⟩ := result_of_not_brings hnone
  rw [hfault] at h
  cases h

theorem Brings.truthy {data : Json} (h : Brings status body data) : data.truthy = true := by
  obtain ⟨-, members, -, -, -, htruthy⟩ := h
  exact htruthy

/-- Nothing empty is fetched, and what is fetched is an object unless the response brings stray
data, which do come back as they are. All other data that are no object with members make a failure
of the transport with the status of the response. -/
theorem fetch_data (url : String) (provider : Provider) (timeout : Json) (status : Int)
    (body : List UInt8) :
    (∀ data, (fetch url provider timeout (.response status body)).2 = .ok data →
      Brings status body data ∧ (data.IsFilledObject ∨ data.IsStray)) ∧
    ∀ target, IsAsciiProvider provider → Deliverable url provider target →
      (∀ data, data.IsStray → Brings status body data →
        (fetch url provider timeout (.response status body)).2 = .ok data) ∧
      ∀ members data, parseBody body = .ok (.obj members) → members.lookup "data" = some data →
        ¬ data.IsFilledObject → ¬ data.IsStray →
        ∃ fault, (fetch url provider timeout (.response status body)).2 =
          .error (.transport fault (some status)) := by
  refine ⟨fun data hdata => ?_, fun target hp hurl => ?_⟩
  · have hbrings := brings_of_result (result_of_fetch hdata)
    exact ⟨hbrings, Json.truthy_iff.mp hbrings.truthy⟩
  · rw [hurl.fetch_eq_result hp]
    refine ⟨fun data _ hbrings => result_of_brings hbrings, ?_⟩
    intro members data hbody hlookup hfilled hstray
    have hsilent : ∀ other, ¬ Brings status body other := by
      rintro other ⟨-, members', hbody', -, hlookup', htruthy⟩
      cases hbody.symm.trans hbody'
      cases hlookup.symm.trans hlookup'
      exact (Json.truthy_iff.mp htruthy).elim hfilled hstray
    obtain ⟨fault, hfault, -⟩ := result_of_not_brings hsilent
    exact ⟨fault, hfault⟩

/-! ## Two responses -/

/-- The body of an answer whose data are a text. -/
def strayBody : List UInt8 := "\x7b\"data\":\"denied\"\x7d".toUTF8.toList

/-- The body of an answer whose data are empty. -/
def emptyBody : List UInt8 := "\x7b\"data\":[]\x7d".toUTF8.toList

set_option maxRecDepth 20000 in
theorem parseBody_strayBody : parseBody strayBody = .ok (.obj [("data", .str "denied")]) := by
  have hdecoded : Text.Encoding.decodeDetected strayBody = some "\x7b\"data\":\"denied\"\x7d" := by
    decide +kernel
  have hparsed : Json.parse "\x7b\"data\":\"denied\"\x7d" = .ok (.obj [("data", .str "denied")]) := by cbv
  rw [parseBody, hdecoded, Option.map_some, hparsed]

set_option maxRecDepth 20000 in
theorem parseBody_emptyBody : parseBody emptyBody = .ok (.obj [("data", .arr [])]) := by
  have hdecoded : Text.Encoding.decodeDetected emptyBody = some "\x7b\"data\":[]\x7d" := by
    decide +kernel
  have hparsed : Json.parse "\x7b\"data\":[]\x7d" = .ok (.obj [("data", .arr [])]) := by cbv
  rw [parseBody, hdecoded, Option.map_some, hparsed]

theorem brings_strayBody : Brings 200 strayBody (.str "denied") :=
  ⟨⟨by decide, by decide⟩, _, parseBody_strayBody, by simp [List.lookup_cons], rfl, rfl⟩

/-- A text comes back as the data, an empty list does not. -/
theorem fetch_data_stray :
    (fetch "https://api.example.com/graphql" .none defaultTimeout (.response 200 strayBody)).2 =
      .ok (.str "denied") ∧
    ∃ fault, (fetch "https://api.example.com/graphql" .none defaultTimeout
      (.response 200 emptyBody)).2 = .error (.transport fault (some 200)) := by
  have hascii : IsAsciiProvider .none := by decide
  constructor
  · exact ((fetch_data _ _ defaultTimeout 200 strayBody).2 _ hascii deliverable_https).1 _
      ⟨rfl, by simp⟩ brings_strayBody
  · refine ((fetch_data _ _ defaultTimeout 200 emptyBody).2 _ hascii deliverable_https).2 _ _
      parseBody_emptyBody rfl ?_ ?_
    · simp [Json.IsFilledObject]
    · simp [Json.IsStray, Json.truthy]

/-- What is fetched need not be an object. -/
theorem not_forall_fetch_object :
    ¬ ∀ (url : String) (provider : Provider) (timeout : Json) (status : Int) (body : List UInt8)
      (data : Json), (fetch url provider timeout (.response status body)).2 = .ok data →
      data.IsFilledObject := by
  intro h
  have hstray : (fetch "https://api.example.com/graphql" .none defaultTimeout
      (.response 200 strayBody)).2 = .ok (.str "denied") := by
    rw [deliverable_https.fetch_eq_result (by decide)]
    exact result_of_brings brings_strayBody
  obtain ⟨members, hmembers, -⟩ := h _ _ _ _ _ _ hstray
  cases hmembers

end Introspection

end RequestBook
