import RequestBook.Collection.Assembly
import RequestBook.Proofs.Introspection.Fetch
import RequestBook.Proofs.Json.Breaks
import RequestBook.Proofs.Json.Writing
import RequestBook.Proofs.Text.Encoding
import RequestBook.Schema.File

/-!
# A server's answer and a file

The same bytes may come from a server or stand in a file. Either way the same collection is made of
them, or the same part of the schema is at fault, although a server's answer is taken apart before
its schema is looked for and the bytes of a file are read as text first.
-/

namespace RequestBook

open Introspection

/-- The collection for an endpoint that answers with these bytes. -/
def Collection.fromServer (source : TemplateSource) (url : String) (provider : Provider)
    (timeout : Json) (bytes : List UInt8) : Except Failure Collection :=
  (fetch url provider timeout (.response 200 bytes)).2 >>= Collection.ofResult source url

/-- The collection for an endpoint from a file that holds these bytes. -/
def Collection.fromFile (source : TemplateSource) (url name : String) (bytes : List UInt8) :
    Except Failure Collection := do
  (← Schema.ofFile name bytes).assemble source url

/-- The bytes write an object with data but no errors, and the data themselves are no answer. -/
structure Answer (bytes : List UInt8) (data : Json) : Prop where
  parsed : ∃ text members, Text.Encoding.utf8.decode bytes = some text ∧
    Json.parse text = .ok (.obj members) ∧ members.lookup "data" = some data ∧
    ∀ errors, members.lookup "errors" = some errors → errors.truthy = false
  single : data.member? "data" = none

/-! ## Bytes -/

namespace Json

open TextReader Text

theorem isShort_of_isBlank {c : Char} (h : isBlank c = true) : IsShort c := by
  simp only [isBlank, Bool.or_eq_true, beq_iff_eq] at h
  rcases h with ((rfl | rfl) | rfl) | rfl <;> exact ⟨by decide, by decide⟩

theorem starts_short {c : Char} {cs rest : List Char} (h : unblanked cs = c :: rest)
    (hc : IsShort c) : ∃ d more, cs = d :: more ∧ IsShort d := by
  cases cs with
  | nil => cases h
  | cons d cs =>
    refine ⟨d, cs, rfl, ?_⟩
    cases hblank : isBlank d with
    | true => exact isShort_of_isBlank hblank
    | false =>
      rw [unblanked, List.dropWhile_cons_of_neg (by simp [hblank])] at h
      cases h
      exact hc

theorem Reads.members_start {cs rest : List Char} {members : List (String × Json)}
    (h : Reads cs (.members members) rest) : ∃ more, cs = '"' :: more := by
  cases h with
  | lastMember h _ | another h _ _ =>
    cases h with
    | named => exact ⟨_, rfl⟩

/-- Behind the brace of an object stands a blank, a quote or another brace. -/
theorem Reads.obj_starts {cs rest : List Char} {members : List (String × Json)}
    (h : Reads cs (.value (.obj members)) rest) :
    ∃ d more, cs = '\x7b' :: d :: more ∧ IsShort d := by
  generalize hpart : Part.value (.obj members) = part at h
  cases h with
  | word h =>
    cases hpart
    exact absurd h wordAt?_ne_obj
  | emptyObject h =>
    obtain ⟨d, more, rfl, hd⟩ := starts_short h ⟨by decide, by decide⟩
    exact ⟨d, more, rfl, hd⟩
  | object h =>
    obtain ⟨next, hnext⟩ := h.members_start
    obtain ⟨d, more, rfl, hd⟩ := starts_short hnext ⟨by decide, by decide⟩
    exact ⟨d, more, rfl, hd⟩
  | _ => cases hpart

/-- The first two characters of an object's text are one byte each. -/
theorem Reads.starts_short {cs rest : List Char} {members : List (String × Json)}
    (h : Reads (unblanked cs) (.value (.obj members)) rest) :
    ∃ c d more, cs = c :: d :: more ∧ IsShort c ∧ IsShort d := by
  obtain ⟨second, next, hbrace, hsecond⟩ := h.obj_starts
  cases cs with
  | nil => cases hbrace
  | cons c cs =>
    cases hblank : isBlank c with
    | true =>
      rw [unblanked, List.dropWhile_cons_of_pos hblank] at hbrace
      obtain ⟨d, more, rfl, hd⟩ := Json.starts_short hbrace ⟨by decide, by decide⟩
      exact ⟨c, d, more, rfl, isShort_of_isBlank hblank, hd⟩
    | false =>
      rw [unblanked, List.dropWhile_cons_of_neg (by simp [hblank])] at hbrace
      cases hbrace
      exact ⟨_, second, next, rfl, ⟨by decide, by decide⟩, hsecond⟩

end Json

/-! ## One answer in two places -/

/-- Reading the bytes of a file as text first does not change the value that they write. -/
theorem Schema.ofFile_of_parse {name text : String} {bytes : List UInt8} {result : Json}
    (hdecode : Text.Encoding.utf8.decode bytes = some text) (hparse : Json.parse text = .ok result)
    (hname : holdsDefinitions name = false) : Schema.ofFile name bytes = Schema.ofJson result := by
  have htext : fileText bytes = .ok (String.ofList (Text.normalizeBreaks text.toList)) := by
    rw [fileText, hdecode]
  rw [Schema.ofFile, htext]
  change (if holdsDefinitions name then Schema.ofDefinitions name _
    else Schema.ofDump name _) = _
  rw [hname, if_neg (by decide), Schema.ofDump, Json.parse_normalizeBreaks hparse]

namespace Answer

variable {bytes : List UInt8} {data : Json}

/-- A server's client finds the encoding of the bytes by itself. -/
theorem parseBody_eq (h : Answer bytes data) : ∃ members,
    parseBody bytes = .ok (.obj members) ∧ members.lookup "data" = some data ∧
      ∀ errors, members.lookup "errors" = some errors → errors.truthy = false := by
  obtain ⟨text, members, hdecode, hparse, hdata, herrors⟩ := h.parsed
  obtain ⟨rest, hreads, -⟩ := Json.reads_of_parse hparse
  obtain ⟨c, d, more, htext, hc, hd⟩ := hreads.starts_short
  refine ⟨members, ?_, hdata, herrors⟩
  rw [parseBody, Text.Encoding.decodeDetected_of_short hdecode htext hc hd, Option.map_some,
    hparse]

theorem node?_obj {members : List (String × Json)} (h : members.lookup "data" = some data)
    (hsingle : data.member? "data" = none) :
    Schema.node? (.obj members) = Schema.node? data := by
  rw [Schema.node?, Schema.node?, hsingle]
  rw [Json.member?, h]
  rfl

theorem ofFile_eq (h : Answer bytes data) {name : String} (hname : holdsDefinitions name = false) :
    Schema.ofFile name bytes = Schema.ofJson data := by
  obtain ⟨text, members, hdecode, hparse, hdata, -⟩ := h.parsed
  rw [Schema.ofFile_of_parse hdecode hparse hname, Schema.ofJson, Schema.ofJson,
    node?_obj hdata h.single]

/-- Data that count as absent are no object with a schema. -/
theorem ofJson_of_not_truthy (hdata : data.truthy = false) :
    Schema.ofJson data = .error (.integrity .noSchema) := by
  cases data with
  | obj members =>
    cases members with
    | nil => rfl
    | cons m members => cases hdata
  | _ => rfl

theorem fetched (h : Answer bytes data) {url : String} {provider : Provider} {target : Target}
    (hurl : Deliverable url provider target) (hprovider : IsAsciiProvider provider)
    (timeout : Json) :
    (fetch url provider timeout (.response 200 bytes)).2 =
      if data.truthy then .ok data else .error (.transport .noData (some 200)) := by
  obtain ⟨members, hbody, hdata, herrors⟩ := h.parseBody_eq
  rw [hurl.fetch_eq_result hprovider]
  cases htruthy : data.truthy with
  | true => exact result_of_brings ⟨⟨by decide, by decide⟩, members, hbody, herrors, hdata, htruthy⟩
  | false =>
    have hpresent : ((Json.obj members).memberOrNull "errors").truthy = false := by
      cases hlookup : members.lookup "errors" with
      | none =>
        rw [Json.memberOrNull, Json.member?, hlookup]
        rfl
      | some errors =>
        rw [memberOrNull_of_lookup hlookup]
        exact herrors errors hlookup
    rw [Reply.result, if_pos (by decide), hbody]
    change (resultOf (.obj members)).mapError _ = _
    rw [resultOf, hpresent, memberOrNull_of_lookup hdata, htruthy]
    rfl

end Answer

/-- The same bytes from a server and in a file. -/
theorem Collection.fromServer_fromFile (source : TemplateSource) (url name : String)
    (provider : Provider) (target : Target) (timeout : Json) (bytes : List UInt8) (data : Json)
    (h : Answer bytes data) (hname : holdsDefinitions name = false)
    (hurl : Deliverable url provider target) (hprovider : IsAsciiProvider provider) :
    (∀ c, Collection.fromServer source url provider timeout bytes = .ok c ↔
      Collection.fromFile source url name bytes = .ok c) ∧
    (data.truthy = true → Collection.fromServer source url provider timeout bytes =
      Collection.fromFile source url name bytes) ∧
    (data.truthy = false →
      Collection.fromServer source url provider timeout bytes =
        .error (.transport .noData (some 200)) ∧
      Collection.fromFile source url name bytes = .error (.integrity .noSchema)) := by
  have htruthy : data.truthy = true → Collection.fromServer source url provider timeout bytes =
      Collection.fromFile source url name bytes := by
    intro hdata
    rw [Collection.fromServer, Collection.fromFile, h.fetched hurl hprovider, h.ofFile_eq hname,
      if_pos hdata]
    rfl
  have hfalsy : data.truthy = false →
      Collection.fromServer source url provider timeout bytes =
        .error (.transport .noData (some 200)) ∧
      Collection.fromFile source url name bytes = .error (.integrity .noSchema) := by
    intro hdata
    rw [Collection.fromServer, Collection.fromFile, h.fetched hurl hprovider, h.ofFile_eq hname,
      if_neg (by simp [hdata]), Answer.ofJson_of_not_truthy hdata]
    exact ⟨rfl, rfl⟩
  refine ⟨fun c => ?_, htruthy, hfalsy⟩
  cases hdata : data.truthy with
  | true => rw [htruthy hdata]
  | false =>
    rw [(hfalsy hdata).1, (hfalsy hdata).2]
    constructor <;> rintro ⟨⟩

/-- An answer on several lines, which ends in a blank line of its own. -/
theorem Collection.fromServer_fromFile_breaks :
    Collection.fromServer .standard "https://api.example.com/graphql" .none defaultTimeout
        "\r\n\x7b\"data\":\r\x7b\"__schema\": \"\"\x7d\x7d\r\n".toByteArray.data.toList =
      Collection.fromFile .standard "https://api.example.com/graphql" "s.json"
        "\r\n\x7b\"data\":\r\x7b\"__schema\": \"\"\x7d\x7d\r\n".toByteArray.data.toList := by
  have hparsed : Json.parse "\r\n\x7b\"data\":\r\x7b\"__schema\": \"\"\x7d\x7d\r\n" =
      .ok (.obj [("data", .obj [("__schema", .str "")])]) := by cbv
  have hanswer : Answer "\r\n\x7b\"data\":\r\x7b\"__schema\": \"\"\x7d\x7d\r\n".toByteArray.data.toList
      (.obj [("__schema", .str "")]) :=
    ⟨⟨_, _, Text.Encoding.decode_bytes _, hparsed, rfl, fun _ h => by cases h⟩, rfl⟩
  exact (Collection.fromServer_fromFile .standard _ "s.json" .none _ defaultTimeout _ _ hanswer
    (by decide +kernel) deliverable_https (by decide +kernel)).2.1 rfl

/-! ## An answer that is not read -/

section Huge

variable {n : Int} {text : String} {rest : List Char}

theorem normalizeBreaks_integerFirst (n : Int) (rest : List Char) :
    Text.normalizeBreaks (Json.integerFirst "n" n rest) =
      Json.integerFirst "n" n (Text.normalizeBreaks rest) := by
  have htext (more : List Char) : Json.integerFirst "n" n more =
      ('\x7b' :: ((Json.quoted "n").toList ++ ':' :: ' ' :: (toString n).toList)) ++ more := by
    simp [Json.integerFirst]
  rw [htext, htext]
  refine Text.normalizeBreaks_append (fun c hc => ?_) rest
  rintro rfl
  rw [Json.toList_toString_int] at hc
  have hdigits : '\r' ∉ Nat.toDigits 10 n.natAbs := by
    intro hdigit
    have hbreak : '\r'.isDigit = true :=
      Nat.isDigit_of_mem_toDigits (by decide) (by decide) hdigit
    cases hbreak
  have hname : '\r' ∉ (Json.quoted "n").toList := by decide
  split_ifs at hc <;> simp [hdigits, hname] at hc

theorem parseBody_integerFirst (hn : Text.digitLimit < (Nat.toDigits 10 n.natAbs).length)
    (hrest : Json.EndsWord rest) (htext : text.toList = Json.integerFirst "n" n rest) :
    parseBody text.toByteArray.data.toList = .error .invalidJson := by
  have hrejects := Json.rejects_integerFirst hn "n" hrest
  rw [← htext] at hrejects
  obtain ⟨i, hparse⟩ := Json.parse_of_rejects hrejects
  have hdecode := Text.Encoding.decodeDetected_of_short (Text.Encoding.decode_bytes text)
    (htext.trans rfl : text.toList = '\x7b' :: '"' :: _) ⟨by decide, by decide⟩
    ⟨by decide, by decide⟩
  rw [parseBody, hdecode, Option.map_some, hparse]

theorem ofFile_integerFirst (hn : Text.digitLimit < (Nat.toDigits 10 n.natAbs).length)
    (hrest : Json.EndsWord (Text.normalizeBreaks rest))
    (htext : text.toList = Json.integerFirst "n" n rest) {name : String}
    (hname : holdsDefinitions name = false) :
    Schema.ofFile name text.toByteArray.data.toList =
      .error (.hugeNumber (Nat.toDigits 10 n.natAbs).length) := by
  have hfile : fileText text.toByteArray.data.toList =
      .ok (String.ofList (Json.integerFirst "n" n (Text.normalizeBreaks rest))) := by
    rw [fileText, Text.Encoding.decode_bytes]
    dsimp only
    rw [htext, normalizeBreaks_integerFirst]
  have hrejects := Json.rejects_integerFirst hn "n" hrest
  rw [← String.toList_ofList (l := Json.integerFirst "n" n _)] at hrejects
  obtain ⟨i, hparse⟩ := Json.parse_of_rejects hrejects
  rw [Schema.ofFile, hfile]
  change (if holdsDefinitions name then Schema.ofDefinitions name _
    else Schema.ofDump name _) = _
  rw [hname, if_neg (by decide), Schema.ofDump, hparse]

end Huge

theorem exists_compact_eq_integerFirst (n : Int) : ∃ rest,
    (Json.obj [("n", .int n), ("data", .bool true)]).compact.toList =
      Json.integerFirst "n" n (',' :: ' ' :: rest) := by
  have hcompact : (Json.obj [("n", .int n), ("data", .bool true)]).compact =
      "\x7b" ++ ((Json.quoted "n" ++ ": " ++ toString n) ++ ", " ++
        (Json.quoted "data" ++ ": " ++ "true")) ++ "\x7d" := rfl
  rw [hcompact]
  exact ⟨(Json.quoted "data" ++ ": " ++ "true" ++ "\x7d").toList, by simp [Json.integerFirst]⟩

/-- An integer of too many digits makes the whole answer of a server unreadable, and a file fails
with an error about the number itself. -/
theorem Collection.not_forall_fromServer_eq_fromFile :
    ¬∀ (members : List (String × Json)) (data : Json), (Json.obj members).Plain →
      members.lookup "data" = some data → members.lookup "errors" = none →
      data.member? "data" = none → data.truthy = true →
      Collection.fromServer .standard "https://api.example.com/graphql" .none defaultTimeout
          (Json.obj members).compact.toByteArray.data.toList =
        Collection.fromFile .standard "https://api.example.com/graphql" "s.json"
          (Json.obj members).compact.toByteArray.data.toList := by
  intro h
  have hsame := h [("n", .int Json.hugeInteger), ("data", .bool true)] (.bool true)
    (by simp) rfl rfl rfl rfl
  have hdigits := Json.length_hugeInteger
  generalize Json.hugeInteger = n at hsame hdigits
  obtain ⟨rest, htext⟩ := exists_compact_eq_integerFirst n
  have hcomma (more : List Char) : Json.EndsWord (',' :: more) := Json.endsWord_cons rfl more
  have hbroken : Json.EndsWord (Text.normalizeBreaks (',' :: ' ' :: rest)) := by
    rw [Text.normalizeBreaks_cons (by decide)]
    exact hcomma _
  rw [Collection.fromServer, Collection.fromFile,
    deliverable_https.fetch_eq_result (by decide +kernel),
    ofFile_integerFirst hdigits hbroken htext (by decide +kernel), Reply.result,
    if_pos (by decide), parseBody_integerFirst hdigits (hcomma _) htext] at hsame
  cases hsame

end RequestBook
