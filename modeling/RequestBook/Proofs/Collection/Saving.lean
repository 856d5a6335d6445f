import RequestBook.Proofs.Collection.Checking
import RequestBook.Proofs.Json.Writing

/-!
# Saving a collection

A collection is saved as a text in ASCII that is read back as its value, and its value is read back
as the collection. An entry that anyone put in may hold an integer of too many digits, and then
nothing is saved.
-/

namespace RequestBook

/-! ## Plain values -/

namespace Json

variable {j : Json}

theorem Plain.member? {part : Json} {name : String} (hj : j.Plain)
    (h : j.member? name = some part) : part.Plain := by
  obtain ⟨members, rfl, hlookup⟩ := eq_obj_of_member? h
  obtain ⟨before, after, rfl, -⟩ := List.lookup_eq_some_iff.mp hlookup
  exact (plain_obj.mp hj).2 (name, part) (by simp)

/-- The items of a list that may be absent. -/
theorem Plain.mem_member? {items : List Json} {name : String} {part : Json} (hj : j.Plain)
    (h : (j.member? name).getD (.arr []) = .arr items) (hpart : part ∈ items) : part.Plain := by
  cases hmember : j.member? name with
  | none =>
    rw [hmember] at h
    cases h
    cases hpart
  | some list =>
    rw [hmember] at h
    have hlist := hj.member? hmember
    cases h
    exact plain_arr.mp hlist part hpart

@[simp] theorem plain_texts (xs : List String) : (texts xs).Plain := by
  simp [texts]

theorem isWritable_texts (xs : List String) : (texts xs).isWritable = true := by
  simp [texts, isWritable, areWritable_iff]

end Json

/-! ## Entries -/

/-- The values of any shape that an item holds. -/
def Item.entries (i : Item) : List Json := i.request.header ++ i.response

def Collection.entries (c : Collection) : List Json := c.items.flatMap Item.entries

@[simp] theorem Endpoint.plain_toJson (e : Endpoint) : e.toJson.Plain := by
  simp [Endpoint.toJson]

@[simp] theorem RequestBody.plain_toJson (b : RequestBody) : b.toJson.Plain := by
  simp [RequestBody.toJson]

theorem Item.plain_toJson {i : Item} (h : ∀ j ∈ i.entries, j.Plain) : i.toJson.Plain := by
  have hheader : ∀ j ∈ i.request.header, j.Plain := fun j hj => h j (List.mem_append_left _ hj)
  have hresponse : ∀ j ∈ i.response, j.Plain := fun j hj => h j (List.mem_append_right _ hj)
  simpa [Item.toJson, Request.toJson] using ⟨hheader, hresponse⟩

theorem Collection.plain_toJson {c : Collection} (h : ∀ j ∈ c.entries, j.Plain) :
    c.toJson.Plain := by
  have hitems : ∀ i ∈ c.items, i.toJson.Plain := fun i hi =>
    Item.plain_toJson fun j hj => h j (List.mem_flatMap.mpr ⟨i, hi, hj⟩)
  simpa [Collection.toJson] using hitems

theorem Item.isWritable_toJson (i : Item) :
    i.toJson.isWritable = true ↔ ∀ j ∈ i.entries, j.isWritable = true := by
  simp [Item.toJson, Request.toJson, RequestBody.toJson, Endpoint.toJson, Json.isWritable,
    Json.hasWritableMembers, Json.areWritable_iff, Json.isWritable_texts, Item.entries,
    or_imp, forall_and]

theorem Collection.isWritable_toJson (c : Collection) :
    c.toJson.isWritable = true ↔ ∀ j ∈ c.entries, j.isWritable = true := by
  simp only [Collection.toJson, Json.isWritable, Json.hasWritableMembers, Json.areWritable_iff,
    Bool.true_and, Bool.and_true, List.forall_mem_map, Item.isWritable_toJson,
    Collection.entries, List.forall_mem_flatMap]

/-- What is read from a plain value holds nothing but plain values. -/
theorem Collection.ReadFrom.plain {c : Collection} {j : Json} (h : c.ReadFrom j) (hj : j.Plain) :
    ∀ e ∈ c.entries, e.Plain := by
  obtain ⟨parts, hparts, hitems⟩ := h.items
  intro e he
  obtain ⟨i, hi, he⟩ := List.mem_flatMap.mp he
  obtain ⟨part, hpart, hread⟩ := exists_of_mem_left hitems hi
  have hplain := hj.mem_member? hparts hpart
  obtain ⟨request, hrequest, hread'⟩ := hread.request
  rcases List.mem_append.mp he with he | he
  · exact (hplain.member? hrequest).mem_member? hread'.header he
  · exact hplain.mem_member? hread.response he

/-! ## Saving and loading -/

/-- A collection is saved as a text in ASCII that is loaded as the collection's value. -/
structure Collection.SavedAs (c : Collection) (text : String) : Prop where
  saved : c.fileText = .ok text
  ascii : Json.IsAscii text
  loaded : Json.parse text = .ok c.toJson

theorem Collection.savedAs_tabbed {c : Collection} (hplain : ∀ j ∈ c.entries, j.Plain)
    (hwrite : ∀ j ∈ c.entries, j.isWritable = true) : c.SavedAs c.toJson.tabbed := by
  have hvalue := Collection.plain_toJson hplain
  have hwritable := c.isWritable_toJson.mpr hwrite
  refine ⟨?_, hvalue.isAscii_write _, hvalue.parse_write hwritable _⟩
  rw [Collection.fileText, if_pos hwritable]

theorem Collection.fileText_eq_ok {c : Collection} {text : String} (h : c.fileText = .ok text) :
    c.toJson.isWritable = true ∧ text = c.toJson.tabbed := by
  rw [Collection.fileText] at h
  split at h
  · next hwritable => exact ⟨hwritable, (Except.ok.inj h).symm⟩
  · cases h

/-- Nothing of a collection is lost when it is saved. It is saved unless an entry holds an integer
of more digits than can be read. -/
structure Collection.Lossless (c : Collection) : Prop where
  read : Collection.ofJson c.toJson = .ok c
  saved : (∃ text, c.fileText = .ok text) ↔ ∀ j ∈ c.entries, j.isWritable = true
  savedAs : ∀ text, c.fileText = .ok text → c.SavedAs text

theorem Collection.lossless {c : Collection} (h : ∀ j ∈ c.entries, j.Plain) : c.Lossless := by
  have hwritable {text : String} (htext : c.fileText = .ok text) :
      ∀ j ∈ c.entries, j.isWritable = true :=
    c.isWritable_toJson.mp (Collection.fileText_eq_ok htext).1
  refine ⟨c.ofJson_toJson, ⟨?_, fun hwrite => ?_⟩, fun text htext => ?_⟩
  · rintro ⟨text, htext⟩
    exact hwritable htext
  · exact ⟨_, (Collection.savedAs_tabbed h hwrite).saved⟩
  · rw [(Collection.fileText_eq_ok htext).2]
    exact Collection.savedAs_tabbed h (hwritable htext)

/-- Every collection is read from its own value, and loaded from what it is saved as. What is read
from any plain value says what that value says of it, and is settled: it is read again from its own
value and loaded again from its own text. -/
theorem Collection.saving_lossless :
    (∀ c : Collection, (∀ j ∈ c.entries, j.Plain) → c.Lossless) ∧
    ∀ (v : Json) (c : Collection), v.Plain → Collection.ofJson v = .ok c →
      c.ReadFrom v ∧
      c.toJson.member? "info" = some (.obj [("name", .str c.name), ("schema", .str c.format)]) ∧
      c.Lossless := by
  refine ⟨fun c h => Collection.lossless h, fun v c hv hc => ?_⟩
  have hread := Collection.ofJson_eq_ok.mp hc
  exact ⟨hread, rfl, Collection.lossless (hread.plain hv)⟩

/-- One request with an entry of its own. -/
def entryCollection (entry : Json) : Collection where
  name := "h"
  format := collectionFormat
  items := [⟨"a", ⟨"POST", [entry], ⟨"graphql", "\x7b a \x7d", ""⟩,
    ⟨"http://h/g", "http", ["h"], ["g"]⟩⟩, []⟩]

/-- Quotes, control characters and characters of any plane are no exception, and neither is a
value with the format under its other name, members too many and members missing. -/
theorem Collection.saving_lossless_entry :
    (∃ text, (entryCollection (.obj [("key", .str "\x00\"é\u2028😀"), ("n", .int (-7))])).SavedAs
      text) ∧
    ∃ text, (⟨"h", "s", []⟩ : Collection).SavedAs text := by
  constructor
  · have hlossless := Collection.saving_lossless.1
      (entryCollection (.obj [("key", .str "\x00\"é\u2028😀"), ("n", .int (-7))])) fun j hj => by
        rw [List.mem_singleton.mp (hj : j ∈ [_])]
        simp
    obtain ⟨text, htext⟩ := hlossless.saved.mpr fun j hj => by
      rw [List.mem_singleton.mp (hj : j ∈ [_])]
      decide
    exact ⟨text, hlossless.savedAs text htext⟩
  · have hread : Collection.ofJson (.obj [("info", .obj [("name", .str "h"), ("schema_", .str "s"),
        ("more", .null)])]) = .ok ⟨"h", "s", []⟩ :=
      Collection.ofJson_eq_ok.mpr ⟨⟨_, rfl, rfl, rfl⟩, [], rfl, .nil⟩
    obtain ⟨-, -, hlossless⟩ := Collection.saving_lossless.2 _ _ (by simp) hread
    obtain ⟨text, htext⟩ := hlossless.saved.mpr (by simp [Collection.entries])
    exact ⟨text, hlossless.savedAs text htext⟩

end RequestBook
