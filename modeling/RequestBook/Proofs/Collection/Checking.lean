import Mathlib.Data.List.Forall2
import RequestBook.Collection.Reading
import RequestBook.Proofs.Json.Keeping

/-!
# Which values are collections

A collection is read from a value exactly if its members say so, each under its name. Where a
member that may be absent is, its default stands in for it, and members of other names are not
looked at.
-/

namespace RequestBook

/-! ## Checked parts -/

namespace Checked

variable {α β γ : Type}

theorem both_eq_ok {f : α → β → γ} {x : Checked α} {y : Checked β} {z : γ} :
    both f x y = .ok z ↔ ∃ a b, x = .ok a ∧ y = .ok b ∧ f a b = z := by
  cases x <;> cases y <;> simp [both]

theorem within_eq_ok {step : PathStep} {x : Checked α} {a : α} :
    within step x = .ok a ↔ x = .ok a := by
  cases x <;> simp [within]

theorem text_eq_ok {j : Json} {s : String} : text j = .ok s ↔ j = .str s := by
  cases j <;> simp [text, fail]

theorem items_eq_ok {j : Json} {xs : List Json} : items j = .ok xs ↔ j = .arr xs := by
  cases j <;> simp [items, fail]

theorem object_bind_eq_ok {j : Json} {next : List (String × Json) → Checked α} {a : α} :
    (object j >>= next) = .ok a ↔ ∃ members, j = .obj members ∧ next members = .ok a := by
  cases j <;> simp [object, fail, bind, Except.bind]

theorem member_eq_ok {name : String} {read : Json → Checked α} {members : List (String × Json)}
    {a : α} :
    member name read members = .ok a ↔ ∃ j, members.lookup name = some j ∧ read j = .ok a := by
  rw [member, within_eq_ok]
  cases members.lookup name <;> simp [fail]

theorem memberOr_eq_ok {name : String} {absent : α} {read : Json → Checked α}
    {members : List (String × Json)} {a : α} {default : Json} (h : read default = .ok absent) :
    memberOr name absent read members = .ok a ↔
      read ((members.lookup name).getD default) = .ok a := by
  rw [memberOr]
  cases members.lookup name with
  | some j => rw [within_eq_ok]; rfl
  | none => simp [h]

theorem each_eq_ok {read : Json → Checked α} {xs : List Json} {ys : List α} :
    each read xs = .ok ys ↔ List.Forall₂ (fun y x => read x = .ok y) ys xs := by
  suffices hgo : ∀ n, each.go read n xs = .ok ys ↔
      List.Forall₂ (fun y x => read x = .ok y) ys xs from hgo 0
  induction xs generalizing ys with
  | nil => simp [each.go, eq_comm]
  | cons x xs ih =>
    intro n
    rw [each.go, both_eq_ok, List.forall₂_cons_right_iff]
    simp only [within_eq_ok, ih]
    constructor
    · rintro ⟨y, ys, hy, hys, rfl⟩
      exact ⟨y, ys, hy, hys, rfl⟩
    · rintro ⟨y, ys, hy, hys, rfl⟩
      exact ⟨y, ys, hy, hys, rfl⟩

theorem texts_eq_ok {j : Json} {xs : List String} :
    (items j >>= each text) = .ok xs ↔ j = .texts xs := by
  cases j with
  | arr values =>
    change each text values = .ok xs ↔ _
    rw [each_eq_ok, Json.texts, Json.arr.injEq]
    simp only [text_eq_ok]
    induction values generalizing xs with
    | nil => simp [eq_comm]
    | cons value values ih => cases xs <;> simp [List.forall₂_cons, ih]
  | _ => simp [items, fail, Json.texts, bind, Except.bind]

end Checked

open Checked

/-! ## What the members say -/

structure Endpoint.ReadFrom (e : Endpoint) (j : Json) : Prop where
  raw : j.member? "raw" = some (.str e.raw)
  protocol : j.member? "protocol" = some (.str e.protocol)
  host : j.member? "host" = some (.texts e.host)
  path : j.member? "path" = some (.texts e.path)

structure RequestBody.ReadFrom (b : RequestBody) (j : Json) : Prop where
  mode : (j.member? "mode").getD (.str "graphql") = .str b.mode
  content : ∃ part, j.member? "graphql" = some part ∧ part.member? "query" = some (.str b.query) ∧
    part.member? "variables" = some (.str b.values)

structure Request.ReadFrom (r : Request) (j : Json) : Prop where
  method : (j.member? "method").getD (.str "POST") = .str r.method
  header : (j.member? "header").getD (.arr []) = .arr r.header
  body : ∃ part, j.member? "body" = some part ∧ r.body.ReadFrom part
  url : ∃ part, j.member? "url" = some part ∧ r.url.ReadFrom part

structure Item.ReadFrom (i : Item) (j : Json) : Prop where
  name : j.member? "name" = some (.str i.name)
  request : ∃ part, j.member? "request" = some part ∧ i.request.ReadFrom part
  response : (j.member? "response").getD (.arr []) = .arr i.response

/-- The format may stand under either of two names. -/
structure Collection.ReadFrom (c : Collection) (j : Json) : Prop where
  info : ∃ part, j.member? "info" = some part ∧ part.member? "name" = some (.str c.name) ∧
    ((part.member? "schema").or (part.member? "schema_")).getD (.str collectionFormat) =
      .str c.format
  items : ∃ parts, (j.member? "item").getD (.arr []) = .arr parts ∧
    List.Forall₂ Item.ReadFrom c.items parts

theorem Endpoint.check_eq_ok {j : Json} {e : Endpoint} :
    Endpoint.check j = .ok e ↔ e.ReadFrom j := by
  rw [Endpoint.check, object_bind_eq_ok]
  constructor
  · rintro ⟨members, rfl, h⟩
    simp only [both_eq_ok, member_eq_ok, text_eq_ok, texts_eq_ok] at h
    obtain ⟨_, _, ⟨_, _, ⟨_, hraw, rfl⟩, ⟨_, hprotocol, rfl⟩, rfl⟩,
      ⟨_, _, ⟨_, hhost, rfl⟩, ⟨_, hpath, rfl⟩, rfl⟩, rfl⟩ := h
    exact ⟨hraw, hprotocol, hhost, hpath⟩
  · rintro h
    obtain ⟨members, rfl, -⟩ := Json.eq_obj_of_member? h.raw
    refine ⟨members, rfl, ?_⟩
    simp only [both_eq_ok, member_eq_ok, text_eq_ok, texts_eq_ok]
    exact ⟨_, _, ⟨_, _, ⟨_, h.raw, rfl⟩, ⟨_, h.protocol, rfl⟩, rfl⟩,
      ⟨_, _, ⟨_, h.host, rfl⟩, ⟨_, h.path, rfl⟩, rfl⟩, rfl⟩

theorem RequestBody.check_eq_ok {j : Json} {b : RequestBody} :
    RequestBody.check j = .ok b ↔ b.ReadFrom j := by
  have hdefault : text (.str "graphql") = .ok "graphql" := rfl
  rw [RequestBody.check, object_bind_eq_ok]
  constructor
  · rintro ⟨members, rfl, h⟩
    simp only [both_eq_ok, member_eq_ok, memberOr_eq_ok hdefault, text_eq_ok,
      object_bind_eq_ok] at h
    obtain ⟨_, _, hmode, ⟨_, hpart, _, rfl, _, _, ⟨_, hquery, rfl⟩, ⟨_, hvalues, rfl⟩, rfl⟩,
      rfl⟩ := h
    exact ⟨hmode, _, hpart, hquery, hvalues⟩
  · rintro ⟨hmode, part, hpart, hquery, hvalues⟩
    obtain ⟨members, rfl, -⟩ := Json.eq_obj_of_member? hpart
    obtain ⟨content, rfl, -⟩ := Json.eq_obj_of_member? hquery
    refine ⟨members, rfl, ?_⟩
    simp only [both_eq_ok, member_eq_ok, memberOr_eq_ok hdefault, text_eq_ok, object_bind_eq_ok]
    exact ⟨_, _, hmode, ⟨_, hpart, _, rfl, _, _, ⟨_, hquery, rfl⟩, ⟨_, hvalues, rfl⟩, rfl⟩, rfl⟩

theorem Request.check_eq_ok {j : Json} {r : Request} :
    Request.check j = .ok r ↔ r.ReadFrom j := by
  have hmethod : text (.str "POST") = .ok "POST" := rfl
  have hheader : items (.arr []) = .ok [] := rfl
  rw [Request.check, object_bind_eq_ok]
  constructor
  · rintro ⟨members, rfl, h⟩
    simp only [both_eq_ok, member_eq_ok, memberOr_eq_ok hmethod, memberOr_eq_ok hheader, text_eq_ok,
      items_eq_ok, RequestBody.check_eq_ok, Endpoint.check_eq_ok] at h
    obtain ⟨_, _, ⟨_, _, hmethod, hheader, rfl⟩, ⟨_, _, ⟨_, hbody, hb⟩, ⟨_, hurl, he⟩, rfl⟩,
      rfl⟩ := h
    exact ⟨hmethod, hheader, ⟨_, hbody, hb⟩, ⟨_, hurl, he⟩⟩
  · rintro ⟨hmethodMember, hheaderMember, ⟨part, hbody, hb⟩, ⟨_, hurl, he⟩⟩
    obtain ⟨members, rfl, -⟩ := Json.eq_obj_of_member? hbody
    refine ⟨members, rfl, ?_⟩
    simp only [both_eq_ok, member_eq_ok, memberOr_eq_ok hmethod, memberOr_eq_ok hheader, text_eq_ok,
      items_eq_ok, RequestBody.check_eq_ok, Endpoint.check_eq_ok]
    exact ⟨_, _, ⟨_, _, hmethodMember, hheaderMember, rfl⟩,
      ⟨_, _, ⟨_, hbody, hb⟩, ⟨_, hurl, he⟩, rfl⟩, rfl⟩

theorem Item.check_eq_ok {j : Json} {i : Item} : Item.check j = .ok i ↔ i.ReadFrom j := by
  have hresponse : items (.arr []) = .ok [] := rfl
  rw [Item.check, object_bind_eq_ok]
  constructor
  · rintro ⟨members, rfl, h⟩
    simp only [both_eq_ok, member_eq_ok, memberOr_eq_ok hresponse, text_eq_ok, items_eq_ok,
      Request.check_eq_ok] at h
    obtain ⟨_, _, ⟨_, hname, rfl⟩, ⟨_, _, ⟨_, hrequest, hr⟩, hresponse, rfl⟩, rfl⟩ := h
    exact ⟨hname, ⟨_, hrequest, hr⟩, hresponse⟩
  · rintro ⟨hname, ⟨part, hrequest, hr⟩, hresponseMember⟩
    obtain ⟨members, rfl, -⟩ := Json.eq_obj_of_member? hname
    refine ⟨members, rfl, ?_⟩
    simp only [both_eq_ok, member_eq_ok, memberOr_eq_ok hresponse, text_eq_ok, items_eq_ok,
      Request.check_eq_ok]
    exact ⟨_, _, ⟨_, hname, rfl⟩, ⟨_, _, ⟨_, hrequest, hr⟩, hresponseMember, rfl⟩, rfl⟩

/-- The format under its own name goes before the one under the other name. -/
theorem format_eq_ok {declared other : Option Json} {format : String} :
    (match declared, other with
      | none, some j => within (.member "schema") (text j)
      | some j, _ => within (.member "schema") (text j)
      | none, none => .ok collectionFormat : Checked String) = .ok format ↔
    (declared.or other).getD (.str collectionFormat) = .str format := by
  cases declared <;> cases other <;> simp [within_eq_ok, text_eq_ok]

theorem checkInfo_eq_ok {j : Json} {name format : String} :
    checkInfo j = .ok (name, format) ↔ j.member? "name" = some (.str name) ∧
      ((j.member? "schema").or (j.member? "schema_")).getD (.str collectionFormat) =
        .str format := by
  rw [checkInfo, object_bind_eq_ok]
  simp only [both_eq_ok, member_eq_ok, text_eq_ok, Prod.mk.injEq]
  constructor
  · rintro ⟨members, rfl, _, _, ⟨_, hname, rfl⟩, h, rfl, rfl⟩
    exact ⟨hname, format_eq_ok.mp h⟩
  · rintro ⟨hname, h⟩
    obtain ⟨members, rfl, -⟩ := Json.eq_obj_of_member? hname
    exact ⟨members, rfl, _, _, ⟨_, hname, rfl⟩, format_eq_ok.mpr h, rfl, rfl⟩

theorem Collection.ofJson_eq_ok {j : Json} {c : Collection} :
    Collection.ofJson j = .ok c ↔ c.ReadFrom j := by
  have hof : Collection.ofJson j = .ok c ↔ Collection.check j = .ok c := by
    rw [Collection.ofJson]
    cases Collection.check j <;> simp [Except.mapError]
  have hitems : ∀ members : List (String × Json),
      memberOr "item" [] (fun j => Checked.items j >>= each Item.check) members = .ok c.items ↔
        ∃ parts, (members.lookup "item").getD (.arr []) = .arr parts ∧
          List.Forall₂ Item.ReadFrom c.items parts := by
    intro members
    refine (@memberOr_eq_ok _ _ _ _ members c.items (.arr []) rfl).trans ?_
    cases (members.lookup "item").getD (.arr []) with
    | arr parts =>
      change each Item.check parts = .ok c.items ↔ _
      simp [each_eq_ok, Item.check_eq_ok]
    | _ => simp [Checked.items, fail, bind, Except.bind]
  rw [hof, Collection.check, object_bind_eq_ok]
  constructor
  · rintro ⟨members, rfl, h⟩
    obtain ⟨⟨_, _⟩, _, hinfo, hread, rfl⟩ := both_eq_ok.mp h
    obtain ⟨part, hpart, hchecked⟩ := member_eq_ok.mp hinfo
    exact ⟨⟨part, hpart, checkInfo_eq_ok.mp hchecked⟩, (hitems members).mp hread⟩
  · rintro ⟨⟨part, hpart, hchecked⟩, hread⟩
    obtain ⟨members, rfl, -⟩ := Json.eq_obj_of_member? hpart
    exact ⟨members, rfl, both_eq_ok.mpr ⟨(c.name, c.format), c.items,
      member_eq_ok.mpr ⟨part, hpart, checkInfo_eq_ok.mpr hchecked⟩, (hitems members).mpr hread,
      rfl⟩⟩

/-! ## A collection's own value -/

theorem Endpoint.readFrom_toJson (e : Endpoint) : e.ReadFrom e.toJson := ⟨rfl, rfl, rfl, rfl⟩

theorem RequestBody.readFrom_toJson (b : RequestBody) : b.ReadFrom b.toJson :=
  ⟨rfl, _, rfl, rfl, rfl⟩

theorem Request.readFrom_toJson (r : Request) : r.ReadFrom r.toJson :=
  ⟨rfl, rfl, ⟨_, rfl, r.body.readFrom_toJson⟩, ⟨_, rfl, r.url.readFrom_toJson⟩⟩

theorem Item.readFrom_toJson (i : Item) : i.ReadFrom i.toJson :=
  ⟨rfl, ⟨_, rfl, i.request.readFrom_toJson⟩, rfl⟩

theorem Collection.readFrom_toJson (c : Collection) : c.ReadFrom c.toJson :=
  ⟨⟨_, rfl, rfl, rfl⟩, ⟨_, rfl, List.forall₂_map_right_iff.mpr
    (List.forall₂_same.mpr fun i _ => i.readFrom_toJson)⟩⟩

/-- Reading undoes the way a collection is handed over, whatever its entries are. -/
theorem Collection.ofJson_toJson (c : Collection) : Collection.ofJson c.toJson = .ok c :=
  Collection.ofJson_eq_ok.mpr c.readFrom_toJson

end RequestBook
