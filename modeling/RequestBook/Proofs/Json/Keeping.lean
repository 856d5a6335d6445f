import Mathlib.Tactic.Common
import RequestBook.Schema.Introspection

/-!
# Keeping a part of a value

Of an object, members of certain names are kept and every other is dropped. A reader that asks for
a kept member finds it as it was treated, one that asks for another finds none, and a value that
is no object is refused as before.
-/

namespace RequestBook

namespace Json

theorem eq_obj_of_member? {j value : Json} {name : String} (h : j.member? name = some value) :
    ∃ members, j = .obj members ∧ members.lookup name = some value := by
  cases j with
  | obj members => exact ⟨members, rfl, h⟩
  | _ => cases h

/-- The members of the given names, each as its treatment leaves it. -/
def keepMembers (members : List (String × Json)) :
    List (String × (Json → Json)) → List (String × Json)
  | [] => []
  | (name, f) :: parts =>
    match members.lookup name with
    | some value => (name, f value) :: keepMembers members parts
    | none => keepMembers members parts

/-- Of an object only certain members. What is no object stays as it is. -/
def keep (parts : List (String × (Json → Json))) : Json → Json
  | .obj members => .obj (keepMembers members parts)
  | j => j

/-- A list with each of its items treated. -/
def mapItems (f : Json → Json) : Json → Json
  | .arr items => .arr (items.map f)
  | j => j

variable {parts : List (String × (Json → Json))} {name : String} {f : Json → Json}

theorem lookup_keepMembers (members : List (String × Json))
    (parts : List (String × (Json → Json))) (name : String) :
    (keepMembers members parts).lookup name =
      (parts.lookup name).bind fun f => (members.lookup name).map f := by
  induction parts with
  | nil => rfl
  | cons part parts ih =>
    obtain ⟨other, f⟩ := part
    rw [keepMembers, List.lookup_cons]
    cases hname : name == other with
    | true =>
      obtain rfl := beq_iff_eq.mp hname
      cases hvalue : members.lookup name with
      | some value => simp
      | none => simp [ih, hvalue]
    | false =>
      cases hvalue : members.lookup other with
      | some value => simp [List.lookup_cons, hname, ih]
      | none => simp [ih]

theorem member?_keep (hname : parts.lookup name = some f) (j : Json) :
    (j.keep parts).member? name = (j.member? name).map f := by
  cases j with
  | obj members => rw [keep, member?, lookup_keepMembers, hname]; rfl
  | _ => rfl

theorem member?_keep_none (hname : parts.lookup name = none) (j : Json) :
    (j.keep parts).member? name = none := by
  cases j with
  | obj members => rw [keep, member?, lookup_keepMembers, hname]; rfl
  | _ => rfl

theorem memberOrNull_keep (hname : parts.lookup name = some f) (hf : f .null = .null) (j : Json) :
    (j.keep parts).memberOrNull name = f (j.memberOrNull name) := by
  rw [memberOrNull, memberOrNull, member?_keep hname]
  cases j.member? name with
  | none => exact hf.symm
  | some value => rfl

theorem memberOrNull_keep_none (hname : parts.lookup name = none) (j : Json) :
    (j.keep parts).memberOrNull name = .null := by
  rw [memberOrNull, member?_keep_none hname]
  rfl

theorem required_keep (hname : parts.lookup name = some f) (j : Json) :
    (j.keep parts).required name = (j.required name).map f := by
  cases j with
  | obj members =>
    rw [keep, required, required, lookup_keepMembers, hname]
    cases members.lookup name <;> rfl
  | _ => rfl

theorem objectMembers_keep (j : Json) :
    (j.keep parts).objectMembers = j.objectMembers.map (keepMembers · parts) := by
  cases j <;> rfl

theorem parts_mapItems (hf : ∀ s, f (.str s) = .str s) (j : Json) :
    (j.mapItems f).parts = j.parts.map (List.map f) := by
  cases j with
  | arr items => cases items <;> rfl
  | str s => cases h : (str s).truthy <;> simp [mapItems, Json.parts, h, Except.map, hf]
  | obj members => cases h : (obj members).truthy <;> simp [mapItems, Json.parts, h, Except.map, hf]
  | null => rfl
  | bool b => cases b <;> rfl
  | int n => cases h : (int n).truthy <;> simp [mapItems, Json.parts, h, Except.map]
  | float x => cases h : (float x).truthy <;> simp [mapItems, Json.parts, h, Except.map]

end Json

end RequestBook
