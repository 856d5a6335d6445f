import RequestBook.Proofs.Repetitions
import RequestBook.Proofs.Request.Call
import RequestBook.Proofs.Request.Resolver

/-!
# What a memory holds

A memory is described by the list of all uses of names that were remembered in it: one entry per
name, where the name first came up, with what its last use gave. Every further use keeps this
description, over a longer list.
-/

namespace RequestBook

theorem Json.samePart_str (a b : String) : samePart (.str a) (.str b) = (a == b) := by
  simp [samePart, isNaN, same]

/-! ## Memories -/

/-- A memory of the uses of names, in the order of `uses`: one entry per name, at the place of the
first use of the name, with a value that the last use of the name gives. -/
structure Memory.Holds {ι α : Type} (name : ι → Json) (gives : ι → α → Prop) (uses : List ι)
    (memory : Memory α) : Prop where
  names : memory.map Prod.fst = (uses.map fun x => (name x).plain).eraseDups.map Json.str
  last : ∀ n value, (Json.str n, value) ∈ memory → ∃ before x after, uses = before ++ x :: after ∧
    (name x).plain = n ∧ (∀ y ∈ after, (name y).plain ≠ n) ∧ gives x value

namespace Entries

variable {α : Type} {entries : List (Json × α)} {n : String} {value : α}

/-- Keys stay where they are, and a new one comes last. -/
theorem map_fst_put {names : List String} (h : entries.map Prod.fst = names.map Json.str) :
    (put Json.samePart (.str n) value entries).map Prod.fst =
      (names ++ if n ∈ names then [] else [n]).map Json.str := by
  induction entries generalizing names with
  | nil =>
    obtain rfl : names = [] := by simpa using h.symm
    rfl
  | cons e rest ih =>
    obtain ⟨m, names, rfl, hm, hrest⟩ := List.map_eq_cons_iff.mp h.symm
    obtain ⟨key, old⟩ := e
    obtain rfl : Json.str m = key := hm
    rw [put, Json.samePart_str]
    by_cases hmn : m = n
    · rw [if_pos (by simpa using hmn), hmn, List.map_cons, ← hrest]
      simp
    · rw [if_neg (by simpa using hmn), List.map_cons, ih hrest.symm]
      simp [Ne.symm hmn]

/-- Behind a write, a key has the value written or, being another one, the value it had. -/
theorem mem_put {names : List String} (h : entries.map Prod.fst = names.map Json.str)
    (hnames : names.Nodup) {m : String} {w : α}
    (hm : (Json.str m, w) ∈ put Json.samePart (.str n) value entries) :
    (m = n ∧ w = value) ∨ (m ≠ n ∧ (Json.str m, w) ∈ entries) := by
  induction entries generalizing names with
  | nil =>
    rw [put, List.mem_singleton, Prod.mk.injEq, Json.str.injEq] at hm
    exact Or.inl hm
  | cons e rest ih =>
    obtain ⟨k, names, rfl, hk, hrest⟩ := List.map_eq_cons_iff.mp h.symm
    obtain ⟨key, old⟩ := e
    obtain rfl : Json.str k = key := hk
    obtain ⟨hknames, hnames⟩ := List.nodup_cons.mp hnames
    rw [put, Json.samePart_str] at hm
    by_cases hkn : k = n
    · rw [if_pos (by simpa using hkn)] at hm
      rcases List.mem_cons.mp hm with hm | hm
      · rw [Prod.mk.injEq, Json.str.injEq] at hm
        exact Or.inl ⟨hm.1.trans hkn, hm.2⟩
      · -- the key has no second entry, so this one is of another name
        refine Or.inr ⟨?_, List.mem_cons_of_mem _ hm⟩
        rintro rfl
        have hmem : Json.str m ∈ rest.map Prod.fst := List.mem_map_of_mem hm
        rw [← hrest] at hmem
        exact hknames (by simpa [hkn] using hmem)
    · rw [if_neg (by simpa using hkn)] at hm
      rcases List.mem_cons.mp hm with hm | hm
      · rw [Prod.mk.injEq, Json.str.injEq] at hm
        refine Or.inr ⟨?_, List.mem_cons.mpr (Or.inl (by rw [hm.1, hm.2]))⟩
        rw [hm.1]
        exact hkn
      · rcases ih hrest.symm hnames hm with hnew | ⟨hne, hold⟩
        · exact Or.inl hnew
        · exact Or.inr ⟨hne, List.mem_cons_of_mem _ hold⟩

end Entries

namespace Memory.Holds

variable {ι α : Type} {name : ι → Json} {gives : ι → α → Prop} {uses : List ι} {memory : Memory α}

theorem nil : Holds name gives [] ([] : Memory α) := ⟨rfl, by simp⟩

/-- One more use of a name. -/
theorem put (h : Holds name gives uses memory) {x : ι} {value : α} (hx : (name x).IsString)
    (hvalue : gives x value) :
    Holds name gives (uses ++ [x]) (Entries.put Json.samePart (name x) value memory) where
  names := by
    have hmap : (uses ++ [x]).map (fun y => (name y).plain) =
        uses.map (fun y => (name y).plain) ++ [(name x).plain] := List.map_append
    rw [hx.eq_str, Entries.map_fst_put h.names, hmap, eraseDups_concat]
    simp only [List.mem_eraseDups]
  last m w hm := by
    rw [hx.eq_str] at hm
    rcases Entries.mem_put h.names (nodup_eraseDups _) hm with ⟨rfl, rfl⟩ | ⟨hne, hold⟩
    · exact ⟨uses, x, [], rfl, rfl, by simp, hvalue⟩
    · obtain ⟨before, y, after, rfl, hy, hafter, hgives⟩ := h.last m w hold
      refine ⟨before, y, after ++ [x], by simp, hy, ?_, hgives⟩
      intro z hz
      rcases List.mem_append.mp hz with hz | hz
      · exact hafter z hz
      · rw [List.mem_singleton.mp hz]
        exact Ne.symm hne

end Memory.Holds

end RequestBook
