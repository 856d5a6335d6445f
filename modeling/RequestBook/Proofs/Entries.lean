import RequestBook.Entries
import RequestBook.Proofs.Repetitions

/-!
# Writing entries

What holds of all keys and of all values before a write, and of what is written, holds of all of
them behind it. Entries that are written in turn leave every key at the place of its first write,
with the value of its last.
-/

namespace RequestBook.Entries

variable {κ α : Type} {same : κ → κ → Bool} {P : κ → Prop} {Q : α → Prop}
  {entries new : List (κ × α)}

theorem forall_put {key : κ} {value : α} (h : ∀ e ∈ entries, P e.1 ∧ Q e.2) (hkey : P key)
    (hvalue : Q value) : ∀ e ∈ put same key value entries, P e.1 ∧ Q e.2 := by
  induction entries with
  | nil =>
    intro e he
    rw [put, List.mem_singleton] at he
    rw [he]
    exact ⟨hkey, hvalue⟩
  | cons head rest ih =>
    obtain ⟨other, old⟩ := head
    have hhead := h (other, old) List.mem_cons_self
    have hrest : ∀ e ∈ rest, P e.1 ∧ Q e.2 := fun e he => h e (List.mem_cons_of_mem _ he)
    intro e he
    rw [put] at he
    split at he
    · rcases List.mem_cons.mp he with rfl | he
      · exact ⟨hhead.1, hvalue⟩
      · exact hrest e he
    · rcases List.mem_cons.mp he with rfl | he
      · exact hhead
      · exact ih hrest e he

theorem forall_putAll (h : ∀ e ∈ entries, P e.1 ∧ Q e.2) (hnew : ∀ e ∈ new, P e.1 ∧ Q e.2) :
    ∀ e ∈ putAll same new entries, P e.1 ∧ Q e.2 := by
  induction new generalizing entries with
  | nil => exact h
  | cons e new ih =>
    obtain ⟨hkey, hvalue⟩ := hnew e List.mem_cons_self
    exact ih (forall_put h hkey hvalue) fun other ho => hnew other (List.mem_cons_of_mem e ho)

/-- A new key goes to the end. -/
theorem put_of_new {key : κ} {value : α} (h : ∀ e ∈ entries, same e.1 key = false) :
    put same key value entries = entries ++ [(key, value)] := by
  induction entries with
  | nil => rfl
  | cons head rest ih =>
    obtain ⟨other, old⟩ := head
    have hother : same other key = false := h (other, old) List.mem_cons_self
    rw [put, hother, if_neg (by decide), ih fun e he => h e (List.mem_cons_of_mem _ he)]
    rfl

theorem putAll_of_new (hnew : new.Pairwise fun e e' => same e.1 e'.1 = false)
    (h : ∀ e ∈ entries, ∀ e' ∈ new, same e.1 e'.1 = false) :
    putAll same new entries = entries ++ new := by
  induction new generalizing entries with
  | nil => simp [putAll]
  | cons e new ih =>
    obtain ⟨hfirst, hrest⟩ := List.pairwise_cons.mp hnew
    have hput : put same e.1 e.2 entries = entries ++ [e] :=
      put_of_new fun other ho => h other ho e List.mem_cons_self
    change putAll same new (put same e.1 e.2 entries) = _
    rw [hput, ih hrest, List.append_assoc, List.singleton_append]
    intro other ho e' he'
    rcases List.mem_append.mp ho with ho | ho
    · exact h other ho e' (List.mem_cons_of_mem _ he')
    · rw [List.mem_singleton.mp ho]
      exact hfirst e' he'

/-- A write goes by the keys alone. -/
theorem map_put {β : Type} (f : α → β) (key : κ) (value : α) (entries : List (κ × α)) :
    (put same key value entries).map (Prod.map id f) =
      put same key (f value) (entries.map (Prod.map id f)) := by
  induction entries with
  | nil => rfl
  | cons e rest ih =>
    rw [put, List.map_cons, put]
    by_cases h : same e.1 key = true
    · rw [if_pos h, if_pos (show same (Prod.map id f e).1 key = true from h)]
      rfl
    · rw [if_neg h, if_neg (show ¬ same (Prod.map id f e).1 key = true from h), List.map_cons, ih]

theorem map_putAll {β : Type} (f : α → β) (new entries : List (κ × α)) :
    (putAll same new entries).map (Prod.map id f) =
      putAll same (new.map (Prod.map id f)) (entries.map (Prod.map id f)) := by
  induction new generalizing entries with
  | nil => rfl
  | cons e new ih =>
    change (putAll same new (put same e.1 e.2 entries)).map (Prod.map id f) = _
    rw [ih, map_put]
    rfl

section Lookup

variable [BEq κ] [LawfulBEq κ] {key : κ}

/-- A key stands for the value that was written last. -/
theorem lookup_put (key : κ) (value : α) (entries : List (κ × α)) :
    (put (· == ·) key value entries).lookup key = some value := by
  induction entries with
  | nil => simp [put]
  | cons head rest ih =>
    obtain ⟨other, old⟩ := head
    rw [put]
    split
    · next h => rw [List.lookup_cons, eq_of_beq h, beq_self_eq_true]
    · next h =>
      have hkey : (key == other) = false := by
        rw [Bool.eq_false_iff, BEq.comm]
        exact h
      rw [List.lookup_cons, hkey]
      exact ih

theorem lookup_put_of_ne {other : κ} (h : other ≠ key) (value : α) (entries : List (κ × α)) :
    (put (· == ·) key value entries).lookup other = entries.lookup other := by
  induction entries with
  | nil => simp [put, List.lookup_cons, beq_false_of_ne h]
  | cons head rest ih =>
    obtain ⟨first, old⟩ := head
    rw [put]
    split
    · next hfirst =>
      have hother : (other == first) = false := by
        rw [eq_of_beq hfirst]
        exact beq_false_of_ne h
      rw [List.lookup_cons, List.lookup_cons, hother]
    · rw [List.lookup_cons, List.lookup_cons, ih]

/-- Where a key stands only once, its first value is its last. -/
theorem lookup_reverse {entries : List (κ × α)} (h : (entries.map Prod.fst).Nodup) (key : κ) :
    entries.reverse.lookup key = entries.lookup key := by
  induction entries with
  | nil => rfl
  | cons e rest ih =>
    obtain ⟨other, value⟩ := e
    obtain ⟨hother, hrest⟩ := List.nodup_cons.mp h
    rw [List.reverse_cons, List.lookup_append, ih hrest, List.lookup_cons, List.lookup_cons,
      List.lookup_nil]
    cases hkey : key == other with
    | false => simp
    | true =>
      have hnone : rest.lookup key = none := by
        rw [List.lookup_eq_none_iff]
        intro e he
        have hne : other ≠ e.1 := fun heq => hother (List.mem_map.mpr ⟨e, he, heq.symm⟩)
        rw [eq_of_beq hkey]
        exact bne_iff_ne.mpr hne
      simp [hnone]

end Lookup

/-! ## Writes in turn -/

/-- Two lists of writes that leave the same keys in the same order, with the same last value under
each. -/
structure Alike [BEq κ] (writes others : List (κ × α)) : Prop where
  keys : (writes.map Prod.fst).eraseDups = (others.map Prod.fst).eraseDups
  last : ∀ key, writes.reverse.lookup key = others.reverse.lookup key

namespace Alike

variable [BEq κ] {writes others third more further : List (κ × α)}

theorem refl (writes : List (κ × α)) : Alike writes writes := ⟨rfl, fun _ => rfl⟩

theorem trans (h : Alike writes others) (h' : Alike others third) : Alike writes third :=
  ⟨h.keys.trans h'.keys, fun key => (h.last key).trans (h'.last key)⟩

theorem append [LawfulBEq κ] (h : Alike writes others) (h' : Alike more further) :
    Alike (writes ++ more) (others ++ further) where
  keys := by
    simp only [List.map_append]
    rw [← eraseDups_append_left, ← eraseDups_append_right, h.keys, h'.keys,
      eraseDups_append_right, eraseDups_append_left]
  last key := by
    simp only [List.reverse_append, List.lookup_append, h.last, h'.last]

end Alike

section Writes

variable [BEq κ] [LawfulBEq κ] {key : κ} {value : α}

theorem keys_put (key : κ) (value : α) (entries : List (κ × α)) :
    (put (· == ·) key value entries).map Prod.fst =
      entries.map Prod.fst ++ if key ∈ entries.map Prod.fst then [] else [key] := by
  induction entries with
  | nil => simp [put]
  | cons e rest ih =>
    obtain ⟨other, old⟩ := e
    rw [put]
    split
    · next h => simp [eq_of_beq h]
    · next h =>
      have hne : key ≠ other := fun heq => h (beq_iff_eq.mpr heq.symm)
      simp only [List.map_cons, ih, List.cons_append, List.mem_cons, hne, false_or]

theorem nodup_put (h : (entries.map Prod.fst).Nodup) (key : κ) (value : α) :
    ((put (· == ·) key value entries).map Prod.fst).Nodup := by
  rw [keys_put]
  split
  · simpa using h
  · next hkey =>
    refine List.nodup_append.mpr ⟨h, List.nodup_singleton key, fun other hother _ hnew => ?_⟩
    rw [List.mem_singleton.mp hnew]
    rintro rfl
    exact hkey hother

/-- A write into entries comes to one more write. -/
theorem alike_put (h : (entries.map Prod.fst).Nodup) (key : κ) (value : α) :
    Alike (put (· == ·) key value entries) (entries ++ [(key, value)]) where
  keys := by
    rw [eraseDups_of_nodup (nodup_put h key value), keys_put, List.map_append, List.map_singleton,
      eraseDups_concat, eraseDups_of_nodup h]
  last other := by
    rw [lookup_reverse (nodup_put h key value), List.reverse_concat, List.lookup_cons]
    cases hother : other == key with
    | true => rw [eq_of_beq hother, lookup_put]
    | false => rw [lookup_put_of_ne (ne_of_beq_false hother), lookup_reverse h]

theorem nodup_putAll (h : (entries.map Prod.fst).Nodup) (new : List (κ × α)) :
    ((putAll (· == ·) new entries).map Prod.fst).Nodup := by
  induction new generalizing entries with
  | nil => exact h
  | cons e new ih => exact ih (nodup_put h e.1 e.2)

theorem alike_putAll (h : (entries.map Prod.fst).Nodup) (new : List (κ × α)) :
    Alike (putAll (· == ·) new entries) (entries ++ new) := by
  induction new generalizing entries with
  | nil => rw [List.append_nil]; exact .refl entries
  | cons e new ih =>
    have hrest := ih (nodup_put h e.1 e.2)
    have hfirst := (alike_put h e.1 e.2).append (.refl new)
    rw [List.append_assoc, List.singleton_append] at hfirst
    exact hrest.trans hfirst

end Writes

end RequestBook.Entries
