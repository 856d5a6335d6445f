import Mathlib.Data.List.Infix
import Mathlib.Data.List.TakeWhile
import RequestBook.Proofs.Text.Layout
import RequestBook.Request.Endpoint

/-!
# Absolute URLs

An endpoint is made of every URL with a scheme and of no other. Its authority stands in the URL
between the first `://` and the next slash, whatever else the URL holds.
-/

namespace RequestBook

namespace Text

variable {sep : List Char} {c : Char}

theorem cutAt_eq_none {cs : List Char} : cutAt sep cs = none ↔ ¬ sep <:+: cs := by
  induction cs with
  | nil => simp [cutAt]
  | cons c cs ih =>
    rw [cutAt, List.infix_cons_iff, not_or]
    split
    · next h => simp [List.isPrefixOf_iff_prefix.mp h]
    · next h =>
      rw [Option.map_eq_none_iff, ih, List.isPrefixOf_iff_prefix] at *
      exact ⟨fun hcs => ⟨h, hcs⟩, And.right⟩

/-- A text is cut at the first occurrence of the separator. -/
theorem cutAt_eq_some {cs before after : List Char} (h : cutAt sep cs = some (before, after)) :
    cs = before ++ sep ++ after ∧ ∀ start, start ++ sep <+: cs → before.length ≤ start.length := by
  induction cs generalizing before after with
  | nil =>
    rw [cutAt] at h
    split at h
    · next hsep =>
      cases h
      rw [List.isEmpty_iff.mp hsep]
      exact ⟨rfl, fun start _ => Nat.zero_le _⟩
    · cases h
  | cons c cs ih =>
    rw [cutAt] at h
    split at h
    · next hsep =>
      cases h
      exact ⟨(List.prefix_iff_eq_append.mp (List.isPrefixOf_iff_prefix.mp hsep)).symm,
        fun start _ => Nat.zero_le _⟩
    · next hsep =>
      obtain ⟨⟨before', after'⟩, hcut, hpair⟩ := Option.map_eq_some_iff.mp h
      cases hpair
      obtain ⟨rfl, hfirst⟩ := ih hcut
      refine ⟨rfl, fun start hstart => ?_⟩
      cases start with
      | nil => exact absurd (List.isPrefixOf_iff_prefix.mpr hstart) hsep
      | cons d start =>
        rw [List.cons_append, List.cons_prefix_cons] at hstart
        exact Nat.succ_le_succ (hfirst start hstart.2)

theorem pieces_ne_nil (sep : Char) (cs : List Char) : pieces sep cs ≠ [] := by
  cases cs with
  | nil => simp [pieces]
  | cons c cs =>
    rw [pieces]
    split
    · simp
    · split <;> simp

theorem headD_pieces (sep : Char) (cs : List Char) :
    (pieces sep cs).headD [] = cs.takeWhile (· ≠ sep) := by
  induction cs with
  | nil => rfl
  | cons c cs ih =>
    rw [pieces]
    split
    · next h => simp [h]
    · next h =>
      obtain ⟨piece, rest, hpieces⟩ := List.exists_cons_of_ne_nil (pieces_ne_nil sep cs)
      rw [hpieces] at ih ⊢
      simpa [h] using ih

/-- The pieces with the separator between them are the text again. -/
theorem separated_pieces (sep : Char) (cs : List Char) :
    separated (String.ofList [sep]) ((pieces sep cs).map String.ofList) = String.ofList cs := by
  induction cs with
  | nil => rfl
  | cons c cs ih =>
    obtain ⟨piece, rest, hpieces⟩ := List.exists_cons_of_ne_nil (pieces_ne_nil sep cs)
    rw [pieces]
    rw [hpieces, List.map_cons] at ih
    rw [hpieces]
    split
    · next h =>
      rw [List.map_cons, List.map_cons, separated_cons_cons, ih, h, ← String.toList_inj]
      simp
    · next h =>
      rw [List.map_cons, ← String.toList_inj]
      cases rest with
      | nil =>
        rw [← String.toList_inj] at ih
        simpa [separated] using ih
      | cons next rest =>
        rw [List.map_cons, separated_cons_cons, ← String.toList_inj] at ih
        rw [List.map_cons, separated_cons_cons]
        simpa using ih

end Text

/-- A URL that says how and where to. -/
def IsAbsolute (url : String) : Prop := "://".toList <:+: url.toList

instance (url : String) : Decidable (IsAbsolute url) :=
  inferInstanceAs (Decidable ("://".toList <:+: url.toList))

/-- The part of a URL between its first `://` and the next slash or the end. -/
def IsAuthority (authority url : String) : Prop :=
  ∃ scheme rest, url.toList = scheme ++ "://".toList ++ (authority.toList ++ rest) ∧
    (∀ start, start ++ "://".toList <+: url.toList → scheme.length ≤ start.length) ∧
    '/' ∉ authority.toList ∧ (rest = [] ∨ rest.head? = some '/')

/-- What stands in front of a slash, or of nothing, is read off again up to the first slash. -/
theorem takeWhile_authority {authority rest : List Char} (h : '/' ∉ authority)
    (hrest : rest = [] ∨ rest.head? = some '/') :
    (authority ++ rest).takeWhile (· ≠ '/') = authority := by
  have hall : ∀ c ∈ authority, (decide (c ≠ '/')) = true := by
    intro c hc
    have hne : c ≠ '/' := by
      rintro rfl
      exact h hc
    simpa using hne
  rw [List.takeWhile_append_of_pos hall]
  rcases hrest with rfl | hrest
  · simp
  · obtain ⟨more, rfl⟩ := List.head?_eq_some_iff.mp hrest
    simp

/-- A URL has one authority. -/
theorem IsAuthority.unique {a b url : String} (ha : IsAuthority a url) (hb : IsAuthority b url) :
    a = b := by
  obtain ⟨scheme, rest, hurl, hfirst, hslash, hrest⟩ := ha
  obtain ⟨scheme', rest', hurl', hfirst', hslash', hrest'⟩ := hb
  have hlength : scheme.length = scheme'.length :=
    Nat.le_antisymm (hfirst scheme' ⟨_, hurl'.symm⟩) (hfirst' scheme ⟨_, hurl.symm⟩)
  have hbehind : a.toList ++ rest = b.toList ++ rest' := by
    rw [hurl, List.append_assoc, List.append_assoc] at hurl'
    exact List.append_cancel_left (List.append_inj hurl' hlength).2
  rw [← String.toList_inj, ← takeWhile_authority hslash hrest, hbehind,
    takeWhile_authority hslash' hrest']

namespace Endpoint

theorem ofUrl_relative {url : String} (h : ¬ IsAbsolute url) :
    ofUrl url = .error (.relativeUrl url) := by
  have hcut : Text.cutAt [':', '/', '/'] url.toList = none := Text.cutAt_eq_none.mpr h
  rw [ofUrl, hcut]

theorem exists_ofUrl {url : String} (h : IsAbsolute url) : ∃ e, ofUrl url = .ok e := by
  have hcut : Text.cutAt [':', '/', '/'] url.toList ≠ none := fun hnone =>
    Text.cutAt_eq_none.mp hnone h
  obtain ⟨⟨protocol, rest⟩, hcut⟩ := Option.ne_none_iff_exists'.mp hcut
  exact ⟨_, by rw [ofUrl, hcut]⟩

theorem isAuthority_of_ofUrl {url : String} {e : Endpoint} (h : ofUrl url = .ok e) :
    IsAuthority e.authority url := by
  rw [ofUrl] at h
  split at h
  · cases h
  · next scheme rest hcut =>
    cases h
    obtain ⟨hurl, hfirst⟩ := Text.cutAt_eq_some hcut
    have htaken : (Text.separated "." ((Text.pieces '.' ((Text.pieces '/' rest).headD [])).map
        String.ofList)).toList = rest.takeWhile (· ≠ '/') := by
      rw [Text.headD_pieces, show "." = String.ofList ['.'] from rfl, Text.separated_pieces,
        String.toList_ofList]
    have hrest := List.takeWhile_append_dropWhile (p := (· ≠ '/')) (l := rest)
    refine ⟨scheme, rest.dropWhile (· ≠ '/'), ?_, hfirst, ?_, ?_⟩
    · rw [authority, htaken, hrest]
      exact hurl
    · rw [authority, htaken]
      intro hmem
      simpa using List.mem_takeWhile_imp hmem
    · cases hend : rest.dropWhile (· ≠ '/') with
      | nil => exact Or.inl rfl
      | cons c cs =>
        have hc := List.head?_dropWhile_not (· ≠ '/') rest
        rw [hend] at hc
        exact Or.inr (by simpa using hc)

end Endpoint

end RequestBook
