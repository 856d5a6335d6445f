import RequestBook.Proofs.Files
import RequestBook.Proofs.Request.Endpoint

/-!
# URLs put together again

An endpoint holds its URL in parts from which the URL can be put together again, and no other
parts make the same URL. The file that a collection is saved in by default has one name, so it
stands in the working directory.
-/

namespace RequestBook

namespace Text

theorem cutAt_of_prefix (sep : List Char) (h : sep ≠ []) (rest : List Char) :
    cutAt sep (sep ++ rest) = some ([], rest) := by
  obtain ⟨c, sep, rfl⟩ := List.exists_cons_of_ne_nil h
  rw [List.cons_append, cutAt, if_pos (by simp)]
  simp

/-- Occurrences of `://` cannot overlap, so one behind a text that holds none is the first. -/
theorem cutAt_append {before : List Char} (h : ¬ "://".toList <:+: before) (rest : List Char) :
    cutAt [':', '/', '/'] (before ++ "://".toList ++ rest) = some (before, rest) := by
  induction before with
  | nil => exact cutAt_of_prefix [':', '/', '/'] (by simp) rest
  | cons c before ih =>
    rw [List.infix_cons_iff, not_or] at h
    have hfirst : ¬ [':', '/', '/'].isPrefixOf (c :: (before ++ "://".toList ++ rest)) = true := by
      intro hprefix
      refine h.1 ?_
      match before with
      | [] => simp at hprefix
      | [d] => simp at hprefix
      | d :: e :: more => simpa using hprefix
    rw [List.cons_append, List.cons_append, cutAt, if_neg hfirst, ih h.2]
    rfl

end Text

/-- Parts of a URL that make it, each without the separator that ends it. -/
structure IsSplit (protocol : String) (host path : List String) (url : String) : Prop where
  whole : protocol ++ "://" ++ Text.separated "." host ++ String.join (path.map ("/" ++ ·)) = url
  protocol : ¬ IsAbsolute protocol
  host_ne : host ≠ []
  host : ∀ part ∈ host, '.' ∉ part.toList ∧ '/' ∉ part.toList
  path : ∀ part ∈ path, '/' ∉ part.toList

namespace Endpoint

variable {url protocol : String} {host path : List String} {e : Endpoint}

theorem isSplit_of_ofUrl (h : ofUrl url = .ok e) : IsSplit e.protocol e.host e.path url := by
  rw [ofUrl] at h
  split at h
  · cases h
  next before rest hcut =>
  cases h
  obtain ⟨hurl, hfirst⟩ := Text.cutAt_eq_some hcut
  obtain ⟨authority, more, hpieces⟩ := List.exists_cons_of_ne_nil (Text.pieces_ne_nil '/' rest)
  have hslash : ∀ piece ∈ authority :: more, '/' ∉ piece := by
    intro piece hpiece
    rw [← hpieces] at hpiece
    exact Text.not_mem_of_mem_pieces hpiece
  have hauthority : Text.separated "." ((Text.pieces '.' authority).map String.ofList) =
      String.ofList authority := Text.separated_pieces '.' authority
  have hrest : String.ofList authority ++ String.join ((more.map String.ofList).map ("/" ++ ·)) =
      String.ofList rest := by
    rw [← Text.separated_pieces '/' rest, hpieces, List.map_cons, Text.separated_cons]
  dsimp only
  rw [hpieces, List.headD_cons, List.drop_one, List.tail_cons]
  refine ⟨?_, ?_, by simp [Text.pieces_ne_nil], ?_, ?_⟩
  · rw [String.append_assoc, hauthority, hrest, ← String.toList_inj, hurl]
    simp
  · rintro ⟨start, behind, hbefore⟩
    replace hbefore : start ++ [':', '/', '/'] ++ behind = before :=
      hbefore.trans String.toList_ofList
    rw [← hbefore] at hurl hfirst
    have hlength := hfirst start ⟨behind ++ ([':', '/', '/'] ++ rest), by simp [hurl]⟩
    rw [List.append_assoc, List.length_append, List.length_append] at hlength
    simp only [List.length_cons, List.length_nil] at hlength
    omega
  · rintro part hpart
    obtain ⟨piece, hpiece, rfl⟩ := List.mem_map.mp hpart
    rw [String.toList_ofList]
    refine ⟨Text.not_mem_of_mem_pieces hpiece, fun hmem => ?_⟩
    exact hslash authority List.mem_cons_self (Text.mem_of_mem_pieces hpiece hmem)
  · rintro part hpart
    obtain ⟨piece, hpiece, rfl⟩ := List.mem_map.mp hpart
    rw [String.toList_ofList]
    exact hslash piece (List.mem_cons_of_mem _ hpiece)

theorem ofUrl_of_isSplit (h : IsSplit protocol host path url) :
    ofUrl url = .ok ⟨url, protocol, host, path⟩ := by
  have hauthority : '/' ∉ (Text.separated "." host).toList := by
    intro hmem
    rcases Text.mem_of_mem_separated hmem with hpoint | ⟨part, hpart, hslash⟩
    · simp at hpoint
    · exact (h.host part hpart).2 hslash
  have hrest : Text.separated "." host ++ String.join (path.map ("/" ++ ·)) =
      Text.separated "/" (Text.separated "." host :: path) := (Text.separated_cons ..).symm
  have hslash : ∀ part ∈ Text.separated "." host :: path, '/' ∉ part.toList :=
    List.forall_mem_cons.mpr ⟨hauthority, h.path⟩
  have hcut : Text.cutAt [':', '/', '/'] url.toList = some (protocol.toList,
      (Text.separated "/" (Text.separated "." host :: path)).toList) := by
    rw [← h.whole, String.append_assoc, hrest, String.toList_append, String.toList_append]
    exact Text.cutAt_append h.protocol _
  have hpieces : Text.pieces '/' (Text.separated "/" (Text.separated "." host :: path)).toList =
      (Text.separated "." host).toList :: path.map String.toList :=
    Text.pieces_separated (by simp) hslash
  have hparts : Text.pieces '.' (Text.separated "." host).toList = host.map String.toList :=
    Text.pieces_separated h.host_ne fun part hpart => (h.host part hpart).1
  rw [ofUrl, hcut]
  dsimp only
  rw [hpieces, List.headD_cons, List.drop_one, List.tail_cons, hparts]
  simp

/-- An endpoint is the one way to take its URL apart. -/
theorem ofUrl_eq_ok :
    ofUrl url = .ok e ↔ e.raw = url ∧ IsSplit e.protocol e.host e.path url := by
  constructor
  · intro h
    refine ⟨?_, isSplit_of_ofUrl h⟩
    rw [ofUrl] at h
    split at h <;> cases h
    rfl
  · rintro ⟨rfl, h⟩
    exact ofUrl_of_isSplit h

end Endpoint

end RequestBook
