import Mathlib.Tactic.Common
import RequestBook.Files
import RequestBook.Proofs.Entries
import RequestBook.Proofs.Outcomes
import RequestBook.Proofs.Text.Layout

/-!
# Saving a file

The place of a path can be read off its names alone, and the normal form of a path has the same
names. A file is saved at the place of its path, and no other file is touched.
-/

namespace RequestBook

/-! ## The names in a path -/

namespace Text

variable {sep : Char} {cs piece : List Char}

theorem pieces_append (h : sep ∉ piece) (cs : List Char) :
    pieces sep (piece ++ sep :: cs) = piece :: pieces sep cs := by
  induction piece with
  | nil => rw [List.nil_append, pieces, if_pos rfl]
  | cons c piece ih =>
    obtain ⟨hc, hpiece⟩ := not_or.mp (mt List.mem_cons.mpr h)
    rw [List.cons_append, pieces, if_neg (Ne.symm hc), ih hpiece]

theorem pieces_of_not_mem (h : sep ∉ piece) : pieces sep piece = [piece] := by
  induction piece with
  | nil => rfl
  | cons c piece ih =>
    obtain ⟨hc, hpiece⟩ := not_or.mp (mt List.mem_cons.mpr h)
    rw [pieces, if_neg (Ne.symm hc), ih hpiece]

theorem not_mem_of_mem_pieces (h : piece ∈ pieces sep cs) : sep ∉ piece := by
  induction cs generalizing piece with
  | nil => simp_all [pieces]
  | cons c cs ih =>
    rw [pieces] at h
    split at h
    · rcases List.mem_cons.mp h with rfl | h
      · exact List.not_mem_nil
      · exact ih h
    · next hc =>
      split at h
      · rw [List.mem_singleton.mp h, List.mem_singleton]
        exact Ne.symm hc
      · next first rest hpieces =>
        rw [hpieces] at ih
        rcases List.mem_cons.mp h with rfl | h
        · rw [List.mem_cons, not_or]
          exact ⟨Ne.symm hc, ih List.mem_cons_self⟩
        · exact ih (List.mem_cons_of_mem _ h)

/-- Pieces hold nothing that the text does not hold. -/
theorem mem_of_mem_pieces {sep c : Char} {cs piece : List Char} (h : piece ∈ pieces sep cs)
    (hc : c ∈ piece) : c ∈ cs := by
  induction cs generalizing piece with
  | nil => simp_all [pieces]
  | cons d cs ih =>
    rw [pieces] at h
    split at h
    · rcases List.mem_cons.mp h with rfl | h
      · exact absurd hc List.not_mem_nil
      · exact List.mem_cons_of_mem _ (ih h hc)
    split at h
    · rw [List.mem_singleton.mp h, List.mem_singleton] at hc
      rw [hc]
      exact List.mem_cons_self
    next first rest hpieces =>
    rw [hpieces] at ih
    rcases List.mem_cons.mp h with rfl | h
    · rcases List.mem_cons.mp hc with rfl | hc
      · exact List.mem_cons_self
      · exact List.mem_cons_of_mem _ (ih List.mem_cons_self hc)
    · exact List.mem_cons_of_mem _ (ih (List.mem_cons_of_mem _ h) hc)

theorem pieces_separated {names : List String} (hne : names ≠ [])
    (h : ∀ n ∈ names, sep ∉ n.toList) :
    pieces sep (separated (String.ofList [sep]) names).toList = names.map String.toList := by
  match names with
  | [] => exact absurd rfl hne
  | [n] => exact pieces_of_not_mem (h n List.mem_cons_self)
  | n :: next :: rest =>
    have hrest : pieces sep (separated (String.ofList [sep]) (next :: rest)).toList =
        (next :: rest).map String.toList :=
      pieces_separated (by simp) fun m hm => h m (List.mem_cons_of_mem _ hm)
    rw [separated_cons_cons, String.toList_append, String.toList_append, String.toList_ofList,
      List.append_assoc, List.singleton_append, pieces_append (h n List.mem_cons_self), hrest]
    rfl

end Text

variable {path : String}

theorem pathNames_separated {names : List String} (hne : names ≠ [])
    (h : ∀ n ∈ names, '/' ∉ n.toList) : pathNames (Text.separated "/" names) = names := by
  rw [pathNames, show "/" = String.ofList ['/'] from rfl, Text.pieces_separated hne h]
  simp

theorem not_mem_of_mem_pathSteps {name : String} (h : name ∈ pathSteps path) :
    '/' ∉ name.toList := by
  obtain ⟨piece, hpiece, rfl⟩ := List.mem_map.mp (List.mem_filter.mp h).1
  rw [String.toList_ofList]
  exact Text.not_mem_of_mem_pieces hpiece

theorem ne_empty_of_mem_pathSteps {name : String} (h : name ∈ pathSteps path) : name ≠ "" := by
  have hstep : name ≠ "" ∧ name ≠ "." := by simpa using (List.mem_filter.mp h).2
  exact hstep.1

theorem pathSteps_slash (path : String) : pathSteps ("/" ++ path) = pathSteps path := by
  simp [pathSteps, pathNames, Text.pieces]

theorem pathSteps_separated (path : String) :
    pathSteps (Text.separated "/" (pathSteps path)) = pathSteps path := by
  by_cases hne : pathSteps path = []
  · rw [hne]
    rfl
  · rw [pathSteps, pathNames_separated hne fun _ => not_mem_of_mem_pathSteps, pathSteps,
      List.filter_filter]
    simp only [Bool.and_self]

/-! ## The normal form of a path -/

theorem normalPath_cases (path : String) :
    isRooted path = false ∧ (normalPath path = "." ∧ pathSteps path = [] ∨
        normalPath path = Text.separated "/" (pathSteps path) ∧ pathSteps path ≠ []) ∨
      isRooted path = true ∧ (normalPath path = "/" ++ Text.separated "/" (pathSteps path) ∨
        normalPath path = "/" ++ ("/" ++ Text.separated "/" (pathSteps path))) := by
  rw [normalPath]
  by_cases hrooted : isRooted path = true
  · refine .inr ⟨hrooted, ?_⟩
    rw [if_pos hrooted]
    split_ifs
    · rw [show "//" = "/" ++ "/" from rfl, String.append_assoc]
      exact .inr (by split <;> simp_all)
    · exact .inl (by split <;> simp_all)
  · refine .inl ⟨by simpa using hrooted, ?_⟩
    have hdouble : ¬ path.startsWith "//" = true := by
      intro h
      refine hrooted (String.startsWith_string_iff.mpr ?_)
      exact (show "/".toList <+: "//".toList from ⟨['/'], rfl⟩).trans
        (String.startsWith_string_iff.mp h)
    rw [if_neg (fun h => hdouble h.1), if_neg hrooted, String.empty_append]
    by_cases hnone : pathSteps path = []
    · exact .inl ⟨by rw [hnone]; rfl, hnone⟩
    · have hne : Text.separated "/" (pathSteps path) ≠ "" :=
        Text.separated_ne_empty hnone fun _ => ne_empty_of_mem_pathSteps
      exact .inr ⟨by split <;> simp_all, hnone⟩

theorem pathSteps_normalPath (path : String) : pathSteps (normalPath path) = pathSteps path := by
  rcases normalPath_cases path with ⟨-, ⟨h, hnone⟩ | ⟨h, -⟩⟩ | ⟨-, h | h⟩ <;> rw [h]
  · rw [hnone]
    rfl
  · exact pathSteps_separated path
  · rw [pathSteps_slash, pathSteps_separated]
  · rw [pathSteps_slash, pathSteps_slash, pathSteps_separated]

theorem isRooted_slash (path : String) : isRooted ("/" ++ path) = true := by
  rw [isRooted, String.startsWith_string_iff, String.toList_append]
  exact List.prefix_append _ _

theorem not_isRooted_separated (path : String) :
    isRooted (Text.separated "/" (pathSteps path)) = false := by
  cases hsteps : pathSteps path with
  | nil => decide
  | cons first rest =>
    have hfirst : first ∈ pathSteps path := by rw [hsteps]; exact List.mem_cons_self
    have hne : first.toList ≠ [] := by simpa using ne_empty_of_mem_pathSteps hfirst
    obtain ⟨c, cs, hcs⟩ := List.exists_cons_of_ne_nil hne
    have hc : c ≠ '/' := fun h => not_mem_of_mem_pathSteps hfirst (by rw [hcs, h]; simp)
    rw [isRooted, String.startsWith_string_eq_false_iff]
    cases rest with
    | nil => simp [Text.separated, hcs, hc.symm]
    | cons next rest => simp [Text.separated_cons_cons, hcs, hc.symm]

theorem isRooted_normalPath (path : String) : isRooted (normalPath path) = isRooted path := by
  rcases normalPath_cases path with ⟨hrooted, ⟨h, -⟩ | ⟨h, -⟩⟩ | ⟨hrooted, h | h⟩ <;> rw [h, hrooted]
  · decide +kernel
  · exact not_isRooted_separated path
  · exact isRooted_slash _
  · exact isRooted_slash _

/-! ## Places -/

namespace Place

/-- The place that a name leads to. -/
def step (p : Place) (name : String) : Place := if name = ".." then p.parent else p ++ [name]

/-- The place that a path is written for, whatever is there. -/
def ofPath (path : String) : Place := (pathSteps path).foldl step (pathStart path)

theorem ofPath_normalPath (path : String) : ofPath (normalPath path) = ofPath path := by
  rw [ofPath, ofPath, pathSteps_normalPath, pathStart, pathStart, isRooted_normalPath]

end Place

namespace Files

variable {fs : Files} {start p : Place} {names : List String}

theorem eq_of_reach (h : fs.reach start names = .ok p) : p = names.foldl Place.step start := by
  fun_induction reach fs start names with
  | case1 start =>
    cases h
    rfl
  | case2 start rest ih =>
    rw [ih h]
    rfl
  | case3 start name rest hname hlong => cases h
  | case4 start name rest hname hshort bytes hfile => cases h
  | case5 start name rest hname hshort hfile ih =>
    rw [ih h, List.foldl_cons, Place.step, if_neg hname]

theorem eq_of_destination (h : fs.destination path = .ok p) : p = Place.ofPath path := by
  rw [destination] at h
  obtain ⟨-, -, hrest⟩ := bind_eq_ok.mp h
  obtain ⟨directory, hdirectory, hrest⟩ := bind_eq_ok.mp hrest
  obtain ⟨-, -, hlast⟩ := bind_eq_ok.mp hrest
  have hreach := eq_of_reach hdirectory
  extract_lets place checked at hlast
  have hplace : place = Place.ofPath path := by
    rw [Place.ofPath]
    cases hsteps : (pathSteps path).getLast? with
    | none =>
      rw [List.getLast?_eq_none_iff.mp hsteps] at hreach ⊢
      simp only [place, hsteps]
      exact hreach
    | some last =>
      obtain ⟨before, hbefore⟩ := List.getLast?_eq_some_iff.mp hsteps
      rw [hbefore, List.dropLast_concat] at hreach
      rw [hbefore, List.foldl_concat, ← hreach, Place.step]
      by_cases hname : last = ".."
      · simp only [place, hsteps, hname, if_pos]
      · simp only [place, hsteps, if_neg hname]
  rw [← hplace]
  clear_value place
  clear h hrest
  split_ifs at hlast
  · cases hlast
  · dsimp only [checked] at hlast
    split at hlast <;> cases hlast
    rfl

/-! ## The content of files -/

/-- The bytes of the file at a place. -/
def content? (fs : Files) (p : Place) : Option (List UInt8) :=
  match fs.find? p with
  | some (.file bytes) => some bytes
  | _ => none

/-- The files once a text is saved at a place. -/
def save (fs : Files) (p : Place) (text : String) : Files :=
  ⟨Entries.put (· == ·) p (.file text.toByteArray.data.toList) fs.entries⟩

theorem content?_save (fs : Files) (p : Place) (text : String) :
    (fs.save p text).content? p = some text.toByteArray.data.toList := by
  rw [content?, find?, save, Entries.lookup_put]

theorem content?_save_of_ne {other : Place} (h : other ≠ p) (text : String) :
    (fs.save p text).content? other = fs.content? other := by
  rw [content?, content?, find?, find?, save, Entries.lookup_put_of_ne h]
  dsimp only
  cases fs.entries.lookup other with
  | some e => rfl
  | none =>
    dsimp only
    split_ifs <;> rfl

end Files

end RequestBook
