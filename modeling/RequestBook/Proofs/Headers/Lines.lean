import RequestBook.Proofs.Headers
import RequestBook.Proofs.Outcomes
import RequestBook.Proofs.Text.Blank

/-!
# Headers that are given in lines

A line sets a header if something other than white space stands in front of its first colon, and
the first line for which this is not so is refused. Where no line is refused, the lines leave the
headers behind that they set. Written as lines again, these headers are read as what they are.
-/

namespace RequestBook

namespace Text

variable {c : Char} {cs before after : List Char}

theorem cutAt_char_append (h : c ∉ before) (after : List Char) :
    cutAt [c] (before ++ c :: after) = some (before, after) := by
  induction before with
  | nil => simp [cutAt]
  | cons d before ih =>
    obtain ⟨hd, hbefore⟩ := not_or.mp (mt List.mem_cons.mpr h)
    have hfirst : ¬ [c].isPrefixOf (d :: (before ++ c :: after)) = true := by simpa using hd
    rw [List.cons_append, cutAt, if_neg hfirst, ih hbefore]
    rfl

theorem cutAt_char_of_not_mem (h : c ∉ cs) : cutAt [c] cs = none := by
  induction cs with
  | nil => rfl
  | cons d cs ih =>
    obtain ⟨hd, hcs⟩ := not_or.mp (mt List.mem_cons.mpr h)
    have hfirst : ¬ [c].isPrefixOf (d :: cs) = true := by simpa using hd
    rw [cutAt, if_neg hfirst, ih hcs]
    rfl

end Text

namespace Headers

open Text

variable {line : String} {header : String × String} {before after : List Char} {failure : Failure}

/-- A line with nothing but white space in front of its first colon, or without a colon. -/
def IsNameless (line : String) : Prop :=
  ':' ∉ line.toList ∨ ∃ before after, line.toList = before ++ ':' :: after ∧ ':' ∉ before ∧
    ∀ c ∈ before, isSpace c = true

/-- A line sets a header: in front of its first colon stands the name, behind it the value, and
white space around both does not count. -/
structure SetBy (line : String) (header : String × String) : Prop where
  named : header.1 ≠ ""
  parts : ∃ before after, line.toList = before ++ ':' :: after ∧ ':' ∉ before ∧
    IsCore isSpace before header.1.toList ∧ IsCore isSpace after header.2.toList

/-- A header as a line. -/
def lineOf (header : String × String) : String := header.1 ++ ": " ++ header.2

/-! ## One line -/

theorem ofLine_of_colon (hline : line.toList = before ++ ':' :: after) (hfirst : ':' ∉ before) :
    ofLine line = if strip before = [] then .error (.badHeaderLine line)
      else .ok (String.ofList (strip before), String.ofList (strip after)) := by
  rw [ofLine, hline, cutAt_char_append hfirst]
  simp only [List.isEmpty_iff]

theorem ofLine_of_not_mem (h : ':' ∉ line.toList) : ofLine line = .error (.badHeaderLine line) := by
  rw [ofLine, cutAt_char_of_not_mem h]

theorem isNameless_iff (hline : line.toList = before ++ ':' :: after) (hfirst : ':' ∉ before) :
    IsNameless line ↔ strip before = [] := by
  rw [strip, trim_eq_nil_iff]
  constructor
  · rintro (hnone | ⟨before', after', hline', hfirst', hblank⟩)
    · exact absurd (by rw [hline]; simp) hnone
    · have hcut : some (before, after) = some (before', after') := by
        rw [← cutAt_char_append hfirst, ← hline, hline', cutAt_char_append hfirst']
      cases hcut
      exact hblank
  · exact fun hblank => .inr ⟨before, after, hline, hfirst, hblank⟩

theorem ofLine_eq_error :
    ofLine line = .error failure ↔ IsNameless line ∧ failure = .badHeaderLine line := by
  by_cases hcolon : ':' ∈ line.toList
  · obtain ⟨before, after, hline, hfirst⟩ := List.eq_append_cons_of_mem hcolon
    rw [ofLine_of_colon hline hfirst, isNameless_iff hline hfirst]
    by_cases hblank : strip before = []
    · simp [hblank, eq_comm]
    · simp [hblank]
  · have hnameless : IsNameless line := .inl hcolon
    rw [ofLine_of_not_mem hcolon]
    simp [hnameless, eq_comm]

theorem ofLine_eq_ok : ofLine line = .ok header ↔ SetBy line header := by
  constructor
  · intro h
    by_cases hcolon : ':' ∈ line.toList
    · obtain ⟨before, after, hline, hfirst⟩ := List.eq_append_cons_of_mem hcolon
      rw [ofLine_of_colon hline hfirst] at h
      by_cases hblank : strip before = []
      · rw [if_pos hblank] at h
        cases h
      · rw [if_neg hblank] at h
        cases h
        refine ⟨by simpa using hblank, before, after, hline, hfirst, ?_, ?_⟩
        · rw [String.toList_ofList]
          exact isCore_trim isSpace before
        · rw [String.toList_ofList]
          exact isCore_trim isSpace after
    · rw [ofLine_of_not_mem hcolon] at h
      cases h
  · rintro ⟨hnamed, before, after, hline, hfirst, hname, hvalue⟩
    have hcore : strip before = header.1.toList := hname.eq_trim.symm
    have hcore' : strip after = header.2.toList := hvalue.eq_trim.symm
    rw [ofLine_of_colon hline hfirst, hcore, hcore', String.ofList_toList, String.ofList_toList,
      if_neg (by simpa using hnamed)]

/-- A header that a line sets is what its own line sets. -/
theorem SetBy.lineOf (h : SetBy line header) : SetBy (lineOf header) header := by
  obtain ⟨hnamed, before, after, -, hfirst, hname, hvalue⟩ := h
  obtain ⟨left, right, rfl, -, -⟩ := hname.around
  refine ⟨hnamed, header.1.toList, ' ' :: header.2.toList, by simp [Headers.lineOf], ?_, hname.self,
    hvalue.self.cons (by decide)⟩
  intro hcolon
  exact hfirst (by simp [hcolon])

/-! ## All lines -/

variable {lines : List String} {headers : Headers}

theorem ofLines_eq_ok : ofLines lines = .ok headers ↔
    ∃ settings, List.Forall₂ SetBy lines settings ∧ headers.LeftBy settings := by
  have hsets (settings : Headers) : lines.mapM ofLine = .ok settings ↔
      List.Forall₂ SetBy lines settings := by
    rw [mapM_eq_ok]
    simp only [ofLine_eq_ok]
  rw [ofLines, bind_eq_ok]
  constructor
  · rintro ⟨settings, hmapM, hmerge⟩
    cases hmerge
    exact ⟨settings, (hsets settings).mp hmapM, leftBy_iff.mpr rfl⟩
  · rintro ⟨settings, hall, hleft⟩
    exact ⟨settings, (hsets settings).mpr hall, by rw [leftBy_iff.mp hleft]; rfl⟩

theorem ofLines_eq_error : ofLines lines = .error failure ↔
    ∃ before line after, lines = before ++ line :: after ∧
      (∀ earlier ∈ before, ¬ IsNameless earlier) ∧ IsNameless line ∧
      failure = .badHeaderLine line := by
  have hnamed (line : String) : (∃ header, ofLine line = .ok header) ↔ ¬ IsNameless line := by
    cases h : ofLine line with
    | error failure => simp [(ofLine_eq_error.mp h).1]
    | ok header =>
      have hnot : ¬ IsNameless line := by
        intro hnameless
        rw [ofLine_eq_error.mpr ⟨hnameless, rfl⟩] at h
        cases h
      simp [hnot]
  rw [ofLines, bind_eq_error_iff (fun _ h => by cases h), mapM_eq_error]
  simp only [hnamed, ofLine_eq_error]

/-- Headers that lines leave behind are left behind by their own lines. -/
theorem ofLines_map_lineOf (h : ofLines lines = .ok headers) :
    ofLines (headers.map lineOf) = .ok headers := by
  obtain ⟨settings, hall, hleft⟩ := ofLines_eq_ok.mp h
  have hnodup : (headers.map Prod.fst).Nodup := hleft.nodup
  refine ofLines_eq_ok.mpr ⟨headers, ?_, leftBy_of_alike (.refl headers) hnodup⟩
  rw [List.forall₂_map_left_iff, List.forall₂_same]
  intro header hheader
  obtain ⟨before, setting, after, rfl, hname, hvalue, -⟩ := hleft.last header hheader
  obtain ⟨line, -, hline⟩ := exists_of_mem_left hall.flip (x := setting) (by simp)
  obtain rfl : setting = header := Prod.ext hname hvalue
  exact hline.lineOf

/-- Lines are refused if one of them is nameless, for the first one that is. Otherwise they leave
behind what they set one after the other, and these headers are read again from their own lines. -/
theorem ofLines_outcome (lines : List String) :
    ((∃ failure, ofLines lines = .error failure) ↔ ∃ line ∈ lines, IsNameless line) ∧
    (∀ failure, ofLines lines = .error failure ↔
      ∃ before line after, lines = before ++ line :: after ∧
        (∀ earlier ∈ before, ¬ IsNameless earlier) ∧ IsNameless line ∧
        failure = .badHeaderLine line) ∧
    (∀ headers, ofLines lines = .ok headers ↔
      ∃ settings, List.Forall₂ SetBy lines settings ∧ headers.LeftBy settings) ∧
    ∀ headers, ofLines lines = .ok headers → ofLines (headers.map lineOf) = .ok headers := by
  refine ⟨?_, fun failure => ofLines_eq_error, fun headers => ofLines_eq_ok,
    fun headers => ofLines_map_lineOf⟩
  constructor
  · rintro ⟨failure, h⟩
    obtain ⟨before, line, after, rfl, -, hnameless, -⟩ := ofLines_eq_error.mp h
    exact ⟨line, by simp, hnameless⟩
  · rintro ⟨line, hmem, hnameless⟩
    cases h : ofLines lines with
    | error failure => exact ⟨failure, rfl⟩
    | ok headers =>
      obtain ⟨settings, hall, -⟩ := ofLines_eq_ok.mp h
      obtain ⟨header, -, hset⟩ := exists_of_mem_left hall hmem
      have hok := ofLine_eq_ok.mpr hset
      rw [ofLine_eq_error.mpr ⟨hnameless, rfl⟩] at hok
      cases hok

example : ofLines ["Accept : text/plain", "x-trace:a:b", "\u2003Accept:"] =
    .ok [("Accept", ""), ("x-trace", "a:b")] := by cbv

end Headers

end RequestBook
