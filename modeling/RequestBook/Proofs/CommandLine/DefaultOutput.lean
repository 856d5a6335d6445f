import RequestBook.Proofs.CommandLine.Saving
import RequestBook.Proofs.Request.UrlParts

/-!
# Where a collection goes by default

A run that is not told where to save its collection saves it in the working directory, under a
name that starts with the authority of its URL. No URL leads it anywhere else.
-/

namespace RequestBook

/-- A path that is the name of an entry of the working directory. -/
structure IsPlainName (path : String) : Prop where
  slash : '/' ∉ path.toList
  ne_empty : path ≠ ""
  ne_same : path ≠ "."
  ne_parent : path ≠ ".."

namespace IsPlainName

variable {path : String}

theorem pathSteps_eq (h : IsPlainName path) : pathSteps path = [path] := by
  rw [pathSteps, pathNames, Text.pieces_of_not_mem h.slash]
  simp [h.ne_empty, h.ne_same]

theorem isRooted_eq (h : IsPlainName path) : isRooted path = false := by
  have hsteps := not_isRooted_separated path
  rwa [h.pathSteps_eq] at hsteps

theorem ofPath_eq (h : IsPlainName path) : Place.ofPath path = [path] := by
  rw [Place.ofPath, h.pathSteps_eq, pathStart, h.isRooted_eq, List.foldl_cons, Place.step,
    if_neg h.ne_parent]
  rfl

end IsPlainName

theorem IsAuthority.isPlainName {authority url : String} (h : IsAuthority authority url) :
    IsPlainName (authority ++ ".postman_collection.json") := by
  obtain ⟨-, -, -, -, hslash, -⟩ := h
  have hlong : ∀ short : String, short.length < 24 →
      authority ++ ".postman_collection.json" ≠ short := by
    rintro short hshort rfl
    rw [String.length_append] at hshort
    have hend : ".postman_collection.json".length = 24 := by decide
    omega
  refine ⟨?_, hlong _ (by decide), hlong _ (by decide), hlong _ (by decide)⟩
  rw [String.toList_append, List.mem_append]
  exact not_or.mpr ⟨hslash, by decide⟩

namespace CommandLine

variable {args : List String} {w : World} {s : Settings} {place : Place} {text : String}

/-- A file is saved where the settings say or, if they do not say, under the standard name. -/
theorem exists_outputPath_of_saved
    (hargs : Invocation.ofArguments w.environment w.files args = .ok (.generate s))
    (hsaved : (run args w).saved = some (place, text)) :
    ∃ path, s.OutputPath path ∧ place = Place.ofPath path := by
  rw [run_of_ofArguments hargs, Outcome.saved_printed, Invocation.run] at hsaved
  rcases s.fails_or_makes w with hfails | ⟨e, c, goal, he, hc, hgoal⟩
  · rw [hfails.saved] at hsaved
    cases hsaved
  · rw [(Settings.done_of_makes he hc hgoal).saved] at hsaved
    cases hsaved
    obtain ⟨path, hpath, hnormal⟩ := Settings.outputPath_of_ofUrl he
    refine ⟨path, hpath, ?_⟩
    rw [Files.eq_of_destination hgoal, hnormal, Place.ofPath_normalPath]

theorem place_of_saved {authority : String} (hauthority : IsAuthority authority s.url)
    (houtput : s.output = none ∨ s.output = some "")
    (hargs : Invocation.ofArguments w.environment w.files args = .ok (.generate s))
    (hsaved : (run args w).saved = some (place, text)) :
    place = [authority ++ ".postman_collection.json"] := by
  obtain ⟨path, hpath, rfl⟩ := exists_outputPath_of_saved hargs hsaved
  rw [hpath.unique (.standard houtput hauthority), hauthority.isPlainName.ofPath_eq]

theorem content?_filesAfter {authority : String} (hauthority : IsAuthority authority s.url)
    (houtput : s.output = none ∨ s.output = some "")
    (hargs : Invocation.ofArguments w.environment w.files args = .ok (.generate s))
    (hplace : place ≠ [authority ++ ".postman_collection.json"]) :
    ((run args w).filesAfter w.files).content? place = w.files.content? place := by
  rw [Outcome.filesAfter]
  split
  · next goal text hsaved =>
    rw [← place_of_saved hauthority houtput hargs hsaved] at hplace
    exact Files.content?_save_of_ne hplace text
  · rfl

/-- A URL is taken apart in one way that can be undone, or it is refused for having no scheme. What
a collection is called and where it goes by default is read off its authority, and a run that is
not told otherwise changes no file but one with that name in the working directory. -/
theorem endpoint_of_url (url : String) :
    ((∃ f, Endpoint.ofUrl url = .error f) ↔ ¬ IsAbsolute url) ∧
    (¬ IsAbsolute url → Endpoint.ofUrl url = .error (.relativeUrl url)) ∧
    (IsAbsolute url → ∃ e, Endpoint.ofUrl url = .ok e ∧ e.raw = url ∧
      IsSplit e.protocol e.host e.path url ∧
      (∀ protocol host path, IsSplit protocol host path url →
        protocol = e.protocol ∧ host = e.host ∧ path = e.path) ∧
      ∃ authority, IsAuthority authority url ∧
        e.collectionName = authority ++ "-autoGQL" ∧
        e.defaultOutput = authority ++ ".postman_collection.json" ∧
        IsPlainName e.defaultOutput ∧ isRooted e.defaultOutput = false ∧
        ∀ args w s, s.url = url → (s.output = none ∨ s.output = some "") →
          Invocation.ofArguments w.environment w.files args = .ok (.generate s) →
          (∀ place text, (run args w).saved = some (place, text) → place = [e.defaultOutput]) ∧
          ∀ place, place ≠ [e.defaultOutput] →
            ((run args w).filesAfter w.files).content? place = w.files.content? place) := by
  refine ⟨⟨?_, fun h => ⟨_, Endpoint.ofUrl_relative h⟩⟩, Endpoint.ofUrl_relative, fun h => ?_⟩
  · rintro ⟨f, hf⟩ habsolute
    obtain ⟨e, he⟩ := Endpoint.exists_ofUrl habsolute
    rw [he] at hf
    cases hf
  obtain ⟨e, he⟩ := Endpoint.exists_ofUrl h
  obtain ⟨hraw, hsplit⟩ := Endpoint.ofUrl_eq_ok.mp he
  have hauthority := Endpoint.isAuthority_of_ofUrl he
  have hplain : IsPlainName e.defaultOutput := hauthority.isPlainName
  refine ⟨e, he, hraw, hsplit, fun protocol host path hother => ?_, e.authority, hauthority, rfl,
    rfl, hplain, hplain.isRooted_eq, ?_⟩
  · have hsame := he.symm.trans (Endpoint.ofUrl_of_isSplit hother)
    cases hsame
    exact ⟨rfl, rfl, rfl⟩
  · rintro args w s rfl houtput hargs
    exact ⟨fun place text hsaved => place_of_saved hauthority houtput hargs hsaved,
      fun place hplace => content?_filesAfter hauthority houtput hargs hplace⟩

def unplacedArguments : List String := ["generate", "-u", "http://h/g", "-s", "s.json"]

def unplacedSettings : Settings := { countSettings with output := none }

set_option maxRecDepth 20000 in
theorem ofArguments_unplacedArguments :
    Invocation.ofArguments countWorld.environment countWorld.files unplacedArguments =
      .ok (.generate unplacedSettings) := by
  with_unfolding_all rfl

theorem saved_unplaced :
    ∃ place text, (run unplacedArguments countWorld).saved = some (place, text) := by
  obtain ⟨c, hc⟩ := makes_countSettings
  have hunplaced : unplacedSettings.Makes countWorld c := by
    cases hc with
    | fromFile named found made => exact .fromFile named found made
    | fromServer unnamed headers made => exact .fromServer unnamed headers made
  obtain ⟨e, he⟩ := hunplaced.exists_ofUrl
  have hplace : countWorld.files.destination (unplacedSettings.outputPath e) =
      .ok ["h.postman_collection.json"] := by
    cases he
    with_unfolding_all rfl
  have hdone := Settings.done_of_makes he hunplaced hplace
  rw [run_of_ofArguments ofArguments_unplacedArguments, Outcome.saved_printed, Invocation.run]
  exact ⟨_, _, hdone.saved⟩

/-- The run that is told nothing saves its collection under the name of the host. -/
theorem endpoint_of_url_count :
    ∃ e, Endpoint.ofUrl "http://h/g" = .ok e ∧ e.host = ["h"] ∧ e.path = ["g"] ∧
      ∃ text, (run unplacedArguments countWorld).saved = some ([e.defaultOutput], text) := by
  obtain ⟨e, he, -, -, hunique, -, -, -, -, -, -, hruns⟩ :=
    (endpoint_of_url "http://h/g").2.2 (by decide)
  have hsplit : IsSplit "http" ["h"] ["g"] "http://h/g" :=
    ⟨by decide, by decide, by decide, by decide, by decide⟩
  obtain ⟨-, hhost, hpath⟩ := hunique _ _ _ hsplit
  obtain ⟨place, text, hsaved⟩ := saved_unplaced
  refine ⟨e, he, hhost.symm, hpath.symm, text, ?_⟩
  rw [← (hruns unplacedArguments countWorld unplacedSettings rfl (.inl rfl)
    ofArguments_unplacedArguments).1 place text hsaved, hsaved]

end CommandLine

end RequestBook
