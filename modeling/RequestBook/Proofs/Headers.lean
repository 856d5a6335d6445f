import RequestBook.Headers
import RequestBook.Proofs.Entries

/-!
# What a tree of providers sets

A tree of providers sets headers from left to right, whatever its depth. Its headers are what these
settings leave: one entry per spelling of a name, in the order of the first settings, each with the
value of the last.
-/

namespace RequestBook

open Entries

/-- A part of a list of settings is the last one under a spelling of some kind. -/
def Headers.SetLast (spelled : String → Prop) (value : String) (settings : Headers) : Prop :=
  ∃ before h after, settings = before ++ h :: after ∧ spelled h.1 ∧ h.2 = value ∧
    ∀ later ∈ after, ¬ spelled later.1

/-- Headers that settings leave behind: every name that is set stands once, in the place of its
first setting and with the value of its last. -/
structure Headers.LeftBy (headers settings : Headers) : Prop where
  names : headers.map Prod.fst = (settings.map Prod.fst).eraseDups
  last : ∀ h ∈ headers, settings.SetLast (· = h.1) h.2

namespace Provider

mutual

/-- The headers that a provider sets, one setting after the other. -/
def settings : Provider → Headers
  | combined providers => allSettings providers
  | provider => provider.headers

def allSettings : List Provider → Headers
  | [] => []
  | p :: rest => p.settings ++ allSettings rest

end

mutual

theorem alike_headers : (p : Provider) → Alike p.headers p.settings
  | none | bearer _ | apiKey _ _ | fixed _ => .refl _
  | combined providers => alike_allHeaders [] List.nodup_nil providers

/-- Headers that are written over others come to the settings behind them. -/
theorem alike_allHeaders (before : Headers) (h : (before.map Prod.fst).Nodup) :
    (providers : List Provider) →
      Alike (allHeaders before providers) (before ++ allSettings providers)
  | [] => by
    rw [allHeaders, allSettings, List.append_nil]
    exact .refl before
  | p :: rest => by
    have hfirst : Alike (before.merge p.headers) (before ++ p.settings) :=
      (alike_putAll h p.headers).trans (.append (.refl before) (alike_headers p))
    have hrest : Alike (allHeaders (before.merge p.headers) rest) _ :=
      alike_allHeaders _ (nodup_putAll h p.headers) rest
    rw [allHeaders, allSettings, ← List.append_assoc]
    exact hrest.trans (hfirst.append (.refl _))

end

end Provider

namespace Headers

variable {headers settings : Headers}

theorem setLast_iff {name value : String} :
    SetLast (· = name) value settings ↔ settings.reverse.lookup name = some value := by
  rw [List.lookup_eq_some_iff]
  constructor
  · rintro ⟨before, ⟨_, _⟩, after, rfl, rfl, rfl, hafter⟩
    refine ⟨after.reverse, before.reverse, by simp, fun later hlater => ?_⟩
    simpa using Ne.symm (hafter later (List.mem_reverse.mp hlater))
  · rintro ⟨after, before, hsettings, hafter⟩
    refine ⟨before.reverse, (name, value), after.reverse, ?_, rfl, rfl, fun later hlater heq => ?_⟩
    · rw [← List.reverse_reverse settings, hsettings]
      simp
    · simpa [heq] using hafter later (List.mem_reverse.mp hlater)

/-- A header has the value that was set last under its spelling. -/
theorem setLast_of_mem (h : Alike headers settings) (hnodup : (headers.map Prod.fst).Nodup)
    {header : String × String} (hmem : header ∈ headers) :
    SetLast (· = header.1) header.2 settings := by
  rw [setLast_iff, ← h.last, ← setLast_iff]
  obtain ⟨before, after, rfl⟩ := List.append_of_mem hmem
  refine ⟨before, header, after, rfl, rfl, rfl, fun later hlater heq => ?_⟩
  rw [List.map_append, List.map_cons, List.nodup_append] at hnodup
  exact (List.nodup_cons.mp hnodup.2.1).1 (heq ▸ List.mem_map_of_mem hlater)

theorem leftBy_of_alike (h : Alike headers settings) (hnodup : (headers.map Prod.fst).Nodup) :
    headers.LeftBy settings where
  names := by rw [← h.keys, eraseDups_of_nodup hnodup]
  last _ hmem := setLast_of_mem h hnodup hmem

/-- Headers that are left behind have different names. -/
theorem LeftBy.nodup (h : headers.LeftBy settings) : (headers.map Prod.fst).Nodup :=
  h.names ▸ nodup_eraseDups _

theorem LeftBy.eq_map (h : headers.LeftBy settings) :
    headers = (settings.map Prod.fst).eraseDups.map fun name =>
      (name, (settings.reverse.lookup name).getD "") := by
  have hentry : ∀ e ∈ headers, (e.1, (settings.reverse.lookup e.1).getD "") = e := by
    intro e he
    rw [setLast_iff.mp (h.last e he)]
    rfl
  rw [← h.names, List.map_map]
  exact ((List.map_congr_left hentry).trans (List.map_id headers)).symm

/-- Settings leave one list of headers behind. -/
theorem leftBy_iff : headers.LeftBy settings ↔ headers = merge [] settings := by
  have hempty : (([] : Headers).map Prod.fst).Nodup := List.nodup_nil
  have hmerge : (merge [] settings).LeftBy settings :=
    leftBy_of_alike (alike_putAll hempty settings) (nodup_putAll hempty settings)
  constructor
  · intro h
    rw [h.eq_map, hmerge.eq_map]
  · rintro rfl
    exact hmerge

theorem LeftBy.mem_iff (h : headers.LeftBy settings) {e : String × String} :
    e ∈ headers ↔ settings.SetLast (· = e.1) e.2 := by
  refine ⟨h.last e, fun hset => ?_⟩
  have hname : e.1 ∈ headers.map Prod.fst := by
    obtain ⟨before, setting, after, rfl, hsame, -⟩ := hset
    rw [h.names, List.mem_eraseDups, ← hsame]
    exact List.mem_map_of_mem (by simp)
  obtain ⟨e', he', hsame⟩ := List.mem_map.mp hname
  have hvalue : some e'.2 = some e.2 := by
    rw [← setLast_iff.mp hset, ← setLast_iff.mp (h.last e' he'), hsame]
  rwa [← Prod.ext hsame (Option.some.inj hvalue)]

end Headers

end RequestBook
