import RequestBook.Proofs.Headers

/-!
# Trees of providers

A tree of providers has the headers that its leaves have from left to right, however they are
grouped, and leaves without headers may stand anywhere between them. Where several leaves name a
header, the first one places it and the last one gives its value.
-/

namespace RequestBook

open Entries

/-! ## The last part that names a header -/

namespace Headers

variable {parts before after : List Headers} {part settings : Headers} {name value : String}

theorem exists_setLast (h : name ∈ settings.map Prod.fst) :
    ∃ value, SetLast (· = name) value settings := by
  simp only [setLast_iff]
  refine Option.ne_none_iff_exists'.mp fun hnone => ?_
  obtain ⟨setting, hmem, hname⟩ := List.mem_map.mp h
  have hdiffer := List.lookup_eq_none_iff.mp hnone setting (List.mem_reverse.mpr hmem)
  simp [hname] at hdiffer

theorem SetLast.mem (h : SetLast (· = name) value settings) : (name, value) ∈ settings := by
  obtain ⟨before, setting, after, rfl, rfl, rfl, -⟩ := h
  simp

theorem SetLast.append (h : SetLast (· = name) value part)
    (hafter : ∀ later ∈ after, name ∉ later.map Prod.fst) :
    SetLast (· = name) value (before ++ part :: after).flatten := by
  obtain ⟨start, setting, behind, rfl, hname, hvalue, hbehind⟩ := h
  refine ⟨before.flatten ++ start, setting, behind ++ after.flatten, by simp, hname, hvalue, ?_⟩
  intro later hlater hsame
  rcases List.mem_append.mp hlater with hlater | hlater
  · exact hbehind later hlater hsame
  · obtain ⟨last, hlast, hmem⟩ := List.mem_flatten.mp hlater
    exact hafter last hlast (List.mem_map.mpr ⟨later, hmem, hsame⟩)

/-- What is set last in several parts is set last in the last part that names it. -/
theorem setLast_flatten : SetLast (· = name) value parts.flatten ↔
    ∃ before part after, parts = before ++ part :: after ∧ SetLast (· = name) value part ∧
      ∀ later ∈ after, name ∉ later.map Prod.fst := by
  constructor
  · intro h
    obtain ⟨first, hfirst, hmem⟩ := List.mem_flatten.mp h.mem
    have hnames : (parts.reverse.find? fun part => name ∈ part.map Prod.fst).isSome = true := by
      rw [List.find?_isSome]
      exact ⟨first, List.mem_reverse.mpr hfirst, by simpa using ⟨value, hmem⟩⟩
    obtain ⟨part, hpart⟩ := Option.isSome_iff_exists.mp hnames
    obtain ⟨hname, after, before, hparts, hafter⟩ := List.find?_eq_some_iff_append.mp hpart
    obtain rfl : parts = before.reverse ++ part :: after.reverse := by
      rw [← List.reverse_reverse parts, hparts]
      simp
    have hlast : ∀ later ∈ after.reverse, name ∉ later.map Prod.fst := fun later hlater => by
      simpa using hafter later (List.mem_reverse.mp hlater)
    obtain ⟨found, hfound⟩ := exists_setLast (of_decide_eq_true hname)
    obtain rfl : found = value := Option.some.inj <|
      (setLast_iff.mp (hfound.append hlast)).symm.trans (setLast_iff.mp h)
    exact ⟨before.reverse, part, after.reverse, rfl, hfound, hlast⟩
  · rintro ⟨before, part, after, rfl, hpart, hafter⟩
    exact hpart.append hafter

theorem setLast_iff_mem (h : (settings.map Prod.fst).Nodup) :
    SetLast (· = name) value settings ↔ (name, value) ∈ settings :=
  ⟨SetLast.mem, fun hmem => setLast_of_mem (.refl settings) h hmem⟩

end Headers

namespace Provider

/-! ## Leaves -/

mutual

/-- The providers in a tree that are not combined of others, from left to right. -/
def leaves : Provider → List Provider
  | combined providers => allLeaves providers
  | provider => [provider]

def allLeaves : List Provider → List Provider
  | [] => []
  | p :: rest => p.leaves ++ allLeaves rest

end

/-- Every leaf has its headers under different names, as headers that are left behind have. -/
def NamesOnce (p : Provider) : Prop := ∀ leaf ∈ p.leaves, (leaf.headers.map Prod.fst).Nodup

instance (p : Provider) : Decidable p.NamesOnce :=
  inferInstanceAs (Decidable (∀ leaf ∈ p.leaves, (leaf.headers.map Prod.fst).Nodup))

def isNone : Provider → Bool
  | none => true
  | _ => false

/-- Two trees with the same leaves from left to right, apart from leaves without headers. -/
def Regrouped (p q : Provider) : Prop :=
  p.leaves.filter (!·.isNone) = q.leaves.filter (!·.isNone)

mutual

theorem leaves_of_mem {leaf : Provider} : (p : Provider) → leaf ∈ p.leaves → leaf.leaves = [leaf]
  | none, h | bearer _, h | apiKey _ _, h | fixed _, h => by
    rw [List.mem_singleton.mp h]
    rfl
  | combined providers, h => leaves_of_mem_allLeaves providers h

theorem leaves_of_mem_allLeaves {leaf : Provider} :
    (providers : List Provider) → leaf ∈ allLeaves providers → leaf.leaves = [leaf]
  | [], h => nomatch h
  | p :: rest, h => by
    rw [allLeaves, List.mem_append] at h
    exact h.elim (leaves_of_mem p) (leaves_of_mem_allLeaves rest)

end

theorem allLeaves_eq_flatMap (providers : List Provider) :
    allLeaves providers = providers.flatMap leaves := by
  induction providers with
  | nil => rfl
  | cons p rest ih => rw [allLeaves, ih, List.flatMap_cons]

/-- Leaves that are combined are the leaves of what they make. -/
theorem leaves_combined_leaves (p : Provider) : (combined p.leaves).leaves = p.leaves := by
  rw [leaves, allLeaves_eq_flatMap]
  calc p.leaves.flatMap leaves = p.leaves.flatMap fun leaf => [leaf] :=
        List.flatMap_congr fun leaf => leaves_of_mem p
    _ = p.leaves := List.flatMap_singleton' p.leaves

/-! ## Headers -/

mutual

theorem settings_eq : (p : Provider) → p.settings = (p.leaves.map headers).flatten
  | none | bearer _ | apiKey _ _ | fixed _ => by simp [settings, leaves]
  | combined providers => allSettings_eq providers

theorem allSettings_eq : (providers : List Provider) →
    allSettings providers = ((allLeaves providers).map headers).flatten
  | [] => rfl
  | p :: rest => by
    rw [allSettings, settings_eq p, allSettings_eq rest, allLeaves, List.map_append,
      List.flatten_append]

end

theorem nodup_allHeaders {before : Headers} (h : (before.map Prod.fst).Nodup)
    (providers : List Provider) : ((allHeaders before providers).map Prod.fst).Nodup := by
  induction providers generalizing before with
  | nil => exact h
  | cons p rest ih => exact ih (nodup_putAll h p.headers)

variable {p q : Provider}

theorem NamesOnce.nodup_headers (h : p.NamesOnce) : (p.headers.map Prod.fst).Nodup := by
  have hempty : (([] : Headers).map Prod.fst).Nodup := List.nodup_nil
  cases p with
  | combined providers => exact nodup_allHeaders hempty providers
  | _ => exact h _ List.mem_cons_self

/-- A tree leaves behind what its leaves set, one after the other. -/
theorem NamesOnce.leftBy (h : p.NamesOnce) :
    p.headers.LeftBy (p.leaves.map headers).flatten :=
  p.settings_eq ▸ Headers.leftBy_of_alike p.alike_headers h.nodup_headers

theorem NamesOnce.headers_eq (hp : p.NamesOnce) (hq : q.NamesOnce)
    (h : (p.leaves.map headers).flatten = (q.leaves.map headers).flatten) :
    p.headers = q.headers := by
  rw [Headers.leftBy_iff.mp hp.leftBy, h, ← Headers.leftBy_iff.mp hq.leftBy]

theorem headers_of_isNone (h : p.isNone = true) : p.headers = [] := by
  cases p with
  | none => rfl
  | _ => cases h

theorem flatten_filter_isNone (providers : List Provider) :
    ((providers.filter (!·.isNone)).map headers).flatten = (providers.map headers).flatten := by
  induction providers with
  | nil => rfl
  | cons p rest ih =>
    cases h : p.isNone with
    | true => simp [h, ih, headers_of_isNone h]
    | false => simp [h, ih]

theorem Regrouped.namesOnce (h : p.Regrouped q) (hp : p.NamesOnce) : q.NamesOnce := by
  intro leaf hleaf
  cases hnone : leaf.isNone with
  | true =>
    rw [headers_of_isNone hnone]
    exact List.nodup_nil
  | false =>
    have hmem : leaf ∈ p.leaves.filter (!·.isNone) := by
      rw [h]
      exact List.mem_filter.mpr ⟨hleaf, by simp [hnone]⟩
    exact hp leaf (List.mem_filter.mp hmem).1

theorem Regrouped.headers_eq (h : p.Regrouped q) (hp : p.NamesOnce) : p.headers = q.headers :=
  hp.headers_eq (h.namesOnce hp) (by rw [← flatten_filter_isNone, h, flatten_filter_isNone])

/-- A tree of providers has the headers of its leaves when these are combined side by side: each
name stands in the place that the first leaf to name it gives it, with the value of the last such
leaf. Grouping the leaves in another way changes nothing, nor does a leaf without headers. -/
theorem headers_of_leaves (p : Provider) (hp : p.NamesOnce) :
    p.headers = (combined p.leaves).headers ∧
    p.headers.map Prod.fst =
      (p.leaves.flatMap fun leaf => leaf.headers.map Prod.fst).eraseDups ∧
    (∀ header, header ∈ p.headers ↔ ∃ before leaf after, p.leaves = before ++ leaf :: after ∧
      header ∈ leaf.headers ∧ ∀ later ∈ after, header.1 ∉ later.headers.map Prod.fst) ∧
    (∀ name, name ∈ p.headers.map Prod.fst ↔
      ∃ leaf ∈ p.leaves, name ∈ leaf.headers.map Prod.fst) ∧
    ∀ q, p.Regrouped q → p.headers = q.headers := by
  have hcombined : p.Regrouped (combined p.leaves) := by rw [Regrouped, leaves_combined_leaves]
  have hnames : p.headers.map Prod.fst =
      (p.leaves.flatMap fun leaf => leaf.headers.map Prod.fst).eraseDups := by
    rw [hp.leftBy.names, List.map_flatten, List.map_map, List.flatMap_def]
    rfl
  refine ⟨hcombined.headers_eq hp, hnames, fun header => ?_, fun name => ?_,
    fun q h => h.headers_eq hp⟩
  · rw [hp.leftBy.mem_iff, Headers.setLast_flatten]
    constructor
    · rintro ⟨before, part, after, hparts, hlast, hafter⟩
      obtain ⟨start, behind, hleaves, rfl, hbehind⟩ := List.map_eq_append_iff.mp hparts
      obtain ⟨leaf, rest, rfl, rfl, rfl⟩ := List.map_eq_cons_iff.mp hbehind
      exact ⟨start, leaf, rest, hleaves, hlast.mem,
        fun later hlater => hafter _ (List.mem_map_of_mem hlater)⟩
    · rintro ⟨before, leaf, after, hleaves, hmem, hafter⟩
      have hnodup := hp leaf (by rw [hleaves]; simp)
      refine ⟨before.map headers, leaf.headers, after.map headers, by rw [hleaves]; simp,
        (Headers.setLast_iff_mem hnodup).mpr hmem, ?_⟩
      simpa using hafter
  · rw [hnames, List.mem_eraseDups, List.mem_flatMap]

/-- A header that three leaves name, at three depths, next to leaves and groups that name none. -/
def tracedProviders : Provider :=
  .combined [.fixed [("x-trace", "1"), ("accept", "text/plain")],
    .combined [.none, .combined [], .combined [.bearer "t", .apiKey "2" "x-trace"]],
    .combined [.combined [.fixed [("x-trace", "3")]], .none]]

theorem headers_of_leaves_traced : tracedProviders.NamesOnce ∧
    ("x-trace", "3") ∈ tracedProviders.headers ∧
    tracedProviders.headers.map Prod.fst = ["x-trace", "accept", "Authorization"] ∧
    tracedProviders.headers = (combined [.combined [.fixed [("x-trace", "1"), ("accept", "text/plain")],
      .bearer "t"], .apiKey "2" "x-trace", .fixed [("x-trace", "3")]]).headers := by
  have honce : tracedProviders.NamesOnce := by decide
  have hleaves : tracedProviders.leaves =
      [.fixed [("x-trace", "1"), ("accept", "text/plain")], .none, .bearer "t",
        .apiKey "2" "x-trace"] ++ .fixed [("x-trace", "3")] :: [.none] := rfl
  obtain ⟨-, hnames, hmem, -, hregrouped⟩ := headers_of_leaves tracedProviders honce
  refine ⟨honce, (hmem _).mpr ⟨_, _, _, hleaves, ?_, ?_⟩, ?_, hregrouped _ rfl⟩
  · simp [headers]
  · simp [headers]
  · rw [hnames]
    decide

end Provider

end RequestBook
