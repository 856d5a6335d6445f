import Mathlib.Data.List.Forall2
import RequestBook.Proofs.Token.Stopping

/-!
# Laid out text

How the texts that the printer puts together spell their lexemes. A text without lexemes is empty,
so what is left out of a layout spells nothing, and the rest goes on behind something that is
ignored or that ends a name.
-/

namespace RequestBook

open Text

/-- The text spells the lexemes, and it is empty if there are none. -/
structure Spells (ls : List Lexeme) (s : String) : Prop where
  spelling : Spelling ls s.toList
  eq_empty : ls = [] → s = ""

/-- In front of any spelling, the text spells these lexemes as well. -/
def Leads (ls : List Lexeme) (s : String) : Prop :=
  ∀ ms cs, Spelling ms cs → Spelling (ls ++ ms) (s.toList ++ cs)

/-- The text may stand directly behind a name or a literal. -/
def Detached (s : String) : Prop := endsToken s.toList = true

/-- Whatever begins with the text may stand directly behind a name or a literal. -/
def Detaches (s : String) : Prop := ∀ cs, endsToken (s.toList ++ cs) = true

/-- A text that is there and that is ignored between lexemes. -/
structure Blank (s : String) : Prop where
  ne_empty : s ≠ ""
  isIgnored : ∀ c ∈ s.toList, Reading.isIgnored c = true

variable {α : Type} {ls ms bs as : List Lexeme} {s t before after sep : String}

/-! ## Detached texts -/

theorem Detaches.append (h : Detaches s) (t : String) : Detached (s ++ t) := by
  rw [Detached, String.toList_append]
  exact h t.toList

theorem Detached.append (h : Detached s) (ht : Detached t) : Detached (s ++ t) := by
  rw [Detached, String.toList_append]
  cases hs : s.toList with
  | nil => exact ht
  | cons c cs => rwa [Detached, hs] at h

theorem Detaches.wrapped (h : Detaches before) (s after : String) :
    Detached (wrapped before s after) := by
  rw [Text.wrapped]
  split
  · rfl
  · rw [String.append_assoc]
    exact h.append _

theorem Blank.detaches (h : Blank s) : Detaches s := by
  obtain ⟨c, cs, hc⟩ := List.exists_cons_of_ne_nil
    (fun he => h.ne_empty (String.toList_eq_nil_iff.mp he) : s.toList ≠ [])
  intro ds
  rw [hc]
  exact endsToken_of_isIgnored (h.isIgnored c (by simp [hc])) _

theorem Blank.leads (h : Blank s) : Leads [] s := fun _ _ hcs => .blanks h.isIgnored hcs

theorem blank_space : Blank " " := ⟨by simp, by simp; rfl⟩

theorem blank_comma : Blank ", " := ⟨by simp, by simp; decide⟩

theorem blank_newline : Blank "\n" := ⟨by simp, by simp; rfl⟩

theorem blank_newlines : Blank "\n\n" := ⟨by simp, by simp; rfl⟩

/-! ## Spelled texts -/

namespace Spells

theorem empty : Spells [] "" := ⟨.nil, fun _ => rfl⟩

theorem of_ne_nil (hls : ls ≠ []) (h : Spelling ls s.toList) : Spells ls s :=
  ⟨h, fun he => absurd he hls⟩

theorem ne_empty (h : Spells ls s) (hls : ls ≠ []) : s ≠ "" := by
  obtain ⟨l, more, rfl⟩ := List.exists_cons_of_ne_nil hls
  exact fun he => h.spelling.ne_nil (String.toList_eq_nil_iff.mpr he)

theorem eq_nil (h : Spells ls s) (hs : s = "") : ls = [] := by
  by_contra hls
  exact h.ne_empty hls hs

theorem word (h : isName s.toList = true) : Spells [.name s] s := by
  have hword : Spelling [.name s] (s.toList ++ []) := .word h rfl .nil
  exact of_ne_nil (by simp) (by rwa [List.append_nil] at hword)

theorem literal {l : Lexeme} (h : Written l s.toList) : Spells [l] s := by
  have hliteral : Spelling [l] (s.toList ++ []) := .literal h rfl .nil
  exact of_ne_nil (by simp) (by rwa [List.append_nil] at hliteral)

theorem append (h : Spells ls s) (hends : Detached t) (ht : Spells ms t) :
    Spells (ls ++ ms) (s ++ t) := by
  refine ⟨?_, fun he => ?_⟩
  · rw [String.toList_append]
    exact h.spelling.append hends ht.spelling
  · obtain ⟨hls, hms⟩ := List.append_eq_nil_iff.mp he
    rw [h.eq_empty hls, ht.eq_empty hms, String.append_empty]

theorem indented (h : Spells ls s) : Spells ls (Text.indented s) :=
  ⟨spelling_indented h.spelling, fun he => by rw [h.eq_empty he]; rfl⟩

/-- What is wrapped is written between the lexemes of what it is wrapped in, if it is there. -/
theorem wrapped (h : Spells ls s) (hbefore : Leads bs before) (hafter : Spells as after)
    (hends : Detached after) :
    Spells (if ls = [] then [] else bs ++ (ls ++ as)) (Text.wrapped before s after) := by
  by_cases hls : ls = []
  · rw [if_pos hls, h.eq_empty hls, wrapped_empty]
    exact empty
  · rw [if_neg hls, wrapped_of_ne (h.ne_empty hls)]
    refine of_ne_nil (by simp [hls]) ?_
    rw [String.append_assoc, String.toList_append]
    exact hbefore _ _ (h.append hends hafter).spelling

/-- Something ignored before what is there changes nothing. -/
theorem wrapped_blank (h : Spells ls s) (hbefore : Blank before) :
    Spells ls (Text.wrapped before s "") := by
  by_cases hls : ls = []
  · rw [hls, h.eq_empty hls, wrapped_empty]
    exact empty
  · rw [wrapped_of_ne (h.ne_empty hls), String.append_empty]
    refine of_ne_nil hls ?_
    rw [String.toList_append]
    exact hbefore.leads _ _ h.spelling

/-- With something ignored behind it, what is there may stand in front of anything. -/
theorem leads (h : Spells ls s) (hafter : Blank after) : Leads ls (Text.wrapped "" s after) := by
  intro ms cs hcs
  by_cases hls : ls = []
  · rw [hls, h.eq_empty hls, wrapped_empty]
    exact hcs
  · rw [wrapped_of_ne (h.ne_empty hls), String.empty_append, String.toList_append, List.append_assoc]
    exact h.spelling.append (hafter.detaches cs) (hafter.leads _ _ hcs)

end Spells

/-- A text in front of a spelled one. -/
theorem Leads.append (h : Leads ls s) (ht : Spells ms t) (hne : ls ++ ms ≠ []) :
    Spells (ls ++ ms) (s ++ t) := by
  refine .of_ne_nil hne ?_
  rw [String.toList_append]
  exact h _ _ ht.spelling

/-! ## Joined pieces -/

section Joined

variable {lss : List (List Lexeme)} {parts : List String}

theorem Spells.joined (h : List.Forall₂ Spells lss parts) (hsep : Blank sep) :
    Spells lss.flatten (Text.joined sep parts) := by
  induction h with
  | nil => exact .empty
  | @cons ls s lss parts hs _ ih =>
    rw [joined_cons, List.flatten_cons]
    split
    · next he =>
      rw [hs.eq_nil he, List.nil_append]
      exact ih
    split
    · next he =>
      rw [ih.eq_nil he, List.append_nil]
      exact hs
    · next hne hrest =>
      refine .of_ne_nil (fun he => hne (hs.eq_empty (List.append_eq_nil_iff.mp he).1)) ?_
      rw [String.append_assoc, String.toList_append]
      refine hs.spelling.append (hsep.detaches.append _) ?_
      rw [String.toList_append]
      exact hsep.leads _ _ ih.spelling

variable {written : α → List Lexeme} {text : α → String} {xs : List α}

theorem Spells.joined_map (h : ∀ x ∈ xs, Spells (written x) (text x)) (hsep : Blank sep) :
    Spells (xs.flatMap written) (Text.joined sep (xs.map text)) := by
  refine .joined ?_ hsep
  rw [List.forall₂_map_left_iff, List.forall₂_map_right_iff, List.forall₂_same]
  exact h

/-- Things that are each written in a block, one per line. -/
theorem Spells.block (h : ∀ x ∈ xs, Spells (written x) (text x)) (hne : ∀ x ∈ xs, written x ≠ []) :
    Spells (enclosed .braceL .braceR (xs.flatMap written)) (Text.block (xs.map text)) := by
  cases xs with
  | nil => exact .empty
  | cons x xs =>
    have hlines := Spells.joined_map h blank_newline
    have hall : (x :: xs).flatMap written ≠ [] := by simp [hne x List.mem_cons_self]
    have hopen : Leads [.punctuator .braceL] "\x7b\n" := fun _ _ h => .mark rfl (.blank rfl h)
    have hclose : Spells [.punctuator .braceR] "\n\x7d" :=
      .of_ne_nil (by simp) (.blank rfl (.mark rfl .nil))
    have hblock := hlines.indented.wrapped hopen hclose rfl
    rw [wrapped_of_ne (hlines.indented.ne_empty hall)] at hblock
    rw [block_of_ne (by simp)]
    exact hblock

end Joined

/-- Names with a punctuator between neighbours. -/
theorem Spells.delimited {c : Char} {p : Punctuator} {words : List String}
    (h : ∀ s ∈ words, isName s.toList = true) (hp : Punctuator.ofChar? c = some p)
    (hsep : sep.toList = [' ', c, ' ']) :
    Spells (delimitedLexemes p words) (Text.joined sep words) := by
  have hne : ∀ s ∈ words, s ≠ "" := fun s hs => (Spells.word (h s hs)).ne_empty (by simp)
  rw [joined_eq_separated sep hne]
  induction words with
  | nil => exact .empty
  | cons s words ih =>
    have hs := h s List.mem_cons_self
    cases words with
    | nil =>
      rw [delimitedLexemes_singleton]
      exact .word hs
    | cons t words =>
      have hrest := ih (fun x hx => h x (List.mem_cons_of_mem s hx))
        fun x hx => hne x (List.mem_cons_of_mem s hx)
      rw [delimitedLexemes_cons_cons, separated_cons_cons]
      refine .of_ne_nil (by simp) ?_
      rw [String.append_assoc, String.toList_append, String.toList_append, hsep]
      exact .word hs rfl (.blank rfl (.mark hp (.blank rfl hrest.spelling)))

end RequestBook
