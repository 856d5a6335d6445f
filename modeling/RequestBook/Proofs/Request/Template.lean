import Mathlib.Data.List.Basic
import RequestBook.Request.Synthesis

/-!
# The standard template

The standard template as the text that it is written in. A comment and the line break behind it
leave nothing, the last line break does not count, and no name stands for another: reading the text
gives the tree of the template.
-/

namespace RequestBook

/-! ## Names in plain letters -/

namespace Text

theorem Ranges.has_of_lt {r : Ranges} {c : Char} (h : ∀ range ∈ r, c.toNat < range.1) :
    r.has c = false := by
  rw [has, List.any_eq_false]
  intro range hrange
  have hlt := h range hrange
  simp only [Bool.and_eq_true, decide_eq_true_eq]
  omega

theorem Ranges.place?_of_lt {r : Ranges} {c : Char} (h : ∀ range ∈ r, c.toNat < range.1) :
    r.place? c = none := by
  rw [place?, Option.map_eq_none_iff, List.find?_eq_none]
  intro range hrange
  have hlt := h range hrange
  simp only [Bool.and_eq_true, decide_eq_true_eq]
  omega

/-- No character of ASCII is another form of one. -/
theorem plainLetters_of_ascii {c : Char} (h : c.toNat < 0x80) : plainLetters c = [c] := by
  -- Every table starts behind ASCII, so that none of them has an entry for the character.
  have hfull : ∀ range ∈ fullWidth, 0x80 ≤ range.1 := by decide
  have hstyled : ∀ range ∈ styledLetters, 0x80 ≤ range.1 := by decide
  have hdigits : ∀ range ∈ styledDigits, 0x80 ≤ range.1 := by decide
  have hforms : ∀ row ∈ letterForms, 0x80 ≤ row.1 := by decide
  rw [plainLetters, Ranges.has_of_lt fun range hr => Nat.lt_of_lt_of_le h (hfull range hr),
    Ranges.place?_of_lt fun range hr => Nat.lt_of_lt_of_le h (hstyled range hr),
    Ranges.place?_of_lt fun range hr => Nat.lt_of_lt_of_le h (hdigits range hr)]
  simp only
  rw [List.findSome?_eq_none_iff.mpr]
  · rfl
  · intro row hrow
    exact if_neg (Nat.not_le.mpr (Nat.lt_of_lt_of_le h (hforms row hrow)))

theorem plainName_of_ascii {name : String} (h : ∀ c ∈ name.toList, c.toNat < 0x80) :
    plainName name = name := by
  have hletters : name.toList.flatMap plainLetters = name.toList.flatMap fun c => [c] :=
    List.flatMap_congr fun c hc => plainLetters_of_ascii (h c hc)
  rw [plainName, hletters, List.flatMap_singleton', String.ofList_toList]

end Text

theorem TemplateExpr.names_eq_singleton {e : TemplateExpr} {name : String} (h : e.names = [name]) :
    e = .variable name := by
  unfold names at h
  split at h
  · split at h
    · cases h
    · rw [(List.cons.inj h).1]
  · cases h

/-- Among names in plain letters, a name stands for itself. -/
theorem TemplateExpr.among_of_plain {names : List String}
    (hnames : ∀ n ∈ names, Text.plainName n = n) {e : TemplateExpr}
    (he : ∀ n ∈ e.names, Text.plainName n = n) : e.among names = e := by
  unfold among
  split
  · next name hname =>
    have hplain : Text.plainName name = name := he name (by simp [hname])
    dsimp only
    split
    · rfl
    · next last hlast =>
      obtain ⟨hlast, hshares⟩ := List.mem_filter.mp (List.mem_of_getLast? hlast)
      simp only [hnames last hlast, hplain, Bool.and_eq_true, decide_eq_true_eq] at hshares
      obtain ⟨hself, rfl⟩ := hshares
      rw [if_neg hself, names_eq_singleton hname]
  · rfl

mutual

theorem TemplateNode.among_of_plain {names : List String}
    (hnames : ∀ n ∈ names, Text.plainName n = n) :
    (node : TemplateNode) → (∀ n ∈ node.names, Text.plainName n = n) → node.among names = node
  | .text _, _ => rfl
  | .output e, h => by rw [among, TemplateExpr.among_of_plain hnames h]
  | .choice condition yes no, h => by
    simp only [TemplateNode.names, List.mem_append] at h
    rw [among, TemplateExpr.among_of_plain hnames fun n hn => h n (.inl (.inl hn)),
      amongAll_of_plain hnames yes fun n hn => h n (.inl (.inr hn)),
      amongAll_of_plain hnames no fun n hn => h n (.inr hn)]

theorem TemplateNode.amongAll_of_plain {names : List String}
    (hnames : ∀ n ∈ names, Text.plainName n = n) :
    (nodes : List TemplateNode) → (∀ n ∈ TemplateNode.namesOfAll nodes, Text.plainName n = n) →
      TemplateNode.amongAll names nodes = nodes
  | [], _ => rfl
  | node :: rest, h => by
    simp only [TemplateNode.namesOfAll, List.mem_append] at h
    rw [amongAll, TemplateNode.among_of_plain hnames node fun n hn => h n (.inl hn),
      amongAll_of_plain hnames rest fun n hn => h n (.inr hn)]

end

namespace Template

/-- A template keeps its names if all are in plain letters. -/
theorem amongAll_self {nodes : List TemplateNode}
    (h : ∀ n ∈ TemplateNode.namesOfAll nodes, Text.plainName n = n) :
    TemplateNode.amongAll (TemplateNode.namesOfAll nodes).eraseDups nodes = nodes :=
  TemplateNode.amongAll_of_plain (fun n hn => h n (List.mem_eraseDups.mp hn)) nodes h

/-! ## The text -/

deriving instance DecidableEq for Piece

/-- The text that the standard template is written in, tag by tag. -/
def standardParts : List String :=
  ["\x7b#- Raw operation source; ", "parsed and reprinted by RequestSynthesizer. ", "-#\x7d", "\n",
    "\x7b\x7b operation_type \x7d\x7d", " ", "\x7b\x7b name \x7d\x7d",
    "\x7b% if has_arguments %\x7d", "(", "\x7b\x7b declarations \x7d\x7d", ")", "\x7b% endif %\x7d",
    "\x7b\n\t", "\x7b\x7b name \x7d\x7d",
    "\x7b% if has_arguments %\x7d", "(", "\x7b\x7b call_arguments \x7d\x7d", ")", "\x7b% endif %\x7d",
    "\x7b% if selection %\x7d", "\x7b\n", "\x7b\x7b selection \x7d\x7d", "\t\x7d", "\x7b% endif %\x7d",
    "\n\x7d", "\n"]

def standardText : String := String.join standardParts

/-- What the text consists of, comments aside. -/
def standardPieces : List Piece :=
  [.text [], .text [], .tag .output [.name "operation_type"], .text [' '],
    .tag .output [.name "name"], .text [],
    .tag .statement [.name "if", .name "has_arguments"], .text ['('],
    .tag .output [.name "declarations"], .text [')'], .tag .statement [.name "endif"],
    .text ['{', '\n', '\t'], .tag .output [.name "name"], .text [],
    .tag .statement [.name "if", .name "has_arguments"], .text ['('],
    .tag .output [.name "call_arguments"], .text [')'], .tag .statement [.name "endif"],
    .text [], .tag .statement [.name "if", .name "selection"], .text ['{', '\n'],
    .tag .output [.name "selection"], .text ['\t', '}'], .tag .statement [.name "endif"],
    .text ['\n', '}']]

theorem toList_standardText :
    standardText.toList = standardParts.flatMap String.toList :=
  String.toList_join

theorem piecesFrom_standardText :
    piecesFrom 0 [] (dropFinalBreak (Text.normalizeBreaks standardText.toList)) =
      some standardPieces := by
  rw [toList_standardText]
  decide +kernel

theorem nodesFrom_standardPieces :
    nodesFrom (2 * standardPieces.length + 1) standardPieces = some (standard, .finish, []) := rfl

theorem plain_standard : ∀ n ∈ TemplateNode.namesOfAll standard, Text.plainName n = n := by
  have hascii : ((TemplateNode.namesOfAll standard).all fun n =>
      n.toList.all fun c => decide (c.toNat < 0x80)) = true := by decide +kernel
  intro n hn
  apply Text.plainName_of_ascii
  simpa using List.all_eq_true.mp hascii n hn

theorem read_standardText : read standardText = .ok standard := by
  rw [read, piecesFrom_standardText]
  simp only [nodesFrom_standardPieces, amongAll_self plain_standard]
  rfl

end Template

end RequestBook
