import RequestBook.Proofs.Request.Call
import RequestBook.Proofs.Schema.Reference

/-!
# Signatures of references

The last character of a signature tells the outermost part of the reference: an exclamation mark, a
bracket or the end of the name of a leaf. So a signature is that of one reference only, the kind of
the leaf aside, however its wrappers are nested.
-/

namespace RequestBook.TypeRef

variable {t u : TypeRef}

theorem getLast?_signature_named {n : Json} (hname : n.IsName) (k : Kind) {c : Char}
    (hc : isNameContinue c = false) : (named n k).signature.toList.getLast? ≠ some c :=
  fun h => not_mem_of_isName hname.plain hc (List.mem_of_getLast? h)

theorem getLast?_signature_list (t : TypeRef) :
    (list t).signature.toList.getLast? = some ']' := by
  have htext : (list t).signature.toList = ('[' :: t.signature.toList) ++ [']'] := by
    simp [signature]
  rw [htext, List.getLast?_concat]

theorem getLast?_signature_nonNull (t : TypeRef) :
    (nonNull t).signature.toList.getLast? = some '!' := by simp [signature]

theorem getLast?_signature (hname : t.leafName.IsName) :
    t.signature.toList.getLast? = some '!' ↔ ∃ item, t = .nonNull item := by
  cases t with
  | named n k => simpa using getLast?_signature_named (n := n) hname k rfl
  | list t => simp [getLast?_signature_list]
  | nonNull t => simp [getLast?_signature_nonNull]

theorem getLast?_signature_bracket (hname : t.leafName.IsName) :
    t.signature.toList.getLast? = some ']' ↔ ∃ item, t = .list item := by
  cases t with
  | named n k => simpa using getLast?_signature_named (n := n) hname k rfl
  | list t => simp [getLast?_signature_list]
  | nonNull t => simp [getLast?_signature_nonNull]

theorem head?_wrappers : t.wrappers.head? = some .nonNull ↔ ∃ item, t = .nonNull item := by
  cases t <;> simp [wrappers]

/-- The name of the leaf and the wrappers make the signature. -/
theorem signature_congr (hwrappers : t.wrappers = u.wrappers) (hname : t.leafName = u.leafName) :
    t.signature = u.signature := by
  induction t generalizing u with
  | named n k =>
    cases u with
    | named m k' => exact congrArg Json.plain hname
    | _ => cases hwrappers
  | list t ih =>
    cases u with
    | list u => rw [signature, signature, ih (List.cons.inj hwrappers).2 hname]
    | _ => cases hwrappers
  | nonNull t ih =>
    cases u with
    | nonNull u => rw [signature, signature, ih (List.cons.inj hwrappers).2 hname]
    | _ => cases hwrappers

/-- The outermost parts are the same by the last character, and the rest by induction. -/
theorem eq_of_signature_eq (ht : t.leafName.IsName) (hu : u.leafName.IsName)
    (h : t.signature = u.signature) : t.wrappers = u.wrappers ∧ t.leafName = u.leafName := by
  induction t generalizing u with
  | named n k =>
    have hlast {c : Char} (hc : isNameContinue c = false) : u.signature.toList.getLast? ≠ some c :=
      h ▸ getLast?_signature_named (n := n) ht k hc
    cases u with
    | named m k' =>
      refine ⟨rfl, ?_⟩
      calc n = .str n.plain := ht.eq_str
        _ = .str m.plain := congrArg Json.str h
        _ = m := hu.eq_str.symm
    | list u => exact absurd (getLast?_signature_list u) (hlast rfl)
    | nonNull u => exact absurd (getLast?_signature_nonNull u) (hlast rfl)
  | list t ih =>
    obtain ⟨u, rfl⟩ := (getLast?_signature_bracket hu).mp
      (h ▸ getLast?_signature_list t)
    obtain ⟨hwrappers, hname⟩ := ih ht (u := u) hu (by simpa [signature] using h)
    exact ⟨congrArg (Kind.list :: ·) hwrappers, hname⟩
  | nonNull t ih =>
    obtain ⟨u, rfl⟩ := (getLast?_signature hu).mp (h ▸ getLast?_signature_nonNull t)
    obtain ⟨hwrappers, hname⟩ := ih ht (u := u) hu (by simpa [signature] using h)
    exact ⟨congrArg (Kind.nonNull :: ·) hwrappers, hname⟩

theorem signatureValue_of_isName (hname : t.leafName.IsName) :
    t.signatureValue = .str t.signature := by
  cases t with
  | named n k => exact hname.eq_str
  | _ => rfl

/-- Two references are written in the same way exactly if they have the same wrappers in the same
order and leaves of the same name. What is written is a text, and it ends in an exclamation mark
exactly if the outermost wrapper is the one for what must not be null. -/
theorem signature_unambiguous (ht : t.leafName.IsName) (hu : u.leafName.IsName) :
    (t.signatureValue = u.signatureValue ↔
      t.wrappers = u.wrappers ∧ t.leafName = u.leafName) ∧
    t.signatureValue = .str t.signature ∧
    (t.signature.toList.getLast? = some '!' ↔ t.wrappers.head? = some .nonNull) := by
  refine ⟨?_, signatureValue_of_isName ht, (getLast?_signature ht).trans head?_wrappers.symm⟩
  rw [signatureValue_of_isName ht, signatureValue_of_isName hu, Json.str.injEq]
  exact ⟨eq_of_signature_eq ht hu, fun h => signature_congr h.1 h.2⟩

/-- Two marks inside of a list are another signature than one mark on either side of it. -/
theorem signature_unambiguous_marks :
    (list (nonNull (nonNull (named (.str "Int") .scalar)))).signatureValue ≠
      (nonNull (list (nonNull (named (.str "Int") .scalar)))).signatureValue ∧
    (list (nonNull (nonNull (named (.str "Int") .scalar)))).signatureValue =
      (list (nonNull (nonNull (named (.str "Int") .enum)))).signatureValue := by
  have hint : (Json.str "Int").IsName := ⟨"Int", rfl, by decide⟩
  obtain ⟨hdiffer, -, -⟩ := signature_unambiguous
    (t := list (nonNull (nonNull (named (.str "Int") .scalar))))
    (u := nonNull (list (nonNull (named (.str "Int") .scalar)))) hint hint
  obtain ⟨hsame, -, -⟩ := signature_unambiguous
    (t := list (nonNull (nonNull (named (.str "Int") .scalar))))
    (u := list (nonNull (nonNull (named (.str "Int") .enum)))) hint hint
  exact ⟨fun h => absurd (hdiffer.mp h).1 (by decide), hsame.mpr ⟨rfl, rfl⟩⟩

end RequestBook.TypeRef
