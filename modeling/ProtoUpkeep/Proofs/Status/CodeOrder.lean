import ProtoUpkeep.Proofs.Status.Coverage
import ProtoUpkeep.Proofs.Status.OtherLines

/-!
# The order of the codes

A proto file lists its codes in some order, and what becomes of the Swift file does not depend on
it: the missing codes are sorted by their numbers, and the doc comments are replaced in the order of
the declarations. Both orders are strict where the numbers are distinct. Then a number has one code,
a declaration gets its doc comment from one code, and no two of them start on one line
(`missingCodes_perm`, `bottomUp_drifts_perm`).
-/

namespace ProtoUpkeep

open RawValues Declaration

variable {codes codes' : List StatusCode} {mapped : RawValues} {decls : List Declaration}

/-- The numbers of codes in another order are distinct too. -/
theorem nodup_number_perm (hperm : codes.Perm codes') (hnodup : (codes.map (·.number)).Nodup) :
    (codes'.map (·.number)).Nodup :=
  (hperm.map _).nodup_iff.1 hnodup

/-- The missing codes do not depend on the order of the codes. -/
theorem missingCodes_perm (hperm : codes.Perm codes') (hnodup : (codes.map (·.number)).Nodup)
    (mapped : RawValues) : missingCodes codes mapped = missingCodes codes' mapped := by
  have hsorted : ∀ cs : List StatusCode, (missingCodes cs mapped).Pairwise fun a b =>
      a.number ≤ b.number := fun cs =>
    (List.pairwise_mergeSort (fun a b c => by simpa using Int.le_trans)
      (fun a b => by simpa using Int.le_total a.number b.number) _).imp fun h => by simpa using h
  have hsame : (missingCodes codes mapped).Perm (missingCodes codes' mapped) :=
    (List.mergeSort_perm _ _).trans
      ((hperm.filter _).trans (List.mergeSort_perm _ _).symm)
  refine hsame.eq_of_pairwise (fun a b ha hb hab hba => ?_) (hsorted codes) (hsorted codes')
  exact eq_of_number_eq hnodup (mem_missingCodes.1 ha).1
    (hperm.mem_iff.2 (mem_missingCodes.1 hb).1) (Int.le_antisymm hab hba)

/-- The code whose doc comment a declaration gets does not depend on the order of the codes. -/
theorem redocCode?_perm (hperm : codes.Perm codes') (hnodup : (codes.map (·.number)).Nodup)
    (mapped : RawValues) (decls : List Declaration) :
    redocCode? codes mapped decls = redocCode? codes' mapped decls := by
  funext d
  refine Option.ext fun c => ?_
  rw [redocCode?_eq_some_iff hnodup, redocCode?_eq_some_iff (nodup_number_perm hperm hnodup),
    hperm.mem_iff]

/-- The order in which doc comments are replaced does not depend on the order of the codes. -/
theorem bottomUp_drifts_perm (hperm : codes.Perm codes') (hnodup : (codes.map (·.number)).Nodup)
    (habove : decls.Pairwise Above) (mapped : RawValues) :
    bottomUp (drifts codes mapped decls) = bottomUp (drifts codes' mapped decls) := by
  rw [bottomUp_drifts hnodup habove, bottomUp_drifts (nodup_number_perm hperm hnodup) habove,
    driftsInOrder, driftsInOrder, redocCode?_perm hperm hnodup]

/-- The drifts of codes in another order are the same drifts in another order. -/
theorem drifts_perm (hperm : codes.Perm codes') (mapped : RawValues) (decls : List Declaration) :
    (drifts codes mapped decls).Perm (drifts codes' mapped decls) := by
  rw [drifts_eq_filterMap, drifts_eq_filterMap]
  exact (hperm.filter _).filterMap _

/-- The text with its doc comments replaced does not depend on the order of the codes. -/
theorem replaceDocs_drifts_perm (hperm : codes.Perm codes')
    (hnodup : (codes.map (·.number)).Nodup) (style : Style) (mapped : RawValues)
    (marker swift : Text) :
    replaceDocs style (drifts codes mapped (Declaration.ofSwift marker swift)) swift =
      replaceDocs style (drifts codes' mapped (Declaration.ofSwift marker swift)) swift := by
  rw [replaceDocs, replaceDocs,
    bottomUp_drifts_perm hperm hnodup (pairwise_above_ofSwift marker swift)]

/-- Plans for one Swift text and the same codes in two orders differ in the order of the drifts
alone. -/
theorem StatusSync.Planned.eq_of_perm {s : StatusSync} {proto proto' swift : Text} {upd : Bool}
    {p p' : Plan} (hperm : codes.Perm codes') (hnodup : (codes.map (·.number)).Nodup)
    (h : s.Planned proto swift upd codes p) (h' : s.Planned proto' swift upd codes' p') :
    p.missing = p'.missing ∧ p.drifts.Perm p'.drifts ∧ p.updated = p'.updated ∧
      p.skipped = p'.skipped := by
  have hmissing : p.missing = p'.missing := by
    rw [h.missing, h'.missing, missingCodes_perm hperm hnodup]
  have hdrifts : p.drifts.Perm p'.drifts := by
    rw [h.drifts, h'.drifts]
    split
    · exact drifts_perm hperm _ _
    · exact .refl _
  have hdocs : s.withDocs p.drifts swift = s.withDocs p'.drifts swift := by
    rw [withDocs, withDocs, hdrifts.isEmpty_eq, h.drifts, h'.drifts]
    cases upd with
    | false => rfl
    | true =>
      rw [if_pos rfl, if_pos rfl, replaceDocs_drifts_perm hperm hnodup]
  have hresult := h.result
  rw [hmissing, hdocs, h'.result, Prod.mk.injEq] at hresult
  exact ⟨hmissing, hdrifts, hresult.1.symm, hresult.2.symm⟩

/-- Codes with distinct numbers may stand in any order: the same codes are missing, in the same
order, the doc comments are replaced by the same ones, and plans made for them bring the Swift text
to the same text and skip the same sections. -/
theorem StatusSync.result_perm (s : StatusSync) (swift : Text) (hperm : codes.Perm codes')
    (hnodup : (codes.map (·.number)).Nodup) :
    missingCodes codes (ofSwift swift) = missingCodes codes' (ofSwift swift) ∧
    (∀ marker, replaceDocs s.settings.style
        (drifts codes (ofSwift swift) (Declaration.ofSwift marker swift)) swift =
      replaceDocs s.settings.style
        (drifts codes' (ofSwift swift) (Declaration.ofSwift marker swift)) swift) ∧
    ∀ {proto proto' : Text} {upd : Bool} {p p' : Plan}, s.Planned proto swift upd codes p →
      s.Planned proto' swift upd codes' p' →
        p.missing = p'.missing ∧ p.updated = p'.updated ∧ p.skipped = p'.skipped := by
  refine ⟨missingCodes_perm hperm hnodup _,
    fun marker => replaceDocs_drifts_perm hperm hnodup _ _ marker swift, fun h h' => ?_⟩
  obtain ⟨hmissing, -, hupdated, hskipped⟩ := h.eq_of_perm hperm hnodup h'
  exact ⟨hmissing, hupdated, hskipped⟩

/-- Two codes that are declared in the Swift text `twoDocumentedCodes`, and two that are not. -/
def fourCodes : List StatusCode :=
  [⟨"OK", 0, "Fine.", false⟩, ⟨"BUSY", 12, "Wait.", false⟩, ⟨"NEW", 7, [], false⟩,
    ⟨"LATE", 3, [], false⟩]

/-- A Swift text with two declarations and their mappings. -/
def twoDocumentedCodes : Text :=
  ("    /// Done.\n    case ok  // = 0\n    case busy  // = 12\n" ++
    "        case 0: self = .ok\n        case 12: self = .busy").toList

/-- Of four codes two have drifted, in the order in which they are listed, and two are missing. -/
theorem result_perm_reversed : fourCodes.Perm fourCodes.reverse ∧
    (fourCodes.map (·.number)).Nodup ∧
    (StatusSettings.default.driftsIn fourCodes twoDocumentedCodes).map (·.code.number) = [0, 12] ∧
    (StatusSettings.default.driftsIn fourCodes.reverse twoDocumentedCodes).map (·.code.number) =
      [12, 0] ∧
    missingCodes fourCodes (ofSwift twoDocumentedCodes) ≠ [] ∧
    missingCodes fourCodes (ofSwift twoDocumentedCodes) =
      missingCodes fourCodes.reverse (ofSwift twoDocumentedCodes) ∧
    StatusSettings.default.updateDocs fourCodes twoDocumentedCodes =
      StatusSettings.default.updateDocs fourCodes.reverse twoDocumentedCodes := by
  obtain ⟨s, hs⟩ := StatusSettings.exists_ready
  have hperm : fourCodes.Perm fourCodes.reverse := by decide
  have hnodup : (fourCodes.map (·.number)).Nodup := by decide
  obtain ⟨hmissing, hdocs, -⟩ := s.result_perm twoDocumentedCodes hperm hnodup
  refine ⟨hperm, hnodup, by decide +kernel, by decide +kernel, fun hnil => ?_, hmissing, ?_⟩
  · exact absurd (missingCodes_eq_nil_iff.1 hnil ⟨"NEW", 7, [], false⟩ (by decide))
      (by decide +kernel)
  · have hdocs := hdocs StatusSettings.default.deprecatedMarker
    rwa [(StatusSync.usual_of_ready hs).settings] at hdocs

end ProtoUpkeep
