import ProtoUpkeep.Proofs.Status.Redoc

/-!
# The lines of declarations

`Declaration.onLines` walks down the lines and keeps those above at hand, the nearest one first, so
the declarations of a text are those of its single lines, each with all lines above it
(`Declaration.mem_onLines_iff`). The doc comment of a declaration is the longest run of doc comment
lines that ends above its case line (`Declaration.StandsIn`). A case line is no doc comment line, so
no run reaches over the case line above it.
-/

namespace ProtoUpkeep.Declaration

open Text

variable {marker l : Text} {ls above mid : List Text} {d : Declaration} {n : Nat}

/-- The declarations on lines are those of the single lines, each with all lines above it. -/
theorem mem_onLines_iff : d ∈ onLines marker above n ls ↔ ∃ mid l below, ls = mid ++ l :: below ∧
    onLine? marker (mid.reverse ++ above) (n + mid.length) l = some d := by
  induction ls generalizing above n with
  | nil => simp [onLines]
  | cons k ls ih =>
    rw [onLines, List.mem_append, Option.mem_toList, ih]
    constructor
    · rintro (hfirst | ⟨mid, l, below, rfl, hd⟩)
      · exact ⟨[], k, ls, rfl, hfirst⟩
      · refine ⟨k :: mid, l, below, rfl, ?_⟩
        rw [List.reverse_cons, List.append_assoc, List.length_cons, Nat.add_comm mid.length,
          ← Nat.add_assoc]
        exact hd
    · rintro ⟨mid, l, below, hls, hd⟩
      cases mid with
      | nil =>
        cases hls
        exact .inl hd
      | cons k' mid =>
        cases hls
        refine .inr ⟨mid, l, below, rfl, ?_⟩
        rw [List.reverse_cons, List.append_assoc, List.length_cons, Nat.add_comm mid.length,
          ← Nat.add_assoc] at hd
        exact hd

/-- The declarations of a text are those of its single lines. -/
theorem mem_ofSwift_iff {swift : Text} : d ∈ ofSwift marker swift ↔ ∃ mid l below,
    swift.lines = mid ++ l :: below ∧ onLine? marker mid.reverse mid.length l = some d := by
  rw [ofSwift, mem_onLines_iff]
  simp only [List.append_nil, Nat.zero_add]

/-- A declaration stands in lines: on a case line that declares it, below all the doc comment lines
that end there. -/
structure StandsIn (ls : List Text) (d : Declaration) : Prop where
  /-- The case line is one of the lines. -/
  caseLine_lt : d.caseLine < ls.length
  /-- It declares the case. -/
  declares : ls[d.caseLine]?.bind head? = some (d.identifier, d.number)
  /-- The first line is not below it. -/
  firstLine_le : d.firstLine ≤ d.caseLine
  /-- The lines from the first one up to the case line are doc comment lines. -/
  isDocLine : ∀ i l, d.firstLine ≤ i → i < d.caseLine → ls[i]? = some l → isDocLine l = true
  /-- The line above the first one is none. -/
  not_isDocLine : ∀ i l, i + 1 = d.firstLine → ls[i]? = some l → Declaration.isDocLine l = false

/-- Lines end with a run of lines of one kind, which no such line stands above. -/
theorem exists_run_above (p : Text → Bool) (mid : List Text) : ∃ up doc,
    mid = up ++ doc ∧ (mid.reverse.takeWhile p).length = doc.length ∧ (∀ k ∈ doc, p k = true) ∧
      ∀ k, up.getLast? = some k → p k = false := by
  refine ⟨(mid.reverse.dropWhile p).reverse, (mid.reverse.takeWhile p).reverse, ?_, ?_, ?_, ?_⟩
  · rw [← List.reverse_append, List.takeWhile_append_dropWhile, List.reverse_reverse]
  · rw [List.length_reverse]
  · exact fun k hk => List.mem_takeWhile_imp (List.mem_reverse.1 hk)
  · intro k hk
    have hhead := List.head?_dropWhile_not p mid.reverse
    rw [List.getLast?_reverse] at hk
    rw [hk] at hhead
    simpa using hhead

/-- The declaration of a line stands in the lines. -/
theorem standsIn_of_onLine? (h : onLine? marker mid.reverse mid.length l = some d)
    (below : List Text) : StandsIn (mid ++ l :: below) d ∧ d.caseLine = mid.length := by
  obtain ⟨up, doc, rfl, hlen, hdoc, habove⟩ := exists_run_above isDocLine mid
  rw [onLine?_eq, Option.map_eq_some_iff] at h
  obtain ⟨⟨identifier, number⟩, hhead, rfl⟩ := h
  have hfirst : (up ++ doc).length - ((up ++ doc).reverse.takeWhile isDocLine).length =
      up.length := by
    rw [hlen, List.length_append]
    omega
  refine ⟨⟨?_, ?_, ?_, fun i k hle hlt hk => ?_, fun i k hi hk => ?_⟩, rfl⟩
  · simp
  · simpa using hhead
  · exact Nat.sub_le _ _
  · simp only [hfirst] at hle
    rw [List.getElem?_append_left hlt, List.getElem?_append_right hle] at hk
    exact hdoc k (List.mem_of_getElem? hk)
  · simp only [hfirst] at hi
    refine habove k ?_
    rw [List.append_assoc, List.getElem?_append_left (by omega)] at hk
    rw [List.getLast?_eq_getElem?, ← hi, Nat.add_sub_cancel, hk]

/-- The declarations of a text are in ascending order, each stands in the lines with its whole doc
comment, no two have a line in common, and there is one on every line that declares a case. -/
theorem ofSwift_ranges (marker swift : Text) :
    ((ofSwift marker swift).map (·.caseLine)).Pairwise (· < ·) ∧
      (ofSwift marker swift).Pairwise (fun d d' => d.caseLine < d'.firstLine) ∧
      (∀ d ∈ ofSwift marker swift, StandsIn swift.lines d) ∧
      ∀ i l, swift.lines[i]? = some l →
        (Declares l ↔ ∃ d ∈ ofSwift marker swift, d.caseLine = i) := by
  have hstands : ∀ d ∈ ofSwift marker swift, StandsIn swift.lines d := by
    intro d hd
    obtain ⟨mid, l, below, hlines, hline⟩ := mem_ofSwift_iff.1 hd
    rw [hlines]
    exact (standsIn_of_onLine? hline below).1
  have habove := (pairwise_above_ofSwift marker swift).imp fun h => h.2
  refine ⟨?_, habove, hstands, fun i l hl => ⟨fun hdeclares => ?_, ?_⟩⟩
  · refine List.pairwise_map.2 (List.Pairwise.imp_of_mem (fun _ hd' hlt => ?_) habove)
    exact Nat.lt_of_lt_of_le hlt (hstands _ hd').firstLine_le
  · obtain ⟨mid, below, hlines, rfl⟩ : ∃ mid below,
        swift.lines = mid ++ l :: below ∧ mid.length = i := by
      obtain ⟨hlt, rfl⟩ := List.getElem?_eq_some_iff.1 hl
      refine ⟨swift.lines.take i, swift.lines.drop (i + 1), ?_, List.length_take_of_le hlt.le⟩
      rw [List.getElem_cons_drop hlt, List.take_append_drop]
    obtain ⟨head, hhead⟩ := Option.isSome_iff_exists.1 hdeclares
    obtain ⟨d, hline⟩ : ∃ d, onLine? marker mid.reverse mid.length l = some d := by
      rw [onLine?_eq, hhead]
      exact ⟨_, rfl⟩
    have hcaseLine := (standsIn_of_onLine? hline below).2
    exact ⟨d, mem_ofSwift_iff.2 ⟨mid, l, below, hlines, hline⟩, hcaseLine⟩
  · rintro ⟨d, hd, rfl⟩
    have hhead := (hstands d hd).declares
    rw [hl, Option.bind_some] at hhead
    rw [Declares, hhead]
    rfl

end ProtoUpkeep.Declaration
