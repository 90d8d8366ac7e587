import ProtoUpkeep.Proofs.Status.Insertion

/-!
# What a plan covers

The codes that a plan lacks are those whose numbers the Swift text does not map, so the question
after a run is which numbers its result maps. Nothing that was mapped is lost
(`mem_ofSwift_updated`), whatever stands in the Swift text and in the comments of the codes. If the
section of the switch from raw values was not skipped and the names are plain ASCII, every code is
mapped, and a second run finds nothing missing (`missing_eq_nil_of_updated`).
-/

namespace ProtoUpkeep

open Text RawValues

variable {s : StatusSync} {proto swift t : Text} {codes missing : List StatusCode} {p q : Plan}
  {upd : Bool} {n : Int} {c : StatusCode}

/-! ## The parts of a plan -/

/-- What a plan was made of. -/
structure StatusSync.Planned (s : StatusSync) (proto swift : Text) (upd : Bool)
    (codes : List StatusCode) (p : Plan) : Prop where
  /-- The codes are those of the proto file. -/
  read : StatusCode.ofProto? s.settings.enumName proto = some codes
  /-- The codes that the Swift text lacks. -/
  missing : p.missing = missingCodes codes (ofSwift swift)
  /-- The doc comments that have drifted. -/
  drifts : p.drifts = if upd then
    ProtoUpkeep.drifts codes (ofSwift swift)
      (Declaration.ofSwift s.settings.deprecatedMarker swift) else []
  /-- The Swift text after the run, and the sections left alone. -/
  result : s.withCodes p.missing (s.withDocs p.drifts swift) = (p.updated, p.skipped)

/-- A plan that was made has its parts from the two texts. -/
theorem StatusSync.planned_of_plan (h : s.plan proto swift upd = .ok p) :
    ∃ codes, s.Planned proto swift upd codes p := by
  unfold plan at h
  split at h
  · cases h
  · next codes hcodes =>
    cases h
    exact ⟨codes, hcodes, rfl, rfl, rfl⟩

/-- Where the proto file has the enum, a plan is made. -/
theorem StatusSync.exists_plan (h : StatusCode.ofProto? s.settings.enumName proto = some codes)
    (swift : Text) (upd : Bool) :
    ∃ p, s.plan proto swift upd = .ok p ∧ s.Planned proto swift upd codes p := by
  unfold plan
  rw [h]
  exact ⟨_, rfl, h, rfl, rfl, rfl⟩

/-- The missing codes are those whose numbers are not mapped. -/
theorem mem_missingCodes {mapped : RawValues} :
    c ∈ missingCodes codes mapped ↔ c ∈ codes ∧ c.number ∉ mapped := by
  rw [missingCodes, List.mem_mergeSort, List.mem_filter, Bool.not_eq_true',
    ← Bool.not_eq_true, Std.TreeMap.contains_iff_mem]

/-- Nothing is missing if every number is mapped. -/
theorem missingCodes_eq_nil_iff {mapped : RawValues} :
    missingCodes codes mapped = [] ↔ ∀ c ∈ codes, c.number ∈ mapped := by
  rw [List.eq_nil_iff_forall_not_mem]
  simp only [mem_missingCodes, not_and, not_not]

/-- A single code whose number is not mapped needs no sorting. -/
theorem missingCodes_eq_singleton {mapped : RawValues}
    (h : (codes.filter fun c => !mapped.contains c.number) = [c]) :
    missingCodes codes mapped = [c] := by
  rw [missingCodes, h, List.mergeSort_singleton]

/-- The missing codes of a plan are well read. -/
theorem StatusSync.Planned.wellRead (h : s.Planned proto swift upd codes p) :
    ∀ c ∈ p.missing, c.WellRead := by
  intro c hc
  rw [h.missing, mem_missingCodes] at hc
  exact StatusCode.wellRead_of_ofProto? h.read c hc.1

/-- Where codes are missing, their fragments are inserted. -/
theorem StatusSync.Usual.withCodes_of_ne_nil (hs : s.Usual) (hne : missing ≠ []) (t : Text) :
    s.withCodes missing t =
      insertSections s.points (Style.default.fragments missing) Section.all t := by
  rw [withCodes, if_neg (by simpa using hne), hs.settings]
  rfl

/-- Where no code is missing, nothing is inserted and nothing skipped. -/
theorem StatusSync.withCodes_nil (s : StatusSync) (t : Text) : s.withCodes [] t = (t, []) := rfl

/-- A run under the default settings, with one missing code and no doc comment that has drifted: its
result is that of inserting the fragments of the code at the landmarks. -/
theorem exists_run_of_missing_one (proto swift : Text) (upd : Bool) (codes : List StatusCode)
    (c : StatusCode)
    (hread : StatusCode.ofProto? StatusSettings.default.enumName proto = some codes)
    (hone : (codes.filter fun c => !(ofSwift swift).contains c.number) = [c])
    (hdrifts : upd = true →
      drifts codes (ofSwift swift) (Declaration.ofSwift "[Deprecated]" swift) = []) :
    ∃ s p, StatusSettings.default.ready = .ok s ∧
      StatusCode.ofProto? s.settings.enumName proto = some codes ∧
      s.plan proto swift upd = .ok p ∧ s.Planned proto swift upd codes p ∧
      p.missing = [c] ∧ p.drifts = [] ∧
      p.updated =
        (insertSections Section.landmarks (Style.default.fragments [c]) Section.all swift).1 ∧
      p.skipped =
        (insertSections Section.landmarks (Style.default.fragments [c]) Section.all swift).2 := by
  obtain ⟨s, hs⟩ := StatusSettings.exists_ready
  have husual := StatusSync.usual_of_ready hs
  have hread : StatusCode.ofProto? s.settings.enumName proto = some codes := by
    rw [husual.settings]
    exact hread
  obtain ⟨p, hp, hplanned⟩ := StatusSync.exists_plan hread swift upd
  have hmissing : p.missing = [c] := by
    rw [hplanned.missing]
    exact missingCodes_eq_singleton hone
  have hnone : p.drifts = [] := by
    have hmarker : StatusSettings.default.deprecatedMarker = "[Deprecated]".toList := rfl
    rw [hplanned.drifts, husual.settings, hmarker]
    split
    · next hupd => exact hdrifts hupd
    · rfl
  have hresult : s.withCodes [c] swift = (p.updated, p.skipped) := by
    rw [← hmissing, ← hplanned.result, hnone]
    rfl
  rw [husual.withCodes_of_ne_nil (by simp), insertSections_eq_landmarks husual.points] at hresult
  exact ⟨s, p, hs, hread, hp, hplanned, hmissing, hnone, by rw [hresult], by rw [hresult]⟩

/-! ## Without looking at comments -/

/-- A plan that leaves doc comments alone changes the text by insertions only. -/
theorem StatusSync.Planned.result_of_not (h : s.Planned proto swift false codes p) :
    s.withCodes p.missing swift = (p.updated, p.skipped) := by
  have hresult := h.result
  rw [h.drifts] at hresult
  exact hresult

/-- Where nothing is missing, a plan that leaves doc comments alone changes nothing. -/
theorem StatusSync.Planned.of_missing_eq_nil (h : s.Planned proto swift false codes p)
    (hnil : p.missing = []) : p.updated = swift ∧ p.skipped = [] := by
  have hresult := h.result_of_not
  rw [hnil, withCodes_nil, Prod.mk.injEq] at hresult
  exact ⟨hresult.1.symm, hresult.2.symm⟩

/-- A plan that skips a section has missing codes. -/
theorem StatusSync.Planned.missing_ne_nil (h : s.Planned proto swift false codes p)
    (hskip : p.skipped ≠ []) : p.missing ≠ [] := fun hnil => hskip (h.of_missing_eq_nil hnil).2

/-- The run of insertions that a plan with missing codes is. -/
theorem StatusSync.Planned.insertSections_eq (hs : s.Usual)
    (h : s.Planned proto swift false codes p) (hne : p.missing ≠ []) :
    insertSections s.points (Style.default.fragments p.missing) Section.all swift =
      (p.updated, p.skipped) := by
  rw [← hs.withCodes_of_ne_nil hne, h.result_of_not]

/-- The result of a plan is the text after some insertions. -/
theorem StatusSync.Planned.grown (hs : s.Usual) (h : s.Planned proto swift false codes p) :
    Grown (Style.default.fragments p.missing) swift p.updated := by
  by_cases hnil : p.missing = []
  · rw [(h.of_missing_eq_nil hnil).1]
    exact .refl
  · have hgrown := grown_insertSections (f := Style.default.fragments p.missing) hs.points
      Section.all swift
    rwa [h.insertSections_eq hs hnil] at hgrown

/-- Every raw value that the Swift text maps is mapped after the run. -/
theorem StatusSync.Planned.mem_ofSwift_updated (hs : s.Usual)
    (h : s.Planned proto swift false codes p) (hn : n ∈ ofSwift swift) : n ∈ ofSwift p.updated := by
  by_cases hnil : p.missing = []
  · rwa [(h.of_missing_eq_nil hnil).1]
  · exact (h.grown hs).mem_ofSwift (head?_any_fragments h.wellRead hnil) hn

/-- What is mapped after the run: what the Swift text maps, and what the sections gain. -/
theorem StatusSync.Planned.mem_ofSwift_iff (hs : s.Usual)
    (h : s.Planned proto swift false codes p) (hne : p.missing ≠ []) :
    n ∈ ofSwift p.updated ↔ n ∈ ofSwift swift ∨
      ∃ sec, sec ∉ p.skipped ∧ Gains p.missing swift sec n := by
  have hnodup : Section.all.Nodup := by decide
  have hmem := mem_ofSwift_insertSections (n := n) (t := swift) h.wellRead hne hs.points hnodup
  rw [h.insertSections_eq hs hne] at hmem
  simpa [Section.mem_all] using hmem

/-- A section whose landmark occurs is not skipped. -/
theorem StatusSync.Planned.not_skipped (hs : s.Usual) (h : s.Planned proto swift false codes p)
    (hocc : sec.landmark <:+: swift) : sec ∉ p.skipped := by
  by_cases hnil : p.missing = []
  · simp [(h.of_missing_eq_nil hnil).2]
  · intro hskip
    have heq := h.insertSections_eq hs hnil
    exact not_landmark_of_skipped hs.points (by rw [heq]; exact hskip) hocc

/-- With plain names the run maps every code, if the switch from raw values was not skipped. -/
theorem StatusSync.Planned.number_mem (hs : s.Usual) (h : s.Planned proto swift false codes p)
    (hplain : ∀ c ∈ codes, c.Plain) (hinit : .initCases ∉ p.skipped) :
    ∀ c ∈ codes, c.number ∈ ofSwift p.updated := by
  intro c hc
  by_cases hmapped : c.number ∈ ofSwift swift
  · exact h.mem_ofSwift_updated hs hmapped
  · have hmissing : c ∈ p.missing := by
      rw [h.missing]
      exact mem_missingCodes.2 ⟨hc, hmapped⟩
    have hword := (hplain c hc).isWord_of_mem_name (h.wellRead c hmissing).isWord
    obtain ⟨d, name, hname⟩ := List.exists_cons_of_ne_nil (hplain c hc).name_ne_nil
    refine (h.mem_ofSwift_iff hs (List.ne_nil_of_mem hmissing)).2
      (.inr ⟨.initCases, hinit, c, hmissing, rfl, ?_⟩)
    have hhead : Style.default.name c = d :: name := hname
    rw [hhead]
    exact hword d (by rw [hname]; simp)

/-- Everything that was mapped stays mapped, every code is mapped, and a second run finds nothing
missing: with plain names, if the switch from raw values was not skipped. -/
theorem StatusSync.plan_covers (hs : StatusSettings.default.ready = .ok s)
    (hcodes : StatusCode.ofProto? s.settings.enumName proto = some codes)
    (hplain : ∀ c ∈ codes, c.Plain) (h : s.plan proto swift false = .ok p)
    (hinit : .initCases ∉ p.skipped) :
    (∀ n ∈ ofSwift swift, n ∈ ofSwift p.updated) ∧
      (∀ c ∈ codes, c.number ∈ ofSwift p.updated) ∧
      ∃ q, s.plan proto p.updated false = .ok q ∧ q.missing = [] := by
  have hs := usual_of_ready hs
  obtain ⟨codes', hplanned⟩ := planned_of_plan h
  obtain rfl : codes = codes' := Option.some.inj (hcodes.symm.trans hplanned.read)
  have hnumbers := hplanned.number_mem hs hplain hinit
  obtain ⟨q, hq, hqplanned⟩ := exists_plan hcodes p.updated false
  refine ⟨fun n hn => hplanned.mem_ofSwift_updated hs hn, hnumbers, q, hq, ?_⟩
  rw [hqplanned.missing]
  exact missingCodes_eq_nil_iff.2 hnumbers

/-- A proto text with one code. -/
def oneCode : Text := "enum ResponseCodeEnum \x7b\nOK = 22;\n\x7d"

/-- A new code is covered where the landmark of the switch from raw values occurs. -/
theorem plan_covers_new_code : ∃ s codes p, StatusSettings.default.ready = .ok s ∧
    StatusCode.ofProto? s.settings.enumName oneCode = some codes ∧ (∀ c ∈ codes, c.Plain) ∧
    s.plan oneCode Section.initCases.landmark false = .ok p ∧ .initCases ∉ p.skipped ∧
    p.missing ≠ [] ∧
    (∀ n ∈ ofSwift Section.initCases.landmark, n ∈ ofSwift p.updated) ∧
    (∀ c ∈ codes, c.number ∈ ofSwift p.updated) ∧
    ∃ q, s.plan oneCode p.updated false = .ok q ∧ q.missing = [] := by
  have hplain : ∀ c ∈ [(⟨"OK", 22, [], false⟩ : StatusCode)], c.Plain := by decide
  obtain ⟨s, p, hs, hread, hp, hplanned, hmissing, -⟩ :=
    exists_run_of_missing_one oneCode Section.initCases.landmark false
      [⟨"OK", 22, [], false⟩] ⟨"OK", 22, [], false⟩ (by decide +kernel) (by decide +kernel)
      (by simp)
  have hinit : .initCases ∉ p.skipped :=
    hplanned.not_skipped (StatusSync.usual_of_ready hs) List.infix_rfl
  exact ⟨s, _, p, hs, hread, hplain, hp, hinit, by simp [hmissing],
    StatusSync.plan_covers hs hread hplain hp hinit⟩

end ProtoUpkeep
