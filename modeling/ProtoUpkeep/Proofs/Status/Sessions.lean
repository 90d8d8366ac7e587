import ProtoUpkeep.Proofs.Status.Coverage

/-!
# Sessions of runs

In a session each run starts from the text that the run before it has left. Which codes a run
inserts is read from the switch from raw values alone, while a section is skipped on its own
account. So two questions have answers with conditions. Does a section get the entry of a code
twice? Exactly if the first run skips the switch, inserts in another section, and leaves something
missing (`session_fills_at_most_once_iff`): then the second run inserts the same entries again. Does
a second run notice that the first one has skipped a section? Exactly if some number that was
missing is gained by none of the sections that the first run did not skip
(`inSync_after_partial_iff`).
-/

namespace ProtoUpkeep

open Text RawValues

variable {s : StatusSync} {proto swift : Text} {codes : List StatusCode} {p q : Plan}
  {plans : List Plan} {sec : Section} {c : StatusCode}

/-- The run inserts the entry of the code in the section. -/
def Plan.Fills (p : Plan) (sec : Section) (c : StatusCode) : Prop := c ∈ p.missing ∧ sec ∉ p.skipped

/-- The plans of runs in a row, the first from the given Swift text. -/
inductive Session (s : StatusSync) (proto : Text) : (swift : Text) → List Plan → Prop
  /-- No run. -/
  | nil {swift : Text} : Session s proto swift []
  /-- A run and the runs from its result. -/
  | cons {swift : Text} {p : Plan} {plans : List Plan} (run : s.plan proto swift false = .ok p)
      (rest : Session s proto p.updated plans) : Session s proto swift (p :: plans)

/-! ## One run after another -/

/-- A section that a run with missing codes does not skip has its landmark after the run. -/
theorem StatusSync.Planned.landmark_updated (hs : s.Usual)
    (h : s.Planned proto swift false codes p) (hne : p.missing ≠ []) (hskip : sec ∉ p.skipped) :
    sec.landmark <:+: p.updated := by
  have heq := h.insertSections_eq hs hne
  obtain ⟨t₁, t₂, -, ⟨before, rest, hcut, rfl⟩, hgrown⟩ :=
    inserted_of_not_skipped hs.points (t := swift) sec.mem_all (by rw [heq]; exact hskip)
  rw [heq] at hgrown
  refine hgrown.landmark ((prefix_of_cutAt hcut).isInfix.trans ?_)
  exact (List.suffix_append (before ++ (Style.default.fragments p.missing).get sec ++ ['\n'])
    rest).isInfix.trans (by simp)

/-- A run that skips every section leaves the text as it is. -/
theorem StatusSync.Planned.updated_of_all_skipped (hs : s.Usual)
    (h : s.Planned proto swift false codes p) (hall : ∀ sec, sec ∈ p.skipped) :
    p.updated = swift := by
  by_cases hnil : p.missing = []
  · exact (h.of_missing_eq_nil hnil).1
  · have heq := h.insertSections_eq hs hnil
    have hnodup : Section.all.Nodup := by decide
    have hsame := insertSections_of_all_skipped (f := Style.default.fragments p.missing)
      (t := swift) hs.points hnodup fun sec _ => by rw [heq]; exact hall sec
    rwa [heq] at hsame

/-- What a later run lacks the run before it lacked. -/
theorem StatusSync.Planned.missing_of_next (hs : s.Usual) (h : s.Planned proto swift false codes p)
    (hq : s.Planned proto p.updated false codes q) (hc : c ∈ q.missing) : c ∈ p.missing := by
  rw [hq.missing, mem_missingCodes] at hc
  rw [h.missing, mem_missingCodes]
  exact ⟨hc.1, fun hn => hc.2 (h.mem_ofSwift_updated hs hn)⟩

/-- Every code is mapped by a text of which a run finds nothing missing. -/
theorem StatusSync.Planned.number_mem_of_missing_eq_nil
    (h : s.Planned proto swift false codes p) (hnil : p.missing = []) :
    ∀ c ∈ codes, c.number ∈ ofSwift swift :=
  missingCodes_eq_nil_iff.1 (h.missing ▸ hnil)

/-- Where a text maps every code no run of a session has anything to insert. -/
theorem Session.missing_eq_nil (h : Session s proto swift plans)
    (hread : StatusCode.ofProto? s.settings.enumName proto = some codes)
    (hall : ∀ c ∈ codes, c.number ∈ ofSwift swift) : ∀ p ∈ plans, p.missing = [] := by
  induction h with
  | nil => simp
  | @cons swift p plans hrun hrest ih =>
    obtain ⟨codes', hp⟩ := StatusSync.planned_of_plan hrun
    obtain rfl : codes = codes' := Option.some.inj (hread.symm.trans hp.read)
    have hnil : p.missing = [] := by
      rw [hp.missing]
      exact missingCodes_eq_nil_iff.2 hall
    have hrest := ih (by rwa [(hp.of_missing_eq_nil hnil).1])
    intro r hr
    rcases List.mem_cons.1 hr with rfl | hr
    · exact hnil
    · exact hrest r hr

/-- Where a run skips every section, so do all runs after it. -/
theorem Session.all_skipped (h : Session s proto swift plans) (hs : s.Usual)
    (hp : s.plan proto swift false = .ok p) (hall : ∀ sec, sec ∈ p.skipped) :
    ∀ q ∈ plans, ∀ sec, sec ∈ q.skipped := by
  induction h with
  | nil => simp
  | @cons swift r plans hrun hrest ih =>
    obtain rfl : p = r := Except.ok.inj (hp.symm.trans hrun)
    obtain ⟨codes, hplanned⟩ := StatusSync.planned_of_plan hp
    have hsame := hplanned.updated_of_all_skipped hs hall
    intro q hq
    rcases List.mem_cons.1 hq with rfl | hq
    · exact hall
    · exact ih (by rwa [hsame]) q hq

/-- There is a session of every length, if the proto file has the enum. -/
theorem exists_session (hread : StatusCode.ofProto? s.settings.enumName proto = some codes)
    (swift : Text) (n : Nat) : ∃ plans, Session s proto swift plans ∧ plans.length = n := by
  induction n generalizing swift with
  | zero => exact ⟨[], .nil, rfl⟩
  | succ n ih =>
    obtain ⟨p, hp, -⟩ := StatusSync.exists_plan hread swift false
    obtain ⟨plans, hplans, hlen⟩ := ih p.updated
    exact ⟨p :: plans, .cons hp hplans, by simp [hlen]⟩

/-- Over a session no section gets the entry of a code twice, exactly if the first run inserts in
the switch from raw values, or in no section, or leaves nothing missing for the second run. -/
theorem session_fills_at_most_once_iff (hs : StatusSettings.default.ready = .ok s)
    (hread : StatusCode.ofProto? s.settings.enumName proto = some codes)
    (hplain : ∀ c ∈ codes, c.Plain) (h : Session s proto swift plans) :
    (plans.Pairwise fun p q => ∀ sec c, ¬ (p.Fills sec c ∧ q.Fills sec c)) ↔
      ∀ p q rest, plans = p :: q :: rest → .initCases ∈ p.skipped → (∃ sec, sec ∉ p.skipped) →
        q.missing = [] := by
  have hs := StatusSync.usual_of_ready hs
  have hplanned : ∀ {swift p}, s.plan proto swift false = .ok p →
      s.Planned proto swift false codes p := by
    intro swift p hp
    obtain ⟨codes', hplanned⟩ := StatusSync.planned_of_plan hp
    obtain rfl : codes = codes' := Option.some.inj (hread.symm.trans hplanned.read)
    exact hplanned
  have hempty : ∀ {ps : List Plan}, (∀ p ∈ ps, p.missing = []) →
      ps.Pairwise fun p q => ∀ sec c, ¬ (p.Fills sec c ∧ q.Fills sec c) := by
    intro ps hps
    refine List.pairwise_of_forall_mem_list fun p hp q hq sec c hfills => ?_
    have hmem := hfills.1.1
    rw [hps p hp] at hmem
    cases hmem
  cases h with
  | nil => simp
  | @cons _ p plans hp hrest =>
  have hpp := hplanned hp
  constructor
  · rintro hpairwise p' q rest heq hinit ⟨sec, hsec⟩
    obtain ⟨rfl, rfl⟩ := List.cons.inj heq
    cases hrest with
    | @cons _ q plans hq hrest =>
    have hqq := hplanned hq
    rw [List.eq_nil_iff_forall_not_mem]
    intro c hc
    have hcp := hpp.missing_of_next hs hqq hc
    have hocc := hpp.landmark_updated hs (List.ne_nil_of_mem hcp) hsec
    have hfirst := (List.pairwise_cons.1 hpairwise).1 q (by simp) sec c
    exact hfirst ⟨⟨hcp, hsec⟩, hc, hqq.not_skipped hs hocc⟩
  · intro hcond
    have hhead : (∀ q ∈ plans, q.missing = []) ∨ ∀ sec, sec ∈ p.skipped := by
      by_cases hinit : .initCases ∈ p.skipped
      · by_cases hall : ∀ sec, sec ∈ p.skipped
        · exact .inr hall
        · left
          rw [not_forall] at hall
          cases hrest with
          | nil => simp
          | @cons _ q plans hq hrest =>
            have hnil := hcond p q plans rfl hinit hall
            exact Session.missing_eq_nil (.cons hq hrest) hread
              ((hplanned hq).number_mem_of_missing_eq_nil hnil)
      · exact .inl (hrest.missing_eq_nil hread (hpp.number_mem hs hplain hinit))
    rcases hhead with hnil | hall
    · refine List.pairwise_cons.2 ⟨fun q hq sec c hfills => ?_, hempty hnil⟩
      have hmem := hfills.2.1
      rw [hnil q hq] at hmem
      cases hmem
    · have hskip := Session.all_skipped (.cons hp hrest) hs hp hall
      refine List.pairwise_of_forall_mem_list fun p' hp' q hq sec c hfills => ?_
      exact hfills.1.2 (hskip p' hp' sec)

/-- The condition can be asked of two runs that insert in the switch from raw values. -/
theorem session_fills_once_in_switch : ∃ s codes plans, StatusSettings.default.ready = .ok s ∧
    StatusCode.ofProto? s.settings.enumName oneCode = some codes ∧ (∀ c ∈ codes, c.Plain) ∧
    plans.length = 2 ∧ Session s oneCode Section.initCases.landmark plans ∧
    ((plans.Pairwise fun p q => ∀ sec c, ¬ (p.Fills sec c ∧ q.Fills sec c)) ↔
      ∀ p q rest, plans = p :: q :: rest → .initCases ∈ p.skipped → (∃ sec, sec ∉ p.skipped) →
        q.missing = []) := by
  obtain ⟨s, hs⟩ := StatusSettings.exists_ready
  have hread : StatusCode.ofProto? s.settings.enumName oneCode = some [⟨"OK", 22, [], false⟩] := by
    rw [(StatusSync.usual_of_ready hs).settings]
    decide +kernel
  have hplain : ∀ c ∈ [(⟨"OK", 22, [], false⟩ : StatusCode)], c.Plain := by decide
  obtain ⟨plans, hplans, hlength⟩ := exists_session hread Section.initCases.landmark 2
  exact ⟨s, _, plans, hs, hread, hplain, hlength, hplans,
    session_fills_at_most_once_iff hs hread hplain hplans⟩

/-- Where the switch from raw values is skipped, a second run inserts the same entry in the switch
to raw values again. -/
theorem session_fills_twice : ∃ s codes p q, StatusSettings.default.ready = .ok s ∧
    StatusCode.ofProto? s.settings.enumName oneCode = some codes ∧
    (codes.map (·.number)).Nodup ∧ (∀ c ∈ codes, c.Plain) ∧
    Session s oneCode Section.rawValueCases.landmark [p, q] ∧
    ∃ sec, ∃ c ∈ codes, p.Fills sec c ∧ q.Fills sec c := by
  obtain ⟨s, p, hs, hread, hp, hplanned, hmissing, -, hupdated, -⟩ :=
    exists_run_of_missing_one oneCode Section.rawValueCases.landmark false
      [⟨"OK", 22, [], false⟩] ⟨"OK", 22, [], false⟩ (by decide +kernel) (by decide +kernel)
      (by simp)
  obtain ⟨q, hq, hqplanned⟩ := StatusSync.exists_plan hread p.updated false
  have husual := StatusSync.usual_of_ready hs
  have hqmissing : q.missing = [⟨"OK", 22, [], false⟩] := by
    rw [hqplanned.missing, hupdated]
    exact missingCodes_eq_singleton (by decide +kernel)
  have hskip : .rawValueCases ∉ p.skipped := hplanned.not_skipped husual List.infix_rfl
  have hqskip : .rawValueCases ∉ q.skipped :=
    hqplanned.not_skipped husual (hplanned.landmark_updated husual (by simp [hmissing]) hskip)
  refine ⟨s, _, p, q, hs, hread, by decide, by decide, .cons hp (.cons hq .nil), .rawValueCases, _,
    List.mem_singleton_self _, ⟨?_, hskip⟩, ?_, hqskip⟩
  · rw [hmissing]
    exact List.mem_singleton_self _
  · rw [hqmissing]
    exact List.mem_singleton_self _

/-- After a run that skips a section, a second run reports that everything is in step exactly if
each number that was missing is gained by a section that was not skipped. -/
theorem inSync_after_partial_iff (hs : StatusSettings.default.ready = .ok s)
    (hp : s.plan proto swift false = .ok p) (hskip : p.skipped ≠ []) :
    ∃ q, s.plan proto p.updated false = .ok q ∧ (q.inSync = true ↔
      ∀ c ∈ p.missing, ∃ sec, sec ∉ p.skipped ∧ Gains p.missing swift sec c.number) := by
  have hs := StatusSync.usual_of_ready hs
  obtain ⟨codes, hplanned⟩ := StatusSync.planned_of_plan hp
  obtain ⟨q, hq, hqplanned⟩ := StatusSync.exists_plan hplanned.read p.updated false
  refine ⟨q, hq, ?_⟩
  have hne := hplanned.missing_ne_nil hskip
  have hsync : q.inSync = true ↔ ∀ c ∈ codes, c.number ∈ ofSwift p.updated := by
    rw [Plan.inSync, hqplanned.drifts, ← missingCodes_eq_nil_iff, ← hqplanned.missing]
    simp
  rw [hsync]
  constructor
  · intro hall c hc
    rw [hplanned.missing, mem_missingCodes] at hc
    exact ((hplanned.mem_ofSwift_iff hs hne).1 (hall c hc.1)).resolve_left hc.2
  · intro hgains c hc
    rw [hplanned.mem_ofSwift_iff hs hne]
    by_cases hmapped : c.number ∈ ofSwift swift
    · exact .inl hmapped
    · refine .inr (hgains c ?_)
      rw [hplanned.missing]
      exact mem_missingCodes.2 ⟨hc, hmapped⟩

/-- The condition can be asked of a run that inserts in the switch to raw values alone. -/
theorem inSync_after_one_section : ∃ s p, StatusSettings.default.ready = .ok s ∧
    s.plan oneCode Section.rawValueCases.landmark false = .ok p ∧ p.skipped ≠ [] ∧
    ∃ q, s.plan oneCode p.updated false = .ok q ∧ (q.inSync = true ↔
      ∀ c ∈ p.missing, ∃ sec, sec ∉ p.skipped ∧
        Gains p.missing Section.rawValueCases.landmark sec c.number) := by
  obtain ⟨s, p, hs, -, hp, -, -, -, -, hskipped⟩ :=
    exists_run_of_missing_one oneCode Section.rawValueCases.landmark false
      [⟨"OK", 22, [], false⟩] ⟨"OK", 22, [], false⟩ (by decide +kernel) (by decide +kernel)
      (by simp)
  have hskip : p.skipped ≠ [] := by
    rw [hskipped]
    decide +kernel
  exact ⟨s, p, hs, hp, hskip, inSync_after_partial_iff hs hp hskip⟩

/-- After a run that inserts in the switch from raw values alone, a second run reports that
everything is in step. -/
theorem inSync_after_skipped_sections : ∃ s p q, StatusSettings.default.ready = .ok s ∧
    s.plan oneCode Section.initCases.landmark false = .ok p ∧ p.skipped ≠ [] ∧
    s.plan oneCode p.updated false = .ok q ∧ q.inSync = true := by
  have hplain : ∀ c ∈ [(⟨"OK", 22, [], false⟩ : StatusCode)], c.Plain := by decide
  obtain ⟨s, p, hs, hread, hp, hplanned, hmissing, -, -, hskipped⟩ :=
    exists_run_of_missing_one oneCode Section.initCases.landmark false
      [⟨"OK", 22, [], false⟩] ⟨"OK", 22, [], false⟩ (by decide +kernel) (by decide +kernel)
      (by simp)
  have husual := StatusSync.usual_of_ready hs
  obtain ⟨q, hq, hqplanned⟩ := StatusSync.exists_plan hread p.updated false
  have hskip : p.skipped ≠ [] := by
    rw [hskipped]
    decide +kernel
  have hinit : .initCases ∉ p.skipped := hplanned.not_skipped husual List.infix_rfl
  have hqmissing : q.missing = [] := by
    rw [hqplanned.missing]
    exact missingCodes_eq_nil_iff.2 (hplanned.number_mem husual hplain hinit)
  refine ⟨s, p, q, hs, hp, hskip, hq, ?_⟩
  rw [Plan.inSync, hqmissing, hqplanned.drifts]
  rfl

end ProtoUpkeep
