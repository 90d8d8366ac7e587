import ProtoUpkeep.Proofs.Status.Coverage
import ProtoUpkeep.Proofs.Status.RedocText

/-!
# A second run over the doc comments

A run that looks at the doc comments replaces those that have drifted and then inserts what is
missing. Does a second run find a doc comment that has drifted? The insertions add what the missing
codes say at the landmark of the declarations and nothing else (`sayings_insertSections`). A code
has drifted if the last declaration of its number says something else, so what stands behind the
landmark has the last word (`lastSaid_append`). With that a second run finds nothing
(`comment_sync_settles`), unless what the first run wrote is not read as it was written.
-/

namespace ProtoUpkeep

open Text Declaration Piece

variable {codes : List StatusCode} {t t' : Text}

/-! ## What the text says behind the insertions -/

/-- Where no section is skipped, each of them gets its fragment. -/
theorem exists_inserted_of_skipped_nil {points : PerSection InsertionPoint} {f : PerSection Text}
    {sec : Section} {secs : List Section} (hp : AtLandmarks points)
    (h : insertSections points f (sec :: secs) t = (t', [])) :
    ∃ t₁, Inserted sec (f.get sec) t t₁ ∧ insertSections points f secs t₁ = (t', []) := by
  rw [insertSections] at h
  cases hat : insertAt (points.get sec) (f.get sec) t with
  | none =>
    rw [hat] at h
    cases h
  | some t₁ =>
    rw [hat] at h
    exact ⟨t₁, (insertAt_eq_some_iff hp).1 hat, h⟩

/-- The insertions in all sections add what the codes say at the landmark of the declarations. -/
theorem sayings_insertSections {points : PerSection InsertionPoint} (hp : AtLandmarks points)
    (hcodes : ∀ c ∈ codes, c.WellRead ∧ c.Plain ∧ c.Unmarked) (hne : codes ≠ [])
    (hfree : ∀ c ∈ codes, SwitchFree c.comment) (hclean : Clean t)
    (hopen : ∀ before rest, Text.cutAt Section.caseDeclarations.landmark t = some (before, rest) →
      OpensLine before)
    (h : insertSections points (Style.default.fragments codes) Section.all t = (t', [])) :
    ∃ before rest, Text.cutAt Section.caseDeclarations.landmark t = some (before, rest) ∧
      sayings t'.lines =
        sayings before.lines ++ (codes.map StatusCode.saying ++ sayings rest.lines) := by
  have hread : ∀ c ∈ codes, c.WellRead := fun c hc => (hcodes c hc).1
  obtain ⟨t₁, h₁, h⟩ := exists_inserted_of_skipped_nil hp h
  obtain ⟨t₂, h₂, h⟩ := exists_inserted_of_skipped_nil hp h
  obtain ⟨t₃, h₃, h⟩ := exists_inserted_of_skipped_nil hp h
  obtain ⟨t₄, h₄, h⟩ := exists_inserted_of_skipped_nil hp h
  obtain ⟨t₅, h₅, h⟩ := exists_inserted_of_skipped_nil hp h
  obtain rfl : t₅ = t' := (Prod.mk.inj h).1
  obtain ⟨before, rest, hcut, hsay, hclean₁⟩ := h₁.sayings_declarations hcodes hne hopen
  have hclean₁ := hclean₁ hclean hfree
  have hclean₂ := h₂.clean hread hne (by decide) hclean₁
  refine ⟨before, rest, hcut, ?_⟩
  rw [h₅.sayings_eq hread hne (by decide) (fun hsec => absurd hsec (by decide)),
    h₄.sayings_eq hread hne (by decide) (fun hsec => absurd hsec (by decide)),
    h₃.sayings_eq hread hne (by decide) (fun _ => hclean₂),
    h₂.sayings_eq hread hne (by decide) (fun _ => hclean₁), hsay]

/-! ## The last word on a number -/

/-- What the last declaration of a number says. -/
def lastSaid (es : List Saying) (k : Int) : Option Saying := es.reverse.find? (·.number == k)

/-- The declaration says of a code what the proto file says of it. -/
def Piece.Saying.Agrees (e : Saying) (c : StatusCode) : Prop :=
  c.comment.trim = e.comment.trim ∧ c.deprecated = e.deprecated

/-- A declaration differs from a code if it does not agree with it. -/
theorem differs_eq_false_iff {d : Declaration} {c : StatusCode} :
    d.differs c = false ↔ (said d).Agrees c := by
  rw [Declaration.differs, Bool.or_eq_false_iff, bne_eq_false_iff_eq, bne_eq_false_iff_eq]
  rfl

/-- The last declaration of a number says what is last said of it. -/
theorem map_said_declarationOf? (decls : List Declaration) (k : Int) :
    (declarationOf? decls k).map said = lastSaid (decls.map said) k := by
  rw [declarationOf?, lastSaid, ← List.map_reverse, List.find?_map]
  rfl

/-- Of two parts the second has the last word. -/
theorem lastSaid_append (es es' : List Saying) (k : Int) :
    lastSaid (es ++ es') k = (lastSaid es' k).or (lastSaid es k) := by
  rw [lastSaid, List.reverse_append, List.find?_append]
  rfl

variable {mapped : RawValues} {decls : List Declaration} {c : StatusCode} {e : Saying} {k : Int}

/-- What is last said of a number behind the walk is what its last declaration says then. -/
theorem lastSaid_map_resaid (pick : Declaration → Option StatusCode) (decls : List Declaration)
    (k : Int) :
    lastSaid (decls.map (resaid pick)) k = (declarationOf? decls k).map (resaid pick) := by
  have hnumber : (fun d => (resaid pick d).number == k) = fun d : Declaration => d.number == k := by
    funext d
    rw [resaid]
    cases pick d <;> rfl
  rw [declarationOf?, lastSaid, ← List.map_reverse, List.find?_map, ← hnumber]
  rfl

/-- Behind the walk the last declaration of a mapped code agrees with it. -/
theorem agrees_of_mapped (hnodup : (codes.map (·.number)).Nodup) (hc : c ∈ codes)
    (hmapped : c.number ∈ mapped)
    (h : lastSaid (decls.map (resaid (redocCode? codes mapped decls))) c.number = some e) :
    e.Agrees c := by
  rw [lastSaid_map_resaid, Option.map_eq_some_iff] at h
  obtain ⟨d, hd, rfl⟩ := h
  rw [resaid]
  cases hpick : redocCode? codes mapped decls d with
  | some c' =>
    obtain ⟨hc', hredocs⟩ := (redocCode?_eq_some_iff hnodup).1 hpick
    have hnumber := (of_declarationOf? (redocs_iff.1 hredocs).2.1).2
    obtain rfl := eq_of_number_eq hnodup hc' hc (hnumber.symm.trans (of_declarationOf? hd).2)
    exact ⟨rfl, rfl⟩
  | none =>
    refine differs_eq_false_iff.1 ?_
    by_contra hdiffers
    rw [Bool.not_eq_false] at hdiffers
    exact List.find?_eq_none.1 hpick c hc (redocs_iff.2 ⟨hmapped, hd, hdiffers⟩)

/-- The walk leaves what is said of a number that is not mapped. -/
theorem lastSaid_of_not_mapped (hmapped : k ∉ mapped) (below : List Declaration) :
    lastSaid (below.map (resaid (redocCode? codes mapped decls))) k =
      lastSaid (below.map said) k := by
  rw [lastSaid_map_resaid, ← map_said_declarationOf?]
  refine Option.map_congr fun d hd => ?_
  rw [resaid]
  cases hpick : redocCode? codes mapped decls d with
  | some c' =>
    have hredocs := redocs_iff.1 (List.find?_some hpick)
    have hnumber : c'.number = k :=
      (of_declarationOf? hredocs.2.1).2.symm.trans (of_declarationOf? hd).2
    exact absurd (hnumber ▸ hredocs.1) hmapped
  | none => rfl

/-- What new declarations say of a code agrees with it. -/
theorem agrees_of_missing {missing : List StatusCode} (hnodup : (codes.map (·.number)).Nodup)
    (hsub : missing ⊆ codes) (hc : c ∈ codes)
    (h : lastSaid (missing.map StatusCode.saying) c.number = some e) :
    c ∈ missing ∧ e.Agrees c := by
  obtain ⟨c', hc', rfl⟩ := List.mem_map.1 (List.mem_reverse.1 (List.mem_of_find?_eq_some h))
  have hnumber : c'.number = c.number := beq_iff_eq.1 (List.find?_some h :)
  obtain rfl := eq_of_number_eq hnodup (hsub hc') hc hnumber
  exact ⟨hc', rfl, rfl⟩

/-- New declarations say something of each of their codes. -/
theorem lastSaid_of_mem {missing : List StatusCode} (hc : c ∈ missing) :
    lastSaid (missing.map StatusCode.saying) c.number ≠ none := by
  intro hnone
  refine List.find?_eq_none.1 hnone c.saying (List.mem_reverse.2 (List.mem_map_of_mem hc)) ?_
  exact beq_self_eq_true c.number

/-- With what is declared above and below, the declarations of the missing codes say of every code
what the proto file says, if the codes that are declared below again are declared the same way. -/
theorem agrees_of_parts (hnodup : (codes.map (·.number)).Nodup)
    {above below again : List Declaration} (hdecls : decls = above ++ below)
    (hagain : below.map said = again.map said)
    (hbelow : ∀ c ∈ missingCodes codes mapped, ∀ d, declarationOf? again c.number = some d →
      d.differs c = false)
    (hc : c ∈ codes)
    (h : lastSaid (above.map (resaid (redocCode? codes mapped decls)) ++
      ((missingCodes codes mapped).map StatusCode.saying ++
        below.map (resaid (redocCode? codes mapped decls)))) c.number = some e) : e.Agrees c := by
  have hsub : missingCodes codes mapped ⊆ codes := fun c hc => (mem_missingCodes.1 hc).1
  by_cases hmapped : c.number ∈ mapped
  · have hnone : lastSaid ((missingCodes codes mapped).map StatusCode.saying) c.number = none := by
      by_contra hsome
      obtain ⟨e', he'⟩ := Option.ne_none_iff_exists'.1 hsome
      exact (mem_missingCodes.1 (agrees_of_missing hnodup hsub hc he').1).2 hmapped
    rw [lastSaid_append, lastSaid_append, hnone, Option.or_none, ← lastSaid_append,
      ← List.map_append, ← hdecls] at h
    exact agrees_of_mapped hnodup hc hmapped h
  · have hmissing : c ∈ missingCodes codes mapped := mem_missingCodes.2 ⟨hc, hmapped⟩
    rw [lastSaid_append, lastSaid_append, lastSaid_of_not_mapped hmapped, hagain,
      ← map_said_declarationOf?] at h
    cases hd : declarationOf? again c.number with
    | some d =>
      rw [hd, Option.map_some, Option.some_or, Option.some_or, Option.some.injEq] at h
      rw [← h]
      exact differs_eq_false_iff.1 (hbelow c hmissing d hd)
    | none =>
      obtain ⟨e', he'⟩ := Option.ne_none_iff_exists'.1 (lastSaid_of_mem hmissing)
      rw [hd, Option.map_none, Option.none_or, he', Option.some_or, Option.some.injEq] at h
      rw [← h]
      exact (agrees_of_missing hnodup hsub hc he').2

/-- Nothing has drifted if what is last said of each code agrees with it. -/
theorem drifts_eq_nil (h : ∀ c ∈ codes, ∀ e, lastSaid (sayings t.lines) c.number = some e →
    e.Agrees c) : drifts codes mapped (Declaration.ofSwift "[Deprecated]" t) = [] := by
  rw [drifts_eq_filterMap]
  refine List.filterMap_eq_nil_iff.2 fun c hc => Option.eq_none_iff_forall_ne_some.2 fun x hx => ?_
  obtain ⟨rfl, hd, hdiffers⟩ := drift?_eq_some_iff.1 hx
  have hsaid : lastSaid (sayings t.lines) x.code.number = some (said x.declaration) := by
    rw [sayings, ← map_said_declarations "[Deprecated]" 0, ← Piece.ofSwift_eq,
      ← map_said_declarationOf?, hd]
    rfl
  have hagrees := h x.code (List.mem_of_mem_filter hc) _ hsaid
  rw [differs_eq_false_iff.2 hagrees] at hdiffers
  cases hdiffers

/-! ## A second run -/

/-- The codes whose doc comments a run writes. -/
def Plan.written (p : Plan) : List StatusCode := p.missing ++ p.drifts.map (·.code)

/-- What a run has to find for its new declarations to stand by themselves. -/
structure Plan.InsertsCleanly (p : Plan) (swift : Text) : Prop where
  /-- The landmark of the declarations is at the start of a line, blanks apart, and the line above
  is no doc comment line. -/
  opens : ∀ before rest, Text.cutAt Section.caseDeclarations.landmark swift = some (before, rest) →
    OpensLine before
  /-- No doc comment line holds the landmark of a switch. -/
  clean : Clean swift
  /-- No comment that is written holds the landmark of a switch. -/
  free : ∀ c ∈ p.written, SwitchFree c.comment
  /-- A missing code that is already declared behind the landmark is declared with its comment and
  its deprecation. -/
  below : ∀ before rest, Text.cutAt Section.caseDeclarations.landmark swift = some (before, rest) →
    ∀ c ∈ p.missing, ∀ d,
      declarationOf? (Declaration.ofSwift "[Deprecated]" rest) c.number = some d →
        d.differs c = false

variable {s : StatusSync} {proto swift : Text} {p q : Plan}

/-- The drifts of a plan that looks at the doc comments, under the default settings. -/
theorem StatusSync.Planned.drifts_eq (hs : s.Usual) (h : s.Planned proto swift true codes p) :
    p.drifts = ProtoUpkeep.drifts codes (RawValues.ofSwift swift)
      (Declaration.ofSwift "[Deprecated]" swift) := by
  rw [h.drifts, hs.settings]
  rfl

/-- Under the default settings replacing the doc comments of the drifts is the walk. -/
theorem StatusSync.Planned.withDocs_eq (hs : s.Usual) (h : s.Planned proto swift true codes p)
    (hnodup : (codes.map (·.number)).Nodup) : s.withDocs p.drifts swift =
      redocText (redocCode? codes (RawValues.ofSwift swift)
        (Declaration.ofSwift "[Deprecated]" swift)) swift := by
  have hreplace := replaceDocs_eq hnodup Style.default (RawValues.ofSwift swift) "[Deprecated]"
    swift
  rw [← h.drifts_eq hs] at hreplace
  have hdocs : s.withDocs p.drifts swift = replaceDocs Style.default p.drifts swift := by
    rw [withDocs, hs.settings]
    split
    · next hempty =>
      rw [List.isEmpty_iff.1 hempty]
      simp [replaceDocs, bottomUp]
    · rfl
  rw [hdocs, hreplace]
  rfl

/-- A code whose doc comment replaces another one is one of those that are written. -/
theorem StatusSync.Planned.mem_written (hs : s.Usual) (h : s.Planned proto swift true codes p)
    (hnodup : (codes.map (·.number)).Nodup) {d : Declaration}
    (hpick : redocCode? codes (RawValues.ofSwift swift)
      (Declaration.ofSwift "[Deprecated]" swift) d = some c) :
    c ∈ codes ∧ c ∈ p.written := by
  have hmem : (⟨c, d⟩ : Drift) ∈ p.drifts := by
    rw [h.drifts_eq hs, mem_drifts_iff hnodup]
    exact hpick
  exact ⟨List.mem_of_find?_eq_some hpick, List.mem_append_right _ (List.mem_map_of_mem hmem)⟩

/-- The codes whose doc comments replace others are read as they are written, if those that are
written are. -/
theorem StatusSync.Planned.wellRead_unmarked (hs : s.Usual) (h : s.Planned proto swift true codes p)
    (hnodup : (codes.map (·.number)).Nodup) (hmark : ∀ c ∈ p.written, c.Unmarked) (d : Declaration)
    (c : StatusCode)
    (hpick : redocCode? codes (RawValues.ofSwift swift)
      (Declaration.ofSwift "[Deprecated]" swift) d = some c) : c.WellRead ∧ c.Unmarked := by
  obtain ⟨hc, hwritten⟩ := h.mem_written hs hnodup hpick
  exact ⟨StatusCode.wellRead_of_ofProto? h.read c hc, hmark c hwritten⟩

/-- What the text says after a run that inserts new declarations and skips no section: above and
below the landmark of the declarations what was said there with the doc comments replaced, and in
between what the missing codes say. -/
theorem StatusSync.Planned.sayings_updated (hs : s.Usual) (h : s.Planned proto swift true codes p)
    (hnodup : (codes.map (·.number)).Nodup) (hplain : ∀ c ∈ codes, c.Plain) (hskip : p.skipped = [])
    (hmark : ∀ c ∈ p.written, c.Unmarked) (hne : p.missing ≠ []) (hclean : p.InsertsCleanly swift) :
    ∃ before rest above below,
      Text.cutAt Section.caseDeclarations.landmark swift = some (before, rest) ∧
      Declaration.ofSwift "[Deprecated]" swift = above ++ below ∧
      below.map said = (Declaration.ofSwift "[Deprecated]" rest).map said ∧
      ∀ pick, pick = redocCode? codes (RawValues.ofSwift swift)
          (Declaration.ofSwift "[Deprecated]" swift) →
        sayings p.updated.lines = above.map (resaid pick) ++
          (p.missing.map StatusCode.saying ++ below.map (resaid pick)) := by
  have hpick := h.wellRead_unmarked hs hnodup hmark
  have hresult := h.result
  rw [h.withDocs_eq hs hnodup, hskip, hs.withCodes_of_ne_nil hne] at hresult
  -- The declarations go in at the landmark, which stands where it stood in the old text.
  obtain ⟨t₁, ⟨before₁, rest₁, hcut₁, -⟩, -⟩ := exists_inserted_of_skipped_nil hs.points hresult
  have hocc := landmark_of_redocText hpick (infix_of_cutAt hcut₁)
  obtain ⟨⟨before, rest⟩, hcut⟩ := Option.isSome_iff_exists.1 (isSome_cutAt_iff.2 hocc)
  obtain ⟨before', rest', hcut', hopen, above, below, hdecls, hbelow, hsayAbove, hsayBelow⟩ :=
    exists_cutAt_redocText hpick hcut (hclean.opens before rest hcut)
  obtain ⟨b, r, hbr, hsay⟩ := sayings_insertSections hs.points
    (fun c hc => ⟨h.wellRead c hc, hplain c (mem_missingCodes.1 (h.missing ▸ hc)).1,
      hmark c (List.mem_append_left _ hc)⟩) hne
    (fun c hc => hclean.free c (List.mem_append_left _ hc))
    (hclean.clean.redocText hpick fun d c hc => hclean.free c (h.mem_written hs hnodup hc).2)
    (fun b r hbr => by
      rw [hcut', Option.some.injEq, Prod.mk.injEq] at hbr
      exact hbr.1 ▸ hopen) hresult
  rw [hcut', Option.some.injEq, Prod.mk.injEq] at hbr
  obtain ⟨rfl, rfl⟩ := hbr
  rw [hsayAbove, hsayBelow] at hsay
  exact ⟨before, rest, above, below, hcut, hdecls, hbelow, fun pick hpick => hpick ▸ hsay⟩

/-- After a run over the doc comments that skips no section a second run finds none that has
drifted: if the codes have different numbers and plain names, no comment that is written is mistaken
for a deprecated one, and the new declarations, where there are any, stand by themselves. -/
theorem comment_sync_settles (hs : StatusSettings.default.ready = .ok s)
    (hread : StatusCode.ofProto? s.settings.enumName proto = some codes)
    (hnodup : (codes.map (·.number)).Nodup) (hplain : ∀ c ∈ codes, c.Plain)
    (hp : s.plan proto swift true = .ok p) (hskip : p.skipped = [])
    (hmark : ∀ c ∈ p.written, c.Unmarked) (hclean : p.missing ≠ [] → p.InsertsCleanly swift) :
    ∃ q, s.plan proto p.updated true = .ok q ∧ q.drifts = [] := by
  have hs := StatusSync.usual_of_ready hs
  obtain ⟨codes', hplanned⟩ := StatusSync.planned_of_plan hp
  obtain rfl : codes = codes' := Option.some.inj (hread.symm.trans hplanned.read)
  obtain ⟨q, hq, hqplanned⟩ := StatusSync.exists_plan hread p.updated true
  refine ⟨q, hq, ?_⟩
  rw [hqplanned.drifts_eq hs]
  refine drifts_eq_nil fun c hc e he => ?_
  by_cases hnil : p.missing = []
  · have hpick := hplanned.wellRead_unmarked hs hnodup hmark
    have hresult := hplanned.result
    rw [hplanned.withDocs_eq hs hnodup, hnil, StatusSync.withCodes_nil, Prod.mk.injEq] at hresult
    rw [← hresult.1, lines_redocText hpick, sayings_redone hpick, ← Piece.ofSwift_eq] at he
    have hmapped := missingCodes_eq_nil_iff.1 (hplanned.missing.symm.trans hnil) c hc
    exact agrees_of_mapped hnodup hc hmapped he
  · obtain ⟨before, rest, above, below, hcut, hdecls, hagain, hsay⟩ :=
      hplanned.sayings_updated hs hnodup hplain hskip hmark hnil (hclean hnil)
    have hbelow := (hclean hnil).below before rest hcut
    rw [hsay _ rfl, hplanned.missing] at he
    rw [hplanned.missing] at hbelow
    exact agrees_of_parts hnodup hdecls hagain hbelow hc he

/-- A Swift text of nothing but the landmarks. -/
def landmarkText : Text := Text.ofLines (Section.all.map Section.landmark)

/-- A proto text with one code and a line of comment above it. -/
def commentedCode (comment : Text) : Text :=
  "enum ResponseCodeEnum \x7b\n// ".toList ++ comment ++ "\nOK = 22;\n\x7d"

/-- A new code with a comment settles in a text of nothing but the landmarks. -/
theorem comment_sync_settles_new_code : ∃ s codes p, StatusSettings.default.ready = .ok s ∧
    StatusCode.ofProto? s.settings.enumName (commentedCode "Done.") = some codes ∧
    (codes.map (·.number)).Nodup ∧ (∀ c ∈ codes, c.Plain) ∧
    s.plan (commentedCode "Done.") landmarkText true = .ok p ∧ p.skipped = [] ∧
    (∀ c ∈ p.written, c.Unmarked) ∧ p.missing ≠ [] ∧
    (p.missing ≠ [] → p.InsertsCleanly landmarkText) ∧
    ∃ q, s.plan (commentedCode "Done.") p.updated true = .ok q ∧ q.drifts = [] := by
  obtain ⟨s, p, hs, hread, hp, -, hmissing, hdrifts, -, hskip⟩ :=
    exists_run_of_missing_one (commentedCode "Done.") landmarkText true
      [⟨"OK", 22, "Done.", false⟩] ⟨"OK", 22, "Done.", false⟩ (by decide +kernel)
      (by decide +kernel) (fun _ => by decide +kernel)
  have hskip : p.skipped = [] := by
    rw [hskip]
    decide +kernel
  have hplain : ∀ c ∈ [(⟨"OK", 22, "Done.", false⟩ : StatusCode)], c.Plain := by decide
  have hwritten : p.written = [⟨"OK", 22, "Done.", false⟩] := by
    rw [Plan.written, hmissing, hdrifts]
    rfl
  have hmark : ∀ c ∈ p.written, c.Unmarked := by
    rw [hwritten]
    decide
  have hcut : ∀ {before rest}, Text.cutAt Section.caseDeclarations.landmark landmarkText =
      some (before, rest) → before = [] ∧ rest = landmarkText := fun {before rest} h => by
    rw [cutAt_of_startsWith (by decide +kernel), Option.some.injEq, Prod.mk.injEq] at h
    exact ⟨h.1.symm, h.2.symm⟩
  have hnone : Declaration.ofSwift "[Deprecated]" landmarkText = [] := by decide +kernel
  have hclean : p.missing ≠ [] → p.InsertsCleanly landmarkText := fun _ =>
    { opens := fun before rest h => by
        rw [(hcut h).1]
        exact ⟨[], [], rfl, by simp, rfl⟩
      clean := by decide +kernel
      free := by
        rw [hwritten]
        decide
      below := fun before rest h c _ d hd => by
        rw [(hcut h).2, hnone] at hd
        cases hd }
  exact ⟨s, _, p, hs, hread, by decide, hplain, hp, hskip, hmark, by simp [hmissing], hclean,
    comment_sync_settles hs hread (by decide) hplain hp hskip hmark hclean⟩

/-- A proto text with its codes, and a Swift text that lacks one of them. -/
structure OneMissing where
  /-- The proto text. -/
  proto : Text
  /-- The Swift text. -/
  swift : Text
  /-- The codes of the proto text. -/
  codes : List StatusCode
  /-- The code that the Swift text lacks. -/
  code : StatusCode

/-- A comment that holds the landmark of the switch from raw values. -/
def landmarkComment : Text := 'x' :: Section.initCases.landmark

/-- Texts that are not settled by one run: a comment that is mistaken for a deprecated one, a
comment with the landmark of a switch, a doc comment line with one, a missing code that is declared
behind the landmark of the declarations, and a landmark of the declarations that is not at the start
of its line. -/
def unsettled : List OneMissing := [
  { proto := commentedCode "[Deprecated] x"
    swift := landmarkText
    codes := [⟨"OK", 22, "[Deprecated] x", false⟩]
    code := ⟨"OK", 22, "[Deprecated] x", false⟩ },
  { proto := commentedCode landmarkComment
    swift := landmarkText
    codes := [⟨"OK", 22, landmarkComment, false⟩]
    code := ⟨"OK", 22, landmarkComment, false⟩ },
  { proto := commentedCode (landmarkComment ++ "\nOLD = 2;")
    swift := "    /// ".toList ++ landmarkComment ++ "\n    case old  // = 2\n" ++ landmarkText ++
      "\n        case 2: self = .old"
    codes := [⟨"OLD", 2, landmarkComment, false⟩, ⟨"OK", 22, [], false⟩]
    code := ⟨"OK", 22, [], false⟩ },
  { proto := commentedCode "Done."
    swift := landmarkText ++ "\n    case ok  // = 22"
    codes := [⟨"OK", 22, "Done.", false⟩]
    code := ⟨"OK", 22, "Done.", false⟩ },
  { proto := commentedCode "Done."
    swift := 'x' :: landmarkText
    codes := [⟨"OK", 22, "Done.", false⟩]
    code := ⟨"OK", 22, "Done.", false⟩ }]

/-- On these texts a second run finds a doc comment that has drifted, though the codes have
different numbers and plain names, the line above the landmark of the declarations is no doc comment
line, and the first run skips no section. -/
theorem comment_sync_unsettled : unsettled.Forall fun i => ∃ s p q,
    StatusSettings.default.ready = .ok s ∧
    StatusCode.ofProto? s.settings.enumName i.proto = some i.codes ∧
    (i.codes.map (·.number)).Nodup ∧ (∀ c ∈ i.codes, c.Plain) ∧
    (Text.cutAt Section.caseDeclarations.landmark i.swift).any
      (fun cut => cut.1.lines.dropLast.getLast?.any isDocLine) = false ∧
    s.plan i.proto i.swift true = .ok p ∧ p.skipped = [] ∧
    s.plan i.proto p.updated true = .ok q ∧ q.drifts ≠ [] := by
  have hcodes : ∀ i ∈ unsettled, (i.codes.map (·.number)).Nodup ∧ ∀ c ∈ i.codes, c.Plain := by
    decide +kernel
  have habove : ∀ i ∈ unsettled, (Text.cutAt Section.caseDeclarations.landmark i.swift).any
      (fun cut => cut.1.lines.dropLast.getLast?.any isDocLine) = false := by
    decide +kernel
  have hread : ∀ i ∈ unsettled,
      StatusCode.ofProto? StatusSettings.default.enumName i.proto = some i.codes := by
    decide +kernel
  have hfirst : ∀ i ∈ unsettled,
      (i.codes.filter fun c => !(RawValues.ofSwift i.swift).contains c.number) = [i.code] ∧
      drifts i.codes (RawValues.ofSwift i.swift)
        (Declaration.ofSwift "[Deprecated]" i.swift) = [] := by
    decide +kernel
  have hskip : ∀ i ∈ unsettled, (insertSections Section.landmarks
      (Style.default.fragments [i.code]) Section.all i.swift).2 = [] := by
    decide +kernel
  have hsecond : ∀ i ∈ unsettled, ∀ t ∈ [(insertSections Section.landmarks
      (Style.default.fragments [i.code]) Section.all i.swift).1],
        drifts i.codes (RawValues.ofSwift t) (Declaration.ofSwift "[Deprecated]" t) ≠ [] := by
    decide +kernel
  refine List.forall_iff_forall_mem.2 fun i hi => ?_
  obtain ⟨hone, hnone⟩ := hfirst i hi
  obtain ⟨s, p, hs, hread, hp, -, -, -, hupdated, hskipped⟩ :=
    exists_run_of_missing_one i.proto i.swift true i.codes i.code (hread i hi) hone fun _ => hnone
  obtain ⟨q, hq, hqplanned⟩ := StatusSync.exists_plan hread p.updated true
  refine ⟨s, p, q, hs, hread, (hcodes i hi).1, (hcodes i hi).2, habove i hi, hp,
    hskipped.trans (hskip i hi), hq, ?_⟩
  rw [hqplanned.drifts_eq (StatusSync.usual_of_ready hs), hupdated]
  exact hsecond i hi _ (List.mem_singleton_self _)

end ProtoUpkeep
