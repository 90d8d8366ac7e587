import ProtoUpkeep.Proofs.Status.Mappings
import ProtoUpkeep.Status.Plan

/-!
# Landmarks of the Swift file

With the default settings every insertion point is the first occurrence of a fixed text, the
landmark of its section; this holds for the two anchors that are patterns as well
(`StatusSync.usual_of_ready`). The landmarks are fixed texts, so what the proofs about insertions
need is decided on them: no landmark can start before another one and reach into it
(`landmark_apart`), so inserting in front of one leaves the others where they are; and each of them
separates the mappings before it from those behind (`landmark_separates`).
-/

namespace ProtoUpkeep

/-- The text in front of which the text generated for a section goes by default. -/
def Section.landmark : Section → Text
  | caseDeclarations =>
    "    /// swift-format-ignore: AlwaysUseLowerCamelCase\n    case unrecognized(Int32)"
  | initCases => "        default: self = .unrecognized(rawValue)"
  | rawValueCases => "        case .unrecognized(let i): return i"
  | allCases => "    ]\n\x7d\n\n// minimal edit from proto-generated file:"
  | nameMap => "        ]\n\x7d\n\nextension Status: Sendable"

/-- The insertion points are the landmarks. -/
def AtLandmarks (points : PerSection InsertionPoint) : Prop :=
  ∀ sec t, (points.get sec).cutAt t = Text.cutAt (Section.landmark sec) t

/-- The insertion points that are markers with the landmarks as their texts. -/
def Section.landmarks : PerSection InsertionPoint where
  caseDeclarations := .marker caseDeclarations.landmark
  initCases := .marker initCases.landmark
  rawValueCases := .marker rawValueCases.landmark
  allCases := .marker allCases.landmark
  nameMap := .marker nameMap.landmark

/-- Settings made ready that are the default ones, with the landmarks as insertion points. -/
structure StatusSync.Usual (s : StatusSync) : Prop where
  /-- The settings are the default ones. -/
  settings : s.settings = .default
  /-- The anchor of each section is looked for as its landmark. -/
  points : AtLandmarks s.points

/-- A pattern that is one text, with its first group at the start, is looked for as the text. -/
theorem PatternNode.cutAt_of_literal {node : PatternNode} {needle t : Text}
    (hlit : node.literal? = some needle) (hgroup : node.firstGroup? = some 0) :
    Pattern.cutAt ⟨node.find⟩ t = Text.cutAt needle t := by
  simp only [Pattern.cutAt, Pattern.place?, find, hlit, hgroup, Option.map_map]
  cases hcut : Text.cutAt needle t with
  | none => rfl
  | some cut =>
    simp only [Option.map_some, Function.comp_apply, Option.getD_some, Nat.add_zero,
      List.splitAt_eq, ← Text.append_of_cutAt hcut, List.take_left, List.drop_left]

/-- Where a value is made for each section, each of them was made. -/
theorem PerSection.get_of_mapM {α β ε : Type} {f : Section → α → Except ε β} {p : PerSection α}
    {q : PerSection β} (h : p.mapM f = .ok q) (sec : Section) :
    f sec (p.get sec) = .ok (q.get sec) := by
  have hbind : ∀ {γ δ : Type} {x : Except ε γ} {k : γ → Except ε δ} {r : δ}, (x >>= k) = .ok r →
      ∃ a, x = .ok a ∧ k a = .ok r := fun {γ δ x k r} hx => by
    cases x with
    | error e => cases hx
    | ok a => exact ⟨a, rfl, hx⟩
  unfold PerSection.mapM at h
  obtain ⟨a, ha, h⟩ := hbind h
  obtain ⟨b, hb, h⟩ := hbind h
  obtain ⟨c, hc, h⟩ := hbind h
  obtain ⟨d, hd, h⟩ := hbind h
  obtain ⟨e, he, h⟩ := hbind h
  cases h
  cases sec <;> assumption

/-- Both default patterns read as literals. -/
theorem literal?_defaults :
    (PatternNode.read
        "(    \\]\\n\\\x7d)\\n\\n// minimal edit from proto-generated file:").toOption.bind
        (·.literal?) = some Section.allCases.landmark ∧
      (PatternNode.read "(        \\]\\n\\\x7d)\\n\\nextension Status: Sendable").toOption.bind
        (·.literal?) = some Section.nameMap.landmark := by
  decide +kernel

/-- Both default patterns start with their first group. -/
theorem firstGroup?_defaults :
    (PatternNode.read
        "(    \\]\\n\\\x7d)\\n\\n// minimal edit from proto-generated file:").toOption.bind
        (·.firstGroup?) = some 0 ∧
      (PatternNode.read "(        \\]\\n\\\x7d)\\n\\nextension Status: Sendable").toOption.bind
        (·.firstGroup?) = some 0 := by
  decide +kernel

/-- Settings are made ready by reading the anchor of each section. -/
theorem StatusSettings.get_of_ready {settings : StatusSettings} {engine : PatternEngine}
    {s : StatusSync} (h : settings.ready engine = .ok s) : s.settings = settings ∧
      ∀ sec, (settings.anchors.get sec).ready engine = .ok (s.points.get sec) := by
  unfold StatusSettings.ready at h
  cases hr : readyAnchors settings.anchors engine with
  | error e => rw [hr] at h; cases h
  | ok points =>
    rw [hr] at h
    cases h
    refine ⟨rfl, fun sec => ?_⟩
    have hsec := PerSection.get_of_mapM hr sec
    cases ha : (settings.anchors.get sec).ready engine with
    | error e => rw [ha] at hsec; cases hsec
    | ok a => rw [ha] at hsec; cases hsec; rfl

/-- Under the default settings text goes in front of the landmarks. -/
theorem StatusSync.usual_of_ready {s : StatusSync} (h : StatusSettings.default.ready = .ok s) :
    s.Usual := by
  obtain ⟨hsettings, hready⟩ := StatusSettings.get_of_ready h
  have hmarker : ∀ {sec}, (StatusSettings.default.anchors.get sec) = .marker sec.landmark →
      ∀ t, (s.points.get sec).cutAt t = Text.cutAt sec.landmark t := by
    intro sec hsec t
    have hpoint := hready sec
    rw [hsec] at hpoint
    rw [← Except.ok.inj hpoint]
    rfl
  have hpattern : ∀ {sec regex}, (StatusSettings.default.anchors.get sec) = .pattern regex →
      (PatternNode.read regex).toOption.bind (·.literal?) = some sec.landmark →
      (PatternNode.read regex).toOption.bind (·.firstGroup?) = some 0 →
      ∀ t, (s.points.get sec).cutAt t = Text.cutAt sec.landmark t := by
    intro sec regex hsec hlit hgroup t
    have hpoint := hready sec
    rw [hsec, Anchor.ready] at hpoint
    simp only [PatternEngine.standard] at hpoint
    cases hread : PatternNode.read regex with
    | error e => rw [hread] at hlit; cases hlit
    | ok node =>
      rw [hread] at hlit hgroup hpoint
      rw [← Except.ok.inj hpoint]
      exact PatternNode.cutAt_of_literal hlit hgroup
  refine ⟨hsettings, fun sec => ?_⟩
  cases sec with
  | caseDeclarations => exact hmarker rfl
  | initCases => exact hmarker rfl
  | rawValueCases => exact hmarker rfl
  | allCases => exact hpattern rfl literal?_defaults.1 firstGroup?_defaults.1
  | nameMap => exact hpattern rfl literal?_defaults.2 firstGroup?_defaults.2

/-- The default settings can be made ready. -/
theorem StatusSettings.exists_ready : ∃ s, StatusSettings.default.ready = .ok s := by
  have hsome : StatusSettings.default.ready.toOption.isSome = true := by decide +kernel
  cases hready : StatusSettings.default.ready with
  | ok s => exact ⟨s, rfl⟩
  | error e =>
    rw [hready] at hsome
    cases hsome

/-- No landmark starts before another occurrence of a landmark and reaches into it. -/
theorem landmark_apart (a b : Section) : Text.Apart a.landmark b.landmark := by
  -- All pairs are decided at once, so that each text is read off its literal once.
  have hall : ∀ a ∈ Section.all, ∀ b ∈ Section.all, Text.Apart a.landmark b.landmark := by
    decide +kernel
  exact hall a a.mem_all b b.mem_all

/-- No landmark starts with another one. -/
theorem landmark_not_startsWith {a b : Section} (h : a ≠ b) : ¬ a.landmark <+: b.landmark := by
  have hall : ∀ a ∈ Section.all, ∀ b ∈ Section.all, a ≠ b → ¬ a.landmark <+: b.landmark := by
    decide +kernel
  exact hall a a.mem_all b b.mem_all h

/-- Where two landmarks stand in one text, the one that starts first ends before the other. -/
theorem landmark_prefix_of_append {a b : Section} (h : a ≠ b) {x r z : Text}
    (heq : a.landmark ++ r = x ++ (b.landmark ++ z)) : a.landmark <+: x := by
  rcases List.append_eq_append_iff.1 heq with ⟨w, rfl, -⟩ | ⟨w, hw, hw'⟩
  · exact List.prefix_append ..
  · obtain rfl | hx := eq_or_ne x []
    · rw [List.nil_append] at heq
      rcases List.prefix_or_prefix_of_prefix ⟨r, heq⟩ (List.prefix_append b.landmark z) with hp | hp
      · exact absurd hp (landmark_not_startsWith h)
      · exact absurd hp (landmark_not_startsWith h.symm)
    · obtain rfl | hne := eq_or_ne w []
      · rw [hw, List.append_nil]
      · have hcross : Text.Crosses a.landmark x (b.landmark ++ z) :=
          ⟨x, w, hx, hne, hw, List.suffix_rfl, by rw [hw']; exact List.prefix_append ..⟩
        exact absurd hcross (landmark_apart a b).not_crosses

/-- A landmark separates the mappings before it from those behind. -/
theorem landmark_separates (sec : Section) : RawValues.Separates sec.landmark := by
  cases sec with
  | caseDeclarations => exact RawValues.separates_of_prefix "    /" (by decide) (by decide)
  | initCases => exact RawValues.separates_of_prefix "        d" (by decide) (by decide)
  | rawValueCases => exact RawValues.separates_of_prefix "        c" (by decide) (by decide)
  | allCases => exact RawValues.separates_of_prefix "    ]" (by decide) (by decide)
  | nameMap => exact RawValues.separates_of_prefix "        ]" (by decide) (by decide)

end ProtoUpkeep
