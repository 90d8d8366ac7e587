import ProtoUpkeep.Proofs.Status.CommentSync
import ProtoUpkeep.Proofs.Status.Entries

/-!
# Inserting all fragments at once

The fragments are inserted one section after the other, each at its anchor in the text that the
sections before have left. For codes whose entries disturb no search it makes no difference: the
result is the text with every fragment woven in where the anchor points to in the text as it was
(`insertSections_weave`, `insertFragments_simultaneous`). What is woven in is a row of entries, so
inserting the entries of some codes and then those of others is inserting the entries of all of them
(`insertFragments_append`).
-/

namespace ProtoUpkeep

open Text

variable {points : PerSection InsertionPoint} {f f' : PerSection Text} {g : Nat → Text}
  {sec sec' : Section} {secs : List Section} {codes codes' : List StatusCode} {s : StatusSync}
  {t : Text} {n : Nat}

/-- The number of characters in front of the insertion point, if the anchor occurs. -/
def InsertionPoint.offset? (p : InsertionPoint) (t : Text) : Option Nat :=
  (p.cutAt t).map (·.1.length)

/-- What the sections put in front of the character of the number `n`: the fragment of each of them
that points there, with a line feed behind it. -/
def chunksAt (points : PerSection InsertionPoint) (f : PerSection Text) (secs : List Section)
    (t : Text) (n : Nat) : Text :=
  secs.flatMap fun sec => if (points.get sec).offset? t = some n then f.get sec ++ ['\n'] else []

/-! ## Where the anchors point to -/

section

variable (hp : AtLandmarks points)

include hp

/-- An anchor points to where its landmark starts. -/
theorem prefix_of_offset? (h : (points.get sec).offset? t = some n) :
    sec.landmark <+: t.drop n := by
  rw [InsertionPoint.offset?, hp sec t, Option.map_eq_some_iff] at h
  obtain ⟨⟨before, rest⟩, hcut, rfl⟩ := h
  rw [← append_of_cutAt hcut, List.drop_left]
  exact prefix_of_cutAt hcut

/-- Anchors that point to the landmarks put the fragments in where the markers do. -/
theorem chunksAt_eq_landmarks (secs : List Section) (t : Text) :
    chunksAt points f secs t = chunksAt Section.landmarks f secs t := by
  have hoffset : ∀ sec, (points.get sec).offset? t = (Section.landmarks.get sec).offset? t :=
    fun sec => by
      rw [InsertionPoint.offset?, InsertionPoint.offset?, hp sec t]
      cases sec <;> rfl
  funext n
  simp only [chunksAt, hoffset]

/-- No two anchors point to one place. -/
theorem eq_of_offset? (h : (points.get sec).offset? t = some n)
    (h' : (points.get sec').offset? t = some n) : sec = sec' := by
  by_contra hne
  rcases List.prefix_or_prefix_of_prefix (prefix_of_offset? hp h) (prefix_of_offset? hp h') with
    hpre | hpre
  · exact landmark_not_startsWith hne hpre
  · exact landmark_not_startsWith (Ne.symm hne) hpre

/-- What the sections put in disturbs no search, and it stands in front of landmarks. -/
theorem posted_chunksAt (hf : ∀ sec, Inert Section.landmark (f.get sec ++ ['\n']))
    (secs : List Section) (t : Text) :
    Posted Section.landmark (chunksAt points f secs t) t where
  inert n := inert_flatMap landmark_ne_nil fun sec _ => by
    split
    · exact hf sec
    · exact inert_nil landmark_ne_nil
  starts n hn := by
    obtain ⟨sec, -, hsec⟩ : ∃ sec ∈ secs, (if (points.get sec).offset? t = some n
        then f.get sec ++ ['\n'] else []) ≠ [] := by
      simpa [chunksAt, List.flatMap_eq_nil_iff] using hn
    split at hsec
    · next hoffset => exact ⟨sec, prefix_of_offset? hp hoffset⟩
    · exact absurd rfl hsec

/-! ## One section after the other -/

/-- Inserting in a row of sections weaves their fragments into the text behind what has been woven
in before, and skips the sections whose anchor does not occur in the text itself. -/
theorem insertSections_weave (hf : ∀ sec, Inert Section.landmark (f.get sec ++ ['\n']))
    (hg : Posted Section.landmark g t) : insertSections points f secs (weave g t) =
      (weave (fun n => g n ++ chunksAt points f secs t n) t,
        secs.filter fun sec => ((points.get sec).offset? t).isNone) := by
  induction secs generalizing g with
  | nil => simp [insertSections, chunksAt]
  | cons sec secs ih =>
    cases hcut : Text.cutAt sec.landmark t with
    | none =>
      have hoffset : (points.get sec).offset? t = none := by
        rw [InsertionPoint.offset?, hp sec t, hcut]
        rfl
      have hnot := cutAt_weave_of_none landmark_apart landmark_ne_nil hg hcut
      rw [insertSections_cons_of_not_landmark hp (cutAt_eq_none_iff.1 hnot), ih hg]
      simp [chunksAt, hoffset]
    | some p =>
      obtain ⟨before, rest⟩ := p
      have hoffset : (points.get sec).offset? t = some before.length := by
        rw [InsertionPoint.offset?, hp sec t, hcut]
        rfl
      obtain ⟨before', rest', hcut', hadd⟩ :=
        exists_cutAt_weave landmark_apart landmark_ne_nil hg hcut
      have hadd := hadd (f.get sec ++ ['\n'])
      rw [List.append_assoc, List.singleton_append] at hadd
      -- The chunk joins what has been woven in, and the other sections see no more than that.
      have hposted : Posted Section.landmark
          (fun n => g n ++ if before.length = n then f.get sec ++ ['\n'] else []) t := by
        refine ⟨fun n => (hg.inert n).append ?_, fun n hn => ?_⟩
        · split
          · exact hf sec
          · exact inert_nil landmark_ne_nil
        · by_cases hn' : before.length = n
          · exact ⟨sec, prefix_of_offset? hp (hn' ▸ hoffset)⟩
          · rw [if_neg hn', List.append_nil] at hn
            exact hg.starts n hn
      rw [insertSections_cons_of_inserted hp ⟨before', rest', hcut', hadd.symm⟩, ih hposted]
      simp [chunksAt, hoffset]

/-- Inserting in all sections is weaving all fragments into the text. -/
theorem insertSections_eq_weave (hf : ∀ sec, Inert Section.landmark (f.get sec ++ ['\n'])) :
    insertSections points f secs t = (weave (chunksAt points f secs t) t,
      secs.filter fun sec => ((points.get sec).offset? t).isNone) := by
  have hempty : Posted Section.landmark (fun _ => []) t :=
    ⟨fun _ => inert_nil landmark_ne_nil, fun _ h => absurd rfl h⟩
  calc insertSections points f secs t
    _ = insertSections points f secs (weave (fun _ => []) t) := by rw [weave_nil_texts]
    _ = _ := insertSections_weave hp hf hempty

/-- What the sections put in for some codes and then for others is what they put in for all of them,
because no two sections point to one place. -/
theorem chunksAt_append (hne : codes ≠ []) (hne' : codes' ≠ []) (s : Style) (t : Text) (n : Nat) :
    chunksAt points (s.fragments codes) Section.all t n ++
        chunksAt points (s.fragments codes') Section.all t n =
      chunksAt points (s.fragments (codes ++ codes')) Section.all t n := by
  by_cases hsome : ∃ sec, (points.get sec).offset? t = some n
  · obtain ⟨sec, hsec⟩ := hsome
    have hone : ∀ f : PerSection Text, chunksAt points f Section.all t n = f.get sec ++ ['\n'] := by
      intro f
      have hiff : ∀ sec', (points.get sec').offset? t = some n ↔ sec' = sec := fun sec' =>
        ⟨fun h => eq_of_offset? hp h hsec, fun h => h ▸ hsec⟩
      simp only [chunksAt, hiff, Section.all]
      cases sec <;> simp
    rw [hone, hone, hone, fragments_append_newline s hne, fragments_append_newline s hne',
      fragments_append_newline s (by simp [hne]), List.flatMap_append]
  · have hnil : ∀ f : PerSection Text, chunksAt points f Section.all t n = [] := by
      intro f
      refine List.flatMap_eq_nil_iff.2 fun sec _ => if_neg fun h => hsome ⟨sec, h⟩
    rw [hnil, hnil, hnil, List.append_nil]

end

/-! ## Under the default settings -/

/-- Under the default settings the fragments of codes whose names and comments bring in no landmark
disturb no search. -/
theorem StatusSync.Usual.inert_fragment (hs : s.Usual) (hcodes : ∀ c ∈ codes, c.Insertable)
    (hne : codes ≠ []) (sec : Section) :
    Inert Section.landmark ((s.settings.style.fragments codes).get sec ++ ['\n']) := by
  rw [hs.settings]
  exact ProtoUpkeep.inert_fragment hcodes hne sec

/-- Under the default settings the fragments of codes whose names and comments bring in no landmark
are inserted at once: every section whose anchor occurs in the text gets its fragment and a line
feed where the anchor points to in that text, the other sections are skipped, and no anchor is
lost. -/
theorem insertFragments_simultaneous (hs : StatusSettings.default.ready = .ok s) (hne : codes ≠ [])
    (hcodes : ∀ c ∈ codes, c.Insertable) (t : Text) :
    let fragments := s.settings.style.fragments codes
    insertFragments s.points fragments t =
        (weave (chunksAt s.points fragments Section.all t) t,
          Section.all.filter fun sec => ((s.points.get sec).offset? t).isNone) ∧
      ∀ sec, ((s.points.get sec).offset? t).isSome →
        ((s.points.get sec).offset? (insertFragments s.points fragments t).1).isSome := by
  intro fragments
  have hs := StatusSync.usual_of_ready hs
  refine ⟨insertSections_eq_weave hs.points (hs.inert_fragment hcodes hne), fun sec hsec => ?_⟩
  rw [InsertionPoint.offset?, hs.points sec, Option.isSome_map, isSome_cutAt_iff] at hsec ⊢
  exact (grown_insertSections hs.points Section.all t).landmark hsec

/-- A new code has its entries in all sections of a text of nothing but the landmarks. -/
theorem insertFragments_simultaneous_new_code : ∃ s, StatusSettings.default.ready = .ok s ∧
    ∃ codes : List StatusCode, codes ≠ [] ∧ (∀ c ∈ codes, c.Insertable) ∧
      let fragments := s.settings.style.fragments codes
      insertFragments s.points fragments landmarkText =
          (weave (chunksAt s.points fragments Section.all landmarkText) landmarkText,
            Section.all.filter fun sec => ((s.points.get sec).offset? landmarkText).isNone) ∧
        ∀ sec, ((s.points.get sec).offset? landmarkText).isSome →
          ((s.points.get sec).offset?
            (insertFragments s.points fragments landmarkText).1).isSome := by
  obtain ⟨s, hs⟩ := StatusSettings.exists_ready
  have hcodes : ∀ c ∈ [(⟨"OK", 22, "Done.", true⟩ : StatusCode)], c.Insertable := by decide
  exact ⟨s, hs, _, by simp, hcodes, insertFragments_simultaneous hs (by simp) hcodes landmarkText⟩

/-- Names that bring in the landmark of a section: on one line, and on a line of its own. -/
def landmarkNames : List Text :=
  [Section.rawValueCases.landmark, "x\n".toList ++ Section.allCases.landmark]

/-- The fragments of a code whose name brings in a landmark are not inserted at once, though the
name is plain and there is no comment: a later fragment goes into the declaration. -/
theorem insertFragments_into_declaration : landmarkNames.Forall fun name => ∃ s,
    StatusSettings.default.ready = .ok s ∧
    let code : StatusCode := { name, number := 22 }
    let fragments := s.settings.style.fragments [code]
    (code.Plain ∧ Trimmed code.comment ∧ '\n' ∉ code.comment ∧ SwitchFree code.comment) ∧
      (insertFragments s.points fragments landmarkText).1 ≠
        weave (chunksAt s.points fragments Section.all landmarkText) landmarkText := by
  obtain ⟨s, hready⟩ := StatusSettings.exists_ready
  have hs := StatusSync.usual_of_ready hready
  have hcode : ∀ name ∈ landmarkNames, (⟨name, 22, [], false⟩ : StatusCode).Plain ∧
      Trimmed ([] : Text) ∧ '\n' ∉ ([] : Text) ∧ SwitchFree [] := by
    decide +kernel
  have hne : ∀ name ∈ landmarkNames, (insertSections Section.landmarks
      (Style.default.fragments [⟨name, 22, [], false⟩]) Section.all landmarkText).1 ≠
        weave (chunksAt Section.landmarks (Style.default.fragments [⟨name, 22, [], false⟩])
          Section.all landmarkText) landmarkText := by
    decide +kernel
  refine List.forall_iff_forall_mem.2 fun name hname => ⟨s, hready, hcode name hname, ?_⟩
  rw [insertFragments, insertSections_eq_landmarks hs.points, chunksAt_eq_landmarks hs.points,
    hs.settings]
  exact hne name hname

/-- Under the default settings inserting the fragments of some codes and then those of others is
inserting the fragments of all of them, and the same sections are skipped every time. -/
theorem insertFragments_append (hs : StatusSettings.default.ready = .ok s) (hne : codes ≠ [])
    (hne' : codes' ≠ []) (hcodes : ∀ c ∈ codes, c.Insertable)
    (hcodes' : ∀ c ∈ codes', c.Insertable) (t : Text) :
    let style := s.settings.style
    let first := insertFragments s.points (style.fragments codes) t
    let batch := insertFragments s.points (style.fragments (codes ++ codes')) t
    insertFragments s.points (style.fragments codes') first.1 = batch ∧ first.2 = batch.2 := by
  intro style first batch
  have hs := StatusSync.usual_of_ready hs
  have hf := hs.inert_fragment hcodes hne
  have hf' := hs.inert_fragment hcodes' hne'
  have hall := hs.inert_fragment (List.forall_mem_append.2 ⟨hcodes, hcodes'⟩) (by simp [hne])
  have hfirst : first = _ := insertSections_eq_weave hs.points hf
  have hbatch : batch = _ := insertSections_eq_weave hs.points hall
  refine ⟨?_, by rw [hfirst, hbatch]⟩
  rw [hfirst, hbatch, insertFragments,
    insertSections_weave hs.points hf' (posted_chunksAt hs.points hf _ _)]
  simp only [chunksAt_append hs.points hne hne', style]

/-- Two new codes inserted one after the other in a text of nothing but the landmarks. -/
theorem insertFragments_append_new_codes : ∃ s, StatusSettings.default.ready = .ok s ∧
    ∃ codes codes' : List StatusCode, codes ≠ [] ∧ codes' ≠ [] ∧ (∀ c ∈ codes, c.Insertable) ∧
      (∀ c ∈ codes', c.Insertable) ∧
      let style := s.settings.style
      let first := insertFragments s.points (style.fragments codes) landmarkText
      let batch := insertFragments s.points (style.fragments (codes ++ codes')) landmarkText
      insertFragments s.points (style.fragments codes') first.1 = batch ∧ first.2 = batch.2 := by
  obtain ⟨s, hs⟩ := StatusSettings.exists_ready
  have hcodes : ∀ c ∈ [(⟨"OK", 22, "Done.", true⟩ : StatusCode)], c.Insertable := by decide
  have hcodes' : ∀ c ∈ [(⟨"FINE", 23, [], false⟩ : StatusCode)], c.Insertable := by decide
  exact ⟨s, hs, _, _, by simp, by simp, hcodes, hcodes',
    insertFragments_append hs (by simp) (by simp) hcodes hcodes' landmarkText⟩

/-- Where the first of two codes has a name that brings in a landmark, inserting one after the other
is not inserting both, though the names are plain and there are no comments: the second time a
fragment goes into the entries of the first code. -/
theorem insertFragments_into_entry : landmarkNames.Forall fun name => ∃ s,
    StatusSettings.default.ready = .ok s ∧
    let code : StatusCode := { name, number := 22 }
    let code' : StatusCode := { name := "OK", number := 2 }
    let style := s.settings.style
    let first := insertFragments s.points (style.fragments [code]) landmarkText
    let batch := insertFragments s.points (style.fragments [code, code']) landmarkText
    (∀ c ∈ [code, code'], c.Plain ∧ Trimmed c.comment ∧ '\n' ∉ c.comment ∧ SwitchFree c.comment) ∧
      (insertFragments s.points (style.fragments [code']) first.1).1 ≠ batch.1 := by
  obtain ⟨s, hready⟩ := StatusSettings.exists_ready
  have hs := StatusSync.usual_of_ready hready
  have hcodes : ∀ name ∈ landmarkNames,
      ∀ c ∈ [(⟨name, 22, [], false⟩ : StatusCode), ⟨"OK", 2, [], false⟩], c.Plain ∧
        Trimmed c.comment ∧ '\n' ∉ c.comment ∧ SwitchFree c.comment := by
    decide +kernel
  have hne : ∀ name ∈ landmarkNames, (insertSections Section.landmarks
      (Style.default.fragments [⟨"OK", 2, [], false⟩]) Section.all
        (insertSections Section.landmarks
          (Style.default.fragments [⟨name, 22, [], false⟩]) Section.all landmarkText).1).1 ≠
      (insertSections Section.landmarks
        (Style.default.fragments [⟨name, 22, [], false⟩, ⟨"OK", 2, [], false⟩]) Section.all
          landmarkText).1 := by
    decide +kernel
  refine List.forall_iff_forall_mem.2 fun name hname => ⟨s, hready, hcodes name hname, ?_⟩
  simp only [insertFragments, insertSections_eq_landmarks hs.points, hs.settings]
  exact hne name hname

end ProtoUpkeep
