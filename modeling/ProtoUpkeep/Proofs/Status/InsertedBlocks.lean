import ProtoUpkeep.Proofs.Pattern.Places
import ProtoUpkeep.Proofs.Status.Coverage

/-!
# The blocks that a plan inserts

A plan with missing codes puts one block of text in for each section whose anchor occurs: the section's
fragment and a line feed, at the place that the anchor points at in the text with the earlier blocks
(`InsertedBlocks`). The settings are any whose anchors can be used, and patterns are read by any engine
whose matches lie in the text. A marker may be empty and a pattern may point into a block that was put
in before, so the blocks may lie inside one another; but every block is put in at a place of the text,
so it can be taken out again as long as it is the last one.
Taking the blocks out in the reverse order gives back the text that the plan was made for
(`StatusSync.plan_inserts_blocks`).
-/

namespace ProtoUpkeep

open Text

variable {points : PerSection InsertionPoint} {f : PerSection Text} {sec : Section}
  {secs : List Section} {t t' : Text} {n : Nat} {settings : StatusSettings} {s : StatusSync}
  {proto swift : Text} {p : Plan} {engine : PatternEngine}

/-! ## One block -/

/-- A text that is put into another one for a section, between two characters or at an end. -/
structure Block where
  /-- The section that it is put in for. -/
  sec : Section
  /-- The number of characters in front of it. -/
  place : Nat
  /-- The text that is put in. -/
  text : Text
deriving DecidableEq

namespace Block

variable {b : Block} {blocks : List Block}

/-- The text with the block in it, if the block's place is one of the text. -/
def insert (b : Block) (t : Text) : Option Text :=
  if b.place ≤ t.length then some (t.take b.place ++ (b.text ++ t.drop b.place)) else none

/-- The text without the block, if the block stands at its place. -/
def delete (b : Block) (t : Text) : Option Text :=
  (dropHead? b.text (t.drop b.place)).map (t.take b.place ++ ·)

/-- The text with the blocks put in one after the other. -/
def insertAll (blocks : List Block) (t : Text) : Option Text :=
  blocks.foldlM (fun t b => b.insert t) t

/-- The text with the blocks taken out one after the other. -/
def deleteAll (blocks : List Block) (t : Text) : Option Text :=
  blocks.foldlM (fun t b => b.delete t) t

/-- A block that was put in can be taken out. -/
theorem delete_of_insert (h : b.insert t = some t') : b.delete t' = some t := by
  unfold insert at h
  split at h
  · next hle =>
    cases h
    have hlen : (t.take b.place).length = b.place := List.length_take_of_le hle
    rw [delete, List.drop_left' hlen, List.take_left' hlen, dropHead?_append, Option.map_some,
      List.take_append_drop]
  · cases h

/-- Putting in the first block and then the others. -/
theorem insertAll_cons (h : b.insert t = some t') : insertAll (b :: blocks) t = insertAll blocks t' := by
  rw [insertAll, List.foldlM_cons, h]
  rfl

/-- Blocks that were put in can be taken out in the reverse order. -/
theorem deleteAll_reverse (h : insertAll blocks t = some t') :
    deleteAll blocks.reverse t' = some t := by
  induction blocks generalizing t with
  | nil => exact h.symm
  | cons b blocks ih =>
    rw [insertAll, List.foldlM_cons, Option.bind_eq_bind, Option.bind_eq_some_iff] at h
    obtain ⟨u, hu, hrest⟩ := h
    have hdelete := ih hrest
    unfold deleteAll at hdelete ⊢
    rw [List.reverse_cons, List.foldlM_append, hdelete]
    simp [delete_of_insert hu]

end Block

/-! ## The blocks of all sections -/

variable {blocks : List Block} {skipped : List Section}

/-- The blocks are what inserting in the sections `secs` puts into `t`, with the result `t'` and the
sections that are left alone. -/
structure InsertedBlocks (points : PerSection InsertionPoint) (f : PerSection Text)
    (secs : List Section) (t t' : Text) (skipped : List Section) (blocks : List Block) : Prop where
  /-- There is one block for each section that is not left alone, in the order of the sections. -/
  map_sec : blocks.map Block.sec = secs.filter (· ∉ skipped)
  /-- A block is the fragment of its section and a line feed. -/
  text : ∀ b ∈ blocks, b.text = f.get b.sec ++ ['\n']
  /-- The blocks can be put in one after the other, and that gives the result. -/
  insertAll : Block.insertAll blocks t = some t'
  /-- In the text with the blocks of the earlier sections, the anchor of a section points at the place
  of the section's block, or does not occur if there is none. -/
  place : ∀ earlier sec later, secs = earlier ++ sec :: later →
    ∃ u, Block.insertAll (blocks.filter (·.sec ∈ earlier)) t = some u ∧
      (points.get sec).place? u = (blocks.find? (·.sec = sec)).map Block.place

/-- The section of a block is another one than a section for which none is put in. -/
theorem InsertedBlocks.sec_ne (h : InsertedBlocks points f secs t t' skipped blocks)
    (hsec : sec ∉ secs) : ∀ b ∈ blocks, b.sec ≠ sec := by
  rintro b hb rfl
  have hmem := List.mem_map_of_mem (f := Block.sec) hb
  rw [h.map_sec] at hmem
  exact hsec (List.mem_of_mem_filter hmem)

/-- One more earlier section that has no block is the same as none. -/
theorem filter_sec_mem_cons (h : ∀ b ∈ blocks, b.sec ≠ sec) (earlier : List Section) :
    blocks.filter (·.sec ∈ sec :: earlier) = blocks.filter (·.sec ∈ earlier) :=
  List.filter_congr fun b hb => by simp [h b hb]

/-- In front of the other sections there may be one whose anchor does not occur. -/
theorem InsertedBlocks.skip (h : InsertedBlocks points f secs t t' skipped blocks)
    (hsec : sec ∉ secs) (hplace : (points.get sec).place? t = none) :
    InsertedBlocks points f (sec :: secs) t t' (sec :: skipped) blocks where
  map_sec := by
    rw [h.map_sec, List.filter_cons_of_neg (by simp)]
    refine List.filter_congr fun other hother => ?_
    have hne : other ≠ sec := fun heq => hsec (heq ▸ hother)
    simp [hne]
  text := h.text
  insertAll := h.insertAll
  place earlier other later heq := by
    have hne := h.sec_ne hsec
    cases earlier with
    | nil =>
      obtain ⟨rfl, rfl⟩ := List.cons.inj heq
      have hnone : blocks.find? (·.sec = sec) = none := List.find?_eq_none.2 (by simpa using hne)
      exact ⟨t, by simp [Block.insertAll], by rw [hplace, hnone]; rfl⟩
    | cons first earlier =>
      obtain ⟨rfl, hrest⟩ := List.cons.inj heq
      rw [filter_sec_mem_cons hne]
      exact h.place earlier other later hrest

/-- In front of the other sections there may be one whose block is put in first. -/
theorem InsertedBlocks.put {t₁ : Text} (h : InsertedBlocks points f secs t₁ t' skipped blocks)
    (hsec : sec ∉ secs) (hskipped : sec ∉ skipped) (hplace : (points.get sec).place? t = some n)
    (ht₁ : Block.insert ⟨sec, n, f.get sec ++ ['\n']⟩ t = some t₁) :
    InsertedBlocks points f (sec :: secs) t t' skipped (⟨sec, n, f.get sec ++ ['\n']⟩ :: blocks) where
  map_sec := by rw [List.map_cons, h.map_sec, List.filter_cons_of_pos (by simpa using hskipped)]
  text := by simpa using h.text
  insertAll := by rw [Block.insertAll_cons ht₁, h.insertAll]
  place earlier other later heq := by
    cases earlier with
    | nil =>
      obtain ⟨rfl, rfl⟩ := List.cons.inj heq
      exact ⟨t, by simp [Block.insertAll], by rw [hplace]; simp⟩
    | cons first earlier =>
      obtain ⟨rfl, hrest⟩ := List.cons.inj heq
      obtain ⟨u, hu, hother⟩ := h.place earlier other later hrest
      have hne : sec ≠ other := fun heq => hsec (by rw [hrest, heq]; simp)
      refine ⟨u, ?_, ?_⟩
      · rw [List.filter_cons_of_pos (by simp), filter_sec_mem_cons (h.sec_ne hsec),
          Block.insertAll_cons ht₁, hu]
      · rw [List.find?_cons_of_neg (by simpa using hne), hother]

/-- Where the anchor of a section points at a place, the section's block is put in there. -/
theorem insertSections_cons_of_place? (f : PerSection Text) (secs : List Section)
    (h : (points.get sec).place? t = some n) (hn : n ≤ t.length) :
    ∃ t₁, Block.insert ⟨sec, n, f.get sec ++ ['\n']⟩ t = some t₁ ∧
      insertSections points f (sec :: secs) t = insertSections points f secs t₁ := by
  refine ⟨_, if_pos hn, ?_⟩
  rw [insertSections, insertAt, InsertionPoint.cutAt_eq, h]
  simp

/-- Where the anchor of a section does not occur, the section is left alone. -/
theorem insertSections_cons_of_place?_eq_none (h : (points.get sec).place? t = none) :
    insertSections points f (sec :: secs) t =
      ((insertSections points f secs t).1, sec :: (insertSections points f secs t).2) := by
  rw [insertSections, insertAt, InsertionPoint.cutAt_eq, h]
  rfl

/-- Inserting in sections puts in blocks, if the anchors point at places of the text. -/
theorem exists_insertedBlocks (f : PerSection Text)
    (hinside : ∀ sec t n, (points.get sec).place? t = some n → n ≤ t.length)
    (hnodup : secs.Nodup) (t : Text) : ∃ blocks, InsertedBlocks points f secs t
      (insertSections points f secs t).1 (insertSections points f secs t).2 blocks := by
  -- The later sections are looked for in the text that the first one leaves, so the text is general.
  induction secs generalizing t with
  | nil => exact ⟨[], rfl, by simp, rfl, by simp⟩
  | cons sec secs ih =>
    obtain ⟨hsec, hnodup⟩ := List.nodup_cons.1 hnodup
    cases hplace : (points.get sec).place? t with
    | none =>
      obtain ⟨blocks, h⟩ := ih hnodup t
      rw [insertSections_cons_of_place?_eq_none hplace]
      exact ⟨blocks, h.skip hsec hplace⟩
    | some n =>
      obtain ⟨t₁, ht₁, hinsert⟩ :=
        insertSections_cons_of_place? f secs hplace (hinside _ _ _ hplace)
      obtain ⟨blocks, h⟩ := ih hnodup t₁
      rw [hinsert]
      exact ⟨_, h.put hsec (fun hmem => hsec (skipped_subset points f secs t₁ hmem)) hplace ht₁⟩

/-! ## The blocks of a plan -/

/-- Under any settings whose anchors can be used, a plan with missing codes puts one block in for each
section that it does not report, and taking the blocks out in the reverse order gives back the Swift
text. The engine that reads the patterns may be any whose matches lie in the text. -/
theorem StatusSync.plan_inserts_blocks (hinside : engine.StaysInside)
    (hready : settings.ready engine = .ok s) (hplan : s.plan proto swift false = .ok p)
    (hmissing : p.missing ≠ []) :
    ∃ blocks, InsertedBlocks s.points (settings.style.fragments p.missing) Section.all swift
        p.updated p.skipped blocks ∧
      Block.deleteAll blocks.reverse p.updated = some swift := by
  obtain ⟨codes, hp⟩ := planned_of_plan hplan
  have hresult := hp.result_of_not
  obtain ⟨hsettings, hpoints⟩ := StatusSettings.get_of_ready hready
  rw [withCodes, if_neg (by simpa using hmissing), hsettings, insertFragments] at hresult
  have hnodup : Section.all.Nodup := by decide
  obtain ⟨blocks, h⟩ := exists_insertedBlocks (settings.style.fragments p.missing)
    (fun sec _ _ => InsertionPoint.place?_le_length hinside (hpoints sec)) hnodup swift
  rw [hresult] at h
  exact ⟨blocks, h, Block.deleteAll_reverse h.insertAll⟩

/-- An empty marker, a group that takes no part, one that does, a marker that does not occur, and a
group inside the declaration that was put in first. -/
theorem StatusSync.plan_inserts_blocks_nested :
    let settings : StatusSettings := {
      StatusSettings.default with
      anchors := {
        caseDeclarations := .marker ""
        initCases := .pattern "(x)|b"
        rawValueCases := .pattern "b\\n(c)"
        allCases := .marker "none"
        nameMap := .pattern "(ok)  // = 22" } }
    let swift : Text := "a\nb\nc"
    ∃ s p blocks, PatternEngine.standard.StaysInside ∧ settings.ready .standard = .ok s ∧
      s.plan oneCode swift false = .ok p ∧ p.missing ≠ [] ∧
      p.skipped = [.allCases] ∧
      p.updated = "    case             22: \"OK\",\nok  // = 22\n\na\n".toList ++
        "        case 22: self = .ok\nb\n        case .ok: return 22\nc" ∧
      InsertedBlocks s.points (settings.style.fragments p.missing) Section.all swift p.updated
        p.skipped blocks ∧
      Block.deleteAll blocks.reverse p.updated = some swift := by
  intro settings swift
  obtain ⟨s, hready, hwith⟩ : ∃ s, settings.ready = .ok s ∧
      s.withCodes [⟨"OK", 22, [], false⟩] swift =
        ("    case             22: \"OK\",\nok  // = 22\n\na\n".toList ++
          "        case 22: self = .ok\nb\n        case .ok: return 22\nc", [.allCases]) :=
    ⟨_, rfl, by decide +kernel⟩
  have hread : StatusCode.ofProto? s.settings.enumName oneCode = some [⟨"OK", 22, [], false⟩] := by
    rw [(StatusSettings.get_of_ready hready).1]
    decide +kernel
  obtain ⟨p, hp, hplanned⟩ := exists_plan hread swift false
  have hmissing : p.missing = [⟨"OK", 22, [], false⟩] := by
    rw [hplanned.missing]
    exact missingCodes_eq_singleton (by decide +kernel)
  have hresult := hplanned.result_of_not
  rw [hmissing, hwith, Prod.mk.injEq] at hresult
  have hne : p.missing ≠ [] := by simp [hmissing]
  obtain ⟨blocks, hblocks, hdelete⟩ :=
    plan_inserts_blocks PatternEngine.standard_staysInside hready hp hne
  exact ⟨s, p, blocks, PatternEngine.standard_staysInside, hready, hp, hne, hresult.2.symm,
    hresult.1.symm, hblocks, hdelete⟩

end ProtoUpkeep
