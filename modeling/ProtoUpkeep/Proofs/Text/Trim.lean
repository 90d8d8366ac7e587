import ProtoUpkeep.Proofs.Text.Runs

/-!
# Trimmed texts

`Text.trim` takes the blanks off both ends of a text. A text is `Text.Trimmed` if it has none there;
the trimmed text is the one such text that the given text is, with blanks around it (`trim_append`).
-/

namespace ProtoUpkeep.Text

variable {p : Char → Bool} {c : Char} {t u a b : Text}

/-- The text neither starts nor ends with a blank. -/
def Trimmed (t : Text) : Prop :=
  t.head?.any isBlank = false ∧ t.getLast?.any isBlank = false

instance : DecidablePred Trimmed := fun t =>
  inferInstanceAs (Decidable (t.head?.any isBlank = false ∧ t.getLast?.any isBlank = false))

/-- Only the characters at the end for which `p` holds are dropped. -/
theorem dropEndWhile_append (hb : ∀ c ∈ b, p c = true) (ht : t.getLast?.any p = false) :
    dropEndWhile p (t ++ b) = t := by
  have hhead : t.reverse.head?.any p = false := by rwa [List.head?_reverse]
  rw [dropEndWhile, List.reverse_append,
    List.dropWhile_append_of_pos fun c hc => hb c (List.mem_reverse.1 hc)]
  cases hr : t.reverse with
  | nil => simp [List.reverse_eq_nil_iff.1 hr]
  | cons d r =>
    rw [hr] at hhead
    rw [List.dropWhile_cons_of_neg (by simpa using hhead), ← hr, List.reverse_reverse]

/-- A text is what is left of it and the characters that are dropped at its end. -/
theorem exists_dropEndWhile (p : Char → Bool) (t : Text) : ∃ b, (∀ c ∈ b, p c = true) ∧
    t = dropEndWhile p t ++ b ∧ (dropEndWhile p t).getLast?.any p = false := by
  refine ⟨(t.reverse.takeWhile p).reverse, fun c hc => ?_, ?_, ?_⟩
  · exact List.mem_takeWhile_imp (List.mem_reverse.1 hc)
  · rw [dropEndWhile, ← List.reverse_append, List.takeWhile_append_dropWhile, List.reverse_reverse]
  · rw [dropEndWhile, List.getLast?_reverse]
    exact head?_dropWhile_any p _

/-- Blanks around a trimmed text are what trimming takes off. -/
theorem trim_append (ha : ∀ c ∈ a, isBlank c = true) (ht : Trimmed t)
    (hb : ∀ c ∈ b, isBlank c = true) : trim (a ++ (t ++ b)) = t := by
  obtain rfl | hne := eq_or_ne t []
  · have hall : trimStart (a ++ ([] ++ b)) = [] := by
      rw [List.nil_append, trimStart, List.dropWhile_append_of_pos ha, List.dropWhile_eq_nil_iff]
      exact hb
    rw [trim, hall]
    rfl
  · have hhead : (t ++ b).head?.any isBlank = false := by
      obtain ⟨c, t, rfl⟩ := List.exists_cons_of_ne_nil hne
      simpa using ht.1
    rw [trim, trimStart_append ha hhead]
    exact dropEndWhile_append hb ht.2

/-- Trimming leaves nothing of blanks. -/
theorem trim_of_blanks (h : ∀ c ∈ t, isBlank c = true) : trim t = [] := by
  have := trim_append (t := []) h ⟨rfl, rfl⟩ (b := []) (by simp)
  simpa using this

/-- What trimming leaves is trimmed, and only blanks stood around it. -/
theorem exists_trim (t : Text) : ∃ a b, (∀ c ∈ a, isBlank c = true) ∧ (∀ c ∈ b, isBlank c = true) ∧
    t = a ++ (trim t ++ b) ∧ Trimmed (trim t) := by
  obtain ⟨a, ha, hta, hhead⟩ := exists_trimStart t
  obtain ⟨b, hb, htb, hlast⟩ := exists_dropEndWhile isBlank (trimStart t)
  refine ⟨a, b, ha, hb, ?_, ?_, hlast⟩
  · calc t = a ++ trimStart t := hta
      _ = a ++ (trim t ++ b) := congrArg (a ++ ·) htb
  · rw [htb] at hhead
    cases hr : dropEndWhile isBlank (trimStart t) with
    | nil => simp [trim, trimEnd, hr]
    | cons c r =>
      rw [hr] at hhead
      simpa [trim, trimEnd, hr] using hhead

/-- What trimming leaves is trimmed. -/
theorem trimmed_trim (t : Text) : Trimmed (trim t) := by
  obtain ⟨-, -, -, -, -, h⟩ := exists_trim t
  exact h

/-- Trimming adds no character. -/
theorem mem_of_mem_trim (h : c ∈ trim t) : c ∈ t := by
  obtain ⟨a, b, -, -, ht, -⟩ := exists_trim t
  rw [ht]
  simp [h]

/-- Trimming at the end adds no character. -/
theorem mem_of_mem_dropEndWhile (h : c ∈ dropEndWhile p t) : c ∈ t := by
  obtain ⟨b, -, ht, -⟩ := exists_dropEndWhile p t
  rw [ht]
  exact List.mem_append_left b h

/-- A trimmed text starts with a word exactly if the text does behind its blanks. -/
theorem startsWith_trim_iff {word : Text} (hblank : word.any isBlank = false) :
    word <+: trim t ↔ word <+: trimStart t := by
  obtain ⟨b, hb, ht, -⟩ := exists_dropEndWhile isBlank (trimStart t)
  change word <+: dropEndWhile isBlank (trimStart t) ↔ _
  constructor
  · intro h
    rw [ht]
    exact h.trans (List.prefix_append _ b)
  · intro h
    rw [ht] at h
    rcases List.prefix_or_prefix_of_prefix h (List.prefix_append _ b) with hin | ⟨x, hx⟩
    · exact hin
    · -- What the word has in common with the blanks at the end is nothing.
      rw [← hx] at h ⊢
      have hx' : x <+: b := (List.prefix_append_right_inj _).1 h
      obtain rfl : x = [] := by
        refine List.eq_nil_iff_forall_not_mem.2 fun c hc => ?_
        exact List.any_eq_false.1 hblank c (hx ▸ List.mem_append_right _ hc) (hb c (hx'.subset hc))
      simp

end ProtoUpkeep.Text
