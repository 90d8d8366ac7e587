import ProtoUpkeep.Proofs.Text.LetterCase
import ProtoUpkeep.Proofs.Text.Lines
import ProtoUpkeep.Proofs.Text.Runs
import ProtoUpkeep.Status.Fragments
import ProtoUpkeep.Status.Settings

/-!
# What Swift identifiers are made of

The name of a proto value is made of word characters, of any script. Its Swift identifier is a
change of case, and case mappings lead out of the word characters. They never lead to a punctuation
mark or a control character of ASCII, though, because the tables map to letters and to code points
beyond ASCII only (`IsNameChar`, `mem_name_or_isNameChar`). For an ASCII name with a letter or a
digit in it the identifier is a word that is not empty (`Plain.isWord_of_mem_name`,
`Plain.name_ne_nil`).
-/

namespace ProtoUpkeep

variable {c d : Char} {acronyms : Dictionary} {name t : Text}

/-! ## Case mappings -/

/-- A character that a case mapping may give: a word character of ASCII, one beyond ASCII, or the
null character, which stands for code points that are no characters. -/
def IsNameChar (c : Char) : Prop := isAsciiWord c = true ∨ 128 ≤ c.toNat ∨ c.toNat = 0

instance : DecidablePred IsNameChar := fun c =>
  inferInstanceAs (Decidable (isAsciiWord c = true ∨ 128 ≤ c.toNat ∨ c.toNat = 0))

/-- A word character is a character of names. -/
theorem isNameChar_of_isWord (h : isWord c = true) : IsNameChar c := by
  unfold isWord at h
  split at h
  · exact .inl h
  · next hlt => exact .inr (.inl (Nat.le_of_not_lt hlt))

/-- A word character of ASCII is a word character. -/
theorem isWord_of_isAsciiWord (h : isAsciiWord c = true) : isWord c = true := by
  have hle : ∀ {d : Char}, c ≤ d → d.toNat < 128 → c.toNat < 128 := fun hc hd =>
    Nat.lt_of_le_of_lt hc hd
  have hlt : c.toNat < 128 := by
    have hcases := h
    simp only [isAsciiWord, isAsciiDigit, Bool.or_eq_true, Bool.and_eq_true, decide_eq_true_eq,
      beq_iff_eq] at hcases
    rcases hcases with ((hc | hc) | hc) | rfl
    · exact hle hc.2 (by decide)
    · exact hle hc.2 (by decide)
    · exact hle hc.2 (by decide)
    · decide
  rwa [isWord, if_pos hlt]

/-- The character at a code point beyond ASCII is a character of names. -/
theorem isNameChar_ofNat {n : Nat} (h : 128 ≤ n) : IsNameChar (Char.ofNat n) :=
  .inr (toNat_ofNat_of_le h)

/-- A run that takes code points to characters of names: beyond ASCII, or a single one. -/
def CaseRun.Named (r : CaseRun) : Prop :=
  128 ≤ r.span.first + r.shift ∨
    r.span.first = r.span.last ∧ IsNameChar (Char.ofNat (r.span.first + r.shift).toNat)

instance (r : CaseRun) : Decidable r.Named :=
  inferInstanceAs (Decidable (128 ≤ r.span.first + r.shift ∨
    r.span.first = r.span.last ∧ IsNameChar (Char.ofNat (r.span.first + r.shift).toNat)))

/-- The image of a code point beyond ASCII is a character of names. -/
theorem CaseRun.isNameChar_image {runs : List CaseRun} (hruns : ∀ r ∈ runs, r.Named) {n : Nat}
    (hn : 128 ≤ n) : IsNameChar (Char.ofNat (CaseRun.image runs n)) := by
  rcases CaseRun.image_cases runs n with heq | ⟨r, hr, hfirst, hlast, heq⟩
  · rw [heq]
    exact isNameChar_ofNat hn
  · rw [heq]
    rcases hruns r hr with hbeyond | ⟨hone, hchar⟩
    · exact isNameChar_ofNat (show 128 ≤ (n + r.shift).toNat by omega)
    · obtain rfl : n = r.span.first := by omega
      exact hchar

/-- The lower-case mappings give characters of names. -/
theorem named_lowerRuns : ∀ r ∈ lowerRuns, r.Named := by decide +kernel

/-- The upper-case mappings to one character give characters of names. -/
theorem named_upperRuns : ∀ r ∈ upperRuns, r.Named := by decide +kernel

/-- The upper-case mappings to several characters give characters of names. -/
theorem named_upperExpansions : ∀ e ∈ upperExpansions, ∀ n ∈ e.2, IsNameChar (Char.ofNat n) := by
  decide

/-- A lower-case mapping leaves a character or gives characters of names. -/
theorem eq_or_isNameChar_of_mem_lowerChar (hd : d ∈ lowerChar c) : d = c ∨ IsNameChar d := by
  unfold lowerChar at hd
  split at hd
  · next hlt =>
    rw [List.mem_singleton.1 hd]
    refine ascii_forall (p := fun c => c.toLower = c ∨ IsNameChar c.toLower) ?_ hlt
    decide
  · next hlt =>
    right
    split at hd
    · simp only [List.mem_cons, List.not_mem_nil, or_false] at hd
      rcases hd with rfl | rfl <;> decide
    · rw [List.mem_singleton.1 hd]
      exact CaseRun.isNameChar_image named_lowerRuns (Nat.le_of_not_lt hlt)

/-- An upper-case mapping leaves a character or gives characters of names. -/
theorem eq_or_isNameChar_of_mem_upperChar (hd : d ∈ upperChar c) : d = c ∨ IsNameChar d := by
  unfold upperChar at hd
  split at hd
  · next hlt =>
    rw [List.mem_singleton.1 hd]
    refine ascii_forall (p := fun c => c.toUpper = c ∨ IsNameChar c.toUpper) ?_ hlt
    decide
  · next hlt =>
    right
    split at hd
    · next ns hlookup =>
      obtain ⟨n, hn, rfl⟩ := List.mem_map.1 hd
      exact named_upperExpansions _ (mem_of_lookup hlookup) n hn
    · rw [List.mem_singleton.1 hd]
      exact CaseRun.isNameChar_image named_upperRuns (Nat.le_of_not_lt hlt)

/-- Lower case of an ASCII word character is one. -/
theorem isAsciiWord_of_mem_lowerChar (hc : isAsciiWord c = true) (hlt : c.toNat < 128)
    (hd : d ∈ lowerChar c) : isAsciiWord d = true := by
  rw [lowerChar, if_pos hlt, List.mem_singleton] at hd
  rw [hd]
  refine ascii_forall (p := fun c => isAsciiWord c = true → isAsciiWord c.toLower = true) ?_ hlt hc
  decide

/-- Upper case of an ASCII word character is one. -/
theorem isAsciiWord_of_mem_upperChar (hc : isAsciiWord c = true) (hlt : c.toNat < 128)
    (hd : d ∈ upperChar c) : isAsciiWord d = true := by
  rw [upperChar, if_pos hlt, List.mem_singleton] at hd
  rw [hd]
  refine ascii_forall (p := fun c => isAsciiWord c = true → isAsciiWord c.toUpper = true) ?_ hlt hc
  decide

/-! ## Identifiers -/

/-- What the case mappings give of the characters of a name. -/
structure CaseClosed (p : Char → Prop) (name : Text) : Prop where
  /-- The two lower-case forms of a sigma. -/
  sigma : 'Σ' ∈ name → p 'ς' ∧ p 'σ'
  /-- The lower-case forms of all characters. -/
  lower : ∀ c ∈ name, ∀ d ∈ lowerChar c, p d
  /-- The upper-case forms of all characters. -/
  upper : ∀ c ∈ name, ∀ d ∈ upperChar c, p d

variable {p : Char → Prop}

/-- A text of characters of a name is closed as the name is. -/
theorem CaseClosed.mono (h : CaseClosed p name) (ht : ∀ c ∈ t, c ∈ name) : CaseClosed p t where
  sigma hc := h.sigma (ht _ hc)
  lower c hc := h.lower c (ht c hc)
  upper c hc := h.upper c (ht c hc)

/-- What holds of the case mappings of a text holds of the text in lower case. -/
theorem CaseClosed.forall_mem_lower (h : CaseClosed p t) : ∀ d ∈ t.lower, p d := by
  unfold Text.lower
  generalize ([] : Text) = behind
  induction t generalizing behind with
  | nil => simp [Text.lower.go]
  | cons c t ih =>
    intro d hd
    rcases List.mem_append.1 hd with hd | hd
    · split at hd
      · next hsigma =>
        have hc : 'Σ' ∈ c :: t := by
          rw [beq_iff_eq.1 hsigma]
          exact List.mem_cons_self
        split at hd <;> rw [List.mem_singleton.1 hd]
        · exact (h.sigma hc).1
        · exact (h.sigma hc).2
      · exact h.lower c (by simp) d hd
    · exact ih (h.mono fun c hc => by simp [hc]) _ d hd

/-- What holds of the case mappings of a text holds of the text capitalized. -/
theorem CaseClosed.forall_mem_capitalize (h : CaseClosed p t) : ∀ d ∈ t.capitalize, p d := by
  intro d hd
  cases t with
  | nil => cases hd
  | cons c t =>
    rcases List.mem_append.1 hd with hd | hd
    · exact h.upper c (by simp) d hd
    · obtain ⟨e, he, hd⟩ := List.mem_flatMap.1 hd
      exact h.lower e (by simp [he]) d hd

/-- What holds of the case mappings of a name and of the acronyms holds of the identifier. -/
theorem CaseClosed.forall_mem_swiftName (h : CaseClosed p name)
    (hacr : ∀ e ∈ acronyms.entries, ∀ d ∈ e.2, p d) : ∀ d ∈ swiftName acronyms name, p d := by
  have hpiece : ∀ q ∈ name.pieces '_', CaseClosed p q := fun q hq =>
    h.mono fun c hc => (Text.mem_pieces_iff.1 ⟨q, hq, hc⟩).1
  unfold swiftName
  intro d hd
  split at hd
  · cases hd
  · next first others heq =>
    rw [heq] at hpiece
    rcases List.mem_append.1 hd with hd | hd
    · exact (hpiece first (by simp)).forall_mem_lower d hd
    · obtain ⟨segment, hseg, hd⟩ := List.mem_flatMap.1 hd
      unfold swiftSegment at hd
      cases hget : acronyms.get? segment with
      | none =>
        rw [hget] at hd
        exact (hpiece segment (by simp [hseg])).forall_mem_capitalize d hd
      | some value =>
        rw [hget] at hd
        exact hacr _ (mem_of_lookup hget) d hd

/-- A name with a character beside underscores has an identifier that is not empty, if no acronym is
spelled as the empty text. -/
theorem swiftName_ne_nil (hacr : ∀ e ∈ acronyms.entries, e.2 ≠ []) (hc : c ∈ name) (hne : c ≠ '_') :
    swiftName acronyms name ≠ [] := by
  obtain ⟨q, hq, hcq⟩ := Text.mem_pieces_iff.2 ⟨hc, hne⟩
  obtain ⟨e, q, rfl⟩ := List.exists_cons_of_ne_nil (List.ne_nil_of_mem hcq)
  unfold swiftName
  split
  · next heq => rw [heq] at hq; cases hq
  · next first others heq =>
    rw [heq] at hq
    intro hnil
    obtain ⟨hfirst, hothers⟩ := List.append_eq_nil_iff.1 hnil
    rcases List.mem_cons.1 hq with rfl | hq
    · obtain ⟨himage, -⟩ := List.append_eq_nil_iff.1 hfirst
      split at himage
      · split at himage <;> cases himage
      · exact lowerChar_ne_nil e himage
    · have hseg := List.flatMap_eq_nil_iff.1 hothers _ hq
      unfold swiftSegment at hseg
      cases hget : acronyms.get? (e :: q) with
      | none =>
        rw [hget] at hseg
        exact upperChar_ne_nil e (List.append_eq_nil_iff.1 hseg).1
      | some value =>
        rw [hget] at hseg
        exact hacr _ (mem_of_lookup hget) hseg

/-! ## The names of codes -/

/-- The default acronyms are words of ASCII and not empty. -/
theorem isAsciiWord_defaultAcronyms : ∀ e ∈ StatusSettings.defaultAcronyms.entries,
    e.2 ≠ [] ∧ ∀ c ∈ e.2, isAsciiWord c = true := by
  have hall : (StatusSettings.defaultAcronyms.entries.all fun e =>
      !e.2.isEmpty && e.2.all isAsciiWord) = true := by decide
  intro e he
  have := List.all_eq_true.1 hall e he
  simpa using this

namespace StatusCode

/-- The name of the code is ASCII and has a letter or a digit in it. -/
def Plain (c : StatusCode) : Prop :=
  (∀ x ∈ c.name, x.toNat < 128) ∧ ∃ x ∈ c.name, x.isAlphanum = true

instance : DecidablePred Plain := fun c =>
  decidable_of_iff
    (((c.name.all fun x => decide (x.toNat < 128)) && c.name.any Char.isAlphanum) = true)
    (by simp [Plain])

variable {code : StatusCode}

/-- The identifier of a code is made of characters of its name and characters of names. -/
theorem mem_name_or_isNameChar :
    ∀ d ∈ StatusSettings.default.style.name code, d ∈ code.name ∨ IsNameChar d := by
  have hacr : ∀ e ∈ StatusSettings.defaultAcronyms.entries, ∀ d ∈ e.2,
      d ∈ code.name ∨ IsNameChar d := fun e he d hd =>
    .inr (.inl ((isAsciiWord_defaultAcronyms e he).2 d hd))
  have hsigma : IsNameChar 'ς' ∧ IsNameChar 'σ' := by decide
  refine CaseClosed.forall_mem_swiftName ⟨fun _ => hsigma.imp .inr .inr, fun c hc d hd => ?_,
    fun c hc d hd => ?_⟩ hacr
  · refine (eq_or_isNameChar_of_mem_lowerChar hd).imp_left ?_
    rintro rfl
    exact hc
  · refine (eq_or_isNameChar_of_mem_upperChar hd).imp_left ?_
    rintro rfl
    exact hc

/-- The identifier of a code with a name of word characters is made of characters of names. -/
theorem isNameChar_of_mem_name (hword : ∀ c ∈ code.name, isWord c = true) :
    ∀ d ∈ StatusSettings.default.style.name code, IsNameChar d := fun d hd =>
  (mem_name_or_isNameChar d hd).elim (fun hmem => isNameChar_of_isWord (hword d hmem)) id

/-- The identifier of a code with a plain name is a word. -/
theorem Plain.isWord_of_mem_name (h : code.Plain) (hword : ∀ c ∈ code.name, isWord c = true) :
    ∀ d ∈ StatusSettings.default.style.name code, isWord d = true := by
  have hascii : ∀ c ∈ code.name, isAsciiWord c = true := fun c hc => by
    have := hword c hc
    rwa [isWord, if_pos (h.1 c hc)] at this
  have hname : ∀ d ∈ StatusSettings.default.style.name code, isAsciiWord d = true := by
    refine CaseClosed.forall_mem_swiftName ⟨fun hsigma => ?_, fun c hc d hd => ?_,
      fun c hc d hd => ?_⟩ fun e he d hd => (isAsciiWord_defaultAcronyms e he).2 d hd
    · exact absurd (h.1 _ hsigma) (by decide)
    · exact isAsciiWord_of_mem_lowerChar (hascii c hc) (h.1 c hc) hd
    · exact isAsciiWord_of_mem_upperChar (hascii c hc) (h.1 c hc) hd
  exact fun d hd => isWord_of_isAsciiWord (hname d hd)

/-- The identifier of a code with a plain name is not empty. -/
theorem Plain.name_ne_nil (h : code.Plain) : StatusSettings.default.style.name code ≠ [] := by
  obtain ⟨c, hc, halnum⟩ := h.2
  refine swiftName_ne_nil (fun e he => (isAsciiWord_defaultAcronyms e he).1) hc ?_
  rintro rfl
  exact absurd halnum (by decide)

end StatusCode

end ProtoUpkeep
