import Mathlib.Data.Bool.AllAny
import Mathlib.Data.List.TakeWhile
import ProtoUpkeep.Text.Decimal

/-!
# Runs of characters

The recognisers of the library read a text by runs: as many blanks, digits or word characters as
there are. This module says what a run is in terms of the text that is read (`run?_eq_some_iff`,
`dropBlanks?_eq_some_iff`, `trimStart_append`), that no blank is a word character, and that the
decimal digits of a number are read back as that number (`readCode?_ofNat`).
-/

namespace ProtoUpkeep

/-! ## Classes of characters -/

/-- A digit is a word character. -/
theorem isWord_of_isDigit {c : Char} (h : isDigit c = true) : isWord c = true := by
  unfold isDigit at h
  unfold isWord
  split at h
  · next hlt => simp [hlt, isAsciiWord, h]
  · next hlt => simp [hlt, h]

/-- The blanks from U+2000 to U+200A are not word characters. -/
theorem isWord_spaces : ∀ k < 11, isWord (Char.ofNat (0x2000 + k)) = false := by
  decide +kernel

/-- The blanks from tab to carriage return are not word characters. -/
theorem isWord_controls : ∀ k < 5, isWord (Char.ofNat (9 + k)) = false := by
  decide +kernel

/-- A blank is not a word character. -/
theorem isWord_of_isBlank {c : Char} (h : isBlank c = true) : isWord c = false := by
  have hrange : ∀ {a n : Nat}, (∀ k < n, isWord (Char.ofNat (a + k)) = false) →
      a ≤ c.toNat → c.toNat < a + n → isWord c = false := by
    intro a n hk hle hlt
    have := hk (c.toNat - a) (by omega)
    rwa [Nat.add_sub_cancel' hle, Char.ofNat_toNat] at this
  simp only [isBlank, Bool.or_eq_true, Bool.and_eq_true, beq_iff_eq, decide_eq_true_eq] at h
  rcases h with
    (((((((((rfl | ⟨h₁, h₂⟩) | rfl) | rfl) | rfl) | ⟨h₁, h₂⟩) | rfl) | rfl) | rfl) | rfl) | rfl
  · decide
  · exact hrange isWord_controls h₁ (Nat.lt_succ_of_le h₂)
  · decide +kernel
  · decide +kernel
  · decide +kernel
  · exact hrange isWord_spaces h₁ (Nat.lt_succ_of_le h₂)
  · decide +kernel
  · decide +kernel
  · decide +kernel
  · decide +kernel
  · decide +kernel

/-- A word character is no blank. -/
theorem isBlank_of_isWord {c : Char} (h : isWord c = true) : isBlank c = false := by
  by_contra hb
  rw [isWord_of_isBlank (by simpa using hb)] at h
  cases h

/-- A digit is no blank. -/
theorem isBlank_of_isDigit {c : Char} (h : isDigit c = true) : isBlank c = false :=
  isBlank_of_isWord (isWord_of_isDigit h)

/-- The digits of the decimal notation are digits. -/
theorem isDigit_of_isDigit {c : Char} (h : c.isDigit = true) : isDigit c = true := by
  simp only [Char.isDigit, Bool.and_eq_true, decide_eq_true_eq] at h
  have h₁ : '0' ≤ c := h.1
  have h₂ : c ≤ '9' := h.2
  have hlt : c.toNat < 128 := Nat.lt_of_le_of_lt (show c.toNat ≤ 57 from h₂) (by decide)
  simp [isDigit, isAsciiDigit, hlt, h₁, h₂]

namespace Text

variable {p : Char → Bool} {t run rest blanks : Text}

/-! ## Runs -/

/-- A run ends where no further character of its kind follows. -/
theorem run?_append (hne : run ≠ []) (hrun : ∀ c ∈ run, p c = true)
    (hrest : rest.head?.any p = false) : run? p (run ++ rest) = some (run, rest) := by
  have htake : rest.takeWhile p = [] := by cases rest <;> simp_all
  have hdrop : rest.dropWhile p = rest := by cases rest <;> simp_all
  simp [run?, List.takeWhile_append_of_pos hrun, List.dropWhile_append_of_pos hrun, htake, hdrop,
    hne]

/-- What is left behind the longest run does not start with a character of its kind. -/
theorem head?_dropWhile_any (p : Char → Bool) (t : Text) :
    (t.dropWhile p).head?.any p = false := by
  induction t with
  | nil => rfl
  | cons c t ih => by_cases hc : p c = true <;> simp [hc, ih]

/-- A run is a longest non-empty one. -/
theorem run?_eq_some_iff : run? p t = some (run, rest) ↔
    t = run ++ rest ∧ run ≠ [] ∧ (∀ c ∈ run, p c = true) ∧ rest.head?.any p = false := by
  constructor
  · intro h
    simp only [run?] at h
    split at h
    · cases h
    · next hne =>
      cases h
      exact ⟨List.takeWhile_append_dropWhile.symm, by simpa using hne,
        fun c hc => List.mem_takeWhile_imp hc, head?_dropWhile_any p t⟩
  · rintro ⟨rfl, hne, hrun, hrest⟩
    exact run?_append hne hrun hrest

/-- Where there is no run no character of its kind comes first. -/
theorem head?_any_of_run?_eq_none (h : run? p t = none) : t.head?.any p = false := by
  cases t with
  | nil => rfl
  | cons c t =>
    by_cases hc : p c = true
    · simp [run?, hc] at h
    · simpa using hc

/-! ## What stands in front of a character -/

/-- What stands in front of the first occurrence of a character is settled by the text that has
one. -/
theorem takeWhile_append_of_mem {c : Char} (hc : c ∈ run) (t : Text) :
    (run ++ t).takeWhile (· != c) = run.takeWhile (· != c) := by
  induction run with
  | nil => cases hc
  | cons d run ih =>
    by_cases hd : d = c
    · simp [hd]
    · have hrun : c ∈ run := (List.mem_cons.1 hc).resolve_left (Ne.symm hd)
      simp [hd, ih hrun]

/-- What stands in front of the first occurrence of a character, behind a text without one. -/
theorem takeWhile_append_of_not_mem {c : Char} (hc : c ∉ run) (t : Text) :
    (run ++ t).takeWhile (· != c) = run ++ t.takeWhile (· != c) := by
  refine List.takeWhile_append_of_pos fun d hd => ?_
  rw [bne_iff_ne]
  rintro rfl
  exact hc hd

/-- A text without a character stands in front of its first occurrence. -/
theorem takeWhile_append_cons {c : Char} (hc : c ∉ run) (t : Text) :
    (run ++ c :: t).takeWhile (· != c) = run := by
  rw [takeWhile_append_of_not_mem hc, List.takeWhile_cons_of_neg (by simp), List.append_nil]

/-! ## Blanks -/

/-- Only the blanks at the start are trimmed. -/
theorem trimStart_append (hb : ∀ c ∈ blanks, isBlank c = true)
    (hrest : rest.head?.any isBlank = false) : trimStart (blanks ++ rest) = rest := by
  rw [trimStart, List.dropWhile_append_of_pos hb]
  cases rest <;> simp_all

/-- A text is its blanks at the start and the trimmed text. -/
theorem exists_trimStart (t : Text) : ∃ blanks, (∀ c ∈ blanks, isBlank c = true) ∧
    t = blanks ++ trimStart t ∧ (trimStart t).head?.any isBlank = false :=
  ⟨t.takeWhile isBlank, fun _ hc => List.mem_takeWhile_imp hc,
    List.takeWhile_append_dropWhile.symm, head?_dropWhile_any isBlank t⟩

/-- Blanks that are dropped are all the blanks at the start, and there is one. -/
theorem dropBlanks?_eq_some_iff : dropBlanks? t = some rest ↔
    ∃ blanks, t = blanks ++ rest ∧ blanks ≠ [] ∧ (∀ c ∈ blanks, isBlank c = true) ∧
      rest.head?.any isBlank = false := by
  simp [dropBlanks?, run?_eq_some_iff]

/-! ## Decimal numbers -/

/-- The decimal digits of a number are digits. -/
theorem isDigit_of_mem_ofNat {n : Nat} {c : Char} (h : c ∈ ofNat n) : isDigit c = true :=
  isDigit_of_isDigit (Nat.isDigit_of_mem_toDigits (by decide) (by decide) h)

/-- A written number is made of digits behind a minus sign, perhaps. -/
theorem isDigit_of_mem_ofInt {n : Int} {c : Char} (h : c ∈ ofInt n) : isDigit c = true ∨ c = '-' := by
  unfold ofInt at h
  split at h
  · exact (List.mem_cons.1 h).symm.imp_left isDigit_of_mem_ofNat
  · exact .inl (isDigit_of_mem_ofNat h)

/-- A number has a decimal digit. -/
theorem ofNat_ne_nil (n : Nat) : ofNat n ≠ [] := Nat.toDigits_ne_nil

/-- The value of decimal digits in front of which a number has been read. -/
theorem foldl_digitsValue? {t : Text} (h : ∀ c ∈ t, c.isDigit = true) (acc : Nat) :
    t.foldl (fun acc c => do
      let n ← acc
      let d ← digitsValue?.digitValue? c
      if d < 10 then some (n * 10 + d) else none) (some acc) =
    some (Nat.ofDigitChars 10 t acc) := by
  induction t generalizing acc with
  | nil => rfl
  | cons c t ih =>
    have hc : c.isDigit = true := h c (by simp)
    simp only [Char.isDigit, Bool.and_eq_true, decide_eq_true_eq] at hc
    have h₁ : '0' ≤ c := hc.1
    have h₂ : c ≤ '9' := hc.2
    have hval : c.toNat - '0'.toNat < 10 := by
      have : c.toNat ≤ 57 := h₂
      have : '0'.toNat = 48 := rfl
      omega
    have hd : digitsValue?.digitValue? c = some (c.toNat - '0'.toNat) := by
      simp [digitsValue?.digitValue?, h₁, h₂]
    rw [List.foldl_cons, Nat.ofDigitChars_cons, ← ih (fun d hd => h d (by simp [hd]))]
    simp only [hd, Option.bind_eq_bind, Option.bind_some, hval, if_true, Nat.mul_comm]

/-- The decimal digits of a status code's number are read back as the number. -/
theorem readCode?_ofNat {n : Nat} (h : n ≤ maxCode) : readCode? (ofNat n) = some (n : Int) := by
  have hdigits : ∀ c ∈ ofNat n, c.isDigit = true := fun c hc =>
    Nat.isDigit_of_mem_toDigits (by decide) (by decide) hc
  have hval : digitsValue? 10 (ofNat n) = some n := by
    rw [digitsValue?, foldl_digitsValue? hdigits, ofNat, Nat.ofDigitChars_ten_toDigits]
  simp [readCode?, hval, h]

end Text

end ProtoUpkeep
