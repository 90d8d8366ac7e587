import Mathlib.Data.List.Infix
import ProtoUpkeep.Proofs.Text.Search
import ProtoUpkeep.Unicode.Letter

/-!
# A word in any letter case

A word of ASCII is looked for in a text that is put in lower case. Full case mappings could find it
where it does not stand: the Kelvin sign goes to `k`, and `İ` goes to an `i` with a dot above. They
are the only characters beyond ASCII that have an ASCII letter in their lower case
(`lowerChar_beyond_ascii`), so for a word without these two letters the search finds what differs
from the word in the case of ASCII letters alone (`Text.contains_lower_iff`).
-/

namespace ProtoUpkeep

variable {c d : Char} {t u v word : Text}

/-! ## Case mappings -/

/-- What holds of each of the 128 characters of ASCII holds of an ASCII character. -/
theorem ascii_forall {p : Char → Prop} (h : ∀ n < 128, p (Char.ofNat n)) (hc : c.toNat < 128) :
    p c := by
  have := h c.toNat hc
  rwa [Char.ofNat_toNat] at this

/-- A value that is looked up is an entry. -/
theorem mem_of_lookup {α β : Type} [BEq α] [LawfulBEq α] {key : α} {value : β}
    {entries : List (α × β)} (h : entries.lookup key = some value) : (key, value) ∈ entries := by
  obtain ⟨l₁, l₂, rfl, -⟩ := List.lookup_eq_some_iff.1 h
  simp

/-- The character at a code point beyond ASCII is beyond ASCII, or the null character if the code
point is none of a character. -/
theorem toNat_ofNat_of_le {n : Nat} (h : 128 ≤ n) :
    128 ≤ (Char.ofNat n).toNat ∨ (Char.ofNat n).toNat = 0 := by
  by_cases hv : n.isValidChar
  · have hofNat : Char.ofNat n = Char.ofNatAux n hv := dif_pos hv
    have hn : (Char.ofNat n).toNat = n := by rw [hofNat]; rfl
    exact .inl (by rwa [hn])
  · exact .inr (by simp [Char.ofNat, hv, Char.toNat])

/-- A code point is mapped to itself or shifted by a run that it lies in. -/
theorem CaseRun.image_cases (runs : List CaseRun) (n : Nat) : CaseRun.image runs n = n ∨
    ∃ r ∈ runs, r.span.first ≤ n ∧ n ≤ r.span.last ∧
      CaseRun.image runs n = (n + r.shift).toNat := by
  unfold CaseRun.image
  cases hfind : runs.find? (·.span.has n) with
  | none => exact .inl rfl
  | some r =>
    have hhas : r.span.has n = true := by simpa using List.find?_some hfind
    simp only [Span.has, Bool.and_eq_true, decide_eq_true_eq] at hhas
    exact .inr ⟨r, List.mem_of_find?_eq_some hfind, hhas.1.1, hhas.1.2, rfl⟩

/-- No character vanishes in lower case. -/
theorem lowerChar_ne_nil (c : Char) : lowerChar c ≠ [] := by
  unfold lowerChar
  split
  · simp
  · split <;> simp

/-- No character vanishes in upper case. -/
theorem upperChar_ne_nil (c : Char) : upperChar c ≠ [] := by
  have hexpansions : ∀ e ∈ upperExpansions, e.2 ≠ [] := by decide
  unfold upperChar
  split
  · simp
  · split
    · next ns hlookup =>
      rw [ne_eq, List.map_eq_nil_iff]
      exact hexpansions _ (mem_of_lookup hlookup)
    · simp

/-! ## What goes to letters of ASCII -/

/-- A run that takes code points beyond ASCII, or the Kelvin sign to `k`. -/
def CaseRun.LeavesAscii (r : CaseRun) : Prop :=
  128 ≤ r.span.first + r.shift ∨
    r.span.first = r.span.last ∧ Char.ofNat (r.span.first + r.shift).toNat = 'k'

instance (r : CaseRun) : Decidable r.LeavesAscii :=
  inferInstanceAs (Decidable (128 ≤ r.span.first + r.shift ∨
    r.span.first = r.span.last ∧ Char.ofNat (r.span.first + r.shift).toNat = 'k'))

/-- The lower-case mappings lead into ASCII from the Kelvin sign alone. -/
theorem leavesAscii_lowerRuns : ∀ r ∈ lowerRuns, r.LeavesAscii := by decide +kernel

/-- A character of ASCII that is no lower case of one beyond it. The null character stands for code
points that are no characters. -/
def IsAsciiOnly (c : Char) : Prop := c.toNat < 128 ∧ c.toNat ≠ 0 ∧ c ≠ 'i' ∧ c ≠ 'k'

instance : DecidablePred IsAsciiOnly := fun c =>
  inferInstanceAs (Decidable (c.toNat < 128 ∧ c.toNat ≠ 0 ∧ c ≠ 'i' ∧ c ≠ 'k'))

/-- The character at a code point beyond ASCII is none of ASCII. -/
theorem not_isAsciiOnly_ofNat {n : Nat} (h : 128 ≤ n) : ¬ IsAsciiOnly (Char.ofNat n) := by
  rintro ⟨hlt, hne, -⟩
  rcases toNat_ofNat_of_le h with hle | heq
  · omega
  · exact hne heq

/-- The lower case of a character beyond ASCII has no letter of ASCII but `i` and `k`. -/
theorem lowerChar_beyond_ascii (hc : ¬ c.toNat < 128) (hd : d ∈ lowerChar c) :
    ¬ IsAsciiOnly d := by
  rw [lowerChar, if_neg hc] at hd
  split at hd
  · simp only [List.mem_cons, List.not_mem_nil, or_false] at hd
    rcases hd with rfl | rfl <;> decide
  · rw [List.mem_singleton.1 hd]
    rcases CaseRun.image_cases lowerRuns c.toNat with heq | ⟨r, hr, hfirst, hlast, heq⟩
    · rw [heq]
      exact not_isAsciiOnly_ofNat (Nat.le_of_not_lt hc)
    · rw [heq]
      rcases leavesAscii_lowerRuns r hr with hbeyond | ⟨hone, hk⟩
      · exact not_isAsciiOnly_ofNat (show 128 ≤ (c.toNat + r.shift).toNat by omega)
      · have hsame : c.toNat = r.span.first := by omega
        rw [hsame, hk]
        decide

/-- Lower case of ASCII leaves what is beyond it. -/
theorem not_isAsciiOnly_toLower (hc : ¬ c.toNat < 128) : ¬ IsAsciiOnly c.toLower := by
  have hsame : c.toLower = c :=
    dif_neg fun h => hc (Nat.lt_of_le_of_lt (show c.toNat ≤ 90 from h.2) (by decide))
  rw [hsame]
  exact fun h => hc h.1

namespace Text

/-- The text holds the word, which is in lower case, in some letter case. -/
def HoldsInSomeCase (word t : Text) : Prop := ∃ w, w <:+: t ∧ w.map Char.toLower = word

theorem holdsInSomeCase_iff : HoldsInSomeCase word t ↔ word <:+: t.map Char.toLower := by
  rw [List.infix_map_iff]
  exact exists_congr fun w => and_congr_right fun _ => eq_comm

instance (word t : Text) : Decidable (HoldsInSomeCase word t) :=
  decidable_of_iff (word <:+: t.map Char.toLower) holdsInSomeCase_iff.symm

/-- The lower case of one character in a text. -/
theorem exists_lower_cons (behind : Text) (c : Char) (t : Text) :
    ∃ image, lower.go behind (c :: t) = image ++ lower.go (c :: behind) t ∧
      (c.toNat < 128 ∧ image = [c.toLower] ∨
        ¬ c.toNat < 128 ∧ image ≠ [] ∧ ∀ d ∈ image, ¬ IsAsciiOnly d) := by
  refine ⟨_, rfl, ?_⟩
  by_cases hc : c.toNat < 128
  · have hsigma : (c == 'Σ') = false := by
      rw [beq_eq_false_iff_ne]
      rintro rfl
      exact absurd hc (by decide)
    exact .inl ⟨hc, by simp [hsigma, lowerChar, hc]⟩
  · refine .inr ⟨hc, ?_⟩
    split
    · split <;> exact ⟨by decide, List.forall_mem_singleton.2 (by decide)⟩
    · exact ⟨lowerChar_ne_nil c, fun d hd => lowerChar_beyond_ascii hc hd⟩

/-- What a text starts with, in lower case. -/
theorem prefix_lower_iff (hword : ∀ d ∈ word, IsAsciiOnly d) (behind : Text) :
    word <+: lower.go behind t ↔ word <+: t.map Char.toLower := by
  induction t generalizing word behind with
  | nil => rfl
  | cons c t ih =>
    cases word with
    | nil => simp
    | cons d word =>
      obtain ⟨image, himage, ⟨hc, rfl⟩ | ⟨hc, hne, hbeyond⟩⟩ := exists_lower_cons behind c t
      · rw [himage, List.map_cons, List.singleton_append, List.cons_prefix_cons,
          List.cons_prefix_cons, ih fun e he => hword e (by simp [he])]
      · obtain ⟨e, image, rfl⟩ := List.exists_cons_of_ne_nil hne
        rw [himage, List.map_cons, List.cons_append, List.cons_prefix_cons, List.cons_prefix_cons]
        refine iff_of_false ?_ ?_
        · rintro ⟨rfl, -⟩
          exact hbeyond d (by simp) (hword d (by simp))
        · rintro ⟨rfl, -⟩
          exact not_isAsciiOnly_toLower hc (hword _ (by simp))

/-- A needle occurs only behind characters that it does not start with. -/
theorem infix_append_iff_of_not_mem (h : d ∉ u) : d :: word <:+: u ++ v ↔ d :: word <:+: v := by
  induction u with
  | nil => rfl
  | cons e u ih =>
    rw [List.mem_cons, not_or] at h
    rw [List.cons_append, List.infix_cons_iff, List.cons_prefix_cons, ih h.2]
    simp [h.1]

/-- What a text holds, in lower case. -/
theorem infix_lower_iff (hword : ∀ d ∈ word, IsAsciiOnly d) (hne : word ≠ []) (behind : Text) :
    word <:+: lower.go behind t ↔ word <:+: t.map Char.toLower := by
  induction t generalizing behind with
  | nil => rfl
  | cons c t ih =>
    obtain ⟨image, himage, ⟨hc, rfl⟩ | ⟨hc, -, hbeyond⟩⟩ := exists_lower_cons behind c t
    · have hpre := prefix_lower_iff (t := c :: t) hword behind
      rw [himage, List.singleton_append] at hpre
      rw [himage, List.map_cons, List.singleton_append, List.infix_cons_iff, List.infix_cons_iff,
        hpre, ih, List.map_cons]
    · obtain ⟨d, word, rfl⟩ := List.exists_cons_of_ne_nil hne
      have hd := hword d (by simp)
      have hmap : d ∉ [c.toLower] := by
        rw [List.mem_singleton]
        rintro rfl
        exact not_isAsciiOnly_toLower hc hd
      rw [himage, infix_append_iff_of_not_mem fun hmem => hbeyond d hmem hd, ih, List.map_cons,
        ← infix_append_iff_of_not_mem hmap, List.singleton_append]

/-- A word of ASCII without the two letters that are lower case of something else is found in the
lower case of a text exactly where the text holds it in some letter case. -/
theorem contains_lower_iff (hword : ∀ d ∈ word, IsAsciiOnly d) (hne : word ≠ []) :
    t.lower.contains word = true ↔ HoldsInSomeCase word t := by
  rw [contains, isSome_cutAt_iff, holdsInSomeCase_iff, lower, infix_lower_iff hword hne]

end Text

end ProtoUpkeep
