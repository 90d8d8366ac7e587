import Mathlib.Data.List.Chain
import ProtoUpkeep.Proofs.Text.Runs
import ProtoUpkeep.Proofs.Text.Search
import ProtoUpkeep.Status.RawValues

/-!
# The mappings of a text that is put together

`RawValues.mappings` scans a text from the left and takes mappings that do not overlap. This module
first says which texts are mappings (`Mapping.Spelt`, with `mappingAt?_eq_some_iff`): a stem `case
NUMBER: self =`, a dot and an identifier. Two features of that form are all that the rest needs:
behind blanks only a few characters may follow (`Follows`), and there is no blank behind the dot. So
a text that starts with a blank and breaks the first rule before its first dot separates the
mappings before it from those behind (`Separates`, `mappings_append`). Where a text merely starts
with a blank, the mappings before it are kept (`mappings_sublist_append`), and one more can arise,
which completes an unfinished stem (`mem_ofSwift_append_entry`).
-/

namespace ProtoUpkeep.RawValues

open Text

variable {t u v w rest stem digits : Text} {m : Mapping} {n : Int}

/-! ## The form of a mapping -/

/-- The text of a mapping up to the blanks in front of its dot. -/
inductive Stem : (digits stem : Text) → Prop
  | mk {b₁ b₂ b₃ b₄ digits : Text} (hne : b₁ ≠ []) (h₁ : ∀ c ∈ b₁, isBlank c = true)
      (hdne : digits ≠ []) (hd : ∀ c ∈ digits, isDigit c = true)
      (h₂ : ∀ c ∈ b₂, isBlank c = true) (h₃ : ∀ c ∈ b₃, isBlank c = true)
      (h₄ : ∀ c ∈ b₄, isBlank c = true) :
      Stem digits ("case".toList ++ (b₁ ++ (digits ++ (":".toList ++ (b₂ ++ ("self".toList ++
        (b₃ ++ ("=".toList ++ b₄))))))))

/-- The text of a mapping: a stem, a dot and the identifier. -/
inductive Mapping.Spelt : Mapping → Text → Prop
  | mk {digits stem identifier : Text} (hstem : Stem digits stem) (hne : identifier ≠ [])
      (hid : ∀ c ∈ identifier, isWord c = true) :
      Mapping.Spelt ⟨digits, identifier⟩ (stem ++ '.' :: identifier)

/-- A digit run is not a blank at its start. -/
theorem head?_any_isBlank {digits rest : Text} (hne : digits ≠ [])
    (hd : ∀ c ∈ digits, isDigit c = true) : (digits ++ rest).head?.any isBlank = false := by
  obtain ⟨c, t, rfl⟩ := List.exists_cons_of_ne_nil hne
  simpa using isBlank_of_isDigit (hd c (by simp))

/-- A mapping is found in its text, in front of what does not go on with the identifier. -/
theorem Mapping.Spelt.mappingAt?_append (h : m.Spelt w) (hend : rest.head?.any isWord = false) :
    mappingAt? (w ++ rest) = some (m, rest) := by
  cases h with
  | @mk digits stem identifier hstem hwne hw =>
  cases hstem with
  | @mk b₁ b₂ b₃ b₄ _ hne hb₁ hdne hd hb₂ hb₃ hb₄ =>
  have hcolon : ∀ r : Text, (":".toList ++ r).head?.any isDigit = false := fun r => by
    simp [show isDigit ':' = false by decide]
  have hself : ∀ r : Text, ("self".toList ++ r).head?.any isBlank = false := fun r => by
    simp [show isBlank 's' = false by decide]
  have heq : ∀ r : Text, ("=".toList ++ r).head?.any isBlank = false := fun r => by
    simp [show isBlank '=' = false by decide]
  have hdot : ∀ r : Text, (".".toList ++ r).head?.any isBlank = false := fun r => by
    simp [show isBlank '.' = false by decide]
  have hblanks : ∀ r : Text, dropBlanks? (b₁ ++ (digits ++ r)) = some (digits ++ r) := fun r =>
    dropBlanks?_eq_some_iff.2 ⟨b₁, rfl, hne, hb₁, head?_any_isBlank hdne hd⟩
  have hshape : ("case".toList ++ (b₁ ++ (digits ++ (":".toList ++ (b₂ ++ ("self".toList ++
      (b₃ ++ ("=".toList ++ b₄))))))) ++ '.' :: identifier) ++ rest =
      "case".toList ++ (b₁ ++ (digits ++ (":".toList ++ (b₂ ++ ("self".toList ++ (b₃ ++
        ("=".toList ++ (b₄ ++ (".".toList ++ (identifier ++ rest)))))))))) := by simp
  rw [hshape]
  simp only [mappingAt?, Option.bind_eq_bind, dropHead?_append, Option.bind_some, hblanks,
    run?_append hdne hd (hcolon _), trimStart_append hb₂ (hself _), trimStart_append hb₃ (heq _),
    trimStart_append hb₄ (hdot _), run?_append hwne hw hend]

/-- A mapping is found at the start of a text exactly if the text starts with the text of one whose
identifier goes no further. -/
theorem mappingAt?_eq_some_iff : mappingAt? t = some (m, rest) ↔
    ∃ w, m.Spelt w ∧ t = w ++ rest ∧ rest.head?.any isWord = false := by
  constructor
  · intro h
    simp only [mappingAt?, Option.bind_eq_bind, Option.bind_eq_some_iff, Prod.exists,
      Option.some.injEq, Prod.mk.injEq] at h
    obtain ⟨t₁, h₁, t₂, h₂, digits, t₃, h₃, t₄, h₄, t₅, h₅, t₆, h₆, t₇, h₇, word, t₈, h₈, rfl,
      rfl⟩ := h
    obtain rfl := dropHead?_eq_some_iff.1 h₁
    obtain ⟨b₁, rfl, hne, hb₁, -⟩ := dropBlanks?_eq_some_iff.1 h₂
    obtain ⟨rfl, hdne, hd, -⟩ := run?_eq_some_iff.1 h₃
    obtain rfl := dropHead?_eq_some_iff.1 h₄
    obtain ⟨b₂, hb₂, e₂, -⟩ := exists_trimStart t₄
    obtain ⟨b₃, hb₃, e₃, -⟩ := exists_trimStart t₅
    obtain ⟨b₄, hb₄, e₄, -⟩ := exists_trimStart t₆
    rw [dropHead?_eq_some_iff.1 h₅] at e₂
    rw [dropHead?_eq_some_iff.1 h₆] at e₃
    rw [dropHead?_eq_some_iff.1 h₇] at e₄
    obtain ⟨rfl, hwne, hw, hend⟩ := run?_eq_some_iff.1 h₈
    refine ⟨_, ⟨⟨hne, hb₁, hdne, hd, hb₂, hb₃, hb₄⟩, hwne, hw⟩, ?_, hend⟩
    rw [e₂, e₃, e₄]
    simp
  · rintro ⟨w, hspelt, rfl, hend⟩
    exact hspelt.mappingAt?_append hend

/-! ## What every mapping has -/

/-- What may stand behind `a` in the text of a mapping: behind a blank only another blank, a digit,
`self`, `=` or a dot. -/
def Follows (a b : Char) : Prop :=
  isBlank a = true → isBlank b = true ∨ isDigit b = true ∨ b = 's' ∨ b = '=' ∨ b = '.'

instance : DecidableRel Follows := fun a b =>
  inferInstanceAs (Decidable (isBlank a = true →
    isBlank b = true ∨ isDigit b = true ∨ b = 's' ∨ b = '=' ∨ b = '.'))

/-- A run without blanks keeps the rule about blanks. -/
theorem isChain_of_no_blank {t : Text} (h : ∀ c ∈ t, isBlank c = false) : t.IsChain Follows := by
  induction t with
  | nil => exact .nil
  | cons c t ih =>
    refine List.isChain_cons.2 ⟨fun d _ hc => ?_, ih fun d hd => h d (by simp [hd])⟩
    rw [h c (by simp)] at hc
    cases hc

/-- A run of blanks keeps the rule about blanks. -/
theorem isChain_of_blanks {t : Text} (h : ∀ c ∈ t, isBlank c = true) : t.IsChain Follows := by
  induction t with
  | nil => exact .nil
  | cons c t ih =>
    refine List.isChain_cons.2 ⟨fun d hd _ => .inl (h d ?_), ih fun d hd => h d (by simp [hd])⟩
    exact List.mem_cons_of_mem c (List.mem_of_mem_head? hd)

/-- A run without blanks in front keeps the rule, whatever follows. -/
theorem isChain_append_of_no_blank {t r : Text} (ht : ∀ c ∈ t, isBlank c = false)
    (hr : r.IsChain Follows) : (t ++ r).IsChain Follows := by
  refine List.isChain_append.2 ⟨isChain_of_no_blank ht, hr, fun a ha b _ hblank => ?_⟩
  rw [ht a (List.mem_of_getLast? ha)] at hblank
  cases hblank

/-- Blanks in front keep the rule if what follows may stand behind a blank. -/
theorem isChain_append_of_blanks {t r : Text} (ht : ∀ c ∈ t, isBlank c = true)
    (hr : r.IsChain Follows)
    (hhead : ∀ b ∈ r.head?, isDigit b = true ∨ b = 's' ∨ b = '=' ∨ b = '.') :
    (t ++ r).IsChain Follows :=
  List.isChain_append.2 ⟨isChain_of_blanks ht, hr, fun _ _ b hb _ => .inr (hhead b hb)⟩

/-- The text of a mapping keeps the rule about blanks. -/
theorem Mapping.Spelt.isChain (h : m.Spelt w) : w.IsChain Follows := by
  cases h with
  | @mk digits stem identifier hstem hne hid =>
  cases hstem with
  | @mk b₁ b₂ b₃ b₄ _ _ h₁ hdne hd h₂ h₃ h₄ =>
  have hdigits : ∀ c ∈ digits, isBlank c = false := fun c hc => isBlank_of_isDigit (hd c hc)
  have hname : ∀ c ∈ '.' :: identifier, isBlank c = false := fun c hc => by
    rcases List.mem_cons.1 hc with rfl | hc
    · decide
    · exact isBlank_of_isWord (hid c hc)
  simp only [List.append_assoc]
  have hcase : ∀ c ∈ "case".toList, isBlank c = false := List.all_iff_forall_prop.1 rfl
  have hcolon : ∀ c ∈ [':'], isBlank c = false := List.all_iff_forall_prop.1 rfl
  have hself : ∀ c ∈ "self".toList, isBlank c = false := List.all_iff_forall_prop.1 rfl
  have hequals : ∀ c ∈ ['='], isBlank c = false := List.all_iff_forall_prop.1 rfl
  refine isChain_append_of_no_blank hcase (isChain_append_of_blanks h₁ ?_ ?_)
  · refine isChain_append_of_no_blank hdigits (isChain_append_of_no_blank hcolon ?_)
    refine isChain_append_of_blanks h₂ (isChain_append_of_no_blank hself ?_) (by simp)
    refine isChain_append_of_blanks h₃ (isChain_append_of_no_blank hequals ?_) (by simp)
    exact isChain_append_of_blanks h₄ (isChain_of_no_blank hname) (by simp)
  · obtain ⟨d, ds, rfl⟩ := List.exists_cons_of_ne_nil hdne
    simp only [List.cons_append, List.head?_cons, Option.mem_some_iff, forall_eq']
    exact .inl (hd d (by simp))

/-- A stem holds no dot. -/
theorem Stem.dot_not_mem (h : Stem digits stem) : '.' ∉ stem := by
  cases h with
  | @mk b₁ b₂ b₃ b₄ _ hne h₁ hdne hd h₂ h₃ h₄ =>
  have hblanks : ∀ b : Text, (∀ c ∈ b, isBlank c = true) → '.' ∉ b := fun b hb hmem =>
    absurd (hb _ hmem) (by decide)
  have hdigits : '.' ∉ digits := fun hmem => absurd (hd _ hmem) (by decide)
  simp [hblanks b₁ h₁, hblanks b₂ h₂, hblanks b₃ h₃, hblanks b₄ h₄, hdigits]

/-- A stem starts with `case`. -/
theorem Stem.startsWith_case (h : Stem digits stem) : "case".toList <+: stem := by
  cases h
  exact List.prefix_append ..

/-- The text of a mapping starts with `case`. -/
theorem Mapping.Spelt.startsWith_case (h : m.Spelt w) : "case".toList <+: w := by
  cases h with
  | mk hstem => exact hstem.startsWith_case.trans (List.prefix_append ..)

/-- The text of a mapping is not empty. -/
theorem Mapping.Spelt.ne_nil (h : m.Spelt w) : w ≠ [] := by
  rintro rfl
  exact absurd h.startsWith_case (by decide)

/-- Every mapping holds a colon, an equals sign and a dot. -/
theorem Mapping.Spelt.mem (h : m.Spelt w) : ∀ d ∈ [':', '=', '.'], d ∈ w := by
  cases h with
  | mk hstem =>
  cases hstem
  simp

/-- The part of a mapping's text behind its dot has no blank, so an end that starts with a blank
holds the dot. -/
theorem Mapping.Spelt.dot_mem_of_blank {x y : Text} (h : m.Spelt (x ++ y))
    (hy : y.head?.any isBlank = true) : '.' ∉ x ∧ '.' ∈ y := by
  generalize hw : x ++ y = w at h
  cases h with
  | @mk digits stem identifier hstem hne hid =>
  rcases List.append_eq_append_iff.1 hw with ⟨z, rfl, rfl⟩ | ⟨z, rfl, hz⟩
  · exact ⟨fun hmem => hstem.dot_not_mem (by simp [hmem]), by simp⟩
  · -- The cut lies in or behind the dot, and no blank stands there.
    exfalso
    cases z with
    | nil =>
      obtain rfl : '.' :: identifier = y := by simpa using hz
      rw [List.head?_cons, Option.any_some] at hy
      exact absurd hy (by decide)
    | cons c z =>
      obtain ⟨rfl, rfl⟩ := List.cons.inj hz
      obtain ⟨b, y, rfl⟩ : ∃ b y', y = b :: y' := by cases y <;> simp_all
      have hb : isBlank b = true := by simpa using hy
      rw [isBlank_of_isWord (hid b (by simp))] at hb
      cases hb

/-! ## Scanning -/

@[simp] theorem mappings_nil : mappings [] = [] := by
  rw [mappings]

/-- A mapping at the start of a text is the first one, and the scan goes on behind it. -/
theorem mappings_of_some (h : mappingAt? t = some (m, rest)) : mappings t = m :: mappings rest := by
  cases t with
  | nil => cases h
  | cons c t =>
    rw [mappings]
    split
    · next h' => rw [h] at h'; cases h'; rfl
    · next h' => rw [h] at h'; cases h'

/-- Where no mapping starts the scan goes on at the next character. -/
theorem mappings_of_none {c : Char} (h : mappingAt? (c :: t) = none) :
    mappings (c :: t) = mappings t := by
  rw [mappings]
  split
  · next h' => rw [h] at h'; cases h'
  · rfl

/-- A text without one of the marks of a mapping has none. -/
theorem mappings_eq_nil {d : Char} (hd : d ∈ [':', '=', '.']) (ht : d ∉ t) : mappings t = [] := by
  induction t with
  | nil => exact mappings_nil
  | cons c t ih =>
    have hnone : mappingAt? (c :: t) = none := by
      rw [Option.eq_none_iff_forall_ne_some]
      rintro ⟨m, rest⟩ h
      obtain ⟨w, hw, hcw, -⟩ := mappingAt?_eq_some_iff.1 h
      exact ht (by rw [hcw]; exact List.mem_append_left _ (hw.mem d hd))
    rw [mappings_of_none hnone, ih fun h => ht (List.mem_cons_of_mem c h)]

/-- A mapping at the start of a text is there as well if more text follows that does not continue
its identifier. -/
theorem mappingAt?_append_of_some (h : mappingAt? u = some (m, rest))
    (hv : v.head?.any isWord = false) : mappingAt? (u ++ v) = some (m, rest ++ v) := by
  obtain ⟨w, hw, rfl, hend⟩ := mappingAt?_eq_some_iff.1 h
  refine mappingAt?_eq_some_iff.2 ⟨w, hw, by simp, ?_⟩
  cases rest with
  | nil => exact hv
  | cons c rest => simpa using hend

/-- A mapping at the start of `u ++ v` lies inside `u` or has an end of its own that starts `v`. -/
theorem mappingAt?_append_cases (h : mappingAt? (u ++ v) = some (m, rest))
    (hv : v.head?.any isWord = false) :
    (∃ r, rest = r ++ v ∧ mappingAt? u = some (m, r)) ∨
      ∃ y, y ≠ [] ∧ m.Spelt (u ++ y) ∧ v = y ++ rest := by
  obtain ⟨w, hw, hwv, hend⟩ := mappingAt?_eq_some_iff.1 h
  rcases List.append_eq_append_iff.1 hwv with ⟨y, rfl, rfl⟩ | ⟨r, rfl, rfl⟩
  · obtain rfl | hy := eq_or_ne y []
    · refine .inl ⟨[], by simp, mappingAt?_eq_some_iff.2 ⟨u, ?_, by simp, rfl⟩⟩
      simpa using hw
    · exact .inr ⟨y, hy, hw, rfl⟩
  · refine .inl ⟨r, rfl, mappingAt?_eq_some_iff.2 ⟨w, hw, rfl, ?_⟩⟩
    cases r with
    | nil => rfl
    | cons c r => simpa using hend

/-! ## Texts that separate mappings -/

/-- A text that no mapping reaches into: it starts with a blank, and before its first dot it breaks
the rule about blanks. -/
def Separates (v : Text) : Prop :=
  ∃ l r, v = l ++ r ∧ l.head?.any isBlank = true ∧ '.' ∉ l ∧ ¬ l.IsChain Follows

/-- A literal that separates is one whose part before the first dot breaks the rule. -/
theorem separates_of_prefix (l : Text) (hp : l <+: v)
    (h : l.head?.any isBlank = true ∧ '.' ∉ l ∧ ¬ l.IsChain Follows) : Separates v := by
  obtain ⟨r, rfl⟩ := hp
  exact ⟨l, r, rfl, h⟩

/-- More text behind it does not change that a text separates. -/
theorem Separates.append (h : Separates v) (r : Text) : Separates (v ++ r) := by
  obtain ⟨l, r', rfl, hrest⟩ := h
  exact ⟨l, r' ++ r, by simp, hrest⟩

/-- Blanks in front of it do not change that a text separates. -/
theorem Separates.append_blanks {b : Text} (h : Separates v) (hb : ∀ c ∈ b, isBlank c = true) :
    Separates (b ++ v) := by
  obtain ⟨l, r, rfl, hl, hdot, hchain⟩ := h
  refine ⟨b ++ l, r, by simp, ?_, ?_, fun hc => hchain ?_⟩
  · cases b with
    | nil => exact hl
    | cons c b => simpa using hb c (by simp)
  · have hbdot : '.' ∉ b := fun hmem => absurd (hb _ hmem) (by decide)
    simp [hbdot, hdot]
  · exact List.IsChain.infix hc (List.suffix_append b l).isInfix

/-- A text that separates starts with a blank. -/
theorem Separates.head?_any (h : Separates v) : v.head?.any isBlank = true := by
  obtain ⟨l, r, rfl, hl, -⟩ := h
  cases l with
  | nil => cases hl
  | cons c l => simpa using hl

/-- A text that starts with a blank does not start with a word character. -/
theorem head?_any_isWord (h : v.head?.any isBlank = true) : v.head?.any isWord = false := by
  cases v with
  | nil => rfl
  | cons c v => simpa using isWord_of_isBlank (by simpa using h)

/-- Blanks and a dot do not start with a word character. -/
theorem head?_any_isWord_append_dot {b s : Text} (hb : ∀ c ∈ b, isBlank c = true) :
    (b ++ '.' :: s).head?.any isWord = false := by
  cases b with
  | nil => rw [List.nil_append, List.head?_cons, Option.any_some]; decide
  | cons c b => simpa using isWord_of_isBlank (hb c (by simp))

/-- No mapping that starts before a separating text ends in it. -/
theorem Separates.not_spelt {y : Text} (h : Separates v) (hy : y ≠ []) (hyv : y <+: v) :
    ¬ m.Spelt (u ++ y) := by
  obtain ⟨l, r, rfl, hl, hdot, hchain⟩ := h
  intro hspelt
  have hyblank : y.head?.any isBlank = true := by
    obtain ⟨c, y, rfl⟩ := List.exists_cons_of_ne_nil hy
    cases l with
    | nil => cases hl
    | cons d l =>
      obtain ⟨rfl, -⟩ := List.cons_prefix_cons.1 hyv
      simpa using hl
  have hydot := (hspelt.dot_mem_of_blank hyblank).2
  rcases List.prefix_or_prefix_of_prefix hyv (List.prefix_append l r) with hin | hout
  · exact hdot (hin.subset hydot)
  · have hinfix : l <:+: u ++ y := hout.isInfix.trans (List.suffix_append u y).isInfix
    have hsub := List.IsChain.infix hspelt.isChain hinfix
    exact hchain hsub

/-- Where a text starts with a blank and no mapping ends in it that starts before it, the mappings
before it and those behind are counted apart. -/
theorem mappings_append_of_not_spelt (hv : v.head?.any isBlank = true)
    (hspelt : ∀ {u y m}, y ≠ [] → y <+: v → ¬ Mapping.Spelt m (u ++ y)) (u : Text) :
    mappings (u ++ v) = mappings u ++ mappings v := by
  induction hlen : u.length using Nat.strong_induction_on generalizing u with
  | h k ih =>
  subst hlen
  have hword := head?_any_isWord hv
  cases u with
  | nil => simp
  | cons c u =>
    cases hat : mappingAt? (c :: u) with
    | some p =>
      obtain ⟨m, rest⟩ := p
      rw [mappings_of_some hat, mappings_of_some (mappingAt?_append_of_some hat hword),
        ih _ (length_of_mappingAt? hat) rest rfl, List.cons_append]
    | none =>
      have hnone : mappingAt? (c :: (u ++ v)) = none := by
        rw [Option.eq_none_iff_forall_ne_some]
        rintro ⟨m, rest⟩ h
        rcases mappingAt?_append_cases (u := c :: u) h hword with ⟨r, -, hr⟩ | ⟨y, hy, hm, rfl⟩
        · rw [hat] at hr; cases hr
        · exact hspelt hy (List.prefix_append y rest) hm
      rw [mappings_of_none hat, List.cons_append, mappings_of_none hnone,
        ih u.length (by simp) u rfl]

/-- A separating text has the mappings before it and those behind it counted apart. -/
theorem mappings_append (hv : Separates v) (u : Text) :
    mappings (u ++ v) = mappings u ++ mappings v :=
  mappings_append_of_not_spelt hv.head?_any (fun hy hyv => hv.not_spelt hy hyv) u

/-- Blanks at the end of a text make no difference to its mappings. -/
theorem mappings_append_blanks {b : Text} (hb : ∀ c ∈ b, isBlank c = true) (u : Text) :
    mappings (u ++ b) = mappings u := by
  have hdot : '.' ∉ b := fun h => absurd (hb _ h) (by decide)
  obtain rfl | hne := eq_or_ne b []
  · rw [List.append_nil]
  have hhead : ∀ {y : Text}, y ≠ [] → y <+: b → y.head?.any isBlank = true := by
    intro y hy hyb
    obtain ⟨c, y, rfl⟩ := List.exists_cons_of_ne_nil hy
    simpa using hb c (hyb.subset (by simp))
  rw [mappings_append_of_not_spelt (hhead hne List.prefix_rfl), mappings_eq_nil (by simp) hdot,
    List.append_nil]
  exact fun hy hyb hspelt => hdot (hyb.subset (hspelt.dot_mem_of_blank (hhead hy hyb)).2)

/-- Mappings are kept when a text that starts with a blank is put behind them. -/
theorem mappings_sublist_append (hv : v.head?.any isBlank = true) (u : Text) :
    (mappings u).Sublist (mappings (u ++ v)) := by
  induction hlen : u.length using Nat.strong_induction_on generalizing u with
  | h k ih =>
  subst hlen
  have hword := head?_any_isWord hv
  cases u with
  | nil => simp
  | cons c u =>
    cases hat : mappingAt? (c :: u) with
    | some p =>
      obtain ⟨m, rest⟩ := p
      rw [mappings_of_some hat, mappings_of_some (mappingAt?_append_of_some hat hword)]
      exact (ih _ (length_of_mappingAt? hat) rest rfl).cons_cons m
    | none =>
      rw [mappings_of_none hat]
      cases hnew : mappingAt? (c :: (u ++ v)) with
      | none =>
        rw [List.cons_append, mappings_of_none hnew]
        exact ih u.length (by simp) u rfl
      | some p =>
        -- A mapping that reaches into `v` has its dot there, so `u` ends in a mere stem.
        obtain ⟨m, rest⟩ := p
        rcases mappingAt?_append_cases (u := c :: u) hnew hword with
          ⟨r, -, hr⟩ | ⟨y, hy, hspelt, rfl⟩
        · rw [hat] at hr; cases hr
        · have hyblank : y.head?.any isBlank = true := by
            obtain ⟨d, y, rfl⟩ := List.exists_cons_of_ne_nil hy
            simpa using hv
          have hdot := (hspelt.dot_mem_of_blank hyblank).1
          rw [mappings_eq_nil (d := '.') (by simp) (fun h => hdot (List.mem_cons_of_mem c h))]
          exact List.nil_sublist _

/-- No mapping starts in a text none of whose ends can start `case`. -/
theorem mappings_append_of_endsApart (hu : EndsApart u "case".toList) :
    mappings (u ++ v) = mappings v := by
  induction u with
  | nil => rfl
  | cons c u ih =>
    have hnone : mappingAt? (c :: (u ++ v)) = none := by
      rw [Option.eq_none_iff_forall_ne_some]
      rintro ⟨m, rest⟩ h
      obtain ⟨w, hw, hcw, -⟩ := mappingAt?_eq_some_iff.1 h
      refine hu.not_prefix (y := c :: u) (v := v) (by simp) List.suffix_rfl ?_
      rw [List.cons_append, hcw]
      exact hw.startsWith_case.trans (List.prefix_append w rest)
    rw [List.cons_append, mappings_of_none hnone]
    exact ih fun y hy => hu y (by
      rw [List.mem_tails] at hy ⊢
      exact hy.trans (List.suffix_cons c u))

/-- Joined texts have the mappings of each of them, if the separator starts a separating text in
front of each and no mapping starts in it. -/
theorem mappings_joinWith {sep : Text} (hsep : EndsApart sep "case".toList) :
    ∀ {ts : List Text}, (∀ t ∈ ts, Separates (sep ++ t)) →
      mappings (joinWith sep ts) = ts.flatMap mappings
  | [], _ => by simp [joinWith]
  | [t], _ => by simp [joinWith]
  | t :: t' :: ts, h => by
    have ih : mappings (joinWith sep (t' :: ts)) = (t' :: ts).flatMap mappings :=
      mappings_joinWith hsep fun x hx => h x (by simp [hx])
    have hjoin : joinWith sep (t :: t' :: ts) = t ++ (sep ++ joinWith sep (t' :: ts)) := by
      simp [joinWith, List.intercalate_cons_cons]
    have hseparates : Separates (sep ++ joinWith sep (t' :: ts)) := by
      cases ts with
      | nil => simpa [joinWith] using h t' (by simp)
      | cons t'' ts =>
        have := (h t' (by simp)).append (sep ++ joinWith sep (t'' :: ts))
        simpa [joinWith, List.intercalate_cons_cons] using this
    rw [hjoin, mappings_append hseparates, mappings_append_of_endsApart hsep, ih]
    simp

/-! ## Unfinished mappings -/

/-- The characters that occur in mappings. -/
def InMapping (c : Char) : Prop := isBlank c = true ∨ isWord c = true ∨ c ∈ [':', '=', '.']

instance : DecidablePred InMapping := fun c =>
  inferInstanceAs (Decidable (isBlank c = true ∨ isWord c = true ∨ c ∈ [':', '=', '.']))

/-- The text of a mapping is made of blanks, word characters, colons, equals signs and dots. -/
theorem Mapping.Spelt.inMapping (h : m.Spelt w) : ∀ c ∈ w, InMapping c := by
  have hblanks : ∀ {b : Text}, (∀ c ∈ b, isBlank c = true) → ∀ c ∈ b, InMapping c :=
    fun hb c hc => .inl (hb c hc)
  have hwords : ∀ {b : Text}, (∀ c ∈ b, isWord c = true) → ∀ c ∈ b, InMapping c :=
    fun hb c hc => .inr (.inl (hb c hc))
  cases h with
  | @mk digits stem identifier hstem hne hid =>
  cases hstem with
  | @mk b₁ b₂ b₃ b₄ _ _ h₁ hdne hd h₂ h₃ h₄ =>
  have hcase := hwords (b := "case".toList) (List.all_iff_forall_prop.1 rfl)
  have hself := hwords (b := "self".toList) (List.all_iff_forall_prop.1 rfl)
  have hdigits := hwords fun c hc => isWord_of_isDigit (hd c hc)
  have hmark : ∀ c ∈ [':', '=', '.'], InMapping c := fun c hc => .inr (.inr hc)
  intro c hc
  simp only [List.mem_append, List.mem_cons] at hc
  rcases hc with (hc | hc | hc | hc | hc | hc | hc | hc | hc) | rfl | hc
  · exact hcase c hc
  · exact hblanks h₁ c hc
  · exact hdigits c hc
  · exact hmark c (by simp at hc; simp [hc])
  · exact hblanks h₂ c hc
  · exact hself c hc
  · exact hblanks h₃ c hc
  · exact hmark c (by simp at hc; simp [hc])
  · exact hblanks h₄ c hc
  · exact hmark _ (by simp)
  · exact hwords hid c hc

/-- A character that occurs in no mapping parts the mappings before it from those behind. -/
theorem mappings_append_cons {c : Char} (hc : ¬ InMapping c) (u : Text) :
    mappings (u ++ c :: v) = mappings u ++ mappings v := by
  have hword : (c :: v).head?.any isWord = false := by
    cases h : isWord c with
    | false => simpa using h
    | true => exact absurd (.inr (.inl h)) hc
  have hnone : mappingAt? (c :: v) = none := by
    rw [Option.eq_none_iff_forall_ne_some]
    rintro ⟨m, rest⟩ h
    obtain ⟨w, hw, hcw, -⟩ := mappingAt?_eq_some_iff.1 h
    obtain ⟨d, w, rfl⟩ := List.exists_cons_of_ne_nil hw.ne_nil
    obtain ⟨rfl, -⟩ := List.cons.inj hcw
    exact hc (hw.inMapping c (by simp))
  induction hlen : u.length using Nat.strong_induction_on generalizing u with
  | h k ih =>
  subst hlen
  cases u with
  | nil => simp [mappings_of_none hnone]
  | cons d u =>
    cases hat : mappingAt? (d :: u) with
    | some p =>
      obtain ⟨m, rest⟩ := p
      rw [mappings_of_some hat, mappings_of_some (mappingAt?_append_of_some hat hword),
        ih _ (length_of_mappingAt? hat) rest rfl, List.cons_append]
    | none =>
      have hnone' : mappingAt? (d :: (u ++ c :: v)) = none := by
        rw [Option.eq_none_iff_forall_ne_some]
        rintro ⟨m, rest⟩ h
        rcases mappingAt?_append_cases (u := d :: u) h hword with ⟨r, -, hr⟩ | ⟨y, hy, hspelt, hv⟩
        · rw [hat] at hr; cases hr
        · obtain ⟨e, y, rfl⟩ := List.exists_cons_of_ne_nil hy
          obtain ⟨rfl, -⟩ := List.cons.inj hv
          exact hc (hspelt.inMapping c (by simp))
      rw [mappings_of_none hat, List.cons_append, mappings_of_none hnone',
        ih u.length (by simp) u rfl]

/-- Blanks behind a stem are part of it. -/
theorem Stem.append_blanks {b : Text} (h : Stem digits stem) (hb : ∀ c ∈ b, isBlank c = true) :
    Stem digits (stem ++ b) := by
  cases h with
  | @mk b₁ b₂ b₃ b₄ _ hne h₁ hdne hd h₂ h₃ h₄ =>
  have h₄' : ∀ c ∈ b₄ ++ b, isBlank c = true := fun c hc =>
    (List.mem_append.1 hc).elim (h₄ c) (hb c)
  simpa using Stem.mk hne h₁ hdne hd h₂ h₃ h₄'

/-- A stem stays one without the blanks at its end. -/
theorem Stem.of_append_blanks {b : Text} (h : Stem digits (u ++ b))
    (hb : ∀ c ∈ b, isBlank c = true) : Stem digits u := by
  generalize hw : u ++ b = stem at h
  cases h with
  | @mk b₁ b₂ b₃ b₄ _ hne h₁ hdne hd h₂ h₃ h₄ =>
  have hshape : u ++ b = ("case".toList ++ (b₁ ++ (digits ++ (":".toList ++ (b₂ ++
      ("self".toList ++ (b₃ ++ "=".toList))))))) ++ b₄ := by simp [hw]
  rcases List.append_eq_append_iff.1 hshape with ⟨z, hz, rfl⟩ | ⟨z, rfl, rfl⟩
  · obtain rfl | hne' := eq_or_ne z []
    · rw [List.append_nil] at hz
      rw [← hz]
      have hnil : ∀ d ∈ ([] : Text), isBlank d = true := by simp
      have hstem := Stem.mk hne h₁ hdne hd h₂ h₃ hnil
      rwa [List.append_nil] at hstem
    · -- The equals sign would be one of the blanks.
      exfalso
      have hsuf : ['='] <:+ z := by
        have hend : ['='] <:+ u ++ z := by
          rw [← hz]
          exact ⟨"case".toList ++ (b₁ ++ (digits ++ (":".toList ++ (b₂ ++
            ("self".toList ++ b₃))))), by simp⟩
        exact List.suffix_of_suffix_length_le hend (List.suffix_append u z)
          (List.length_pos_iff.2 hne')
      have heq : '=' ∈ z := hsuf.subset (by simp)
      exact absurd (hb _ (List.mem_append_left b₄ heq)) (by decide)
  · have h₄' : ∀ c ∈ z, isBlank c = true := fun c hc => h₄ c (by simp [hc])
    simpa using Stem.mk hne h₁ hdne hd h₂ h₃ h₄'

/-- Two texts that agree and go up to their first dots agree on both sides of them. -/
theorem eq_of_append_dot {x y r : Text} (hx : '.' ∉ x) (hy : '.' ∉ y)
    (h : x ++ '.' :: r = y ++ '.' :: t) : x = y ∧ r = t := by
  have htake : ∀ {a b : Text}, '.' ∉ a → (a ++ '.' :: b).takeWhile (· != '.') = a := by
    intro a b ha
    rw [List.takeWhile_append_of_pos fun c hc => by
      simpa using fun (hcd : c = '.') => ha (hcd ▸ hc)]
    simp
  obtain rfl : x = y := by rw [← htake (b := r) hx, h, htake hy]
  simpa using h

/-- Where no mapping stands, blanks, a dot and more text make one exactly if what stands is a stem
and an identifier follows the dot. -/
theorem mappingAt?_append_dot {b s : Text} (m : Mapping) (rest : Text) (hu : mappingAt? u = none)
    (hb : ∀ c ∈ b, isBlank c = true) : mappingAt? (u ++ (b ++ '.' :: s)) = some (m, rest) ↔
      Stem m.digits u ∧ run? isWord s = some (m.identifier, rest) := by
  have hbdot : '.' ∉ b := fun h => absurd (hb _ h) (by decide)
  have hword := head?_any_isWord_append_dot (s := s) hb
  constructor
  · intro h
    rcases mappingAt?_append_cases h hword with ⟨r, -, hr⟩ | ⟨y, hy, hspelt, hv⟩
    · rw [hu] at hr; cases hr
    generalize hw : u ++ y = w at hspelt
    cases hspelt with
    | @mk digits stem identifier hstem hne hid =>
    obtain ⟨z, rfl, rfl⟩ : ∃ z, stem = u ++ z ∧ y = z ++ '.' :: identifier := by
      rcases List.append_eq_append_iff.1 hw with ⟨z, rfl, rfl⟩ | ⟨z, rfl, hz⟩
      · exact ⟨z, rfl, rfl⟩
      cases z with
      | nil => exact ⟨[], by simp, by simpa using hz.symm⟩
      | cons c z =>
        -- The rest would start inside the identifier, but it starts with a blank or the dot.
        exfalso
        obtain ⟨-, rfl⟩ := List.cons.inj hz
        obtain ⟨d, y, rfl⟩ := List.exists_cons_of_ne_nil hy
        have hd : isWord d = true := hid d (by simp)
        rw [hv] at hword
        simp [hd] at hword
    have hzdot : '.' ∉ z := fun h => hstem.dot_not_mem (by simp [h])
    obtain ⟨rfl, rfl⟩ := eq_of_append_dot hbdot hzdot (by simpa using hv)
    obtain ⟨-, -, -, hrest⟩ := mappingAt?_eq_some_iff.1 h
    exact ⟨hstem.of_append_blanks hb, run?_eq_some_iff.2 ⟨rfl, hne, hid, hrest⟩⟩
  · rintro ⟨hstem, hrun⟩
    obtain ⟨rfl, hne, hid, hend⟩ := run?_eq_some_iff.1 hrun
    refine mappingAt?_eq_some_iff.2 ⟨_, .mk (hstem.append_blanks hb) hne hid, by simp, hend⟩

/-- Blanks in front of a dot that may complete a stem make no difference to the numbers of the
mappings, if no mapping can start behind the dot. -/
theorem digits_mappings_append_dot {b s : Text} (hb : ∀ c ∈ b, isBlank c = true) (hs : ':' ∉ s)
    (u : Text) : (mappings (u ++ (b ++ '.' :: s))).map (·.digits) =
      (mappings (u ++ '.' :: s)).map (·.digits) := by
  have hbcolon : ':' ∉ b := fun h => absurd (hb _ h) (by decide)
  have hword := head?_any_isWord_append_dot (s := s) hb
  have hword' : ('.' :: s).head?.any isWord = false :=
    head?_any_isWord_append_dot (b := []) (by simp)
  induction hlen : u.length using Nat.strong_induction_on generalizing u with
  | h k ih =>
  subst hlen
  cases u with
  | nil =>
    rw [List.nil_append, List.nil_append,
      mappings_eq_nil (d := ':') (by simp) (by simp [hbcolon, hs]),
      mappings_eq_nil (d := ':') (by simp) (by simp [hs])]
  | cons c u =>
    cases hat : mappingAt? (c :: u) with
    | some p =>
      obtain ⟨m, rest⟩ := p
      rw [mappings_of_some (mappingAt?_append_of_some hat hword),
        mappings_of_some (mappingAt?_append_of_some hat hword'),
        List.map_cons, List.map_cons, ih _ (length_of_mappingAt? hat) rest rfl]
    | none =>
      have hdot : ∀ {m rest}, mappingAt? (c :: (u ++ (b ++ '.' :: s))) = some (m, rest) ↔
          mappingAt? (c :: (u ++ '.' :: s)) = some (m, rest) := fun {m rest} =>
        (mappingAt?_append_dot _ _ hat hb).trans
          (mappingAt?_append_dot (b := []) _ _ hat (by simp)).symm
      rw [List.cons_append, List.cons_append]
      cases hnew : mappingAt? (c :: (u ++ '.' :: s)) with
      | some p =>
        rw [mappings_of_some hnew, mappings_of_some (hdot.2 hnew)]
      | none =>
        have hnew' : mappingAt? (c :: (u ++ (b ++ '.' :: s))) = none := by
          rw [Option.eq_none_iff_forall_ne_some]
          rintro ⟨m, rest⟩ h
          rw [hdot.1 h] at hnew
          cases hnew
        rw [mappings_of_none hnew, mappings_of_none hnew', ih u.length (by simp) u rfl]

/-! ## The numbers that are mapped -/

/-- Adding mappings to a table maps the numbers of the mappings and those of the table. -/
theorem mem_foldl_add {ms : List Mapping} {table : RawValues} :
    n ∈ ms.foldl add table ↔ n ∈ table ∨ ∃ m ∈ ms, readCode? m.digits = some n := by
  induction ms generalizing table with
  | nil => simp
  | cons m ms ih =>
    rw [List.foldl_cons, ih, add]
    cases hcode : readCode? m.digits with
    | none => simp [hcode]
    | some k =>
      have hinsert : n ∈ table.insert k m.identifier ↔ n = k ∨ n ∈ table := by
        rw [Std.TreeMap.mem_insert, Std.LawfulEqCmp.compare_eq_iff_eq, eq_comm]
      simp only [hinsert, List.mem_cons, exists_eq_or_imp, hcode, Option.some.injEq]
      constructor
      · rintro ((rfl | h) | h)
        · exact .inr (.inl rfl)
        · exact .inl h
        · exact .inr (.inr h)
      · rintro (h | rfl | h)
        · exact .inl (.inr h)
        · exact .inl (.inl rfl)
        · exact .inr h

/-- The numbers that a text maps are those of its mappings that a status code can have. -/
theorem mem_ofSwift : n ∈ ofSwift t ↔ ∃ m ∈ mappings t, readCode? m.digits = some n := by
  rw [ofSwift, mem_foldl_add]
  simp

/-- A separating text maps its numbers beside those mapped before it. -/
theorem mem_ofSwift_append (hv : Separates v) (u : Text) :
    n ∈ ofSwift (u ++ v) ↔ n ∈ ofSwift u ∨ n ∈ ofSwift v := by
  simp only [mem_ofSwift, mappings_append hv, List.mem_append, or_and_right, exists_or]

/-- A line feed in front of a separating text makes no difference. -/
theorem mem_ofSwift_append_newline (hv : Separates v) (u : Text) :
    n ∈ ofSwift (u ++ '\n' :: v) ↔ n ∈ ofSwift u ∨ n ∈ ofSwift v := by
  have hline : mappings (['\n'] ++ v) = mappings v := mappings_append_of_endsApart (by decide)
  have hblank : ∀ c ∈ ['\n'], isBlank c = true := List.all_iff_forall_prop.1 rfl
  have happend := mem_ofSwift_append (n := n) (hv.append_blanks hblank) u
  rwa [mem_ofSwift (t := ['\n'] ++ v), hline, ← mem_ofSwift] at happend

/-- The numbers mapped before a text that starts with a blank stay mapped. -/
theorem mem_ofSwift_append_of_blank (hv : v.head?.any isBlank = true) (h : n ∈ ofSwift u) :
    n ∈ ofSwift (u ++ v) := by
  obtain ⟨m, hm, hcode⟩ := mem_ofSwift.1 h
  exact mem_ofSwift.2 ⟨m, (mappings_sublist_append hv u).subset hm, hcode⟩

/-- An entry of a list that is put behind a text maps what the text followed by a dot and the
entry's identifier maps: blanks in front of the dot and what follows the identifier make no
difference. -/
theorem mem_ofSwift_append_entry {b name : Text} {c : Char} (hb : ∀ c ∈ b, isBlank c = true)
    (hname : ':' ∉ name) (hc : ¬ InMapping c) (hrest : ':' ∉ rest) :
    n ∈ ofSwift (u ++ (b ++ '.' :: (name ++ c :: rest))) ↔ n ∈ ofSwift (u ++ '.' :: name) := by
  have hcolon : ':' ≠ c := by
    rintro rfl
    exact hc (.inr (.inr (by simp)))
  have hnumber : ∀ t : Text, n ∈ ofSwift t ↔
      ∃ d ∈ (mappings t).map (·.digits), readCode? d = some n := fun t => by
    rw [mem_ofSwift]; simp
  have hsplit : mappings (u ++ '.' :: (name ++ c :: rest)) = mappings (u ++ '.' :: name) := by
    have := mappings_append_cons (v := rest) hc (u ++ '.' :: name)
    rw [mappings_eq_nil (d := ':') (by simp) hrest, List.append_nil] at this
    simpa using this
  rw [hnumber, hnumber, digits_mappings_append_dot hb (by simp [hname, hcolon, hrest]), hsplit]

end ProtoUpkeep.RawValues
