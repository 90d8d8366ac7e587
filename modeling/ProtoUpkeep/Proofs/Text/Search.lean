import Mathlib.Data.List.Infix
import ProtoUpkeep.Text.Basic

/-!
# Searching a text that is put together

`Text.cutAt` finds the first occurrence of a needle. A text that has had something inserted is a
concatenation, so the question is how a search of `u ++ v` follows from searches of `u` and of `v`.
It does unless the needle occurs across the seam (`Text.Crosses`): an occurrence inside `u` is found
first whatever follows (`cutAt_append_of_some`), and where `u` has none the search goes on in `v`
(`cutAt_append_of_none`). A needle cannot cross into a text whose head fits none of the needle's own
ends (`Text.Apart`), and that is decided on the two literals alone.
-/

namespace ProtoUpkeep.Text

variable {needle head u v t before rest : Text}

/-! ## Heads -/

/-- What is left behind a head is the rest of the text. -/
theorem dropHead?_eq_some_iff : dropHead? head t = some rest ↔ t = head ++ rest := by
  constructor
  · intro h
    exact (append_of_dropHead? h).symm
  · rintro rfl
    induction head with
    | nil => rfl
    | cons c head ih => simp [dropHead?, ih]

/-- A head is dropped from a text that starts with it. -/
@[simp] theorem dropHead?_append (head t : Text) : dropHead? head (head ++ t) = some t :=
  dropHead?_eq_some_iff.2 rfl

/-- A text that does not start with the head has nothing to be dropped. -/
theorem dropHead?_eq_none_iff : dropHead? head t = none ↔ ¬ head <+: t := by
  rw [Option.eq_none_iff_forall_ne_some]
  constructor
  · rintro h ⟨rest, rfl⟩
    exact h rest (dropHead?_append head rest)
  · intro h rest hrest
    exact h ⟨rest, (dropHead?_eq_some_iff.1 hrest).symm⟩

/-! ## The first occurrence -/

/-- The text behind a cut starts with the needle. -/
theorem prefix_of_cutAt (h : cutAt needle t = some (before, rest)) : needle <+: rest := by
  induction t generalizing before with
  | nil =>
    simp only [cutAt] at h
    split at h
    · next hempty => simp [List.isEmpty_iff.1 hempty]
    · cases h
  | cons c t ih =>
    simp only [cutAt] at h
    split at h
    · next hp => cases h; exact List.isPrefixOf_iff_prefix.1 hp
    · obtain ⟨⟨b, r⟩, hcut, heq⟩ := Option.map_eq_some_iff.1 h
      cases heq
      exact ih hcut

/-- A cut fails exactly where the needle does not occur. -/
theorem cutAt_eq_none_iff : cutAt needle t = none ↔ ¬ needle <:+: t := by
  induction t with
  | nil => simp [cutAt, List.isEmpty_iff]
  | cons c t ih =>
    rw [List.infix_cons_iff, not_or, ← ih, cutAt]
    split
    · next hp => simp [List.isPrefixOf_iff_prefix.1 hp]
    · next hp =>
      rw [List.isPrefixOf_iff_prefix] at hp
      simp [hp]

/-- A cut succeeds exactly where the needle occurs. -/
theorem isSome_cutAt_iff : (cutAt needle t).isSome ↔ needle <:+: t := by
  rw [← not_iff_not, ← cutAt_eq_none_iff, Bool.not_eq_true, Option.isSome_eq_false_iff,
    Option.isNone_iff_eq_none]

/-- A needle that is found occurs. -/
theorem infix_of_cutAt (h : cutAt needle t = some (before, rest)) : needle <:+: t :=
  isSome_cutAt_iff.1 (by rw [h]; rfl)

/-- The search for a needle ends at the first character or goes on behind it. -/
theorem cutAt_cons (needle : Text) (c : Char) (t : Text) : cutAt needle (c :: t) =
    if needle <+: c :: t then some ([], c :: t)
    else (cutAt needle t).map fun p => (c :: p.1, p.2) := by
  simp only [cutAt, List.isPrefixOf_iff_prefix]

/-- A text that starts with the needle is cut at its start. -/
theorem cutAt_of_startsWith (h : needle <+: t) : cutAt needle t = some ([], t) := by
  cases t with
  | nil => simp [cutAt, List.prefix_nil.1 h]
  | cons c t => rw [cutAt, if_pos (List.isPrefixOf_iff_prefix.2 h)]

/-! ## Seams -/

/-- The needle occurs in `u ++ v` with one part at the end of `u` and the other at the start of
`v`. -/
def Crosses (needle u v : Text) : Prop :=
  ∃ x y, x ≠ [] ∧ y ≠ [] ∧ needle = x ++ y ∧ x <:+ u ∧ y <+: v

/-- A needle that crosses the seam behind a shorter text crosses the one behind a longer text. -/
theorem Crosses.cons {c : Char} (h : Crosses needle u v) : Crosses needle (c :: u) v := by
  obtain ⟨x, y, hx, hy, rfl, hu, hv⟩ := h
  exact ⟨x, y, hx, hy, rfl, hu.trans (List.suffix_cons c u), hv⟩

/-- An occurrence inside the first of two texts is the first one, whatever the second is. -/
theorem cutAt_append_of_some (h : cutAt needle u = some (before, rest)) :
    cutAt needle (u ++ v) = some (before, rest ++ v) := by
  induction u generalizing before with
  | nil =>
    simp only [cutAt] at h
    split at h
    · next hempty =>
      cases h
      obtain rfl := List.isEmpty_iff.1 hempty
      cases v <;> simp [cutAt]
    · cases h
  | cons c u ih =>
    simp only [cutAt] at h
    split at h
    · next hp =>
      cases h
      have hp' : needle.isPrefixOf (c :: (u ++ v)) = true :=
        List.isPrefixOf_iff_prefix.2
          ((List.isPrefixOf_iff_prefix.1 hp).trans (List.prefix_append (c :: u) v))
      simp [cutAt, hp']
    · next hp =>
      obtain ⟨⟨b, r⟩, hcut, heq⟩ := Option.map_eq_some_iff.1 h
      cases heq
      have hp' : ¬ needle <+: c :: (u ++ v) := by
        -- An occurrence at the start ends before the one that was found, so inside `c :: u`.
        intro hlong
        have hlen : needle.length ≤ (c :: u).length :=
          Nat.le_trans (infix_of_cutAt hcut).length_le (Nat.le_succ _)
        exact hp (List.isPrefixOf_iff_prefix.2
          (List.prefix_of_prefix_length_le hlong (List.prefix_append (c :: u) v) hlen))
      rw [← List.isPrefixOf_iff_prefix] at hp'
      simp [cutAt, hp', ih hcut]

/-- Where the first of two texts has no occurrence and none crosses the seam, the search goes on in
the second text. -/
theorem cutAt_append_of_none (h : cutAt needle u = none) (hx : ¬ Crosses needle u v) :
    cutAt needle (u ++ v) = (cutAt needle v).map fun p => (u ++ p.1, p.2) := by
  induction u with
  | nil => simp
  | cons c u ih =>
    have hinf := cutAt_eq_none_iff.1 h
    rw [List.infix_cons_iff, not_or] at hinf
    have hp : ¬ needle <+: c :: (u ++ v) := by
      intro hlong
      rcases List.prefix_or_prefix_of_prefix hlong (List.prefix_append (c :: u) v) with hin | hout
      · exact hinf.1 hin
      · obtain ⟨y, rfl⟩ := hout
        obtain rfl | hy := eq_or_ne y []
        · exact hinf.1 (by simp)
        · have hyv : y <+: v := (List.prefix_append_right_inj (c :: u)).1 hlong
          exact hx ⟨c :: u, y, by simp, hy, rfl, List.suffix_rfl, hyv⟩
    rw [← List.isPrefixOf_iff_prefix] at hp
    rw [List.cons_append, cutAt, if_neg hp,
      ih (cutAt_eq_none_iff.2 hinf.2) (fun hc => hx hc.cons), Option.map_map]
    rfl

/-- A needle occurs in two texts put together only inside one of them or across the seam. -/
theorem infix_append_iff :
    needle <:+: u ++ v ↔ needle <:+: u ∨ needle <:+: v ∨ Crosses needle u v := by
  constructor
  · intro h
    by_cases hu : needle <:+: u
    · exact .inl hu
    by_cases hx : Crosses needle u v
    · exact .inr (.inr hx)
    rw [← isSome_cutAt_iff, cutAt_append_of_none (cutAt_eq_none_iff.2 hu) hx, Option.isSome_map,
      isSome_cutAt_iff] at h
    exact .inr (.inl h)
  · rintro (h | h | ⟨x, y, -, -, rfl, hu, hv⟩)
    · exact h.trans (List.prefix_append u v).isInfix
    · exact h.trans (List.suffix_append u v).isInfix
    · obtain ⟨a, rfl⟩ := hu
      obtain ⟨b, rfl⟩ := hv
      exact ⟨a, b, by simp⟩

/-- A needle without a given character occurs only before or behind that character. -/
theorem infix_append_cons_of_not_mem {c : Char} (hc : c ∉ needle) :
    needle <:+: u ++ c :: v ↔ needle <:+: u ∨ needle <:+: v := by
  rw [infix_append_iff, List.infix_cons_iff]
  constructor
  · rintro (h | (h | h) | ⟨x, y, -, hy, rfl, -, hv⟩)
    · exact .inl h
    · cases needle with
      | nil => exact .inl (List.nil_infix)
      | cons d needle =>
        obtain rfl := (List.cons_prefix_cons.1 h).1
        exact absurd List.mem_cons_self hc
    · exact .inr h
    · obtain ⟨d, y, rfl⟩ := List.exists_cons_of_ne_nil hy
      obtain rfl := (List.cons_prefix_cons.1 hv).1
      exact absurd (by simp) hc
  · rintro (h | h)
    · exact .inl h
    · exact .inr (.inl (.inr h))

/-! ## Needles that cannot cross into a head -/

/-- No non-empty end of `t` and `head` agree as far as both reach. -/
def EndsApart (t head : Text) : Prop :=
  ∀ y ∈ t.tails, y = [] ∨ (¬ y <+: head ∧ ¬ head <+: y)

instance (t head : Text) : Decidable (EndsApart t head) :=
  inferInstanceAs (Decidable (∀ y ∈ t.tails, y = [] ∨ (¬ y <+: head ∧ ¬ head <+: y)))

/-- A text without the first character of `head` has its ends apart from it. -/
theorem EndsApart.of_not_mem {c : Char} (head : Text) (h : c ∉ t) : EndsApart t (c :: head) := by
  intro y hy
  rw [List.mem_tails] at hy
  cases y with
  | nil => exact .inl rfl
  | cons d y =>
    have hd : d ≠ c := by
      rintro rfl
      exact h (hy.subset (by simp))
    exact .inr ⟨fun hp => hd (List.cons_prefix_cons.1 hp).1,
      fun hp => hd (List.cons_prefix_cons.1 hp).1.symm⟩

/-- Behind an end that is apart from `head` no `head` can start in it. -/
theorem EndsApart.not_prefix {y : Text} (h : EndsApart t head) (hy : y ≠ []) (hyt : y <:+ t) :
    ¬ head <+: y ++ v := by
  intro hp
  rcases h y ((List.mem_tails _ _).2 hyt) with rfl | ⟨h₁, h₂⟩
  · exact hy rfl
  · rcases List.prefix_or_prefix_of_prefix hp (List.prefix_append y v) with hin | hout
    · exact h₂ hin
    · exact h₁ hout

/-- The needle cannot start before `head` and go on into it. -/
def Apart (needle head : Text) : Prop := EndsApart needle.tail head

instance (needle head : Text) : Decidable (Apart needle head) :=
  inferInstanceAs (Decidable (EndsApart needle.tail head))

/-- A needle does not cross into a text that starts with something it is apart from. -/
theorem Apart.not_crosses (h : Apart needle head) : ¬ Crosses needle u (head ++ v) := by
  rintro ⟨x, y, hx, hy, rfl, -, hv⟩
  obtain ⟨c, x, rfl⟩ := List.exists_cons_of_ne_nil hx
  rcases h y ((List.mem_tails _ _).2 (by simp)) with rfl | ⟨h₁, h₂⟩
  · exact hy rfl
  · rcases List.prefix_or_prefix_of_prefix hv (List.prefix_append head v) with hp | hp
    · exact h₁ hp
    · exact h₂ hp

/-- A needle that does not overlap itself is found where it stands behind a text without it. -/
theorem cutAt_append_needle (h : ¬ needle <:+: u) (hself : Apart needle needle) :
    cutAt needle (u ++ (needle ++ v)) = some (u, needle ++ v) := by
  rw [cutAt_append_of_none (cutAt_eq_none_iff.2 h) hself.not_crosses,
    cutAt_of_startsWith (List.prefix_append needle v)]
  simp

/-- The needle does not occur before its first occurrence. -/
theorem not_infix_of_cutAt (hne : needle ≠ []) (h : cutAt needle t = some (before, rest)) :
    ¬ needle <:+: before := by
  intro hin
  obtain ⟨⟨b, r⟩, hcut⟩ := Option.isSome_iff_exists.1 (isSome_cutAt_iff.2 hin)
  have hwhole := cutAt_append_of_some (v := rest) hcut
  rw [append_of_cutAt h, h, Option.some.injEq, Prod.mk.injEq] at hwhole
  have hr : r = [] := List.append_left_eq_self.1 hwhole.2.symm
  rw [hr] at hcut
  exact hne (List.prefix_nil.1 (prefix_of_cutAt hcut))

end ProtoUpkeep.Text
