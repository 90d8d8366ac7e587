import ProtoUpkeep.Proofs.Text.Search

/-!
# Inserting at several places at once

`weave f t` is the text `t` with the text `f n` in front of its character of the number `n`, for all
numbers at once. Inserting one text after the other, each in front of the first occurrence of its
needle, comes down to weaving them in together, because what has been woven in does not disturb the
search for a further needle (`exists_cutAt_weave`): it stands in front of occurrences of needles
only (`Posted.starts`), which no other needle reaches into (`Apart`), and it holds no needle and
starts with the end of none (`Inert`).
-/

namespace ProtoUpkeep.Text

variable {ι : Type} {needle : ι → Text} {i : ι} {f : Nat → Text} {t u v x y before rest : Text}
  {c : Char}

/-- The text with `f n` in front of its character of the number `n`. -/
def weave (f : Nat → Text) : Text → Text
  | [] => []
  | c :: t => f 0 ++ c :: weave (fun n => f (n + 1)) t

/-- Weaving in empty texts changes nothing. -/
theorem weave_nil_texts (t : Text) : weave (fun _ => []) t = t := by
  induction t with
  | nil => rfl
  | cons c t ih => rw [weave, ih, List.nil_append]

/-! ## Texts that disturb no search -/

/-- None of the needles occurs in the text, and none starts in front of it and goes on into it,
whatever stands on both sides. -/
def Inert (needle : ι → Text) (t : Text) : Prop :=
  ∀ i, ¬ needle i <:+: t ∧ (t ≠ [] → ∀ u v, ¬ Crosses (needle i) u (t ++ v))

/-- The empty text is inert. -/
theorem inert_nil (hne : ∀ i, needle i ≠ []) : Inert needle [] := fun i =>
  ⟨fun h => hne i (List.infix_nil.1 h), fun h => absurd rfl h⟩

/-- Two inert texts put together are inert. -/
theorem Inert.append (hu : Inert needle u) (hv : Inert needle v) : Inert needle (u ++ v) := by
  by_cases hnil : v = []
  · rwa [hnil, List.append_nil]
  refine fun i => ⟨fun h => ?_, fun hne w z => ?_⟩
  · rcases infix_append_iff.1 h with h | h | h
    · exact (hu i).1 h
    · exact (hv i).1 h
    · rw [← List.append_nil v] at h
      exact (hv i).2 hnil u [] h
  · by_cases hunil : u = []
    · rw [hunil, List.nil_append]
      exact (hv i).2 hnil w z
    · rw [List.append_assoc]
      exact (hu i).2 hunil w (v ++ z)

/-- Inert texts in a row are inert. -/
theorem inert_flatMap {α : Type} {g : α → Text} {l : List α} (hne : ∀ i, needle i ≠ [])
    (h : ∀ a ∈ l, Inert needle (g a)) : Inert needle (l.flatMap g) := by
  induction l with
  | nil => exact inert_nil hne
  | cons a l ih =>
    rw [List.flatMap_cons]
    exact (h a (by simp)).append (ih fun b hb => h b (by simp [hb]))

/-- What is woven into the text is inert and stands in front of occurrences of needles. -/
structure Posted (needle : ι → Text) (f : Nat → Text) (t : Text) : Prop where
  /-- The texts are inert. -/
  inert : ∀ n, Inert needle (f n)
  /-- Where a text is not empty a needle starts. -/
  starts : ∀ n, f n ≠ [] → ∃ i, needle i <+: t.drop n

/-- What is woven into the rest of the text. -/
theorem Posted.tail (h : Posted needle f (c :: t)) : Posted needle (fun n => f (n + 1)) t where
  inert n := h.inert (n + 1)
  starts n hn := h.starts (n + 1) hn

/-- Where an end of a needle can start nothing has been woven in. -/
theorem Posted.eq_nil (h : Posted needle f t) (hapart : ∀ i j, Apart (needle i) (needle j))
    (hx : x ≠ []) (hy : y ≠ []) (hxy : needle i = x ++ y) (hyt : y <+: t) : f 0 = [] := by
  by_contra hf
  obtain ⟨j, r, hr⟩ := h.starts 0 hf
  rw [List.drop_zero] at hr
  exact (hapart i j).not_crosses (u := x) (v := r)
    ⟨x, y, hx, hy, hxy, List.suffix_rfl, hr ▸ hyt⟩

/-- An end of a needle starts the woven text exactly where it starts the text. -/
theorem prefix_weave_iff (hapart : ∀ i j, Apart (needle i) (needle j)) (h : Posted needle f t)
    (hx : x ≠ []) (hxy : needle i = x ++ y) : y <+: weave f t ↔ y <+: t := by
  induction t generalizing f x y with
  | nil => rw [weave]
  | cons c t ih =>
    cases y with
    | nil => simp
    | cons d y =>
      have hstep : d :: y <+: c :: weave (fun n => f (n + 1)) t ↔ d :: y <+: c :: t := by
        rw [List.cons_prefix_cons, List.cons_prefix_cons,
          ih (x := x ++ [d]) h.tail (by simp) (by simpa using hxy)]
      rw [weave, ← hstep]
      by_cases hf : f 0 = []
      · rw [hf, List.nil_append]
      · refine iff_of_false (fun hy => ?_) fun hy => ?_
        · exact (h.inert 0 i).2 hf x _ ⟨x, d :: y, hx, by simp, hxy, List.suffix_rfl, hy⟩
        · exact hf (h.eq_nil hapart hx (by simp) hxy (hstep.1 hy))

/-- A whole needle starts behind what has been woven in front of a character exactly where it starts
with that character. -/
theorem needle_prefix_iff (hapart : ∀ i j, Apart (needle i) (needle j))
    (hne : ∀ i, needle i ≠ []) (h : Posted needle f (c :: t)) :
    needle i <+: c :: weave (fun n => f (n + 1)) t ↔ needle i <+: c :: t := by
  obtain ⟨d, y, hy⟩ := List.exists_cons_of_ne_nil (hne i)
  rw [hy, List.cons_prefix_cons, List.cons_prefix_cons,
    prefix_weave_iff (x := [d]) hapart h.tail (by simp) hy]

/-- The search for a needle passes what has been woven in front of the first character. -/
theorem cutAt_weave_cons (hapart : ∀ i j, Apart (needle i) (needle j)) (hne : ∀ i, needle i ≠ [])
    (h : Posted needle f (c :: t)) : cutAt (needle i) (weave f (c :: t)) =
      if needle i <+: c :: t then some (f 0, c :: weave (fun n => f (n + 1)) t)
      else (cutAt (needle i) (weave (fun n => f (n + 1)) t)).map
        fun p => (f 0 ++ c :: p.1, p.2) := by
  have hpass : ¬ Crosses (needle i) (f 0) (c :: weave (fun n => f (n + 1)) t) := by
    intro hcross
    by_cases hf : f 0 = []
    · obtain ⟨x, y, hx, -, -, hsuffix, -⟩ := hcross
      rw [hf] at hsuffix
      exact hx (List.suffix_nil.1 hsuffix)
    · obtain ⟨j, hj⟩ := h.starts 0 hf
      rw [List.drop_zero, ← needle_prefix_iff hapart hne h] at hj
      obtain ⟨r, hr⟩ := hj
      rw [← hr] at hcross
      exact (hapart i j).not_crosses hcross
  rw [weave, cutAt_append_of_none (cutAt_eq_none_iff.2 (h.inert 0 i).1) hpass, cutAt_cons]
  simp only [needle_prefix_iff hapart hne h]
  split
  · rw [Option.map_some, List.append_nil]
  · rw [Option.map_map]
    rfl

/-- A needle that does not occur in the text does not occur in the woven one. -/
theorem cutAt_weave_of_none (hapart : ∀ i j, Apart (needle i) (needle j))
    (hne : ∀ i, needle i ≠ []) (h : Posted needle f t) (hcut : cutAt (needle i) t = none) :
    cutAt (needle i) (weave f t) = none := by
  induction t generalizing f with
  | nil => rwa [weave]
  | cons c t ih =>
    have hnot := cutAt_eq_none_iff.1 hcut
    rw [List.infix_cons_iff, not_or] at hnot
    rw [cutAt_weave_cons hapart hne h, if_neg hnot.1, ih h.tail (cutAt_eq_none_iff.2 hnot.2),
      Option.map_none]

/-- What is put in front of the first occurrence of a needle in the woven text is woven into the
text in front of its first occurrence. -/
theorem exists_cutAt_weave (hapart : ∀ i j, Apart (needle i) (needle j))
    (hne : ∀ i, needle i ≠ []) (h : Posted needle f t)
    (hcut : cutAt (needle i) t = some (before, rest)) :
    ∃ before' rest', cutAt (needle i) (weave f t) = some (before', rest') ∧
      ∀ g, before' ++ (g ++ rest') =
        weave (fun n => f n ++ if before.length = n then g else []) t := by
  induction t generalizing f before with
  | nil => exact absurd (List.infix_nil.1 (infix_of_cutAt hcut)) (hne i)
  | cons c t ih =>
    rw [cutAt_cons] at hcut
    rw [cutAt_weave_cons hapart hne h]
    by_cases hstart : needle i <+: c :: t
    · rw [if_pos hstart] at hcut
      cases hcut
      rw [if_pos hstart]
      refine ⟨_, _, rfl, fun g => ?_⟩
      simp [weave]
    · rw [if_neg hstart] at hcut
      obtain ⟨⟨b, r⟩, htail, heq⟩ := Option.map_eq_some_iff.1 hcut
      cases heq
      obtain ⟨before', rest', hwoven, hadd⟩ := ih h.tail htail
      rw [if_neg hstart, hwoven, Option.map_some]
      refine ⟨_, _, rfl, fun g => ?_⟩
      rw [weave, List.append_assoc, List.cons_append, hadd g]
      simp

end ProtoUpkeep.Text
