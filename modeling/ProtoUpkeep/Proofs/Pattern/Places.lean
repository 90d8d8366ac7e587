import ProtoUpkeep.Proofs.Text.Search
import ProtoUpkeep.Status.Anchor

/-!
# Places that patterns point at

The place that a pattern points at is a number of characters, worked out from the start of a match
and from the start of its first group (`Pattern.place?`). The text is cut there, and a number beyond
its end would leave everything in front of the cut. All that is asked of an engine is that it gives no
such number (`PatternEngine.StaysInside`).

The engine that runs gives none: a thread of its matching machine reads a character only where there
is one, so its index and the group that it has noted lie between the starting place and the end of the
text. One instruction keeps that (`Matcher.Thread.Within.step`), so every thread that is explored has
it (`Matcher.Thread.Within.of_explore`), whatever the pattern is. A pattern that is one text has its
first group within that text (`PatternNode.firstGroup?_le_length`).
-/

namespace ProtoUpkeep

open Text

variable {t : Text} {n : Nat}

namespace Matcher

variable {p : Matcher} {text : Array Char} {th th' : Thread} {i j : Nat} {group : Option Nat}

/-- The thread stands between index `i` and the end of the text, and the group that it has noted
starts between `i` and the thread's own index. -/
structure Thread.Within (i : Nat) (text : Array Char) (th : Thread) : Prop where
  /-- The thread has not gone back. -/
  le_index : i ≤ th.index
  /-- The thread has not left the text. -/
  index_le : th.index ≤ text.size
  /-- The group starts on the way of the thread. -/
  group : ∀ g ∈ th.group, i ≤ g ∧ g ≤ th.index

/-- A thread at its starting place has noted nothing yet. -/
theorem Thread.within_start (h : i ≤ text.size) (address : Nat) :
    Thread.Within i text ⟨address, i, none⟩ :=
  ⟨le_rfl, h, fun _ hg => nomatch hg⟩

/-- Reading a character keeps a thread within the text. -/
theorem Thread.Within.read (h : th.Within i text) (hlt : th.index < text.size) (next : Nat) :
    Thread.Within i text { th with address := next, index := th.index + 1 } where
  le_index := Nat.le_succ_of_le h.le_index
  index_le := hlt
  group g hg := ⟨(h.group g hg).1, Nat.le_succ_of_le (h.group g hg).2⟩

/-- Going on at another address keeps a thread within the text. -/
theorem Thread.Within.goto (h : th.Within i text) (next : Nat) :
    Thread.Within i text { th with address := next } :=
  ⟨h.le_index, h.index_le, h.group⟩

/-- Noting the group keeps a thread within the text. -/
theorem Thread.Within.mark (h : th.Within i text) (next : Nat) :
    Thread.Within i text { th with address := next, group := some th.index } where
  le_index := h.le_index
  index_le := h.index_le
  group _ hg := Option.mem_some_iff.1 hg ▸ ⟨h.le_index, le_rfl⟩

/-- Every thread that a thread goes on as stays within the text. -/
theorem Thread.Within.step (h : th.Within i text) (hmem : th' ∈ stepThread p text th) :
    th'.Within i text := by
  have hlt : ∀ {c : Char}, text[th.index]? = some c → th.index < text.size := fun hc =>
    (Array.getElem?_eq_some_iff.1 hc).1
  unfold stepThread at hmem
  split at hmem
  · cases hmem
  · cases hmem
  · next c next _ =>
    split at hmem
    · next hc =>
      rw [List.mem_singleton.1 hmem]
      exact h.read (hlt (beq_iff_eq.1 hc)) next
    · cases hmem
  · next c next _ =>
    split at hmem
    · next hc =>
      obtain ⟨d, hd, -⟩ := (Option.any_eq_true _ _).1 hc
      rw [List.mem_singleton.1 hmem]
      exact h.read (hlt hd) next
    · cases hmem
  · next next _ =>
    split at hmem
    · rw [List.mem_singleton.1 hmem]
      exact h.goto next
    · cases hmem
  · next next _ =>
    rw [List.mem_singleton.1 hmem]
    exact h.mark next
  · next first second _ =>
    rcases List.mem_pair.1 hmem with rfl | rfl
    · exact h.goto first
    · exact h.goto second

/-- A thread that is explored from threads within the text is within the text. -/
theorem Thread.Within.of_explore {fuel : Nat} {visited visited' : Array Bool} {stack : List Thread}
    (h : ∀ th ∈ stack, th.Within i text)
    (hth : explore p text fuel visited stack = (some th, visited')) : th.Within i text := by
  -- What has been visited decides which threads are dropped, and nothing about those that are left.
  induction fuel generalizing visited stack with
  | zero => cases hth
  | succ fuel ih =>
    cases stack with
    | nil => cases hth
    | cons th₀ stack =>
      have hstack : ∀ th ∈ stack, th.Within i text := fun th hmem => h th (by simp [hmem])
      rw [explore] at hth
      split at hth
      · cases hth
        exact h th (by simp)
      · simp only at hth
        split at hth
        · exact ih hstack hth
        · refine ih (fun th hmem => ?_) hth
          rcases List.mem_append.1 hmem with hmem | hmem
          · exact (h th₀ (by simp)).step hmem
          · exact hstack th hmem

/-- A match starts within the text, and its first group starts no earlier. -/
theorem within_of_search {left : Nat} {visited : Array Bool} {address : Nat}
    (hleft : i + left = text.size + 1)
    (h : search p address text left visited i = some (j, group)) :
    j ≤ text.size ∧ ∀ g ∈ group, j ≤ g ∧ g ≤ text.size := by
  induction left generalizing visited i with
  | zero => cases h
  | succ left ih =>
    rw [search] at h
    split at h
    · next th _ hexplore =>
      have hle : i ≤ text.size := by omega
      have hstart : ∀ th ∈ [Thread.mk address i none], th.Within i text := fun th hmem =>
        List.mem_singleton.1 hmem ▸ Thread.within_start hle address
      have hth := Thread.Within.of_explore hstart hexplore
      cases h
      exact ⟨hle, fun g hg => ⟨(hth.group g hg).1, (hth.group g hg).2.trans hth.index_le⟩⟩
    · exact ih (by omega) h

/-- The leftmost match of a pattern starts within the text, and its first group starts no earlier. -/
theorem within_of_run {node : PatternNode} (h : run node t = some (j, group)) :
    j ≤ t.length ∧ ∀ g ∈ group, j ≤ g ∧ g ≤ t.length :=
  within_of_search (Nat.zero_add _) h

end Matcher

/-! ## Patterns that are one text -/

/-- The first group of a pattern that is one text starts within that text. -/
theorem PatternNode.firstGroup?_le_length {node : PatternNode} {needle : Text}
    (h : node.literal? = some needle) (hn : node.firstGroup? = some n) : n ≤ needle.length := by
  induction node generalizing needle n with
  | group number body ih =>
    unfold firstGroup? at hn
    split at hn
    · cases hn
      exact Nat.zero_le _
    · next heq =>
      cases heq
      exact ih h hn
    · next heq => cases heq
    · cases hn
  | seq a b iha ihb =>
    simp only [literal?, Option.bind_eq_bind, Option.bind_eq_some_iff, Option.some.injEq] at h
    obtain ⟨u, hu, v, hv, rfl⟩ := h
    rw [List.length_append]
    rw [firstGroup?] at hn
    split at hn
    · next m hm =>
      cases hn
      exact Nat.le_add_right_of_le (iha hu hm)
    · obtain ⟨m, hm, rfl⟩ := Option.map_eq_some_iff.1 hn
      have := ihb hv hm
      rw [hu, Option.getD_some]
      omega
  | _ => cases hn

/-! ## Places -/

/-- The engine's matches lie in the text, and so do their groups. -/
def PatternEngine.StaysInside (engine : PatternEngine) : Prop :=
  ∀ source p, engine.read source = .ok p → ∀ t m, p.find t = some m →
    m.start ≤ t.length ∧ ∀ g ∈ m.group?, g ≤ t.length

/-- The matches of a pattern lie in the text, and so do their groups. -/
theorem PatternNode.le_length_of_find {node : PatternNode} {m : PatternMatch}
    (h : node.find t = some m) : m.start ≤ t.length ∧ ∀ g ∈ m.group?, g ≤ t.length := by
  unfold find at h
  split at h
  · next needle hneedle =>
    obtain ⟨⟨before, rest⟩, hcut, rfl⟩ := Option.map_eq_some_iff.1 h
    have hrest := (prefix_of_cutAt hcut).length_le
    rw [← Text.append_of_cutAt hcut, List.length_append]
    refine ⟨Nat.le_add_right _ _, fun g hg => ?_⟩
    obtain ⟨k, hk, rfl⟩ := Option.map_eq_some_iff.1 hg
    have := firstGroup?_le_length hneedle hk
    omega
  · obtain ⟨⟨start, group?⟩, hrun, rfl⟩ := Option.map_eq_some_iff.1 h
    obtain ⟨hstart, hgroup⟩ := Matcher.within_of_run hrun
    exact ⟨hstart, fun g hg => (hgroup g hg).2⟩

/-- The engine that runs finds nothing outside the text. -/
theorem PatternEngine.standard_staysInside : standard.StaysInside := by
  intro source p hread t m hfind
  simp only [standard] at hread
  cases hnode : PatternNode.read source with
  | error e =>
    rw [hnode] at hread
    cases hread
  | ok node =>
    rw [hnode] at hread
    cases hread
    exact PatternNode.le_length_of_find hfind

/-- The number of characters in front of what the anchor points at, if the anchor occurs. -/
def InsertionPoint.place? : InsertionPoint → Text → Option Nat
  | marker text, t => (Text.cutAt text t).map (·.1.length)
  | pattern p, t => p.place? t

/-- An anchor that an engine has read points at a place of the text. -/
theorem InsertionPoint.place?_le_length {engine : PatternEngine} {anchor : Anchor}
    {a : InsertionPoint} (hinside : engine.StaysInside) (hready : anchor.ready engine = .ok a)
    (h : a.place? t = some n) : n ≤ t.length := by
  cases anchor with
  | marker text =>
    cases hready
    obtain ⟨⟨before, rest⟩, hcut, rfl⟩ := Option.map_eq_some_iff.1 h
    rw [← Text.append_of_cutAt hcut, List.length_append]
    exact Nat.le_add_right _ _
  | pattern regex =>
    rw [Anchor.ready] at hready
    cases hread : engine.read regex with
    | error e =>
      rw [hread] at hready
      cases hready
    | ok p =>
      rw [hread] at hready
      cases hready
      obtain ⟨m, hfind, rfl⟩ := Option.map_eq_some_iff.1 h
      obtain ⟨hstart, hgroup⟩ := hinside _ _ hread _ _ hfind
      cases hm : m.group? with
      | none => exact hstart
      | some g => exact hgroup g hm

/-- An anchor cuts the text at the place that it points at. -/
theorem InsertionPoint.cutAt_eq (a : InsertionPoint) (t : Text) :
    a.cutAt t = (a.place? t).map fun n => (t.take n, t.drop n) := by
  cases a with
  | marker text =>
    simp only [cutAt, place?, Option.map_map]
    cases hcut : Text.cutAt text t with
    | none => rfl
    | some cut =>
      obtain ⟨before, rest⟩ := cut
      simp only [Option.map_some, Function.comp_apply]
      rw [← Text.append_of_cutAt hcut, List.take_left, List.drop_left]
  | pattern p => exact Option.map_congr fun _ _ => List.splitAt_eq ..

end ProtoUpkeep
