import ProtoUpkeep.Proofs.Text.Lines
import ProtoUpkeep.Proofs.Text.Search
import ProtoUpkeep.Proofs.Text.Trim

/-!
# Line ends

A text may end its lines with a line feed or with a carriage return and a line feed. `Text.crlf`
turns the first kind into the second. Both characters are blank, so whatever skips blanks skips as
much of either text, and a recogniser that looks for other characters only goes on in `crlf` of what
it would go on in (`dropHead?_crlf`, `run?_crlf`, `trimStart_crlf`). Line by line the two texts
differ in carriage returns at the ends of lines (`forall₂_lines_crlf`).
-/

namespace ProtoUpkeep.Text

variable {p : Char → Bool} {c : Char} {head t u : Text}

/-- The text with a carriage return in front of each line feed. -/
def crlf (t : Text) : Text := t.flatMap fun c => if c = '\n' then ['\r', '\n'] else [c]

@[simp] theorem crlf_nil : crlf [] = [] := rfl

@[simp] theorem crlf_newline (t : Text) : crlf ('\n' :: t) = '\r' :: '\n' :: crlf t := rfl

theorem crlf_cons (hc : c ≠ '\n') (t : Text) : crlf (c :: t) = c :: crlf t := by
  simp [crlf, hc]

@[simp] theorem crlf_append (t u : Text) : crlf (t ++ u) = crlf t ++ crlf u := List.flatMap_append

/-- The text holds neither a carriage return nor a line feed. -/
def Unbroken (t : Text) : Prop := '\r' ∉ t ∧ '\n' ∉ t

instance : DecidablePred Unbroken := fun t =>
  inferInstanceAs (Decidable ('\r' ∉ t ∧ '\n' ∉ t))

theorem unbroken_cons : Unbroken (c :: t) ↔ (c ≠ '\r' ∧ c ≠ '\n') ∧ Unbroken t := by
  simp only [Unbroken, List.mem_cons, not_or]
  constructor
  · rintro ⟨⟨h₁, h₂⟩, h₃, h₄⟩
    exact ⟨⟨Ne.symm h₁, Ne.symm h₃⟩, h₂, h₄⟩
  · rintro ⟨⟨h₁, h₃⟩, h₂, h₄⟩
    exact ⟨⟨Ne.symm h₁, h₂⟩, Ne.symm h₃, h₄⟩

/-! ## Recognisers -/

/-- A head is dropped from either text. -/
theorem dropHead?_crlf (hhead : Unbroken head) (t : Text) :
    dropHead? head (crlf t) = (dropHead? head t).map crlf := by
  induction head generalizing t with
  | nil => rfl
  | cons c head ih =>
    obtain ⟨⟨hreturn, hfeed⟩, hhead⟩ := unbroken_cons.1 hhead
    cases t with
    | nil => rfl
    | cons d t =>
      by_cases hd : d = '\n'
      · subst hd
        simp [dropHead?, hreturn, hfeed]
      · rw [crlf_cons hd, dropHead?, dropHead?]
        split
        · exact ih hhead t
        · rfl

/-- Blanks are dropped from either text. -/
theorem trimStart_crlf (t : Text) : trimStart (crlf t) = crlf (trimStart t) := by
  induction t with
  | nil => rfl
  | cons c t ih =>
    by_cases hc : c = '\n'
    · subst hc
      exact ih
    · rw [crlf_cons hc]
      unfold trimStart at ih ⊢
      rw [List.dropWhile_cons, List.dropWhile_cons]
      split
      · exact ih
      · rw [crlf_cons hc]

/-- Blanks that have to be there are dropped from either text. -/
theorem dropBlanks?_crlf (t : Text) : dropBlanks? (crlf t) = (dropBlanks? t).map crlf := by
  have hdrop : ∀ u : Text, dropBlanks? u =
      if u.head?.any isBlank then some (trimStart u) else none := by
    intro u
    cases u with
    | nil => rfl
    | cons c u =>
      by_cases hc : isBlank c = true <;> simp [dropBlanks?, run?, trimStart, hc]
  have hhead : (crlf t).head?.any isBlank = t.head?.any isBlank := by
    cases t with
    | nil => rfl
    | cons c t =>
      by_cases hc : c = '\n'
      · subst hc
        rfl
      · rw [crlf_cons hc]
        rfl
  rw [hdrop, hdrop, hhead, trimStart_crlf]
  split <;> rfl

/-- A run of other characters is the same one in either text. -/
theorem run?_crlf (hreturn : p '\r' = false) (hfeed : p '\n' = false) (t : Text) :
    run? p (crlf t) = (run? p t).map fun x => (x.1, crlf x.2) := by
  have htake : (crlf t).takeWhile p = t.takeWhile p ∧
      (crlf t).dropWhile p = crlf (t.dropWhile p) := by
    induction t with
    | nil => exact ⟨rfl, rfl⟩
    | cons c t ih =>
      by_cases hc : c = '\n'
      · subst hc
        simp [hreturn, hfeed]
      · by_cases hp : p c = true
        · simp [crlf_cons hc, hp, ih]
        · simp [crlf_cons hc, hp]
  unfold run?
  rw [htake.1, htake.2]
  split <;> rfl

/-- The text in front of a character is the one in front of it in either text. -/
theorem cutAt_singleton_crlf (hc : Unbroken [c]) (t : Text) :
    cutAt [c] (crlf t) = (cutAt [c] t).map fun x => (crlf x.1, crlf x.2) := by
  obtain ⟨⟨hreturn, hfeed⟩, -⟩ := unbroken_cons.1 hc
  have hone : ∀ (d : Char) (u : Text), cutAt [c] (d :: u) =
      if c = d then some ([], d :: u) else (cutAt [c] u).map fun x => (d :: x.1, x.2) := by
    intro d u
    rw [cutAt_cons]
    simp
  induction t with
  | nil => rfl
  | cons d t ih =>
    by_cases hd : d = '\n'
    · subst hd
      rw [crlf_newline, hone, hone, hone, if_neg hreturn, if_neg hfeed, if_neg hfeed, ih]
      cases cutAt [c] t <;> rfl
    · rw [crlf_cons hd, hone, hone, ih]
      split
      · simp [crlf_cons hd]
      · cases cutAt [c] t <;> simp [crlf_cons hd]

/-! ## Lines -/

/-- The second line is the first one, perhaps with a carriage return at its end. -/
def Returned (l l' : Text) : Prop := l' = l ∨ l' = l ++ ['\r']

/-- Carriage returns stand at the ends of lines. -/
theorem forall₂_lines_crlf (t : Text) : List.Forall₂ Returned (lines t) (lines (crlf t)) := by
  induction t with
  | nil => exact .cons (.inl rfl) .nil
  | cons c t ih =>
    by_cases hc : c = '\n'
    · subst hc
      have hreturn : lines ('\r' :: '\n' :: crlf t) = ['\r'] :: lines (crlf t) :=
        lines_append_cons ['\r'] (crlf t)
      rw [crlf_newline, hreturn]
      exact .cons (.inr rfl) ih
    · obtain ⟨l, ls, hls⟩ := exists_lines_eq_cons t
      obtain ⟨l', ls', hls'⟩ := exists_lines_eq_cons (crlf t)
      rw [hls, hls', List.forall₂_cons] at ih
      have hcons : ∀ {u k : Text} {ks : List Text}, lines u = k :: ks →
          lines (c :: u) = (c :: k) :: ks := by
        intro u k ks hu
        rw [lines, pieces_cons, if_neg hc]
        rw [lines] at hu
        rw [hu]
        rfl
      rw [crlf_cons hc, hcons hls, hcons hls']
      exact .cons (ih.1.imp (congrArg (c :: ·)) (congrArg (c :: ·))) ih.2

/-- Trimming takes off the carriage return. -/
theorem Returned.trim_eq {l l' : Text} (h : Returned l l') : trim l' = trim l := by
  rcases h with rfl | rfl
  · rfl
  · obtain ⟨a, b, ha, hb, hl, ht⟩ := exists_trim l
    have hblank : ∀ c ∈ b ++ ['\r'], isBlank c = true := by
      intro c hc
      rcases List.mem_append.1 hc with hc | hc
      · exact hb c hc
      · rw [List.mem_singleton.1 hc]
        decide
    conv_lhs => rw [hl, List.append_assoc, List.append_assoc]
    exact trim_append ha ht hblank

end ProtoUpkeep.Text
