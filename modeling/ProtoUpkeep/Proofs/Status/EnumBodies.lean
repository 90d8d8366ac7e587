import ProtoUpkeep.Proofs.Status.EnumHeader

/-!
# Bodies of an enum block behind one another

The reader of an enum block goes down its lines with the comment texts that wait for a value. What a
line hands on is said apart from the code that it gives (`EnumBlock.waitingAfter`,
`EnumBlock.code?`), so the codes of some lines and more lines are those of the first and then those
that the others give with what still waits (`EnumBlock.values_append`). Behind a blank line nothing
waits, whatever stands above it: a comment that no value took, a block comment that is not closed, a
value whose number does not fit. So the codes of two bodies with a blank line between them are the
codes of the one and of the other (`StatusCode.ofProto?_append_blankLine`).
-/

namespace ProtoUpkeep

open Text

variable {name head body body₁ body₂ gap raw : Text} {c : Char}

namespace EnumBlock

/-! ## Line by line -/

/-- The comment texts that wait behind a line, given those that wait in front of it. -/
def waitingAfter (pending : List Text) (raw : Text) : List Text :=
  if raw.trim.isEmpty then []
  else
    match commentLine? raw.trim with
    | some c => c.pending pending
    | none => if (value? pending raw.trim).isSome then [] else pending

/-- The code that a line gives, given the comment texts that wait in front of it. -/
def code? (pending : List Text) (raw : Text) : Option StatusCode :=
  if raw.trim.isEmpty || (commentLine? raw.trim).isSome then none else value? pending raw.trim

/-- One line gives its code and hands on what waits behind it. -/
theorem values_cons (pending : List Text) (raw : Text) (ls : List Text) :
    values pending (raw :: ls) =
      (code? pending raw).toList ++ values (waitingAfter pending raw) ls := by
  simp only [values, code?, waitingAfter]
  cases raw.trim.isEmpty with
  | true => rfl
  | false =>
    cases commentLine? raw.trim with
    | some c => rfl
    | none => cases value? pending raw.trim <;> rfl

/-- Lines give their codes, and the lines behind them read on with what still waits. -/
theorem values_append (pending ls ls' : List Text) :
    values pending (ls ++ ls') = values pending ls ++ values (ls.foldl waitingAfter pending) ls' := by
  induction ls generalizing pending with
  | nil => simp [values]
  | cons raw ls ih =>
    rw [List.cons_append, values_cons, values_cons, ih, List.foldl_cons, List.append_assoc]

/-! ## Blank lines -/

/-- Nothing waits behind a blank line. -/
theorem waitingAfter_of_blank (h : raw.trim = []) (pending : List Text) :
    waitingAfter pending raw = [] := by
  rw [waitingAfter, h]
  rfl

/-- A blank line gives no code. -/
theorem code?_of_blank (h : raw.trim = []) (pending : List Text) : code? pending raw = none := by
  rw [code?, h]
  rfl

/-- Blank lines give no code and leave nothing waiting. -/
theorem values_blanks_append {ls : List Text} (hne : ls ≠ []) (h : ∀ raw ∈ ls, raw.trim = [])
    (pending ls' : List Text) : values pending (ls ++ ls') = values [] ls' := by
  induction ls generalizing pending with
  | nil => exact absurd rfl hne
  | cons raw ls ih =>
    have hraw := h raw (by simp)
    rw [List.cons_append, values_cons, code?_of_blank hraw, waitingAfter_of_blank hraw,
      Option.toList_none, List.nil_append]
    by_cases hls : ls = []
    · rw [hls, List.nil_append]
    · exact ih hls (fun l hl => h l (by simp [hl])) []

/-- The lines of a text of blanks are blank. -/
theorem trim_of_mem_lines (h : ∀ c ∈ gap, isBlank c = true) : ∀ raw ∈ lines gap, raw.trim = [] :=
  fun _ hraw => trim_of_blanks fun c hc => h c (mem_pieces_iff.1 ⟨_, hraw, hc⟩).1

/-- The codes above a blank line and those below it. -/
theorem values_lines_append_blankLine (hgap : ∀ c ∈ gap, isBlank c = true) (u v : Text) :
    values [] (lines (u ++ '\n' :: (gap ++ '\n' :: v))) =
      values [] (lines u) ++ values [] (lines v) := by
  rw [lines_append_cons, lines_append_cons, values_append,
    values_blanks_append (lines_ne_nil gap) (trim_of_mem_lines hgap)]

end EnumBlock

namespace StatusCode

open EnumBlock

/-- The codes of a block are those of its body. -/
theorem ofProto?_block (h : FirstOpens name head) (hbody : '\x7d' ∉ body) (rest : Text) :
    ofProto? name (head ++ (body ++ '\x7d' :: rest)) = some (values [] body.lines) := by
  rw [ofProto?, body?_append h, if_pos (by simp), takeWhile_append_cons hbody, Option.map_some]

end StatusCode

end ProtoUpkeep
