import ProtoUpkeep.Proofs.Status.EnumHeader

/-!
# What comments say does not matter to the codes

A comment line of the enum block adds to the comments of the codes and to nothing else: which codes
are read, with which names and numbers, is settled by the other lines (`EnumBlock.keys_values`). The
block is cut out of the file before its lines are read, though, and a closing brace ends it wherever
it stands. So the text of a comment line may be replaced by any other text that has a closing brace
if the old one has one (`StatusCode.keys_ofProto?_comment`), while a brace that is put into a comment
hides the codes behind it (`StatusCode.keys_ofProto?_brace`).
-/

namespace ProtoUpkeep

open Text

variable {name head t u v i j : Text} {c : Char} {p : Char → Bool}

/-- What of a code does not come from comments. -/
def StatusCode.key (code : StatusCode) : Text × Int := (code.name, code.number)

/-- The characters at the end of a text are dropped from its second part alone, unless all of that
goes. -/
theorem Text.dropEndWhile_append_of_getLast? (hu : u.getLast?.any p = false) (v : Text) :
    dropEndWhile p (u ++ v) = u ++ dropEndWhile p v := by
  obtain ⟨b, hb, hv, hlast⟩ := exists_dropEndWhile p v
  have hends : (u ++ dropEndWhile p v).getLast?.any p = false := by
    rw [List.getLast?_append]
    cases h : (dropEndWhile p v).getLast? with
    | none => simpa using hu
    | some d => simpa [h] using hlast
  calc dropEndWhile p (u ++ v) = dropEndWhile p ((u ++ dropEndWhile p v) ++ b) := by
        rw [List.append_assoc, ← hv]
    _ = u ++ dropEndWhile p v := dropEndWhile_append hb hends

namespace EnumBlock

/-! ## Lines that name no code -/

/-- The reader takes the line for a blank one or for a comment. -/
def IsSilent (line : Text) : Prop := line.trim = [] ∨ (commentLine? line.trim).isSome

/-- The two leaders of comment lines. -/
def IsLeader (t : Text) : Prop := t = "//" ∨ t = "*"

/-- A line of blanks is silent. -/
theorem isSilent_of_blanks (h : ∀ c ∈ t, isBlank c = true) : IsSilent t := .inl (trim_of_blanks h)

/-- A line with a leader behind blanks is silent, whatever follows the leader. -/
theorem isSilent_of_leader {b leader : Text} (hb : ∀ c ∈ b, isBlank c = true)
    (hleader : IsLeader leader) (t : Text) : IsSilent (b ++ (leader ++ t)) := by
  have htrim : (b ++ (leader ++ t)).trim = leader ++ trimEnd t := by
    have hhead : (leader ++ t).head?.any isBlank = false := by
      rcases hleader with rfl | rfl <;> rfl
    have hlast : leader.getLast?.any isBlank = false := by
      rcases hleader with rfl | rfl <;> rfl
    rw [trim, trimStart_append hb hhead]
    exact dropEndWhile_append_of_getLast? hlast t
  rw [IsSilent, htrim]
  refine .inr ?_
  rcases hleader with rfl | rfl <;> simp [commentLine?, startsWith, List.isPrefixOf]

/-- The texts that wait decide nothing but the comment of a value. -/
theorem key_value? (pending pending' : List Text) (line : Text) :
    (value? pending line).map StatusCode.key = (value? pending' line).map StatusCode.key := by
  unfold value?
  cases valueLine? line with
  | none => rfl
  | some v => cases hv : readCode? v.digits <;> simp [hv, StatusCode.key]

/-- A silent line changes only what waits. -/
theorem exists_values_of_isSilent (h : IsSilent t) (pending : List Text) (ls : List Text) :
    ∃ pending', values pending (t :: ls) = values pending' ls := by
  by_cases hne : t.trim = []
  · exact ⟨[], by simp [values, hne]⟩
  · obtain ⟨cl, hcl⟩ := Option.isSome_iff_exists.1 (h.resolve_left hne)
    exact ⟨cl.pending pending, by simp [values, hne, hcl]⟩

/-- Lines of which only silent ones differ give the same names and numbers, whatever texts wait. -/
theorem keys_values {ls ls' : List Text}
    (h : List.Forall₂ (fun l l' => l = l' ∨ IsSilent l ∧ IsSilent l') ls ls')
    (pending pending' : List Text) :
    (values pending ls).map StatusCode.key = (values pending' ls').map StatusCode.key := by
  induction h generalizing pending pending' with
  | nil => rfl
  | @cons l l' ls ls' hl _ ih =>
    have hsilent : IsSilent l → IsSilent l' →
        (values pending (l :: ls)).map StatusCode.key =
          (values pending' (l' :: ls')).map StatusCode.key := by
      intro hl hl'
      obtain ⟨q, hq⟩ := exists_values_of_isSilent hl pending ls
      obtain ⟨q', hq'⟩ := exists_values_of_isSilent hl' pending' ls'
      rw [hq, hq']
      exact ih q q'
    rcases hl with rfl | ⟨hl, hl'⟩
    · by_cases hl : IsSilent l
      · exact hsilent hl hl
      · obtain ⟨hne, hc⟩ := not_or.1 hl
        rw [Option.not_isSome_iff_eq_none] at hc
        have hkey := key_value? pending pending' l.trim
        simp only [values, List.isEmpty_iff, if_neg hne, hc]
        cases hv : value? pending l.trim <;> cases hv' : value? pending' l.trim
        · exact ih pending pending'
        · simp [hv, hv'] at hkey
        · simp [hv, hv'] at hkey
        · rw [hv, hv'] at hkey
          rw [List.map_cons, List.map_cons, ih [] [], Option.some.inj hkey]
    · exact hsilent hl hl'

/-! ## A comment line in a block -/

/-- A text after which a comment line may begin: its last line has nothing but blanks. -/
def StartsLine (t : Text) : Prop := ∀ l ∈ (lines t).getLast?, ∀ c ∈ l, isBlank c = true

/-- A text with which the next line begins, if there is one. -/
def EndsLine (t : Text) : Prop := t.head?.all (· == '\n') = true

instance : DecidablePred StartsLine := fun t =>
  decidable_of_iff ((lines t).getLast?.all (·.all isBlank) = true) (by
    simp [StartsLine, Option.all_eq_true])

instance : DecidablePred EndsLine := fun t =>
  inferInstanceAs (Decidable (t.head?.all (· == '\n') = true))

/-- A leader holds no line feed and no closing brace. -/
theorem IsLeader.not_mem {leader : Text} (h : IsLeader leader) :
    '\n' ∉ leader ∧ '\x7d' ∉ leader := by
  rcases h with rfl | rfl <;> decide

/-- The lines around a comment line are the same for all comment texts. -/
theorem exists_lines_comment {leader : Text} (hu : StartsLine u) (hleader : IsLeader leader)
    (hv : EndsLine v) : ∃ ls b ls', (∀ c ∈ b, isBlank c = true) ∧
      ∀ o : Text, '\n' ∉ o →
        lines (u ++ (leader ++ (o ++ v))) = ls ++ (b ++ (leader ++ o)) :: ls' := by
  obtain ⟨ls, b, hb⟩ := exists_lines_eq_append u
  obtain ⟨ls', hls'⟩ : ∃ ls', ∀ o : Text, '\n' ∉ o →
      lines (leader ++ (o ++ v)) = (leader ++ o) :: ls' := by
    cases v with
    | nil =>
      refine ⟨[], fun o ho => ?_⟩
      rw [List.append_nil]
      exact lines_eq_of_not_mem (by simp [hleader.not_mem, ho])
    | cons d w =>
      obtain rfl : d = '\n' := by simpa [EndsLine] using hv
      refine ⟨lines w, fun o ho => ?_⟩
      rw [← List.append_assoc, lines_append_cons,
        lines_eq_of_not_mem (by simp [hleader.not_mem, ho])]
      rfl
  exact ⟨ls, b, ls', hu b (by rw [hb]; simp), fun o ho => lines_append hb (hls' o ho)⟩

end EnumBlock

namespace StatusCode

open EnumBlock

variable {leader o o' : Text}

/-- A closing brace in the text of a comment line ends the block: the codes are those of the lines
above. -/
theorem keys_ofProto?_brace (h : FirstOpens name head) (hu : StartsLine u) (hbrace : '\x7d' ∉ u)
    (hleader : IsLeader leader) (ho : '\n' ∉ o) (ho' : '\x7d' ∈ o) :
    (ofProto? name (head ++ (u ++ (leader ++ (o ++ v))))).map (·.map key) =
      some ((values [] u.lines).map key) := by
  have hin : '\x7d' ∈ u ++ (leader ++ (o ++ v)) := by simp [ho']
  obtain ⟨ls, b, hb⟩ := exists_lines_eq_append u
  have hblank : ∀ c ∈ b, isBlank c = true := hu b (by rw [hb]; simp)
  have hlines : lines (u ++ (leader ++ o.takeWhile (· != '\x7d'))) =
      ls ++ [b ++ (leader ++ o.takeWhile (· != '\x7d'))] := by
    refine lines_append hb (lines_eq_of_not_mem ?_)
    rw [List.mem_append, not_or]
    exact ⟨hleader.not_mem.1, fun hmem => ho ((List.takeWhile_prefix _).subset hmem)⟩
  rw [ofProto?, body?_append h, if_pos hin, takeWhile_append_of_not_mem hbrace,
    takeWhile_append_of_not_mem hleader.not_mem.2, takeWhile_append_of_mem ho', Option.map_some,
    Option.map_some, hlines, hb]
  refine congrArg some (keys_values (List.rel_append (List.forall₂_same.2 fun _ _ => .inl rfl) ?_)
    _ _)
  exact .cons (.inr ⟨isSilent_of_leader hblank hleader _, isSilent_of_blanks hblank⟩) .nil

/-- The text of a comment line of the block may be replaced by any other one that has a closing
brace if the old one has: the names and numbers that are read stay the same. -/
theorem keys_ofProto?_comment (h : FirstOpens name head) (hu : StartsLine u)
    (hleader : IsLeader leader) (ho : '\n' ∉ o) (ho' : '\n' ∉ o') (hv : EndsLine v)
    (hbrace : '\x7d' ∈ o ↔ '\x7d' ∈ o') :
    (ofProto? name (head ++ (u ++ (leader ++ (o ++ v))))).map (·.map key) =
      (ofProto? name (head ++ (u ++ (leader ++ (o' ++ v))))).map (·.map key) := by
  by_cases hbu : '\x7d' ∈ u
  · -- The block ends above the line.
    simp only [ofProto?, body?_append h, List.mem_append, hbu, true_or, if_true,
      takeWhile_append_of_mem hbu]
  by_cases hbo : '\x7d' ∈ o
  · rw [keys_ofProto?_brace h hu hbu hleader ho hbo,
      keys_ofProto?_brace h hu hbu hleader ho' (hbrace.1 hbo)]
  have hbo' : '\x7d' ∉ o' := fun hmem => hbo (hbrace.2 hmem)
  have hends : EndsLine (v.takeWhile (· != '\x7d')) := by
    cases v with
    | nil => rfl
    | cons d w =>
      obtain rfl : d = '\n' := by simpa [EndsLine] using hv
      rfl
  obtain ⟨ls, b, ls', hb, hlines⟩ := exists_lines_comment hu hleader hends
  have hread : ∀ o : Text, '\n' ∉ o → '\x7d' ∉ o →
      ofProto? name (head ++ (u ++ (leader ++ (o ++ v)))) =
        if '\x7d' ∈ v then some (values [] (ls ++ (b ++ (leader ++ o)) :: ls')) else none := by
    intro o ho hbo
    rw [ofProto?, body?_append h, takeWhile_append_of_not_mem hbu,
      takeWhile_append_of_not_mem hleader.not_mem.2, takeWhile_append_of_not_mem hbo]
    simp only [List.mem_append, hbu, hleader.not_mem.2, hbo, false_or]
    split
    · rw [Option.map_some, hlines o ho]
    · rfl
  rw [hread o ho hbo, hread o' ho' hbo']
  split
  · refine congrArg some (keys_values (List.rel_append
      (List.forall₂_same.2 fun _ _ => .inl rfl) (.cons (.inr ?_) ?_)) _ _)
    · exact ⟨isSilent_of_leader hb hleader o, isSilent_of_leader hb hleader o'⟩
    · exact List.forall₂_same.2 fun _ _ => .inl rfl
  · rfl

/-- A comment that looks like a value and a block comment may take the place of another one. -/
theorem keys_ofProto?_comment_replaced :
    let head : Text := "enum ResponseCodeEnum \x7b"
    let read (comment : Text) : Option (List StatusCode) :=
      ofProto? "ResponseCodeEnum" (head ++ ("\n    " ++ ("//" ++ (comment ++ "\n    OK = 0;\n\x7d"))))
    FirstOpens "ResponseCodeEnum" head ∧ StartsLine "\n    " ∧ IsLeader "//" ∧
      EndsLine "\n    OK = 0;\n\x7d" ∧
      (read " Done.").map (·.map key) = (read " /* NO = 1;").map (·.map key) := by
  intro head read
  have hblank : ∀ c ∈ " ".toList, isBlank c = true := List.all_eq_true.1 rfl
  have hheader : IsHeader "ResponseCodeEnum" head := ⟨" ", " ", by decide, hblank, hblank, rfl⟩
  have hfirst := hheader.firstOpens (by decide)
  have hstarts : StartsLine "\n    " := by decide
  have hends : EndsLine "\n    OK = 0;\n\x7d" := by decide
  exact ⟨hfirst, hstarts, .inl rfl, hends,
    keys_ofProto?_comment hfirst hstarts (.inl rfl) (by decide) (by decide) hends (by decide)⟩

/-- A closing brace in a comment hides the code behind it. -/
theorem keys_ofProto?_brace_hides :
    let read (comment : Text) : Option (List StatusCode) :=
      ofProto? "ResponseCodeEnum"
        ("enum ResponseCodeEnum \x7b\n" ++ ("//" ++ (comment ++ "\nOK = 0;\n\x7d")))
    (read " ").map (·.map key) = some [("OK".toList, 0)] ∧ (read " \x7d").map (·.map key) = some [] := by
  decide +kernel

end StatusCode

end ProtoUpkeep
