import ProtoUpkeep.Proofs.Text.Lines
import ProtoUpkeep.Proofs.Text.Search
import ProtoUpkeep.Proofs.Text.Trim
import ProtoUpkeep.Status.EnumBlock

/-!
# What is known of a code that was read

Whatever the proto file looks like, a code that `StatusCode.ofProto?` gives has a name of word
characters, a number that a status code can have, and a trimmed comment on one line without a
closing brace (`StatusCode.WellRead`). The comment is put together from pieces of the lines of the
block, so the claim about its characters is carried from the block's body through every step of the
reader: the predicate `p` below stands for what the characters of the body have in common.
-/

namespace ProtoUpkeep

open Text

variable {p : Char → Prop} {c : Char} {t u : Text}

/-! ## Characters that a step of the reader keeps -/

/-- The first occurrence of a character has none of it before. -/
theorem Text.not_mem_of_cutAt {before rest : Text} (h : cutAt [c] t = some (before, rest)) :
    c ∉ before := by
  induction t generalizing before with
  | nil => simp [cutAt] at h
  | cons d t ih =>
    rw [cutAt] at h
    split at h
    · cases h; simp
    · next hd =>
      obtain ⟨⟨b, r⟩, hcut, heq⟩ := Option.map_eq_some_iff.1 h
      cases heq
      rw [List.mem_cons, not_or]
      exact ⟨by rintro rfl; simp at hd, ih hcut⟩

/-- Trimming at the start adds no character. -/
theorem Text.mem_of_mem_trimStart (h : c ∈ trimStart t) : c ∈ t :=
  (List.dropWhile_sublist isBlank).subset h

/-- What is left behind a head has only characters of the text. -/
theorem Text.mem_of_dropHead? {head rest : Text} (h : dropHead? head t = some rest)
    (hc : c ∈ rest) : c ∈ t := by
  rw [dropHead?_eq_some_iff.1 h]
  exact List.mem_append_right head hc

/-- What is left behind something optional has only characters of the text. -/
theorem Text.mem_of_mem_getD {o : Option Text} (ho : ∀ r, o = some r → c ∈ r → c ∈ t)
    (h : c ∈ o.getD t) : c ∈ t := by
  cases o with
  | none => exact h
  | some r => exact ho r rfl h

/-- A joined text has the characters of the texts and of the separator. -/
theorem Text.forall_mem_joinWith {sep : Text} {ts : List Text} (hsep : ∀ c ∈ sep, p c)
    (hts : ∀ t ∈ ts, ∀ c ∈ t, p c) : ∀ c ∈ joinWith sep ts, p c := by
  induction ts with
  | nil => simp [joinWith]
  | cons t ts ih =>
    have ih := ih fun u hu => hts u (by simp [hu])
    cases ts with
    | nil => simpa [joinWith] using hts
    | cons u ts =>
      intro c hc
      simp only [joinWith, List.intercalate_cons_cons, List.mem_append] at hc ih
      rcases hc with (hc | hc) | hc
      · exact hts t (by simp) c hc
      · exact hsep c hc
      · exact ih c hc

namespace EnumBlock

/-- The body of the block has no closing brace. -/
theorem brace_not_mem_of_body? {name proto body : Text} (h : body? name proto = some body) :
    '\x7d' ∉ body := by
  induction proto with
  | nil => cases h
  | cons c t ih =>
    rw [body?] at h
    split at h
    · next hat =>
      cases h
      simp only [bodyAt?, Option.bind_eq_bind, Option.bind_eq_some_iff, Option.some.injEq] at hat
      obtain ⟨-, -, inside, -, ⟨body', after⟩, hcut, rfl⟩ := hat
      exact not_mem_of_cutAt hcut
    · exact ih h

/-- Stripping markers adds no character. -/
theorem mem_of_mem_stripMarkers (h : c ∈ stripMarkers t) : c ∈ t := by
  have hopen : ∀ {t rest : Text}, openMarker? t = some rest → ∀ c ∈ rest, c ∈ t := by
    intro t rest h c hc
    obtain ⟨u, hu, rfl⟩ := Option.map_eq_some_iff.1 h
    have hc := mem_of_mem_getD (fun r hr => mem_of_dropHead? hr) (mem_of_mem_trimStart hc)
    exact mem_of_dropHead? hu hc
  have hclose : ∀ {t rest : Text}, closeMarker? t = some rest → ∀ c ∈ rest, c ∈ t :=
    fun h c hc => mem_of_mem_trimStart (mem_of_dropHead? h hc)
  fun_induction stripMarkers t with
  | case1 => cases h
  | case2 d ahead rest hrest ih => exact hopen hrest c (ih h)
  | case3 d ahead _ rest hrest ih => exact hclose hrest c (ih h)
  | case4 d ahead _ _ ih =>
    rcases List.mem_cons.1 h with rfl | h
    · simp
    · exact List.mem_cons_of_mem d (ih h)

/-- A comment line says only what stands on the line. -/
theorem mem_of_mem_commentLine? {line : Text} {cl : CommentLine} (h : commentLine? line = some cl)
    (hc : c ∈ cl.text) : c ∈ line := by
  unfold commentLine? at h
  split at h
  · cases h
    simp only at hc
    split at hc
    · exact mem_of_mem_stripMarkers (mem_of_mem_trim hc)
    · cases hc
  · split at h
    · cases h
      simp only at hc
      split at hc
      · cases hc
      · exact (List.dropWhile_sublist _).subset (mem_of_mem_dropEndWhile hc)
    · split at h
      · cases h
        exact (List.dropWhile_sublist _).subset (mem_of_mem_trim hc)
      · cases h

/-- The texts that wait after a comment line waited before or are what the line says. -/
theorem CommentLine.mem_of_mem_pending {cl : CommentLine} {pending : List Text}
    (h : t ∈ cl.pending pending) : t ∈ pending ∨ t = cl.text := by
  unfold CommentLine.pending at h
  simp only at h
  split at h <;> split at h <;> simp_all

/-- A value line has a name of word characters, and its comment stands on the line. -/
theorem valueLine?_eq_some {line : Text} {v : ValueLine} (h : valueLine? line = some v) :
    (∀ c ∈ v.name, isWord c = true) ∧ ∀ t, v.comment = some t → ∀ c ∈ t, c ∈ line := by
  simp only [valueLine?, Option.bind_eq_bind, Option.bind_eq_some_iff, Prod.exists,
    Option.some.injEq] at h
  obtain ⟨name, t₁, h₁, t₂, h₂, digits, t₃, h₃, comment, h₄, rfl⟩ := h
  have hoption : ∀ {t rest : Text}, dropOption? t = some rest → ∀ c ∈ rest, c ∈ t := by
    intro t rest h c hc
    simp only [dropOption?, Option.bind_eq_bind, Option.bind_eq_some_iff] at h
    obtain ⟨u₁, hu₁, u₂, hu₂, hu₃⟩ := h
    exact mem_of_dropHead? hu₁ (mem_of_mem_trimStart
      (mem_of_dropHead? hu₂ (mem_of_mem_trimStart (mem_of_dropHead? hu₃ hc))))
  obtain ⟨rfl, -, hname, -⟩ := run?_eq_some_iff.1 h₁
  obtain ⟨hdigits, -⟩ := run?_eq_some_iff.1 h₃
  refine ⟨hname, fun t ht c hc => ?_⟩
  simp only at ht
  rw [ht, inlineComment?] at h₄
  split at h₄
  · cases h₄
  · obtain ⟨rest, hrest, heq⟩ := Option.map_eq_some_iff.1 h₄
    cases heq
    have hc := mem_of_mem_trimStart (mem_of_dropHead? hrest (mem_of_mem_trimStart hc))
    have hc := mem_of_mem_trimStart (mem_of_mem_getD (fun r hr => mem_of_dropHead? hr) hc)
    have hc := mem_of_mem_trimStart (mem_of_mem_getD (fun r hr => hoption hr c) hc)
    refine List.mem_append_right _ (mem_of_mem_trimStart (mem_of_dropHead? h₂
      (mem_of_mem_trimStart ?_)))
    rw [hdigits]
    exact List.mem_append_right digits hc

/-- The comment of a value is put together from the texts that wait and the comment behind it. -/
theorem forall_mem_joinComment {pending : List Text} {inline : Option Text} (hblank : p ' ')
    (hpending : ∀ t ∈ pending, ∀ c ∈ t, p c) (hinline : ∀ t, inline = some t → ∀ c ∈ t, p c) :
    ∀ c ∈ joinComment pending inline, p c := by
  have habove : ∀ c ∈ joinWith [' '] pending, p c :=
    forall_mem_joinWith (by simpa using hblank) hpending
  have hbehind : ∀ t, inline.map trim = some t → ∀ c ∈ t, p c := by
    intro t ht c hc
    obtain ⟨u, hu, rfl⟩ := Option.map_eq_some_iff.1 ht
    exact hinline u hu c (mem_of_mem_trim hc)
  intro c hc
  unfold joinComment at hc
  split at hc
  · exact habove c (mem_of_mem_trim hc)
  · exact habove c (mem_of_mem_trim hc)
  · next behind _ heq =>
    have hc := mem_of_mem_trim hc
    simp only [List.mem_append] at hc
    rcases hc with (hc | hc) | hc
    · exact habove c hc
    · split at hc
      · cases hc
      · rw [List.mem_singleton.1 hc]; exact hblank
    · exact hbehind _ heq c hc

/-- The comment of a value is trimmed. -/
theorem trimmed_joinComment (pending : List Text) (inline : Option Text) :
    Trimmed (joinComment pending inline) := by
  unfold joinComment
  split <;> exact trimmed_trim _

end EnumBlock

/-! ## Codes -/

/-- What holds of every code that is read from a proto file. -/
structure StatusCode.WellRead (c : StatusCode) : Prop where
  /-- The name is made of word characters. -/
  isWord : ∀ x ∈ c.name, isWord x = true
  /-- The number is one that a status code can have. -/
  number : ∃ n ≤ maxCode, c.number = (n : Int)
  /-- The comment is trimmed. -/
  trimmed : Trimmed c.comment
  /-- The comment stands on one line. -/
  newline : '\n' ∉ c.comment
  /-- The comment has no closing brace. -/
  brace : '\x7d' ∉ c.comment

/-- A number that is read is one that a status code can have. -/
theorem Text.le_maxCode_of_readCode? {digits : Text} {k : Int} (h : readCode? digits = some k) :
    ∃ n ≤ maxCode, k = (n : Int) := by
  simp only [readCode?, Option.bind_eq_bind, Option.bind_eq_some_iff] at h
  obtain ⟨n, -, hn⟩ := h
  split at hn
  · next hle => cases hn; exact ⟨n, hle, rfl⟩
  · cases hn

namespace EnumBlock

/-- A value on a line without braces and line feeds is well read, if the texts that wait have none
either. -/
theorem wellRead_of_value? {pending : List Text} {line : Text} {code : StatusCode}
    (hpending : ∀ t ∈ pending, ∀ c ∈ t, c ≠ '\n' ∧ c ≠ '\x7d')
    (hline : ∀ c ∈ line, c ≠ '\n' ∧ c ≠ '\x7d') (h : value? pending line = some code) :
    code.WellRead := by
  simp only [value?, Option.bind_eq_bind, Option.bind_eq_some_iff, Option.some.injEq] at h
  obtain ⟨v, hv, number, hnumber, rfl⟩ := h
  obtain ⟨hname, hinline⟩ := valueLine?_eq_some hv
  have hcomment := forall_mem_joinComment (by decide) hpending fun t ht c hc =>
    hline c (hinline t ht c hc)
  exact {
    isWord := hname
    number := le_maxCode_of_readCode? hnumber
    trimmed := trimmed_joinComment pending v.comment
    newline := fun hc => (hcomment _ hc).1 rfl
    brace := fun hc => (hcomment _ hc).2 rfl }

/-- The values of lines without braces and line feeds are well read. -/
theorem wellRead_of_mem_values {pending ls : List Text} {code : StatusCode}
    (hpending : ∀ t ∈ pending, ∀ c ∈ t, c ≠ '\n' ∧ c ≠ '\x7d')
    (hls : ∀ l ∈ ls, ∀ c ∈ l, c ≠ '\n' ∧ c ≠ '\x7d') (h : code ∈ values pending ls) :
    code.WellRead := by
  induction ls generalizing pending with
  | nil => cases h
  | cons raw rest ih =>
    have hline : ∀ c ∈ raw.trim, c ≠ '\n' ∧ c ≠ '\x7d' := fun c hc =>
      hls raw (by simp) c (mem_of_mem_trim hc)
    have hrest : ∀ l ∈ rest, ∀ c ∈ l, c ≠ '\n' ∧ c ≠ '\x7d' := fun l hl => hls l (by simp [hl])
    simp only [values] at h
    split at h
    · exact ih (by simp) hrest h
    · split at h
      · next cl hcl =>
        refine ih (fun t ht => ?_) hrest h
        rcases CommentLine.mem_of_mem_pending ht with ht | rfl
        · exact hpending t ht
        · exact fun c hc => hline c (mem_of_mem_commentLine? hcl hc)
      · split at h
        · next value hvalue =>
          rcases List.mem_cons.1 h with rfl | h
          · exact wellRead_of_value? hpending hline hvalue
          · exact ih (by simp) hrest h
        · exact ih hpending hrest h

end EnumBlock

/-- Every code of a proto file is well read. -/
theorem StatusCode.wellRead_of_ofProto? {name proto : Text} {codes : List StatusCode}
    (h : ofProto? name proto = some codes) : ∀ c ∈ codes, c.WellRead := by
  intro c hc
  obtain ⟨body, hbody, rfl⟩ := Option.map_eq_some_iff.1 h
  refine EnumBlock.wellRead_of_mem_values (by simp) (fun l hl x hx => ⟨?_, ?_⟩) hc
  · rintro rfl
    exact newline_not_mem_of_mem_lines hl hx
  · rintro rfl
    exact EnumBlock.brace_not_mem_of_body? hbody (mem_pieces_iff.1 ⟨l, hl, hx⟩).1

end ProtoUpkeep
