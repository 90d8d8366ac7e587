import ProtoUpkeep.Proofs.Status.Codes

/-!
# What comment lines say

The reader of an enum block takes a comment line for what it says without its marks
(`EnumBlock.Says`), and a text can be said in five kinds of lines. For each kind there is a lemma
that a line of it, with blanks in front, says the text, if the text holds no mark of its own
(`EnumBlock.IsCommentText`). What waits is then joined with the comment behind the value
(`EnumBlock.joinComment_eq`).
-/

namespace ProtoUpkeep

open Text

variable {t u b : Text} {ts pending : List Text} {c : Char}

/-! ## Joined comments -/

/-- A trimmed text is left as it is. -/
theorem Text.Trimmed.trim_eq (h : Trimmed t) : trim t = t := by
  have := trim_append (a := []) (by simp) h (b := []) (by simp)
  simpa using this

/-- A text without blanks at its end is left as it is there. -/
theorem Text.Trimmed.trimEnd_eq (h : Trimmed t) : trimEnd t = t := by
  have := dropEndWhile_append (p := isBlank) (b := []) (by simp) h.2
  rwa [List.append_nil] at this

/-- A text that says something: it is trimmed and not empty. -/
def Text.Saying (t : Text) : Prop := t ≠ [] ∧ Trimmed t

instance : DecidablePred Saying := fun t => inferInstanceAs (Decidable (t ≠ [] ∧ Trimmed t))

/-- A text that says something starts with no blank, whatever stands behind it. -/
theorem Text.Saying.head?_append (h : Saying t) (u : Text) :
    (t ++ u).head?.any isBlank = false := by
  obtain ⟨c, t, rfl⟩ := List.exists_cons_of_ne_nil h.1
  exact h.2.1

/-- A text that says something ends with no blank, whatever stands in front of it. -/
theorem Text.Saying.getLast?_append (h : Saying t) (u : Text) :
    (u ++ t).getLast?.any isBlank = false := by
  rw [List.getLast?_append_of_ne_nil _ h.1]
  exact h.2.2

/-- What stands between two ends that say something does not matter. -/
theorem Text.Saying.append (ht : Saying t) (hu : Saying u) (b : Text) : Saying (t ++ (b ++ u)) := by
  refine ⟨by simp [ht.1], ht.head?_append _, ?_⟩
  rw [← List.append_assoc]
  exact hu.getLast?_append _

/-- Texts that say something do so together. -/
theorem Text.saying_joinWith (hne : ts ≠ []) (h : ∀ t ∈ ts, Saying t) :
    Saying (joinWith [' '] ts) := by
  induction ts with
  | nil => exact absurd rfl hne
  | cons t ts ih =>
    have ht := h t (by simp)
    by_cases hts : ts = []
    · subst hts
      simpa [joinWith] using ht
    · rw [joinWith_cons hts]
      exact ht.append (ih hts fun u hu => h u (by simp [hu])) [' ']

namespace EnumBlock

/-- Comments that say something are joined as they are, the one behind the value last. -/
theorem joinComment_eq {inline : Option Text} (hpending : ∀ t ∈ pending, Saying t)
    (hinline : ∀ t ∈ inline, Saying t) :
    joinComment pending inline = joinWith [' '] (pending ++ inline.toList) := by
  have htrim : ∀ {ts : List Text}, (∀ t ∈ ts, Saying t) →
      (joinWith [' '] ts).trim = joinWith [' '] ts := by
    intro ts hts
    by_cases hne : ts = []
    · subst hne
      rfl
    · exact (saying_joinWith hne hts).2.trim_eq
  cases inline with
  | none => simpa [joinComment] using htrim hpending
  | some t =>
    have ht : Saying t := hinline t rfl
    have hall : ∀ u ∈ pending ++ [t], Saying u := by
      simpa [or_imp, forall_and] using ⟨hpending, ht⟩
    obtain ⟨d, r, rfl⟩ := List.exists_cons_of_ne_nil ht.1
    rw [joinComment, Option.map_some, ht.2.trim_eq]
    simp only [List.isEmpty_iff, Option.toList_some]
    by_cases hne : pending = []
    · subst hne
      simpa [joinWith] using ht.2.trim_eq
    · have hjoin : joinWith [' '] (pending ++ [d :: r]) =
          joinWith [' '] pending ++ ([' '] ++ d :: r) := by
        rw [joinWith_append hne (by simp), joinWith_singleton]
      rw [if_neg (saying_joinWith hne hpending).1, List.append_assoc, ← hjoin, htrim hall]

/-! ## Comment lines -/

/-- The reader takes the line for a comment line that says so. -/
def Says (line : Text) (cl : CommentLine) : Prop :=
  line.trim ≠ [] ∧ commentLine? line.trim = some cl

/-- A comment line changes the texts that wait. -/
theorem values_says {line : Text} {cl : CommentLine} (h : Says line cl) (pending ls : List Text) :
    values pending (line :: ls) = values (cl.pending pending) ls := by
  simp [values, h.1, h.2]

/-- Lines that say one text each add these texts. -/
theorem values_map_says {f : Text → Text} (h : ∀ t ∈ ts, t ≠ [] ∧ Says (f t) ⟨false, t⟩)
    (pending ls : List Text) : values pending (ts.map f ++ ls) = values (pending ++ ts) ls := by
  induction ts generalizing pending with
  | nil => simp
  | cons t ts ih =>
    obtain ⟨hne, hsays⟩ := h t (by simp)
    have hpending : CommentLine.pending ⟨false, t⟩ pending = pending ++ [t] := by
      simp [CommentLine.pending, hne]
    rw [List.map_cons, List.cons_append, values_says hsays, hpending,
      ih fun u hu => h u (by simp [hu])]
    simp

/-- The text ends neither its line nor the block. -/
def Contained (t : Text) : Prop := '\n' ∉ t ∧ '\x7d' ∉ t

instance : DecidablePred Contained := fun t =>
  inferInstanceAs (Decidable ('\n' ∉ t ∧ '\x7d' ∉ t))

/-- Two texts end nothing if neither does. -/
theorem contained_append : Contained (t ++ u) ↔ Contained t ∧ Contained u := by
  simp only [Contained, List.mem_append, not_or]
  exact and_and_and_comm

/-- A word ends nothing. -/
theorem contained_of_isWord (h : ∀ c ∈ t, isWord c = true) : Contained t :=
  ⟨fun hmem => absurd (h _ hmem) (by decide), fun hmem => absurd (h _ hmem) (by decide)⟩

/-- The text of a comment line that can be read back in every style. -/
@[mk_iff]
structure IsCommentText (t : Text) : Prop where
  /-- It is trimmed and not empty. -/
  saying : Saying t
  /-- It stays on one line of the block. -/
  contained : Contained t
  /-- It opens no block comment. -/
  opens : ¬ "/*".toList <:+: t
  /-- It closes no block comment. -/
  closes : ¬ "*/".toList <:+: t
  /-- It does not go on with the leader of its line. -/
  leader : t.head? ≠ some '*' ∧ t.head? ≠ some '/'

instance : DecidablePred IsCommentText := fun t => decidable_of_iff _ (isCommentText_iff t).symm

/-- What the text starts with is neither part of a leader nor a blank. -/
theorem IsCommentText.head (h : IsCommentText (c :: t)) : (c ≠ '*' ∧ c ≠ '/') ∧ c ≠ ' ' := by
  refine ⟨by simpa using h.leader, ?_⟩
  rintro rfl
  exact absurd h.saying.2.1 (by simp [isBlank])

/-- An opening marker is stripped. -/
theorem stripMarkers_open {rest : Text} (h : openMarker? t = some rest) :
    stripMarkers t = stripMarkers rest := by
  cases t with
  | nil => cases h
  | cons c t =>
    rw [stripMarkers]
    split
    · next heq =>
      rw [h] at heq
      cases heq
      rfl
    · next heq =>
      rw [h] at heq
      cases heq

/-- Where no marker starts the first character stays. -/
theorem stripMarkers_cons (hopen : openMarker? (c :: t) = none)
    (hclose : closeMarker? (c :: t) = none) : stripMarkers (c :: t) = c :: stripMarkers t := by
  rw [stripMarkers]
  split
  · next heq =>
    rw [hopen] at heq
    cases heq
  · split
    · next heq =>
      rw [hclose] at heq
      cases heq
    · rfl

/-- A closing marker at the end is stripped. -/
theorem stripMarkers_close (hopen : openMarker? t = none) (hclose : closeMarker? t = some []) :
    stripMarkers t = [] := by
  cases t with
  | nil => cases hclose
  | cons c t =>
    rw [stripMarkers]
    split
    · next heq =>
      rw [hopen] at heq
      cases heq
    · split
      · next heq =>
        rw [hclose] at heq
        cases heq
        rw [stripMarkers]
      · next heq =>
        rw [hclose] at heq
        cases heq

/-- A marker of two characters does not start in a text without it that a blank follows. -/
theorem not_prefix_append_close {d e : Char} (he : e ≠ ' ') (hne : t ≠ [])
    (h : ¬ [d, e] <:+: t) : ¬ [d, e] <+: t ++ " */" := by
  intro hp
  cases t with
  | nil => exact hne rfl
  | cons c t =>
    cases t with
    | nil => exact he (List.cons_prefix_cons.1 (List.cons_prefix_cons.1 hp).2).1
    | cons c' t =>
      refine h (List.prefix_of_prefix_length_le hp (List.prefix_append _ _) ?_).isInfix
      simp

/-- Behind a text without markers the closing marker alone is stripped. -/
theorem stripMarkers_append_close (hlast : t.getLast?.any isBlank = false)
    (hopens : ¬ "/*".toList <:+: t) (hcloses : ¬ "*/".toList <:+: t) :
    stripMarkers (t ++ " */") = t := by
  induction t with
  | nil => exact stripMarkers_close rfl rfl
  | cons c t ih =>
    have hopen : openMarker? ((c :: t) ++ " */") = none := by
      have hdrop : dropHead? "/*" ((c :: t) ++ " */") = none :=
        dropHead?_eq_none_iff.2
          (not_prefix_append_close (d := '/') (e := '*') (by decide) (by simp) hopens)
      rw [openMarker?, hdrop]
      rfl
    have hclose : closeMarker? ((c :: t) ++ " */") = none := by
      obtain ⟨b, hb, hsplit, hhead⟩ := exists_trimStart (c :: t)
      have hne : trimStart (c :: t) ≠ [] := by
        intro hnil
        rw [hnil, List.append_nil] at hsplit
        have hmem := List.getLast_mem (l := c :: t) (by simp)
        rw [List.getLast?_eq_getLast_of_ne_nil (by simp), Option.any_some,
          hb _ (hsplit ▸ hmem)] at hlast
        cases hlast
      have hinfix : ¬ "*/".toList <:+: trimStart (c :: t) := fun hin =>
        hcloses (hin.trans ⟨b, [], by rw [List.append_nil, ← hsplit]⟩)
      have hrest : ((trimStart (c :: t)) ++ " */").head?.any isBlank = false := by
        obtain ⟨d, r, hd⟩ := List.exists_cons_of_ne_nil hne
        rw [hd] at hhead ⊢
        exact hhead
      rw [closeMarker?, hsplit, List.append_assoc, trimStart_append hb hrest]
      exact dropHead?_eq_none_iff.2
        (not_prefix_append_close (d := '*') (e := '/') (by decide) hne hinfix)
    have htail : t.getLast?.any isBlank = false := by
      cases t with
      | nil => rfl
      | cons d t => rwa [List.getLast?_cons_cons] at hlast
    rw [List.cons_append] at hopen hclose ⊢
    rw [stripMarkers_cons hopen hclose, ih htail (fun h => hopens (List.infix_cons h))
      fun h => hcloses (List.infix_cons h)]

/-! ## The five kinds of comment lines -/

section CommentLines

variable (hb : ∀ c ∈ b, isBlank c = true)
include hb

/-- A line that is blanks and something that says something, trimmed. -/
theorem trim_blanks_append (ht : Saying t) : (b ++ t).trim = t := by
  have := trim_append hb ht.2 (b := []) (by simp)
  rwa [List.append_nil] at this

/-- A block comment on one line. -/
theorem says_oneLine (ht : IsCommentText t) :
    Says (b ++ ("/** " ++ (t ++ " */"))) ⟨true, t⟩ := by
  have hsaying : Saying ("/** " ++ (t ++ " */")) := by
    refine ⟨by simp, rfl, ?_⟩
    rw [← List.append_assoc, List.getLast?_append_of_ne_nil _ (by decide)]
    rfl
  have hopen : openMarker? ("/** " ++ (t ++ " */")) = some (t ++ " */") := by
    have hblank : ∀ c ∈ [' '], isBlank c = true := by simp [isBlank]
    have htrim := trimStart_append hblank (ht.saying.head?_append " */")
    simpa [openMarker?, dropHead?] using htrim
  have hcontains : Text.contains ("/** ".toList ++ (t ++ " */")) "*/" = true := by
    rw [Text.contains, isSome_cutAt_iff]
    exact ⟨"/** ".toList ++ (t ++ " "), [], by simp⟩
  have htext : (stripMarkers ("/** " ++ (t ++ " */"))).trim = t := by
    rw [stripMarkers_open hopen,
      stripMarkers_append_close ht.saying.2.2 ht.opens ht.closes, ht.saying.2.trim_eq]
  rw [Says, trim_blanks_append hb hsaying]
  refine ⟨hsaying.1, ?_⟩
  have hstart : startsWith ("/** ".toList ++ (t ++ " */")) "/*" = true := rfl
  rw [commentLine?, if_pos hstart]
  simp only [if_pos hcontains, htext]

/-- The first line of a block comment. -/
theorem says_open : Says (b ++ "/**") ⟨true, []⟩ := by
  rw [Says, trim_blanks_append hb (by decide)]
  decide

/-- A line inside a block comment. -/
theorem says_star (ht : IsCommentText t) : Says (b ++ ("* " ++ t)) ⟨false, t⟩ := by
  have hsaying : Saying ("* " ++ t) := ⟨by simp, rfl, ht.saying.getLast?_append _⟩
  rw [Says, trim_blanks_append hb hsaying]
  refine ⟨hsaying.1, ?_⟩
  obtain ⟨d, r, rfl⟩ := List.exists_cons_of_ne_nil ht.saying.1
  obtain ⟨⟨hstar, hslash⟩, hblank⟩ := ht.head
  have hopen : startsWith ("* ".toList ++ d :: r) "/*" = false := rfl
  have hstart : startsWith ("* ".toList ++ d :: r) "*" = true := rfl
  have htext : trimEnd (("* ".toList ++ d :: r).dropWhile fun c => c == '*' || c == ' ') =
      d :: r := by
    have hdrop : ("* ".toList ++ d :: r).dropWhile (fun c => c == '*' || c == ' ') = d :: r := by
      simp [hstar, hblank]
    rw [hdrop, ht.saying.2.trimEnd_eq]
  have hne : (d :: r == ['/']) = false := by simp [hslash]
  rw [commentLine?, hopen, hstart]
  simp only [Bool.false_eq_true, if_false, if_true, htext, hne]

/-- The last line of a block comment. -/
theorem says_close : Says (b ++ "*/") ⟨false, []⟩ := by
  rw [Says, trim_blanks_append hb (by decide)]
  decide

/-- A line comment. -/
theorem says_slashes (ht : IsCommentText t) : Says (b ++ ("// " ++ t)) ⟨false, t⟩ := by
  have hsaying : Saying ("// " ++ t) := ⟨by simp, rfl, ht.saying.getLast?_append _⟩
  rw [Says, trim_blanks_append hb hsaying]
  refine ⟨hsaying.1, ?_⟩
  obtain ⟨d, r, rfl⟩ := List.exists_cons_of_ne_nil ht.saying.1
  obtain ⟨⟨-, hslash⟩, hblank⟩ := ht.head
  have hopen : startsWith ("// ".toList ++ d :: r) "/*" = false := rfl
  have hstar : startsWith ("// ".toList ++ d :: r) "*" = false := rfl
  have hstart : startsWith ("// ".toList ++ d :: r) "//" = true := rfl
  have hdrop : ("// ".toList ++ d :: r).dropWhile (fun c => c == '/' || c == ' ') = d :: r := by
    simp [hslash, hblank]
  rw [commentLine?, hopen, hstar, hstart]
  simp only [Bool.false_eq_true, if_false, if_true, hdrop, ht.saying.2.trim_eq]

end CommentLines

end EnumBlock

end ProtoUpkeep
