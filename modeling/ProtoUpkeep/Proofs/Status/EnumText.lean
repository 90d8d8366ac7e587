import ProtoUpkeep.Proofs.Status.CommentLines
import ProtoUpkeep.Proofs.Status.EnumHeader
import ProtoUpkeep.Proofs.Text.LetterCase

/-!
# An enum block that is written is read back

`enumText` writes the enum block of a list of values, each with its comment in one of three styles,
and `StatusCode.ofProto?` reads the values back as they were (`StatusCode.ofProto?_enumText`). The
reader goes line by line with the comment texts that wait: the comment lines of a value leave its
comment waiting (`EnumValue.Canonical.values_commentLines`), and its own line takes what waits
(`EnumValue.Canonical.value?_valueLine`), so that nothing waits where the next value begins. The word
`deprecated` may stand anywhere on the line of a value, in its name too, so that line decides whether
the value is deprecated, and not the option alone.
-/

namespace ProtoUpkeep

open Text

variable {indent name : Text}

/-! ## Written values -/

/-- How a comment is written above its value. -/
inductive CommentStyle
  /-- A comment of one line as a block comment on that line. -/
  | oneLine
  /-- A block comment with its marks on lines of their own. -/
  | block
  /-- Line comments. -/
  | slashes
deriving DecidableEq, Repr

/-- A value of an enum as it is written. -/
structure EnumValue where
  /-- The name. -/
  name : Text
  /-- The number. -/
  number : Nat
  /-- The style of the comment above. -/
  style : CommentStyle
  /-- The lines of the comment above. -/
  comment : List Text
  /-- The comment behind the value. -/
  inline : Option Text
  /-- Whether the value has the deprecation option. -/
  annotated : Bool
  /-- Whether a blank line follows. -/
  spaced : Bool
deriving DecidableEq, Repr

namespace EnumValue

open EnumBlock

variable {v : EnumValue}

/-- A block comment with its marks on lines of their own. -/
def blockLines (ts : List Text) : List Text :=
  "/**" :: ((ts.map fun t => (" * " : Text) ++ t) ++ [(" */" : Text)])

/-- The comment lines above the value. A comment of several lines does not fit on one. -/
def commentLines (v : EnumValue) : List Text :=
  match v.style, v.comment with
  | _, [] => []
  | .oneLine, [t] => ["/** " ++ (t ++ " */")]
  | .slashes, ts => ts.map fun t => ("// " : Text) ++ t
  | _, ts => blockLines ts

/-- The option of a deprecated value. -/
def annotation (v : EnumValue) : Text := if v.annotated then " [deprecated = true]" else []

/-- The comment behind the value with its mark. -/
def inlineText (v : EnumValue) : Text :=
  match v.inline with
  | none => []
  | some t => " // " ++ t

/-- The line of the value itself. -/
def valueLine (v : EnumValue) : Text :=
  v.name ++ (" = " ++ (ofNat v.number ++ (v.annotation ++ (";" ++ v.inlineText))))

/-- All lines of the value. -/
def lines (indent : Text) (v : EnumValue) : List Text :=
  (v.commentLines ++ [v.valueLine]).map (indent ++ ·) ++ if v.spaced then [[]] else []

/-- The code that the value declares. The line of the value decides whether it is deprecated. -/
def code (v : EnumValue) : StatusCode where
  name := v.name
  number := v.number
  comment := joinWith [' '] (v.comment ++ v.inline.toList)
  deprecated := decide (HoldsInSomeCase "deprecated" v.valueLine)

/-- A value that can be read back. -/
@[mk_iff]
structure Canonical (v : EnumValue) : Prop where
  /-- The name is not empty. -/
  name_ne_nil : v.name ≠ []
  /-- The name is a word. -/
  word : ∀ c ∈ v.name, isWord c = true
  /-- The number is one of a status code. -/
  number : v.number ≤ maxCode
  /-- The comment lines can be read back. -/
  comment : ∀ t ∈ v.comment, IsCommentText t
  /-- The comment behind the value says something, on one line of the block. -/
  inline : ∀ t ∈ v.inline, Saying t ∧ Contained t

instance : DecidablePred Canonical := fun v =>
  decidable_of_iff (v.name ≠ [] ∧ v.name.all isWord = true ∧ v.number ≤ maxCode ∧
    (∀ t ∈ v.comment, IsCommentText t) ∧ ∀ t ∈ v.inline, Saying t ∧ Contained t)
    (by rw [canonical_iff, List.all_eq_true])

/-- A block comment leaves its lines waiting. -/
theorem values_blockLines {ts : List Text} (hts : ∀ t ∈ ts, IsCommentText t)
    (hindent : ∀ c ∈ indent, isBlank c = true) (ls : List Text) :
    values [] ((blockLines ts).map (indent ++ ·) ++ ls) = values ts ls := by
  -- The blank in front of a star belongs to the indentation.
  have hstar : ∀ c ∈ indent ++ [' '], isBlank c = true := by
    simpa [or_imp, forall_and, isBlank] using hindent
  have hshape : (blockLines ts).map (indent ++ ·) ++ ls =
      (indent ++ "/**") :: ((ts.map fun t => (indent ++ [' ']) ++ ("* ".toList ++ t)) ++
        ((indent ++ [' ']) ++ "*/") :: ls) := by
    simp [blockLines]
  rw [hshape, values_says (says_open hindent),
    values_map_says fun t ht => ⟨(hts t ht).saying.1, says_star hstar (hts t ht)⟩,
    values_says (says_close hstar)]
  simp [CommentLine.pending]

/-- The comment lines leave the comment of the value waiting. -/
theorem Canonical.values_commentLines (h : v.Canonical) (hindent : ∀ c ∈ indent, isBlank c = true)
    (ls : List Text) :
    values [] (v.commentLines.map (indent ++ ·) ++ ls) = values v.comment ls := by
  unfold commentLines
  split
  · next heq => rw [heq, List.map_nil, List.nil_append]
  · next t _ heq =>
    have ht := h.comment t (by simp [heq])
    rw [heq, List.map_singleton, List.singleton_append, values_says (says_oneLine hindent ht)]
    simp [CommentLine.pending, ht.saying.1]
  · have hsays : ∀ t ∈ v.comment, t ≠ [] ∧ Says (indent ++ ("// ".toList ++ t)) ⟨false, t⟩ :=
      fun t ht => ⟨(h.comment t ht).saying.1, says_slashes hindent (h.comment t ht)⟩
    simpa [Function.comp_def] using values_map_says hsays [] ls
  · exact values_blockLines h.comment hindent ls

/-- The line of the value starts with a word character and ends with a semicolon or the comment. -/
theorem Canonical.saying_valueLine (h : v.Canonical) : Saying v.valueLine := by
  obtain ⟨d, r, hd⟩ := List.exists_cons_of_ne_nil h.name_ne_nil
  have hblank : isBlank d = false := isBlank_of_isWord (h.word d (by simp [hd]))
  have hlast : (";".toList ++ v.inlineText).getLast?.any isBlank = false := by
    unfold inlineText
    split
    · rfl
    · next t ht =>
      rw [← List.append_assoc]
      exact (h.inline t ht).1.getLast?_append _
  refine ⟨by simp [valueLine, hd], by simp [valueLine, hd, hblank], ?_⟩
  rw [valueLine]
  simp only [← List.append_assoc]
  rw [List.append_assoc, List.getLast?_append_of_ne_nil _ (by simp)]
  exact hlast

/-- The line of the value is no comment line. -/
theorem Canonical.commentLine?_valueLine (h : v.Canonical) : commentLine? v.valueLine = none := by
  obtain ⟨d, r, hd⟩ := List.exists_cons_of_ne_nil h.name_ne_nil
  have hword : isWord d = true := h.word d (by simp [hd])
  have hslash : '/' ≠ d := by
    rintro rfl
    exact absurd hword (by decide)
  have hstar : '*' ≠ d := by
    rintro rfl
    exact absurd hword (by decide)
  simp [commentLine?, startsWith, List.isPrefixOf, valueLine, hd, hslash, hstar]

/-- What follows the number is an optional option, a semicolon and an optional comment. -/
theorem Canonical.inlineComment?_eq (h : v.Canonical) :
    inlineComment? (trimStart v.inlineText) = some v.inline := by
  unfold inlineText
  cases hv : v.inline with
  | none => rfl
  | some t =>
    have ht := (h.inline t hv).1
    have htrim : trimStart (" // ".toList ++ t) = "//".toList ++ ([' '] ++ t) := rfl
    have hblank : trimStart ([' '] ++ t) = t :=
      trimStart_append (by simp [isBlank]) ht.2.1
    simp only [htrim, inlineComment?, List.isEmpty_iff, dropHead?_append, Option.map_some, hblank]
    exact if_neg (by simp)

/-- The line of the value is read as its name, its digits and the comment behind it. -/
theorem Canonical.valueLine?_valueLine (h : v.Canonical) :
    valueLine? v.valueLine = some ⟨v.name, ofNat v.number, v.inline⟩ := by
  have hname : run? isWord v.valueLine = some (v.name,
      " = " ++ (ofNat v.number ++ (v.annotation ++ (";" ++ v.inlineText)))) :=
    run?_append h.name_ne_nil h.word (by rfl)
  have hdigits : run? isDigit (ofNat v.number ++ (v.annotation ++ (";" ++ v.inlineText))) =
      some (ofNat v.number, v.annotation ++ (";" ++ v.inlineText)) := by
    refine run?_append (ofNat_ne_nil _) (fun c hc => isDigit_of_mem_ofNat hc) ?_
    unfold annotation
    split <;> rfl
  have hequals : dropHead? "=" (trimStart
      (" = ".toList ++ (ofNat v.number ++ (v.annotation ++ (";" ++ v.inlineText))))) =
      some (" ".toList ++ (ofNat v.number ++ (v.annotation ++ (";" ++ v.inlineText)))) := rfl
  have hblank : trimStart (" ".toList ++ (ofNat v.number ++ (v.annotation ++ (";" ++ v.inlineText)))) =
      ofNat v.number ++ (v.annotation ++ (";" ++ v.inlineText)) := by
    refine trimStart_append (by simp [isBlank]) ?_
    obtain ⟨d, r, hd⟩ := List.exists_cons_of_ne_nil (ofNat_ne_nil v.number)
    have hdigit : isDigit d = true := isDigit_of_mem_ofNat (n := v.number) (by simp [hd])
    rw [hd, List.cons_append, List.head?_cons, Option.any_some, isBlank_of_isDigit hdigit]
  have hoption : trimStart ((dropOption? (trimStart (v.annotation ++ (";" ++ v.inlineText)))).getD
      (trimStart (v.annotation ++ (";" ++ v.inlineText)))) = ";" ++ v.inlineText := by
    unfold annotation
    split <;> rfl
  have hsemicolon : (dropHead? ";" (";".toList ++ v.inlineText)).getD (";".toList ++ v.inlineText) =
      v.inlineText := by
    rw [dropHead?_append, Option.getD_some]
  simp only [valueLine?, hname, hequals, hblank, hdigits, hoption, hsemicolon, h.inlineComment?_eq,
    Option.bind_eq_bind, Option.bind_some]

/-- The line of the value is read as the code, if the comment of the value waits. -/
theorem Canonical.value?_valueLine (h : v.Canonical) :
    value? v.comment v.valueLine = some v.code := by
  have hdeprecated : v.valueLine.lower.contains "deprecated" =
      decide (HoldsInSomeCase "deprecated" v.valueLine) := by
    rw [Bool.eq_iff_iff, decide_eq_true_iff]
    exact contains_lower_iff (by simp [IsAsciiOnly]) (by decide)
  have hcomment : joinComment v.comment v.inline =
      joinWith [' '] (v.comment ++ v.inline.toList) :=
    joinComment_eq (fun t ht => (h.comment t ht).saying) fun t ht => (h.inline t ht).1
  simp only [value?, h.valueLine?_valueLine, readCode?_ofNat h.number, hcomment, hdeprecated,
    Option.bind_eq_bind, Option.bind_some]
  rfl

/-- The lines of a value are read as its code. -/
theorem Canonical.values_lines (h : v.Canonical) (hindent : ∀ c ∈ indent, isBlank c = true)
    (ls : List Text) : values [] (v.lines indent ++ ls) = v.code :: values [] ls := by
  have htrim : (indent ++ v.valueLine).trim = v.valueLine :=
    trim_blanks_append hindent h.saying_valueLine
  have hempty : v.valueLine.isEmpty = false := by
    simpa using h.saying_valueLine.1
  have hspaced : values [] ((if v.spaced then [[]] else []) ++ ls) = values [] ls := by
    split
    · simp [values, trim, trimStart, trimEnd, dropEndWhile]
    · rfl
  rw [lines, List.map_append, List.append_assoc, List.append_assoc, h.values_commentLines hindent,
    List.map_singleton, List.singleton_append]
  simp only [values, htrim, hempty, h.commentLine?_valueLine, h.value?_valueLine, Bool.false_eq_true,
    if_false, hspaced]

/-- The comment lines stay lines of the block. -/
theorem Canonical.contained_commentLines (h : v.Canonical) :
    ∀ l ∈ v.commentLines, Contained l := by
  have hone : ∀ {a b t : Text}, Contained a → Contained b → t ∈ v.comment →
      Contained (a ++ (t ++ b)) := fun ha hb ht =>
    contained_append.2 ⟨ha, contained_append.2 ⟨(h.comment _ ht).contained, hb⟩⟩
  have hmap : ∀ {a : Text}, Contained a →
      ∀ l ∈ v.comment.map (a ++ ·), Contained l := by
    intro a ha l hl
    obtain ⟨t, ht, rfl⟩ := List.mem_map.1 hl
    simpa using hone ha (b := []) (by decide) ht
  intro l hl
  unfold commentLines at hl
  split at hl
  · cases hl
  · next heq =>
    rw [List.mem_singleton.1 hl]
    exact hone (by decide) (by decide) (by simp [heq])
  · exact hmap (by decide) l hl
  · rw [blockLines, List.mem_cons, List.mem_append, List.mem_singleton] at hl
    rcases hl with rfl | hl | rfl
    · decide
    · exact hmap (by decide) l hl
    · decide

/-- The line of the value stays a line of the block. -/
theorem Canonical.contained_valueLine (h : v.Canonical) : Contained v.valueLine := by
  have hannotation : Contained v.annotation := by
    unfold annotation
    split <;> decide
  have hinline : Contained v.inlineText := by
    unfold inlineText
    split
    · decide
    · next t ht => exact contained_append.2 ⟨by decide, (h.inline t ht).2⟩
  have hdigits : Contained (ofNat v.number) :=
    contained_of_isWord fun c hc => isWord_of_isDigit (isDigit_of_mem_ofNat hc)
  simp only [valueLine, contained_append]
  exact ⟨contained_of_isWord h.word, by decide, hdigits, hannotation, by decide, hinline⟩

/-- The lines of a value stay lines of the block. -/
theorem Canonical.contained_lines (h : v.Canonical) (hindent : Contained indent) :
    ∀ l ∈ v.lines indent, Contained l := by
  intro l hl
  rcases List.mem_append.1 hl with hl | hl
  · obtain ⟨k, hk, rfl⟩ := List.mem_map.1 hl
    refine contained_append.2 ⟨hindent, ?_⟩
    rcases List.mem_append.1 hk with hk | hk
    · exact h.contained_commentLines k hk
    · rw [List.mem_singleton.1 hk]
      exact h.contained_valueLine
  · split at hl
    · rw [List.mem_singleton.1 hl]
      decide
    · cases hl

end EnumValue

/-! ## The block -/

/-- An enum block as it is written. -/
def enumText (indent name : Text) (values : List EnumValue) : Text :=
  ofLines (("enum " ++ (name ++ " \x7b")) ::
    (values.flatMap (EnumValue.lines indent) ++ [("\x7d" : Text)]))

open EnumBlock in
/-- The lines of values are read as their codes. -/
theorem EnumBlock.values_flatMap_lines {vs : List EnumValue} (h : ∀ v ∈ vs, v.Canonical)
    (hindent : ∀ c ∈ indent, isBlank c = true) (ls : List Text) :
    values [] (vs.flatMap (EnumValue.lines indent) ++ ls) = vs.map EnumValue.code ++ values [] ls := by
  induction vs with
  | nil => rfl
  | cons v vs ih =>
    rw [List.flatMap_cons, List.append_assoc, (h v (by simp)).values_lines hindent,
      ih fun w hw => h w (by simp [hw])]
    rfl

end ProtoUpkeep
