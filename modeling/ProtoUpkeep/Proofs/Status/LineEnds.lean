import ProtoUpkeep.Proofs.Status.Coverage
import ProtoUpkeep.Proofs.Status.EnumHeader
import ProtoUpkeep.Proofs.Status.Mappings
import ProtoUpkeep.Proofs.Text.LineEnds

/-!
# Parsers and line ends

The files that are read may end their lines in either way, and what is read is the same. The
mappings of the Swift file and the header of the enum are looked for in the whole text: a line end
counts as blanks there, and a place between a carriage return and its line feed is no better one to
start at (`mappings_crlf`, `body?_crlf`). The declarations and the values of the enum are read line
by line: a carriage return at the end of a line is trimmed (`onLines_returned`,
`values_returned`).
-/

namespace ProtoUpkeep

open Text

variable {name t : Text}

namespace RawValues

/-- A mapping starts at the start of either text. -/
theorem mappingAt?_crlf (t : Text) :
    mappingAt? (crlf t) = (mappingAt? t).map fun x => (x.1, crlf x.2) := by
  have hword : isWord '\r' = false ∧ isWord '\n' = false := by decide
  have hdigit : isDigit '\r' = false ∧ isDigit '\n' = false := by decide
  have hcase : Unbroken "case" := by decide
  have hcolon : Unbroken ":" := by decide
  have hself : Unbroken "self" := by decide
  have hequals : Unbroken "=" := by decide
  have hdot : Unbroken "." := by decide
  unfold mappingAt?
  simp only [Option.bind_eq_bind, dropHead?_crlf hcase, dropHead?_crlf hcolon,
    dropHead?_crlf hself, dropHead?_crlf hequals, dropHead?_crlf hdot, dropBlanks?_crlf,
    trimStart_crlf, run?_crlf hword.1 hword.2, run?_crlf hdigit.1 hdigit.2,
    Option.bind_map, Option.map_bind, Function.comp_def, Option.map_some]

/-- Either text has the same mappings. -/
theorem mappings_crlf (t : Text) : mappings (crlf t) = mappings t := by
  induction h : t.length using Nat.strongRecOn generalizing t with
  | ind n ih =>
    subst h
    cases hm : mappingAt? t with
    | some x =>
      obtain ⟨m, rest⟩ := x
      have hcrlf : mappingAt? (crlf t) = some (m, crlf rest) := by rw [mappingAt?_crlf, hm]; rfl
      rw [mappings_of_some hcrlf, mappings_of_some hm, ih _ (length_of_mappingAt? hm) rest rfl]
    | none =>
      have hcrlf : mappingAt? (crlf t) = none := by rw [mappingAt?_crlf, hm]; rfl
      cases t with
      | nil => rfl
      | cons c t =>
        have hrest := ih t.length (by simp) t rfl
        by_cases hc : c = '\n'
        · subst hc
          -- No mapping starts between the two characters of a line end.
          have hfeed : ∀ u : Text, mappingAt? ('\n' :: u) = none := fun _ => rfl
          rw [crlf_newline] at hcrlf ⊢
          rw [mappings_of_none hm, mappings_of_none hcrlf, mappings_of_none (hfeed _), hrest]
        · rw [crlf_cons hc] at hcrlf ⊢
          rw [mappings_of_none hm, mappings_of_none hcrlf, hrest]

/-- Either text maps the same raw values. -/
theorem ofSwift_crlf (swift : Text) : ofSwift (crlf swift) = ofSwift swift := by
  rw [ofSwift, mappings_crlf, ofSwift]

end RawValues

namespace Declaration

variable {marker l l' : Text} {above above' ls ls' : List Text}

/-- A line is a doc comment line with or without a carriage return. -/
theorem isDocLine_returned (h : Returned l l') : isDocLine l' = isDocLine l := by
  rw [Bool.eq_iff_iff, isDocLine, isDocLine, startsWith, startsWith, List.isPrefixOf_iff_prefix,
    List.isPrefixOf_iff_prefix, ← startsWith_trim_iff (by decide), h.trim_eq,
    startsWith_trim_iff (by decide)]

/-- A case line is one with or without a carriage return. -/
theorem dropEndWhile_returned (h : Returned l l') :
    dropEndWhile (· == '\r') l' = dropEndWhile (· == '\r') l := by
  rcases h with rfl | rfl
  · rfl
  · simp [dropEndWhile]

/-- Doc comment lines above a line are the same ones with or without carriage returns, and say the
same. -/
theorem takeWhile_isDocLine_returned (h : List.Forall₂ Returned above above') :
    (above'.takeWhile isDocLine).map docText = (above.takeWhile isDocLine).map docText := by
  induction h with
  | nil => rfl
  | cons hl _ ih =>
    rw [List.takeWhile_cons, List.takeWhile_cons, isDocLine_returned hl]
    split
    · rw [List.map_cons, List.map_cons, ih, docText, hl.trim_eq, docText]
    · rfl

/-- The declaration on a line is the same with or without carriage returns. -/
theorem onLine?_returned (habove : List.Forall₂ Returned above above') (h : Returned l l')
    (marker : Text) (n : Nat) : onLine? marker above' n l' = onLine? marker above n l := by
  have hdoc := takeWhile_isDocLine_returned habove
  have hlen := congrArg List.length hdoc
  rw [List.length_map, List.length_map] at hlen
  simp only [onLine?, joinDoc, dropEndWhile_returned h, List.map_reverse, hdoc, hlen]

/-- The declarations on lines are the same with or without carriage returns. -/
theorem onLines_returned (habove : List.Forall₂ Returned above above')
    (h : List.Forall₂ Returned ls ls') (marker : Text) (n : Nat) :
    onLines marker above' n ls' = onLines marker above n ls := by
  induction h generalizing above above' n with
  | nil => rfl
  | cons hl _ ih =>
    rw [onLines, onLines, onLine?_returned habove hl, ih (.cons hl habove)]

/-- Either text has the same declarations on the same lines. -/
theorem ofSwift_crlf (marker swift : Text) : ofSwift marker (crlf swift) = ofSwift marker swift :=
  onLines_returned .nil (forall₂_lines_crlf swift) marker 0

end Declaration

namespace EnumBlock

variable {ls ls' : List Text}

/-- The values of lines are the same with or without carriage returns. -/
theorem values_returned (h : List.Forall₂ Returned ls ls') (pending : List Text) :
    values pending ls' = values pending ls := by
  induction h generalizing pending with
  | nil => rfl
  | cons hl _ ih =>
    rw [values, values, hl.trim_eq]
    simp only [ih]

/-- A result behind blanks is found in either text, if a line feed in front adds none. -/
theorem afterBlanks_crlf {p : Text → Option Text} (hp : ∀ t, p (crlf t) = (p t).map crlf)
    (hfeed : ∀ t, p t = none → p ('\n' :: t) = none) (t : Text) :
    afterBlanks p (crlf t) = (afterBlanks p t).map crlf := by
  induction t with
  | nil => rfl
  | cons c t ih =>
    by_cases hc : c = '\n'
    · subst hc
      have hreturn : isBlank '\r' = true := by decide
      have hblank : isBlank '\n' = true := by decide
      rw [crlf_newline, afterBlanks, afterBlanks, afterBlanks, if_pos hreturn, if_pos hblank,
        if_pos hblank, ih]
      cases hbehind : afterBlanks p t with
      | some a => rfl
      | none =>
        cases hhere : p t with
        | some a => simp [hp, hhere]
        | none =>
          have hnone : p (crlf t) = none := by rw [hp, hhere]; rfl
          simp [hnone, hfeed _ hnone]
    · rw [crlf_cons hc, afterBlanks, afterBlanks, ih, hp]
      split
      · cases afterBlanks p t <;> rfl
      · rfl

/-- A block opens in either text. -/
theorem openBlock?_crlf (hname : Unbroken name) (t : Text) :
    openBlock? name (crlf t) = (openBlock? name t).map crlf := by
  have hbrace : Unbroken ['\x7b'] := by decide
  unfold openBlock?
  simp only [Option.bind_eq_bind, dropHead?_crlf hname, dropHead?_crlf hbrace, trimStart_crlf,
    Option.bind_map, Option.map_bind, Function.comp_def]

/-- A block that does not open does not open behind a line feed. -/
theorem openBlock?_newline (hname : Unbroken name) (h : openBlock? name t = none) :
    openBlock? name ('\n' :: t) = none := by
  cases name with
  | nil => exact h
  | cons c name =>
    have hc := (unbroken_cons.1 hname).1.2
    simp [openBlock?, dropHead?, hc]

/-- The block that starts at the start of a text starts there in either text. -/
theorem bodyAt?_crlf (hname : Unbroken name) (t : Text) :
    bodyAt? name (crlf t) = (bodyAt? name t).map crlf := by
  have henum : Unbroken "enum" := by decide
  have hbrace : Unbroken ['\x7d'] := by decide
  unfold bodyAt?
  simp only [Option.bind_eq_bind, dropHead?_crlf henum, cutAt_singleton_crlf hbrace,
    afterBlanks_crlf (openBlock?_crlf hname) fun _ => openBlock?_newline hname,
    Option.bind_map, Option.map_bind, Function.comp_def, Option.map_some]

/-- The first block of a text is the first one in either text. -/
theorem body?_crlf (hname : Unbroken name) (t : Text) :
    body? name (crlf t) = (body? name t).map crlf := by
  induction t with
  | nil => rfl
  | cons c t ih =>
    have hat := bodyAt?_crlf hname (c :: t)
    by_cases hc : c = '\n'
    · subst hc
      -- No block starts at a line end, nor between its two characters.
      have hreturn : ∀ u : Text, bodyAt? name ('\r' :: u) = none := fun _ => rfl
      have hfeed : ∀ u : Text, bodyAt? name ('\n' :: u) = none := fun _ => rfl
      rw [crlf_newline, body?, hreturn, body?, hfeed, body?, hfeed]
      exact ih
    · rw [crlf_cons hc] at hat ⊢
      rw [body?, body?, hat, ih]
      cases bodyAt? name (c :: t) <;> rfl

end EnumBlock

/-- Either text of a proto file has the same codes. -/
theorem StatusCode.ofProto?_crlf (hname : Unbroken name) (proto : Text) :
    ofProto? name (crlf proto) = ofProto? name proto := by
  unfold ofProto?
  rw [EnumBlock.body?_crlf hname, Option.map_map]
  congr 1
  funext body
  exact EnumBlock.values_returned (forall₂_lines_crlf body) []

/-- Line ends do not matter: with a name on one line, a proto text has the same codes, or no such
enum, and a Swift text the same raw values and the same declarations on the same lines if each line
feed becomes a carriage return and a line feed, whichever line ends there are before. So plans for
either texts find the same codes missing and the same doc comments drifted, or fail alike. -/
theorem parsers_crlf (hname : Unbroken name) (proto swift : Text) :
    StatusCode.ofProto? name (crlf proto) = StatusCode.ofProto? name proto ∧
    RawValues.ofSwift (crlf swift) = RawValues.ofSwift swift ∧
    (∀ marker, Declaration.ofSwift marker (crlf swift) = Declaration.ofSwift marker swift) ∧
    ∀ (s : StatusSync) (upd : Bool), s.settings.enumName = name →
      ∀ proto' ∈ [proto, crlf proto], ∀ swift' ∈ [swift, crlf swift],
        (s.plan proto' swift' upd).map (fun p => (p.missing, p.drifts)) =
          (s.plan proto swift upd).map fun p => (p.missing, p.drifts) := by
  have hproto := StatusCode.ofProto?_crlf hname proto
  have hmapped := RawValues.ofSwift_crlf swift
  have hdeclared := fun marker => Declaration.ofSwift_crlf marker swift
  refine ⟨hproto, hmapped, hdeclared, fun s upd hs proto' hproto' swift' hswift' => ?_⟩
  have hcodes : StatusCode.ofProto? name proto' = StatusCode.ofProto? name proto := by
    rcases List.mem_pair.1 hproto' with rfl | rfl
    · rfl
    · exact hproto
  have hvalues : RawValues.ofSwift swift' = RawValues.ofSwift swift := by
    rcases List.mem_pair.1 hswift' with rfl | rfl
    · rfl
    · exact hmapped
  have hlines : ∀ marker, Declaration.ofSwift marker swift' = Declaration.ofSwift marker swift := by
    rcases List.mem_pair.1 hswift' with rfl | rfl
    · exact fun _ => rfl
    · exact hdeclared
  unfold StatusSync.plan
  simp only [hs, hcodes, hvalues, hlines]
  cases StatusCode.ofProto? name proto <;> rfl

/-- A proto text whose first line ends with a carriage return and a line feed, and whose other lines
end with line feeds. -/
def mixedEnds : Text :=
  "enum ResponseCodeEnum\r\n\x7b\n// Done.\nOK = 22;\n\n\r\n// Wait.\nBUSY = 12;\x7d"

/-- Texts with line ends of both kinds. -/
theorem parsers_crlf_mixed_ends : Unbroken "ResponseCodeEnum" ∧ crlf mixedEnds ≠ mixedEnds ∧
    StatusCode.ofProto? "ResponseCodeEnum" (crlf mixedEnds) =
      some [⟨"OK", 22, "Done.", false⟩, ⟨"BUSY", 12, "Wait.", false⟩] ∧
    Declaration.ofSwift "[Deprecated]" (crlf "/// Done.\r\n/// Now.\ncase ok // = 22") =
      [⟨22, "ok", "Done. Now.", false, 0, 2⟩] ∧
    RawValues.ofSwift (crlf "case 22: self =\n.ok") = RawValues.ofSwift "case 22: self =\n.ok" := by
  have hname : Unbroken "ResponseCodeEnum" := by decide
  obtain ⟨hproto, -, -, -⟩ := parsers_crlf hname mixedEnds []
  obtain ⟨-, -, hdeclared, -⟩ :=
    parsers_crlf hname [] "/// Done.\r\n/// Now.\ncase ok // = 22"
  obtain ⟨-, hmapped, -, -⟩ := parsers_crlf hname [] "case 22: self =\n.ok"
  refine ⟨hname, by decide, ?_, ?_, hmapped⟩
  · rw [hproto]
    decide
  · rw [hdeclared]
    decide

end ProtoUpkeep
