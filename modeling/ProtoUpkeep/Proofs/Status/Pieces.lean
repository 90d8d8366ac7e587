import ProtoUpkeep.Proofs.Text.Lines
import ProtoUpkeep.Proofs.Text.Search
import ProtoUpkeep.Proofs.Text.Trim
import ProtoUpkeep.Status.Declaration

/-!
# Declarations and the lines that belong to them

`Declaration.ofSwift` walks down the lines with the lines above at hand, and takes the doc comment
of a declaration from there. Here the lines are cut into pieces instead: single lines, and
declaration lines together with the doc comment lines directly above them (`pieces`). The
declarations are then read from the pieces one by one (`ofSwift_eq`), and what they say does not
depend on where they stand (`said_ofSwift`). A text that is cut at a line that neither declares nor
belongs to a doc comment has the pieces of its two parts (`pieces_append`).
-/

namespace ProtoUpkeep

open Text

variable {marker l l' u v x : Text} {ls ls' above doc : List Text} {c : Char}

/-! ## Declaration lines -/

namespace Declaration

/-- The identifier and the number of a declaration line. -/
def head? (line : Text) : Option (Text × Int) := do
  let c ← caseLine? (line.dropEndWhile (· == '\r'))
  let number ← Text.readCode? c.digits
  some (c.identifier, number)

/-- The line declares a case with a number. -/
def Declares (line : Text) : Prop := (head? line).isSome = true

instance : DecidablePred Declares := fun line =>
  inferInstanceAs (Decidable ((head? line).isSome = true))

/-- The parts of a case line. -/
theorem caseLine?_eq_some {c : CaseLine} (h : caseLine? l = some c) : ∃ b₁ b₂ b₃ b₄ b₅ b₆ : Text,
    (∀ b ∈ [b₁, b₂, b₃, b₄, b₅, b₆], ∀ d ∈ b, isBlank d = true) ∧
    (∀ d ∈ c.identifier, isWord d = true) ∧ (∀ d ∈ c.digits, isDigit d = true) ∧
    l = b₁ ++ ("case".toList ++ (b₂ ++ (c.identifier ++ (b₃ ++ ("//".toList ++ (b₄ ++
      ("=".toList ++ (b₅ ++ (c.digits ++ b₆))))))))) := by
  simp only [caseLine?, Option.bind_eq_bind, Option.bind_eq_some_iff, Prod.exists] at h
  obtain ⟨t₁, h₁, t₂, h₂, identifier, t₃, h₃, t₄, h₄, t₅, h₅, digits, t₆, h₆, h₇⟩ := h
  split at h₇
  · next hempty =>
    cases h₇
    obtain ⟨b₁, hb₁, e₁, -⟩ := exists_trimStart l
    obtain ⟨b₂, e₂, -, hb₂, -⟩ := dropBlanks?_eq_some_iff.1 h₂
    obtain ⟨e₃, -, hword, -⟩ := run?_eq_some_iff.1 h₃
    obtain ⟨b₃, hb₃, e₄, -⟩ := exists_trimStart t₃
    obtain ⟨b₄, hb₄, e₅, -⟩ := exists_trimStart t₄
    obtain ⟨b₅, hb₅, e₆, -⟩ := exists_trimStart t₅
    obtain ⟨e₇, -, hdigits, -⟩ := run?_eq_some_iff.1 h₆
    obtain ⟨b₆, hb₆, e₈, -⟩ := exists_trimStart t₆
    rw [List.isEmpty_iff.1 hempty, List.append_nil] at e₈
    rw [dropHead?_eq_some_iff.1 h₁, e₂, e₃] at e₁
    rw [dropHead?_eq_some_iff.1 h₄] at e₄
    rw [dropHead?_eq_some_iff.1 h₅] at e₅
    rw [e₇, e₈] at e₆
    refine ⟨b₁, b₂, b₃, b₄, b₅, b₆, ?_, hword, hdigits, ?_⟩
    · simp only [List.mem_cons, List.not_mem_nil, or_false, forall_eq_or_imp, forall_eq]
      exact ⟨hb₁, hb₂, hb₃, hb₄, hb₅, hb₆⟩
    · rw [e₁, e₄, e₅, e₆]
  · cases h₇

/-- The characters of declaration lines. -/
def InDeclaration (c : Char) : Prop := isBlank c = true ∨ isWord c = true ∨ c = '/' ∨ c = '='

instance : DecidablePred InDeclaration := fun c =>
  inferInstanceAs (Decidable (isBlank c = true ∨ isWord c = true ∨ c = '/' ∨ c = '='))

/-- A declaration line starts with `case` behind blanks and has none but the characters of
declaration lines. -/
theorem Declares.shape (h : Declares l) : ∃ b r : Text, (∀ d ∈ b, isBlank d = true) ∧
    l = b ++ ("case".toList ++ r) ∧ ∀ d ∈ l, InDeclaration d := by
  obtain ⟨⟨identifier, number⟩, hhead⟩ := Option.isSome_iff_exists.1 h
  simp only [head?, Option.bind_eq_bind, Option.bind_eq_some_iff] at hhead
  obtain ⟨c, hc, -⟩ := hhead
  obtain ⟨crs, hcrs, hl, -⟩ := exists_dropEndWhile (· == '\r') l
  obtain ⟨b₁, b₂, b₃, b₄, b₅, b₆, hb, hword, hdigit, heq⟩ := caseLine?_eq_some hc
  have hcr : ∀ d ∈ crs, isBlank d = true := fun d hd => by
    rw [beq_iff_eq.1 (hcrs d hd)]
    decide
  simp only [List.mem_cons, List.not_mem_nil, or_false, forall_eq_or_imp, forall_eq] at hb
  obtain ⟨h₁, h₂, h₃, h₄, h₅, h₆⟩ := hb
  rw [heq] at hl
  refine ⟨b₁, _, h₁, by rw [hl, List.append_assoc, List.append_assoc], fun d hd => ?_⟩
  have hblank : ∀ {b : Text}, (∀ d ∈ b, isBlank d = true) → d ∈ b → InDeclaration d :=
    fun hb hd => .inl (hb d hd)
  have hchars : ∀ {t : Text}, (t.all fun d => decide (InDeclaration d)) = true → d ∈ t →
      InDeclaration d :=
    fun ht hd => of_decide_eq_true (List.all_eq_true.1 ht d hd)
  rw [hl] at hd
  simp only [List.mem_append] at hd
  rcases hd with (hd | hd | hd | hd | hd | hd | hd | hd | hd | hd | hd) | hd
  · exact hblank h₁ hd
  · exact hchars (by decide) hd
  · exact hblank h₂ hd
  · exact .inr (.inl (hword d hd))
  · exact hblank h₃ hd
  · exact hchars (by decide) hd
  · exact hblank h₄ hd
  · exact hchars (by decide) hd
  · exact hblank h₅ hd
  · exact .inr (.inl (isWord_of_isDigit (hdigit d hd)))
  · exact hblank h₆ hd
  · exact hblank hcr hd

/-- A declaration line is no doc comment line. -/
theorem Declares.not_isDocLine (h : Declares l) : isDocLine l = false := by
  obtain ⟨b, r, hb, rfl, -⟩ := h.shape
  rw [isDocLine, trimStart_append hb rfl]
  rfl

/-- A doc comment line declares nothing. -/
theorem not_declares_of_isDocLine (h : isDocLine l = true) : ¬ Declares l := fun hl => by
  rw [hl.not_isDocLine] at h
  cases h

/-- A line with another character declares nothing. -/
theorem not_declares_of_mem (hc : ¬ InDeclaration c) (h : c ∈ l) : ¬ Declares l := fun hl => by
  obtain ⟨-, -, -, -, hall⟩ := hl.shape
  exact hc (hall c h)

/-- The declaration on a line in terms of its head. -/
theorem onLine?_eq (marker : Text) (above : List Text) (n : Nat) (l : Text) :
    onLine? marker above n l = (head? l).map fun h =>
      let doc := above.takeWhile isDocLine
      let (comment, deprecated) := splitMarker marker (joinDoc doc.reverse)
      { number := h.2, comment, deprecated, identifier := h.1, firstLine := n - doc.length,
        caseLine := n } := by
  unfold onLine? head?
  cases hc : caseLine? (l.dropEndWhile (· == '\r')) with
  | none => rfl
  | some c =>
    cases hn : readCode? c.digits with
    | none => simp [hn]
    | some n => simp [hn]

end Declaration

/-! ## Pieces -/

/-- A line, or a declaration line with the doc comment lines directly above it. -/
inductive Piece where
  /-- A line that belongs to no declaration. -/
  | line (l : Text)
  /-- A declaration line below its doc comment. -/
  | declaration (doc : List Text) (l : Text)

namespace Piece

open Declaration

variable {p : Piece} {ps qs : List Piece} {n : Nat}

/-- The lines of a piece. -/
def lines : Piece → List Text
  | line l => [l]
  | declaration doc l => doc ++ [l]

/-- The pieces with one more line above, which declares nothing. -/
def push (l : Text) : List Piece → List Piece
  | declaration doc l' :: ps =>
    if isDocLine l then declaration (l :: doc) l' :: ps else line l :: declaration doc l' :: ps
  | ps => line l :: ps

/-- The pieces of lines. -/
def ofLines : List Text → List Piece
  | [] => []
  | l :: ls => if Declares l then declaration [] l :: ofLines ls else push l (ofLines ls)

/-- What a declaration says. -/
structure Saying where
  /-- The number. -/
  number : Int
  /-- The comment, without the deprecation marker. -/
  comment : Text
  /-- Whether the doc comment starts with the deprecation marker. -/
  deprecated : Bool

/-- What a piece says. -/
def says? (marker : Text) : Piece → Option Saying
  | line _ => none
  | declaration doc l => (head? l).map fun h =>
    let (comment, deprecated) := splitMarker marker (joinDoc doc)
    { number := h.2, comment, deprecated }

/-- The declaration of a piece whose first line is the line `n`. -/
def declaration? (marker : Text) (n : Nat) : Piece → Option Declaration
  | line _ => none
  | declaration doc l => (head? l).map fun h =>
    let (comment, deprecated) := splitMarker marker (joinDoc doc)
    { number := h.2, comment, deprecated, identifier := h.1, firstLine := n,
      caseLine := n + doc.length }

/-- The declarations of pieces whose first line is the line `n`. -/
def declarations (marker : Text) : (n : Nat) → List Piece → List Declaration
  | _, [] => []
  | n, p :: ps => (p.declaration? marker n).toList ++ declarations marker (n + p.lines.length) ps

/-- Pushing a line adds it to the lines. -/
theorem flatMap_lines_push (l : Text) (ps : List Piece) :
    (push l ps).flatMap lines = l :: ps.flatMap lines := by
  unfold push
  split
  · split <;> simp [lines]
  · simp [lines]

/-- The pieces make up the lines. -/
theorem flatMap_lines_ofLines (ls : List Text) : (ofLines ls).flatMap lines = ls := by
  induction ls with
  | nil => rfl
  | cons l ls ih =>
    rw [ofLines]
    split
    · simp [lines, ih]
    · rw [flatMap_lines_push, ih]

/-- Doc comment lines above a declaration line are its doc comment. -/
theorem ofLines_doc_append (hdoc : ∀ d ∈ doc, isDocLine d = true) (hl : Declares l)
    (ls : List Text) : ofLines (doc ++ l :: ls) = declaration doc l :: ofLines ls := by
  induction doc with
  | nil => rw [List.nil_append, ofLines, if_pos hl]
  | cons d doc ih =>
    have hd : isDocLine d = true := hdoc d (by simp)
    rw [List.cons_append, ofLines, if_neg (not_declares_of_isDocLine hd),
      ih fun e he => hdoc e (by simp [he]), push, if_pos hd]

/-- The first of the pieces is not a declaration, so no line above them belongs to it. -/
def Loose (ps : List Piece) : Prop := ∀ doc l qs, ps ≠ declaration doc l :: qs

/-- A line that does not document the piece below it is a piece of its own. -/
theorem push_of_loose (h : isDocLine l = false ∨ Loose ps) : push l ps = line l :: ps := by
  unfold push
  split
  · next doc l' qs =>
    rcases h with h | h
    · simp [h]
    · exact absurd rfl (h doc l' qs)
  · rfl

/-- The pieces of lines whose first one neither declares nor documents. -/
theorem ofLines_cons (hl : ¬ Declares l) (h : isDocLine l = false ∨ Loose (ofLines ls)) :
    ofLines (l :: ls) = line l :: ofLines ls := by
  rw [ofLines, if_neg hl, push_of_loose h]

/-- A single line is loose. -/
theorem loose_line (l : Text) (ps : List Piece) : Loose (line l :: ps) := by
  rintro _ _ _ ⟨⟩

/-- Where no doc comment reaches over the seam the pieces of two parts are those of each. -/
theorem ofLines_append (h : ls.getLast?.any isDocLine = false ∨ Loose (ofLines ls')) :
    ofLines (ls ++ ls') = ofLines ls ++ ofLines ls' := by
  induction ls with
  | nil => rfl
  | cons l ls ih =>
    rw [List.cons_append, ofLines, ofLines]
    cases ls with
    | nil =>
      split
      · rfl
      · rw [List.nil_append, push_of_loose (by simpa using h)]
        rfl
    | cons k ls =>
      rw [ih (by simpa using h)]
      split
      · rfl
      · have hne : ofLines (k :: ls) ≠ [] := fun hnil => by
          have := flatMap_lines_ofLines (k :: ls)
          rw [hnil] at this
          cases this
        obtain ⟨p, ps, hps⟩ := List.exists_cons_of_ne_nil hne
        rw [hps]
        cases p with
        | line l => rfl
        | declaration doc l' =>
          simp only [List.cons_append, push]
          split <;> rfl

/-- Lines that declare nothing are pieces of their own. -/
theorem ofLines_of_not_declares (h : ∀ l ∈ ls, ¬ Declares l) : ofLines ls = ls.map line := by
  induction ls with
  | nil => rfl
  | cons l ls ih =>
    have ih := ih fun k hk => h k (by simp [hk])
    have hloose : Loose (ofLines ls) := by
      rw [ih]
      cases ls with
      | nil => rintro _ _ _ ⟨⟩
      | cons k ls => exact loose_line k _
    rw [ofLines_cons (h l (by simp)) (.inr hloose), ih]
    rfl

/-- Doc comment lines above a line that neither declares nor documents are pieces of their own. -/
theorem ofLines_doc_append_line (hdoc : ∀ d ∈ doc, isDocLine d = true) (hl : ¬ Declares l)
    (hline : isDocLine l = false) (ls : List Text) :
    ofLines (doc ++ l :: ls) = doc.map line ++ line l :: ofLines ls := by
  have hcons : ofLines (l :: ls) = line l :: ofLines ls := ofLines_cons hl (.inl hline)
  rw [ofLines_append (.inr (by rw [hcons]; exact loose_line l _)), hcons,
    ofLines_of_not_declares fun d hd => not_declares_of_isDocLine (hdoc d hd)]

/-- Pieces as they are made from lines: the doc comments hold doc comment lines, the declaration
lines declare, and no other line declares or documents the declaration below it. -/
def Normal : List Piece → Prop
  | [] => True
  | line l :: ps => ¬ Declares l ∧ (isDocLine l = false ∨ Loose ps) ∧ Normal ps
  | declaration doc l :: ps => (∀ d ∈ doc, isDocLine d = true) ∧ Declares l ∧ Normal ps

/-- The pieces of lines are as they should be. -/
theorem normal_ofLines (ls : List Text) : Normal (ofLines ls) := by
  induction ls with
  | nil => trivial
  | cons l ls ih =>
    rw [ofLines]
    split
    · next hl => exact ⟨by simp, hl, ih⟩
    · next hl =>
      unfold push
      split
      · next doc l' ps heq =>
        rw [heq] at ih
        split
        · next hdoc =>
          refine ⟨fun d hd => ?_, ih.2⟩
          rcases List.mem_cons.1 hd with rfl | hd
          · exact hdoc
          · exact ih.1 d hd
        · next hdoc => exact ⟨hl, .inl (by simpa using hdoc), ih⟩
      · next hloose =>
        exact ⟨hl, .inr fun doc l' ps heq => hloose doc l' ps heq, ih⟩

/-- Pieces as they are made from lines are the pieces of their lines. -/
theorem Normal.ofLines_eq (h : Normal ps) : ofLines (ps.flatMap lines) = ps := by
  induction ps with
  | nil => rfl
  | cons p ps ih =>
    cases p with
    | line l =>
      have ih := ih h.2.2
      rw [List.flatMap_cons, lines, List.singleton_append,
        ofLines_cons h.1 (by rw [ih]; exact h.2.1), ih]
    | declaration doc l =>
      rw [List.flatMap_cons, lines, List.append_assoc, List.singleton_append,
        ofLines_doc_append h.1 h.2.1, ih h.2.2]

/-! ## Reading the pieces -/

/-- The declarations of pieces put together. -/
theorem declarations_append (marker : Text) (n : Nat) (ps qs : List Piece) :
    declarations marker n (ps ++ qs) =
      declarations marker n ps ++ declarations marker (n + (ps.flatMap lines).length) qs := by
  induction ps generalizing n with
  | nil => rfl
  | cons p ps ih =>
    rw [List.cons_append, declarations, declarations, ih, List.append_assoc, List.flatMap_cons,
      List.length_append, Nat.add_assoc]

/-- Single lines declare nothing. -/
theorem declarations_map_line (marker : Text) (n : Nat) (ls : List Text) :
    declarations marker n (ls.map line) = [] := by
  induction ls generalizing n with
  | nil => rfl
  | cons l ls ih =>
    rw [List.map_cons, declarations, ih]
    rfl

/-- Single lines make up the lines. -/
theorem flatMap_lines_map_line (ls : List Text) : (ls.map line).flatMap lines = ls := by
  rw [List.flatMap_map]
  exact List.flatMap_singleton' ls

/-- The declarations of lines below others are those of the pieces, with the doc comment lines just
above them put back. -/
theorem onLines_eq (marker : Text) (above : List Text) (n : Nat) (ls : List Text)
    (hn : (above.takeWhile isDocLine).length ≤ n) : onLines marker above n ls =
      declarations marker (n - (above.takeWhile isDocLine).length)
        (ofLines ((above.takeWhile isDocLine).reverse ++ ls)) := by
  have hdocs : ∀ d ∈ (above.takeWhile isDocLine).reverse, isDocLine d = true := fun d hd =>
    List.mem_takeWhile_imp (List.mem_reverse.1 hd)
  induction ls generalizing above n with
  | nil =>
    rw [List.append_nil, ofLines_of_not_declares fun d hd => not_declares_of_isDocLine (hdocs d hd),
      declarations_map_line, onLines]
  | cons l ls ih =>
    have ih := ih (l :: above) (n + 1)
    have hlen : n - (above.takeWhile isDocLine).length +
        (above.takeWhile isDocLine).reverse.length = n := by
      rw [List.length_reverse]
      omega
    rw [onLines, onLine?_eq]
    by_cases hl : Declares l
    · have hctx : (l :: above).takeWhile isDocLine = [] := by
        rw [List.takeWhile_cons_of_neg (by simp [hl.not_isDocLine])]
      rw [ih (by simp [hctx]) (by simp [hctx]), hctx, ofLines_doc_append hdocs hl, declarations]
      simp only [declaration?, hlen, lines, List.length_append, List.length_singleton,
        ← Nat.add_assoc, List.length_nil, Nat.sub_zero, List.reverse_nil, List.nil_append]
    · have hnone : head? l = none := by
        rw [← Option.isNone_iff_eq_none, ← Option.not_isSome]
        simpa [Declares] using hl
      rw [hnone, Option.map_none, Option.toList_none, List.nil_append]
      cases hdoc : isDocLine l with
      | true =>
        have hctx : (l :: above).takeWhile isDocLine = l :: above.takeWhile isDocLine := by
          rw [List.takeWhile_cons_of_pos hdoc]
        rw [ih (by rw [hctx]; simpa using hn) fun d hd =>
          List.mem_takeWhile_imp (List.mem_reverse.1 hd), hctx]
        simp
      | false =>
        have hctx : (l :: above).takeWhile isDocLine = [] := by
          rw [List.takeWhile_cons_of_neg (by simp [hdoc])]
        rw [ih (by simp [hctx]) (by simp [hctx]), hctx, ofLines_doc_append_line hdocs hl hdoc,
          declarations_append, declarations_map_line, declarations, flatMap_lines_map_line, lines,
          List.length_singleton, hlen]
        rfl

/-- The declarations of a text are those of its pieces. -/
theorem ofSwift_eq (marker t : Text) :
    Declaration.ofSwift marker t = declarations marker 0 (ofLines t.lines) := by
  rw [Declaration.ofSwift, onLines_eq marker [] 0 t.lines (by simp)]
  rfl

/-- What a declaration says. -/
def said (d : Declaration) : Saying where
  number := d.number
  comment := d.comment
  deprecated := d.deprecated

/-- What the declarations of pieces say does not depend on where they stand. -/
theorem map_said_declarations (marker : Text) (n : Nat) (ps : List Piece) :
    (declarations marker n ps).map said = ps.filterMap (says? marker) := by
  induction ps generalizing n with
  | nil => rfl
  | cons p ps ih =>
    have hp : (p.declaration? marker n).map said = p.says? marker := by
      cases p with
      | line l => rfl
      | declaration doc l =>
        simp only [declaration?, says?, Option.map_map]
        rfl
    rw [declarations, List.map_append, ih, List.filterMap_cons, ← hp]
    cases p.declaration? marker n <;> rfl

end Piece

end ProtoUpkeep
