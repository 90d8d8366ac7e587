import Mathlib.Data.List.Nodup
import ProtoUpkeep.Proofs.Status.Pieces
import ProtoUpkeep.Status.Splice

/-!
# Replacing doc comments

`replaceDocs` works on line numbers: it replaces the doc comments from the bottom of the text to its
top, so that the numbers of the declarations above stay valid. On pieces it is a walk from the top:
each declaration that has drifted gets the doc comment of its code (`Piece.redoc`,
`replaceDocs_eq`). The drifts come in the order of the codes, and sorting them gives the order of
the declarations, because no two declarations start on one line (`bottomUp_drifts`). The walk
changes what the drifted declarations say to what their codes say, and nothing else
(`filterMap_says?_redoc`).
-/

namespace ProtoUpkeep

open Text Declaration

variable {style : Style} {marker t : Text} {codes : List StatusCode} {mapped : RawValues}
  {decls : List Declaration} {d d' : Declaration} {c c' : StatusCode} {n : Nat}

/-! ## Which declarations are replaced -/

/-- Whether the declaration gets the doc comment of the code: the code is mapped, and the
declaration is the last of its number and says something else. -/
def redocs (mapped : RawValues) (decls : List Declaration) (d : Declaration) (c : StatusCode) :
    Bool :=
  mapped.contains c.number && decide (declarationOf? decls c.number = some d) && d.differs c

/-- The code whose doc comment the declaration gets. -/
def redocCode? (codes : List StatusCode) (mapped : RawValues) (decls : List Declaration)
    (d : Declaration) : Option StatusCode :=
  codes.find? (redocs mapped decls d)

/-- When a declaration gets the doc comment of a code. -/
theorem redocs_iff : redocs mapped decls d c = true ↔ c.number ∈ mapped ∧
    declarationOf? decls c.number = some d ∧ d.differs c = true := by
  rw [redocs, Bool.and_eq_true, Bool.and_eq_true, decide_eq_true_eq, Std.TreeMap.contains_iff_mem,
    and_assoc]

/-- A declaration that is found is one of those given and has the number. -/
theorem of_declarationOf? {k : Int} (h : declarationOf? decls k = some d) :
    d ∈ decls ∧ d.number = k := by
  unfold declarationOf? at h
  exact ⟨List.mem_reverse.1 (List.mem_of_find?_eq_some h), by simpa using List.find?_some h⟩

/-- Of codes with different numbers only one has a given number. -/
theorem eq_of_number_eq (hnodup : (codes.map (·.number)).Nodup) (hc : c ∈ codes) (hc' : c' ∈ codes)
    (h : c.number = c'.number) : c = c' :=
  List.inj_on_of_nodup_map hnodup hc hc' h

/-- The code whose doc comment a declaration gets. -/
theorem redocCode?_eq_some_iff (hnodup : (codes.map (·.number)).Nodup) :
    redocCode? codes mapped decls d = some c ↔ c ∈ codes ∧ redocs mapped decls d c = true := by
  unfold redocCode?
  constructor
  · intro h
    exact ⟨List.mem_of_find?_eq_some h, List.find?_some h⟩
  · rintro ⟨hc, h⟩
    cases hfind : codes.find? (redocs mapped decls d) with
    | none => exact absurd h (List.find?_eq_none.1 hfind c hc)
    | some c' =>
      have h₁ := of_declarationOf? (redocs_iff.1 (List.find?_some hfind)).2.1
      have h₂ := of_declarationOf? (redocs_iff.1 h).2.1
      rw [eq_of_number_eq hnodup (List.mem_of_find?_eq_some hfind) hc (h₁.2.symm.trans h₂.2)]

/-- The drift of a code: the last declaration of its number, if that says something else. -/
def drift? (decls : List Declaration) (c : StatusCode) : Option Drift :=
  (declarationOf? decls c.number).bind fun d => if d.differs c then some ⟨c, d⟩ else none

/-- The drifts are those of the mapped codes. -/
theorem drifts_eq_filterMap : drifts codes mapped decls =
    (codes.filter fun c => mapped.contains c.number).filterMap (drift? decls) := by
  unfold drifts
  congr 1
  funext c
  unfold drift?
  cases declarationOf? decls c.number <;> rfl

/-- What the drift of a code is. -/
theorem drift?_eq_some_iff {x : Drift} : drift? decls c = some x ↔ x.code = c ∧
    declarationOf? decls c.number = some x.declaration ∧ x.declaration.differs c = true := by
  unfold drift?
  rw [Option.bind_eq_some_iff]
  constructor
  · rintro ⟨d, hd, hx⟩
    split at hx
    · next hdiffers =>
      cases hx
      exact ⟨rfl, hd, hdiffers⟩
    · cases hx
  · rintro ⟨rfl, hd, hdiffers⟩
    exact ⟨_, hd, if_pos hdiffers⟩

/-- The drifts in the order of the declarations. -/
def driftsInOrder (codes : List StatusCode) (mapped : RawValues) (decls : List Declaration) :
    List Drift :=
  decls.filterMap fun d => (redocCode? codes mapped decls d).map fun code => ⟨code, d⟩

/-- The drifts are those declarations that get the doc comment of a code. -/
theorem mem_drifts_iff (hnodup : (codes.map (·.number)).Nodup) {x : Drift} :
    x ∈ drifts codes mapped decls ↔ redocCode? codes mapped decls x.declaration = some x.code := by
  rw [redocCode?_eq_some_iff hnodup, redocs_iff, drifts_eq_filterMap]
  simp only [List.mem_filterMap, List.mem_filter, Std.TreeMap.contains_iff_mem]
  constructor
  · rintro ⟨c, ⟨hc, hmapped⟩, hx⟩
    obtain ⟨rfl, hd, hdiffers⟩ := drift?_eq_some_iff.1 hx
    exact ⟨hc, hmapped, hd, hdiffers⟩
  · rintro ⟨hc, hmapped, hd, hdiffers⟩
    exact ⟨x.code, ⟨hc, hmapped⟩, drift?_eq_some_iff.2 ⟨rfl, hd, hdiffers⟩⟩

/-- Only a declaration that is given gets the doc comment of a code. -/
theorem mem_of_redocCode? (h : redocCode? codes mapped decls d = some c) : d ∈ decls :=
  (of_declarationOf? (redocs_iff.1 (List.find?_some h)).2.1).1

/-- The declaration stands above the other one, doc comments included. -/
def Declaration.Above (a b : Declaration) : Prop :=
  a.firstLine ≤ a.caseLine ∧ a.caseLine < b.firstLine

/-- The order of replacement is transitive. -/
theorem bottomUp_trans (a b c : Drift)
    (hab : decide (b.declaration.firstLine ≤ a.declaration.firstLine) = true)
    (hbc : decide (c.declaration.firstLine ≤ b.declaration.firstLine) = true) :
    decide (c.declaration.firstLine ≤ a.declaration.firstLine) = true := by
  rw [decide_eq_true_eq] at hab hbc ⊢
  exact Nat.le_trans hbc hab

/-- The order of replacement is total. -/
theorem bottomUp_total (a b : Drift) :
    (decide (b.declaration.firstLine ≤ a.declaration.firstLine) ||
      decide (a.declaration.firstLine ≤ b.declaration.firstLine)) = true := by
  rw [Bool.or_eq_true, decide_eq_true_eq, decide_eq_true_eq]
  exact Nat.le_total _ _

/-- Replacing runs over the drifts from the last declaration to the first. -/
theorem bottomUp_drifts (hnodup : (codes.map (·.number)).Nodup) (habove : decls.Pairwise Above) :
    bottomUp (drifts codes mapped decls) = (driftsInOrder codes mapped decls).reverse := by
  have horder : (driftsInOrder codes mapped decls).Pairwise fun a b =>
      a.declaration.firstLine < b.declaration.firstLine := by
    unfold driftsInOrder
    refine List.Pairwise.filterMap _ (fun a b hab x hx y hy => ?_) habove
    obtain ⟨-, -, rfl⟩ := Option.map_eq_some_iff.1 hx
    obtain ⟨-, -, rfl⟩ := Option.map_eq_some_iff.1 hy
    exact Nat.lt_of_le_of_lt hab.1 hab.2
  have hmem : ∀ x : Drift, x ∈ drifts codes mapped decls ↔
      x ∈ driftsInOrder codes mapped decls := by
    intro x
    rw [mem_drifts_iff hnodup, driftsInOrder, List.mem_filterMap]
    constructor
    · intro hcode
      exact ⟨x.declaration, mem_of_redocCode? hcode, by rw [hcode]; rfl⟩
    · rintro ⟨d, -, hx⟩
      obtain ⟨code, hcode, rfl⟩ := Option.map_eq_some_iff.1 hx
      exact hcode
  have hcodes : (drifts codes mapped decls).Nodup := by
    rw [drifts_eq_filterMap]
    refine List.Nodup.filterMap (fun a b x hx hy => ?_) ((List.Nodup.of_map _ hnodup).filter _)
    exact (drift?_eq_some_iff.1 hx).1.symm.trans (drift?_eq_some_iff.1 hy).1
  have hperm : (drifts codes mapped decls).Perm (driftsInOrder codes mapped decls) := by
    refine (List.perm_ext_iff_of_nodup hcodes ?_).2 hmem
    exact horder.imp fun h heq => by rw [heq] at h; exact Nat.lt_irrefl _ h
  unfold bottomUp
  have hsorted := List.pairwise_mergeSort bottomUp_trans bottomUp_total (drifts codes mapped decls)
  refine List.Perm.eq_of_pairwise (fun a b ha hb hab hba => ?_) hsorted ?_
    ((List.mergeSort_perm _ _).trans (hperm.trans (List.reverse_perm _).symm))
  · rw [decide_eq_true_eq] at hab hba
    have ha := (hmem a).1 ((List.mergeSort_perm _ _).mem_iff.1 ha)
    have hfirst : ((driftsInOrder codes mapped decls).map (·.declaration.firstLine)).Nodup :=
      List.pairwise_map.2 (horder.imp Nat.ne_of_lt)
    exact List.inj_on_of_nodup_map hfirst ha (List.mem_reverse.1 hb) (Nat.le_antisymm hba hab)
  · rw [List.pairwise_reverse]
    exact horder.imp fun h => decide_eq_true (Nat.le_of_lt h)

/-! ## The walk over the pieces -/

/-- The doc comment lines of a code above a line. -/
def docLines (style : Style) (c : StatusCode) (l : Text) : List Text :=
  ((style.docComment? c.comment c.deprecated).map fun text =>
    l.takeWhile isBlank ++ "/// " ++ text).toList

/-- Replacing the doc comment of a declaration that stands between other lines. -/
theorem replaceDoc_middle (style : Style) (c : StatusCode) {above doc : List Text}
    (below : List Text) (l : Text)
    (hfirst : d.firstLine = above.length) (hline : d.caseLine = above.length + doc.length) :
    replaceDoc style (above ++ (doc ++ l :: below)) ⟨c, d⟩ =
      above ++ (docLines style c l ++ l :: below) := by
  have hget : (above ++ (doc ++ l :: below))[above.length + doc.length]? = some l := by
    rw [← List.append_assoc, List.getElem?_append_right (by simp)]
    simp
  have hdrop : (above ++ (doc ++ l :: below)).drop (above.length + doc.length) = l :: below := by
    rw [← List.append_assoc, List.drop_append_of_le_length (by simp)]
    simp
  rw [replaceDoc, hline, hget, hfirst]
  simp only [hdrop, List.take_left, docLines, List.append_assoc]

namespace Piece

variable {p : Piece} {ps qs : List Piece} {pick : Declaration → Option StatusCode} {l : Text}

/-- The piece, which starts on the line `n`, with the doc comment of the code that `pick` gives for
its declaration. -/
def redocAt (style : Style) (marker : Text) (pick : Declaration → Option StatusCode) (n : Nat) :
    Piece → Piece
  | line l => line l
  | declaration doc l =>
    match ((declaration doc l).declaration? marker n).bind pick with
    | some c => declaration (docLines style c l) l
    | none => declaration doc l

/-- The pieces, whose first line is the line `n`, with the doc comments of the codes that `pick`
gives. -/
def redoc (style : Style) (marker : Text) (pick : Declaration → Option StatusCode) :
    (n : Nat) → List Piece → List Piece
  | _, [] => []
  | n, p :: ps => p.redocAt style marker pick n :: redoc style marker pick (n + p.lines.length) ps

/-- A walk over two parts. -/
theorem redoc_append (n : Nat) (ps qs : List Piece) : redoc style marker pick n (ps ++ qs) =
    redoc style marker pick n ps ++
      redoc style marker pick (n + (ps.flatMap lines).length) qs := by
  induction ps generalizing n with
  | nil => rfl
  | cons p ps ih =>
    rw [List.cons_append, redoc, redoc, ih, List.cons_append, List.flatMap_cons, List.length_append,
      Nat.add_assoc]

/-- The first lines of declarations of pieces are not above the first line of the pieces. -/
theorem le_firstLine (h : d ∈ declarations marker n ps) : n ≤ d.firstLine := by
  induction ps generalizing n with
  | nil => cases h
  | cons p ps ih =>
    rcases List.mem_append.1 h with h | h
    · cases p with
      | line l => simp [declaration?] at h
      | declaration doc l =>
        simp only [declaration?, Option.mem_toList, Option.map_eq_some_iff] at h
        obtain ⟨-, -, rfl⟩ := h
        exact Nat.le_refl n
    · exact Nat.le_trans (Nat.le_add_right n _) (ih h)

/-- The declarations of pieces stand one below the other. -/
theorem pairwise_above (marker : Text) (n : Nat) (ps : List Piece) :
    (declarations marker n ps).Pairwise Above := by
  induction ps generalizing n with
  | nil => exact .nil
  | cons p ps ih =>
    rw [declarations]
    refine List.pairwise_append.2 ⟨?_, ih _, fun a ha b hb => ?_⟩
    · cases p.declaration? marker n <;> simp
    · have hle := le_firstLine hb
      cases p with
      | line l => simp [declaration?] at ha
      | declaration doc l =>
        simp only [declaration?, Option.mem_toList, Option.map_eq_some_iff] at ha
        obtain ⟨-, -, rfl⟩ := ha
        simp only [lines, List.length_append, List.length_singleton] at hle
        exact ⟨Nat.le_add_right n doc.length, hle⟩

/-- Replacing the doc comments of the declarations of pieces, the last one first. -/
theorem foldr_replaceDoc (style : Style) (marker : Text)
    (pick : Declaration → Option StatusCode) (above : List Text) (ps : List Piece) :
    ((declarations marker above.length ps).filterMap fun d => (pick d).map (Drift.mk · d)).foldr
        (fun x ls => replaceDoc style ls x) (above ++ ps.flatMap lines) =
      above ++ (redoc style marker pick above.length ps).flatMap lines := by
  induction ps generalizing above with
  | nil => rfl
  | cons p ps ih =>
    have ih := ih (above ++ p.lines)
    rw [List.length_append] at ih
    rw [declarations, List.filterMap_append, List.foldr_append, List.flatMap_cons,
      ← List.append_assoc, ih, redoc, List.flatMap_cons]
    cases p with
    | line l => simp [declaration?, redocAt]
    | declaration doc l =>
      cases hd : (declaration doc l).declaration? marker above.length with
      | none => simp [redocAt, hd]
      | some d =>
        cases hpick : pick d with
        | none => simp [redocAt, hd, hpick]
        | some c =>
          have hpos : d.firstLine = above.length ∧ d.caseLine = above.length + doc.length := by
            obtain ⟨-, -, rfl⟩ := Option.map_eq_some_iff.1 hd
            exact ⟨rfl, rfl⟩
          have hreplace := replaceDoc_middle style c
            ((redoc style marker pick (above.length + (doc.length + 1)) ps).flatMap lines) l
            hpos.1 hpos.2
          simpa [redocAt, hd, hpick, lines] using hreplace

/-- The walk leaves the kinds of the pieces. -/
theorem loose_redoc (h : Loose ps) (n : Nat) : Loose (redoc style marker pick n ps) := by
  cases ps with
  | nil => exact h
  | cons p ps =>
    cases p with
    | line l => exact loose_line l _
    | declaration doc l => exact absurd rfl (h doc l ps)

/-- What is written as a doc comment line is one. -/
theorem isDocLine_of_mem_docLines {k : Text} (h : k ∈ docLines style c l) : isDocLine k = true := by
  unfold docLines at h
  rw [Option.mem_toList, Option.map_eq_some_iff] at h
  obtain ⟨text, -, rfl⟩ := h
  have hblank : ∀ d ∈ l.takeWhile isBlank, isBlank d = true := fun d hd =>
    List.mem_takeWhile_imp hd
  rw [isDocLine, List.append_assoc, trimStart_append hblank rfl]
  rfl

/-- The walk leaves the pieces as they are made from lines. -/
theorem Normal.redoc (h : Normal ps) (n : Nat) : Normal (redoc style marker pick n ps) := by
  induction ps generalizing n with
  | nil => trivial
  | cons p ps ih =>
    cases p with
    | line l => exact ⟨h.1, h.2.1.imp_right fun hl => loose_redoc hl _, ih h.2.2 _⟩
    | declaration doc l =>
      rw [Piece.redoc, redocAt]
      cases ((declaration doc l).declaration? marker n).bind pick with
      | none => exact ⟨h.1, h.2.1, ih h.2.2 _⟩
      | some c => exact ⟨fun k hk => isDocLine_of_mem_docLines hk, h.2.1, ih h.2.2 _⟩

/-- What a declaration says that gets the doc comment of a code. -/
def resaid (pick : Declaration → Option StatusCode) (d : Declaration) : Saying :=
  match pick d with
  | some c => { number := d.number, comment := c.comment, deprecated := c.deprecated }
  | none => said d

/-- The walk makes the declarations say what their codes say, if what is written for a code reads as
what the code says. -/
theorem filterMap_says?_redoc
    (hpick : ∀ d c, pick d = some c → ∀ l,
      splitMarker marker (joinDoc (docLines style c l)) = (c.comment, c.deprecated))
    (n : Nat) (ps : List Piece) :
    (redoc style marker pick n ps).filterMap (says? marker) =
      (declarations marker n ps).map (resaid pick) := by
  induction ps generalizing n with
  | nil => rfl
  | cons p ps ih =>
    have hp : (p.redocAt style marker pick n).says? marker =
        (p.declaration? marker n).map (resaid pick) := by
      cases p with
      | line l => rfl
      | declaration doc l =>
        cases hhead : head? l with
        | none => simp [redocAt, declaration?, says?, hhead]
        | some h =>
          rw [redocAt]
          simp only [declaration?, hhead, Option.map_some, Option.bind_some, resaid]
          split
          · next c hc =>
            rw [says?, hhead, hpick _ c hc]
            rfl
          · rw [says?, hhead]
            rfl
    rw [redoc, declarations, List.map_append, List.filterMap_cons, hp, ih]
    cases p.declaration? marker n <;> rfl

end Piece

/-- The declarations of a text stand one below the other. -/
theorem pairwise_above_ofSwift (marker t : Text) :
    (Declaration.ofSwift marker t).Pairwise Above := by
  rw [Piece.ofSwift_eq]
  exact Piece.pairwise_above marker 0 _

/-- Replacing the doc comments of the drifted declarations is the walk over the pieces. -/
theorem foldl_replaceDoc_drifts (hnodup : (codes.map (·.number)).Nodup) (style : Style)
    (mapped : RawValues) (marker t : Text) :
    (bottomUp (drifts codes mapped (Declaration.ofSwift marker t))).foldl (replaceDoc style)
        t.lines =
      (Piece.redoc style marker (redocCode? codes mapped (Declaration.ofSwift marker t)) 0
        (Piece.ofLines t.lines)).flatMap Piece.lines := by
  have hfold := Piece.foldr_replaceDoc style marker
    (redocCode? codes mapped (Declaration.ofSwift marker t)) [] (Piece.ofLines t.lines)
  rw [List.nil_append, List.nil_append, Piece.flatMap_lines_ofLines, List.length_nil,
    ← Piece.ofSwift_eq] at hfold
  rw [bottomUp_drifts hnodup (pairwise_above_ofSwift marker t), List.foldl_reverse, driftsInOrder,
    hfold]

/-- The text with the doc comments of the drifted declarations replaced is the text of the walk. -/
theorem replaceDocs_eq (hnodup : (codes.map (·.number)).Nodup) (style : Style)
    (mapped : RawValues) (marker t : Text) :
    replaceDocs style (drifts codes mapped (Declaration.ofSwift marker t)) t =
      Text.ofLines ((Piece.redoc style marker
        (redocCode? codes mapped (Declaration.ofSwift marker t)) 0
          (Piece.ofLines t.lines)).flatMap Piece.lines) := by
  rw [replaceDocs, foldl_replaceDoc_drifts hnodup]

end ProtoUpkeep
