import ProtoUpkeep.Proofs.Status.Codes
import ProtoUpkeep.Proofs.Status.Redoc
import ProtoUpkeep.Status.Settings

/-!
# The lines that are no doc comments

Replacing doc comments works on line numbers that were taken before the first replacement. A
replacement takes out the lines from the first one of a declaration up to its case line, so it takes
out doc comment lines alone as long as that is what still stands there (`Covers`). Bottom up, the
replacement for one declaration leaves the lines of the declarations above it. It leaves the lines
of its own declaration too, which matters if another code of the same number is to be written there
next, provided that it writes at least as many lines as it takes out (`Drift.Clears`). With that the
lines that are no doc comment lines stay as they are (`otherLines_foldl_replaceDoc`).
-/

namespace ProtoUpkeep

open Text Declaration

variable {style : Style} {marker t swift : Text} {codes : List StatusCode} {ls : List Text}
  {d : Declaration} {x y : Drift} {ds xs : List Drift} {s : StatusSettings}

/-- The drifts of a Swift text under the settings. -/
def StatusSettings.driftsIn (s : StatusSettings) (codes : List StatusCode) (swift : Text) :
    List Drift :=
  drifts codes (RawValues.ofSwift swift) (Declaration.ofSwift s.deprecatedMarker swift)

/-- The Swift text with the doc comments of its drifted declarations replaced. -/
def StatusSettings.updateDocs (s : StatusSettings) (codes : List StatusCode) (swift : Text) :
    Text :=
  replaceDocs s.style (s.driftsIn codes swift) swift

/-- The lines that are no doc comment lines. -/
def otherLines (ls : List Text) : List Text := ls.filter fun l => !isDocLine l

/-- How many doc comment lines a declaration has. -/
def Declaration.docLength (d : Declaration) : Nat := d.caseLine - d.firstLine

/-- How many doc comment lines are written for a code. -/
def Style.docLength (s : Style) (c : StatusCode) : Nat :=
  (s.docComment? c.comment c.deprecated).toList.length

/-- As many doc comment lines are written above a line as the code has. -/
theorem length_docLines (style : Style) (c : StatusCode) (l : Text) :
    (docLines style c l).length = style.docLength c := by
  rw [docLines, Style.docLength]
  cases style.docComment? c.comment c.deprecated <;> rfl

/-! ## Where declarations stand -/

/-- A declaration stands on its case line, below its doc comment. -/
theorem Piece.exists_lines_eq {ps : List Piece} {n : Nat} (h : Normal ps)
    (hd : d ∈ declarations marker n ps) : ∃ above doc l below,
      ps.flatMap lines = above ++ (doc ++ l :: below) ∧ d.firstLine = n + above.length ∧
      d.caseLine = d.firstLine + doc.length ∧ ∀ k ∈ doc, isDocLine k = true := by
  induction ps generalizing n with
  | nil => cases hd
  | cons p ps ih =>
    rw [List.flatMap_cons]
    rcases List.mem_append.1 hd with hd | hd
    · cases p with
      | line l => simp [declaration?] at hd
      | declaration doc l =>
        simp only [declaration?, Option.mem_toList, Option.map_eq_some_iff] at hd
        obtain ⟨-, -, rfl⟩ := hd
        exact ⟨[], doc, l, ps.flatMap lines, by simp [lines], rfl, rfl, h.1⟩
    · have hnormal : Normal ps := by cases p <;> exact h.2.2
      obtain ⟨above, doc, l, below, hlines, hfirst, hcase, hdoc⟩ := ih hnormal hd
      refine ⟨p.lines ++ above, doc, l, below, ?_, ?_, hcase, hdoc⟩
      · rw [hlines, List.append_assoc]
      · rw [hfirst, List.length_append, Nat.add_assoc]

/-- The lines from the first line of a declaration up to its case line are doc comment lines, as far
as there are that many lines. -/
def Covers (ls : List Text) (d : Declaration) : Prop :=
  ∀ i, d.firstLine ≤ i → i < d.caseLine → ∀ l, ls[i]? = some l → isDocLine l = true

/-- The doc comment of a declaration of a text starts on its first line and ends above its case
line. -/
theorem covers_ofSwift (hd : d ∈ Declaration.ofSwift marker t) :
    d.firstLine ≤ d.caseLine ∧ Covers t.lines d := by
  rw [Piece.ofSwift_eq] at hd
  obtain ⟨above, doc, l, below, hlines, hfirst, hcase, hdoc⟩ :=
    Piece.exists_lines_eq (Piece.normal_ofLines _) hd
  rw [Piece.flatMap_lines_ofLines] at hlines
  refine ⟨by omega, fun i hi hlt k hk => ?_⟩
  rw [hlines, List.getElem?_append_right (by omega), List.getElem?_append_left (by omega)] at hk
  exact hdoc k (List.mem_of_getElem? hk)

/-! ## One replacement -/

/-- A replacement that takes out doc comment lines alone leaves the other lines. -/
theorem otherLines_replaceDoc (hle : x.declaration.firstLine ≤ x.declaration.caseLine)
    (hcovers : Covers ls x.declaration) : otherLines (replaceDoc style ls x) = otherLines ls := by
  obtain ⟨c, d⟩ := x
  have hdocs : otherLines ((ls.take d.caseLine).drop d.firstLine) = [] := by
    refine List.filter_eq_nil_iff.2 fun l hl => ?_
    obtain ⟨i, hi⟩ := List.mem_iff_getElem?.1 hl
    rw [List.getElem?_drop, List.getElem?_take] at hi
    split at hi
    · next hlt => simp [hcovers _ (Nat.le_add_right _ _) hlt l hi]
    · cases hi
  have hsplit : ls =
      ls.take d.firstLine ++ ((ls.take d.caseLine).drop d.firstLine ++ ls.drop d.caseLine) := by
    conv_lhs => rw [← List.take_append_drop d.caseLine ls,
      ← List.take_append_drop d.firstLine (ls.take d.caseLine), List.take_take,
      Nat.min_eq_left hle, List.append_assoc]
  unfold replaceDoc
  split
  · rfl
  · next l hl =>
    have hnew : otherLines (docLines style c l) = [] :=
      List.filter_eq_nil_iff.2 fun k hk => by simp [Piece.isDocLine_of_mem_docLines hk]
    conv_rhs => rw [hsplit]
    simp only [otherLines, docLines, List.filter_append, List.append_assoc] at hdocs hnew ⊢
    rw [hdocs, hnew]

/-- The replacement for one drift leaves doc comment lines where the other one takes lines out: the
other declaration stands above, or it is the same one and no fewer lines are written than taken
out. -/
def Drift.Clears (style : Style) (x y : Drift) : Prop :=
  y.declaration.caseLine < x.declaration.firstLine ∨
    x.declaration = y.declaration ∧ x.declaration.docLength ≤ style.docLength x.code

/-- The replacement for a drift leaves doc comment lines where one that it clears takes lines
out. -/
theorem Drift.Clears.covers (hle : x.declaration.firstLine ≤ x.declaration.caseLine)
    (h : x.Clears style y) (hy : Covers ls y.declaration) :
    Covers (replaceDoc style ls x) y.declaration := by
  obtain ⟨c, d⟩ := x
  intro i hi hlt k hk
  unfold replaceDoc at hk
  split at hk
  · exact hy i hi hlt k hk
  · next l hl =>
    simp only at hle
    have hin : d.caseLine < ls.length := (List.getElem?_eq_some_iff.1 hl).1
    have hlen : (ls.take d.firstLine).length = d.firstLine := by
      rw [List.length_take]
      omega
    have hdocs := length_docLines style c l
    simp only at hk
    rw [List.append_assoc] at hk
    rcases h with habove | ⟨rfl, hfits⟩
    · simp only at habove
      rw [List.getElem?_append_left (by omega), List.getElem?_take_of_lt (by omega)] at hk
      exact hy i hi hlt k hk
    · -- The lines that are written reach at least as far down as those that were taken out.
      simp only [Declaration.docLength] at hfits hi hlt
      rw [List.getElem?_append_right (by omega), hlen,
        List.getElem?_append_left (by rw [← docLines, hdocs]; omega)] at hk
      exact Piece.isDocLine_of_mem_docLines (List.mem_of_getElem? hk)

/-! ## All replacements -/

/-- Replacements that clear the later ones leave the other lines. -/
theorem otherLines_foldl_replaceDoc
    (hle : ∀ x ∈ xs, x.declaration.firstLine ≤ x.declaration.caseLine)
    (hclears : xs.Pairwise (Drift.Clears style)) (hcovers : ∀ x ∈ xs, Covers ls x.declaration) :
    otherLines (xs.foldl (replaceDoc style) ls) = otherLines ls := by
  induction xs generalizing ls with
  | nil => rfl
  | cons x xs ih =>
    obtain ⟨hx, hclears⟩ := List.pairwise_cons.1 hclears
    have hlex := hle x (by simp)
    rw [List.foldl_cons, ih (fun y hy => hle y (by simp [hy])) hclears fun y hy =>
      (hx y hy).covers hlex (hcovers y (by simp [hy]))]
    exact otherLines_replaceDoc hlex (hcovers x (by simp))

/-- Sorting leaves the order of elements that may stand in any order. -/
theorem filter_mergeSort {α : Type} {le : α → α → Bool} {p : α → Bool} {l : List α}
    (htrans : ∀ a b c, le a b → le b c → le a c) (htotal : ∀ a b, le a b || le b a)
    (hp : ∀ a b, p a → p b → le a b) : (l.mergeSort le).filter p = l.filter p := by
  have hsorted : (l.filter p).Pairwise fun a b => le a b = true := by
    refine List.pairwise_of_forall_mem_list fun a ha b hb => ?_
    exact hp a b (List.mem_filter.1 ha).2 (List.mem_filter.1 hb).2
  have hsub := (List.sublist_mergeSort htrans htotal hsorted List.filter_sublist).filter p
  rw [List.filter_filter, show (fun a => p a && p a) = p by simp] at hsub
  exact (hsub.eq_of_length ((List.mergeSort_perm l le).filter p).length_eq.symm).symm

/-- Of two declarations that stand one below the other with the rest one is above the other. -/
theorem above_or_above {decls : List Declaration} {a b : Declaration}
    (hdecls : decls.Pairwise Above) (ha : a ∈ decls) (hb : b ∈ decls) (hne : a ≠ b) :
    a.Above b ∨ b.Above a := by
  obtain ⟨i, hi, rfl⟩ := List.getElem_of_mem ha
  obtain ⟨j, hj, rfl⟩ := List.getElem_of_mem hb
  rcases Nat.lt_trichotomy i j with hlt | rfl | hlt
  · exact .inl (List.pairwise_iff_getElem.1 hdecls i j hi hj hlt)
  · exact absurd rfl hne
  · exact .inr (List.pairwise_iff_getElem.1 hdecls j i hj hi hlt)

/-- Bottom up, the replacements clear the later ones if those for one declaration do. -/
theorem pairwise_bottomUp {decls : List Declaration} (hdecls : decls.Pairwise Above)
    (hmem : ∀ x ∈ ds, x.declaration ∈ decls)
    (hfits : ds.Pairwise fun x y => x.declaration = y.declaration →
      x.declaration.docLength ≤ style.docLength x.code) :
    (bottomUp ds).Pairwise (Drift.Clears style) := by
  have hsorted := List.pairwise_mergeSort bottomUp_trans bottomUp_total ds
  rw [List.pairwise_iff_forall_sublist]
  intro x y hxy
  have hin : ∀ z ∈ [x, y], z.declaration ∈ decls := fun z hz =>
    hmem z ((List.mergeSort_perm ds _).mem_iff.1 (hxy.subset hz))
  have hfirst : y.declaration.firstLine ≤ x.declaration.firstLine :=
    of_decide_eq_true (List.pairwise_iff_forall_sublist.1 hsorted hxy)
  by_cases hsame : x.declaration = y.declaration
  · -- The replacements for one declaration are made in the order in which they are given.
    have hstable := filter_mergeSort (l := ds) (p := fun z => decide (z.declaration = x.declaration))
      bottomUp_trans bottomUp_total fun a b ha hb => by
        rw [decide_eq_true_eq] at ha hb ⊢
        rw [ha, hb]
    have hsub := hxy.filter fun z => decide (z.declaration = x.declaration)
    rw [bottomUp, hstable] at hsub
    have hpair : [x, y].filter (fun z => decide (z.declaration = x.declaration)) = [x, y] := by
      simp [hsame]
    rw [hpair] at hsub
    exact .inr ⟨hsame, List.pairwise_iff_forall_sublist.1 hfits
      (hsub.trans List.filter_sublist) hsame⟩
  · rcases above_or_above hdecls (hin x (by simp)) (hin y (by simp)) hsame with h | h
    · exact absurd (Nat.lt_of_le_of_lt h.1 h.2) (Nat.not_lt.2 hfirst)
    · exact .inl h.2

/-! ## The text behind the replacements -/

/-- A doc comment for a comment on one line is one line. -/
theorem newline_not_mem_docComment? {comment doc : Text} {deprecated : Bool}
    (hmarker : '\n' ∉ style.marker) (hcomment : '\n' ∉ comment)
    (h : style.docComment? comment deprecated = some doc) : '\n' ∉ doc := by
  unfold Style.docComment? at h
  split at h <;> cases h
  · simp [hmarker, hcomment]
  · exact hcomment
  · exact hmarker

/-- A replacement leaves lines that have no line feeds in them, and one at least. -/
theorem newline_not_mem_replaceDoc (hmarker : '\n' ∉ style.marker) (hx : '\n' ∉ x.code.comment)
    (hls : ls ≠ [] ∧ ∀ l ∈ ls, '\n' ∉ l) :
    replaceDoc style ls x ≠ [] ∧ ∀ l ∈ replaceDoc style ls x, '\n' ∉ l := by
  obtain ⟨c, d⟩ := x
  unfold replaceDoc
  split
  · exact hls
  · next k hk =>
    have hmem : k ∈ ls := List.mem_of_getElem? hk
    have hin : d.caseLine < ls.length := (List.getElem?_eq_some_iff.1 hk).1
    refine ⟨by simp [hin], fun l hl => ?_⟩
    rw [List.mem_append, List.mem_append, Option.mem_toList, Option.map_eq_some_iff] at hl
    rcases hl with (hl | ⟨doc, hdoc, rfl⟩) | hl
    · exact hls.2 l (List.mem_of_mem_take hl)
    · have hindent : '\n' ∉ k.takeWhile isBlank := fun h =>
        hls.2 k hmem ((List.takeWhile_sublist _).subset h)
      simp [hindent, newline_not_mem_docComment? hmarker hx hdoc]
    · exact hls.2 l (List.mem_of_mem_drop hl)

/-- The lines of the text behind the replacements are those that the replacements leave. -/
theorem lines_replaceDocs (hmarker : '\n' ∉ style.marker)
    (hds : ∀ x ∈ ds, '\n' ∉ x.code.comment) (t : Text) :
    (replaceDocs style ds t).lines = (bottomUp ds).foldl (replaceDoc style) t.lines := by
  have hall : ∀ xs : List Drift, (∀ x ∈ xs, '\n' ∉ x.code.comment) → ∀ ls : List Text,
      (ls ≠ [] ∧ ∀ l ∈ ls, '\n' ∉ l) →
        xs.foldl (replaceDoc style) ls ≠ [] ∧ ∀ l ∈ xs.foldl (replaceDoc style) ls, '\n' ∉ l := by
    intro xs hxs
    induction xs with
    | nil => exact fun ls hls => hls
    | cons x xs ih =>
      exact fun ls hls => ih (fun y hy => hxs y (by simp [hy])) _
        (newline_not_mem_replaceDoc hmarker (hxs x (by simp)) hls)
  obtain ⟨hne, hnl⟩ := hall (bottomUp ds)
    (fun x hx => hds x ((List.mergeSort_perm ds _).mem_iff.1 hx)) t.lines
    ⟨lines_ne_nil t, fun l hl => newline_not_mem_of_mem_lines hl⟩
  exact lines_ofLines hne hnl

/-- A drift is one of a code that is given and of a declaration of the text. -/
theorem mem_of_mem_driftsIn (hx : x ∈ s.driftsIn codes swift) :
    x.code ∈ codes ∧ x.declaration ∈ Declaration.ofSwift s.deprecatedMarker swift := by
  rw [StatusSettings.driftsIn, drifts_eq_filterMap, List.mem_filterMap] at hx
  obtain ⟨c, hc, hx⟩ := hx
  obtain ⟨rfl, hd, -⟩ := drift?_eq_some_iff.1 hx
  exact ⟨List.mem_of_mem_filter hc, (of_declarationOf? hd).1⟩

/-- Codes of different numbers have no two drifts of one declaration. -/
theorem pairwise_driftsIn (hnodup : (codes.map (·.number)).Nodup) :
    (s.driftsIn codes swift).Pairwise fun x y => x.declaration ≠ y.declaration := by
  rw [StatusSettings.driftsIn, drifts_eq_filterMap]
  refine ((List.pairwise_map.1 hnodup).filter _).filterMap _ fun c c' hne x hx y hy heq => hne ?_
  obtain ⟨-, hd, -⟩ := drift?_eq_some_iff.1 hx
  obtain ⟨-, hd', -⟩ := drift?_eq_some_iff.1 hy
  rw [← (of_declarationOf? hd).2, ← (of_declarationOf? hd').2, heq]

/-- Replacing the doc comments of drifted declarations leaves the lines that are no doc comment
lines as they are and in their order, if a drift that is followed by another one of the same
declaration has at least as many doc comment lines written for it as the declaration has. Where the
codes have different numbers there is no such drift (`pairwise_driftsIn`). -/
theorem otherLines_updateDocs {proto : Text}
    (hread : StatusCode.ofProto? StatusSettings.default.enumName proto = some codes)
    (hfits : (StatusSettings.default.driftsIn codes swift).Pairwise fun x y =>
      x.declaration = y.declaration →
        x.declaration.docLength ≤ StatusSettings.default.style.docLength x.code) :
    otherLines (StatusSettings.default.updateDocs codes swift).lines = otherLines swift.lines := by
  have hperm := List.mergeSort_perm (StatusSettings.default.driftsIn codes swift)
    fun a b => decide (b.declaration.firstLine ≤ a.declaration.firstLine)
  have hcovers : ∀ x ∈ bottomUp (StatusSettings.default.driftsIn codes swift),
      x.declaration.firstLine ≤ x.declaration.caseLine ∧ Covers swift.lines x.declaration :=
    fun x hx => covers_ofSwift (mem_of_mem_driftsIn (hperm.mem_iff.1 hx)).2
  rw [StatusSettings.updateDocs, lines_replaceDocs (by decide) fun x hx =>
    (StatusCode.wellRead_of_ofProto? hread _ (mem_of_mem_driftsIn hx).1).newline]
  exact otherLines_foldl_replaceDoc (fun x hx => (hcovers x hx).1)
    (pairwise_bottomUp (pairwise_above_ofSwift _ swift) (fun _ hx => (mem_of_mem_driftsIn hx).2)
      hfits) fun x hx => (hcovers x hx).2

/-- A proto text with two names for one number, the lines of `first` above the first of them. -/
def aliasedCode (first : Text) : Text :=
  "enum ResponseCodeEnum \x7b\noption allow_alias = true;\n".toList ++ first ++
    "OK = 22;\nFINE = 22;\n\x7d"

/-- A Swift text with one declaration, which has a doc comment, and its mapping. -/
def documentedCode : Text := "    /// Done.\n    case ok  // = 22\n        case 22: self = .ok"

/-- Where the first of two names of a number has a comment, both doc comments are written and the
declaration stays. -/
theorem otherLines_updateDocs_commented_alias : ∃ codes,
    StatusCode.ofProto? StatusSettings.default.enumName (aliasedCode "// Well done.\n") =
      some codes ∧
    (StatusSettings.default.driftsIn codes documentedCode).Pairwise (fun x y =>
      x.declaration = y.declaration →
        x.declaration.docLength ≤ StatusSettings.default.style.docLength x.code) ∧
    otherLines (StatusSettings.default.updateDocs codes documentedCode).lines =
      otherLines documentedCode.lines := by
  have hread : StatusCode.ofProto? StatusSettings.default.enumName (aliasedCode "// Well done.\n") =
      some [⟨"OK", 22, "Well done.", false⟩, ⟨"FINE", 22, [], false⟩] := by decide +kernel
  have hfits : (StatusSettings.default.driftsIn
      [⟨"OK", 22, "Well done.", false⟩, ⟨"FINE", 22, [], false⟩] documentedCode).Pairwise
        fun x y => x.declaration = y.declaration →
          x.declaration.docLength ≤ StatusSettings.default.style.docLength x.code := by
    decide +kernel
  exact ⟨_, hread, hfits, otherLines_updateDocs hread hfits⟩

/-- Where neither of two names of a number has a comment, the doc comment is taken out twice, the
second time with the line of the declaration in its place. -/
theorem updateDocs_drops_declaration : ∃ codes,
    StatusCode.ofProto? StatusSettings.default.enumName (aliasedCode "") = some codes ∧
    "    case ok  // = 22".toList ∈ otherLines documentedCode.lines ∧
    "    case ok  // = 22".toList ∉
      (StatusSettings.default.updateDocs codes documentedCode).lines := by
  refine ⟨[⟨"OK", 22, [], false⟩, ⟨"FINE", 22, [], false⟩], by decide +kernel, by decide +kernel,
    ?_⟩
  rw [StatusSettings.updateDocs, replaceDocs, bottomUp,
    List.mergeSort_of_pairwise (by decide +kernel)]
  decide +kernel

end ProtoUpkeep
