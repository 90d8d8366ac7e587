import ProtoUpkeep.Proofs.Status.OtherLines
import ProtoUpkeep.Proofs.Status.Sayings

/-!
# Doc comments are read back as they were written

Once the doc comments of the drifted declarations are replaced, the text declares the same numbers
and identifiers in the same order (`Redeclares`). A drifted declaration says what its code says,
every other one what it said, and the lines beside the doc comments of the drifted declarations stay
(`updateDocs_putGet`). All of it is read off the walk over the pieces: a piece and what the walk
makes of it declare the same but for the doc comment, wherever each of them starts, so the line
numbers of the two texts are two independent counters in the inductions below.
-/

namespace ProtoUpkeep

open Text Declaration

variable {style : Style} {marker swift l : Text} {codes : List StatusCode} {ls ls' doc : List Text}
  {d d' : Declaration} {c : StatusCode} {ds ds' : List Declaration} {n m : Nat}

/-- The second declaration is what has become of the first where the doc comments of the drifts are
replaced. -/
structure Redeclares (drifts : List Drift) (d d' : Declaration) : Prop where
  /-- The number stays. -/
  number : d'.number = d.number
  /-- The identifier stays. -/
  identifier : d'.identifier = d.identifier
  /-- A drifted declaration says what its code says. -/
  updated : ∀ x ∈ drifts, x.declaration = d →
    d'.comment = x.code.comment ∧ d'.deprecated = x.code.deprecated
  /-- Every other declaration says what it said. -/
  kept : (∀ x ∈ drifts, x.declaration ≠ d) → d'.comment = d.comment ∧ d'.deprecated = d.deprecated

/-- Whether the line of the number `i` belongs to the doc comment of one of the declarations. -/
def documents (ds : List Declaration) (i : Nat) : Bool :=
  ds.any fun d => decide (d.firstLine ≤ i) && decide (i < d.caseLine)

/-- The lines, the first of which has the number `n`, without those of the doc comments of the
declarations. -/
def withoutDocs (ds : List Declaration) (n : Nat) (ls : List Text) : List Text :=
  ((ls.zipIdx n).filter fun l => !documents ds l.2).map Prod.fst

/-- The drifted ones of the old declarations, each with the new declaration in its place. -/
def updatedPairs (drifts : List Drift) (old new : List Declaration) :
    List (Declaration × Declaration) :=
  (old.zip new).filter fun p => decide (p.1 ∈ drifts.map (·.declaration))

/-! ## Lines without doc comments -/

/-- When a line belongs to a doc comment. -/
theorem documents_eq_true_iff {i : Nat} :
    documents ds i = true ↔ ∃ d ∈ ds, d.firstLine ≤ i ∧ i < d.caseLine := by
  simp [documents]

/-- Without declarations all lines are left. -/
theorem withoutDocs_nil (n : Nat) (ls : List Text) : withoutDocs [] n ls = ls := by
  simp [withoutDocs, documents, List.zipIdx_map_fst]

/-- Of a declaration and its doc comment the case line is left. -/
theorem withoutDocs_declaration (hfirst : d.firstLine = n) (hcase : d.caseLine = n + doc.length)
    (l : Text) : withoutDocs [d] n (doc ++ [l]) = [l] := by
  have hdoc : (doc.zipIdx n).filter (fun k => !documents [d] k.2) = [] := by
    refine List.filter_eq_nil_iff.2 fun k hk => ?_
    obtain ⟨hle, hlt, -⟩ := List.mem_zipIdx hk
    simp [documents, hfirst, hcase, hle, hlt]
  have hline : documents [d] (n + doc.length) = false := by
    simp [documents, hcase]
  rw [withoutDocs, List.zipIdx_append, List.filter_append, hdoc, List.nil_append]
  simp [hline]

/-- Where some declarations stand within the first part of the lines and the others within the
second, what is left of the whole is what is left of the parts. -/
theorem withoutDocs_append (hds : ∀ d ∈ ds, d.caseLine ≤ n + ls.length)
    (hds' : ∀ d ∈ ds', n + ls.length ≤ d.firstLine) (ls' : List Text) :
    withoutDocs (ds ++ ds') n (ls ++ ls') =
      withoutDocs ds n ls ++ withoutDocs ds' (n + ls.length) ls' := by
  have hsplit : ∀ i, documents (ds ++ ds') i = (documents ds i || documents ds' i) := fun i =>
    List.any_append
  have hfirst : (ls.zipIdx n).filter (fun k => !documents (ds ++ ds') k.2) =
      (ls.zipIdx n).filter fun k => !documents ds k.2 := by
    refine List.filter_congr fun k hk => ?_
    have hlt := (List.mem_zipIdx hk).2.1
    have hnone : documents ds' k.2 = false := by
      rw [Bool.eq_false_iff, ne_eq, documents_eq_true_iff]
      rintro ⟨d, hd, hle, -⟩
      have := hds' d hd
      omega
    rw [hsplit, hnone, Bool.or_false]
  have hsecond : (ls'.zipIdx (n + ls.length)).filter (fun k => !documents (ds ++ ds') k.2) =
      (ls'.zipIdx (n + ls.length)).filter fun k => !documents ds' k.2 := by
    refine List.filter_congr fun k hk => ?_
    have hle := (List.mem_zipIdx hk).1
    have hnone : documents ds k.2 = false := by
      rw [Bool.eq_false_iff, ne_eq, documents_eq_true_iff]
      rintro ⟨d, hd, -, hlt⟩
      have := hds d hd
      omega
    rw [hsplit, hnone, Bool.false_or]
  rw [withoutDocs, List.zipIdx_append, List.filter_append, hfirst, hsecond, List.map_append]
  rfl

/-! ## The walk over the pieces -/

namespace Piece

variable {p : Piece} {ps : List Piece} {pick : Declaration → Option StatusCode}

/-- The declaration of a line with the given identifier and number, whose doc comment starts on the
line `n`. -/
def declarationAt (marker : Text) (n : Nat) (doc : List Text) (head : Text × Int) :
    Declaration where
  number := head.2
  identifier := head.1
  comment := (splitMarker marker (joinDoc doc)).1
  deprecated := (splitMarker marker (joinDoc doc)).2
  firstLine := n
  caseLine := n + doc.length

/-- The declaration of a declaration line below its doc comment. -/
theorem declaration?_eq_some {head : Text × Int} (h : head? l = some head) (marker : Text) (n : Nat)
    (doc : List Text) :
    (declaration doc l).declaration? marker n = some (declarationAt marker n doc head) :=
  Option.map_eq_some_iff.2 ⟨head, h, rfl⟩

/-- A piece as the walk leaves it, read from the line `m` on: either neither it nor the piece it was
declares anything, or both declare the same on the same line below their doc comments. -/
theorem redocAt_cases
    (hpick : ∀ d c, pick d = some c → ∀ l,
      splitMarker marker (joinDoc (docLines style c l)) = (c.comment, c.deprecated))
    (n m : Nat) (p : Piece) :
    (p.redocAt style marker pick n = p ∧ p.declaration? marker n = none ∧
      p.declaration? marker m = none) ∨
    ∃ doc doc' l d d', p = declaration doc l ∧
      p.redocAt style marker pick n = declaration doc' l ∧
      p.declaration? marker n = some d ∧ (declaration doc' l).declaration? marker m = some d' ∧
      (d.firstLine = n ∧ d.caseLine = n + doc.length) ∧
      (d'.firstLine = m ∧ d'.caseLine = m + doc'.length) ∧
      (said d' = resaid pick d ∧ d'.identifier = d.identifier) ∧ (pick d = none → doc' = doc) := by
  cases p with
  | line l => exact .inl ⟨rfl, rfl, rfl⟩
  | declaration doc l =>
    cases hhead : head? l with
    | none => exact .inl (by simp [redocAt, declaration?, hhead])
    | some head =>
      have hd := declaration?_eq_some hhead marker
      right
      rw [redocAt, hd n doc, Option.bind_some]
      cases hpicked : pick (declarationAt marker n doc head) with
      | some c =>
        refine ⟨doc, docLines style c l, l, _, _, rfl, rfl, rfl, hd m _, ⟨rfl, rfl⟩, ⟨rfl, rfl⟩,
          ⟨?_, rfl⟩, fun hnone => absurd (hpicked.symm.trans hnone) (by simp)⟩
        rw [resaid, hpicked]
        simp only [said, declarationAt, hpick _ c hpicked]
      | none =>
        refine ⟨doc, doc, l, _, _, rfl, rfl, rfl, hd m _, ⟨rfl, rfl⟩, ⟨rfl, rfl⟩, ⟨?_, rfl⟩,
          fun _ => rfl⟩
        rw [resaid, hpicked]
        rfl

section

variable (hpick : ∀ d c, pick d = some c → ∀ l,
  splitMarker marker (joinDoc (docLines style c l)) = (c.comment, c.deprecated))

include hpick

/-- The walk leaves the declarations but for what those say that get the doc comment of a code. -/
theorem forall₂_declarations_redoc (n m : Nat) (ps : List Piece) :
    List.Forall₂ (fun d d' => said d' = resaid pick d ∧ d'.identifier = d.identifier)
      (declarations marker n ps) (declarations marker m (redoc style marker pick n ps)) := by
  induction ps generalizing n m with
  | nil => exact .nil
  | cons p ps ih =>
    rw [redoc, declarations, declarations]
    refine List.rel_append ?_ (ih _ _)
    rcases redocAt_cases hpick n m p with ⟨hsame, hnone, hnone'⟩ |
      ⟨doc, doc', l, d, d', -, hredoc, hd, hd', -, -, hsaid, -⟩
    · rw [hsame, hnone, hnone']
      exact .nil
    · rw [hredoc, hd, hd']
      exact .cons hsaid .nil

/-- The declarations that get a doc comment are that of the first piece, if it does, and those behind.
Beside its doc comment the walk leaves the lines of the piece. -/
theorem exists_heads_redoc (n m : Nat) (p : Piece) (ps : List Piece) :
    ∃ heads : List (Declaration × Declaration),
      ((declarations marker n (p :: ps)).zip (declarations marker m
          (redoc style marker pick n (p :: ps)))).filter (fun q => (pick q.1).isSome) =
        heads ++ ((declarations marker (n + p.lines.length) ps).zip
          (declarations marker (m + (p.redocAt style marker pick n).lines.length)
            (redoc style marker pick (n + p.lines.length) ps))).filter
              (fun q => (pick q.1).isSome) ∧
      (∀ q ∈ heads, q.1.caseLine ≤ n + p.lines.length ∧
        q.2.caseLine ≤ m + (p.redocAt style marker pick n).lines.length) ∧
      withoutDocs (heads.map Prod.fst) n p.lines =
        withoutDocs (heads.map Prod.snd) m (p.redocAt style marker pick n).lines := by
  rw [redoc, declarations, declarations]
  rcases redocAt_cases hpick n m p with ⟨hsame, hnone, hnone'⟩ |
    ⟨doc, doc', l, d, d', rfl, hredoc, hd, hd', ⟨hfirst, hcase⟩, ⟨hfirst', hcase'⟩, -, hdoc⟩
  · rw [hsame, hnone, hnone']
    exact ⟨[], rfl, by simp, by simp [withoutDocs_nil]⟩
  · rw [hredoc, hd, hd', Option.toList_some, Option.toList_some, List.singleton_append,
      List.singleton_append, List.zip_cons_cons, ← List.singleton_append, List.filter_append]
    refine ⟨_, rfl, fun q hq => ?_, ?_⟩
    · obtain rfl : q = (d, d') := by simpa using List.mem_of_mem_filter hq
      simp only [lines, List.length_append]
      omega
    · rw [lines, lines]
      cases hpicked : pick d with
      | none => simp [hpicked, hdoc hpicked, withoutDocs_nil]
      | some c => simp [hpicked, withoutDocs_declaration hfirst hcase,
          withoutDocs_declaration hfirst' hcase']

/-- The walk leaves the lines beside the doc comments of the declarations that get the doc comment
of a code. -/
theorem withoutDocs_redoc (n m : Nat) (ps : List Piece) {pairs : List (Declaration × Declaration)}
    (hpairs : pairs = ((declarations marker n ps).zip
      (declarations marker m (redoc style marker pick n ps))).filter fun p => (pick p.1).isSome) :
    withoutDocs (pairs.map Prod.fst) n (ps.flatMap lines) =
      withoutDocs (pairs.map Prod.snd) m ((redoc style marker pick n ps).flatMap lines) := by
  induction ps generalizing n m pairs with
  | nil =>
    subst hpairs
    rfl
  | cons p ps ih =>
    obtain ⟨heads, hsplit, hheads, hpiece⟩ := exists_heads_redoc hpick n m p ps
    obtain ⟨tail, htail⟩ : ∃ tail, tail = ((declarations marker (n + p.lines.length) ps).zip
        (declarations marker (m + (p.redocAt style marker pick n).lines.length)
          (redoc style marker pick (n + p.lines.length) ps))).filter fun p => (pick p.1).isSome :=
      ⟨_, rfl⟩
    -- The declarations below stand below the lines of this piece in both texts.
    have hbelow : ∀ q ∈ tail, n + p.lines.length ≤ q.1.firstLine ∧
        m + (p.redocAt style marker pick n).lines.length ≤ q.2.firstLine := fun q hq => by
      have hq := List.of_mem_zip (List.mem_of_mem_filter (htail ▸ hq))
      exact ⟨le_firstLine hq.1, le_firstLine hq.2⟩
    rw [hpairs, hsplit, ← htail, redoc, List.flatMap_cons, List.flatMap_cons, List.map_append,
      List.map_append, withoutDocs_append (List.forall_mem_map.2 fun q hq => (hheads q hq).1)
        (List.forall_mem_map.2 fun q hq => (hbelow q hq).1),
      withoutDocs_append (List.forall_mem_map.2 fun q hq => (hheads q hq).2)
        (List.forall_mem_map.2 fun q hq => (hbelow q hq).2), hpiece, ih _ _ htail]

end

end Piece

/-! ## The text behind the replacements -/

section

variable (hnodup : (codes.map (·.number)).Nodup)

include hnodup

/-- The lines behind the replacements are those of the walk. -/
theorem lines_updateDocs (hnewline : ∀ c ∈ codes, '\n' ∉ c.comment) (swift : Text) :
    (StatusSettings.default.updateDocs codes swift).lines =
      (Piece.redoc Style.default "[Deprecated]"
        (redocCode? codes (RawValues.ofSwift swift) (Declaration.ofSwift "[Deprecated]" swift)) 0
          (Piece.ofLines swift.lines)).flatMap Piece.lines := by
  rw [StatusSettings.updateDocs, lines_replaceDocs (by decide) fun x hx =>
    hnewline _ (mem_of_mem_driftsIn hx).1]
  exact foldl_replaceDoc_drifts hnodup Style.default _ "[Deprecated]" swift

/-- The declarations behind the replacements are those of the walk. -/
theorem ofSwift_updateDocs (hnewline : ∀ c ∈ codes, '\n' ∉ c.comment) (swift : Text) :
    Declaration.ofSwift "[Deprecated]" (StatusSettings.default.updateDocs codes swift) =
      Piece.declarations "[Deprecated]" 0 (Piece.redoc Style.default "[Deprecated]"
        (redocCode? codes (RawValues.ofSwift swift) (Declaration.ofSwift "[Deprecated]" swift)) 0
          (Piece.ofLines swift.lines)) := by
  rw [Piece.ofSwift_eq, lines_updateDocs hnodup hnewline,
    ((Piece.normal_ofLines swift.lines).redoc 0).ofLines_eq]

/-- A declaration has drifted if it gets the doc comment of a code. -/
theorem mem_map_driftsIn_iff :
    d ∈ (StatusSettings.default.driftsIn codes swift).map (·.declaration) ↔
      (redocCode? codes (RawValues.ofSwift swift)
        (Declaration.ofSwift "[Deprecated]" swift) d).isSome = true := by
  rw [List.mem_map, Option.isSome_iff_exists]
  constructor
  · rintro ⟨x, hx, rfl⟩
    exact ⟨x.code, (mem_drifts_iff hnodup).1 hx⟩
  · rintro ⟨c, hc⟩
    exact ⟨⟨c, d⟩, (mem_drifts_iff hnodup).2 hc, rfl⟩

/-- A declaration with the identifier of another one that says what the walk makes that one say is
what has become of it. -/
theorem Redeclares.of_resaid
    (h : Piece.said d' = Piece.resaid (redocCode? codes (RawValues.ofSwift swift)
      (Declaration.ofSwift "[Deprecated]" swift)) d) (hidentifier : d'.identifier = d.identifier) :
    Redeclares (StatusSettings.default.driftsIn codes swift) d d' := by
  unfold Piece.resaid at h
  refine ⟨?_, hidentifier, fun x hx hxd => ?_, fun hnone => ?_⟩
  · split at h <;> exact congrArg Piece.Saying.number h
  · have hpick : redocCode? codes (RawValues.ofSwift swift)
        (Declaration.ofSwift "[Deprecated]" swift) x.declaration = some x.code :=
      (mem_drifts_iff hnodup).1 hx
    rw [← hxd, hpick] at h
    exact ⟨congrArg Piece.Saying.comment h, congrArg Piece.Saying.deprecated h⟩
  · split at h
    · next c hc => exact absurd rfl (hnone ⟨c, d⟩ ((mem_drifts_iff hnodup).2 hc))
    · exact ⟨congrArg Piece.Saying.comment h, congrArg Piece.Saying.deprecated h⟩

end

/-- Behind the replacements the text has the declarations it had. Those that had drifted say what
their codes say, the others what they said, and beside the doc comments of those that had drifted
the lines are the same. -/
theorem updateDocs_putGet (hnodup : (codes.map (·.number)).Nodup)
    (htrimmed : ∀ c ∈ codes, Trimmed c.comment) (hnewline : ∀ c ∈ codes, '\n' ∉ c.comment)
    (hmark : ∀ c ∈ codes, c.Unmarked) (swift : Text) :
    let drifts := StatusSettings.default.driftsIn codes swift
    let swift' := StatusSettings.default.updateDocs codes swift
    let old := Declaration.ofSwift "[Deprecated]" swift
    let new := Declaration.ofSwift "[Deprecated]" swift'
    List.Forall₂ (Redeclares drifts) old new ∧
      withoutDocs ((updatedPairs drifts old new).map Prod.fst) 0 swift.lines =
        withoutDocs ((updatedPairs drifts old new).map Prod.snd) 0 swift'.lines := by
  intro drifts swift' old new
  have hpick : ∀ d c, redocCode? codes (RawValues.ofSwift swift) old d = some c → ∀ l,
      splitMarker "[Deprecated]" (joinDoc (docLines Style.default c l)) =
        (c.comment, c.deprecated) := by
    intro d c hc l
    have hmem : c ∈ codes := List.mem_of_find?_eq_some hc
    have hread := splitMarker_joinDoc (htrimmed c hmem) (hmark c hmem)
      fun _ hk => List.mem_takeWhile_imp (l := l) hk
    simpa only [docLines, List.append_assoc] using hread
  have hold : old = Piece.declarations "[Deprecated]" 0 (Piece.ofLines swift.lines) :=
    Piece.ofSwift_eq _ _
  have hnew := ofSwift_updateDocs hnodup hnewline swift
  constructor
  · have hdecls := Piece.forall₂_declarations_redoc hpick 0 0 (Piece.ofLines swift.lines)
    rw [← hold, ← hnew] at hdecls
    exact hdecls.imp fun d d' h => .of_resaid hnodup h.1 h.2
  · have hpairs : updatedPairs drifts old new = (old.zip new).filter fun p =>
        (redocCode? codes (RawValues.ofSwift swift) old p.1).isSome :=
      List.filter_congr fun p _ => Bool.eq_iff_iff.2 <| by
        rw [decide_eq_true_iff, mem_map_driftsIn_iff hnodup]
    have hlines := Piece.withoutDocs_redoc hpick 0 0 (Piece.ofLines swift.lines) rfl
    rw [← hold, ← hnew, ← hpairs, Piece.flatMap_lines_ofLines,
      ← lines_updateDocs hnodup hnewline] at hlines
    exact hlines

/-- The one declaration of a text gets the comment and the deprecation of its code. -/
theorem updateDocs_putGet_documented :
    let codes : List StatusCode := [⟨"OK", 22, "Well done.", true⟩]
    let drifts := StatusSettings.default.driftsIn codes documentedCode
    let swift' := StatusSettings.default.updateDocs codes documentedCode
    let old := Declaration.ofSwift "[Deprecated]" documentedCode
    let new := Declaration.ofSwift "[Deprecated]" swift'
    (codes.map (·.number)).Nodup ∧ (∀ c ∈ codes, Trimmed c.comment) ∧
      (∀ c ∈ codes, '\n' ∉ c.comment) ∧ (∀ c ∈ codes, c.Unmarked) ∧ drifts ≠ [] ∧
      List.Forall₂ (Redeclares drifts) old new ∧
      withoutDocs ((updatedPairs drifts old new).map Prod.fst) 0 documentedCode.lines =
        withoutDocs ((updatedPairs drifts old new).map Prod.snd) 0 swift'.lines :=
  ⟨by decide, by decide, by decide, by decide, by decide +kernel,
    updateDocs_putGet (by decide) (by decide) (by decide) (by decide) documentedCode⟩

end ProtoUpkeep
