import ProtoUpkeep.Proofs.Status.NewDeclarations
import ProtoUpkeep.Proofs.Status.OtherLines
import ProtoUpkeep.Proofs.Text.Weave

/-!
# Entries disturb no search

The fragment of a section, with the line feed that is inserted behind it, is made of one entry for
each code (`fragments_append_newline`). An entry disturbs no later search for a landmark
(`inert_entry`): a landmark on one line has an opening parenthesis, which only the comment of an
entry can have, a landmark on several lines has more than an empty line behind its first one, and no
landmark starts in front of an entry, because the entry's first characters fit none of its ends.
-/

namespace ProtoUpkeep

open Text

variable {codes : List StatusCode} {c : StatusCode} {sec : Section} {head l t : Text} {d : Char}

/-- A code whose entries disturb no search for a landmark: its name and its comment stand on one
line, and neither brings in a landmark of a switch. -/
structure StatusCode.Insertable (c : StatusCode) : Prop where
  /-- The name has no opening parenthesis. -/
  parenthesis : '(' ∉ c.name
  /-- The name stands on one line. -/
  nameLine : '\n' ∉ c.name
  /-- The comment is trimmed. -/
  trimmed : Trimmed c.comment
  /-- The comment stands on one line. -/
  commentLine : '\n' ∉ c.comment
  /-- The comment holds no landmark of a switch. -/
  free : SwitchFree c.comment

instance : DecidablePred StatusCode.Insertable := fun c =>
  decidable_of_iff ('(' ∉ c.name ∧ '\n' ∉ c.name ∧ Trimmed c.comment ∧ '\n' ∉ c.comment ∧
      SwitchFree c.comment)
    ⟨fun ⟨h₁, h₂, h₃, h₄, h₅⟩ => ⟨h₁, h₂, h₃, h₄, h₅⟩,
      fun ⟨h₁, h₂, h₃, h₄, h₅⟩ => ⟨h₁, h₂, h₃, h₄, h₅⟩⟩

/-- What the fragment of a section holds for a code, with the line feeds behind it. -/
def Style.entry (s : Style) : Section → StatusCode → Text
  | .caseDeclarations, c => s.caseDeclaration c ++ ['\n', '\n']
  | .initCases, c => s.initCase c ++ ['\n']
  | .rawValueCases, c => s.rawValueCase c ++ ['\n']
  | .allCases, c => s.allCasesEntry c ++ ['\n']
  | .nameMap, c => Style.nameMapEntry c ++ ['\n']

/-- Joined texts with one more separator behind them. -/
theorem Text.joinWith_append_sep (sep : Text) {ts : List Text} (hne : ts ≠ []) :
    joinWith sep ts ++ sep = ts.flatMap (· ++ sep) := by
  induction ts with
  | nil => exact absurd rfl hne
  | cons t ts ih =>
    cases ts with
    | nil => simp [joinWith]
    | cons u ts =>
      rw [List.flatMap_cons, ← ih (by simp)]
      simp [joinWith, List.intercalate_cons_cons]

/-- A fragment with the line feed that is inserted behind it is made of the entries of the codes. -/
theorem fragments_append_newline (s : Style) (hne : codes ≠ []) (sec : Section) :
    (s.fragments codes).get sec ++ ['\n'] = codes.flatMap (s.entry sec) := by
  have hjoin : ∀ (sep : Text) (f : StatusCode → Text),
      joinWith sep (codes.map f) ++ sep = codes.flatMap fun c => f c ++ sep := fun sep f => by
    rw [joinWith_append_sep sep (by simpa using hne), List.flatMap_map]
  cases sec with
  | caseDeclarations =>
    refine Eq.trans ?_ (hjoin "\n\n" s.caseDeclaration)
    simp [PerSection.get, Style.fragments]
  | initCases => exact hjoin ['\n'] s.initCase
  | rawValueCases => exact hjoin ['\n'] s.rawValueCase
  | allCases => exact hjoin ['\n'] s.allCasesEntry
  | nameMap => exact hjoin ['\n'] Style.nameMapEntry

/-! ## Lines that disturb no search -/

/-- Every landmark holds some text. -/
theorem landmark_ne_nil (sec : Section) : sec.landmark ≠ [] := by
  cases sec <;> decide

/-- A landmark is one line with an opening parenthesis, or it has more than line feeds behind its
first line. -/
theorem landmark_lines (sec : Section) :
    (sec.IsSwitch ∧ '\n' ∉ sec.landmark ∧ '(' ∈ sec.landmark) ∨
      ∃ a b, sec.landmark = a ++ '\n' :: b ∧ ∃ d ∈ b, d ≠ '\n' := by
  cases sec with
  | caseDeclarations => exact .inr ⟨_, _, landmark_caseDeclarations, 'c', by decide, by decide⟩
  | initCases => exact .inl (by decide)
  | rawValueCases => exact .inl (by decide)
  | allCases =>
    exact .inr ⟨"    ]".toList, "\x7d\n\n// minimal edit from proto-generated file:".toList, rfl,
      '\x7d', by decide, by decide⟩
  | nameMap =>
    exact .inr ⟨"        ]".toList, "\x7d\n\nextension Status: Sendable".toList, rfl, '\x7d',
      by decide, by decide⟩

/-- A text without an opening parenthesis holds no landmark of a switch. -/
theorem switchFree_of_not_mem (h : '(' ∉ t) : SwitchFree t := fun sec hsec hin => by
  have hparen : '(' ∈ sec.landmark := by rcases hsec with rfl | rfl <;> decide
  exact h (hin.subset hparen)

/-- What goes on behind the first line with more than line feeds does not occur in a line with line
feeds behind it. -/
theorem Text.not_infix_append_replicate {a b : Text} (hl : '\n' ∉ l) (hd : d ∈ b) (hne : d ≠ '\n')
    (k : Nat) : ¬ a ++ '\n' :: b <:+: l ++ List.replicate k '\n' := by
  rintro ⟨x, y, heq⟩
  have hshape : x ++ (a ++ '\n' :: b) ++ y = (x ++ a) ++ '\n' :: (b ++ y) := by simp
  rw [hshape] at heq
  rcases List.append_eq_append_iff.1 heq with ⟨w, hw, hfeeds⟩ | ⟨w, -, hfeeds⟩
  · cases w with
    | nil =>
      have hmem : d ∈ List.replicate k '\n' := by
        rw [← List.nil_append (List.replicate k '\n'), ← hfeeds]
        simp [hd]
      exact hne (List.eq_of_mem_replicate hmem)
    | cons e w =>
      obtain rfl := (List.cons.inj hfeeds).1
      exact hl (by simp [hw])
  · have hmem : d ∈ List.replicate k '\n' := by
      rw [hfeeds]
      simp [hd]
    exact hne (List.eq_of_mem_replicate hmem)

/-- A line with line feeds behind it disturbs no search if it holds no landmark of a switch and no
landmark starts in front of it and goes on into it. -/
theorem inert_line (hl : '\n' ∉ l) (hfree : SwitchFree l)
    (hcross : ∀ (sec : Section) u v, ¬ Crosses sec.landmark u (l ++ v)) (k : Nat) :
    Inert Section.landmark (l ++ List.replicate (k + 1) '\n') := by
  refine fun sec => ⟨?_, fun _ u v => ?_⟩
  · rcases landmark_lines sec with ⟨hswitch, hline, hparen⟩ | ⟨a, b, heq, d, hd, hne⟩
    · rw [List.replicate_succ, infix_append_cons_of_not_mem hline, not_or]
      refine ⟨hfree sec hswitch, fun hin => ?_⟩
      exact absurd (List.eq_of_mem_replicate (hin.subset hparen)) (by decide)
    · rw [heq]
      exact not_infix_append_replicate hl hd hne (k + 1)
  · rw [List.append_assoc]
    exact hcross sec u _

/-! ## The lines of entries -/

/-- The name of a code, its identifier and its number have neither an opening parenthesis nor a line
feed. -/
theorem StatusCode.Insertable.not_mem (h : c.Insertable) (hd : d = '(' ∨ d = '\n') :
    d ∉ c.name ∧ d ∉ Style.default.name c ∧ d ∉ Text.ofInt c.number := by
  have hname : d ∉ c.name := by
    rcases hd with rfl | rfl
    · exact h.parenthesis
    · exact h.nameLine
  have hchar : ¬ IsNameChar d ∧ d ≠ '-' := by rcases hd with rfl | rfl <;> decide
  refine ⟨hname, fun hmem => ?_, fun hmem => ?_⟩
  · exact (mem_name_or_isNameChar d hmem).elim hname hchar.1
  · exact (isDigit_of_mem_ofInt hmem).elim
      (fun hdigit => hchar.1 (isNameChar_of_isWord (isWord_of_isDigit hdigit))) hchar.2

/-- No landmark starts in front of eight blanks and goes on into them. -/
theorem landmark_apart_indent (sec : Section) : Apart sec.landmark "        ".toList := by
  cases sec <;> decide +kernel

/-- An entry beside a declaration is one line, which starts with eight blanks and has no opening
parenthesis. -/
theorem entry_eq_line (h : c.Insertable) (hsec : sec ≠ .caseDeclarations) : ∃ l,
    Style.default.entry sec c = l ++ ['\n'] ∧ "        ".toList <+: l ∧
      ∀ d, d = '(' ∨ d = '\n' → d ∉ l := by
  have hparts := fun d => h.not_mem (d := d)
  have hindent : ∀ {w : Text} (t : Text), "        ".toList <+: w → "        ".toList <+: w ++ t :=
    fun t hw => hw.trans (List.prefix_append _ t)
  cases sec with
  | caseDeclarations => exact absurd rfl hsec
  | initCases =>
    refine ⟨Style.default.initCase c, rfl, ?_, fun d hd => ?_⟩ <;> unfold Style.initCase
    · exact hindent _ (hindent _ (hindent _ (by decide)))
    · obtain ⟨-, hname, hnumber⟩ := hparts d hd
      rcases hd with rfl | rfl <;> simp [hname, hnumber]
  | rawValueCases =>
    refine ⟨Style.default.rawValueCase c, rfl, ?_, fun d hd => ?_⟩ <;> unfold Style.rawValueCase
    · exact hindent _ (hindent _ (hindent _ (by decide)))
    · obtain ⟨-, hname, hnumber⟩ := hparts d hd
      rcases hd with rfl | rfl <;> simp [hname, hnumber]
  | allCases =>
    refine ⟨Style.default.allCasesEntry c, rfl, ?_, fun d hd => ?_⟩ <;> unfold Style.allCasesEntry
    · exact hindent _ (hindent _ (by decide))
    · obtain ⟨-, hname, -⟩ := hparts d hd
      rcases hd with rfl | rfl <;> simp [hname]
  | nameMap =>
    refine ⟨Style.nameMapEntry c, rfl, ?_, fun d hd => ?_⟩ <;> unfold Style.nameMapEntry
    · exact hindent _ (hindent _ (hindent _ (hindent _ (by decide))))
    · obtain ⟨hname, -, hnumber⟩ := hparts d hd
      rcases hd with rfl | rfl <;> simp [hname, hnumber]

/-- The doc comment line of a declaration disturbs no search. -/
theorem inert_docLine (h : c.Insertable) : Inert Section.landmark (Style.default.docLine c) := by
  unfold Style.docLine
  cases hdoc : Style.default.docComment? c.comment c.deprecated with
  | none => exact inert_nil landmark_ne_nil
  | some doc =>
    have hline : '\n' ∉ doc := newline_not_mem_docComment? (by decide) h.commentLine hdoc
    have hfree : SwitchFree ("    ".toList ++ ("/// ".toList ++ doc)) :=
      switchFree_docLine h.trimmed h.free (List.all_iff_forall_prop.1 rfl) hdoc
    have hcross : ∀ (sec : Section) u v,
        ¬ Crosses sec.landmark u ("    ".toList ++ ("/// ".toList ++ doc) ++ v) := by
      intro sec u v
      have hapart : Apart sec.landmark "    /// ".toList := by cases sec <;> decide +kernel
      have hshape : "    ".toList ++ ("/// ".toList ++ doc) ++ v =
          "    /// ".toList ++ (doc ++ v) := by simp
      rw [hshape]
      exact hapart.not_crosses
    simpa using inert_line (by simpa using hline) hfree hcross 0

/-- The ends of landmarks that agree with the start of a declaration line go on with an opening
parenthesis, and not with an equals sign. -/
theorem landmark_ends (sec : Section) : ∀ y ∈ sec.landmark.tail.tails,
    y = [] ∨ (¬ y <+: "    case ".toList ∧ ¬ "    case ".toList <+: y) ∨ ('(' ∈ y ∧ '=' ∉ y) := by
  cases sec <;> decide +kernel

/-- The line of a declaration disturbs no search, with an empty line behind it. -/
theorem inert_caseLine (h : c.Insertable) :
    Inert Section.landmark (Style.default.caseLine c ++ ['\n', '\n']) := by
  have hparts : ∀ d, d = '(' ∨ d = '\n' → d ∉ Style.default.caseLine c := fun d hd => by
    obtain ⟨-, hname, hnumber⟩ := h.not_mem hd
    unfold Style.caseLine
    rcases hd with rfl | rfl <;> simp [hname, hnumber]
  have hequals : '=' ∈ Style.default.caseLine c := by
    unfold Style.caseLine
    simp
  refine inert_line (hparts _ (.inr rfl)) (switchFree_of_not_mem (hparts _ (.inl rfl))) ?_ 1
  rintro sec u v ⟨x, y, hx, hy, heq, -, hv⟩
  have hhead : "    case ".toList <+: Style.default.caseLine c ++ v := by
    unfold Style.caseLine
    rw [List.append_assoc]
    exact List.prefix_append ..
  have htail : y ∈ sec.landmark.tail.tails := by
    obtain ⟨d, x, rfl⟩ := List.exists_cons_of_ne_nil hx
    rw [heq, List.mem_tails]
    exact List.suffix_append x y
  rcases landmark_ends sec y htail with hnil | ⟨h₁, h₂⟩ | ⟨hparen, hno⟩
  · exact hy hnil
  · exact (List.prefix_or_prefix_of_prefix hv hhead).elim h₁ h₂
  · rcases List.prefix_or_prefix_of_prefix hv (List.prefix_append _ v) with hp | hp
    · exact hparts _ (.inl rfl) (hp.subset hparen)
    · exact hno (hp.subset hequals)

/-- An entry disturbs no search for a landmark. -/
theorem inert_entry (h : c.Insertable) (sec : Section) :
    Inert Section.landmark (Style.default.entry sec c) := by
  by_cases hsec : sec = .caseDeclarations
  · subst hsec
    rw [Style.entry, caseDeclaration_eq, List.append_assoc]
    exact (inert_docLine h).append (inert_caseLine h)
  · obtain ⟨l, heq, ⟨rest, rfl⟩, hparts⟩ := entry_eq_line h hsec
    rw [heq]
    refine inert_line (hparts _ (.inr rfl)) (switchFree_of_not_mem (hparts _ (.inl rfl)))
      (fun sec' u v => ?_) 0
    rw [List.append_assoc]
    exact (landmark_apart_indent sec').not_crosses

/-- A fragment with the line feed behind it disturbs no search for a landmark. -/
theorem inert_fragment (h : ∀ c ∈ codes, c.Insertable) (hne : codes ≠ []) (sec : Section) :
    Inert Section.landmark ((Style.default.fragments codes).get sec ++ ['\n']) := by
  rw [fragments_append_newline _ hne]
  exact inert_flatMap landmark_ne_nil fun c hc => inert_entry (h c hc) sec

end ProtoUpkeep
