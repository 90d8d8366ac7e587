import ProtoUpkeep.Proofs.Status.Codes

/-!
# Where the enum block opens

`EnumBlock.body?` tries one place of the proto file after the other, and at each place it tries
several numbers of blanks in front of the name. What it finds can be said without the order of the
trials: a beginning of the file that ends with the header of the enum and its brace, and the shortest
such beginning is the one that counts (`EnumBlock.FirstOpens`). The reason is that headers of one
name do not lie inside one another: one that starts earlier ends earlier, whatever the name is
(`EnumBlock.isSuffix_of_headers`). The body is then what stands up to the next closing brace
(`EnumBlock.body?_append`, `EnumBlock.body?_isSome_iff`), so it depends on nothing but the beginning
and the characters up to that brace.
-/

namespace ProtoUpkeep

open Text

variable {name head t u v i j : Text} {c : Char}

/-- What a cut at a character leaves in front of it. -/
theorem Text.map_cutAt_singleton (c : Char) (t : Text) : (cutAt [c] t).map (·.1) =
    if c ∈ t then some (t.takeWhile (· != c)) else none := by
  induction t with
  | nil => rfl
  | cons d t ih =>
    rw [cutAt_cons]
    by_cases hd : c = d
    · subst hd
      simp
    · have hstart : ¬ [c] <+: d :: t := fun h => hd (List.cons_prefix_cons.1 h).1
      rw [if_neg hstart, Option.map_map]
      have hmap : (cutAt [c] t).map ((·.1) ∘ fun p => (d :: p.1, p.2)) =
          ((cutAt [c] t).map (·.1)).map (d :: ·) := by
        rw [Option.map_map]
        rfl
      rw [hmap, ih]
      by_cases hc : c ∈ t <;> simp [hc, hd, Ne.symm hd]

/-- Blanks in front of a character that is none are the same in every way of writing a text. -/
theorem Text.eq_of_blanks_append {b b' : Text} (hb : ∀ c ∈ b, isBlank c = true)
    (hb' : ∀ c ∈ b', isBlank c = true) (hu : u.head?.any isBlank = false)
    (hv : v.head?.any isBlank = false) (h : b ++ u = b' ++ v) : u = v := by
  rw [← trimStart_append hb hu, h, trimStart_append hb' hv]

namespace EnumBlock

/-! ## Headers -/

/-- The header of the enum `name` with its opening brace. -/
def IsHeader (name t : Text) : Prop :=
  ∃ b b', b ≠ [] ∧ (∀ c ∈ b, isBlank c = true) ∧ (∀ c ∈ b', isBlank c = true) ∧
    t = "enum" ++ (b ++ (name ++ (b' ++ ['\x7b'])))

/-- Two headers that start at one place end at one place. -/
theorem eq_of_headers (ht : IsHeader name t) (hu : IsHeader name u) (h : t ++ i = u ++ j) :
    i = j := by
  obtain ⟨b₁, b₁', -, hb₁, hb₁', rfl⟩ := ht
  obtain ⟨b₂, b₂', -, hb₂, hb₂', rfl⟩ := hu
  simp only [List.append_assoc, List.append_cancel_left_eq] at h
  have hbrace : ∀ w : Text, (['\x7b'] ++ w).head?.any isBlank = false := fun w => by
    simp only [List.singleton_append, List.head?_cons, Option.any_some]
    decide
  obtain ⟨s, hs, hname, hhead⟩ := exists_trimStart name
  generalize hr : trimStart name = r at hname hhead
  rw [hname] at h
  -- The blanks that the name starts with may be shared with those in front of it in several ways,
  -- so both sides are compared from the first character on that is none.
  cases r with
  | nil =>
    have hall : ∀ {b b' : Text}, (∀ c ∈ b, isBlank c = true) → (∀ c ∈ b', isBlank c = true) →
        ∀ c ∈ b ++ (s ++ [] ++ b'), isBlank c = true := by
      intro b b' hb hb' c hc
      simp only [List.append_nil, List.mem_append] at hc
      rcases hc with hc | hc | hc
      · exact hb c hc
      · exact hs c hc
      · exact hb' c hc
    have := eq_of_blanks_append (hall hb₁ hb₁') (hall hb₂ hb₂') (hbrace i) (hbrace j)
      (by simpa only [List.append_assoc] using h)
    simpa using this
  | cons c r =>
    have hall : ∀ {b : Text}, (∀ c ∈ b, isBlank c = true) → ∀ c ∈ b ++ s, isBlank c = true := by
      intro b hb c hc
      exact (List.mem_append.1 hc).elim (hb c) (hs c)
    have hrest := eq_of_blanks_append (u := (c :: r) ++ (b₁' ++ (['\x7b'] ++ i)))
      (v := (c :: r) ++ (b₂' ++ (['\x7b'] ++ j))) (hall hb₁) (hall hb₂) (by simpa using hhead)
      (by simpa using hhead) (by simpa only [List.append_assoc] using h)
    have := eq_of_blanks_append hb₁' hb₂' (hbrace i) (hbrace j) (List.append_cancel_left hrest)
    simpa using this

/-- A later word `enum` lies behind the first word and the blanks after it. -/
theorem prefix_of_headers {b w : Text} (hb : ∀ c ∈ b, isBlank c = true) (hv : v ≠ [])
    (h : "enum".toList ++ (b ++ w) = v ++ ("enum".toList ++ u)) : "enum".toList ++ b <+: v := by
  have hpre : "enum".toList ++ b <+: v ++ ("enum".toList ++ u) := by
    rw [← h]
    exact ⟨w, by simp⟩
  rcases List.prefix_or_prefix_of_prefix hpre (List.prefix_append v _) with hin | ⟨r, hr⟩
  · exact hin
  cases r with
  | nil => exact ⟨[], by simpa using hr.symm⟩
  | cons d r =>
    -- The word would have its first letter behind the first letter of the first word, or among the
    -- blanks.
    obtain ⟨e, v, rfl⟩ := List.exists_cons_of_ne_nil hv
    have hd : d = 'e' := by
      rw [← hr, List.prefix_append_right_inj] at hpre
      exact (List.cons_prefix_cons.1 hpre).1
    have htail : v ++ d :: r = "num".toList ++ b := congrArg List.tail hr
    have hmem : 'e' ∈ "num".toList ++ b := by
      rw [← htail, hd]
      simp
    rcases List.mem_append.1 hmem with hmem | hmem
    · exact absurd hmem (by decide)
    · exact absurd (hb _ hmem) (by decide)

/-- What stands behind a brace that blanks precede starts no later than what stands behind a later
brace. -/
theorem isSuffix_of_braces {b w : Text} (hb : ∀ c ∈ b, isBlank c = true)
    (h : b ++ '\x7b' :: i = w ++ '\x7b' :: j) : j <:+ i := by
  rcases List.append_eq_append_iff.1 h with ⟨x, -, hx⟩ | ⟨x, hx, hx'⟩
  · cases x with
    | nil => exact (List.cons.inj hx).2 ▸ List.suffix_rfl
    | cons d x =>
      obtain ⟨-, rfl⟩ := List.cons.inj hx
      exact ⟨x ++ ['\x7b'], by simp⟩
  · cases x with
    | nil => exact (List.cons.inj hx').2 ▸ List.suffix_rfl
    | cons d x =>
      obtain ⟨rfl, -⟩ := List.cons.inj hx'
      exact absurd (hb '\x7b' (by rw [hx]; simp)) (by decide)

/-- Of two headers the one that starts earlier ends no later. -/
theorem isSuffix_of_headers (ht : IsHeader name t) (hu : IsHeader name u)
    (h : t ++ i = v ++ (u ++ j)) : j <:+ i := by
  by_cases hv : v = []
  · rw [hv, List.nil_append] at h
    rw [eq_of_headers ht hu h]
  obtain ⟨b₁, b₁', -, hb₁, hb₁', rfl⟩ := ht
  obtain ⟨b₂, b₂', -, -, -, rfl⟩ := hu
  simp only [List.append_assoc, List.singleton_append] at h
  obtain ⟨w, rfl⟩ := prefix_of_headers hb₁ hv h
  have hrest : name ++ (b₁' ++ '\x7b' :: i) =
      (w ++ ("enum" ++ (b₂ ++ (name ++ b₂')))) ++ '\x7b' :: j := by
    simpa only [List.append_assoc, List.append_cancel_left_eq] using h
  -- The second header alone is longer than the name, so it ends among the blanks or later.
  obtain ⟨w', hw'⟩ : name <+: w ++ ("enum" ++ (b₂ ++ (name ++ b₂'))) :=
    List.prefix_of_prefix_length_le (List.prefix_append name (b₁' ++ '\x7b' :: i))
      (hrest ▸ List.prefix_append _ _) (by simp only [List.length_append]; omega)
  rw [← hw', List.append_assoc, List.append_cancel_left_eq] at hrest
  exact isSuffix_of_braces hb₁' hrest

/-! ## The trials -/

/-- A result behind blanks is the result at some place behind at least one of them. -/
theorem exists_of_afterBlanks {α : Type} {p : Text → Option α} {a : α}
    (h : afterBlanks p t = some a) :
    ∃ b u, b ≠ [] ∧ (∀ c ∈ b, isBlank c = true) ∧ t = b ++ u ∧ p u = some a := by
  induction t with
  | nil => cases h
  | cons c t ih =>
    rw [afterBlanks] at h
    split at h
    · next hc =>
      have hone : ∀ d ∈ [c], isBlank d = true := by simpa using hc
      split at h
      · next heq =>
        cases h
        obtain ⟨b, u, -, hb, rfl, hu⟩ := ih heq
        exact ⟨c :: b, u, by simp, by simpa using ⟨hc, hb⟩, rfl, hu⟩
      · exact ⟨[c], t, by simp, hone, rfl, h⟩
    · cases h

/-- Where there is a result at some place behind blanks, one is found. -/
theorem isSome_afterBlanks {α : Type} {p : Text → Option α} {b : Text} (hne : b ≠ [])
    (hb : ∀ c ∈ b, isBlank c = true) (hu : (p u).isSome) : (afterBlanks p (b ++ u)).isSome := by
  induction b with
  | nil => exact absurd rfl hne
  | cons c b ih =>
    have hc : isBlank c = true := hb c (by simp)
    rw [List.cons_append, afterBlanks, if_pos hc]
    by_cases hnil : b = []
    · split
      · rfl
      · rwa [hnil, List.nil_append]
    · obtain ⟨a, ha⟩ := Option.isSome_iff_exists.1 (ih hnil fun d hd => hb d (by simp [hd]))
      rw [ha]
      rfl

/-- The block opens behind the name, blanks and a brace. -/
theorem openBlock?_eq_some_iff : openBlock? name t = some i ↔
    ∃ b', (∀ c ∈ b', isBlank c = true) ∧ t = name ++ (b' ++ '\x7b' :: i) := by
  simp only [openBlock?, Option.bind_eq_bind, Option.bind_eq_some_iff, dropHead?_eq_some_iff]
  constructor
  · rintro ⟨rest, rfl, hrest⟩
    obtain ⟨b', hb', hsplit, -⟩ := exists_trimStart rest
    exact ⟨b', hb', by rw [hsplit, hrest]; rfl⟩
  · rintro ⟨b', hb', rfl⟩
    refine ⟨_, rfl, trimStart_append hb' ?_⟩
    rw [List.head?_cons, Option.any_some]
    decide

/-- What stands behind the header at the start of a text, if one starts there. -/
def insideAt? (name t : Text) : Option Text :=
  (dropHead? "enum" t).bind (afterBlanks (openBlock? name))

/-- The body of a block is what stands behind its header up to a closing brace. -/
theorem bodyAt?_eq (name t : Text) :
    bodyAt? name t = (insideAt? name t).bind fun i => (cutAt ['\x7d'] i).map (·.1) := by
  rw [insideAt?, Option.bind_assoc]
  refine Option.bind_congr fun rest _ => Option.bind_congr fun i _ => ?_
  cases cutAt ['\x7d'] i <;> rfl

/-- The block opens at the start of a text exactly behind a header. -/
theorem insideAt?_eq_some_iff :
    insideAt? name t = some i ↔ ∃ u, IsHeader name u ∧ t = u ++ i := by
  rw [insideAt?]
  constructor
  · rw [Option.bind_eq_some_iff]
    rintro ⟨rest, hrest, hi⟩
    obtain ⟨b, u, hne, hb, rfl, hu⟩ := exists_of_afterBlanks hi
    obtain ⟨b', hb', rfl⟩ := openBlock?_eq_some_iff.1 hu
    exact ⟨_, ⟨b, b', hne, hb, hb', rfl⟩, by rw [dropHead?_eq_some_iff.1 hrest]; simp⟩
  · rintro ⟨u, hu, rfl⟩
    have hheader := hu
    obtain ⟨b, b', hne, hb, hb', rfl⟩ := hu
    have hopen : openBlock? name (name ++ (b' ++ '\x7b' :: i)) = some i :=
      openBlock?_eq_some_iff.2 ⟨b', hb', rfl⟩
    obtain ⟨j, hj⟩ := Option.isSome_iff_exists.1
      (isSome_afterBlanks (p := openBlock? name) hne hb (by rw [hopen]; rfl))
    -- Another number of blanks may be the one that is taken; the place behind the brace is the same.
    obtain ⟨b₂, u, hne₂, hb₂, heq, hu⟩ := exists_of_afterBlanks hj
    obtain ⟨b₂', hb₂', rfl⟩ := openBlock?_eq_some_iff.1 hu
    have hij : i = j := by
      refine eq_of_headers hheader ⟨b₂, b₂', hne₂, hb₂, hb₂', rfl⟩ ?_
      have hall := congrArg ("enum".toList ++ ·) heq
      simpa only [List.append_assoc, List.singleton_append] using hall
    have hshape : "enum".toList ++ (b ++ (name ++ (b' ++ ['\x7b']))) ++ i =
        "enum".toList ++ (b ++ (name ++ (b' ++ '\x7b' :: i))) := by simp
    rw [hshape, dropHead?_append, Option.bind_some, hj, hij]

/-- A body stands behind a header. -/
theorem exists_of_body? {body : Text} (h : body? name t = some body) : ∃ v u i, IsHeader name u ∧
    t = v ++ (u ++ i) ∧ (cutAt ['\x7d'] i).map (·.1) = some body := by
  induction t with
  | nil => cases h
  | cons c t ih =>
    rw [body?] at h
    split at h
    · next hat =>
      cases h
      rw [bodyAt?_eq, Option.bind_eq_some_iff] at hat
      obtain ⟨i, hi, hbody⟩ := hat
      obtain ⟨u, hu, ht⟩ := insideAt?_eq_some_iff.1 hi
      exact ⟨[], u, i, hu, ht, hbody⟩
    · obtain ⟨v, u, i, hu, rfl, hbody⟩ := ih h
      exact ⟨c :: v, u, i, hu, rfl, hbody⟩

/-! ## The first block -/

/-- The text ends with a header of the enum. -/
def Opens (name t : Text) : Prop := ∃ u, IsHeader name u ∧ u <:+ t

/-- The text ends with a header of the enum, and nothing shorter that it starts with does. -/
def FirstOpens (name t : Text) : Prop := Opens name t ∧ ∀ u, u <+: t → Opens name u → u = t

/-- A header of a name without braces opens for the first time with its own brace. -/
theorem IsHeader.firstOpens (h : IsHeader name t) (hname : '\x7b' ∉ name) : FirstOpens name t := by
  refine ⟨⟨t, h, List.suffix_rfl⟩, fun u hut hu => ?_⟩
  obtain ⟨_, ⟨b₂, b₂', -, -, -, rfl⟩, x, rfl⟩ := hu
  obtain ⟨b, b', -, hb, hb', rfl⟩ := h
  obtain ⟨r, hr⟩ := hut
  have hblank : ∀ {b : Text}, (∀ c ∈ b, isBlank c = true) → '\x7b' ∉ b := fun hb hmem =>
    absurd (hb _ hmem) (by decide)
  have hbefore : '\x7b' ∉ "enum".toList ++ (b ++ (name ++ b')) := by
    simp only [List.mem_append, not_or]
    exact ⟨by decide, hblank hb, hname, hblank hb'⟩
  rcases List.eq_nil_or_concat r with rfl | ⟨r, d, rfl⟩
  · rwa [List.append_nil] at hr
  · refine absurd ?_ hbefore
    have hcut : ("enum".toList ++ (b ++ (name ++ b'))) ++ ['\x7b'] =
        (x ++ ("enum".toList ++ (b₂ ++ (name ++ (b₂' ++ ['\x7b'])))) ++ r) ++ [d] := by
      simpa only [List.append_assoc, List.concat_eq_append] using hr.symm
    rw [(List.append_inj' hcut rfl).1]
    simp

/-- Every text that ends with a header starts with one that does for the first time. -/
theorem exists_firstOpens (h : Opens name t) : ∃ u, u <+: t ∧ FirstOpens name u := by
  induction hn : t.length using Nat.strong_induction_on generalizing t with
  | _ n ih =>
    by_cases hfirst : ∀ u, u <+: t → Opens name u → u = t
    · exact ⟨t, List.prefix_rfl, h, hfirst⟩
    · push Not at hfirst
      obtain ⟨u, hut, hu, hne⟩ := hfirst
      have hlen : u.length < n :=
        hn ▸ Nat.lt_of_le_of_ne hut.length_le fun heq => hne (hut.eq_of_length heq)
      obtain ⟨w, hw, hfirst⟩ := ih _ hlen hu rfl
      exact ⟨w, hw.trans hut, hfirst⟩

/-- The body at the first place of a text, or else the first one behind it. -/
theorem body?_cons (name : Text) (c : Char) (t : Text) :
    body? name (c :: t) = (bodyAt? name (c :: t)).or (body? name t) := by
  rw [body?]
  cases bodyAt? name (c :: t) <;> rfl

/-- Behind a header without a closing brace there is no body. -/
theorem body?_eq_none (hu : IsHeader name u) (h : u ++ i = c :: t) (hbrace : '\x7d' ∉ i) :
    body? name t = none := by
  rw [Option.eq_none_iff_forall_ne_some]
  intro body hbody
  obtain ⟨v, w, j, hw, rfl, hcut⟩ := exists_of_body? hbody
  have hj : '\x7d' ∈ j := by
    rw [map_cutAt_singleton] at hcut
    split at hcut
    · assumption
    · cases hcut
  exact hbrace ((isSuffix_of_headers (v := c :: v) hu hw h).subset hj)

/-- The body is what stands between the first header and the next closing brace. -/
theorem body?_append (h : FirstOpens name head) (i : Text) :
    body? name (head ++ i) =
      if '\x7d' ∈ i then some (i.takeWhile (· != '\x7d')) else none := by
  rw [← map_cutAt_singleton]
  obtain ⟨⟨u, hu, v, rfl⟩, hfirst⟩ := h
  have hbrace : (cutAt ['\x7d'] i).map (·.1) = none → '\x7d' ∉ i := by
    rw [map_cutAt_singleton]
    split <;> simp [*]
  rw [List.append_assoc]
  induction v with
  | nil =>
    rw [List.nil_append]
    obtain ⟨c, t, ht⟩ : ∃ c t, u ++ i = c :: t := by
      obtain ⟨b, b', -, -, -, rfl⟩ := hu
      exact ⟨_, _, rfl⟩
    rw [ht, body?_cons, ← ht, bodyAt?_eq, insideAt?_eq_some_iff.2 ⟨u, hu, rfl⟩, Option.bind_some]
    cases hbody : (cutAt ['\x7d'] i).map (·.1) with
    | some body => rfl
    | none => rw [Option.none_or, body?_eq_none hu ht (hbrace hbody)]
  | cons c v ih =>
    have htail : body? name (v ++ (u ++ i)) = (cutAt ['\x7d'] i).map (·.1) := by
      refine ih fun p hp hopens => ?_
      obtain ⟨w, hw, hwp⟩ := hopens
      have := hfirst (c :: p) (List.cons_prefix_cons.2 ⟨rfl, hp⟩)
        ⟨w, hw, hwp.trans (List.suffix_cons c p)⟩
      exact (List.cons.inj this).2
    rw [List.cons_append, body?_cons, bodyAt?_eq, htail]
    cases hinside : insideAt? name (c :: (v ++ (u ++ i))) with
    | none => rfl
    | some j =>
      -- A header that starts here ends no later, and as none is before the first one it ends there.
      obtain ⟨w, hw, heq⟩ := insideAt?_eq_some_iff.1 hinside
      obtain ⟨x, rfl⟩ := isSuffix_of_headers (v := c :: v) hw hu heq.symm
      have hwx : w ++ x = c :: v ++ u := by
        have hends : w ++ x ++ i = c :: v ++ u ++ i := by
          simpa only [List.append_assoc, List.cons_append] using heq.symm
        exact List.append_cancel_right hends
      have hwhole := hfirst w ⟨x, hwx⟩ ⟨w, hw, List.suffix_rfl⟩
      rw [hwhole, List.append_right_eq_self] at hwx
      rw [hwx, List.nil_append, Option.bind_some]
      cases (cutAt ['\x7d'] i).map (·.1) <;> rfl

/-- A proto file has a body exactly if a closing brace stands behind a first header. -/
theorem body?_isSome_iff : (body? name t).isSome ↔
    ∃ head i, t = head ++ i ∧ FirstOpens name head ∧ '\x7d' ∈ i := by
  constructor
  · intro h
    obtain ⟨body, hbody⟩ := Option.isSome_iff_exists.1 h
    obtain ⟨v, u, i, hu, ht, hcut⟩ := exists_of_body? hbody
    obtain ⟨head, ⟨w, hw⟩, hfirst⟩ := exists_firstOpens ⟨u, hu, v, rfl⟩
    have hshape : t = head ++ (w ++ i) := by rw [← List.append_assoc, hw, List.append_assoc, ht]
    refine ⟨head, w ++ i, hshape, hfirst, ?_⟩
    by_contra hbrace
    rw [hshape, body?_append hfirst, if_neg hbrace] at hbody
    cases hbody
  · rintro ⟨head, i, rfl, hfirst, hbrace⟩
    rw [body?_append hfirst, if_pos hbrace]
    rfl

end EnumBlock

end ProtoUpkeep
