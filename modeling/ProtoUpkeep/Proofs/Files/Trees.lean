import ProtoUpkeep.Proofs.Files.EntryAt
import ProtoUpkeep.Proofs.Files.Joins

/-!
# The tree below a directory

On the disks that programs meet every entry is in a directory and has a name (`Disk.Sound`). Where no
links and no backslashes are below a directory (`Disk.PlainBelow`) a path to an entry is put together
from the path to the directory and the names on the way (`Path.below`), and such a path leads to the
entry unless it is too long (`Disk.lookup_below`). The names in a directory are listed in ascending
order (`Disk.pairwise_children`).
-/

namespace ProtoUpkeep

open RawPath (ofText EndsIn)

/-! ## Names -/

namespace Disk

/-- A name as directories have them. -/
structure IsEntryName (c : Text) : Prop extends IsName c where
  /-- It is not empty. -/
  ne_nil : c ≠ []
  /-- It is one component. -/
  slash_not_mem : '/' ∉ c

/-- A name that is the same whichever slashes a path is written with. -/
structure IsPlainName (c : Text) : Prop extends IsEntryName c where
  /-- It holds no backslash. -/
  backslash_not_mem : '\\' ∉ c

/-- A plain name is a component that can be joined to a path. -/
theorem IsPlainName.isSegment {c : Text} (h : IsPlainName c) : Path.IsSegment c :=
  ⟨h.ne_nil, h.ne_dot, h.slash_not_mem, h.backslash_not_mem⟩

end Disk

open Disk

variable {d : Disk} {root : Path} {base rel p : Place} {name : Text} {names : List Text} {e : Entry}
  {links : Nat} {follow : Bool} {q : Place}

/-! ## Paths below a path -/

namespace Path

/-- The path that goes on from a path through names. -/
def below (root : Path) (rel : Place) : Path := rel.foldl Path.join root

@[simp] theorem below_nil (root : Path) : root.below [] = root := rfl

theorem below_concat (root : Path) (rel : Place) (name : Text) :
    root.below (rel ++ [name]) = (root.below rel).join name := by simp [below]

/-- A name is put behind a path, and a slash between them if there is none. -/
theorem text_join (h : IsPlainName name) (root : Path) : (root.join name).text =
    match root.text.getLast? with
    | none | some '/' => root.text ++ name
    | some _ => root.text ++ '/' :: name := by
  have hname := h.isSegment
  by_cases hp : root.text = []
  · rw [join_of_replaces (.inr hp), hname.forward_eq, hp]
    rfl
  · rw [join_of_isStep hp (hname.forward_eq.symm ▸ hname.isStep), hname.forward_eq]
    split
    · next hlast => exact absurd (List.getLast?_eq_none_iff.1 hlast) hp
    · next hlast => rw [gap, if_pos hlast, List.append_nil]
    · next c hc hlast =>
      rw [gap, if_neg (by simpa [hlast] using hc), List.append_assoc, List.singleton_append]

/-- A path below another one ends in the last name. -/
theorem endsIn_join (h : IsPlainName name) (root : Path) :
    EndsIn (root.join name).text (RawPath.ofText root.text).components name := by
  rw [text_join h]
  exact RawPath.endsIn_below h.slash_not_mem h.ne_nil root.text

/-- The last component of a path that ends in a name is the name. -/
theorem fileName?_of_endsIn {path : Path} {before : List Text} (h : EndsIn path.text before name) :
    path.fileName? = some name := by
  obtain ⟨us, hpieces, -, hne⟩ := h.exists_pieces
  have hslash : '/' ∉ name := Text.not_mem_of_mem_pieces (t := path.text) (by simp [hpieces])
  obtain ⟨u, htext, hu⟩ : ∃ u, path.text = u ++ name ∧ u.getLast?.all (· = '/') = true := by
    rw [← Text.joinWith_pieces '/' path.text, hpieces]
    by_cases hus : us = []
    · exact ⟨[], by rw [hus, List.nil_append, Text.joinWith_singleton]; rfl, rfl⟩
    · exact ⟨Text.joinWith ['/'] us ++ ['/'], by
        rw [Text.joinWith_append hus (by simp), Text.joinWith_singleton, List.append_assoc], by simp⟩
  obtain ⟨text⟩ := path
  obtain rfl : text = u ++ name := htext
  exact fileName?_append hslash hne hu

/-- The last component of a path below another one is the name. -/
theorem fileName?_join (h : IsPlainName name) (root : Path) :
    (root.join name).fileName? = some name := fileName?_of_endsIn (endsIn_join h root)

/-- The extension of a path below another one is that of the name. -/
theorem extension?_join (h : IsPlainName name) (root : Path) :
    (root.join name).extension? = nameExtension? name := by
  rw [extension?, fileName?_join h, Option.bind_some]

/-- A path below another one starts where that one does. -/
theorem absolute_join (h : IsPlainName name) (hne : root.text ≠ []) :
    (RawPath.ofText (root.join name).text).absolute = (RawPath.ofText root.text).absolute := by
  rw [text_join h]
  split <;> exact RawPath.absolute_append hne _

/-- A path below another one is longer. -/
theorem byteCount_join (h : IsPlainName name) (root : Path) :
    byteCount root.text < byteCount (root.join name).text := by
  have hpos := byteCount_pos h.ne_nil
  have hslash : byteCount (root.text ++ '/' :: name) = byteCount root.text + byteCount ('/' :: name) :=
    byteCount_append _ _
  have hcons : byteCount ('/' :: name) = 1 + byteCount name := byteCount_append ['/'] name
  rw [text_join h]
  split
  · rw [byteCount_append]
    omega
  · rw [byteCount_append]
    omega
  · omega

/-- A path below a path is one. -/
theorem below_ne_nil (hnames : ∀ c ∈ rel, IsPlainName c) (hne : root.text ≠ []) :
    (root.below rel).text ≠ [] := by
  obtain rfl | ⟨before, name, rfl⟩ := List.eq_nil_or_concat' rel
  · exact hne
  · rw [below_concat, text_join (hnames name (by simp))]
    split <;> simp [(hnames name (by simp)).ne_nil]

/-- The components of a path below another one are those of that one and the names. -/
theorem components_below (hnames : ∀ c ∈ rel, IsPlainName c) :
    (RawPath.ofText (root.below rel).text).components = (RawPath.ofText root.text).components ++ rel := by
  induction rel using List.reverseRecOn with
  | nil => simp
  | append_singleton rel name ih =>
    rw [below_concat, (endsIn_join (hnames name (by simp)) _).components,
      ih fun c hc => hnames c (by simp [hc]), List.append_assoc]

/-- A path below another one starts where that one does. -/
theorem absolute_below (hnames : ∀ c ∈ rel, IsPlainName c) (hne : root.text ≠ []) :
    (RawPath.ofText (root.below rel).text).absolute = (RawPath.ofText root.text).absolute := by
  induction rel using List.reverseRecOn with
  | nil => rfl
  | append_singleton rel name ih =>
    have hrel : ∀ c ∈ rel, IsPlainName c := fun c hc => hnames c (by simp [hc])
    rw [below_concat, absolute_join (hnames name (by simp)) (below_ne_nil hrel hne), ih hrel]

end Path

namespace Disk

/-! ## Sound disks -/

/-- A disk as file systems have them. -/
structure Sound (d : Disk) : Prop where
  /-- Every entry is in a directory. -/
  parent : ∀ {dir : Place} {name : Text} {e : Entry}, d.get? (dir ++ [name]) = some e →
    d.get? dir = some .directory
  /-- It has a name there. -/
  isEntryName : ∀ {dir : Place} {name : Text} {e : Entry}, d.get? (dir ++ [name]) = some e →
    IsEntryName name
  /-- The process works in a directory. -/
  workingDirectory : d.get? d.workingDirectory = some .directory

/-- There are only files and directories below a place, and no backslash is in their names. -/
structure PlainBelow (d : Disk) (base : Place) : Prop where
  /-- There are no links. -/
  ne_link : ∀ {rel : Place} {target : Text}, d.get? (base ++ rel) ≠ some (.link target)
  /-- There are no backslashes. -/
  backslash_not_mem : ∀ {rel : Place} {name : Text} {e : Entry},
    d.get? (base ++ rel ++ [name]) = some e → '\\' ∉ name

/-- There are no links below a place. -/
def NoLinksBelow (d : Disk) (base : Place) : Prop :=
  ∀ (rel : Place) (target : Text), d.get? (base ++ rel) ≠ some (.link target)

/-- There are no links below a plain place. -/
theorem PlainBelow.noLinksBelow (hplain : PlainBelow d base) : NoLinksBelow d base :=
  fun _ _ => hplain.ne_link

/-- There are no links on a disk that is plain. -/
theorem PlainBelow.forall_ne_link (hplain : PlainBelow d []) (q : Place) (target : Text) :
    d.get? q ≠ some (.link target) := by
  rw [← List.nil_append q]
  exact hplain.ne_link

/-- Below a plain place every place is plain. -/
theorem PlainBelow.below (hplain : PlainBelow d base) (rel : Place) : PlainBelow d (base ++ rel) where
  ne_link := by
    intro rel' target
    rw [List.append_assoc]
    exact hplain.ne_link
  backslash_not_mem := by
    intro rel' name e hget
    rw [List.append_assoc base] at hget
    exact hplain.backslash_not_mem hget

/-- An entry is put in a directory. Where a directory stands one is put. -/
theorem Sound.put {dir : Place} (hd : Sound d) (hdir : d.get? dir = some .directory)
    (hname : IsEntryName name)
    (hkeep : d.get? (dir ++ [name]) = some .directory → e = .directory) :
    Sound (d.put (dir ++ [name]) e) := by
  have hdirectory : ∀ {q : Place}, d.get? q = some .directory →
      (d.put (dir ++ [name]) e).get? q = some .directory := by
    intro q hget
    rw [get?_put (by simp)]
    split
    · next hq => rw [hkeep (hq ▸ hget)]
    · exact hget
  refine ⟨fun {dir' name' e'} hget => hdirectory ?_, fun {dir' name' e'} hget => ?_,
    hdirectory hd.workingDirectory⟩
  all_goals
    rw [get?_put (by simp)] at hget
    split at hget
    · next hq =>
      obtain ⟨rfl, hlast⟩ := List.append_inj' hq rfl
      obtain rfl := (List.cons.inj hlast).1
      first | exact hdir | exact hname
    · first | exact hd.parent hget | exact hd.isEntryName hget

/-- An entry that is no link, under a name without backslashes, keeps a tree plain. -/
theorem PlainBelow.put {dir : Place} (hplain : PlainBelow d base)
    (he : ∀ target, e ≠ .link target) (hname : '\\' ∉ name) :
    PlainBelow (d.put (dir ++ [name]) e) base := by
  constructor
  · intro rel target hget
    rw [get?_put (by simp)] at hget
    split at hget
    · exact he target (Option.some.inj hget)
    · exact hplain.ne_link hget
  · intro rel name' e' hget
    rw [get?_put (by simp)] at hget
    split at hget
    · next hq =>
      obtain rfl := (List.cons.inj (List.append_inj' hq rfl).2).1
      exact hname
    · exact hplain.backslash_not_mem hget

/-- What is above an entry is a directory. -/
theorem Sound.directory (hd : Sound d) (hne : rel ≠ []) (hget : d.get? (p ++ rel) = some e) :
    d.get? p = some .directory := by
  induction rel using List.reverseRecOn generalizing e with
  | nil => exact absurd rfl hne
  | append_singleton rel name ih =>
    rw [← List.append_assoc] at hget
    have hparent := hd.parent hget
    by_cases hnil : rel = []
    · rwa [hnil, List.append_nil] at hparent
    · exact ih hnil hparent

/-- The names on the way to an entry are plain. -/
theorem Sound.isPlainName (hd : Sound d) (hplain : PlainBelow d base)
    (hget : d.get? (base ++ rel) = some e) : ∀ c ∈ rel, IsPlainName c := by
  induction rel using List.reverseRecOn generalizing e with
  | nil => simp
  | append_singleton rel name ih =>
    rw [← List.append_assoc] at hget
    intro c hc
    rcases List.mem_append.1 hc with hc | hc
    · exact ih (hd.parent hget) c hc
    · rw [List.mem_singleton.1 hc]
      exact ⟨hd.isEntryName hget, hplain.backslash_not_mem hget⟩

/-! ## Ways below a directory -/

/-- Names lead down to a directory. -/
theorem Sound.descends_below (hd : Sound d) (hnames : ∀ c ∈ rel, IsName c)
    (hdir : rel = [] ∨ d.get? (base ++ rel) = some .directory) :
    Descends d links base rel (base ++ rel) links := by
  induction rel using List.reverseRecOn with
  | nil =>
    rw [List.append_nil]
    exact .nil
  | append_singleton rel name ih =>
    have hget := hdir.resolve_left (by simp)
    rw [← List.append_assoc] at hget ⊢
    exact (ih (fun c hc => hnames c (by simp [hc])) (.inr (hd.parent hget))).append
      (.directory (hnames name (by simp)) hget .nil)

/-- A way from a directory leads to a directory. -/
theorem Descends.get?_last {dir last : Place} {xs : List Text} {left : Nat} (hd : Sound d)
    (h : Descends d links dir xs last left) (hdir : d.get? dir = some .directory) :
    d.get? last = some .directory := by
  induction h with
  | nil => exact hdir
  | dot _ ih => exact ih hdir
  | @dotDot _ _ dir _ _ _ ih =>
    refine ih ?_
    obtain rfl | ⟨above, name, rfl⟩ := List.eq_nil_or_concat' dir
    · rfl
    · rw [List.dropLast_concat]
      exact hd.parent hdir
  | directory _ hget _ ih => exact ih hget
  | link _ hget _ ih =>
    refine ih ?_
    rw [linkStart]
    split
    · rfl
    · exact hdir

/-- Where a path leads to a directory there is one. -/
theorem Sound.directory_of_lookup {path : Text} (hd : Sound d)
    (h : d.lookup true path = .ok (.found q .directory)) : d.get? q = some .directory := by
  obtain ⟨left, hdesc⟩ := exists_descends_of_lookup h
  refine hdesc.get?_last hd ?_
  rw [start]
  split
  · rfl
  · exact hd.workingDirectory

/-- A path below a directory names an entry there, if it is short enough. -/
theorem exists_entryAt_below (hd : Sound d)
    (hroot : d.lookup true root.text = .ok (.found base .directory))
    (hnames : ∀ c ∈ rel ++ [name], IsPlainName c)
    (hdir : rel = [] ∨ d.get? (base ++ rel) = some .directory)
    (hchecked : checkPath (root.below (rel ++ [name])).text = .ok ()) :
    ∃ left, EntryAt d (root.below (rel ++ [name])).text (base ++ rel) name left := by
  obtain ⟨left, hdesc⟩ := exists_descends_of_lookup hroot
  have hrel : ∀ c ∈ rel, IsPlainName c := fun c hc => hnames c (by simp [hc])
  have hname : IsPlainName name := hnames name (by simp)
  have hne : root.text ≠ [] := (checkPath_eq_ok_iff.1 (checkPath_of_lookup hroot)).2.1
  have hends := Path.endsIn_join hname (root.below rel)
  have hstart : d.start (ofText (root.below (rel ++ [name])).text) = d.start (ofText root.text) :=
    start_congr (Path.absolute_below hnames hne)
  rw [Path.components_below hrel, ← Path.below_concat] at hends
  exact ⟨left, hchecked, ⟨_, hends, hstart ▸ hdesc.append
    (hd.descends_below (fun c hc => (hrel c hc).toIsName) hdir)⟩, hname.toIsName⟩

/-- A path below a directory leads to the entry there, if it is short enough. -/
theorem lookup_below (hd : Sound d) (hplain : PlainBelow d base)
    (hroot : d.lookup true root.text = .ok (.found base .directory)) (hne : rel ≠ [])
    (hget : d.get? (base ++ rel) = some e)
    (hchecked : checkPath (root.below rel).text = .ok ()) :
    d.lookup follow (root.below rel).text = .ok (.found (base ++ rel) e) := by
  obtain rfl | ⟨rel, name, rfl⟩ := List.eq_nil_or_concat' rel
  · exact absurd rfl hne
  have hnames := hd.isPlainName hplain hget
  rw [← List.append_assoc] at hget ⊢
  obtain ⟨left, hentry⟩ := exists_entryAt_below hd hroot hnames (.inr (hd.parent hget)) hchecked
  rw [hentry.lookup, walk_cons hentry.isName, hget]
  cases e with
  | file content executable => rfl
  | directory => exact walk.eq_1 ..
  | link target => exact absurd (List.append_assoc base rel [name] ▸ hget) hplain.ne_link

/-! ## Listings -/

/-- Lists are compared as they are ordered, if their elements are. -/
theorem compare_eq_lt_iff {α : Type} [Ord α] [Std.LawfulEqOrd α] [LT α]
    (h : ∀ a b : α, compare a b = .lt ↔ a < b) (l m : List α) : compare l m = .lt ↔ l < m := by
  rw [List.compare_eq_compareLex]
  induction l generalizing m with
  | nil => cases m <;> simp [List.compareLex_nil_nil, List.compareLex_nil_cons]
  | cons a l ih =>
    cases m with
    | nil => simp [List.compareLex_cons_nil]
    | cons b m =>
      have heq : compare a b = .eq ↔ a = b := Std.LawfulEqOrd.compare_eq_iff_eq
      rw [List.compareLex_cons_cons, List.cons_lt_cons_iff, ← ih, ← h, ← heq]
      cases compare a b <;> simp

/-- Names are compared as they are ordered. -/
theorem compare_eq_lt_iff_of_text (s t : Text) : compare s t = .lt ↔ s < t :=
  compare_eq_lt_iff (fun _ _ => compareOfLessAndEq_eq_lt) s t

/-- What stands in front of two lists does not matter where they are compared. -/
theorem compare_append_left (p l m : Place) : compare (p ++ l) (p ++ m) = compare l m := by
  induction p with
  | nil => rfl
  | cons c p ih =>
    have hself : compare c c = .eq := Std.ReflCmp.compare_self
    rw [List.cons_append, List.cons_append, List.compare_eq_compareLex, List.compareLex_cons_cons,
      ← List.compare_eq_compareLex, ih, hself, Ordering.eq_then]

/-- A place gives a name in a directory if it is right below. -/
theorem childOf_eq_some_iff {k : Place} : (match k.getLast? with
    | some name => if k.dropLast = p then some name else none
    | none => none) = some name ↔ k = p ++ [name] := by
  obtain rfl | ⟨before, last, rfl⟩ := List.eq_nil_or_concat' k
  · simp
  · have hlast : before = p ∧ last = name ↔ before ++ [last] = p ++ [name] :=
      ⟨fun h => by rw [h.1, h.2], fun h => by simpa using List.append_inj' h rfl⟩
    rw [← hlast]
    simp

/-- The names in a directory are those of its entries. -/
theorem mem_children_iff : name ∈ d.children p ↔ ∃ e, d.get? (p ++ [name]) = some e := by
  have hget : d.get? (p ++ [name]) = d.entries[p ++ [name]]? := by simp [get?]
  rw [hget, ← Option.isSome_iff_exists, Std.TreeMap.isSome_getElem?_eq_contains,
    ← Std.TreeMap.contains_keys, List.contains_iff_mem, children, List.mem_filterMap]
  constructor
  · rintro ⟨k, hk, hname⟩
    rwa [← childOf_eq_some_iff.1 hname]
  · exact fun hk => ⟨_, hk, childOf_eq_some_iff.2 rfl⟩

/-- The names in a directory are listed in ascending order. -/
theorem pairwise_children (d : Disk) (p : Place) : (d.children p).Pairwise (· < ·) := by
  refine (Std.TreeMap.ordered_keys (t := d.entries)).filterMap _ ?_
  intro k k' hlt name hname name' hname'
  rw [childOf_eq_some_iff.1 hname, childOf_eq_some_iff.1 hname', compare_append_left,
    List.compare_eq_compareLex, List.compareLex_cons_cons, List.compareLex_nil_nil,
    Ordering.then_eq] at hlt
  exact (compare_eq_lt_iff_of_text name name').1 hlt

/-! ## Long paths -/

/-- A text with steps in front that stay where they are. -/
def staying (n : Nat) (t : Text) : Text := (List.replicate n "./".toList).flatten ++ t

theorem staying_succ (n : Nat) (t : Text) : staying (n + 1) t = RawPath.dot ++ '/' :: staying n t := by
  simp [staying, List.replicate_succ, RawPath.dot]

/-- The components of a text with steps in front. -/
theorem components_staying (n : Nat) (t : Text) : (ofText (staying n t)).components =
    List.replicate n RawPath.dot ++ (ofText t).components := by
  induction n with
  | zero => rfl
  | succ n ih =>
    rw [staying_succ, RawPath.components_append_slash, ih, List.replicate_succ, List.cons_append,
      RawPath.components_of_not_mem (by decide) (by decide), List.singleton_append]

/-- The number of bytes of a text with steps in front. -/
theorem byteCount_staying (n : Nat) (t : Text) : byteCount (staying n t) = 2 * n + byteCount t := by
  induction n with
  | zero => simp [staying]
  | succ n ih =>
    have hstep : byteCount (staying (n + 1) t) = byteCount "./".toList + byteCount (staying n t) := by
      rw [staying_succ]
      exact byteCount_append "./".toList (staying n t)
    have htwo : byteCount "./".toList = 2 := by decide
    omega

/-- A text with steps in front ends as the text does. -/
theorem getLast?_staying {t : Text} (ht : t ≠ []) (n : Nat) : (staying n t).getLast? = t.getLast? :=
  List.getLast?_append_of_ne_nil _ ht

/-- A path with steps in front is one, unless there are too many. -/
theorem checkPath_staying {t : Text} (h : checkPath t = .ok ()) {n : Nat}
    (hn : 2 * n + byteCount t < maxPath) : checkPath (staying n t) = .ok () := by
  obtain ⟨hnul, hne, -⟩ := checkPath_eq_ok_iff.1 h
  refine checkPath_eq_ok_iff.2 ⟨?_, ?_, by rwa [byteCount_staying]⟩
  · simp [staying, hnul]
  · simp [staying, hne]

/-- Steps that stay where they are lead nowhere else. -/
theorem Descends.staying {left : Nat} {dir last : Place} {xs : List Text}
    (h : Descends d links dir xs last left) (n : Nat) :
    Descends d links dir (List.replicate n RawPath.dot ++ xs) last left := by
  induction n with
  | zero => exact h
  | succ n ih => exact .dot ih

/-- A path with steps in front leads to the directory that the path leads to. -/
theorem lookup_staying {t : Text} (h : d.lookup true t = .ok (.found q .directory))
    (hrelative : t.head? ≠ some '/') {n : Nat} (hn : 2 * n + byteCount t < maxPath) :
    d.lookup true (staying n t) = .ok (.found q .directory) := by
  obtain ⟨left, hdesc⟩ := exists_descends_of_lookup h
  have habsolute : (ofText (staying n t)).absolute = (ofText t).absolute := by
    cases n with
    | zero => rfl
    | succ n =>
      rw [staying_succ]
      simp [ofText, RawPath.dot, hrelative]
  have hstaying : Descends d maxLinks (d.start (ofText (staying n t)))
      (ofText (staying n t)).components q left := by
    rw [start_congr habsolute, components_staying]
    exact hdesc.staying n
  exact lookup_of_descends (checkPath_staying (checkPath_of_lookup h) hn) hstaying

/-! ## Disks given by their entries -/

/-- The disk with given entries. Of two at one place the first counts. -/
def ofEntries : List (Place × Entry) → Disk
  | [] => empty
  | x :: entries => (ofEntries entries).put x.1 x.2

instance : DecidablePred IsPlainName := fun c =>
  decidable_of_iff (c ≠ RawPath.dot ∧ c ≠ RawPath.dotDot ∧ byteCount c ≤ maxName ∧ c ≠ [] ∧
      '/' ∉ c ∧ '\\' ∉ c)
    ⟨fun ⟨h₁, h₂, h₃, h₄, h₅, h₆⟩ => ⟨⟨⟨h₁, h₂, h₃⟩, h₄, h₅⟩, h₆⟩,
      fun ⟨⟨⟨h₁, h₂, h₃⟩, h₄, h₅⟩, h₆⟩ => ⟨h₁, h₂, h₃, h₄, h₅, h₆⟩⟩

/-- The entries are files and directories, each under a plain name in a directory. -/
def isPlainTree (entries : List (Place × Entry)) : Bool :=
  entries.all fun (place, e) =>
    (match e with
      | .link _ => false
      | _ => true) &&
    match place.getLast? with
    | none => false
    | some name => decide (IsPlainName name) &&
      (place.dropLast.isEmpty ||
        match entries.lookup place.dropLast with
        | some .directory => true
        | _ => false)

/-- What an entry of a plain tree is. -/
theorem of_mem_of_isPlainTree {entries : List (Place × Entry)} {x : Place × Entry}
    (h : isPlainTree entries = true) (hx : x ∈ entries) :
    (∀ target, x.2 ≠ .link target) ∧ ∃ dir name, x.1 = dir ++ [name] ∧ IsPlainName name ∧
      (dir = [] ∨ entries.lookup dir = some .directory) := by
  have hcheck := List.all_eq_true.1 h x hx
  simp only [Bool.and_eq_true] at hcheck
  obtain ⟨hlink, hplace⟩ := hcheck
  refine ⟨fun target htarget => by simp [htarget] at hlink, ?_⟩
  split at hplace
  · cases hplace
  · next name hlast =>
    obtain ⟨dir, hdir⟩ := List.getLast?_eq_some_iff.1 hlast
    rw [hdir, List.dropLast_concat, Bool.and_eq_true, decide_eq_true_eq, Bool.or_eq_true,
      List.isEmpty_iff] at hplace
    refine ⟨dir, name, hdir, hplace.1, hplace.2.imp id fun hlookup => ?_⟩
    split at hlookup
    · next heq => exact heq
    · cases hlookup

/-- The entries of a disk given by them. -/
theorem get?_ofEntries {entries : List (Place × Entry)} (h : ∀ x ∈ entries, x.1 ≠ []) (q : Place) :
    (ofEntries entries).get? q = if q = [] then some .directory else entries.lookup q := by
  induction entries with
  | nil => simp [ofEntries, get?, empty]
  | cons x entries ih =>
    obtain ⟨p, e⟩ := x
    have hp : p ≠ [] := h (p, e) (by simp)
    rw [ofEntries, get?_put hp, ih fun x hx => h x (by simp [hx]), List.lookup_cons]
    by_cases hq : q = p
    · simp [hq, hp]
    · have hbeq : (q == p) = false := by simpa using hq
      rw [if_neg hq, hbeq]

/-- No file of a disk given by its entries has a number. -/
@[simp] theorem number?_ofEntries (entries : List (Place × Entry)) (q : Place) :
    (ofEntries entries).number? q = none := by
  induction entries with
  | nil => simp [ofEntries, number?, empty]
  | cons x entries ih => rw [ofEntries, number?_put, ih, ite_self]

section PlainTree

variable {entries : List (Place × Entry)} (h : isPlainTree entries = true)

include h

theorem get?_ofEntries_of_isPlainTree (q : Place) :
    (ofEntries entries).get? q = if q = [] then some .directory else entries.lookup q :=
  get?_ofEntries (fun x hx => by
    obtain ⟨-, dir, name, hplace, -⟩ := of_mem_of_isPlainTree h hx
    simp [hplace]) q

/-- What stands on the disk below the root is one of the entries. -/
theorem mem_of_get?_ofEntries (hget : (ofEntries entries).get? q = some e) :
    q = [] ∧ e = .directory ∨ (q, e) ∈ entries := by
  rw [get?_ofEntries_of_isPlainTree h] at hget
  split at hget
  · next hq => exact .inl ⟨hq, (Option.some.inj hget).symm⟩
  · obtain ⟨before, behind, rfl, -⟩ := List.lookup_eq_some_iff.1 hget
    exact .inr (by simp)

/-- The disk of a plain tree is sound. -/
theorem sound_ofEntries : Sound (ofEntries entries) := by
  have hentry : ∀ {dir : Place} {name : Text} {e : Entry},
      (ofEntries entries).get? (dir ++ [name]) = some e →
        IsPlainName name ∧ (dir = [] ∨ entries.lookup dir = some .directory) := by
    intro dir name e hget
    have hmem := (mem_of_get?_ofEntries h hget).resolve_left (by simp)
    obtain ⟨-, dir', name', hplace, hname, hdir⟩ := of_mem_of_isPlainTree h hmem
    obtain ⟨rfl, hlast⟩ := List.append_inj' hplace rfl
    obtain rfl := (List.cons.inj hlast).1
    exact ⟨hname, hdir⟩
  have hdirectory : ∀ {entries : List (Place × Entry)},
      (ofEntries entries).workingDirectory = [] := by
    intro entries
    induction entries with
    | nil => rfl
    | cons x entries ih => exact ih
  refine ⟨fun {dir name e} hget => ?_, fun hget => (hentry hget).1.toIsEntryName, ?_⟩
  · rw [get?_ofEntries_of_isPlainTree h]
    split
    · rfl
    · next hne => exact (hentry hget).2.resolve_left hne
  · rw [hdirectory]
    rfl

/-- A plain tree is plain below every place. -/
theorem plainBelow_ofEntries (base : Place) : PlainBelow (ofEntries entries) base where
  ne_link := by
    intro rel target hget
    rcases mem_of_get?_ofEntries h hget with ⟨-, he⟩ | hmem
    · cases he
    · exact (of_mem_of_isPlainTree h hmem).1 target rfl
  backslash_not_mem := by
    intro rel name e hget
    have hmem := (mem_of_get?_ofEntries h hget).resolve_left (by simp)
    obtain ⟨-, dir', name', hplace, hname, -⟩ := of_mem_of_isPlainTree h hmem
    obtain rfl := (List.cons.inj (List.append_inj' hplace rfl).2).1
    exact hname.backslash_not_mem

end PlainTree

end Disk

end ProtoUpkeep
