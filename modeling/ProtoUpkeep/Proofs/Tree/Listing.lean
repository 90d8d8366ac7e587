import ProtoUpkeep.Proofs.Files.Growth
import ProtoUpkeep.Proofs.Files.Trees
import ProtoUpkeep.Tree.Flattening

/-!
# The proto files of a tree

The proto files below a directory are found directory by directory, as far as the directories are seen
as such and their names are seen in them. `IsListed` says which files they are, by their places below the
directory. Unless a directory may not be read they are found in the order of these places, each of them
once, and the depth to which directories are searched is enough for every path that the file system takes
(`protosIn_ends`).
-/

namespace ProtoUpkeep

open Disk

variable {o : Outside} {d : Disk} {skip : List Text} {root : Path} {base rel rel' r : Place} {name : Text}
  {names : List Text} {depth : Nat}

/-! ## Names on the way -/

/-- The text of a path of names. -/
theorem Path.text_below_empty (hnames : ∀ c ∈ rel, IsPlainName c) :
    (below ⟨[]⟩ rel).text = Text.joinWith ['/'] rel := by
  induction rel using List.reverseRecOn with
  | nil => rfl
  | append_singleton rel name ih =>
    have hrel : ∀ c ∈ rel, IsPlainName c := fun c hc => hnames c (by simp [hc])
    rw [below_concat, text_join (hnames name (by simp)), ih hrel]
    by_cases hnil : rel = []
    · simp [hnil, Text.joinWith]
    · have hright : Text.joinWith ['/'] (rel ++ [name]) = Text.joinWith ['/'] rel ++ '/' :: name := by
        rw [Text.joinWith_append hnil (by simp), Text.joinWith_singleton]
        rfl
      obtain ⟨before, last, rfl⟩ := (List.eq_nil_or_concat' rel).resolve_left hnil
      have hlast : IsPlainName last := hrel last (by simp)
      obtain ⟨start, c, rfl⟩ := (List.eq_nil_or_concat' last).resolve_left hlast.ne_nil
      have hend : (Text.joinWith ['/'] (before ++ [start ++ [c]])).getLast? = some c := by
        rw [← Text.joinWith_concat_append, List.getLast?_concat]
      have hc : c ≠ '/' := by
        rintro rfl
        exact hlast.slash_not_mem (by simp)
      rw [hright, hend]
      split
      · next heq => cases heq
      · next heq => exact absurd (Option.some.inj heq) hc
      · rfl

/-- A path of names has one of the names to skip if one of its names is. -/
theorem Path.hasComponent_below_iff (hnames : ∀ c ∈ rel, IsPlainName c) (hne : rel ≠ []) :
    (below ⟨[]⟩ rel).hasComponent skip = true ↔ ∃ c ∈ rel, c ∈ skip := by
  rw [hasComponent, text_below_empty hnames,
    Text.pieces_joinWith hne fun c hc => (hnames c hc).slash_not_mem]
  simp

/-- What lies below smaller names comes first. -/
theorem lt_of_isPrefix {name' : Text} {r' : Place} (hlt : name < name') (h : rel ++ [name] <+: r)
    (h' : rel ++ [name'] <+: r') : r < r' := by
  obtain ⟨rest, rfl⟩ := h
  obtain ⟨rest', rfl⟩ := h'
  induction rel with
  | nil => exact List.cons_lt_cons_iff.2 (.inl hlt)
  | cons c rel ih => exact List.cons_lt_cons_iff.2 (.inr ⟨rfl, ih⟩)

/-! ## Listed files -/

/-- The search of a directory below the root comes to a name in it: the directory is seen as one, and
the name is seen there. -/
structure Shows (o : Outside) (d : Disk) (root : Path) (above : Place) (name : Text) : Prop where
  /-- The directory is the root, or seen. -/
  isDirectory : above ≠ [] → o.isDirectory d (root.below above).text = true
  /-- The name is seen. -/
  omits : o.omits (root.below above).text name = false

/-- What is taken for a proto file: an entry with the extension `proto` that a search comes to, below no
directory to skip. A directory is searched, and not taken for a file, unless it is not seen as one: it
may not be looked at, or its path is too long for the file system. -/
structure IsListed (o : Outside) (d : Disk) (skip : List Text) (root : Path) (base rel : Place) :
    Prop where
  /-- It is not the directory that the search starts in. -/
  ne_nil : rel ≠ []
  /-- It is an entry. -/
  exists_get? : ∃ e, d.get? (base ++ rel) = some e ∧
    (e = .directory → o.isDirectory d (root.below rel).text = false)
  /-- It has the extension. -/
  extension : (root.below rel).extension? = some protoExtension
  /-- No directory to skip is above it. -/
  not_skipped : ∀ c ∈ rel.dropLast, c ∉ skip
  /-- The search comes to it. -/
  reached : ∀ above name, above ++ [name] <+: rel → Shows o d root above name

/-- A path below another one starts with it. -/
theorem Path.isPrefix_below (hnames : ∀ c ∈ rel', IsPlainName c) (rel : Place) :
    (root.below rel).text <+: (root.below (rel ++ rel')).text := by
  induction rel' using List.reverseRecOn with
  | nil => rw [List.append_nil]
  | append_singleton rel' name ih =>
    rw [← List.append_assoc, below_concat, text_join (hnames name (by simp))]
    refine (ih fun c hc => hnames c (by simp [hc])).trans ?_
    split <;> exact List.prefix_append _ _

section Below

variable (hd : Sound d) (hplain : PlainBelow d base)
  (hroot : d.lookup true root.text = .ok (.found base .directory))

include hd hplain hroot

/-- A path below the directory leads to a directory if there is one, and the path is short enough. -/
theorem isDirectory_below_iff (hne : rel ≠ []) {e : Entry} (hget : d.get? (base ++ rel) = some e) :
    d.isDirectory (root.below rel).text = true ↔
      e = .directory ∧ checkPath (root.below rel).text = .ok () := by
  constructor
  · intro hdir
    simp only [isDirectory, stat?, beq_iff_eq] at hdir
    split at hdir
    · next hlookup =>
      cases hdir
      have hchecked := checkPath_of_lookup hlookup
      rw [lookup_below hd hplain hroot hne hget hchecked] at hlookup
      cases hlookup
      exact ⟨rfl, hchecked⟩
    · cases hdir
  · rintro ⟨rfl, hchecked⟩
    simp [isDirectory, stat?, lookup_below hd hplain hroot hne hget hchecked]

/-- A file is listed in the calm outside if its path is short enough. -/
theorem isListed_of_file {content : ByteArray} {executable : Bool}
    (hget : d.get? (base ++ rel) = some (.file content executable))
    (hextension : (root.below rel).extension? = some protoExtension)
    (hskip : ∀ c ∈ rel.dropLast, c ∉ skip) (hchecked : checkPath (root.below rel).text = .ok ()) :
    IsListed .calm d skip root base rel := by
  have hne : rel ≠ [] := by
    rintro rfl
    rw [List.append_nil] at hget
    cases hget.symm.trans (hd.directory_of_lookup hroot)
  refine ⟨hne, ⟨_, hget, by simp⟩, hextension, hskip, fun above name hpre => ⟨fun habove => ?_, rfl⟩⟩
  obtain ⟨rest, rfl⟩ := hpre
  rw [List.append_assoc above] at hget hchecked
  have hnames := hd.isPlainName hplain hget
  rw [← List.append_assoc] at hget
  have hshort := checkPath_of_head hchecked
    (Path.isPrefix_below (fun c hc => hnames c (List.mem_append_right _ hc)) above)
    (Path.below_ne_nil (fun c hc => hnames c (List.mem_append_left _ hc))
      (checkPath_eq_ok_iff.1 (checkPath_of_lookup hroot)).2.1)
  exact (isDirectory_below_iff hd hplain hroot habove (hd.directory (by simp) hget)).2 ⟨rfl, hshort⟩

end Below

/-- Nothing is listed below what is not seen as a directory. -/
theorem IsListed.eq_of_isPrefix (h : IsListed o d skip root base r) (hpre : rel <+: r) (hne : rel ≠ [])
    (hdir : o.isDirectory d (root.below rel).text = false) : r = rel := by
  obtain ⟨rest, rfl⟩ := hpre
  cases rest with
  | nil => exact List.append_nil rel
  | cons name rest =>
    have hseen := (h.reached rel name ⟨rest, by simp⟩).isDirectory hne
    cases hdir.symm.trans hseen

/-! ## The search -/

/-- The files that a search gives: those that are listed below a directory, in ascending order. -/
structure Finds (o : Outside) (d : Disk) (skip : List Text) (root : Path) (base rel : Place)
    (rels : List Place) : Prop where
  /-- They are in ascending order. -/
  pairwise : rels.Pairwise (· < ·)
  /-- They are the listed ones. -/
  mem_iff : ∀ r, r ∈ rels ↔ rel <+: r ∧ IsListed o d skip root base r

/-- How a search ends. -/
inductive SearchEnd (o : Outside) (d : Disk) (skip : List Text) (root : Path) (base rel : Place) :
    Except FileError (List Path) → Prop
  /-- A directory may not be read. -/
  | refused {error : FileError} : (∃ call, (o.refuses d call).isSome) →
    SearchEnd o d skip root base rel (.error error)
  /-- The files are found. -/
  | found {rels : List Place} : Finds o d skip root base rel rels →
    SearchEnd o d skip root base rel (.ok (rels.map root.below))

/-- The proto files at an entry of a directory: those below it, or the entry itself. -/
def protosAt (o : Outside) (d : Disk) (skip : List Text) (depth : Nat) (dir below : Path)
    (name : Text) : Except FileError (List Path) := do
  let path := dir.join name
  if o.isDirectory d path.text then
    if (below.join name).hasComponent skip then return []
    else protosIn d skip depth path (below.join name) o
  else if path.extension? = some protoExtension then return [path]
  else return []

/-- The proto files in a directory are those at its entries. -/
theorem protosIn_succ {dir below : Path} (h : o.readDirectory d dir.text = .ok names) :
    protosIn d skip (depth + 1) dir below o =
      (names.mapM (protosAt o d skip depth dir below)).map List.flatten := by
  rw [protosIn, h]
  rfl

/-- Searches below the entries of a directory, one after the other. -/
theorem mapM_ends {f : Text → Except FileError (List Path)} (hsorted : names.Pairwise (· < ·))
    (h : ∀ name ∈ names, SearchEnd o d skip root base (rel ++ [name]) (f name)) :
    (∃ error, names.mapM f = .error error ∧ ∃ call, (o.refuses d call).isSome) ∨
    ∃ found : List (List Place), names.mapM f = .ok (found.map (List.map root.below)) ∧
      found.flatten.Pairwise (· < ·) ∧
      ∀ r, r ∈ found.flatten ↔
        ∃ name ∈ names, rel ++ [name] <+: r ∧ IsListed o d skip root base r := by
  induction names with
  | nil => exact .inr ⟨[], rfl, by simp, by simp⟩
  | cons name names ih =>
    obtain ⟨hfirst, hsorted⟩ := List.pairwise_cons.1 hsorted
    have hend := h name (by simp)
    rw [List.mapM_cons]
    generalize f name = result at hend
    cases hend with
    | refused hrefused => exact .inl ⟨_, rfl, hrefused⟩
    | @found rels hfinds =>
      rcases ih hsorted fun n hn => h n (by simp [hn]) with
        ⟨error, herror, hrefused⟩ | ⟨found, hfound, hpairwise, hmem⟩
      · refine .inl ⟨error, ?_, hrefused⟩
        rw [herror]
        rfl
      · refine .inr ⟨rels :: found, ?_, ?_, fun r => ?_⟩
        · rw [hfound]
          rfl
        · rw [List.flatten_cons, List.pairwise_append]
          refine ⟨hfinds.pairwise, hpairwise, fun r hr r' hr' => ?_⟩
          obtain ⟨name', hname', hpre', -⟩ := (hmem r').1 hr'
          exact lt_of_isPrefix (hfirst name' hname') ((hfinds.mem_iff r).1 hr).1 hpre'
        · simp only [List.flatten_cons, List.mem_append, hfinds.mem_iff, hmem, List.mem_cons,
            exists_eq_or_imp]

/-- What is listed below a directory is listed below one of the names that are seen in it. -/
theorem isPrefix_iff_exists_child (hd : Sound d) (hself : ¬ IsListed o d skip root base rel)
    (r : Place) :
    (∃ name ∈ (d.children (base ++ rel)).filter fun name => !o.omits (root.below rel).text name,
      rel ++ [name] <+: r ∧ IsListed o d skip root base r) ↔
      rel <+: r ∧ IsListed o d skip root base r := by
  constructor
  · rintro ⟨name, -, hpre, hlisted⟩
    exact ⟨(List.prefix_append rel [name]).trans hpre, hlisted⟩
  · rintro ⟨⟨rest, rfl⟩, hlisted⟩
    cases rest with
    | nil =>
      rw [List.append_nil] at hlisted
      exact absurd hlisted hself
    | cons name rest =>
      have hpre : rel ++ [name] <+: rel ++ name :: rest := ⟨rest, by simp⟩
      refine ⟨name, ?_, hpre, hlisted⟩
      rw [List.mem_filter, (hlisted.reached rel name hpre).omits, mem_children_iff]
      refine ⟨?_, rfl⟩
      obtain ⟨e, hget, -⟩ := hlisted.exists_get?
      have hsplit : base ++ (rel ++ name :: rest) = base ++ rel ++ [name] ++ rest := by simp
      rw [hsplit] at hget
      by_cases hrest : rest = []
      · rw [hrest, List.append_nil] at hget
        exact ⟨e, hget⟩
      · exact ⟨.directory, hd.directory hrest hget⟩

/-- Nothing is listed below a directory whose path has a name that is skipped. -/
theorem finds_nil_of_skipped {c : Text} (hget : d.get? (base ++ rel) = some .directory)
    (hseen : o.isDirectory d (root.below rel).text = true) (hc : c ∈ rel) (hskip : c ∈ skip) :
    Finds o d skip root base rel [] := by
  refine ⟨.nil, fun r => iff_of_false (by simp) ?_⟩
  rintro ⟨⟨rest, rfl⟩, hlisted⟩
  by_cases hrest : rest = []
  · obtain ⟨e, hget', hnot⟩ := hlisted.exists_get?
    rw [hrest, List.append_nil] at hget' hnot
    cases hget.symm.trans hget'
    cases (hnot rfl).symm.trans hseen
  · refine hlisted.not_skipped c ?_ hskip
    rw [List.dropLast_append_of_ne_nil hrest]
    exact List.mem_append_left _ hc

/-- An entry that is not seen as a directory is listed itself, if it is that of a proto file. -/
theorem finds_self (hskip : ∀ c ∈ rel, c ∉ skip) {e : Entry}
    (hget : d.get? (base ++ (rel ++ [name])) = some e)
    (hreached : ∀ above name', above ++ [name'] <+: rel ++ [name] → Shows o d root above name')
    (hdir : o.isDirectory d (root.below (rel ++ [name])).text = false) :
    Finds o d skip root base (rel ++ [name])
      (if (root.below (rel ++ [name])).extension? = some protoExtension then [rel ++ [name]]
        else []) := by
  split
  · next hextension =>
    refine ⟨by simp, fun r => ?_⟩
    rw [List.mem_singleton]
    constructor
    · rintro rfl
      exact ⟨List.prefix_rfl, by simp, ⟨e, hget, fun _ => hdir⟩, hextension,
        by rwa [List.dropLast_concat], hreached⟩
    · exact fun h => h.2.eq_of_isPrefix h.1 (by simp) hdir
  · next hextension =>
    refine ⟨.nil, fun r => iff_of_false (by simp) fun h => hextension ?_⟩
    obtain rfl := h.2.eq_of_isPrefix h.1 (by simp) hdir
    exact h.2.extension

section Search

variable (hd : Sound d) (hplain : PlainBelow d base)
  (hroot : d.lookup true root.text = .ok (.found base .directory))

include hd hplain hroot

/-- A path below the directory leads to a directory whose names are read as far as they are seen,
unless that is refused. -/
theorem readDirectory_below (hdir : rel = [] ∨ d.get? (base ++ rel) = some .directory)
    (hchecked : checkPath (root.below rel).text = .ok ()) (o : Outside) :
    (∃ fault, o.readDirectory d (root.below rel).text = .error fault ∧
      ∃ call, (o.refuses d call).isSome) ∨
    o.readDirectory d (root.below rel).text = .ok ((d.children (base ++ rel)).filter fun name =>
      !o.omits (root.below rel).text name) := by
  have hlookup : d.lookup true (root.below rel).text = .ok (.found (base ++ rel) .directory) := by
    by_cases hne : rel = []
    · simpa [hne] using hroot
    · exact lookup_below hd hplain hroot hne (hdir.resolve_left hne) hchecked
  have hread : d.readDirectory (root.below rel).text = .ok (d.children (base ++ rel)) := by
    simp only [readDirectory, bind, Except.bind, hlookup]
    rfl
  rw [Outside.readDirectory, hread, Outside.answer]
  split
  · next fault hrefused => exact .inl ⟨fault, rfl, _, by rw [hrefused]; rfl⟩
  · exact .inr rfl

/-- The proto files at an entry of a directory are found, if they are found below it. -/
theorem protosAt_ends (hskip : ∀ c ∈ rel, c ∉ skip) (hname : name ∈ d.children (base ++ rel))
    (hreached : ∀ above name', above ++ [name'] <+: rel ++ [name] → Shows o d root above name')
    (hdeeper : d.get? (base ++ (rel ++ [name])) = some .directory →
      o.isDirectory d (root.below (rel ++ [name])).text = true → (∀ c ∈ rel ++ [name], c ∉ skip) →
      SearchEnd o d skip root base (rel ++ [name])
        (protosIn d skip depth (root.below (rel ++ [name])) (Path.below ⟨[]⟩ (rel ++ [name])) o)) :
    SearchEnd o d skip root base (rel ++ [name])
      (protosAt o d skip depth (root.below rel) (Path.below ⟨[]⟩ rel) name) := by
  obtain ⟨e, hget⟩ := mem_children_iff.1 hname
  rw [List.append_assoc] at hget
  have hnames := hd.isPlainName hplain hget
  have hcomponent : (Path.below ⟨[]⟩ (rel ++ [name])).hasComponent skip = true ↔
      ∃ c ∈ rel ++ [name], c ∈ skip := Path.hasComponent_below_iff hnames (by simp)
  simp only [protosAt, ← Path.below_concat]
  by_cases hseen : o.isDirectory d (root.below (rel ++ [name])).text = true
  · rw [if_pos hseen]
    obtain ⟨rfl, -⟩ :=
      (isDirectory_below_iff hd hplain hroot (by simp) hget).1 (isDirectory_of_outside hseen)
    by_cases hskipped : (Path.below ⟨[]⟩ (rel ++ [name])).hasComponent skip = true
    · rw [if_pos hskipped]
      obtain ⟨c, hc, hcskip⟩ := hcomponent.1 hskipped
      exact .found (finds_nil_of_skipped hget hseen hc hcskip)
    · rw [if_neg hskipped]
      exact hdeeper hget hseen fun c hc hcskip => hskipped (hcomponent.2 ⟨c, hc, hcskip⟩)
  · rw [if_neg hseen]
    have hfinds := finds_self hskip hget hreached (by simpa using hseen)
    split
    · next hextension =>
      rw [if_pos hextension] at hfinds
      exact .found hfinds
    · next hextension =>
      rw [if_neg hextension] at hfinds
      exact .found hfinds

/-- The path of a directory that is seen is short enough. -/
theorem checkPath_below (hdir : rel = [] ∨ d.get? (base ++ rel) = some .directory)
    (hseen : rel ≠ [] → o.isDirectory d (root.below rel).text = true) :
    checkPath (root.below rel).text = .ok () := by
  by_cases hne : rel = []
  · rw [hne]
    exact checkPath_of_lookup hroot
  · exact ((isDirectory_below_iff hd hplain hroot hne (hdir.resolve_left hne)).1
      (isDirectory_of_outside (hseen hne))).2

/-- The proto files below a directory that a search comes to are found. -/
theorem protosIn_ends_below (hdir : rel = [] ∨ d.get? (base ++ rel) = some .directory)
    (hseen : rel ≠ [] → o.isDirectory d (root.below rel).text = true)
    (hskip : ∀ c ∈ rel, c ∉ skip)
    (hreached : ∀ above name, above ++ [name] <+: rel → Shows o d root above name)
    (hdepth : maxPath < depth + byteCount (root.below rel).text) :
    SearchEnd o d skip root base rel
      (protosIn d skip depth (root.below rel) (Path.below ⟨[]⟩ rel) o) := by
  -- A directory that is one level deeper has a longer path, so the depth suffices.
  induction depth generalizing rel with
  | zero =>
    have hchecked := checkPath_below hd hplain hroot hdir hseen
    have := (checkPath_eq_ok_iff.1 hchecked).2.2
    omega
  | succ depth ih =>
    have hchecked := checkPath_below hd hplain hroot hdir hseen
    have hself : ¬ IsListed o d skip root base rel := fun hlisted => by
      obtain ⟨e, hget, hnot⟩ := hlisted.exists_get?
      cases (hdir.resolve_left hlisted.ne_nil).symm.trans hget
      cases (hnot rfl).symm.trans (hseen hlisted.ne_nil)
    rcases readDirectory_below hd hplain hroot hdir hchecked o with ⟨fault, hread, hrefused⟩ | hread
    · rw [protosIn, hread]
      exact .refused hrefused
    · have hentries : ∀ name ∈ (d.children (base ++ rel)).filter fun name =>
          !o.omits (root.below rel).text name, SearchEnd o d skip root base (rel ++ [name])
            (protosAt o d skip depth (root.below rel) (Path.below ⟨[]⟩ rel) name) := by
        intro name hname
        rw [List.mem_filter, Bool.not_eq_true'] at hname
        obtain ⟨hname, homits⟩ := hname
        have hreached' : ∀ above name', above ++ [name'] <+: rel ++ [name] →
            Shows o d root above name' := by
          intro above name' hpre
          rcases List.prefix_concat_iff.1 hpre with heq | hpre
          · obtain ⟨rfl, hlast⟩ := List.append_inj' heq rfl
            obtain rfl := (List.cons.inj hlast).1
            exact ⟨hseen, homits⟩
          · exact hreached above name' hpre
        refine protosAt_ends hd hplain hroot hskip hname hreached' fun hget hseen' hskip' =>
          ih (.inr hget) (fun _ => hseen') hskip' hreached' ?_
        obtain ⟨e, hget'⟩ := mem_children_iff.1 hname
        rw [List.append_assoc] at hget'
        have hplainName := hd.isPlainName hplain hget' name (by simp)
        have hlonger := Path.byteCount_join hplainName (root.below rel)
        rw [← Path.below_concat] at hlonger
        omega
      rw [protosIn_succ hread]
      rcases mapM_ends ((pairwise_children d (base ++ rel)).filter _) hentries with
        ⟨error, herror, hrefused⟩ | ⟨found, hfound, hpairwise, hmem⟩
      · rw [herror]
        exact .refused hrefused
      · have hfinds : Finds o d skip root base rel found.flatten :=
          ⟨hpairwise, fun r => by rw [hmem, isPrefix_iff_exists_child hd hself]⟩
        have hflatten : (found.map (List.map root.below)).flatten =
            found.flatten.map root.below := by rw [List.map_flatten]
        rw [hfound, Except.map, hflatten]
        exact .found hfinds

/-- The proto files of a tree are found, unless a directory may not be read. -/
theorem protosIn_ends (skip : List Text) (o : Outside) :
    SearchEnd o d skip root base [] (protosIn d skip maxPath root ⟨[]⟩ o) := by
  have hpos := byteCount_pos (checkPath_eq_ok_iff.1 (checkPath_of_lookup hroot)).2.1
  refine protosIn_ends_below hd hplain hroot (.inl rfl) (absurd rfl) (by simp)
    (fun above name hpre => ?_) ?_
  · rw [List.prefix_nil] at hpre
    exact absurd hpre (by simp)
  · rw [Path.below_nil]
    omega

end Search

end ProtoUpkeep
