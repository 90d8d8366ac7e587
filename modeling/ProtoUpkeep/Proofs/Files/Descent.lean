import Mathlib.Data.List.Infix
import ProtoUpkeep.Files.Disk

/-!
# How a path is followed

`Disk.walk` follows a path to its end. All but the last component of a path lead through
directories, and `Disk.Descends` is that part of the way as a relation: one constructor for each kind
of component, with the number of links that may still be followed. A walk through components that
descend goes on where they lead (`Disk.walk_append`), and whatever a walk finds lies behind such a
descent (`Disk.exists_descends`).

A descent reads the disk at the entries that it passes, so it is the same on every disk that keeps
these. It passes no entry that leads to a file: such an entry may be replaced by another one without
disturbing any descent (`Disk.Descends.frame`).
-/

namespace ProtoUpkeep.Disk

variable {d d' : Disk} {links left : Nat} {dir last : Place} {xs ys rest : List Text}
  {c name target : Text} {follow slash : Bool} {e : Entry} {spot : Spot} {q : Place}

/-! ## Descents -/

/-- A component that names an entry. -/
structure IsName (c : Text) : Prop where
  /-- It does not stay where it is. -/
  ne_dot : c ≠ RawPath.dot
  /-- It does not go up. -/
  ne_dotDot : c ≠ RawPath.dotDot
  /-- It is short enough. -/
  byteCount_le : byteCount c ≤ maxName

/-- The directory that the target of a link starts in, for a link in `dir`. -/
def linkStart (dir : Place) (target : Text) : Place :=
  if (RawPath.ofText target).absolute then [] else dir

/-- The components lead from one directory to another, through directories and links to such. Of the
links that may be followed some are left. -/
inductive Descends (d : Disk) : (links : Nat) → (dir : Place) → List Text → (last : Place) →
    (left : Nat) → Prop
  | nil {links : Nat} {dir : Place} : Descends d links dir [] dir links
  | dot {links left : Nat} {dir last : Place} {rest : List Text} :
    Descends d links dir rest last left → Descends d links dir (RawPath.dot :: rest) last left
  | dotDot {links left : Nat} {dir last : Place} {rest : List Text} :
    Descends d links dir.dropLast rest last left →
    Descends d links dir (RawPath.dotDot :: rest) last left
  | directory {links left : Nat} {dir last : Place} {c : Text} {rest : List Text} :
    IsName c → d.get? (dir ++ [c]) = some .directory →
    Descends d links (dir ++ [c]) rest last left → Descends d links dir (c :: rest) last left
  | link {links left : Nat} {dir last : Place} {c target : Text} {rest : List Text} :
    IsName c → d.get? (dir ++ [c]) = some (.link target) →
    Descends d links (linkStart dir target) ((RawPath.ofText target).components ++ rest) last left →
    Descends d (links + 1) dir (c :: rest) last left

/-- A descent is followed by another one. -/
theorem Descends.append {mid : Place} {between : Nat} (h : Descends d links dir xs mid between)
    (h' : Descends d between mid ys last left) : Descends d links dir (xs ++ ys) last left := by
  induction h with
  | nil => exact h'
  | dot _ ih => exact .dot (ih h')
  | dotDot _ ih => exact .dotDot (ih h')
  | directory hc hget _ ih => exact .directory hc hget (ih h')
  | link hc hget _ ih => exact .link hc hget (List.append_assoc _ _ ys ▸ ih h')

/-- A descent is one through its first components and one through the others. -/
theorem Descends.split (h : Descends d links dir (xs ++ ys) last left) :
    ∃ mid between, Descends d links dir xs mid between ∧ Descends d between mid ys last left := by
  generalize hzs : xs ++ ys = zs at h
  induction h generalizing xs with
  | nil =>
    obtain ⟨rfl, rfl⟩ := List.append_eq_nil_iff.1 hzs
    exact ⟨_, _, .nil, .nil⟩
  | dot h ih =>
    rcases List.append_eq_cons_iff.1 hzs with ⟨rfl, rfl⟩ | ⟨xs, rfl, rfl⟩
    · exact ⟨_, _, .nil, .dot h⟩
    · obtain ⟨mid, between, hxs, hys⟩ := ih rfl
      exact ⟨mid, between, .dot hxs, hys⟩
  | dotDot h ih =>
    rcases List.append_eq_cons_iff.1 hzs with ⟨rfl, rfl⟩ | ⟨xs, rfl, rfl⟩
    · exact ⟨_, _, .nil, .dotDot h⟩
    · obtain ⟨mid, between, hxs, hys⟩ := ih rfl
      exact ⟨mid, between, .dotDot hxs, hys⟩
  | directory hc hget h ih =>
    rcases List.append_eq_cons_iff.1 hzs with ⟨rfl, rfl⟩ | ⟨xs, rfl, rfl⟩
    · exact ⟨_, _, .nil, .directory hc hget h⟩
    · obtain ⟨mid, between, hxs, hys⟩ := ih rfl
      exact ⟨mid, between, .directory hc hget hxs, hys⟩
  | @link links left dir last c target rest hc hget h ih =>
    rcases List.append_eq_cons_iff.1 hzs with ⟨rfl, rfl⟩ | ⟨xs, rfl, rfl⟩
    · exact ⟨_, _, .nil, .link hc hget h⟩
    · obtain ⟨mid, between, hxs, hys⟩ := ih (List.append_assoc _ xs ys)
      exact ⟨mid, between, .link hc hget hxs, hys⟩

/-- Components that stay where they are descend nowhere. -/
theorem Descends.eq_of_dots (h : Descends d links dir xs last left)
    (hdots : ∀ c ∈ xs, c = RawPath.dot) : last = dir ∧ left = links := by
  induction h with
  | nil => exact ⟨rfl, rfl⟩
  | dot _ ih => exact ih fun c hc => hdots c (by simp [hc])
  | dotDot => exact absurd (hdots _ List.mem_cons_self) (by decide)
  | directory hc => exact absurd (hdots _ List.mem_cons_self) hc.ne_dot
  | link hc => exact absurd (hdots _ List.mem_cons_self) hc.ne_dot

/-! ## Walks -/

/-- A walk passes a component that names an entry. -/
theorem walk_cons (hc : IsName c) : walk d follow links slash dir (c :: rest) =
    match d.get? (dir ++ [c]) with
    | none => if rest.isEmpty && !slash then .ok (.vacant (dir ++ [c])) else .error .notFound
    | some .directory => walk d follow links slash (dir ++ [c]) rest
    | some (.file content executable) =>
      if rest.isEmpty && !slash then .ok (.found (dir ++ [c]) (.file content executable))
      else .error .notDirectory
    | some (.link target) =>
      if rest.isEmpty && !follow && !slash then .ok (.found (dir ++ [c]) (.link target))
      else
        match links with
        | 0 => .error .tooManyLinks
        | links + 1 =>
          walk d follow links (slash || (rest.isEmpty && (RawPath.ofText target).slash))
            (linkStart dir target) ((RawPath.ofText target).components ++ rest) := by
  rw [walk, if_neg hc.ne_dot, if_neg hc.ne_dotDot, if_neg (Nat.not_lt.2 hc.byteCount_le)]
  rfl

/-- Components that descend are walked through. -/
theorem walk_append (h : Descends d links dir xs last left) (hne : ys ≠ []) :
    walk d follow links slash dir (xs ++ ys) = walk d follow left slash last ys := by
  induction h with
  | nil => rfl
  | dot _ ih => rw [List.cons_append, walk, if_pos rfl, ih]
  | dotDot _ ih => rw [List.cons_append, walk, if_neg (by decide), if_pos rfl, ih]
  | directory hc hget _ ih => rw [List.cons_append, walk_cons hc, hget, ih]
  | link hc hget _ ih =>
    have hempty : ∀ rest : List Text, (rest ++ ys).isEmpty = false := by simp [hne]
    rw [List.cons_append, walk_cons hc, hget]
    simp only [hempty, Bool.false_and, Bool.false_eq_true, if_false, Bool.or_false]
    rw [← List.append_assoc, ih]

/-- Components that descend lead to a directory. -/
theorem walk_of_descends (h : Descends d links dir xs last left) (slash : Bool) :
    walk d true links slash dir xs = .ok (.found last .directory) := by
  induction h generalizing slash with
  | nil => rw [walk]
  | dot _ ih => rw [walk, if_pos rfl, ih]
  | dotDot _ ih => rw [walk, if_neg (by decide), if_pos rfl, ih]
  | directory hc hget _ ih => rw [walk_cons hc, hget, ih]
  | link hc hget _ ih =>
    rw [walk_cons hc, hget]
    simp only [Bool.not_true, Bool.and_false, Bool.false_and, Bool.false_eq_true, if_false]
    exact ih _

/-- A component that a walk passes or finds names an entry, unless it stays or goes up. -/
theorem isName_of_walk (hdot : c ≠ RawPath.dot) (hdotDot : c ≠ RawPath.dotDot)
    (h : walk d follow links slash dir (c :: rest) = .ok spot) : IsName c := by
  refine ⟨hdot, hdotDot, ?_⟩
  by_contra hlong
  rw [walk, if_neg hdot, if_neg hdotDot, if_pos (Nat.lt_of_not_le hlong)] at h
  cases h

/-- Induction along a walk: behind a directory there are fewer components, and behind a link fewer
links may be followed. -/
theorem walk_induction (d : Disk) {motive : Nat → Place → List Text → Prop}
    (nil : ∀ links dir, motive links dir [])
    (dot : ∀ links dir rest, motive links dir rest → motive links dir (RawPath.dot :: rest))
    (dotDot : ∀ links dir rest, motive links dir.dropLast rest →
      motive links dir (RawPath.dotDot :: rest))
    (name : ∀ links dir c rest, c ≠ RawPath.dot → c ≠ RawPath.dotDot →
      (d.get? (dir ++ [c]) = some .directory → motive links (dir ++ [c]) rest) →
      (∀ links' target, links = links' + 1 → d.get? (dir ++ [c]) = some (.link target) →
        motive links' (linkStart dir target) ((RawPath.ofText target).components ++ rest)) →
      motive links dir (c :: rest))
    (links : Nat) (dir : Place) (xs : List Text) : motive links dir xs := by
  -- A link may be replaced by more components than there were, so the links are counted first.
  induction links using Nat.strongRecOn generalizing dir xs with
  | ind links ihLinks =>
    induction xs generalizing dir with
    | nil => exact nil links dir
    | cons c rest ih =>
      by_cases hdot : c = RawPath.dot
      · exact hdot ▸ dot links dir rest (ih dir)
      · by_cases hdotDot : c = RawPath.dotDot
        · exact hdotDot ▸ dotDot links dir rest (ih dir.dropLast)
        · exact name links dir c rest hdot hdotDot (fun _ => ih (dir ++ [c]))
            fun links' target hlinks _ => ihLinks links' (hlinks ▸ Nat.lt_succ_self links') _ _

/-- What a walk finds lies behind a descent through all components but the last ones. -/
theorem exists_descends (hne : ys ≠ []) (h : walk d follow links slash dir (xs ++ ys) = .ok spot) :
    ∃ last left, Descends d links dir xs last left ∧
      walk d follow left slash last ys = .ok spot := by
  induction links, dir, xs using walk_induction d with
  | nil links dir => exact ⟨dir, links, .nil, h⟩
  | dot links dir rest ih =>
    rw [List.cons_append, walk, if_pos rfl] at h
    obtain ⟨last, left, hdesc, hwalk⟩ := ih h
    exact ⟨last, left, .dot hdesc, hwalk⟩
  | dotDot links dir rest ih =>
    rw [List.cons_append, walk, if_neg (by decide), if_pos rfl] at h
    obtain ⟨last, left, hdesc, hwalk⟩ := ih h
    exact ⟨last, left, .dotDot hdesc, hwalk⟩
  | name links dir c rest hdot hdotDot ihDirectory ihLink =>
    have hc : IsName c := isName_of_walk hdot hdotDot h
    have hempty : ∀ rest : List Text, (rest ++ ys).isEmpty = false := by simp [hne]
    rw [List.cons_append, walk_cons hc] at h
    simp only [hempty, Bool.false_and, Bool.false_eq_true, if_false, Bool.or_false] at h
    split at h
    · cases h
    · next hget =>
      obtain ⟨last, left, hdesc, hwalk⟩ := ihDirectory hget h
      exact ⟨last, left, .directory hc hget hdesc, hwalk⟩
    · cases h
    · next target hget =>
      split at h
      · cases h
      · next links =>
        rw [← List.append_assoc] at h
        obtain ⟨last, left, hdesc, hwalk⟩ := ihLink links target rfl hget h
        exact ⟨last, left, .link hc hget hdesc, hwalk⟩

/-- Where a slash asks for a directory no file is found. -/
theorem walk_slash_ne_file {content : ByteArray} {executable : Bool} :
    walk d follow links true dir xs ≠ .ok (.found q (.file content executable)) := by
  induction links, dir, xs using walk_induction d with
  | nil links dir => rw [walk]; simp
  | dot links dir rest ih => rwa [walk, if_pos rfl]
  | dotDot links dir rest ih => rwa [walk, if_neg (by decide), if_pos rfl]
  | name links dir c rest hdot hdotDot ihDirectory ihLink =>
    intro h
    have hc : IsName c := isName_of_walk hdot hdotDot h
    rw [walk_cons hc] at h
    simp only [Bool.not_true, Bool.and_false, Bool.false_eq_true, if_false, Bool.true_or] at h
    split at h
    · cases h
    · next hget => exact ihDirectory hget h
    · cases h
    · next target hget =>
      split at h
      · cases h
      · next links => exact ihLink links target rfl hget h

/-- A walk finds no file where the components descend, however many links may be followed. -/
theorem Descends.walk_ne_file {content : ByteArray} {executable : Bool} {links' : Nat}
    (h : Descends d links dir xs last left) :
    walk d true links' slash dir xs ≠ .ok (.found q (.file content executable)) := by
  induction h generalizing links' slash with
  | nil => rw [walk]; simp
  | dot _ ih => rw [walk, if_pos rfl]; exact ih
  | dotDot _ ih => rw [walk, if_neg (by decide), if_pos rfl]; exact ih
  | directory hc hget _ ih => rw [walk_cons hc, hget]; exact ih
  | link hc hget _ ih =>
    rw [walk_cons hc, hget]
    simp only [Bool.not_true, Bool.and_false, Bool.false_and, Bool.false_eq_true, if_false]
    split
    · simp
    · exact ih

/-- A walk that finds a file finds it without the components that stay where they are, too. -/
theorem walk_filter_dot {content : ByteArray} {executable : Bool}
    (h : walk d true links slash dir xs = .ok (.found q (.file content executable))) :
    walk d true links slash dir (xs.filter fun c => c ≠ RawPath.dot) =
      .ok (.found q (.file content executable)) := by
  induction xs generalizing links dir with
  | nil => exact h
  | cons c rest ih =>
    by_cases hdot : c = RawPath.dot
    · rw [walk, if_pos hdot] at h
      rw [List.filter_cons_of_neg (by simpa using hdot)]
      exact ih h
    · rw [List.filter_cons_of_pos (by simpa using hdot)]
      by_cases hrest : rest = []
      · subst hrest
        exact h
      · obtain ⟨last, left, hdesc, hwalk⟩ : ∃ last left, Descends d links dir [c] last left ∧
            walk d true left slash last rest = .ok (.found q (.file content executable)) :=
          exists_descends hrest h
        have hfiltered := ih hwalk
        have hne : (rest.filter fun c => c ≠ RawPath.dot) ≠ [] := by
          intro hnil
          rw [hnil, walk] at hfiltered
          cases hfiltered
        exact (walk_append hdesc hne).trans hfiltered

/-! ## Descents on other disks -/

/-- No descent passes the entry `name` of the directory `dir`. -/
structure Blocks (d : Disk) (dir : Place) (name : Text) : Prop where
  /-- It is no directory. -/
  ne_directory : d.get? (dir ++ [name]) ≠ some .directory
  /-- It is no link to one. -/
  not_descends : ∀ {target : Text}, d.get? (dir ++ [name]) = some (.link target) →
    ∀ {links left : Nat} {last : Place},
      ¬ Descends d links (linkStart dir target) (RawPath.ofText target).components last left

/-- No descent passes an entry that leads to a file. -/
theorem blocks_of_walk {content : ByteArray} {executable : Bool} (hname : IsName name)
    (h : walk d true links slash dir [name] = .ok (.found q (.file content executable))) :
    Blocks d dir name := by
  rw [walk_cons hname] at h
  constructor
  · intro hget
    rw [hget] at h
    simp only [walk] at h
    cases h
  · intro target hget links' left last hdesc
    rw [hget] at h
    simp only [Bool.not_true, Bool.and_false, Bool.false_and, Bool.false_eq_true, if_false,
      List.append_nil] at h
    split at h
    · cases h
    · exact hdesc.walk_ne_file h

/-- A descent is the same on a disk that keeps all entries, except perhaps one that no descent
passes. -/
theorem Descends.frame {own : Place} (h : Descends d links dir xs last left)
    (hblocks : Blocks d own name)
    (hkeep : ∀ q e, q ≠ own ++ [name] → d.get? q = some e → d'.get? q = some e) :
    Descends d' links dir xs last left := by
  induction h with
  | nil => exact .nil
  | dot _ ih => exact .dot ih
  | dotDot _ ih => exact .dotDot ih
  | @directory links left dir last c rest hc hget _ ih =>
    refine .directory hc (hkeep _ _ (fun heq => ?_) hget) ih
    exact hblocks.ne_directory (heq ▸ hget)
  | @link links left dir last c target rest hc hget hdesc ih =>
    refine .link hc (hkeep _ _ (fun heq => ?_) hget) ih
    obtain ⟨hdir, hname⟩ := List.append_inj' heq rfl
    obtain rfl := hdir
    obtain rfl := (List.cons.inj hname).1
    obtain ⟨_, _, htarget, -⟩ := hdesc.split
    exact hblocks.not_descends hget htarget

end ProtoUpkeep.Disk
