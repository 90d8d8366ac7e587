import ProtoUpkeep.CommandLine.Fetch
import ProtoUpkeep.Proofs.CommandLine.Commands
import ProtoUpkeep.Proofs.Tree.Entries
import ProtoUpkeep.Proofs.Tree.Flattening

/-!
# Fetching again

Fetching copies the listed files and flattens the tree. Fetching again first undoes the flattening of
the copied files and then does it again, so the tree is the same afterwards. Copying is followed step
by step on two disks at once: `e` as it was before the file was copied the first time, and `f`, which
has grown from the disk behind the whole first run. What was copied is copied to the same place, over
the file that stands there; what was missing or could not be copied still is or cannot be
(`CopyStep.again`, `CopyRun.again`).

A file of the destination that is also one of the sources under another name would be changed by its own
copy, so the destination is asked to have its files for itself (`OwnFiles`). What could not be copied
fails in the same way if every `..` of the destination is reached through directories that are there
(`copy_same_error`). Otherwise the directories that the first run makes may be all that was missing in
front of a file that stands in the way, which then is met in another way. Without these conditions
fetching again makes a difference (`FetchCommand.copy_again_other_fault_other_bytes`).
-/

namespace ProtoUpkeep

open Disk
open RawPath (ofText EndsIn)

variable {ε : Type} {d d' d₁ e e' f : Disk} {source dest target : Path} {outcome : CopyOutcome}
  {outcomes : List (Text × CopyOutcome)} {name : Text} {S D p q : Place} {content : ByteArray}
  {executable : Bool}

/-! ## Copying one file -/

/-- A file can be copied to a file, or to a free name. -/
theorem exists_copyFile_of_writable {source target : Text} {spot : Spot}
    (hsource : d.lookup true source = .ok (.found q (.file content executable)))
    (h : d.writable target = .ok spot) : ∃ r, d.copyFile source target = .ok r := by
  simp only [copyFile, bind, Except.bind, hsource, h]
  cases spot with
  | vacant place => exact ⟨_, rfl⟩
  | found place e =>
    obtain ⟨_, _, rfl⟩ := exists_file_of_writable h
    exact ⟨_, rfl⟩

/-- A file that can be written to where its directory has been made is copied. -/
theorem Files.runOn_copy_of_writable {spot : Spot}
    (hmake : (Files.makeParent target).runOn d = (.ok (), d₁))
    (hsource : d₁.lookup true source.text = .ok (.found q (.file content executable)))
    (h : d₁.writable target.text = .ok spot) (error : FileError) (d' : Disk) :
    (Files.copy source target).runOn d ≠ (.error error, d') := by
  obtain ⟨⟨size, d₂⟩, hcopy⟩ := exists_copyFile_of_writable hsource h
  have hbytes : (Files.copyBytes source target).runOn d₁ = (.ok size, d₂) :=
    Outside.calm_copyFile_ok hcopy
  rw [Files.copy, DiskAction.runOn_bind_ok hmake, Files.runOn_reportedAt_ok hbytes]
  simp

/-- The same outcome, up to what went wrong, which is the same too under a condition. -/
inductive CopyOutcome.Alike (exact : Prop) : CopyOutcome → CopyOutcome → Prop
  | copied : Alike exact .copied .copied
  | notFound : Alike exact .notFound .notFound
  | failed {error error' : FileError} : (exact → error' = error) →
      Alike exact (.failed error) (.failed error')

theorem CopyOutcome.Alike.imp {a b : Prop} {outcome' : CopyOutcome} (h : outcome.Alike a outcome')
    (hab : b → a) : outcome.Alike b outcome' := by
  cases h with
  | copied => exact .copied
  | notFound => exact .notFound
  | failed herror => exact .failed fun hb => herror (hab hb)

/-- No place is one more name of a file than it was. -/
def FewerNames (d d' : Disk) : Prop :=
  ∀ q, d'.number? q = none ∨ d'.number? q = d.number? q

theorem FewerNames.trans (h : FewerNames d d₁) (h' : FewerNames d₁ d') : FewerNames d d' := fun q =>
  (h' q).elim .inl fun heq => (h q).imp heq.trans heq.trans

theorem FewerNames.of_eq (h : ∀ q, d'.number? q = d.number? q) : FewerNames d d' := fun q => .inr (h q)

/-- Names of one file were names of one file. -/
theorem FewerNames.sameFile (h : FewerNames d d') (hsame : d'.SameFile p q) : d.SameFile p q := by
  rcases hsame with rfl | ⟨hnumber, hsome⟩
  · exact .refl d q
  · have hkept : ∀ r, (d'.number? r).isSome → d'.number? r = d.number? r := fun r hr =>
      (h r).resolve_left (Option.isSome_iff_ne_none.1 hr)
    have hq := hkept q (hnumber ▸ hsome)
    rw [hkept p hsome] at hnumber hsome
    exact .inr ⟨hq ▸ hnumber, hsome⟩

/-- No file of the destination has another name in the destination or in the source. -/
def OwnFiles (d : Disk) (source dest : Path) : Prop :=
  ∀ p q, d.home dest.text <+: p → d.SameFile p q →
    d.home dest.text <+: q ∨ d.home source.text <+: q → q = p

/-- On a disk given by its entries each file has one name. -/
theorem ownFiles_ofEntries (entries : List (Place × Entry)) (source dest : Path) :
    OwnFiles (ofEntries entries) source dest := fun _ _ _ hsame _ =>
  (sameFile_iff_of_number?_eq_none (number?_ofEntries entries _)).1 hsame

theorem OwnFiles.of_fewerNames (h : OwnFiles d source dest) (hgrows : Grows d d')
    (hnames : FewerNames d d') : OwnFiles d' source dest := by
  intro p q hp hsame hq
  rw [hgrows.home] at hp hq
  rw [hgrows.home] at hq
  exact h p q hp (hnames.sameFile hsame) hq

/-- A file of the destination is none of the source's. -/
theorem OwnFiles.not_sameFile (h : OwnFiles d source dest) (hapart : TreesApart d source dest)
    (hlinks : NoLinksBelow d []) (hname : IsRelative name)
    (hplace : d.place? (dest.join name).text = some p) (hq : d.home source.text <+: q) :
    ¬ d.SameFile p q := by
  intro hone
  have hp : d.home dest.text <+: p := by
    rw [eq_of_place?_join hlinks hname hplace]
    exact List.prefix_append _ _
  obtain rfl := h p q hp hone (.inr hq)
  exact hapart.not_isPrefix_place hlinks hname hplace hq

/-- The files below a place are the same. -/
def SameFiles (S : Place) (e f : Disk) : Prop :=
  ∀ {q : Place} {content : ByteArray} {executable : Bool}, S <+: q →
    (f.get? q = some (.file content executable) ↔ e.get? q = some (.file content executable))

/-- A source file is found again. -/
theorem lookup_source_iff (he : Sound e) (hlinks : NoLinksBelow f S) (hgrows : Grows e f)
    (hsource : Leads e source.text S) (hname : IsRelative name) (hsame : SameFiles S e f) :
    f.lookup true (source.join name).text = .ok (.found q (.file content executable)) ↔
      e.lookup true (source.join name).text = .ok (.found q (.file content executable)) := by
  have hf := hsource.grows hgrows
  constructor
  · intro h
    have hchecked := checkPath_of_lookup h
    have hplace := eq_of_lookup_join hlinks hname hf h
    have hget := (hsame ⟨_, hplace.symm⟩).1 (get?_of_lookup h).2
    obtain ⟨rel, hext⟩ := exists_extends hname source
    obtain ⟨left, hwalk⟩ := lookup_extended hext hf hchecked
    obtain ⟨left', hwalk'⟩ := lookup_extended hext hsource hchecked
    rw [hwalk] at h
    rw [hwalk']
    exact walk_file_of_get? he hlinks List.prefix_rfl hext.dotDot h hget
  · intro h
    obtain ⟨content', executable', hget, hlookup⟩ := lookup_file_grows hgrows h
    have hplace := eq_of_lookup_join hlinks hname hf hlookup
    cases ((hsame ⟨_, hplace.symm⟩).1 hget).symm.trans (get?_of_lookup h).2
    exact hlookup

/-- What a file that has been copied to a place becomes when it is copied again: the same bytes go to
the same place, over the file that stands there. No other file changes. -/
inductive CopiedAgain (e' f : Disk) (target : Path) : CopyOutcome → Disk → Prop
  | copied {p : Place} {content content' : ByteArray} {executable executable' : Bool} :
    e'.lookup true target.text = .ok (.found p (.file content executable)) →
    f.get? p = some (.file content' executable') →
    CopiedAgain e' f target .copied (f.store p content executable)
  | left (outcome : CopyOutcome) : outcome ≠ .copied → CopiedAgain e' f target outcome f

theorem CopiedAgain.sameShape {f' : Disk} (h : CopiedAgain e' f target outcome f') :
    SameShape f f' := by
  cases h with
  | left => exact .refl f
  | copied hlookup hget => exact sameShape_store (get?_of_lookup hlookup).1 hget _ _

/-- No file gets or loses a name. -/
theorem CopiedAgain.number? {f' : Disk} (h : CopiedAgain e' f target outcome f') (q : Place) :
    f'.number? q = f.number? q := by
  cases h with
  | left => rfl
  | copied => exact number?_store ..

/-- The other files stay as they are. -/
theorem CopiedAgain.get?_other {f' : Disk} (h : CopiedAgain e' f target outcome f')
    (hq : outcome = .copied → ∀ p, e'.place? target.text = some p → ¬ f.SameFile p q) :
    f'.get? q = f.get? q := by
  cases h with
  | left => rfl
  | copied hlookup =>
    rw [get?_store (get?_of_lookup hlookup).1, if_neg (hq rfl _ (place?_of_lookup hlookup))]

/-- The copy has the same bytes. -/
theorem CopiedAgain.exists_of_copied {f' : Disk} (h : CopiedAgain e' f target outcome f')
    (hcopied : outcome = .copied) : ∃ p content executable,
      e'.lookup true target.text = .ok (.found p (.file content executable)) ∧
        f'.get? p = some (.file content executable) := by
  cases h with
  | left _ hne => exact absurd hcopied hne
  | copied hlookup =>
    exact ⟨_, _, _, hlookup, by rw [get?_store (get?_of_lookup hlookup).1, if_pos (.refl f _)]⟩

/-- A path that a file is written to on a disk that has grown could be written before, if the
directories on the way to it were made: its name was free, or that of a file. -/
theorem exists_writable_of_grows {e₁ : Disk} {u : Unit}
    (hlinks : ∀ q target, e₁.get? q ≠ some (.link target))
    (hmake : (Files.makeParent target : DiskAction FileError Unit).runOn e = (.ok u, e₁))
    (hgrows : Grows e₁ f) (hwritten : f.WrittenAt target.text p content executable) :
    ∃ spot, e₁.writable target.text = .ok spot := by
  obtain ⟨dir, name, left, hentry⟩ := hwritten.entryAt
  obtain ⟨before, hends, -⟩ := hentry.descends
  obtain ⟨dir', left', hdesc⟩ :=
    Files.descends_of_runOn_makeParent hends hentry.isName.ne_dot hmake
  have hbefore : EntryAt e₁ target.text dir' name left' :=
    ⟨hentry.checked, ⟨before, hends, hdesc⟩, hentry.isName⟩
  cases hget : e₁.get? (dir' ++ [name]) with
  | none => exact ⟨_, hbefore.writable_of_none hget⟩
  | some entry =>
    cases entry with
    | file => exact ⟨_, hbefore.writable_of_file (hbefore.lookup_of_file hget)⟩
    | link target' => exact absurd hget (hlinks _ _)
    | directory =>
      -- What is a directory stays one, and no file is written over it.
      have hdirectory := hgrows.directory hget
      have hplace := hwritten.eq_of_entryAt (hbefore.grows hgrows) (by simp [hdirectory])
      cases hwritten.like _ (hplace ▸ hdirectory)

/-- A file that could not be copied cannot be copied on a disk that has grown since, and nothing
changes there. -/
theorem CopyStep.failed_again {outcome' : CopyOutcome} {f' : Disk} {error : FileError}
    (hlinks : ∀ q target, e.get? q ≠ some (.link target)) (hfile : e.isFile source.text = true)
    (hcopy : (Files.copy source target).runOn e =
      (.error error, ((Files.makeParent target).runOn e).2))
    (hgrows : Grows ((Files.makeParent target).runOn e).2 f)
    (hagain : CopyStep .calm f source target outcome' f') (hfile' : f.isFile source.text = true) :
    (∃ error', outcome' = .failed error') ∧ f' = f := by
  have hadds := Files.addsDirectories_makeParent target e
  rcases hmake : (Files.makeParent target).runOn e with ⟨made, e₁⟩
  rw [hmake] at hgrows hcopy hadds
  cases made with
  | error error₁ =>
    obtain ⟨error₂, hmake'⟩ := Files.runOn_makeParent_error_again hlinks hmake hgrows
    cases hagain with
    | notFound hno => exact absurd (hfile'.symm.trans hno) (by simp)
    | failed => exact ⟨⟨_, rfl⟩, by rw [hmake']⟩
    | broken _ _ hbreaks => cases hbreaks
    | copied _ hmade => cases hmade.symm.trans hmake'
    | absorbed _ _ habsorbs => cases habsorbs
  | ok u =>
    have hmake' := Files.runOn_makeParent_again hmake hgrows
    cases hagain with
    | notFound hno => exact absurd (hfile'.symm.trans hno) (by simp)
    | failed => exact ⟨⟨_, rfl⟩, by rw [hmake']⟩
    | broken _ _ hbreaks => cases hbreaks
    | absorbed _ _ habsorbs => cases habsorbs
    | copied _ hmade hlookup hwritten =>
      -- Then it could have been copied before.
      obtain ⟨-, rfl⟩ := Prod.mk.inj (hmade.symm.trans hmake')
      obtain ⟨q, content, executable, hsource⟩ := Disk.isFile_eq_true_iff.1 hfile
      obtain ⟨content', executable', -, hsource'⟩ := lookup_file_grows hadds.grows hsource
      obtain ⟨spot, hspot⟩ :=
        exists_writable_of_grows (fun q target => hadds.ne_link hlinks q target) hmake hgrows hwritten
      exact absurd hcopy (Files.runOn_copy_of_writable hmake hsource' hspot _ _)

/-- A copy that fails where its directory has been made fails because nothing can be written. -/
theorem exists_fault_of_copy {error : FileError} {e₁ : Disk}
    (hmake : (Files.makeParent target).runOn e = (.ok (), e₁))
    (hsource : e₁.lookup true source.text = .ok (.found q (.file content executable)))
    (hcopy : (Files.copy source target).runOn e = (.error error, e')) :
    ∃ fault, error = .io source.text fault ∧ e₁.writable target.text = .error fault := by
  cases hspot : e₁.writable target.text with
  | ok spot => exact absurd hcopy (Files.runOn_copy_of_writable hmake hsource hspot _ _)
  | error fault =>
    have hbytes : (Files.copyBytes source target).runOn e₁ = (.error fault, e₁) :=
      Outside.calm_copyFile_error (copyFile_of_not_writable hsource hspot)
    have hrun : (Files.copy source target).runOn e = (.error (.io source.text fault), e₁) := by
      rw [Files.copy, DiskAction.runOn_bind_ok hmake, Files.runOn_reportedAt_error hbytes]
    cases hcopy.symm.trans hrun
    exact ⟨fault, rfl, rfl⟩

/-- A step that failed is a copy that failed. -/
theorem CopyStep.runOn_copy {error : FileError}
    (h : CopyStep .calm d source target (.failed error) d') :
    (Files.copy source target).runOn d = (.error error, d') := by
  cases h with
  | failed _ hcopy => exact hcopy
  | broken _ _ hbreaks => cases hbreaks

/-- A copy that failed fails in the same way on a disk that has grown since, if every `..` of its path
was reached. -/
theorem copy_same_error {before : List Text} {error error' : FileError} {f' : Disk} (he : Sound e)
    (hlinks : ∀ q target, e.get? q ≠ some (.link target)) (hfile : e.isFile source.text = true)
    (hends : EndsIn target.text before name) (hdot : name ≠ RawPath.dot)
    (hups : ReachesUps e target.text)
    (hcopy : (Files.copy source target).runOn e =
      (.error error, ((Files.makeParent target).runOn e).2))
    (hgrows : Grows ((Files.makeParent target).runOn e).2 f)
    (hcopy' : (Files.copy source target).runOn f = (.error error', f')) : error' = error := by
  have hadds := Files.addsDirectories_makeParent target e
  rcases hmake : (Files.makeParent target).runOn e with ⟨made, e₁⟩
  rw [hmake] at hgrows hcopy hadds
  cases made with
  | error error₁ =>
    have hagain := Files.runOn_makeParent_same_error he hlinks hups hmake hgrows
    cases hcopy.symm.trans (DiskAction.runOn_bind_error hmake)
    cases hcopy'.symm.trans (DiskAction.runOn_bind_error hagain)
    rfl
  | ok u =>
    have hagain := Files.runOn_makeParent_again hmake hgrows
    obtain ⟨q, content, executable, hsource⟩ := Disk.isFile_eq_true_iff.1 hfile
    obtain ⟨content₁, executable₁, -, hsource₁⟩ := lookup_file_grows hadds.grows hsource
    obtain ⟨content₂, executable₂, -, hsource₂⟩ := lookup_file_grows hgrows hsource₁
    obtain ⟨fault, rfl, hfault⟩ := exists_fault_of_copy hmake hsource₁ hcopy
    obtain ⟨fault', rfl, hfault'⟩ := exists_fault_of_copy hagain hsource₂ hcopy'
    obtain ⟨dir, left, hdesc⟩ := Files.descends_of_runOn_makeParent hends hdot hmake
    cases hfault'.symm.trans
      (writable_error_grows (hadds.ne_link hlinks) hgrows hends hdesc hfault)
    rfl

/-- A file that has been copied is copied again, over the file that stands at the place. -/
theorem CopyStep.copied_again {outcome' : CopyOutcome} {f' e₁ : Disk} (hpq : ¬ f.SameFile p q)
    (hmake : (Files.makeParent target).runOn e = (.ok (), e₁))
    (hwritten : e₁.WrittenAt target.text p content executable)
    (hgrows : Grows (e₁.store p content executable) f)
    (hsource : f.lookup true source.text = .ok (.found q (.file content executable)))
    (hagain : CopyStep .calm f source target outcome' f') :
    outcome' = .copied ∧ f' = f.store p content executable ∧
      ∃ content' executable', f.get? p = some (.file content' executable') := by
  have hmake' := Files.runOn_makeParent_again hmake (hwritten.grows.trans hgrows)
  obtain ⟨content', executable', hget, htarget⟩ := lookup_file_grows hgrows hwritten.lookup
  obtain ⟨dir, name, left, hentry⟩ := hwritten.entryAt
  have hentry' := hentry.grows (hwritten.grows.trans hgrows)
  have hfile : f.isFile source.text = true := Disk.isFile_eq_true_iff.2 ⟨q, content, executable, hsource⟩
  cases hagain with
  | notFound hno => exact absurd (hfile.symm.trans hno) (by simp)
  | failed _ hcopy =>
    exact absurd hcopy
      (Files.runOn_copy_of_writable hmake' hsource (hentry'.writable_of_file htarget) _ _)
  | broken _ _ hbreaks => cases hbreaks
  | absorbed _ _ habsorbs => cases habsorbs
  | @copied q' p' _ _ d₁ _ hmade hsource' hwritten' =>
    obtain ⟨-, rfl⟩ := Prod.mk.inj (hmake'.symm.trans hmade)
    cases hsource.symm.trans hsource'
    obtain rfl : p' = p := by
      have := place?_grows hwritten'.grows (place?_of_lookup htarget)
      exact Option.some.inj ((place?_of_lookup hwritten'.lookup).symm.trans this)
    exact ⟨rfl, by rw [if_neg hpq], content', executable', hget⟩

/-- A file that is copied again has the same outcome. The second disk has grown from the one behind
the first copy, it has the same files below the source, and the copy is none of them. -/
theorem CopyStep.again (h : CopyStep .calm e (source.join name) (dest.join name) outcome e')
    (he : Sound e) (hplain : PlainBelow e []) (hplain' : PlainBelow f []) (hgrows : Grows e' f)
    (hnames : FewerNames e' f) (hsource : Leads e source.text S) (hname : IsRelative name)
    (hsame : SameFiles S e f)
    (hapart : ∀ p, e'.place? (dest.join name).text = some p → ∀ q, S <+: q → ¬ e'.SameFile p q) :
    ∃ outcome' f', (copyProto source dest name : DiskAction ε CopyOutcome).runOn f =
        (.ok outcome', f') ∧
      outcome.Alike (ReachesUps e dest.text) outcome' ∧ CopiedAgain e' f (dest.join name) outcome f' := by
  obtain ⟨outcome', f', hrun, hagain⟩ := exists_copyStep (ε := ε) source dest name f .calm
  have hfound : ∀ {q content executable},
      f.lookup true (source.join name).text = .ok (.found q (.file content executable)) ↔
        e.lookup true (source.join name).text = .ok (.found q (.file content executable)) :=
    lookup_source_iff he (hplain'.below S).noLinksBelow (h.grows.trans hgrows) hsource hname hsame
  have hisFile : f.isFile (source.join name).text = e.isFile (source.join name).text := by
    rw [Bool.eq_iff_iff, Disk.isFile_eq_true_iff, Disk.isFile_eq_true_iff]
    simp only [hfound]
  refine ⟨outcome', f', hrun, ?_⟩
  cases h with
  | notFound hno =>
    cases hagain with
    | notFound => exact ⟨.notFound, .left _ (by simp)⟩
    | failed hfile | broken hfile | copied hfile | absorbed hfile =>
      exact absurd (hno.symm.trans (hisFile.symm.trans hfile)) (by simp)
  | broken _ _ hbreaks => cases hbreaks
  | absorbed _ _ habsorbs => cases habsorbs
  | failed hfile hcopy =>
    obtain ⟨⟨error', rfl⟩, rfl⟩ :=
      CopyStep.failed_again hplain.forall_ne_link hfile hcopy hgrows hagain (hisFile.trans hfile)
    refine ⟨.failed fun hups => ?_, .left _ (by simp)⟩
    obtain ⟨q, content, executable, hlookup⟩ := Disk.isFile_eq_true_iff.1 hfile
    obtain ⟨before, last, hends, hdot⟩ := exists_endsIn_of_lookup_join hname hsource hlookup
    obtain ⟨rel, hext⟩ := exists_extends hname dest
    refine copy_same_error he hplain.forall_ne_link hfile (hname.endsIn_join hdot hends dest) hdot
      ?_ hcopy hgrows hagain.runOn_copy
    unfold ReachesUps
    rw [hext.components, start_congr hext.absolute]
    exact UpsReached.append hups hext.dotDot
  | @copied q p content executable e₁ _ hmake hlookup hwritten =>
    have hbelow : S <+: q := by
      rw [eq_of_lookup_join (hplain.below S).noLinksBelow hname hsource hlookup]
      exact List.prefix_append _ _
    have happ := hapart p (place?_of_lookup hwritten.lookup) q hbelow
    have hpq : ¬ e₁.SameFile p q := fun hone => happ (sameFile_store_iff.2 hone)
    rw [if_neg hpq] at hwritten hgrows hnames happ ⊢
    obtain ⟨rfl, rfl, content', executable', hget⟩ := CopyStep.copied_again
      (fun hone => happ (hnames.sameFile hone)) hmake hwritten hgrows (hfound.2 hlookup) hagain
    exact ⟨.copied, .copied hwritten.lookup hget⟩

/-! ## Copying files -/

/-- The place is that of a copy. -/
def IsCopy (d' : Disk) (dest : Path) (outcomes : List (Text × CopyOutcome)) (q : Place) : Prop :=
  ∃ name, (name, .copied) ∈ outcomes ∧ d'.place? (dest.join name).text = some q

/-- A copy is below the destination. -/
theorem IsCopy.below (h : IsCopy d dest outcomes q) (hlinks : NoLinksBelow d [])
    (hrel : ∀ x ∈ outcomes, IsRelative x.1) : d.home dest.text <+: q := by
  obtain ⟨name, hmem, hplace⟩ := h
  rw [eq_of_place?_join hlinks (hrel _ hmem) hplace]
  exact List.prefix_append _ _

theorem IsCopy.cons {x : Text × CopyOutcome} (h : IsCopy d dest outcomes q) :
    IsCopy d dest (x :: outcomes) q := by
  obtain ⟨name, hmem, hplace⟩ := h
  exact ⟨name, List.mem_cons_of_mem _ hmem, hplace⟩

/-- A copy is the first file's, or one of the others'. -/
theorem IsCopy.of_cons (h : IsCopy d dest ((name, outcome) :: outcomes) q) :
    IsCopy d dest outcomes q ∨ outcome = .copied ∧ d.place? (dest.join name).text = some q := by
  obtain ⟨name', hmem, hplace⟩ := h
  rcases List.mem_cons.1 hmem with heq | hmem
  · cases heq
    exact .inr ⟨rfl, hplace⟩
  · exact .inl ⟨name', hmem, hplace⟩

/-- Another file of the destination is not the file of a copy. -/
theorem IsCopy.not_sameFile (h : IsCopy d dest outcomes q) (hlinks : NoLinksBelow d [])
    (hrel : ∀ x ∈ outcomes, IsRelative x.1) (hown : OwnFiles d source dest)
    (hbelow : d.home dest.text <+: p) (hnot : ¬ IsCopy d dest outcomes p) : ¬ d.SameFile q p := by
  intro hone
  obtain rfl := hown q p (h.below hlinks hrel) hone (.inl hbelow)
  exact hnot h

/-- Files that are copied again have the same outcomes, and the same bytes go to the same places. -/
theorem CopyRun.again (h : CopyRun .calm source dest e outcomes e') (he : Sound e)
    (hplain : PlainBelow e []) (hplain' : PlainBelow f []) (hgrows : Grows e' f)
    (hnames : FewerNames e' f) (hsource : Leads e source.text (e.home source.text))
    (hrel : ∀ x ∈ outcomes, IsRelative x.1) (hsame : SameFiles (e.home source.text) e f)
    (hapart : TreesApart e source dest) (hown : OwnFiles e source dest) (hdest : '\\' ∉ dest.text) :
    ∃ outcomes' f', (copyEach source dest (outcomes.map Prod.fst) :
        DiskAction ε (List (Text × CopyOutcome))).runOn f = (.ok outcomes', f') ∧
      List.Forall₂ (fun x y => x.1 = y.1 ∧ x.2.Alike (ReachesUps e dest.text) y.2) outcomes outcomes' ∧
      SameShape f f' ∧ (∀ q, f'.number? q = f.number? q) ∧
      (∀ q, IsCopy e' dest outcomes q → f'.get? q = e'.get? q) ∧
      ∀ q, (∀ p, IsCopy e' dest outcomes p → ¬ f.SameFile p q) → f'.get? q = f.get? q := by
  induction h generalizing f with
  | nil =>
    exact ⟨[], f, rfl, .nil, .refl f, fun _ => rfl, fun q ⟨_, hmem, _⟩ => (by cases hmem),
      fun _ _ => rfl⟩
  | @cons e e₁ e' name outcome outcomes hstep hrun ih =>
    have hname := hrel (name, outcome) List.mem_cons_self
    have hrest : ∀ x ∈ outcomes, IsRelative x.1 := fun x hx => hrel x (List.mem_cons_of_mem _ hx)
    obtain ⟨he₁, hplain₁⟩ := hstep.sound_and_plainBelow he hplain (Path.IsNormal.join hdest name)
      (goesBelow_root _ _)
    have hplainEnd := (hrun.sound_and_plainBelow he₁ hplain₁ hdest fun _ _ => goesBelow_root _ _).2
    have hapart₁ := hapart.of_grows hstep.grows
    have hown₁ := hown.of_fewerNames hstep.grows (.of_eq hstep.number?)
    have hown' := hown₁.of_fewerNames hrun.grows (.of_eq hrun.number?)
    have hnames₁ : FewerNames e₁ f := (FewerNames.of_eq hrun.number?).trans hnames
    -- The copy is none of the files below the source.
    have hnot : ∀ p, e₁.place? (dest.join name).text = some p → ∀ q, e.home source.text <+: q →
        ¬ e₁.SameFile p q := by
      intro p hplace q hq
      rw [← hstep.grows.home source.text] at hq
      exact hown₁.not_sameFile hapart₁ hplain₁.noLinksBelow hname hplace hq
    obtain ⟨outcome', f₁, hfirst, halike, hagain⟩ := hstep.again (ε := ε) he hplain hplain'
      (hrun.grows.trans hgrows) hnames₁ hsource hname hsame hnot
    have hsame₁ : SameFiles (e₁.home source.text) e₁ f₁ := by
      intro q content executable hq
      rw [hstep.grows.home] at hq
      rw [hagain.get?_other fun _ p hplace hone => hnot p hplace q hq (hnames₁.sameFile hone),
        hsame hq, hstep.file_iff fun _ p hplace => hnot p hplace q hq]
    obtain ⟨outcomes', f', hothers, halikes, hshape, hnumbers, hcopies, hleft⟩ := ih he₁ hplain₁
      (hplain'.sameShape hagain.sameShape) (hgrows.trans hagain.sameShape.grows)
      (hnames.trans (.of_eq hagain.number?))
      (by rw [hstep.grows.home]; exact hsource.grows hstep.grows) hrest hsame₁ hapart₁ hown₁
    refine ⟨(name, outcome') :: outcomes', f', runOn_copyEach_cons hfirst hothers,
      .cons ⟨rfl, halike⟩ (halikes.imp fun _ _ hxy =>
        ⟨hxy.1, hxy.2.imp fun hups => hups.grows hstep.grows⟩),
      hagain.sameShape.trans hshape, fun q => (hnumbers q).trans (hagain.number? q), fun q hq => ?_,
      fun q hq => ?_⟩
    · by_cases hlater : IsCopy e' dest outcomes q
      · exact hcopies q hlater
      · -- The copy is the first file's, and no later one goes there.
        obtain ⟨rfl, hplace⟩ := hq.of_cons.resolve_left hlater
        obtain ⟨p, content, executable, hlookup, hget⟩ := hagain.exists_of_copied rfl
        obtain rfl : p = q := Option.some.inj
          ((place?_grows hrun.grows (place?_of_lookup hlookup)).symm.trans hplace)
        have halone : ∀ r, IsCopy e' dest outcomes r → ¬ e'.SameFile r p := fun r hr =>
          hr.not_sameFile hplainEnd.noLinksBelow hrest hown'
            (hq.below hplainEnd.noLinksBelow hrel) hlater
        have hkept := (hrun.file_iff fun g outcome hg hwrites r hplace' =>
          halone r ⟨g, eq_copied_of_writes hwrites ▸ hg, hplace'⟩).2 (get?_of_lookup hlookup).2
        rw [hleft p fun r hr hone => halone r hr
          ((hnames.trans (.of_eq hagain.number?)).sameFile hone), hget, hkept]
    · rw [hleft q fun p hp hone => hq p hp.cons ((sameFile_congr hagain.number?).1 hone)]
      refine hagain.get?_other fun hcopied p hplace => hq p ⟨name, ?_, place?_grows hrun.grows hplace⟩
      rw [hcopied]
      exact List.mem_cons_self

/-- Where a file was copied into a directory the source has led to a directory from the start. -/
theorem CopyRun.exists_leads (h : CopyRun .calm source dest d outcomes d') (hdest : Leads d' dest.text D)
    (hrel : ∀ x ∈ outcomes, IsRelative x.1) (hcopied : (name, .copied) ∈ outcomes) :
    ∃ S, Leads d source.text S := by
  induction h with
  | nil => cases hcopied
  | @cons d d₁ d' first outcome outcomes hstep hrun ih =>
    have hfirst := hrel (first, outcome) List.mem_cons_self
    replace ih := ih hdest fun x hx => hrel x (List.mem_cons_of_mem _ hx)
    by_cases hnotFound : outcome = .notFound
    · subst hnotFound
      cases hstep
      exact ih ((List.mem_cons.1 hcopied).resolve_left (by simp))
    · have hfile : d.isFile (source.join first).text = true := by
        cases hstep with
        | notFound => exact absurd rfl hnotFound
        | failed hfile | broken hfile | copied hfile | absorbed hfile => exact hfile
      obtain ⟨q, content, executable, hlookup⟩ := Disk.isFile_eq_true_iff.1 hfile
      by_cases hnames : namesOf first = []
      · -- Then the source itself is a file, and a copy of it stands where the destination leads to.
        exfalso
        rcases List.mem_cons.1 hcopied with heq | hlater
        · cases heq
          cases hstep with
          | absorbed _ _ habsorbs => cases habsorbs
          | copied _ _ _ hwritten =>
            obtain ⟨content', executable', -, htarget⟩ := lookup_file_grows hrun.grows hwritten.lookup
            exact (hdest.join_of_names_eq_nil hfirst hnames).lookup_ne_file htarget
        · obtain ⟨S, hleads⟩ := ih hlater
          obtain ⟨content', executable', -, hsource⟩ := lookup_file_grows hstep.grows hlookup
          exact (hleads.join_of_names_eq_nil hfirst hnames).lookup_ne_file hsource
      · exact exists_leads_of_lookup_join hfirst hnames hlookup

/-- No file is left under a temporary name by a copy, if there was none. -/
theorem CopyStep.noLeftovers (h : CopyStep .calm d (source.join name) (dest.join name) outcome d')
    (hplain : PlainBelow d []) (hplain' : PlainBelow d' [])
    (hsource : Leads d source.text S) (hname : IsRelative name) (hleft : NoLeftovers d []) :
    NoLeftovers d' [] := by
  intro rel path content executable hget
  rw [h.grows.process] at hget
  by_cases hhere : outcome = .copied ∧
      d'.place? (dest.join name).text = some ([] ++ rel ++ [Files.temporaryName d.process path])
  · obtain ⟨rfl, hplace⟩ := hhere
    cases h with
    | absorbed _ _ habsorbs => cases habsorbs
    | @copied q p content' executable' d₁ _ hmake hlookup hwritten =>
      have hp := Option.some.inj ((place?_of_lookup hwritten.lookup).symm.trans hplace)
      -- The copy has the name of the file that it is made from.
      have hq := eq_of_lookup_join (hplain.below S).noLinksBelow hname hsource hlookup
      have hhome := eq_home_of_lookup hplain'.noLinksBelow hwritten.lookup
      rw [home_join hname] at hhome
      have hgetq := (get?_of_lookup hlookup).2
      obtain hnil | ⟨names, last, hnames⟩ := List.eq_nil_or_concat' (namesOf name)
      · exact (hsource.join_of_names_eq_nil hname hnil).lookup_ne_file hlookup
      · rw [hnames, ← List.append_assoc] at hq hhome
        obtain ⟨-, hlast⟩ := List.append_inj' (hhome.symm.trans hp) rfl
        rw [hq, (List.cons.inj hlast).1] at hgetq
        exact hleft (S ++ names) path content' executable' hgetq
  · -- Otherwise the file was there before, whether it is written under another name or not.
    have hbefore : ∃ content executable,
        d.get? ([] ++ rel ++ [Files.temporaryName d.process path]) =
          some (.file content executable) := by
      cases hnumber : d.number? ([] ++ rel ++ [Files.temporaryName d.process path]) with
      | some n => exact exists_file_of_isSome_number? (by rw [hnumber]; rfl)
      | none =>
        refine ⟨content, executable, (h.file_iff fun hwrites p hplace hone => hhere ?_).1 hget⟩
        rw [← h.number?] at hnumber
        obtain rfl := (sameFile_iff_of_number?_eq_none hnumber).1 hone.symm
        exact ⟨eq_copied_of_writes hwrites, hplace⟩
    obtain ⟨content', executable', hget'⟩ := hbefore
    exact hleft rel path content' executable' hget'

/-- No file is left under a temporary name by a run, if there was none. -/
theorem CopyRun.noLeftovers (h : CopyRun .calm source dest d outcomes d') (hd : Sound d)
    (hplain : PlainBelow d []) (hdest : '\\' ∉ dest.text) (hsource : Leads d source.text S)
    (hrel : ∀ x ∈ outcomes, IsRelative x.1) (hleft : NoLeftovers d []) : NoLeftovers d' [] := by
  induction h with
  | nil => exact hleft
  | @cons d d₁ d' name outcome outcomes hstep hrun ih =>
    obtain ⟨hd₁, hplain₁⟩ := hstep.sound_and_plainBelow hd hplain (Path.IsNormal.join hdest _)
      (goesBelow_root _ _)
    exact ih hd₁ hplain₁ (hsource.grows hstep.grows)
      (fun x hx => hrel x (List.mem_cons_of_mem _ hx))
      (hstep.noLeftovers hplain hplain₁ hsource (hrel _ List.mem_cons_self) hleft)

/-! ## The tree -/

/-- An entry that has been flattened is flat. -/
theorem Entry.flattened_flattened (e : Entry) : e.flattened.flattened = e.flattened :=
  flattened_of_none (flatText?_flattened e)

/-- Flattening gives no file one more name. -/
theorem Disk.FlattenedAt.fewerNames {places : List Place} (h : FlattenedAt places d d') :
    FewerNames d d' := by
  intro q
  rw [h.number?]
  split
  · exact .inl rfl
  · exact .inr rfl

/-- What flattening makes of a disk it makes of every disk that is partly flat already. -/
theorem Disk.FlattenedAt.again {places : List Place} {d₂ d₃ d₄ : Disk}
    (h : FlattenedAt places d₁ d₂) (h' : FlattenedAt places d₃ d₄) (hshape : SameShape d₂ d₃)
    (hnumber : ∀ q, d₃.number? q = d₂.number? q)
    (hpartly : ∀ q, d₃.get? q = d₁.get? q ∨ d₃.get? q = d₂.get? q) : SameExcept [] d₂ d₄ where
  get? q _ := by
    rw [h'.get?]
    rcases hpartly q with heq | heq
    · rw [heq, h.get?]
    · rw [heq, h.get?]
      split
      · cases d₁.get? q with
        | none => rfl
        | some e => simp [Entry.flattened_flattened]
      · rfl
  number? q _ := by
    rw [h'.number?]
    split
    · next hchanges =>
      -- The entry is not flat, so it is what it was before it was flattened.
      obtain ⟨hq, hchanges⟩ := hchanges
      rcases hpartly q with heq | heq
      · rw [heq] at hchanges
        rw [h.number?, if_pos ⟨hq, hchanges⟩]
      · rw [heq, h.get?, if_pos hq] at hchanges
        cases hget : d₁.get? q with
        | none =>
          rw [hget] at hchanges
          cases hchanges
        | some e => simp [hget] at hchanges
    · exact hnumber q
  workingDirectory := h'.workingDirectory.trans hshape.grows.workingDirectory
  process := h'.process.trans hshape.grows.process

/-- Flattening needs a directory. -/
theorem exists_lookup_of_runOn_flattenTree {root : Path} {skip : List Text} {paths : List Path}
    (h : (flattenTree root skip).runOn d = (.ok paths, d')) :
    ∃ D, d.lookup true root.text = .ok (.found D .directory) := by
  have hisDirectory : (Files.isDirectory root : DiskAction TreeError Bool).runOn d =
      (.ok (d.isDirectory root.text), d) := DiskAction.runOn_ofQuery _ _
  rw [flattenTree, DiskAction.runOn_bind_ok hisDirectory] at h
  cases hdirectory : d.isDirectory root.text with
  | true => exact isDirectory_eq_true_iff.1 hdirectory
  | false =>
    rw [hdirectory] at h
    cases h

/-- A tree that was flattened is flattened again, with the files in it as they were before or as they
are flat, and is the same afterwards. -/
theorem flattenTree_again {root : Path} {skip : List Text} {paths : List Path} {d₂ : Disk}
    (hd : Sound d₁) (hplain : PlainBelow d₁ D) (hleft : NoLeftovers d₁ D)
    (hroot : d₁.lookup true root.text = .ok (.found D .directory))
    (hrun : (flattenTree root skip).runOn d₁ = (.ok paths, d₂)) :
    SameShape d₁ d₂ ∧ FewerNames d₁ d₂ ∧ (∀ q, ¬ D <+: q → d₂.get? q = d₁.get? q) ∧
      (∀ d₃, SameShape d₂ d₃ → (∀ q, d₃.number? q = d₂.number? q) →
        (∀ q, d₃.get? q = d₁.get? q ∨ d₃.get? q = d₂.get? q) →
        ∃ paths' d₄, (flattenTree root skip).runOn d₃ = (.ok paths', d₄) ∧ SameExcept [] d₂ d₄) := by
  have hend := flattenTree_ends hd hplain hroot hleft skip .calm
  rw [hrun] at hend
  cases hend with | @flat rels _ _ hmem hcan hflat _ =>
  have hshape := hflat.sameShape
  have hbelow : ∀ {q}, q ∈ rels.map (D ++ ·) → D <+: q := by
    intro q hq
    obtain ⟨rel, -, rfl⟩ := List.mem_map.1 hq
    exact List.prefix_append D rel
  refine ⟨hshape, hflat.fewerNames, fun q hq => ?_, fun d₃ hshape' hnumber hpartly => ?_⟩
  · rw [hflat.get?, if_neg fun hmem => hq (hbelow hmem)]
  have hshape₃ := hshape.trans hshape'
  have hlisted : ∀ rel, IsListed .calm d₃ skip root D rel ↔ rel ∈ rels := fun rel => by
    rw [hmem]
    exact ⟨fun h => h.sameShape hshape₃.symm, fun h => h.sameShape hshape₃⟩
  have hend := flattenTree_ends (hd.sameShape hshape₃) (hplain.sameShape hshape₃)
    (lookup_directory_grows hshape₃.grows hroot) (hleft.sameShape hshape₃) skip .calm
  rcases hrun' : (flattenTree root skip).runOn d₃ with ⟨r, d₄⟩
  rw [hrun'] at hend
  cases hend with
  | failed _ hgrants =>
    obtain ⟨⟨rel, hrel, hcannot⟩, -⟩ := hgrants Outside.calm_grants
    rw [hlisted] at hrel
    refine absurd ((hcan rel hrel).congr hshape₃ ((hpartly _).imp id fun heq => ?_)) hcannot
    rw [heq, hflat.get?, if_pos (List.mem_map_of_mem hrel)]
  | @flat rels' _ _ hmem' _ hflat' _ =>
    have hplaces : FlattenedAt (rels.map (D ++ ·)) d₃ d₄ := by
      have hiff : ∀ q, q ∈ rels'.map (D ++ ·) ↔ q ∈ rels.map (D ++ ·) := by
        simp only [List.mem_map, hmem', hlisted, implies_true]
      refine ⟨fun q => ?_, fun q => ?_, hflat'.workingDirectory, hflat'.process⟩
      · rw [hflat'.get?]
        simp only [hiff]
      · rw [hflat'.number?]
        simp only [hiff]
    exact ⟨_, d₄, rfl, hflat.again hplaces hshape' hnumber hpartly⟩

/-- Files that have the same outcomes are reported in the same lists. -/
theorem CopyReport.eq_of_alike {outcomes' : List (Text × CopyOutcome)} {exact : Prop}
    (h : List.Forall₂ (fun x y => x.1 = y.1 ∧ x.2.Alike exact y.2) outcomes outcomes') :
    copied ⟨outcomes'⟩ = copied ⟨outcomes⟩ ∧ notFound ⟨outcomes'⟩ = notFound ⟨outcomes⟩ ∧
      (failed ⟨outcomes'⟩).map Prod.fst = (failed ⟨outcomes⟩).map Prod.fst ∧
      (exact → failed ⟨outcomes'⟩ = failed ⟨outcomes⟩) := by
  induction h with
  | nil => exact ⟨rfl, rfl, rfl, fun _ => rfl⟩
  | @cons x y outcomes outcomes' hfirst _ ih =>
    obtain ⟨name, outcome⟩ := x
    obtain ⟨name', outcome'⟩ := y
    obtain ⟨hname, halike⟩ := hfirst
    obtain rfl : name = name' := hname
    obtain ⟨hcopied, hnotFound, hnames, hfailed⟩ := ih
    cases halike with
    | copied => exact ⟨congrArg (name :: ·) hcopied, hnotFound, hnames, hfailed⟩
    | notFound => exact ⟨hcopied, congrArg (name :: ·) hnotFound, hnames, hfailed⟩
    | @failed error error' hsame =>
      refine ⟨hcopied, hnotFound, congrArg (name :: ·) hnames, fun hexact => ?_⟩
      rw [hsame hexact]
      exact congrArg ((name, error) :: ·) (hfailed hexact)

/-- Files that were copied into a tree that was then flattened are copied and the tree is flattened
again, with the same outcomes and the same tree. -/
theorem copyProtos_flattenTree_again {names skip : List Text} {report : CopyReport}
    {paths : List Path} {d₂ : Disk} (hd : Sound d) (hplain : PlainBelow d [])
    (hleft : NoLeftovers d []) (hdest : '\\' ∉ dest.text) (hrel : ∀ f ∈ names, IsRelative f)
    (hapart : TreesApart d source dest) (hown : OwnFiles d source dest)
    (hcopy : (copyProtos source dest names : DiskAction ε CopyReport).runOn d = (.ok report, d₁))
    (hcopied : report.copied ≠ []) (hflat : (flattenTree dest skip).runOn d₁ = (.ok paths, d₂)) :
    ∃ report' d₃ paths' d₄,
      (copyProtos source dest names : DiskAction ε CopyReport).runOn d₂ = (.ok report', d₃) ∧
      (flattenTree dest skip).runOn d₃ = (.ok paths', d₄) ∧
      List.Forall₂ (fun x y => x.1 = y.1 ∧ x.2.Alike (ReachesUps d dest.text) y.2) report.outcomes
        report'.outcomes ∧
      SameExcept [] d₂ d₄ := by
  obtain ⟨report₀, d₁', hrun, hnames, hsteps⟩ :=
    exists_runOn_copyProtos (ε := ε) source dest names d .calm
  obtain ⟨hreport, rfl⟩ := Prod.mk.inj (hcopy.symm.trans hrun)
  cases hreport
  have hrel : ∀ x ∈ report.outcomes, IsRelative x.1 := by
    intro x hx
    refine hrel x.1 (List.mem_eraseDups.1 ?_)
    rw [← hnames]
    exact List.mem_map_of_mem hx
  obtain ⟨D, hroot⟩ := exists_lookup_of_runOn_flattenTree hflat
  obtain ⟨name, hname⟩ := List.exists_mem_of_ne_nil _ hcopied
  obtain ⟨S, hsource⟩ :=
    hsteps.exists_leads (leads_of_lookup hroot) hrel (CopyReport.mem_copied_iff.1 hname)
  obtain rfl := hsource.eq_home hplain.noLinksBelow
  obtain ⟨hd₁, hplain₁⟩ :=
    hsteps.sound_and_plainBelow hd hplain hdest fun _ _ => goesBelow_root _ _
  have hleft₁ := hsteps.noLeftovers hd hplain hdest hsource hrel hleft
  have hD := eq_home_of_lookup hplain₁.noLinksBelow hroot
  rw [hsteps.grows.home] at hD
  obtain ⟨hshape, hnames₂, hothers, hagain⟩ := flattenTree_again hd₁ (hplain₁.below D)
    (fun rel path => hleft₁ (D ++ rel) path) hroot hflat
  have hown₁ := hown.of_fewerNames hsteps.grows (.of_eq hsteps.number?)
  have hapart₁ := hapart.of_grows hsteps.grows
  have hsame : SameFiles (d.home source.text) d d₂ := by
    intro q content executable hq
    have hnotBelow : ¬ D <+: q := by
      rw [hD]
      rintro ⟨rel, rfl⟩
      exact hapart.not_isPrefix rel hq
    rw [← hsteps.grows.home source.text] at hq
    rw [hothers q hnotBelow, hsteps.file_iff fun f outcome hf _ p hplace =>
      hown₁.not_sameFile hapart₁ hplain₁.noLinksBelow (hrel _ hf) hplace hq]
  obtain ⟨outcomes', d₃, hcopy', halike, hshape', hnumbers, hcopies, hrest⟩ := hsteps.again (ε := ε)
    hd hplain (hplain₁.sameShape hshape) hshape.grows hnames₂ hsource hrel hsame hapart hown hdest
  have hpartly : ∀ q, d₃.get? q = d₁.get? q ∨ d₃.get? q = d₂.get? q := fun q => by
    by_cases hq : ∃ p, IsCopy d₁ dest report.outcomes p ∧ d₂.SameFile p q
    · obtain ⟨p, hp, hone⟩ := hq
      refine .inl ?_
      rw [((sameFile_congr hnumbers).2 hone).get?, hcopies p hp, (hnames₂.sameFile hone).get?]
    · exact .inr (hrest q fun p hp hone => hq ⟨p, hp, hone⟩)
  obtain ⟨paths', d₄, hflat', hsame'⟩ := hagain d₃ hshape' hnumbers hpartly
  rw [hnames] at hcopy'
  exact ⟨⟨outcomes'⟩, d₃, paths', d₄, runOn_copyProtos hcopy', hflat', halike, hsame'⟩

/-! ## The command -/

namespace FetchCommand

open ConsoleAction

variable {settings : TreeSettings} {project : Project} {c' : Console} {report : CopyReport}
  {paths : List Path} {d₂ : Disk} {printed : Text}

/-- The command copies the files, of which one at least has to be copied, and then flattens the
tree. -/
theorem exists_of_runOn_copy (h : (copy settings project).runOn ⟨d, printed⟩ = (.ok report, c')) :
    ∃ d₁ paths, (copyProtos (project.resolve settings.sourceDir) (project.resolve settings.destDir)
        settings.files : DiskAction FileError CopyReport).runOn d = (.ok report, d₁) ∧
      report.copied ≠ [] ∧
      (flattenTree (project.resolve settings.destDir) settings.skipDirs).runOn d₁ =
        (.ok paths, c'.disk) := by
  obtain ⟨_, c₁, hsay, h⟩ := exists_of_runOn_bind h
  cases hsay
  obtain ⟨report', c₂, hcopy, h⟩ := exists_of_runOn_bind h
  obtain ⟨d₁, hfiles, rfl⟩ := exists_of_runOn_ofDisk hcopy
  obtain ⟨_, c₃, hlines, h⟩ := exists_of_runOn_bind h
  obtain ⟨printed', hprinted⟩ := exists_runOn_sayAll (copyLines report') d₁ _
  cases hlines.symm.trans hprinted
  cases hempty : report'.copied.isEmpty with
  | true =>
    rw [hempty] at h
    cases h
  | false =>
    rw [hempty] at h
    obtain ⟨_, c₄, hsay, h⟩ := exists_of_runOn_bind h
    cases hsay
    obtain ⟨paths, c₅, hflat, h⟩ := exists_of_runOn_bind h
    obtain ⟨d₂, htree, rfl⟩ := exists_of_runOn_ofDisk hflat
    cases h
    exact ⟨d₁, paths, hfiles, by simpa using hempty, htree⟩

/-- The command succeeds where the files are copied, one at least, and the tree is flattened. -/
theorem exists_runOn_copy (settings : TreeSettings) (project : Project)
    (hcopy : (copyProtos (project.resolve settings.sourceDir) (project.resolve settings.destDir)
        settings.files : DiskAction FileError CopyReport).runOn d = (.ok report, d₁))
    (hcopied : report.copied ≠ [])
    (hflat : (flattenTree (project.resolve settings.destDir) settings.skipDirs).runOn d₁ =
      (.ok paths, d₂)) (printed : Text) :
    ∃ printed', (copy settings project).runOn ⟨d, printed⟩ = (.ok report, ⟨d₂, printed'⟩) := by
  have hempty : report.copied.isEmpty = false := by simpa using hcopied
  obtain ⟨printed', hlines⟩ := exists_runOn_sayAll (copyLines report) d₁ _
  exact ⟨printed' ++ ("=> Rewriting imports...".toList ++ ['\n']) ++
      ("   Updated ".toList ++ Text.ofNat paths.length ++ " files".toList ++ ['\n']), by
    refine (runOn_bind_ok (runOn_say _ d printed)).trans ?_
    refine (runOn_bind_ok (runOn_ofDisk_ok _ hcopy _)).trans ?_
    refine (runOn_bind_ok hlines).trans ?_
    rw [hempty]
    refine (runOn_bind_ok (runOn_say _ d₁ _)).trans ?_
    refine (runOn_bind_ok (runOn_ofDisk_ok _ hflat _)).trans ?_
    exact runOn_bind_ok (runOn_say _ d₂ _)⟩

/-- The disk has no links and nothing left under a temporary name, the files are relative, and the trees
of the source and the destination have nothing in common. -/
structure PlainFetch (d : Disk) (settings : TreeSettings) (project : Project) : Prop where
  /-- The disk is sound. -/
  sound : Sound d
  /-- There are no links and no backslashes in names. -/
  plain : PlainBelow d []
  /-- Nothing is left under a temporary name. -/
  noLeftovers : NoLeftovers d []
  /-- There is no backslash in the root of the project. -/
  root : '\\' ∉ project.root.text
  /-- The files are relative. -/
  isRelative : ∀ f ∈ settings.files, IsRelative f
  /-- The trees are apart. -/
  apart : TreesApart d (project.resolve settings.sourceDir) (project.resolve settings.destDir)

/-- Fetching again copies the same files, misses the same and fails for the same, and leaves every
entry as it was, where there are no links, the trees of the source and the destination have nothing in
common, and the files of the destination have no other names in them. What went wrong with a file is the
same, too, where every `..` of the destination is reached through directories that were there from the
start. -/
theorem copy_again (h : PlainFetch d settings project)
    (hown : OwnFiles d (project.resolve settings.sourceDir) (project.resolve settings.destDir))
    (hrun : (copy settings project).runOn ⟨d, printed⟩ = (.ok report, c')) :
    ∃ report' c'', (copy settings project).runOn c' = (.ok report', c'') ∧
      report'.copied = report.copied ∧ report'.notFound = report.notFound ∧
      report'.failed.map Prod.fst = report.failed.map Prod.fst ∧
      (ReachesUps d (project.resolve settings.destDir).text → report'.failed = report.failed) ∧
      SameExcept [] c'.disk c''.disk := by
  obtain ⟨d₁, paths, hcopy, hcopied, hflat⟩ := exists_of_runOn_copy hrun
  obtain ⟨report', d₃, paths', d₄, hcopy', hflat', halike, hsame⟩ :=
    copyProtos_flattenTree_again h.sound h.plain h.noLeftovers
      (Path.IsNormal.join h.root settings.destDir) h.isRelative h.apart hown hcopy hcopied hflat
  obtain ⟨hcopied', hnotFound', hnames', hfailed'⟩ := CopyReport.eq_of_alike halike
  have hcopied'' : report'.copied ≠ [] := fun hnil => hcopied (hcopied'.symm.trans hnil)
  obtain ⟨printed', hrun'⟩ := exists_runOn_copy settings project hcopy' hcopied'' hflat' c'.printed
  exact ⟨report', ⟨d₄, printed'⟩, hrun', hcopied', hnotFound', hnames', hfailed', hsame⟩

/-- A proto file, and a directory to copy it to. -/
def upstream (content : ByteArray) : List (Place × Entry) := [
  (["up"], .directory),
  (["up", "a.proto"], .file content false),
  (["p"], .directory)]

/-- The same with the file copied. -/
def fetched (content : ByteArray) : List (Place × Entry) :=
  (["p", "a.proto"], .file content false) :: upstream content

/-- The settings that copy the file. -/
def upstreamSettings : TreeSettings :=
  { TreeSettings.default with sourceDir := "up", destDir := "p", files := ["a.proto"] }

/-- The file is copied. -/
theorem runOn_copyProtos_upstream (content : ByteArray) :
    (copyProtos ⟨"/up"⟩ ⟨"/p"⟩ ["a.proto"] : DiskAction FileError CopyReport).runOn
        (ofEntries (upstream content)) =
      (.ok ⟨[("a.proto", .copied)]⟩, ofEntries (fetched content)) := by
  cbv

/-- The directory to copy to is there. -/
theorem lookup_fetched {content : ByteArray} :
    (ofEntries (fetched content)).lookup true "/p" = .ok (.found ["p"] .directory) :=
  lookup_of_descends (by decide)
    (.directory (c := "p") ⟨by decide, by decide, by decide⟩ rfl .nil)

/-- The copy is the only file in the tree. -/
theorem isListed_fetched_iff (content : ByteArray) (htree : isPlainTree (fetched content) = true)
    (rel : Place) :
    IsListed .calm (ofEntries (fetched content)) ["sdk", "mirror"] ⟨"/p"⟩ ["p"] rel ↔
      rel = ["a.proto".toList] := by
  constructor
  · intro hlisted
    obtain ⟨e, hget, -⟩ := hlisted.exists_get?
    have hmem := (mem_of_get?_ofEntries htree hget).resolve_left (by simp)
    simp only [fetched, upstream, List.mem_cons, Prod.mk.injEq, List.cons_append, List.nil_append,
      List.cons.injEq, true_and, List.not_mem_nil, or_false] at hmem
    rcases hmem with ⟨rfl, -⟩ | ⟨⟨hup, -⟩, -⟩ | ⟨⟨hup, -⟩, -⟩ | ⟨rfl, -⟩
    · rfl
    · exact absurd hup (by decide)
    · exact absurd hup (by decide)
    · exact absurd rfl hlisted.ne_nil
  · rintro rfl
    exact isListed_of_file (sound_ofEntries htree) (plainBelow_ofEntries htree ["p"])
      lookup_fetched rfl (by decide) (by simp) (by decide)

/-- The file is copied and flattened, and the second time as well. -/
theorem copy_again_upstream : ∃ report c' report' c'',
    (copy upstreamSettings ⟨⟨"/"⟩, none⟩).runOn ⟨ofEntries (upstream nestedImport.toBytes), []⟩ =
        (.ok report, c') ∧
      report.copied = ["a.proto".toList] ∧
      c'.disk.get? ["p", "a.proto"] = some (.file flatImport.toBytes false) ∧
      (copy upstreamSettings ⟨⟨"/"⟩, none⟩).runOn c' = (.ok report', c'') ∧
      report'.copied = ["a.proto".toList] ∧ report'.failed = [] ∧
      c''.disk.get? ["p", "a.proto"] = some (.file flatImport.toBytes false) := by
  have htree : isPlainTree (upstream nestedImport.toBytes) = true := by decide
  have htree₁ : isPlainTree (fetched nestedImport.toBytes) = true := by decide
  have hget : (ofEntries (fetched nestedImport.toBytes)).get? (["p".toList] ++ ["a.proto".toList]) =
      some (.file nestedImport.toBytes false) := rfl
  have hcan : CanFlatten (ofEntries (fetched nestedImport.toBytes)) ⟨"/p"⟩ ["p"]
      ["a.proto".toList] := by
    refine ⟨by decide, ⟨_, _, _, hget, Text.ofBytes?_toBytes _⟩, fun _ => ⟨?_, ?_, ?_⟩⟩
    · decide
    · constructor <;> decide
    · decide
  have honly := isListed_fetched_iff nestedImport.toBytes htree₁
  have hend : TreeEnd .calm (ofEntries (fetched nestedImport.toBytes)) ["sdk", "mirror"] ⟨"/p"⟩ ["p"]
      ((flattenTree ⟨"/p"⟩ ["sdk", "mirror"]).runOn (ofEntries (fetched nestedImport.toBytes))) :=
    flattenTree_ends (sound_ofEntries htree₁) (plainBelow_ofEntries htree₁ ["p"]) lookup_fetched
      (noLeftovers_ofEntries htree₁ (by decide) ["p"]) ["sdk", "mirror"] .calm
  rcases hflat : (flattenTree ⟨"/p"⟩ ["sdk", "mirror"]).runOn
    (ofEntries (fetched nestedImport.toBytes)) with ⟨r, d₂⟩
  rw [hflat] at hend
  have hflat₂ : ∃ paths, r = .ok paths ∧
      d₂.get? ["p", "a.proto"] = some (.file flatImport.toBytes false) := by
    cases hend with
    | failed _ hgrants =>
      obtain ⟨⟨rel, hrel, hcannot⟩, -⟩ := hgrants Outside.calm_grants
      exact absurd ((honly rel).1 hrel ▸ hcan) hcannot
    | @flat rels _ _ hmem _ hflattened _ =>
      have hplace : ["p".toList, "a.proto".toList] ∈ rels.map (["p".toList] ++ ·) :=
        List.mem_map.2 ⟨_, (hmem _).2 ((honly _).2 rfl), rfl⟩
      have htext : (Entry.file nestedImport.toBytes false).flatText? = some flatImport := by
        rw [Entry.flatText?, Text.ofBytes?_toBytes]
        exact flattenImports?_nestedImport
      have hentry : (Entry.file nestedImport.toBytes false).flattened =
          .file flatImport.toBytes false := by
        rw [Entry.flattened, htext]
      refine ⟨_, rfl, ?_⟩
      rw [hflattened.get?, if_pos hplace]
      exact (congrArg (Option.map Entry.flattened) hget).trans (congrArg some hentry)
  obtain ⟨paths, rfl, hflat₂⟩ := hflat₂
  obtain ⟨printed', hrun⟩ := exists_runOn_copy upstreamSettings ⟨⟨"/"⟩, none⟩
    (runOn_copyProtos_upstream nestedImport.toBytes) (by decide) hflat []
  obtain ⟨report', c'', hrun', hcopied, -, -, hfailed, hsame⟩ := copy_again
    ⟨sound_ofEntries htree, plainBelow_ofEntries htree [], noLeftovers_ofEntries htree (by decide) [],
      by decide, by decide, ⟨by decide, by decide⟩⟩ (ownFiles_ofEntries _ _ _) hrun
  exact ⟨_, _, report', c'', hrun, rfl, hflat₂, hrun', hcopied,
    hfailed (upsReached_of_not_mem (by decide)), (hsame.get? _ (by simp)).trans hflat₂⟩

/-- Two files to copy, and a file where the first of them needs a directory. -/
def blocked : List (Place × Entry) := [
  (["up"], .directory),
  (["up", "x"], .directory),
  (["up", "x", "y"], .directory),
  (["up", "x", "y", "a.proto"], .file ByteArray.empty false),
  (["up", "b.proto"], .file ByteArray.empty false),
  (["p"], .directory),
  (["p", "x"], .file ByteArray.empty false)]

/-- The same with what fetching adds: the second file, and a directory on the way to it. -/
def blockedFetched : List (Place × Entry) :=
  (["p", "b.proto"], .file ByteArray.empty false) :: (["m"], .directory) :: blocked

/-- The settings that copy the files on a way that goes up. -/
def blockedSettings : TreeSettings :=
  { TreeSettings.default with
    sourceDir := "up", destDir := "m/../p", files := ["x/y/a.proto", "b.proto"] }

/-- The way to the first file is missing, so it is made until the file in the way is met. -/
theorem runOn_copyProtos_blocked :
    (copyProtos ⟨"/up"⟩ ⟨"/m/../p"⟩ ["x/y/a.proto", "b.proto"] : DiskAction FileError CopyReport).runOn
        (ofEntries blocked) =
      (.ok ⟨[("x/y/a.proto", .failed (.io "/m/../p/x/y" .exists)), ("b.proto", .copied)]⟩,
        ofEntries blockedFetched) := by
  cbv

/-- The way leads to the file in the way at once. -/
theorem runOn_copyProtos_blockedFetched :
    (copyProtos ⟨"/up"⟩ ⟨"/m/../p"⟩ ["x/y/a.proto", "b.proto"] : DiskAction FileError CopyReport).runOn
        (ofEntries blockedFetched) =
      (.ok ⟨[("x/y/a.proto", .failed (.io "/m/../p/x/y" .notDirectory)), ("b.proto", .copied)]⟩,
        ofEntries blockedFetched) := by
  cbv

/-- The copy has no imports. -/
theorem runOn_flattenTree_blockedFetched :
    (flattenTree ⟨"/m/../p"⟩ ["sdk", "mirror"] : DiskAction TreeError (List Path)).runOn
        (ofEntries blockedFetched) = (.ok [], ofEntries blockedFetched) := by
  cbv

/-- What went wrong with the first file is something else the second time. -/
theorem exists_runOn_copy_blocked : ∃ report c' report' c'',
    (copy blockedSettings ⟨⟨"/"⟩, none⟩).runOn ⟨ofEntries blocked, []⟩ = (.ok report, c') ∧
      (copy blockedSettings ⟨⟨"/"⟩, none⟩).runOn c' = (.ok report', c'') ∧
      report.failed = [("x/y/a.proto".toList, .io "/m/../p/x/y".toList .exists)] ∧
      report'.failed = [("x/y/a.proto".toList, .io "/m/../p/x/y".toList .notDirectory)] := by
  obtain ⟨printed, hrun⟩ := exists_runOn_copy blockedSettings ⟨⟨"/"⟩, none⟩
    runOn_copyProtos_blocked (by decide) runOn_flattenTree_blockedFetched []
  obtain ⟨printed', hrun'⟩ := exists_runOn_copy blockedSettings ⟨⟨"/"⟩, none⟩
    runOn_copyProtos_blockedFetched (by decide) runOn_flattenTree_blockedFetched printed
  exact ⟨_, _, _, _, hrun, hrun', rfl, rfl⟩

/-- Two files to copy, the first of them with another name where the second is copied to. -/
def sharedEntries (content : ByteArray) : List (Place × Entry) := [
  (["up"], .directory),
  (["up", "a.proto"], .file content false),
  (["up", "b.proto"], .file (Text.toBytes "b;") false),
  (["p"], .directory),
  (["p", "b.proto"], .file content false)]

/-- The disk with these entries. -/
def shared : Disk :=
  ofEntriesSharing (sharedEntries (Text.toBytes "a;")) ["up", "a.proto"] ["p", "b.proto"] rfl rfl

/-- The same with the files copied. -/
def sharedFetched (content : ByteArray) : Disk :=
  ofEntriesSharing ((["p", "a.proto"], .file content false) :: sharedEntries (Text.toBytes "b;"))
    ["up", "a.proto"] ["p", "b.proto"] rfl rfl

/-- The settings that copy the files. -/
def sharedSettings : TreeSettings :=
  { TreeSettings.default with sourceDir := "up", destDir := "p", files := ["a.proto", "b.proto"] }

/-- The second copy changes what the first is made from. -/
theorem runOn_copyProtos_shared :
    (copyProtos ⟨"/up"⟩ ⟨"/p"⟩ ["a.proto", "b.proto"] : DiskAction FileError CopyReport).runOn shared =
      (.ok ⟨[("a.proto", .copied), ("b.proto", .copied)]⟩, sharedFetched (Text.toBytes "a;")) := by
  cbv

/-- The first copy then has other bytes. -/
theorem runOn_copyProtos_sharedFetched :
    (copyProtos ⟨"/up"⟩ ⟨"/p"⟩ ["a.proto", "b.proto"] : DiskAction FileError CopyReport).runOn
        (sharedFetched (Text.toBytes "a;")) =
      (.ok ⟨[("a.proto", .copied), ("b.proto", .copied)]⟩, sharedFetched (Text.toBytes "b;")) := by
  cbv

/-- The copies have no imports. -/
theorem runOn_flattenTree_shared :
    (flattenTree ⟨"/p"⟩ ["sdk", "mirror"] : DiskAction TreeError (List Path)).runOn
        (sharedFetched (Text.toBytes "a;")) = (.ok [], sharedFetched (Text.toBytes "a;")) := by
  cbv

/-- They have none the second time either. -/
theorem runOn_flattenTree_sharedFetched :
    (flattenTree ⟨"/p"⟩ ["sdk", "mirror"] : DiskAction TreeError (List Path)).runOn
        (sharedFetched (Text.toBytes "b;")) = (.ok [], sharedFetched (Text.toBytes "b;")) := by
  cbv

/-- The copy of the first file has other bytes the second time. -/
theorem exists_runOn_copy_shared : ∃ report c' report' c'',
    (copy sharedSettings ⟨⟨"/"⟩, none⟩).runOn ⟨shared, []⟩ = (.ok report, c') ∧
      (copy sharedSettings ⟨⟨"/"⟩, none⟩).runOn c' = (.ok report', c'') ∧
      c'.disk.get? ["p", "a.proto"] = some (.file (Text.toBytes "a;") false) ∧
      c''.disk.get? ["p", "a.proto"] = some (.file (Text.toBytes "b;") false) := by
  obtain ⟨printed, hrun⟩ := exists_runOn_copy sharedSettings ⟨⟨"/"⟩, none⟩
    runOn_copyProtos_shared (by decide) runOn_flattenTree_shared []
  obtain ⟨printed', hrun'⟩ := exists_runOn_copy sharedSettings ⟨⟨"/"⟩, none⟩
    runOn_copyProtos_sharedFetched (by decide) runOn_flattenTree_sharedFetched printed
  exact ⟨_, _, _, _, hrun, hrun', rfl, rfl⟩

/-- Where the destination goes up from a directory that is missing, what went wrong with a file can be
something else the second time; and where a file of the destination is another name of one of the
sources, a copy can have other bytes. -/
theorem copy_again_other_fault_other_bytes :
    (PlainFetch (ofEntries blocked) blockedSettings ⟨⟨"/"⟩, none⟩ ∧
      OwnFiles (ofEntries blocked) ⟨"/up"⟩ ⟨"/m/../p"⟩ ∧ ∃ report c' report' c'',
        (copy blockedSettings ⟨⟨"/"⟩, none⟩).runOn ⟨ofEntries blocked, []⟩ = (.ok report, c') ∧
        (copy blockedSettings ⟨⟨"/"⟩, none⟩).runOn c' = (.ok report', c'') ∧
        report.failed = [("x/y/a.proto".toList, .io "/m/../p/x/y".toList .exists)] ∧
        report'.failed = [("x/y/a.proto".toList, .io "/m/../p/x/y".toList .notDirectory)]) ∧
    PlainFetch shared sharedSettings ⟨⟨"/"⟩, none⟩ ∧ ∃ report c' report' c'',
      (copy sharedSettings ⟨⟨"/"⟩, none⟩).runOn ⟨shared, []⟩ = (.ok report, c') ∧
      (copy sharedSettings ⟨⟨"/"⟩, none⟩).runOn c' = (.ok report', c'') ∧
      c'.disk.get? ["p", "a.proto"] = some (.file (Text.toBytes "a;") false) ∧
      c''.disk.get? ["p", "a.proto"] = some (.file (Text.toBytes "b;") false) := by
  have htree : isPlainTree blocked = true := by decide
  have hshared : isPlainTree (sharedEntries (Text.toBytes "a;")) = true := by decide
  have hshape := sameShape_ofEntriesSharing (sharedEntries (Text.toBytes "a;")) ["up", "a.proto"]
    ["p", "b.proto"] rfl rfl
  refine ⟨⟨⟨sound_ofEntries htree, plainBelow_ofEntries htree [],
    noLeftovers_ofEntries htree (by decide) [], by decide, by decide, ⟨by decide, by decide⟩⟩,
    ownFiles_ofEntries _ _ _, exists_runOn_copy_blocked⟩, ?_, exists_runOn_copy_shared⟩
  exact ⟨(sound_ofEntries hshared).sameShape hshape, (plainBelow_ofEntries hshared []).sameShape hshape,
    (noLeftovers_ofEntries hshared (by decide) []).sameShape hshape, by decide, by decide,
    ⟨by decide, by decide⟩⟩

end FetchCommand

end ProtoUpkeep
