import Mathlib
import ProtoUpkeep.Proofs.Files.Calls
import ProtoUpkeep.Proofs.Files.Directories
import ProtoUpkeep.Tree.Copies

/-!
# Copies keep the bytes

The files of a request are copied one after the other, so a copy may go to the very file that it is
made from, or to one that is still to be copied. `CopyStep` says what copying one file does to the
disk, `CopyRun` puts the steps of a request together, and the disk only grows along a run
(`CopyRun.grows`), while no file gets or loses a name (`CopyRun.number?`). So the files that paths lead
to can be read off the disk behind the run, and that disk tells whether the copies have got in each
other's way (`CopiesApart`). A copy that breaks off has written to its target as well, so those that may
are counted among them. Where no copies have got in each other's way and none has gone to a device, every
copied file has its bytes at both ends (`CopyRun.kept`, `copyProtos_keeps_bytes`). A path that starts at
the root is the same below both bases, so its file is emptied and reported as copied
(`copyProtos_empties_absolute`).
-/

namespace ProtoUpkeep

open Disk

variable {ε : Type} {o : Outside} {d d' d₁ : Disk} {source target dest : Path} {outcome : CopyOutcome}
  {outcomes : List (Text × CopyOutcome)} {name t u : Text} {p q : Place} {content : ByteArray}
  {executable : Bool} {copied broken : List Text}

/-! ## One file -/

/-- What copying a file may have done: nothing if it is not seen, and otherwise the directory of the
copy has been made and the file has been written, unless that failed. -/
inductive CopyStep (o : Outside) (d : Disk) (source target : Path) : CopyOutcome → Disk → Prop
  | notFound : o.isFile d source.text = false → CopyStep o d source target .notFound d
  /-- Nothing has been written. -/
  | failed {error : FileError} : o.isFile d source.text = true →
    (Files.copy source target).runOn d o = (.error error, ((Files.makeParent target).runOn d o).2) →
    CopyStep o d source target (.failed error) ((Files.makeParent target).runOn d o).2
  /-- Some bytes have been written. -/
  | broken {error : FileError} {q p : Place} {content bytes : ByteArray} {executable mode : Bool}
    {d₁ : Disk} : o.isFile d source.text = true →
    (Files.makeParent target).runOn d o = (.ok (), d₁) →
    (o.breaksOff d₁ (.copy source.text target.text)).isSome →
    d.lookup true source.text = .ok (.found q (.file content executable)) →
    d₁.WrittenAt target.text p bytes mode →
    CopyStep o d source target (.failed error) (d₁.store p bytes mode)
  | copied {q p : Place} {content : ByteArray} {executable : Bool} {d₁ : Disk} :
    o.isFile d source.text = true → (Files.makeParent target).runOn d o = (.ok (), d₁) →
    d.lookup true source.text = .ok (.found q (.file content executable)) →
    d₁.WrittenAt target.text p (if d₁.SameFile p q then ByteArray.empty else content) executable →
    CopyStep o d source target .copied
      (d₁.store p (if d₁.SameFile p q then ByteArray.empty else content) executable)
  /-- A device has taken all bytes. -/
  | absorbed {d₁ : Disk} : o.isFile d source.text = true →
    (Files.makeParent target).runOn d o = (.ok (), d₁) → o.absorbs d₁ target.text = true →
    d₁.isTaken target.text = true → CopyStep o d source target .copied d₁

/-- Where the directory of a path has been made directories have been added. -/
theorem addsDirectories_of_makeParent (h : (Files.makeParent target).runOn d o = (.ok (), d₁)) :
    AddsDirectories d d₁ := by
  have hadds := Files.addsDirectories_makeParent target d o
  rwa [h] at hadds

/-- A file that is there is found where directories have been added, with the same bytes. -/
theorem Disk.AddsDirectories.lookup_iff {content' : ByteArray} {executable' : Bool}
    (h : AddsDirectories d d₁) (hfile : d.lookup true t = .ok (.found q (.file content executable)))
    (hfile' : d₁.lookup true t = .ok (.found p (.file content' executable'))) :
    d.lookup true t = .ok (.found p (.file content' executable')) := by
  obtain ⟨content₁, executable₁, hget₁, hlookup₁⟩ := lookup_file_grows h.grows hfile
  cases hlookup₁.symm.trans hfile'
  cases (get?_of_lookup hfile).2.symm.trans (h.file_iff.1 hget₁)
  exact hfile

/-- What is seen as a file is one. -/
theorem Disk.isFile_of_outside (h : o.isFile d t = true) : d.isFile t = true := by
  rw [Outside.isFile, Bool.and_eq_true] at h
  exact h.2

/-- Copying a file that is there makes directories and then writes it, or fails. -/
theorem copyStep_of_isFile (target : Path) (hseen : o.isFile d source.text = true) :
    ∃ outcome d', CopyStep o d source target outcome d' ∧
      (match (Files.copy source target).runOn d o with
        | (.ok _, d') => (CopyOutcome.copied, d')
        | (.error error, d') => (.failed error, d')) = (outcome, d') := by
  rcases hmake : (Files.makeParent target).runOn d o with ⟨made, d₁⟩
  have hadds := Files.addsDirectories_makeParent target d o
  rw [hmake] at hadds
  have hfailed : ∀ error, (Files.copy source target).runOn d o = (.error error, d₁) →
      CopyStep o d source target (.failed error) d₁ := by
    intro error hrun
    have hstep : CopyStep o d source target (.failed error) ((Files.makeParent target).runOn d o).2 :=
      .failed hseen (by rwa [hmake])
    rwa [hmake] at hstep
  cases made with
  | error error =>
    have hrun := DiskAction.runOn_bind_error (f := fun _ =>
      Files.reportedAt source.text (Files.copyBytes source target)) hmake
    exact ⟨_, _, hfailed _ hrun, by rw [Files.copy, hrun]⟩
  | ok u =>
    obtain ⟨q, content, executable, hfile⟩ :=
      Disk.isFile_eq_true_iff.1 (isFile_of_outside hseen)
    have hrun : (Files.copy source target).runOn d o =
        (Files.reportedAt source.text (Files.copyBytes source target)).runOn d₁ o :=
      DiskAction.runOn_bind_ok hmake
    have hends := Files.copyBytes_ends o source target d₁
    rcases hbytes : (Files.copyBytes source target).runOn d₁ o with ⟨r, d'⟩
    rw [hbytes] at hends
    cases r with
    | error fault =>
      rw [Files.runOn_reportedAt_error hbytes] at hrun
      refine ⟨.failed (.io source.text fault), d', ?_, by rw [hrun]⟩
      cases hends with
      | refused => exact hfailed _ hrun
      | broken hbreaks hsource hwritten =>
        exact .broken hseen hmake hbreaks (hadds.lookup_iff hfile hsource) hwritten
    | ok size =>
      rw [Files.runOn_reportedAt_ok hbytes] at hrun
      refine ⟨.copied, d', ?_, by rw [hrun]⟩
      cases hends with
      | copied hsource hwritten =>
        exact .copied hseen hmake (hadds.lookup_iff hfile hsource) hwritten
      | absorbed habsorbs htaken => exact .absorbed hseen hmake habsorbs htaken

/-- Copying a file is a step, and it does not fail. -/
theorem exists_copyStep (source dest : Path) (name : Text) (d : Disk) (o : Outside) : ∃ outcome d',
    (copyProto source dest name : DiskAction ε CopyOutcome).runOn d o = (.ok outcome, d') ∧
      CopyStep o d (source.join name) (dest.join name) outcome d' := by
  have hisFile : (Files.isFile (source.join name) : DiskAction ε Bool).runOn d o =
      (.ok (o.isFile d (source.join name).text), d) := DiskAction.runOn_ofQuery _ _
  rw [copyProto, DiskAction.runOn_bind_ok hisFile]
  cases hseen : o.isFile d (source.join name).text with
  | false => exact ⟨_, _, rfl, .notFound hseen⟩
  | true =>
    obtain ⟨outcome, d', hstep, hcopy⟩ := copyStep_of_isFile (dest.join name) hseen
    refine ⟨outcome, d', ?_, hstep⟩
    rw [if_pos rfl, DiskAction.runOn_bind_ok (DiskAction.runOn_attempt _ _)]
    rcases hrun : (Files.copy (source.join name) (dest.join name)).runOn d o with ⟨r, d₂⟩
    rw [hrun] at hcopy
    cases r <;> (obtain ⟨rfl, rfl⟩ := Prod.mk.inj hcopy; rfl)

/-- The disk grows with every file. -/
theorem CopyStep.grows (h : CopyStep o d source target outcome d') : Grows d d' := by
  cases h with
  | notFound => exact .refl d
  | failed => exact (Files.addsDirectories_makeParent target d o).grows
  | broken _ hmake _ _ hwritten | copied _ hmake _ hwritten =>
    exact (addsDirectories_of_makeParent hmake).grows.trans hwritten.grows
  | absorbed _ hmake => exact (addsDirectories_of_makeParent hmake).grows

/-- No file gets or loses a name. -/
theorem CopyStep.number? (h : CopyStep o d source target outcome d') (r : Place) :
    d'.number? r = d.number? r := by
  cases h with
  | notFound => rfl
  | failed => exact (Files.addsDirectories_makeParent target d o).number? r
  | broken _ hmake | copied _ hmake =>
    rw [number?_store, (addsDirectories_of_makeParent hmake).number?]
  | absorbed _ hmake => exact (addsDirectories_of_makeParent hmake).number? r

/-- The outcome of a copy that may have written to its target: it is copied, or may have broken
off. -/
def Writes (o : Outside) (source target : Path) : CopyOutcome → Prop
  | .copied => True
  | .notFound => False
  | .failed _ => ∃ d, (o.breaksOff d (.copy source.text target.text)).isSome

/-- Where nothing breaks off only copies write. -/
theorem eq_copied_of_writes (h : Writes .calm source target outcome) : outcome = .copied := by
  cases outcome with
  | copied => rfl
  | notFound => cases h
  | failed error =>
    obtain ⟨_, hbreaks⟩ := h
    cases hbreaks

/-- Files stay as they are, except the one that is written. -/
theorem CopyStep.file_iff (h : CopyStep o d source target outcome d')
    (hq : Writes o source target outcome → ∀ p, d'.place? target.text = some p → ¬ d'.SameFile p q) :
    d'.get? q = some (.file content executable) ↔ d.get? q = some (.file content executable) := by
  cases h with
  | notFound => rfl
  | failed => exact (Files.addsDirectories_makeParent target d o).file_iff
  | broken _ hmake hbreaks _ hwritten =>
    have hne := hq ⟨_, hbreaks⟩ _ (place?_of_lookup hwritten.lookup)
    rw [get?_store hwritten.ne_nil, if_neg (mt sameFile_store_iff.2 hne),
      (addsDirectories_of_makeParent hmake).file_iff]
  | copied _ hmake _ hwritten =>
    have hne := hq trivial _ (place?_of_lookup hwritten.lookup)
    rw [get?_store hwritten.ne_nil, if_neg (mt sameFile_store_iff.2 hne),
      (addsDirectories_of_makeParent hmake).file_iff]
  | absorbed _ hmake => exact (addsDirectories_of_makeParent hmake).file_iff

/-! ## A request -/

/-- What copying files one after the other may have done. -/
inductive CopyRun (o : Outside) (source dest : Path) :
    Disk → List (Text × CopyOutcome) → Disk → Prop
  | nil {d : Disk} : CopyRun o source dest d [] d
  | cons {d d₁ d' : Disk} {name : Text} {outcome : CopyOutcome}
    {outcomes : List (Text × CopyOutcome)} :
    CopyStep o d (source.join name) (dest.join name) outcome d₁ →
    CopyRun o source dest d₁ outcomes d' → CopyRun o source dest d ((name, outcome) :: outcomes) d'

/-- The first file is copied, and then the others. -/
theorem runOn_copyEach_cons {d₂ : Disk} {names : List Text}
    (h : (copyProto source dest name : DiskAction ε CopyOutcome).runOn d o = (.ok outcome, d₁))
    (h' : (copyEach source dest names : DiskAction ε (List (Text × CopyOutcome))).runOn d₁ o =
      (.ok outcomes, d₂)) :
    (copyEach source dest (name :: names) : DiskAction ε (List (Text × CopyOutcome))).runOn d o =
      (.ok ((name, outcome) :: outcomes), d₂) := by
  rw [copyEach, DiskAction.runOn_bind_ok h, DiskAction.runOn_bind_ok h']
  rfl

/-- A request copies its files without repeats. -/
theorem runOn_copyProtos {names : List Text}
    (h : (copyEach source dest names.eraseDups : DiskAction ε (List (Text × CopyOutcome))).runOn d o =
      (.ok outcomes, d')) :
    (copyProtos source dest names : DiskAction ε CopyReport).runOn d o = (.ok ⟨outcomes⟩, d') := by
  rw [copyProtos, DiskAction.runOn_bind_ok h]
  rfl

/-- Copying files is a run, with an outcome for each, and it does not fail. -/
theorem exists_copyRun (source dest : Path) (names : List Text) (d : Disk) (o : Outside) :
    ∃ outcomes d', (copyEach source dest names : DiskAction ε (List (Text × CopyOutcome))).runOn d o =
        (.ok outcomes, d') ∧
      outcomes.map Prod.fst = names ∧ CopyRun o source dest d outcomes d' := by
  induction names generalizing d with
  | nil => exact ⟨[], d, rfl, rfl, .nil⟩
  | cons name names ih =>
    obtain ⟨outcome, d₁, hrun, hstep⟩ := exists_copyStep (ε := ε) source dest name d o
    obtain ⟨outcomes, d', hrest, hnames, hsteps⟩ := ih d₁
    exact ⟨(name, outcome) :: outcomes, d', runOn_copyEach_cons hrun hrest,
      by rw [List.map_cons, hnames], .cons hstep hsteps⟩

/-- A request is a run over its files without repeats, and it does not fail. -/
theorem exists_runOn_copyProtos (source dest : Path) (names : List Text) (d : Disk) (o : Outside) :
    ∃ report d',
      (copyProtos source dest names : DiskAction ε CopyReport).runOn d o = (.ok report, d') ∧
      report.outcomes.map Prod.fst = names.eraseDups ∧
      CopyRun o source dest d report.outcomes d' := by
  obtain ⟨outcomes, d', hrun, hnames, hsteps⟩ :=
    exists_copyRun (ε := ε) source dest names.eraseDups d o
  exact ⟨⟨outcomes⟩, d', runOn_copyProtos hrun, hnames, hsteps⟩

/-- A file is reported as copied if that is its outcome. -/
theorem CopyReport.mem_copied_iff : name ∈ CopyReport.copied ⟨outcomes⟩ ↔
    (name, .copied) ∈ outcomes := by
  unfold CopyReport.copied
  rw [List.mem_filterMap]
  constructor
  · rintro ⟨⟨file, outcome⟩, hmem, h⟩
    cases outcome <;> simp_all
  · exact fun hmem => ⟨_, hmem, rfl⟩

/-- A file is reported with an error if that is its outcome. -/
theorem CopyReport.mem_failed_iff :
    name ∈ (failed ⟨outcomes⟩).map Prod.fst ↔ ∃ error, (name, .failed error) ∈ outcomes := by
  unfold failed
  rw [List.map_filterMap, List.mem_filterMap]
  constructor
  · rintro ⟨⟨file, outcome⟩, hmem, h⟩
    cases outcome with
    | failed error =>
      obtain rfl : file = name := by simpa using h
      exact ⟨error, hmem⟩
    | copied => simp at h
    | notFound => simp at h
  · exact fun ⟨error, hmem⟩ => ⟨_, hmem, rfl⟩

/-- The disk grows along a run. -/
theorem CopyRun.grows (h : CopyRun o source dest d outcomes d') : Grows d d' := by
  induction h with
  | nil => exact .refl _
  | cons hstep _ ih => exact hstep.grows.trans ih

/-- No file gets or loses a name along a run. -/
theorem CopyRun.number? (h : CopyRun o source dest d outcomes d') (r : Place) :
    d'.number? r = d.number? r := by
  induction h with
  | nil => rfl
  | cons hstep _ ih => rw [ih, hstep.number?]

/-- Files stay as they are, except those that copies go to. -/
theorem CopyRun.file_iff (h : CopyRun o source dest d outcomes d')
    (hq : ∀ name outcome, (name, outcome) ∈ outcomes →
      Writes o (source.join name) (dest.join name) outcome →
      ∀ p, d'.place? (dest.join name).text = some p → ¬ d'.SameFile p q) :
    d'.get? q = some (.file content executable) ↔ d.get? q = some (.file content executable) := by
  induction h with
  | nil => rfl
  | cons hstep hrun ih =>
    rw [ih fun name outcome hmem => hq name outcome (List.mem_cons_of_mem _ hmem), hstep.file_iff]
    intro hwrites p hplace hsame
    exact hq _ _ List.mem_cons_self hwrites p (place?_grows hrun.grows hplace)
      ((sameFile_congr hrun.number?).2 hsame)

/-! ## Copies in each other's way -/

/-- Two paths lead to one file. -/
def Disk.OneFile (d : Disk) (t u : Text) : Prop :=
  ∃ p q, d.place? t = some p ∧ d.place? u = some q ∧ d.SameFile p q

/-- The copies of files do not get in each other's way, nor do those that broke off. -/
structure CopiesApart (d : Disk) (source dest : Path) (copied broken : List Text) : Prop where
  /-- None goes to a file that is copied. -/
  ne_source : ∀ f ∈ copied ++ broken, ∀ g ∈ copied,
    ¬ d.OneFile (dest.join f).text (source.join g).text
  /-- Two of them go to one file only if they are made from one file. -/
  eq_source : ∀ f ∈ copied, ∀ g ∈ copied, d.OneFile (dest.join f).text (dest.join g).text →
    d.OneFile (source.join f).text (source.join g).text
  /-- None that broke off goes where a copy is. -/
  ne_target : ∀ f ∈ broken, ∀ g ∈ copied, ¬ d.OneFile (dest.join f).text (dest.join g).text

/-- A file stood on the first disk at the place that one path leads to on the second; it is the same
there, and the other path leads to a file with the same bytes. -/
structure KeptAt (d d' : Disk) (source target : Path) (q p : Place) (content : ByteArray)
    (executable : Bool) : Prop where
  /-- The file on the first disk. -/
  before : d.get? q = some (.file content executable)
  /-- It is still there. -/
  source : d'.lookup true source.text = .ok (.found q (.file content executable))
  /-- The copy. -/
  target : d'.lookup true target.text = .ok (.found p (.file content executable))

/-- A file that is copied to another place has its bytes at both ends. -/
theorem CopyStep.kept (h : CopyStep o d source target .copied d')
    (hregular : ∀ d, o.absorbs d target.text = false)
    (hne : ¬ d'.OneFile target.text source.text) :
    ∃ q p content executable, KeptAt d d' source target q p content executable := by
  cases h with
  | absorbed _ _ habsorbs => exact absurd ((hregular _).symm.trans habsorbs) (by simp)
  | @copied q p content executable d₁ _ hmake hlookup hwritten =>
    have hadds := addsDirectories_of_makeParent hmake
    have hget := (get?_of_lookup hlookup).2
    obtain ⟨content', executable', hget', hlookup'⟩ :=
      lookup_file_grows (hadds.grows.trans hwritten.grows) hlookup
    have hpq : ¬ d₁.SameFile p q := fun hsame =>
      hne ⟨p, q, place?_of_lookup hwritten.lookup, place?_of_lookup hlookup',
        sameFile_store_iff.2 hsame⟩
    rw [get?_store hwritten.ne_nil, if_neg hpq, hadds.file_iff.2 hget] at hget'
    cases hget'
    refine ⟨q, p, content, executable, hget, hlookup', ?_⟩
    have hlookup₂ := hwritten.lookup
    rwa [if_neg hpq] at hlookup₂ ⊢

/-- The copies of a run do not get in each other's way, and none goes to a device. -/
structure Undisturbed (o : Outside) (d' : Disk) (source dest : Path)
    (outcomes : List (Text × CopyOutcome)) (copied broken : List Text) : Prop where
  /-- The copied files are taken into account. -/
  mem_copied : ∀ f, (f, .copied) ∈ outcomes → f ∈ copied
  /-- So are those whose copies may have broken off. -/
  mem_broken : ∀ f error, (f, .failed error) ∈ outcomes →
    (∃ d, (o.breaksOff d (.copy (source.join f).text (dest.join f).text)).isSome) → f ∈ broken
  /-- There is no device among the targets. -/
  regular : ∀ f ∈ copied, ∀ d, o.absorbs d (dest.join f).text = false
  /-- The copies do not get in each other's way. -/
  apart : CopiesApart d' source dest copied broken

theorem Undisturbed.tail {x : Text × CopyOutcome}
    (h : Undisturbed o d' source dest (x :: outcomes) copied broken) :
    Undisturbed o d' source dest outcomes copied broken :=
  ⟨fun f hf => h.mem_copied f (List.mem_cons_of_mem _ hf),
    fun f error hf => h.mem_broken f error (List.mem_cons_of_mem _ hf), h.regular, h.apart⟩

/-- What may have been written is copied or broken off. -/
theorem Undisturbed.mem_of_writes (h : Undisturbed o d' source dest outcomes copied broken)
    (hmem : (name, outcome) ∈ outcomes) (hwrites : Writes o (source.join name) (dest.join name) outcome) :
    outcome = .copied ∧ name ∈ copied ∨ name ∈ broken := by
  cases outcome with
  | copied => exact .inl ⟨rfl, h.mem_copied name hmem⟩
  | notFound => cases hwrites
  | failed error => exact .inr (h.mem_broken name error hmem hwrites)

/-- A file and its copy are kept while others are copied that do not get in their way, and have their
bytes at both ends themselves. -/
theorem KeptAt.copyRun (hkept : KeptAt d d₁ (source.join name) (dest.join name) q p content executable)
    (hrun : CopyRun o source dest d₁ outcomes d')
    (hfree : Undisturbed o d' source dest outcomes copied broken) (hname : name ∈ copied)
    (hothers : ∀ g, (g, .copied) ∈ outcomes → ∃ q p content executable,
      KeptAt d₁ d' (source.join g) (dest.join g) q p content executable) :
    KeptAt d d' (source.join name) (dest.join name) q p content executable := by
  obtain ⟨content₁, executable₁, hget₁, hsource⟩ := lookup_file_grows hrun.grows hkept.source
  obtain ⟨content₂, executable₂, hget₂, htarget⟩ := lookup_file_grows hrun.grows hkept.target
  have hgetq := (get?_of_lookup hkept.source).2
  have hgetp := (get?_of_lookup hkept.target).2
  have hq := (hrun.file_iff fun g outcome hg hwrites r hplace hsame => by
    refine hfree.apart.ne_source g ?_ _ hname ⟨r, q, hplace, place?_of_lookup hsource, hsame⟩
    exact List.mem_append.2 ((hfree.mem_of_writes hg hwrites).imp_left And.right)).2 hgetq
  cases hget₁.symm.trans hq
  -- A later copy may go to the same file, but then it is made from the same one.
  have hp : d'.get? p = some (.file content executable) := by
    by_cases hlater : ∃ g r, (g, .copied) ∈ outcomes ∧ d'.place? (dest.join g).text = some r ∧
        d'.SameFile r p
    · obtain ⟨g, r, hg, hplace, hsame⟩ := hlater
      obtain ⟨q', p', content', executable', hkept'⟩ := hothers g hg
      obtain ⟨_, _, hplace', hplaceq, hsources⟩ := hfree.apart.eq_source g (hfree.mem_copied g hg) _
        hname ⟨r, p, hplace, place?_of_lookup htarget, hsame⟩
      obtain rfl := Option.some.inj ((place?_of_lookup hkept'.source).symm.trans hplace')
      obtain rfl := Option.some.inj ((place?_of_lookup hsource).symm.trans hplaceq)
      obtain rfl := Option.some.inj ((place?_of_lookup hkept'.target).symm.trans hplace)
      have hbefore := ((sameFile_congr hrun.number?).1 hsources).get?
      rw [hgetq, hkept'.before] at hbefore
      cases hbefore
      rw [hsame.get?]
      exact (get?_of_lookup hkept'.target).2
    · refine (hrun.file_iff fun g outcome hg hwrites r hplace hsame => ?_).2 hgetp
      rcases hfree.mem_of_writes hg hwrites with ⟨rfl, -⟩ | hbroken
      · exact hlater ⟨g, r, hg, hplace, hsame⟩
      · exact hfree.apart.ne_target g hbroken _ hname
          ⟨r, p, hplace, place?_of_lookup htarget, hsame⟩
  cases hget₂.symm.trans hp
  exact ⟨hkept.before, hsource, htarget⟩

/-- Where the copies do not get in each other's way each copied file has its bytes at both ends. -/
theorem CopyRun.kept (h : CopyRun o source dest d outcomes d')
    (hfree : Undisturbed o d' source dest outcomes copied broken) (hname : (name, .copied) ∈ outcomes) :
    ∃ q p content executable,
      KeptAt d d' (source.join name) (dest.join name) q p content executable := by
  induction h generalizing name with
  | nil => cases hname
  | @cons d d₁ d' first outcome outcomes hstep hrun ih =>
    have hfirst : (first, outcome) ∈ (first, outcome) :: outcomes := List.mem_cons_self
    replace ih := fun g => @ih g hfree.tail
    rcases List.mem_cons.1 hname with heq | hrest
    · cases heq
      have hcopied := hfree.mem_copied _ hname
      obtain ⟨q, p, content, executable, hkept⟩ := hstep.kept (hfree.regular _ hcopied)
        fun ⟨p, q, htarget, hsource, hsame⟩ =>
          hfree.apart.ne_source _ (List.mem_append_left _ hcopied) _ hcopied
            ⟨p, q, place?_grows hrun.grows htarget, place?_grows hrun.grows hsource,
              (sameFile_congr hrun.number?).2 hsame⟩
      exact ⟨q, p, content, executable, hkept.copyRun hrun hfree.tail hcopied ih⟩
    · obtain ⟨q, p, content, executable, hkept⟩ := ih name hrest
      refine ⟨q, p, content, executable, (hstep.file_iff ?_).1 hkept.before, hkept.source,
        hkept.target⟩
      intro hwrites r hplace hsame
      refine hfree.apart.ne_source first ?_ name (hfree.mem_copied _ hname) ⟨r, q,
        place?_grows hrun.grows hplace, place?_of_lookup hkept.source,
        (sameFile_congr hrun.number?).2 hsame⟩
      exact List.mem_append.2 ((hfree.mem_of_writes hfirst hwrites).imp_left And.right)

/-- Copying files does not fail, whatever stands around the disk. Where the copies do not get in each
other's way, nor do those that may have broken off, and none goes to a device, each file that is
reported as copied stood at the place that its source path leads to, it stands there with the same
bytes, and its copy has these bytes too. -/
theorem copyProtos_keeps_bytes (source dest : Path) (names : List Text) (d : Disk) (o : Outside) :
    ∃ report d', (copyProtos source dest names : DiskAction ε CopyReport).runOn d o =
        (.ok report, d') ∧
      ∀ broken : List Text,
        (∀ name ∈ report.failed.map Prod.fst, (∃ d, (o.breaksOff d
          (.copy (source.join name).text (dest.join name).text)).isSome) → name ∈ broken) →
        (∀ name ∈ report.copied, ∀ d, o.absorbs d (dest.join name).text = false) →
        CopiesApart d' source dest report.copied broken → ∀ name ∈ report.copied,
        ∃ place bytes executable, d.get? place = some (.file bytes executable) ∧
          (∀ file, d.readFile (source.join name).text = .ok file →
            file = (place, bytes, executable)) ∧
          d'.readFile (source.join name).text = .ok (place, bytes, executable) ∧
          ∃ copy, d'.readFile (dest.join name).text = .ok (copy, bytes, executable) := by
  obtain ⟨report, d', hrun, -, hsteps⟩ := exists_runOn_copyProtos (ε := ε) source dest names d o
  refine ⟨report, d', hrun, fun broken hbroken hregular hapart name hname => ?_⟩
  have hfree : Undisturbed o d' source dest report.outcomes report.copied broken :=
    ⟨fun f hf => CopyReport.mem_copied_iff.2 hf,
      fun f error hf hbreaks => hbroken f (CopyReport.mem_failed_iff.2 ⟨error, hf⟩) hbreaks, hregular,
      hapart⟩
  obtain ⟨q, p, content, executable, hkept⟩ :=
    hsteps.kept hfree (CopyReport.mem_copied_iff.1 hname)
  refine ⟨q, content, executable, hkept.before, ?_, Files.readFile_eq_ok_iff.2 hkept.source,
    p, Files.readFile_eq_ok_iff.2 hkept.target⟩
  rintro ⟨q₀, content₀, executable₀⟩ hread
  have hlookup := Files.readFile_eq_ok_iff.1 hread
  obtain ⟨_, _, -, hsource⟩ := lookup_file_grows hsteps.grows hlookup
  cases hsource.symm.trans hkept.source
  cases (get?_of_lookup hlookup).2.symm.trans hkept.before
  rfl

/-- A disk with one proto file, in the directory `up`. -/
def oneProto : Disk :=
  (Disk.empty.put ["up"] .directory).put ["up", "a.proto"] (.file (Text.toBytes "syntax;") false)

/-- A file that is listed twice is copied, and another one is missing. -/
theorem copyProtos_keeps_bytes_oneProto : ∃ report d',
    (copyProtos ⟨"up"⟩ ⟨"Protos"⟩ ["a.proto", "b.proto", "a.proto"] :
      DiskAction FileError CopyReport).runOn oneProto = (.ok report, d') ∧
    report.copied = ["a.proto".toList] ∧ report.notFound = ["b.proto".toList] ∧
    CopiesApart d' ⟨"up"⟩ ⟨"Protos"⟩ report.copied [] ∧
    ∃ copy, d'.readFile (Path.join ⟨"Protos"⟩ "a.proto").text =
      .ok (copy, Text.toBytes "syntax;", false) := by
  obtain ⟨report, d', hrun, hkept⟩ := copyProtos_keeps_bytes (ε := FileError) ⟨"up"⟩ ⟨"Protos"⟩
    ["a.proto", "b.proto", "a.proto"] oneProto .calm
  have hreport : ((copyProtos ⟨"up"⟩ ⟨"Protos"⟩ ["a.proto", "b.proto", "a.proto"] :
      DiskAction FileError CopyReport).runOn oneProto).1 =
        .ok ⟨[("a.proto", .copied), ("b.proto", .notFound)]⟩ := by cbv
  have hsource : ((copyProtos ⟨"up"⟩ ⟨"Protos"⟩ ["a.proto", "b.proto", "a.proto"] :
      DiskAction FileError CopyReport).runOn oneProto).2.place? "up/a.proto" =
        some ["up".toList, "a.proto".toList] := by cbv
  have htarget : ((copyProtos ⟨"up"⟩ ⟨"Protos"⟩ ["a.proto", "b.proto", "a.proto"] :
      DiskAction FileError CopyReport).runOn oneProto).2.place? "Protos/a.proto" =
        some ["Protos".toList, "a.proto".toList] := by cbv
  have hnumber : ((copyProtos ⟨"up"⟩ ⟨"Protos"⟩ ["a.proto", "b.proto", "a.proto"] :
      DiskAction FileError CopyReport).runOn oneProto).2.number?
        ["Protos".toList, "a.proto".toList] = none := by cbv
  have hread : oneProto.readFile "up/a.proto" =
      .ok (["up".toList, "a.proto".toList], Text.toBytes "syntax;", false) := by cbv
  rw [hrun] at hreport hsource htarget hnumber
  cases hreport
  have hapart : CopiesApart d' ⟨"up"⟩ ⟨"Protos"⟩ ["a.proto".toList] [] := by
    refine ⟨fun f hf g hg hone => ?_, fun f hf g hg _ => ?_, fun f hf => absurd hf List.not_mem_nil⟩
    · rw [List.mem_singleton.1 hf, List.mem_singleton.1 hg] at hone
      obtain ⟨p, q, hp, hq, hsame⟩ := hone
      obtain rfl := Option.some.inj (htarget.symm.trans hp)
      obtain rfl := Option.some.inj (hsource.symm.trans hq)
      rw [sameFile_iff_of_number?_eq_none hnumber] at hsame
      exact absurd hsame (by decide)
    · rw [List.mem_singleton.1 hf, List.mem_singleton.1 hg]
      exact ⟨_, _, hsource, hsource, .refl d' _⟩
  obtain ⟨place, bytes, executable, -, hsame, -, copy, hcopy⟩ :=
    hkept [] (by simp [CopyReport.failed]) (fun _ _ _ => rfl) hapart "a.proto"
      (List.mem_singleton.2 rfl)
  cases hsame _ hread
  exact ⟨_, d', hrun, rfl, rfl, hapart, copy, hcopy⟩

/-- A file listed by its path from the root is its own copy: it is emptied, and reported as copied. -/
theorem copyProtos_empties_absolute : ∃ report d',
    (copyProtos ⟨"up"⟩ ⟨"Protos"⟩ ["/up/a.proto"] : DiskAction FileError CopyReport).runOn
        oneProto = (.ok report, d') ∧
      report.copied = ["/up/a.proto".toList] ∧
      oneProto.readFile (Path.join ⟨"up"⟩ "/up/a.proto").text =
        .ok (["up".toList, "a.proto".toList], Text.toBytes "syntax;", false) ∧
      d'.readFile (Path.join ⟨"up"⟩ "/up/a.proto").text =
        .ok (["up".toList, "a.proto".toList], ByteArray.empty, false) ∧
      Text.toBytes "syntax;" ≠ ByteArray.empty := by
  rcases hrun : (copyProtos ⟨"up"⟩ ⟨"Protos"⟩ ["/up/a.proto"] :
    DiskAction FileError CopyReport).runOn oneProto with ⟨r, d'⟩
  have hreport : ((copyProtos ⟨"up"⟩ ⟨"Protos"⟩ ["/up/a.proto"] :
      DiskAction FileError CopyReport).runOn oneProto).1 =
        .ok ⟨[("/up/a.proto", .copied)]⟩ := by cbv
  have hafter : ((copyProtos ⟨"up"⟩ ⟨"Protos"⟩ ["/up/a.proto"] :
      DiskAction FileError CopyReport).runOn oneProto).2.readFile "/up/a.proto" =
        .ok (["up".toList, "a.proto".toList], ByteArray.empty, false) := by cbv
  rw [hrun] at hreport hafter
  cases hreport
  exact ⟨_, d', rfl, rfl, by cbv, hafter, by decide⟩

end ProtoUpkeep
