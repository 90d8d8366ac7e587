import ProtoUpkeep.Proofs.Files.Backups
import ProtoUpkeep.Proofs.Status.Coverage
import ProtoUpkeep.Status.Sync

/-!
# Runs leave a disk that is old or new

A run reads two files, makes a plan and overwrites the Swift file. A dry run makes the same plan and
stops there. What a run leaves behind is told by `SyncOutcome`: the new text at the Swift path and
everything else as it was, or everything as it was, if what the run has begun can be undone. It cannot be
undone where the old text is not copied back, because the Swift path leads to a file that may not be
written or because the copying breaks off (`StatusSync.run_atomic_not_undone`).
-/

namespace ProtoUpkeep

open Disk

variable {d d' : Disk} {o : Outside} {proto swift : Path} {updateComments : Bool} {plan : Plan} {dir : Place}
  {name : Text} {left : Nat}

/-! ## Planning -/

/-- Looking whether a file is there leaves the disk alone. -/
theorem StatusSync.readsOnly_requireFile (kind : InputFile) (path : Path) :
    (requireFile kind path).ReadsOnly :=
  (Files.readsOnly_isFile path).bind fun found => by
    cases found
    · exact DiskAction.readsOnly_throw _
    · exact DiskAction.readsOnly_pure _

/-- Planning leaves the disk alone. -/
theorem StatusSync.readsOnly_planFiles (s : StatusSync) (proto swift : Path)
    (updateComments : Bool) : (s.planFiles proto swift updateComments).ReadsOnly :=
  (readsOnly_requireFile .proto proto).bind fun _ =>
    (readsOnly_requireFile .swift swift).bind fun _ =>
      ((Files.readsOnly_readText proto).mapError _).bind fun _ =>
        ((Files.readsOnly_readText swift).mapError _).bind fun _ => DiskAction.readsOnly_ofReader _

/-- A plan keeps the text that it was made for. -/
theorem StatusSync.original_of_plan {s : StatusSync} {protoText swiftText : Text}
    (h : s.plan protoText swiftText updateComments = .ok plan) : plan.original = swiftText := by
  unfold StatusSync.plan at h
  split at h
  · cases h
  · cases h
    rfl

/-- A file that is asked for is there exactly if it is seen. -/
theorem StatusSync.runOn_requireFile_eq_ok_iff {kind : InputFile} {path : Path} :
    (requireFile kind path).runOn d o = (.ok (), d) ↔ o.isFile d path.text = true := by
  have hfound : (Files.isFile path : DiskAction StatusError Bool).runOn d o =
      (.ok (o.isFile d path.text), d) := by rw [Files.isFile, DiskAction.runOn_ofQuery]
  rw [requireFile, DiskAction.runOn_bind_ok hfound]
  cases o.isFile d path.text
  · exact ⟨nofun, nofun⟩
  · exact ⟨fun _ => rfl, fun _ => rfl⟩

/-- A path that a text is read from leads to a file, which is seen if it is not hidden. -/
theorem StatusSync.isFile_iff_of_runOn_readText {path : Path} {t : Text}
    (h : (Files.readText path).runOn d o = (.ok t, d)) :
    o.isFile d path.text = true ↔ o.hides path.text = false := by
  obtain ⟨-, -, q, content, executable, hlookup, -⟩ :=
    Files.runOn_readText_eq_ok_iff_of_outside.1 h
  have hfile : d.isFile path.text = true := isFile_eq_true_iff.2 ⟨q, content, executable, hlookup⟩
  rw [Outside.isFile, hfile, Bool.and_true, Bool.not_eq_true']

/-- A plan is made where both files are seen and can be read and there is one for their texts. -/
theorem StatusSync.runOn_planFiles_eq_ok_iff {s : StatusSync} :
    (s.planFiles proto swift updateComments).runOn d o = (.ok plan, d) ↔
      o.hides proto.text = false ∧ o.hides swift.text = false ∧ ∃ protoText swiftText,
        (Files.readText proto).runOn d o = (.ok protoText, d) ∧
        (Files.readText swift).runOn d o = (.ok swiftText, d) ∧
        s.plan protoText swiftText updateComments = .ok plan := by
  constructor
  · intro h
    obtain ⟨_, _, hproto, h₁⟩ := DiskAction.exists_of_runOn_bind h
    obtain ⟨_, _, hswift, h₂⟩ := DiskAction.exists_of_runOn_bind h₁
    obtain ⟨protoText, _, hprotoText, h₃⟩ := DiskAction.exists_of_runOn_bind h₂
    obtain ⟨swiftText, _, hswiftText, h₄⟩ := DiskAction.exists_of_runOn_bind h₃
    obtain rfl := (readsOnly_requireFile .proto proto).eq_of_runOn hproto
    obtain rfl := (readsOnly_requireFile .swift swift).eq_of_runOn hswift
    obtain rfl := ((Files.readsOnly_readText proto).mapError _).eq_of_runOn hprotoText
    obtain rfl := ((Files.readsOnly_readText swift).mapError _).eq_of_runOn hswiftText
    replace hprotoText := DiskAction.runOn_of_mapError hprotoText
    replace hswiftText := DiskAction.runOn_of_mapError hswiftText
    exact ⟨(isFile_iff_of_runOn_readText hprotoText).1 (runOn_requireFile_eq_ok_iff.1 hproto),
      (isFile_iff_of_runOn_readText hswiftText).1 (runOn_requireFile_eq_ok_iff.1 hswift),
      protoText, swiftText, hprotoText, hswiftText, congrArg Prod.fst h₄⟩
  · rintro ⟨hproto, hswift, protoText, swiftText, hprotoText, hswiftText, hplan⟩
    have hprotoFile := (isFile_iff_of_runOn_readText hprotoText).2 hproto
    have hswiftFile := (isFile_iff_of_runOn_readText hswiftText).2 hswift
    rw [planFiles, DiskAction.runOn_bind_ok (runOn_requireFile_eq_ok_iff.2 hprotoFile),
      DiskAction.runOn_bind_ok (runOn_requireFile_eq_ok_iff.2 hswiftFile),
      DiskAction.runOn_bind_ok (DiskAction.runOn_mapError_ok hprotoText _),
      DiskAction.runOn_bind_ok (DiskAction.runOn_mapError_ok hswiftText _),
      DiskAction.runOn_ofReader, hplan]

/-! ## Running -/

/-- What a run (`real`) and a dry run (`dry`) on one disk have done. -/
structure SyncOutcome (o : Outside) (swift : Path) (d : Disk)
    (dry real : Except StatusError SyncReport × Disk) : Prop where
  /-- The dry run leaves the disk alone. -/
  dry_disk : dry.2 = d
  /-- Where the dry run fails the run fails too, and leaves the disk alone. -/
  same_error : ∀ e, dry.1 = .error e → real = (.error e, d)
  /-- Where the plan changes nothing the run reports what the dry run does, and leaves the disk
  alone. -/
  in_sync : ∀ report, dry.1 = .ok report → report.plan.hasChanges = false → real = (.ok report, d)
  /-- A run that succeeds has made the plan of the dry run. -/
  same_plan : ∀ report, real.1 = .ok report →
    dry.1 = .ok { report with written := false } ∧ report.written = report.plan.hasChanges
  /-- Behind a run that succeeds the Swift file holds the text of the plan. -/
  read_back : ∀ report, real.1 = .ok report →
    (Files.readText swift).runOn real.2 = (.ok report.plan.updated, real.2)
  /-- A run that succeeds changes no entry but the one that the Swift path names. -/
  other_entries : ∀ report, real.1 = .ok report → ∃ dir name,
    d.lastName? swift.text = .ok (some ⟨dir, name, false⟩) ∧ SameExcept [dir ++ [name]] d real.2
  /-- A run that fails changes no entry, if what it has begun can be undone. -/
  no_entries : Files.CleansUp o swift → ∀ e, real.1 = .error e → SameExcept [] d real.2
  /-- A run that fails changes nothing but the Swift file, its backup and its temporary file. -/
  touches : ∀ e, real.1 = .error e → real.2 = d ∨ ∃ dir name,
    d.lastName? swift.text = .ok (some ⟨dir, name, false⟩) ∧
      SameExcept (Files.touched swift dir name d) d real.2
  /-- A run succeeds where the dry run does, if the backup and the temporary file can be there and
  nothing stands in the way. -/
  succeeds : o.Grants → ∀ report, dry.1 = .ok report →
    (∃ p, d.lookup false (Files.backupPath swift).text = .ok (.vacant p)) →
    (∃ p, d.lookup false (Files.temporaryPath d.process swift).text = .ok (.vacant p)) →
    ∃ report, real.1 = .ok report

/-- No plan can be made. -/
theorem SyncOutcome.refused (e : StatusError) :
    SyncOutcome o swift d (.error e, d) (.error e, d) where
  dry_disk := rfl
  same_error _ he := by cases he; rfl
  in_sync _ h := by cases h
  same_plan _ h := by cases h
  read_back _ h := by cases h
  other_entries _ h := by cases h
  no_entries _ _ _ := SameExcept.refl [] d
  touches _ _ := .inl rfl
  succeeds _ _ h := by cases h

/-- The plan changes nothing. -/
theorem SyncOutcome.inSync (hchanges : plan.hasChanges = false)
    (hentry : EntryAt d swift.text dir name left)
    (hread : (Files.readText swift).runOn d = (.ok plan.original, d)) :
    SyncOutcome o swift d (.ok ⟨plan, false⟩, d) (.ok ⟨plan, false⟩, d) where
  dry_disk := rfl
  same_error _ he := by cases he
  in_sync _ h _ := by cases h; rfl
  same_plan _ h := by
    cases h
    exact ⟨rfl, hchanges.symm⟩
  read_back _ h := by
    cases h
    have hsame : plan.original = plan.updated := by simpa [Plan.hasChanges] using hchanges
    rwa [← hsame]
  other_entries _ _ := ⟨dir, name, hentry.lastName?, SameExcept.refl _ d⟩
  no_entries _ _ he := by cases he
  touches _ he := by cases he
  succeeds _ _ _ _ _ := ⟨_, rfl⟩

/-- The plan changes the Swift file. -/
theorem SyncOutcome.written (hchanges : plan.hasChanges = true)
    (hentry : EntryAt d swift.text dir name left)
    (hread : (Files.readText swift).runOn d' = (.ok plan.updated, d'))
    (hsame : SameExcept [dir ++ [name]] d d') :
    SyncOutcome o swift d (.ok ⟨plan, false⟩, d) (.ok ⟨plan, true⟩, d') where
  dry_disk := rfl
  same_error _ he := by cases he
  in_sync _ h hnone := by
    cases h
    rw [hchanges] at hnone
    cases hnone
  same_plan _ h := by
    cases h
    exact ⟨rfl, hchanges.symm⟩
  read_back _ h := by
    cases h
    exact hread
  other_entries _ _ := ⟨dir, name, hentry.lastName?, hsame⟩
  no_entries _ _ he := by cases he
  touches _ he := by cases he
  succeeds _ _ _ _ _ := ⟨_, rfl⟩

/-- The Swift file cannot be overwritten. -/
theorem SyncOutcome.failed (hchanges : plan.hasChanges = true) (e : StatusError)
    (hentry : EntryAt d swift.text dir name left)
    (hsame : Files.CleansUp o swift → SameExcept [] d d')
    (htouched : SameExcept (Files.touched swift dir name d) d d')
    (hcannot : o.Grants → (∃ p, d.lookup false (Files.backupPath swift).text = .ok (.vacant p)) →
      (∃ p, d.lookup false (Files.temporaryPath d.process swift).text = .ok (.vacant p)) → False) :
    SyncOutcome o swift d (.ok ⟨plan, false⟩, d) (.error e, d') where
  dry_disk := rfl
  same_error _ he := by cases he
  in_sync _ h hnone := by
    cases h
    rw [hchanges] at hnone
    cases hnone
  same_plan _ h := by cases h
  read_back _ h := by cases h
  other_entries _ h := by cases h
  no_entries hclean _ _ := hsame hclean
  touches _ _ := .inr ⟨dir, name, hentry.lastName?, htouched⟩
  succeeds hgrants _ _ hbackup htemporary := (hcannot hgrants hbackup htemporary).elim

/-- A dry run ends with its plan, and so does a run whose plan changes nothing. -/
theorem StatusSync.runOn_run_unwritten {s : StatusSync} (options : SyncOptions)
    (hplan : (s.planFiles proto swift options.updateComments).runOn d o = (.ok plan, d))
    (h : (options.dryRun || !plan.hasChanges) = true) :
    (s.run proto swift options).runOn d o = (.ok ⟨plan, false⟩, d) := by
  rw [StatusSync.run, DiskAction.runOn_bind_ok hplan, if_pos h,
    DiskAction.runOn_pure]

/-- A run whose plan changes the Swift file overwrites it. -/
theorem StatusSync.runOn_run_written {s : StatusSync} {r : Except FileError Unit}
    (hplan : (s.planFiles proto swift updateComments).runOn d o = (.ok plan, d))
    (hchanges : plan.hasChanges = true)
    (hwrite : (Files.overwrite swift plan.updated).runOn d o = (r, d')) :
    (s.run proto swift ⟨false, updateComments⟩).runOn d o =
      ((r.map fun _ => ⟨plan, true⟩).mapError .file, d') := by
  rw [StatusSync.run, DiskAction.runOn_bind_ok hplan, if_neg (by simp [hchanges])]
  cases r with
  | error error => exact DiskAction.runOn_bind_error (DiskAction.runOn_mapError_error hwrite _)
  | ok written => exact DiskAction.runOn_bind_ok (DiskAction.runOn_mapError_ok hwrite _)

/-- A dry run reports a plan exactly if both files are seen and can be read and it is the plan for
their texts. -/
theorem StatusSync.runOn_dryRun_eq_ok_iff {s : StatusSync} :
    ((s.run proto swift ⟨true, updateComments⟩).runOn d o).1 = .ok ⟨plan, false⟩ ↔
      o.hides proto.text = false ∧ o.hides swift.text = false ∧ ∃ protoText swiftText,
        (Files.readText proto).runOn d o = (.ok protoText, d) ∧
        (Files.readText swift).runOn d o = (.ok swiftText, d) ∧
        s.plan protoText swiftText updateComments = .ok plan := by
  rw [← runOn_planFiles_eq_ok_iff]
  constructor
  · intro h
    rcases hplan : (s.planFiles proto swift updateComments).runOn d o with ⟨r, d₁⟩
    obtain rfl := (s.readsOnly_planFiles proto swift updateComments).eq_of_runOn hplan
    cases r with
    | error e =>
      rw [StatusSync.run, DiskAction.runOn_bind_error hplan] at h
      cases h
    | ok made =>
      rw [runOn_run_unwritten ⟨true, updateComments⟩ hplan (by simp)] at h
      cases h
      rfl
  · intro hplan
    rw [runOn_run_unwritten ⟨true, updateComments⟩ hplan (by simp)]

/-- A disk with two files in the directory that the process works in. -/
def twoFiles (protoText swiftText : Text) : Disk :=
  (Disk.empty.put ["codes.proto"] (.file protoText.toBytes false)).put ["Status.swift"]
    (.file swiftText.toBytes false)

/-- The entries of the directory. -/
theorem get?_twoFiles (protoText swiftText name : Text) :
    (twoFiles protoText swiftText).get? ([] ++ [name]) =
      if name = "Status.swift".toList then some (.file swiftText.toBytes false)
      else if name = "codes.proto".toList then some (.file protoText.toBytes false) else none := by
  have hnone : Disk.empty.get? [name] = none := by simp [Disk.get?, Disk.empty]
  rw [List.nil_append, twoFiles, get?_put (by simp), get?_put (by simp), hnone]
  simp only [List.cons.injEq, and_true]

/-- A name is a path to an entry of the directory. -/
theorem entryAt_twoFiles (protoText swiftText : Text)
    (h : checkPath name = .ok () ∧ RawPath.ofText name = ⟨false, [name], false⟩ ∧
      name ≠ RawPath.dot ∧ name ≠ RawPath.dotDot ∧ byteCount name ≤ maxName) :
    EntryAt (twoFiles protoText swiftText) name [] name maxLinks := by
  obtain ⟨hchecked, hpath, hdot, hdotDot, hbytes⟩ := h
  refine ⟨hchecked, ⟨[], ⟨?_, ?_⟩, ?_⟩, hdot, hdotDot, hbytes⟩ <;> rw [hpath]
  · rfl
  · exact .nil

/-- Both files can be read. -/
theorem readText_twoFiles (protoText swiftText : Text) :
    (Files.readText ⟨"codes.proto"⟩).runOn (twoFiles protoText swiftText) =
        (.ok protoText, twoFiles protoText swiftText) ∧
      (Files.readText ⟨"Status.swift"⟩).runOn (twoFiles protoText swiftText) =
        (.ok swiftText, twoFiles protoText swiftText) := by
  have hentry := fun name => @entryAt_twoFiles name protoText swiftText
  refine ⟨Files.runOn_readText_eq_ok_iff.2 ⟨rfl, _, _, false,
      (hentry "codes.proto" (by decide)).lookup_of_file ?_, Text.ofBytes?_toBytes _⟩,
    Files.runOn_readText_eq_ok_iff.2 ⟨rfl, _, _, false,
      (hentry "Status.swift" (by decide)).lookup_of_file ?_, Text.ofBytes?_toBytes _⟩⟩
  · rw [get?_twoFiles, if_neg (by decide), if_pos rfl]
  · rw [get?_twoFiles, if_pos rfl]

/-- Nothing stands where the backup and the temporary file go, and both can be there. -/
theorem vacant_twoFiles (protoText swiftText : Text) :
    (twoFiles protoText swiftText).lookup false (Files.backupPath ⟨"Status.swift"⟩).text =
        .ok (.vacant ["Status.swift.bak"]) ∧
      (twoFiles protoText swiftText).lookup false (Files.temporaryPath 1 ⟨"Status.swift"⟩).text =
        .ok (.vacant [".Status.swift.1.tmp"]) := by
  have htext : (Files.temporaryPath 1 ⟨"Status.swift"⟩).text = ".Status.swift.1.tmp".toList := by
    decide
  have hentry := fun name => @entryAt_twoFiles name protoText swiftText
  rw [htext]
  refine ⟨(hentry "Status.swift.bak" (by decide)).lookup_of_none ?_,
    (hentry ".Status.swift.1.tmp" (by decide)).lookup_of_none ?_⟩
  all_goals rw [get?_twoFiles, if_neg (by decide), if_neg (by decide)]

/-! ## Runs that are not undone -/

/-- Settings under which each text goes in front of the name of the system. -/
def kernelSync : StatusSync where
  settings := { StatusSettings.default with
    anchors := ⟨.marker "Linux", .marker "Linux", .marker "Linux", .marker "Linux", .marker "Linux"⟩ }
  points := ⟨.marker "Linux", .marker "Linux", .marker "Linux", .marker "Linux", .marker "Linux"⟩

/-- A name with which that of the temporary file is too long, but not that of the backup. -/
def longSwift : Path := ⟨List.replicate 62 '🔒' ++ ['✓']⟩

/-- The place of a file with the name of the system. -/
def kernelFile : Place := ["proc", "sys", "kernel", "ostype"]

/-- The Swift path is a link to the file. -/
def kernelDisk : Disk := ofEntries [
  ([longSwift.text], .link "/proc/sys/kernel/ostype"),
  (["codes.proto"], .file oneCode.toBytes false),
  (kernelFile, .file (Text.toBytes "Linux\n") false),
  (["proc", "sys", "kernel"], .directory),
  (["proc", "sys"], .directory),
  (["proc"], .directory)]

/-- The outside in which nothing is renamed, and copying to a path breaks off at once. -/
def breakingOff (path : Text) : Outside :=
  { Outside.calm with
    refuses := fun _ call =>
      match call with
      | .rename .. => some .permissionDenied
      | _ => none
    breaksOff := fun _ call =>
      match call with
      | .copy _ target => if target = path then some (.permissionDenied, ⟨0, false⟩) else none
      | _ => none }

/-- A plan for the name of the system changes it. -/
theorem exists_plan_kernelSync : ∃ plan, kernelSync.plan oneCode "Linux\n" false = .ok plan ∧
    plan.hasChanges = true := by
  have hchanges : (kernelSync.plan oneCode "Linux\n" false).toOption.any Plan.hasChanges = true := by
    decide +kernel
  cases hplan : kernelSync.plan oneCode "Linux\n" false with
  | error e =>
    rw [hplan] at hchanges
    cases hchanges
  | ok plan =>
    rw [hplan] at hchanges
    exact ⟨plan, rfl, hchanges⟩

/-- A run fails where the overwriting does. -/
theorem runOn_run_of_overwrite_error {s : StatusSync} {protoText swiftText : Text} {error : FileError}
    (hhides : o.hides proto.text = false ∧ o.hides swift.text = false)
    (hproto : (Files.readText proto).runOn d o = (.ok protoText, d))
    (hswift : (Files.readText swift).runOn d o = (.ok swiftText, d))
    (hplan : ∃ plan, s.plan protoText swiftText false = .ok plan ∧ plan.hasChanges = true)
    (hwrite : ∀ t, ((Files.overwrite swift t).runOn d o).1 = .error error) : ∃ plan : Plan,
    (s.run proto swift ⟨false, false⟩).runOn d o =
      (.error (.file error), ((Files.overwrite swift plan.updated).runOn d o).2) := by
  obtain ⟨plan, hplan, hchanges⟩ := hplan
  have hplanned := StatusSync.runOn_planFiles_eq_ok_iff.2
    ⟨hhides.1, hhides.2, protoText, swiftText, hproto, hswift, hplan⟩
  exact ⟨plan, StatusSync.runOn_run_written hplanned hchanges (Prod.ext (hwrite _) rfl)⟩

/-- The run fails, since the name of the temporary file is too long, and leaves the backup, since nothing
is copied back to the file. -/
theorem exists_runOn_run_kernelDisk :
    ∃ error d', (kernelSync.run ⟨"codes.proto"⟩ longSwift ⟨false, false⟩).runOn kernelDisk
        (.guarding kernelFile) = (.error error, d') ∧
      d'.get? [longSwift.text ++ ".bak".toList] = some (.file (Text.toBytes "Linux\n") false) := by
  have hproto : (Files.readText ⟨"codes.proto"⟩).runOn kernelDisk (.guarding kernelFile) =
      (.ok oneCode, kernelDisk) := by cbv
  have hswift : (Files.readText longSwift).runOn kernelDisk (.guarding kernelFile) =
      (.ok "Linux\n".toList, kernelDisk) := by cbv
  have hlong : ∀ t, ((Files.overwrite longSwift t).runOn kernelDisk (.guarding kernelFile)).1 =
      .error (.writeFailed longSwift.text false
        (.io (Files.temporaryPath 1 longSwift).text .nameTooLong)) := fun t => by cbv
  have hleft : ∀ t, ((Files.overwrite longSwift t).runOn kernelDisk (.guarding kernelFile)).2.get?
      [longSwift.text ++ ".bak".toList] = some (.file (Text.toBytes "Linux\n") false) := fun t => by
    cbv
  obtain ⟨plan, hrun⟩ :=
    runOn_run_of_overwrite_error ⟨rfl, rfl⟩ hproto hswift exists_plan_kernelSync hlong
  exact ⟨_, _, hrun, hleft _⟩

/-- The run fails, since nothing is renamed, and leaves an empty Swift file, since the copying back breaks
off. -/
theorem exists_runOn_run_breakingOff :
    ∃ error d', (kernelSync.run ⟨"codes.proto"⟩ ⟨"Status.swift"⟩ ⟨false, false⟩).runOn
        (twoFiles oneCode "Linux\n") (breakingOff "Status.swift") = (.error error, d') ∧
      d'.get? ["Status.swift"] = some (.file ByteArray.empty false) := by
  have hproto : (Files.readText ⟨"codes.proto"⟩).runOn (twoFiles oneCode "Linux\n")
      (breakingOff "Status.swift") = (.ok oneCode, twoFiles oneCode "Linux\n") := by cbv
  have hswift : (Files.readText ⟨"Status.swift"⟩).runOn (twoFiles oneCode "Linux\n")
      (breakingOff "Status.swift") = (.ok "Linux\n".toList, twoFiles oneCode "Linux\n") := by cbv
  have hrefused : ∀ t, ((Files.overwrite ⟨"Status.swift"⟩ t).runOn (twoFiles oneCode "Linux\n")
      (breakingOff "Status.swift")).1 = .error (.writeFailed "Status.swift" false
        (.io "Status.swift" .permissionDenied)) := fun t => by cbv
  have hempty : ∀ t, ((Files.overwrite ⟨"Status.swift"⟩ t).runOn (twoFiles oneCode "Linux\n")
      (breakingOff "Status.swift")).2.get? ["Status.swift"] = some (.file ByteArray.empty false) :=
    fun t => by cbv
  obtain ⟨plan, hrun⟩ :=
    runOn_run_of_overwrite_error ⟨rfl, rfl⟩ hproto hswift exists_plan_kernelSync hrefused
  exact ⟨_, _, hrun, hempty _⟩

end ProtoUpkeep
