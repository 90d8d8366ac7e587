import ProtoUpkeep.Proofs.Tree.Entries
import ProtoUpkeep.Proofs.Tree.Flattening
import ProtoUpkeep.Proofs.Tree.ImportedPaths
import ProtoUpkeep.Tree.Codegen

/-!
# Imports that resolve

The compiler looks imports up below the local tree. The listed files keep their directories when they
are copied there, and then the imports of the files outside the directories to skip lose theirs
(`imports_of_flattenImports?`). So an import still names a file if its path without directories is
listed as well (`imports_resolve`), and otherwise it may name none (`imports_lose_directory`).

Copies into an empty directory do not get in each other's way and leave no temporary files
(`copiesApart_of_emptyAt`, `noLeftovers_of_emptyAt`), so each of them has the text of the listed file,
or its flat text (`text_of_copy`).
-/

namespace ProtoUpkeep

open Disk
open RawPath (ofText)

variable {ε : Type} {d d' d₁ d₂ : Disk} {source dest root : Path}
  {outcomes : List (Text × CopyOutcome)} {base q dir : Place} {f name path proto : Text} {left : Nat}
  {content : ByteArray} {executable : Bool}

/-! ## Copies into an empty directory -/

/-- A relative path to a proto file. -/
structure IsRelativeProto (f : Text) : Prop extends IsRelative f where
  /-- It has the ending of proto files. -/
  endsWith : f.endsWith ".proto" = true

instance : DecidablePred IsRelativeProto := fun f =>
  decidable_of_iff (IsRelative f ∧ f.endsWith ".proto" = true)
    ⟨fun h => ⟨h.1, h.2⟩, fun h => ⟨h.toIsRelative, h.endsWith⟩⟩

/-- A path to a proto file leads through a name with the ending. -/
theorem IsRelativeProto.exists_namesOf (hf : IsRelativeProto f) :
    ∃ before last, namesOf f = before ++ [last ++ ".proto".toList] := by
  obtain ⟨t, rfl⟩ := List.isSuffixOf_iff_suffix.1 hf.endsWith
  have hforward : Path.forward (t ++ ".proto".toList) = Path.forward t ++ ".proto".toList :=
    List.map_append
  have hslash : '/' ∉ ".proto".toList := by decide
  obtain ⟨us, last, -, hpieces⟩ := RawPath.exists_pieces_append hslash (Path.forward t)
  have hlen : (last ++ ".proto".toList).length = last.length + 6 := List.length_append
  have hne : last ++ ".proto".toList ≠ [] := List.ne_nil_of_length_pos (by omega)
  have hdot : last ++ ".proto".toList ≠ RawPath.dot := fun h => by
    have hone : RawPath.dot.length = 1 := rfl
    rw [h] at hlen
    omega
  have hnamed : ∀ name : Text, name ≠ [] → name ≠ RawPath.dot →
      ((us ++ [name]).filter fun c => !c.isEmpty).filter (fun c => c ≠ RawPath.dot) =
        ((us.filter fun c => !c.isEmpty).filter fun c => c ≠ RawPath.dot) ++ [name] :=
    fun name hne hdot => by simp [hne, hdot]
  refine ⟨_, last, Eq.trans ?_ (hnamed _ hne hdot)⟩
  rw [namesOf, hforward, ofText, hpieces]

theorem IsRelativeProto.namesOf_ne_nil (hf : IsRelativeProto f) : namesOf f ≠ [] := by
  obtain ⟨before, last, hnames⟩ := hf.exists_namesOf
  simp [hnames]

namespace Disk

/-- A place where nothing stands, or a directory with nothing in it. -/
def EmptyAt (d : Disk) (base : Place) : Prop :=
  ∀ rel e, d.get? (base ++ rel) = some e → rel = [] ∧ e = .directory

/-- An empty directory is plain. -/
theorem EmptyAt.plainBelow (h : EmptyAt d base) : PlainBelow d base where
  ne_link hget := by cases (h _ _ hget).2
  backslash_not_mem hget := by
    rw [List.append_assoc] at hget
    exact absurd (h _ _ hget).1 (by simp)

/-- There is no file in an empty directory. -/
theorem EmptyAt.ne_file (h : EmptyAt d base) (rel : Place) :
    d.get? (base ++ rel) ≠ some (.file content executable) := fun hget => by
  cases (h _ _ hget).2

/-- There are no names of files in an empty directory. -/
theorem EmptyAt.number? (h : EmptyAt d base) (rel : Place) : d.number? (base ++ rel) = none := by
  cases hnumber : d.number? (base ++ rel) with
  | none => rfl
  | some n =>
    obtain ⟨content, executable, hget⟩ :=
      exists_file_of_isSome_number? (d := d) (p := base ++ rel) (by rw [hnumber]; rfl)
    exact absurd hget (h.ne_file rel)

/-- A directory of a plain tree is empty if no other entry is below it. -/
theorem emptyAt_ofEntries {entries : List (Place × Entry)} (h : isPlainTree entries = true)
    (hne : base ≠ []) (hbelow : ∀ x ∈ entries, base <+: x.1 → x = (base, .directory)) :
    EmptyAt (ofEntries entries) base := by
  intro rel e hget
  have hmem := (mem_of_get?_ofEntries h hget).resolve_left (by simp [hne])
  obtain ⟨hplace, rfl⟩ := Prod.mk.inj (hbelow _ hmem (List.prefix_append base rel))
  exact ⟨by simpa using hplace, rfl⟩

/-- A path that leads to a file leads to one on a disk that grows. -/
theorem isFile_grows (h : Grows d d') (hfile : d.isFile path = true) : d'.isFile path = true := by
  obtain ⟨q, content, executable, hlookup⟩ := isFile_eq_true_iff.1 hfile
  obtain ⟨content', executable', -, hlookup'⟩ := lookup_file_grows h hlookup
  exact isFile_eq_true_iff.2 ⟨q, content', executable', hlookup'⟩

end Disk

/-- The copy of a file is there. -/
theorem CopyRun.exists_copy (h : CopyRun .calm source dest d outcomes d')
    (hcopied : name ∈ CopyReport.copied ⟨outcomes⟩) : ∃ q content executable,
      d'.lookup true (dest.join name).text = .ok (.found q (.file content executable)) := by
  rw [CopyReport.mem_copied_iff] at hcopied
  induction h with
  | nil => cases hcopied
  | cons hstep hrun ih =>
    rcases List.mem_cons.1 hcopied with hfirst | hrest
    · cases hfirst
      cases hstep with
      | absorbed _ _ habsorbs => cases habsorbs
      | copied _ _ _ hwritten =>
        obtain ⟨content, executable, -, hlookup⟩ := lookup_file_grows hrun.grows hwritten.lookup
        exact ⟨_, content, executable, hlookup⟩
    · exact ih hrest

/-- A file that is there is copied, or copying it fails. -/
theorem CopyRun.copied_or_failed (h : CopyRun .calm source dest d outcomes d')
    (hname : name ∈ outcomes.map Prod.fst) (hfile : d.isFile (source.join name).text = true) :
    name ∈ CopyReport.copied ⟨outcomes⟩ ∨ name ∈ (CopyReport.failed ⟨outcomes⟩).map Prod.fst := by
  induction h with
  | nil => cases hname
  | @cons d d₁ d' first outcome outcomes hstep hrun ih =>
    rcases List.mem_cons.1 hname with rfl | hrest
    · cases hstep with
      | notFound hno => exact absurd (hfile.symm.trans hno) (by simp)
      | failed | broken => exact .inr List.mem_cons_self
      | copied | absorbed => exact .inl List.mem_cons_self
    · refine (ih hrest (isFile_grows hstep.grows hfile)).imp (fun hcopied => ?_) fun hfailed => ?_
      · rw [CopyReport.mem_copied_iff] at hcopied ⊢
        exact List.mem_cons_of_mem _ hcopied
      · cases outcome with
        | failed error => exact List.mem_cons_of_mem _ hfailed
        | copied => exact hfailed
        | notFound => exact hfailed

section Empty

variable (hrun : CopyRun .calm source dest d outcomes d₁) (hd : Sound d) (hdest : '\\' ∉ dest.text)
  (hbase : Leads d₁ dest.text base) (hempty : EmptyAt d base)
  (hlisted : ∀ x ∈ outcomes, IsRelativeProto x.1)

include hrun hd hdest hbase hempty hlisted

/-- The disk is sound behind the copies, and they make a plain tree. -/
theorem sound_and_plainBelow_of_emptyAt : Sound d₁ ∧ PlainBelow d₁ base :=
  hrun.sound_and_plainBelow hd hempty.plainBelow hdest fun x hx =>
    goesBelow_join hbase (hlisted x hx).toIsRelative (hlisted x hx).namesOf_ne_nil

/-- A copy stands at the place with its names. -/
theorem lookup_copy_of_emptyAt (hcopied : name ∈ CopyReport.copied ⟨outcomes⟩) :
    ∃ content executable, d₁.lookup true (dest.join name).text =
      .ok (.found (base ++ namesOf name) (.file content executable)) := by
  obtain ⟨q, content, executable, hlookup⟩ := hrun.exists_copy hcopied
  have hname := hlisted _ (CopyReport.mem_copied_iff.1 hcopied)
  obtain rfl := eq_of_lookup_join
    (sound_and_plainBelow_of_emptyAt hrun hd hdest hbase hempty hlisted).2.noLinksBelow
    hname.toIsRelative hbase hlookup
  exact ⟨content, executable, hlookup⟩

/-- Copies into an empty directory do not get in each other's way. -/
theorem copiesApart_of_emptyAt (hfiles : ∀ x ∈ outcomes, d.isFile (source.join x.1).text = true) :
    CopiesApart d₁ source dest (CopyReport.copied ⟨outcomes⟩) [] := by
  have htarget : ∀ f ∈ CopyReport.copied ⟨outcomes⟩,
      d₁.place? (dest.join f).text = some (base ++ namesOf f) := fun f hf => by
    obtain ⟨content, executable, hlookup⟩ :=
      lookup_copy_of_emptyAt hrun hd hdest hbase hempty hlisted hf
    exact place?_of_lookup hlookup
  have hsource : ∀ f ∈ CopyReport.copied ⟨outcomes⟩, ∃ q content executable,
      d.lookup true (source.join f).text = .ok (.found q (.file content executable)) ∧
        d₁.place? (source.join f).text = some q := fun f hf => by
    obtain ⟨q, content, executable, hlookup⟩ :=
      isFile_eq_true_iff.1 (hfiles _ (CopyReport.mem_copied_iff.1 hf))
    exact ⟨q, content, executable, hlookup, place?_grows hrun.grows (place?_of_lookup hlookup)⟩
  have hrel : ∀ f ∈ CopyReport.copied ⟨outcomes⟩, IsRelative f := fun f hf =>
    (hlisted _ (CopyReport.mem_copied_iff.1 hf)).toIsRelative
  -- A copy has one name, since there was no file in the directory.
  have halone : ∀ f ∈ CopyReport.copied ⟨outcomes⟩, ∀ {t}, d₁.OneFile (dest.join f).text t →
      d₁.place? t = some (base ++ namesOf f) := by
    rintro f hf t ⟨p, q, hp, hq, hsame⟩
    obtain rfl := Option.some.inj ((htarget f hf).symm.trans hp)
    have hnumber := (hrun.number? (base ++ namesOf f)).trans (hempty.number? _)
    rw [hq, (sameFile_iff_of_number?_eq_none hnumber).1 hsame]
  refine ⟨fun f hf g hg hone => ?_, fun f hf g hg hone => ?_, fun f hf => absurd hf List.not_mem_nil⟩
  · -- The file that is copied was there before the directory got any.
    rw [List.append_nil] at hf
    obtain ⟨q, content, executable, hlookup, hplace⟩ := hsource g hg
    have hget := (get?_of_lookup hlookup).2
    rw [Option.some.inj (hplace.symm.trans (halone f hf hone))] at hget
    exact hempty.ne_file _ hget
  · obtain ⟨q, content, executable, hlookup, hplace⟩ := hsource f hf
    obtain ⟨q', content', executable', hlookup', hplace'⟩ := hsource g hg
    have heq := (htarget g hg).symm.trans (halone f hf hone)
    rw [Option.some.injEq, List.append_cancel_left_eq] at heq
    rw [← eq_of_lookup_join_of_namesOf (hrel f hf) (hrel g hg) heq.symm hlookup hlookup'] at hplace'
    exact ⟨q, q, hplace, hplace', .refl d₁ q⟩

/-- No copy has a temporary name. -/
theorem noLeftovers_of_emptyAt : NoLeftovers d₁ base := by
  intro rel path content executable hget
  by_cases hcopy : ∃ name, (name, .copied) ∈ outcomes ∧ d₁.place? (dest.join name).text =
      some (base ++ rel ++ [Files.temporaryName d₁.process path])
  · obtain ⟨name, hmem, hplace⟩ := hcopy
    obtain ⟨content, executable, hlookup⟩ := lookup_copy_of_emptyAt hrun hd hdest hbase hempty
      hlisted (CopyReport.mem_copied_iff.2 hmem)
    obtain ⟨before, last, hnames⟩ := (hlisted _ hmem).exists_namesOf
    rw [place?_of_lookup hlookup, hnames, Option.some.injEq, ← List.append_assoc] at hplace
    have hlast := (List.cons.inj (List.append_inj' hplace rfl).2).1
    have hend := Files.getLast?_temporaryName d₁.process path
    rw [← hlast, List.getLast?_append_of_ne_nil _ (by decide)] at hend
    exact absurd hend (by decide)
  · rw [hrun.file_iff fun name outcome hmem hwrites p hplace hsame => hcopy ⟨name, ?_⟩,
      List.append_assoc] at hget
    · exact hempty.ne_file _ hget
    · have hnumber : d₁.number? (base ++ rel ++ [Files.temporaryName d₁.process path]) = none := by
        rw [hrun.number?, List.append_assoc]
        exact hempty.number? _
      obtain rfl := (sameFile_iff_of_number?_eq_none hnumber).1 hsame.symm
      exact ⟨eq_copied_of_writes hwrites ▸ hmem, hplace⟩

end Empty

/-! ## A tree that is flattened afterwards -/

/-- Whatever comes of flattening a tree, some of the listed files are flat behind it and nothing else
has changed. -/
theorem flattenedAt_of_runOn_flattenTree {skip : List Text} {result : Except TreeError (List Path)}
    (hd : Sound d) (hplain : PlainBelow d base) (hbase : Leads d root.text base)
    (hleft : NoLeftovers d base) (hrun : (flattenTree root skip).runOn d = (result, d')) :
    ∃ rels : List Place, (∀ rel ∈ rels, IsListed .calm d skip root base rel) ∧
      FlattenedAt (rels.map (base ++ ·)) d d' := by
  by_cases hdirectory : d.isDirectory root.text = true
  · obtain ⟨q, hroot⟩ := isDirectory_eq_true_iff.1 hdirectory
    obtain rfl := (leads_of_lookup hroot).unique hbase
    have hend := flattenTree_ends hd hplain hroot hleft skip .calm
    rw [hrun] at hend
    cases hend with
    | failed _ hgrants => exact (hgrants Outside.calm_grants).2
    | flat _ hmem _ hflat _ => exact ⟨_, fun rel hrel => (hmem rel).1 hrel, hflat⟩
  · have hisDirectory : (Files.isDirectory root : DiskAction TreeError Bool).runOn d =
        (.ok (d.isDirectory root.text), d) := DiskAction.runOn_ofQuery _ _
    rw [flattenTree, DiskAction.runOn_bind_ok hisDirectory, if_neg hdirectory] at hrun
    obtain ⟨-, rfl⟩ := Prod.mk.inj hrun
    exact ⟨[], by simp, .refl (by simp)⟩

/-- A text is read at the path. -/
def Disk.Reads (d : Disk) (path : Path) (text : Text) : Prop :=
  (Files.readText path).runOn d = (.ok text, d)

/-- A text is read where a path leads to a file whose bytes write it. -/
theorem Disk.reads_iff {text : Text} : d.Reads root text ↔ ∃ q content executable,
    d.lookup true root.text = .ok (.found q (.file content executable)) ∧
      Text.ofBytes? content = some text := by
  rw [Reads, Files.runOn_readText_eq_ok_iff, and_iff_right rfl]

/-- A flattened file holds the text that it held or the flat one. -/
theorem Entry.text_of_flattened {text : Text}
    (h : (Entry.file content executable).flattened = .file content' executable')
    (hbytes : Text.ofBytes? content' = some text) :
    Text.ofBytes? content = some text ∨
      ∃ proto, Text.ofBytes? content = some proto ∧ flattenImports? proto = some text := by
  cases hflatText : (Entry.file content executable).flatText? with
  | none =>
    rw [Entry.flattened_of_none hflatText] at h
    cases h
    exact .inl hbytes
  | some flat =>
    rw [Entry.flattened, hflatText] at h
    cases h
    rw [Text.ofBytes?_toBytes] at hbytes
    cases hbytes
    exact .inr (Option.bind_eq_some_iff.1 hflatText)

/-- Behind copying and flattening a copy has the text of the listed file, or its flat text if no
directory above it is one to skip. -/
theorem text_of_copy {skip : List Text} {rels : List Place} {text : Text}
    (hrun : CopyRun .calm source dest d outcomes d₁) (hd : Sound d) (hdest : '\\' ∉ dest.text)
    (hbase : Leads d₁ dest.text base) (hempty : EmptyAt d base)
    (hlisted : ∀ x ∈ outcomes, IsRelativeProto x.1)
    (hfiles : ∀ x ∈ outcomes, d.isFile (source.join x.1).text = true)
    (hrels : ∀ rel ∈ rels, IsListed .calm d₁ skip dest base rel)
    (hflat : FlattenedAt (rels.map (base ++ ·)) d₁ d₂)
    (hcopied : name ∈ CopyReport.copied ⟨outcomes⟩) (hread : d₂.Reads (dest.join name) text) :
    d.Reads (source.join name) text ∨ (∀ c ∈ (namesOf name).dropLast, c ∉ skip) ∧
      ∃ proto, d.Reads (source.join name) proto ∧ flattenImports? proto = some text := by
  have hfree : Undisturbed .calm d₁ source dest outcomes (CopyReport.copied ⟨outcomes⟩) [] :=
    ⟨fun f hf => CopyReport.mem_copied_iff.2 hf, fun _ _ _ ⟨_, hbreaks⟩ => (by cases hbreaks),
      fun _ _ _ => rfl, copiesApart_of_emptyAt hrun hd hdest hbase hempty hlisted hfiles⟩
  obtain ⟨q, p, content, executable, hkept⟩ :=
    hrun.kept hfree (CopyReport.mem_copied_iff.1 hcopied)
  -- The listed file and its copy have the same bytes, so both are read as the same text.
  have hsource : ∀ {proto}, Text.ofBytes? content = some proto → d.Reads (source.join name) proto := by
    intro proto hbytes
    obtain ⟨q₀, content₀, executable₀, hlookup₀⟩ :=
      isFile_eq_true_iff.1 (hfiles _ (CopyReport.mem_copied_iff.1 hcopied))
    obtain ⟨_, _, -, hlookup⟩ := lookup_file_grows hrun.grows hlookup₀
    cases hkept.source.symm.trans hlookup
    cases hkept.before.symm.trans (get?_of_lookup hlookup₀).2
    exact reads_iff.2 ⟨_, _, _, hlookup₀, hbytes⟩
  obtain ⟨_, _, hplace⟩ := lookup_copy_of_emptyAt hrun hd hdest hbase hempty hlisted hcopied
  cases hkept.target.symm.trans hplace
  obtain ⟨p, content', executable', hlookup', hbytes⟩ := reads_iff.1 hread
  obtain ⟨_, _, hget', hlookup⟩ := lookup_file_grows hflat.sameShape.grows hkept.target
  cases hlookup.symm.trans hlookup'
  rw [hflat.get?, (get?_of_lookup hkept.target).2] at hget'
  split at hget'
  · next hmem =>
    obtain ⟨rel, hrel, heq⟩ := List.mem_map.1 hmem
    obtain rfl := List.append_cancel_left heq
    rcases Entry.text_of_flattened (Option.some.inj hget') hbytes with
      hsame | ⟨proto, hproto, hflattens⟩
    · exact .inl (hsource hsame)
    · exact .inr ⟨(hrels _ hrel).not_skipped, proto, hsource hproto, hflattens⟩
  · cases hget'
    exact .inl (hsource hbytes)

/-- Every path that a listed file imports is listed. -/
def ImportsListed (d : Disk) (source : Path) (files : List Text) : Prop :=
  ∀ f ∈ files, ∀ proto, d.Reads (source.join f) proto → ∀ path, Imports proto path → path ∈ files

/-- The path of every import that is rewritten is listed without its directories. -/
def FlatImportsListed (d : Disk) (source : Path) (files skip : List Text) : Prop :=
  ∀ f ∈ files, (∀ c ∈ (namesOf f).dropLast, c ∉ skip) → ∀ proto, d.Reads (source.join f) proto →
    ∀ path, FlattensImport proto path → ImportLine.fileOf path ∈ files

/-- Proto files that are there are copied into an empty directory, and the tree is flattened, whatever
comes of that. If the paths that they import are all listed, and those that are rewritten are also
listed without their directories, then every import of a copy names a file where the compiler looks
imports up, unless that file is reported as one that could not be copied. -/
theorem imports_resolve (settings : TreeSettings) (root : Path) (hd : Sound d)
    (hroot : '\\' ∉ root.text)
    (hlisted : ∀ f ∈ settings.files, IsRelativeProto f ∧
      d.isFile ((root.join settings.sourceDir).join f).text = true)
    (himports : ImportsListed d (root.join settings.sourceDir) settings.files)
    (hflatImports : FlatImportsListed d (root.join settings.sourceDir) settings.files
      settings.skipDirs) :
    ∃ report d₁, (copyProtos (root.join settings.sourceDir) (root.join settings.destDir)
        settings.files : DiskAction ε CopyReport).runOn d = (.ok report, d₁) ∧
      ∀ result d₂, (∀ base, Leads d₁ (root.join settings.destDir).text base → EmptyAt d base) →
        (flattenTree (root.join settings.destDir) settings.skipDirs).runOn d₁ = (result, d₂) →
        ∀ f ∈ report.copied, d₂.isFile ((root.join settings.destDir).join f).text = true ∧
          ∀ text path, d₂.Reads ((root.join settings.destDir).join f) text → Imports text path →
            d₂.isFile ((Compiler.ofSettings settings root).protoPath.join path).text = true ∨
              path ∈ report.failed.map Prod.fst := by
  have hdest := Path.IsNormal.join hroot settings.destDir
  have hprotoPath : (Compiler.ofSettings settings root).protoPath = root.join settings.destDir := rfl
  rw [hprotoPath]
  generalize root.join settings.sourceDir = source at *
  generalize root.join settings.destDir = dest at *
  obtain ⟨report, d₁, hcopy, hnames, hrun⟩ :=
    exists_runOn_copyProtos (ε := ε) source dest settings.files d .calm
  have hmem : ∀ f, f ∈ report.outcomes.map Prod.fst ↔ f ∈ settings.files := fun f => by
    rw [hnames, List.mem_eraseDups]
  have houtcomes : ∀ x ∈ report.outcomes, x.1 ∈ settings.files := fun x hx =>
    (hmem x.1).1 (List.mem_map_of_mem hx)
  refine ⟨report, d₁, hcopy, fun result d₂ hempty hflatten f hf => ?_⟩
  have hprotos : ∀ x ∈ report.outcomes, IsRelativeProto x.1 := fun x hx =>
    (hlisted _ (houtcomes x hx)).1
  have hfiles : ∀ x ∈ report.outcomes, d.isFile (source.join x.1).text = true := fun x hx =>
    (hlisted _ (houtcomes x hx)).2
  have hproto := hprotos _ (CopyReport.mem_copied_iff.1 hf)
  obtain ⟨q, content, executable, hlookup⟩ := hrun.exists_copy hf
  obtain ⟨base, hbase⟩ :=
    exists_leads_of_lookup_join hproto.toIsRelative hproto.namesOf_ne_nil hlookup
  have hbaseEmpty := hempty base hbase
  obtain ⟨hd₁, hplain₁⟩ := sound_and_plainBelow_of_emptyAt hrun hd hdest hbase hbaseEmpty hprotos
  obtain ⟨rels, hrels, hflat⟩ := flattenedAt_of_runOn_flattenTree hd₁ hplain₁ hbase
    (noLeftovers_of_emptyAt hrun hd hdest hbase hbaseEmpty hprotos) hflatten
  have hcopies : ∀ g ∈ report.copied, d₂.isFile (dest.join g).text = true := fun g hg =>
    isFile_grows hflat.sameShape.grows (isFile_eq_true_iff.2 (hrun.exists_copy hg))
  have hresolved : ∀ g ∈ settings.files,
      d₂.isFile (dest.join g).text = true ∨ g ∈ report.failed.map Prod.fst := fun g hg =>
    (hrun.copied_or_failed ((hmem g).2 hg) (hlisted g hg).2).imp_left (hcopies g)
  have hfListed := houtcomes _ (CopyReport.mem_copied_iff.1 hf)
  refine ⟨hcopies f hf, fun text path hread himport => hresolved path ?_⟩
  rcases text_of_copy hrun hd hdest hbase hbaseEmpty hprotos hfiles hrels hflat hf hread with
    hsame | ⟨hskip, proto, hproto, hflattens⟩
  · exact himports f hfListed text hsame path himport
  · rcases imports_of_flattenImports? hflattens himport with hsame | ⟨p, hrewritten, rfl⟩
    · exact himports f hfListed proto hproto path hsame
    · exact hflatImports f hfListed hskip proto hproto p hrewritten

/-- A file is copied to a free name of the directory that has been made. -/
theorem runOn_copyProto_of_none (source dest : Path) (f : Text)
    (hfile : d.isFile (source.join f).text = true)
    (hmake : (Files.makeParent (dest.join f)).runOn d = (.ok (), d₁))
    (hentry : EntryAt d₁ (dest.join f).text dir name left) (hfree : d₁.get? (dir ++ [name]) = none)
    (hsource : d₁.lookup true (source.join f).text = .ok (.found q (.file content executable))) :
    (copyProto source dest f : DiskAction ε CopyOutcome).runOn d =
      (.ok .copied, d₁.put (dir ++ [name]) (.file content executable)) := by
  have hisFile : (Files.isFile (source.join f) : DiskAction ε Bool).runOn d = (.ok true, d) := by
    rw [Files.isFile, DiskAction.runOn_ofQuery, Outside.calm_isFile, hfile]
  have hbytes : (Files.copyBytes (source.join f) (dest.join f)).runOn d₁ =
      (.ok content.size, d₁.put (dir ++ [name]) (.file content executable)) :=
    Outside.calm_copyFile_ok (hentry.copyFile_of_none hfree hsource)
  have hcopy : (Files.copy (source.join f) (dest.join f)).runOn d =
      (.ok content.size, d₁.put (dir ++ [name]) (.file content executable)) := by
    rw [Files.copy, DiskAction.runOn_bind_ok hmake, Files.runOn_reportedAt_ok hbytes]
  rw [copyProto, DiskAction.runOn_bind_ok hisFile, if_pos rfl,
    DiskAction.runOn_bind_ok (DiskAction.runOn_attempt _ _), hcopy]
  rfl

section PlainTree

variable {entries entries' : List (Place × Entry)} {place : Place} {file : Path}

/-- The root of a plain tree. -/
theorem lookup_root_ofEntries :
    (ofEntries entries).lookup true (Path.mk "/").text = .ok (.found [] .directory) :=
  lookup_of_descends (by decide) .nil

/-- A path of names leads to the file of a plain tree with these names. -/
theorem lookup_ofEntries (h : isPlainTree entries = true) (hplace : Path.below ⟨"/"⟩ place = file)
    (hget : entries.lookup place = some (.file content executable))
    (hchecked : checkPath file.text = .ok ()) :
    (ofEntries entries).lookup true file.text = .ok (.found place (.file content executable)) := by
  have hne : place ≠ [] := by
    rintro rfl
    obtain ⟨before, behind, rfl, -⟩ := List.lookup_eq_some_iff.1 hget
    obtain ⟨-, dir, name, hroot, -⟩ := of_mem_of_isPlainTree h (x := ([], .file content executable))
      (by simp)
    simp at hroot
  have hget' : (ofEntries entries).get? place = some (.file content executable) := by
    rw [get?_ofEntries_of_isPlainTree h, if_neg hne, hget]
  subst hplace
  exact lookup_below (sound_ofEntries h) (plainBelow_ofEntries h []) lookup_root_ofEntries hne hget'
    hchecked

/-- A file of a plain tree is copied to a free name of a directory that is there or is made. -/
theorem runOn_copyProto_ofEntries (entries' : List (Place × Entry)) (place dir : Place) (name : Text)
    (h : isPlainTree entries = true) (h' : isPlainTree entries' = true)
    (hplace : Path.below ⟨"/"⟩ place = source.join f)
    (hchecked : checkPath (source.join f).text = .ok ())
    (hget : entries.lookup place = some (.file content executable))
    (hget' : entries'.lookup place = some (.file content executable))
    (hmake : entries' = entries ∨
      (Files.makeParent (dest.join f)).runOn (ofEntries entries) = (.ok (), ofEntries entries'))
    (htarget : Path.below ⟨"/"⟩ (dir ++ [name]) = dest.join f)
    (hchecked' : checkPath (dest.join f).text = .ok ())
    (hnames : ∀ c ∈ dir ++ [name], IsPlainName c) (hdir : entries'.lookup dir = some .directory)
    (hfree : entries'.lookup (dir ++ [name]) = none) :
    (copyProto source dest f : DiskAction ε CopyOutcome).runOn (ofEntries entries) =
      (.ok .copied, ofEntries ((dir ++ [name], .file content executable) :: entries')) := by
  have hdir' : (ofEntries entries').get? dir = some .directory := by
    rw [get?_ofEntries_of_isPlainTree h', hdir, ite_self]
  have hfree' : (ofEntries entries').get? (dir ++ [name]) = none := by
    rw [get?_ofEntries_of_isPlainTree h', if_neg (by simp), hfree]
  obtain ⟨left, hentry⟩ : ∃ left, EntryAt (ofEntries entries') (dest.join f).text dir name left := by
    rw [← htarget] at hchecked' ⊢
    exact exists_entryAt_below (sound_ofEntries h') lookup_root_ofEntries hnames (.inr hdir')
      hchecked'
  have hmade : (Files.makeParent (dest.join f)).runOn (ofEntries entries) =
      (.ok (), ofEntries entries') := by
    rcases hmake with rfl | hmake
    · exact Files.runOn_makeParent hentry Outside.calm_grants
    · exact hmake
  exact runOn_copyProto_of_none source dest f
    (isFile_eq_true_iff.2 ⟨_, _, _, lookup_ofEntries h hplace hget hchecked⟩) hmade hentry hfree'
    (lookup_ofEntries h' hplace hget' hchecked)

end PlainTree

/-- The text of a file that imports nothing. -/
def noImport : Text := "syntax;"

/-- Proto files in a directory and above it, and an empty directory to copy them to. -/
def upstreamTree (a b : ByteArray) : List (Place × Entry) := [
  (["up"], .directory),
  (["up", "b.proto"], .file b false),
  (["up", "x"], .directory),
  (["up", "x", "a.proto"], .file a false),
  (["up", "x", "b.proto"], .file b false),
  (["p"], .directory)]

/-- The same with a directory made for copies. -/
def noCopy (a b : ByteArray) : List (Place × Entry) := (["p", "x"], .directory) :: upstreamTree a b

/-- The same with a file copied. -/
def oneCopy (a b : ByteArray) : List (Place × Entry) :=
  (["p", "x", "a.proto"], .file a false) :: noCopy a b

/-- The same with two files copied. -/
def twoCopies (a b : ByteArray) : List (Place × Entry) :=
  (["p", "x", "b.proto"], .file b false) :: oneCopy a b

/-- The same with three files copied. -/
def threeCopies (a b : ByteArray) : List (Place × Entry) :=
  (["p", "b.proto"], .file b false) :: twoCopies a b

/-- The tree in which the first file imports another one. -/
def importTree : List (Place × Entry) := upstreamTree nestedImport.toBytes noImport.toBytes

/-- The tree with the files in the directory copied. -/
def copiedTree : List (Place × Entry) := twoCopies nestedImport.toBytes noImport.toBytes

/-- The settings that copy the files in the directory. -/
def twoSettings : TreeSettings :=
  { TreeSettings.default with sourceDir := "up", destDir := "p", files := ["x/a.proto", "x/b.proto"] }

/-- The settings that copy all files. -/
def threeSettings : TreeSettings :=
  { twoSettings with files := ["x/a.proto", "x/b.proto", "b.proto"] }

section Steps

variable (a b : ByteArray)

theorem runOn_copyProto_oneCopy :
    (copyProto ⟨"/up"⟩ ⟨"/p"⟩ "x/a.proto" : DiskAction ε CopyOutcome).runOn
      (ofEntries (upstreamTree a b)) = (.ok .copied, ofEntries (oneCopy a b)) := by
  have hmake : (Files.makeParent (Path.join ⟨"/p"⟩ "x/a.proto")).runOn
      (ofEntries (upstreamTree a b)) = (.ok (), ofEntries (noCopy a b)) := by cbv
  exact runOn_copyProto_ofEntries (noCopy a b) ["up", "x", "a.proto"] ["p", "x"] "a.proto" rfl rfl
    (by decide) (by decide) rfl rfl (.inr hmake) (by decide)
    (by decide) (by decide) rfl rfl

theorem runOn_copyProto_twoCopies :
    (copyProto ⟨"/up"⟩ ⟨"/p"⟩ "x/b.proto" : DiskAction ε CopyOutcome).runOn
      (ofEntries (oneCopy a b)) = (.ok .copied, ofEntries (twoCopies a b)) :=
  runOn_copyProto_ofEntries (oneCopy a b) ["up", "x", "b.proto"] ["p", "x"] "b.proto" rfl rfl
    (by decide) (by decide) rfl rfl (.inl rfl) (by decide)
    (by decide) (by decide) rfl rfl

theorem runOn_copyProto_threeCopies :
    (copyProto ⟨"/up"⟩ ⟨"/p"⟩ "b.proto" : DiskAction ε CopyOutcome).runOn
      (ofEntries (twoCopies a b)) = (.ok .copied, ofEntries (threeCopies a b)) :=
  runOn_copyProto_ofEntries (twoCopies a b) ["up", "b.proto"] ["p"] "b.proto" rfl rfl
    (by decide) (by decide) rfl rfl (.inl rfl) (by decide)
    (by decide) (by decide) rfl rfl

/-- The files in the directory are copied. -/
theorem runOn_copyProtos_twoSettings :
    (copyProtos ⟨"/up"⟩ ⟨"/p"⟩ twoSettings.files : DiskAction ε CopyReport).runOn
      (ofEntries (upstreamTree a b)) =
        (.ok ⟨[("x/a.proto", .copied), ("x/b.proto", .copied)]⟩, ofEntries (twoCopies a b)) :=
  runOn_copyProtos (runOn_copyEach_cons (runOn_copyProto_oneCopy a b)
    (runOn_copyEach_cons (runOn_copyProto_twoCopies a b) rfl))

/-- All files are copied. -/
theorem runOn_copyProtos_threeSettings :
    (copyProtos ⟨"/up"⟩ ⟨"/p"⟩ threeSettings.files : DiskAction ε CopyReport).runOn
      (ofEntries (upstreamTree a b)) =
        (.ok ⟨[("x/a.proto", .copied), ("x/b.proto", .copied), ("b.proto", .copied)]⟩,
          ofEntries (threeCopies a b)) :=
  runOn_copyProtos (runOn_copyEach_cons (runOn_copyProto_oneCopy a b)
    (runOn_copyEach_cons (runOn_copyProto_twoCopies a b)
      (runOn_copyEach_cons (runOn_copyProto_threeCopies a b) rfl)))

end Steps

/-- Each of the files is there, and it imports no file or the one in the directory. -/
theorem exists_lookup_importTree (hf : f ∈ threeSettings.files) : ∃ place text,
    (ofEntries importTree).lookup true (Path.join ⟨"/up"⟩ f).text =
        .ok (.found place (.file (Text.toBytes text) false)) ∧
      ∀ path ∈ importedPaths text, path = "x/b.proto".toList := by
  simp only [threeSettings, List.mem_cons, List.not_mem_nil, or_false] at hf
  rcases hf with rfl | rfl | rfl
  · exact ⟨["up", "x", "a.proto"], nestedImport, lookup_ofEntries rfl (by decide) rfl
      (by decide), by decide⟩
  · exact ⟨["up", "x", "b.proto"], noImport, lookup_ofEntries rfl (by decide) rfl
      (by decide), by decide⟩
  · exact ⟨["up", "b.proto"], noImport, lookup_ofEntries rfl (by decide) rfl
      (by decide), by decide⟩

/-- What the files import. -/
theorem eq_of_imports_importTree (hf : f ∈ threeSettings.files)
    (hread : (ofEntries importTree).Reads (Path.join ⟨"/up"⟩ f) proto) (himport : Imports proto path) :
    path = "x/b.proto".toList := by
  obtain ⟨place, text, hlookup, hpaths⟩ := exists_lookup_importTree hf
  obtain ⟨_, _, _, hlookup', hbytes⟩ := reads_iff.1 hread
  cases hlookup.symm.trans hlookup'
  rw [Text.ofBytes?_toBytes] at hbytes
  cases hbytes
  exact hpaths path (mem_importedPaths_iff.2 himport)

/-- Nothing is in the directory that the files are copied to. -/
theorem emptyAt_importTree : EmptyAt (ofEntries importTree) ["p"] :=
  emptyAt_ofEntries rfl (by decide) (by decide)

/-- The copies are the only files in the tree. -/
theorem eq_of_isListed_copiedTree {skip : List Text} {rel : Place}
    (h : IsListed .calm (ofEntries copiedTree) skip ⟨"/p"⟩ ["p"] rel) :
    rel = ["x".toList, "a.proto".toList] ∨ rel = ["x".toList, "b.proto".toList] := by
  obtain ⟨e, hget, -⟩ := h.exists_get?
  have htree : isPlainTree copiedTree = true := rfl
  have hmem := (mem_of_get?_ofEntries htree hget).resolve_left (by simp)
  simp only [copiedTree, twoCopies, oneCopy, noCopy, upstreamTree, List.mem_cons, Prod.mk.injEq,
    List.cons_append, List.nil_append, List.cons.injEq, true_and, List.not_mem_nil,
    or_false] at hmem
  have hup : ¬ "p".toList = "up".toList := by decide
  rcases hmem with ⟨rfl, -⟩ | ⟨rfl, -⟩ | ⟨rfl, -⟩ | hsource
  · exact .inr rfl
  · exact .inl rfl
  · exact absurd h.extension (by decide)
  · simp only [hup, false_and, false_or] at hsource
    exact absurd hsource.1 h.ne_nil

/-- The path of the directory that the files are copied to leads there. -/
theorem leads_ofEntries (entries : List (Place × Entry))
    (hget : (ofEntries entries).get? ["p"] = some .directory) :
    (ofEntries entries).Leads "/p" ["p"] :=
  ⟨maxLinks, .directory ⟨by decide, by decide, by decide⟩ hget .nil⟩

/-- Flattening the tree rewrites the import. -/
theorem exists_runOn_flattenTree_copiedTree : ∃ updated d₂,
    (flattenTree ⟨"/p"⟩ twoSettings.skipDirs).runOn (ofEntries copiedTree) = (.ok updated, d₂) ∧
      SameShape (ofEntries copiedTree) d₂ ∧
      d₂.get? ["p", "x", "a.proto"] = some (.file flatImport.toBytes false) := by
  have htree : isPlainTree copiedTree = true := rfl
  have hroot : (ofEntries copiedTree).lookup true (Path.mk "/p").text =
      .ok (.found ["p"] .directory) := by
    obtain ⟨left, hdesc⟩ := leads_ofEntries copiedTree rfl
    exact lookup_of_descends (by decide) hdesc
  have ha : (ofEntries copiedTree).get? (["p".toList] ++ ["x".toList, "a.proto".toList]) =
      some (.file nestedImport.toBytes false) := rfl
  have hb : (ofEntries copiedTree).get? (["p".toList] ++ ["x".toList, "b.proto".toList]) =
      some (.file noImport.toBytes false) := rfl
  have hcan : ∀ rel, IsListed .calm (ofEntries copiedTree) twoSettings.skipDirs ⟨"/p"⟩ ["p"] rel →
      CanFlatten (ofEntries copiedTree) ⟨"/p"⟩ ["p"] rel := by
    intro rel hlisted
    rcases eq_of_isListed_copiedTree hlisted with rfl | rfl
    · refine ⟨by decide, ⟨_, _, _, ha, Text.ofBytes?_toBytes _⟩, fun _ => ⟨?_, ?_, ?_⟩⟩
      · decide
      · constructor <;> decide
      · decide
    · refine ⟨by decide, ⟨_, _, _, hb, Text.ofBytes?_toBytes _⟩, fun hchanges => ?_⟩
      refine absurd ?_ hchanges
      rw [hb, Option.bind_some, Entry.flatText?, Text.ofBytes?_toBytes]
      decide
  have hend : TreeEnd .calm (ofEntries copiedTree) twoSettings.skipDirs ⟨"/p"⟩ ["p"]
      ((flattenTree ⟨"/p"⟩ twoSettings.skipDirs).runOn (ofEntries copiedTree)) :=
    flattenTree_ends (sound_ofEntries htree) (plainBelow_ofEntries htree ["p"]) hroot
      (noLeftovers_ofEntries htree (by decide) ["p"]) twoSettings.skipDirs .calm
  rcases hflatten : (flattenTree ⟨"/p"⟩ twoSettings.skipDirs).runOn (ofEntries copiedTree) with ⟨r, d₂⟩
  rw [hflatten] at hend
  cases hend with
  | failed _ hgrants =>
    obtain ⟨⟨rel, hrel, hcannot⟩, -⟩ := hgrants Outside.calm_grants
    exact absurd (hcan rel hrel) hcannot
  | @flat rels _ _ hmem _ hflattened _ =>
    have hlisted : IsListed .calm (ofEntries copiedTree) twoSettings.skipDirs ⟨"/p"⟩ ["p"]
        ["x", "a.proto"] :=
      isListed_of_file (sound_ofEntries htree) (plainBelow_ofEntries htree ["p"]) hroot ha (by decide)
        (by decide) (by decide)
    have hplace : ["p".toList, "x".toList, "a.proto".toList] ∈ rels.map (["p".toList] ++ ·) :=
      List.mem_map.2 ⟨["x", "a.proto"], (hmem _).2 hlisted, rfl⟩
    refine ⟨_, d₂, rfl, hflattened.sameShape, ?_⟩
    rw [hflattened.get?, if_pos hplace]
    refine (congrArg (Option.map Entry.flattened) ha).trans ?_
    rw [Option.map_some, Entry.flattened, Entry.flatText?, Text.ofBytes?_toBytes, Option.bind_some,
      flattenImports?_nestedImport]

/-- Of two files in a directory one imports the other. They are copied to an empty directory, and then
the import is one of a file that is not there. -/
theorem imports_lose_directory : ∃ report d₁ updated d₂,
    (∀ f ∈ twoSettings.files, IsRelativeProto f) ∧
      ImportsListed (ofEntries importTree) ⟨"/up"⟩ twoSettings.files ∧
      EmptyAt (ofEntries importTree) ["p"] ∧
      (copyProtos ⟨"/up"⟩ ⟨"/p"⟩ twoSettings.files : DiskAction FileError CopyReport).runOn
        (ofEntries importTree) = (.ok report, d₁) ∧
      report.copied = twoSettings.files ∧
      (flattenTree ⟨"/p"⟩ twoSettings.skipDirs).runOn d₁ = (.ok updated, d₂) ∧
      d₂.Reads (Path.join ⟨"/p"⟩ "x/a.proto") flatImport ∧ Imports flatImport "b.proto" ∧
      d₂.isFile ((Compiler.ofSettings twoSettings ⟨"/"⟩).protoPath.join "b.proto").text = false := by
  obtain ⟨updated, d₂, hflatten, hshape, hget⟩ := exists_runOn_flattenTree_copiedTree
  have htree : isPlainTree copiedTree = true := rfl
  have hfiles : ∀ f ∈ twoSettings.files, f ∈ threeSettings.files := by decide
  have hread : d₂.Reads (Path.join ⟨"/p"⟩ "x/a.proto") flatImport := by
    have hlookup : (ofEntries copiedTree).lookup true (Path.join ⟨"/p"⟩ "x/a.proto").text =
        .ok (.found ["p", "x", "a.proto"] (.file nestedImport.toBytes false)) :=
      lookup_ofEntries htree (by decide) rfl (by decide)
    obtain ⟨content, executable, hget', hlookup'⟩ := lookup_file_grows hshape.grows hlookup
    cases hget.symm.trans hget'
    exact reads_iff.2 ⟨_, _, _, hlookup', Text.ofBytes?_toBytes _⟩
  have hmissing : ¬ (ofEntries copiedTree).isFile (Path.join ⟨"/p"⟩ "b.proto").text = true := by
    intro hfile
    obtain ⟨q, content, executable, hlookup⟩ := isFile_eq_true_iff.1 hfile
    have hget' := (get?_of_lookup hlookup).2
    rw [eq_of_lookup_join (plainBelow_ofEntries htree ["p"]).noLinksBelow (by decide)
      (leads_ofEntries _ rfl) hlookup] at hget'
    have hnone : (ofEntries copiedTree).get? (["p".toList] ++ namesOf "b.proto") = none := rfl
    cases hnone.symm.trans hget'
  refine ⟨_, _, updated, d₂, by decide, fun f hf proto hread path himport => ?_,
    emptyAt_importTree, runOn_copyProtos_twoSettings _ _, rfl, hflatten, hread,
    mem_importedPaths_iff.1 (by decide), ?_⟩
  · rw [eq_of_imports_importTree (hfiles f hf) hread himport]
    decide
  · rw [Bool.eq_false_iff]
    exact fun hfile => hmissing (isFile_grows hshape.shrinks hfile)

/-- Where the file above the directory is copied too the import is one of that. -/
theorem imports_resolve_importTree : ∃ report d₁ result d₂,
    (copyProtos ⟨"/up"⟩ ⟨"/p"⟩ threeSettings.files : DiskAction FileError CopyReport).runOn
        (ofEntries importTree) = (.ok report, d₁) ∧
      report.copied = threeSettings.files ∧
      (flattenTree ⟨"/p"⟩ threeSettings.skipDirs).runOn d₁ = (result, d₂) ∧
      ∀ f ∈ threeSettings.files, ∀ text path, d₂.Reads (Path.join ⟨"/p"⟩ f) text →
        Imports text path →
        d₂.isFile ((Compiler.ofSettings threeSettings ⟨"/"⟩).protoPath.join path).text = true := by
  have htree : isPlainTree importTree = true := rfl
  obtain ⟨report, d₁, hcopy, hresolve⟩ := imports_resolve (ε := FileError) threeSettings ⟨"/"⟩
    (sound_ofEntries htree) (by decide)
    (fun f hf => by
      obtain ⟨place, text, hlookup, -⟩ := exists_lookup_importTree hf
      exact ⟨(by decide : ∀ f ∈ threeSettings.files, IsRelativeProto f) f hf,
        isFile_eq_true_iff.2 ⟨_, _, _, hlookup⟩⟩)
    (fun f hf proto hread path himport => by
      rw [eq_of_imports_importTree hf hread himport]
      decide)
    (fun f hf _ proto hread path himport => by
      rw [eq_of_imports_importTree hf hread himport.imports, fileOf_nested]
      decide)
  obtain ⟨hreport, rfl⟩ := Prod.mk.inj (hcopy.symm.trans (runOn_copyProtos_threeSettings _ _))
  cases hreport
  rcases hflatten : (flattenTree ⟨"/p"⟩ threeSettings.skipDirs).runOn
    (ofEntries (threeCopies nestedImport.toBytes noImport.toBytes)) with ⟨result, d₂⟩
  refine ⟨_, _, result, d₂, hcopy, rfl, hflatten, fun f hf text path hread himport => ?_⟩
  have hempty : ∀ base, Leads (ofEntries (threeCopies nestedImport.toBytes noImport.toBytes)) "/p"
      base → EmptyAt (ofEntries importTree) base := fun base hbase => by
    rw [hbase.unique (leads_ofEntries _ rfl)]
    exact emptyAt_importTree
  exact ((hresolve result d₂ hempty hflatten f hf).2 text path hread himport).resolve_right
    List.not_mem_nil

end ProtoUpkeep
