import ProtoUpkeep.Config.File
import ProtoUpkeep.Proofs.Config.Overlay
import ProtoUpkeep.Proofs.Files.WrittenFile

/-!
# Settings that are saved

Saving writes the value of some settings in the format of a file, and loading reads a value in the same
format, both by the codec of the format. Of a codec it is asked that it undoes itself (`Codec.Undoes`).
Then the text that is saved is decoded to the same settings (`ConfigFile.parse_of_render`), so they are
loaded again wherever that text is read again: whenever the path still leads to a file. It may not,
since the file may replace a link that its own path passes (`StatusSettings.load_save_lost`).
-/

namespace ProtoUpkeep

open Disk

/-- What the codec writes of a value it reads as the value, up to the order of the members. -/
def Codec.Undoes (c : Codec) (v : Value) : Prop :=
  ∀ t, c.write? v = some t → ∃ w, c.read? t = some w ∧ w.sorted = v.sorted

namespace ConfigFile

variable {α : Type} {decode : Value → Option α} {codecs : Format → Codec} {path : Path} {v : Value}
  {t : Text} {a : α} {d d' : Disk}

/-- The text of a value is read back, with the members in order. -/
theorem parse_of_render (hundoes : ∀ f, format path = .ok f → (codecs f).Undoes v)
    (h : render path v codecs = .ok t) : parse path t codecs = .ok v.sorted := by
  simp only [render, bind, Except.bind] at h
  cases hformat : format path with
  | error e =>
    rw [hformat] at h
    cases h
  | ok f =>
    rw [hformat] at h
    cases hwrite : (codecs f).write? v with
    | none =>
      simp only [hwrite] at h
      cases h
    | some text =>
      simp only [hwrite] at h
      cases h
      obtain ⟨w, hread, hsorted⟩ := hundoes f hformat t hwrite
      simp only [parse, bind, Except.bind, hformat, hread, hsorted]
      rfl

/-- A value is saved where it has a text, and that is written. -/
theorem runOn_save_eq_ok_iff : (save path v codecs).runOn d = (.ok (), d') ↔
    ∃ t, render path v codecs = .ok t ∧
      (Files.writeAtomic path t.toBytes).runOn d = (.ok (), d') := by
  constructor
  · intro h
    obtain ⟨t, d₁, hrender, hwrite⟩ := DiskAction.exists_of_runOn_bind h
    rw [DiskAction.runOn_ofReader, Prod.mk.injEq] at hrender
    obtain ⟨hrender, rfl⟩ := hrender
    exact ⟨t, hrender, hwrite⟩
  · rintro ⟨t, hrender, hwrite⟩
    have hread : (DiskAction.ofReader fun _ => render path v codecs).runOn d = (.ok t, d) := by
      rw [DiskAction.runOn_ofReader, hrender]
    rw [save, DiskAction.runOn_bind_ok hread]
    exact hwrite

/-- A file is loaded where its text is read, and what that says is decoded. -/
theorem runOn_load_eq_ok_iff : (load decode path codecs).runOn d = (.ok a, d') ↔
    ∃ t, (Files.readText path).runOn d = (.ok t, d') ∧
      parse path t codecs >>= decodeAs decode path = .ok a := by
  constructor
  · intro h
    obtain ⟨t, d₁, hread, hdecode⟩ := DiskAction.exists_of_runOn_bind h
    rw [DiskAction.runOn_ofReader, Prod.mk.injEq] at hdecode
    obtain ⟨hdecode, rfl⟩ := hdecode
    exact ⟨t, hread, hdecode⟩
  · rintro ⟨t, hread, hdecode⟩
    rw [load, DiskAction.runOn_bind_ok hread, DiskAction.runOn_ofReader, hdecode]

/-- What has been saved is loaded exactly if its path leads to a file, if it is decoded from its value
with the members in order. -/
theorem runOn_load_save_iff (hundoes : ∀ f, format path = .ok f → (codecs f).Undoes v)
    (hdecode : decode v.sorted = some a) (h : (save path v codecs).runOn d = (.ok (), d')) :
    (load decode path codecs).runOn d' = (.ok a, d') ↔ d'.isFile path.text = true := by
  obtain ⟨t, hrender, hwrite⟩ := runOn_save_eq_ok_iff.1 h
  have hdecoded : parse path t codecs >>= decodeAs decode path = .ok a := by
    rw [parse_of_render hundoes hrender]
    simp only [bind, Except.bind, decodeAs, hdecode]
  rw [runOn_load_eq_ok_iff, isFile_eq_true_iff]
  constructor
  · rintro ⟨t', hread, -⟩
    obtain ⟨-, q, content, executable, hlookup, -⟩ := Files.runOn_readText_eq_ok_iff.1 hread
    exact ⟨q, content, executable, hlookup⟩
  · rintro ⟨q, content, executable, hlookup⟩
    obtain rfl := Files.content_of_runOn_writeAtomic hwrite hlookup
    exact ⟨t, Files.runOn_readText_eq_ok_iff.2
      ⟨rfl, q, _, executable, hlookup, Text.ofBytes?_toBytes t⟩, hdecoded⟩

/-- The path of what has been saved leads to a file, if no link has the name of that file or of the
temporary one. -/
theorem isFile_of_runOn_save
    (hlinks : ∀ dir name target,
      path.fileName? = some name ∨ name = Files.temporaryName d.process path →
        d.get? (dir ++ [name]) ≠ some (.link target))
    (h : (save path v codecs).runOn d = (.ok (), d')) : d'.isFile path.text = true := by
  obtain ⟨t, -, hwrite⟩ := runOn_save_eq_ok_iff.1 h
  exact Files.isFile_of_runOn_writeAtomic hlinks hwrite

end ConfigFile

namespace StatusSettings

/-- Settings that are given in part overlay the defaults, so settings that have been saved are loaded
again, if the codec of the format reads back what it writes: exactly if the path leads to a file behind
the save. It does unless a link has the name of the file or that of the temporary file. -/
theorem overlay_and_load_save (c : StatusSettings) :
    (∀ given sections v, c.IsPart given sections v →
      ofValue? v = some (c.overlay given sections)) ∧
    ∀ codecs path d d', (∀ f, ConfigFile.format path = .ok f → (codecs f).Undoes c.toValue) →
      (ConfigFile.save path c.toValue codecs).runOn d = (.ok (), d') →
        ((ConfigFile.load ofValue? path codecs).runOn d' = (.ok c, d') ↔
          d'.isFile path.text = true) ∧
        ((∀ dir name target,
          path.fileName? = some name ∨ name = Files.temporaryName d.process path →
            d.get? (dir ++ [name]) ≠ some (.link target)) → d'.isFile path.text = true) :=
  ⟨fun _ _ _ hpart => ofValue?_part hpart, fun _ _ _ _ hundoes hsave =>
    ⟨ConfigFile.runOn_load_save_iff hundoes c.ofValue?_sorted hsave,
      fun hlinks => ConfigFile.isFile_of_runOn_save hlinks hsave⟩⟩

/-- Settings that differ from the defaults in every field. -/
def sample : StatusSettings where
  enumName := "E"
  protoPath := "e.proto"
  swiftPath := "E.swift"
  deprecatedMarker := "-"
  acronyms := ∅
  anchors := ⟨.marker "a", .marker "b", .marker "c", .marker "d", .marker "e"⟩

/-- An object that gives the enum and one anchor of the sample, each beside what is not known. -/
def samplePart : Value :=
  .object [("theme", .null), ("enum_name", .text "E"), ("anchors", .object [("more", .bool true),
    ("all_cases", .object [("hint", .int 3), ("kind", .text "marker"), ("text", .text "d")])])]

/-- The sample is given in part. -/
theorem sample_isPart : sample.IsPart (fun f => f == .enumName || f == .anchors)
    (fun sec => sec == .allCases) samplePart := by
  refine ⟨_, rfl, fun f hf => ?_, fun f hf => ?_⟩
  · cases f with
    | enumName => exact ⟨_, rfl, rfl⟩
    | anchors =>
      refine ⟨_, rfl, _, rfl, fun sec hsec => ?_, fun sec hsec => ?_⟩
      · cases sec with
        | allCases => exact ⟨_, rfl, Value.extends_cons rfl _⟩
        | _ => cases hsec
      · cases sec with
        | allCases => cases hsec
        | _ => rfl
    | _ => cases hf
  · cases f with
    | enumName => cases hf
    | anchors => cases hf
    | _ => rfl

set_option maxRecDepth 4000 in
/-- What is printed of the sample is read back. -/
theorem undoes_sample : (Codec.standard .json).Undoes sample.toValue := by
  have hread : (Json.read? (Json.write sample.toValue)).map Value.sorted =
      some sample.toValue.sorted := by cbv
  intro t hwrite
  cases hwrite
  exact Option.map_eq_some_iff.1 hread

/-- A disk with a link to the directory that it is in. -/
def linkedDisk : Disk := Disk.empty.put ["a.json"] (.link ".")

/-- Only one name is that of a link. -/
theorem eq_of_linkedDisk {dir : Place} {name target : Text}
    (h : linkedDisk.get? (dir ++ [name]) = some (.link target)) : name = "a.json".toList := by
  rw [linkedDisk, get?_put (by simp)] at h
  split at h
  · next hplace =>
    have hlast := congrArg List.getLast? hplace
    rw [List.getLast?_concat] at hlast
    exact Option.some.inj hlast
  · simp [Disk.get?, Disk.empty] at h

/-- The sample is saved wherever a text can be written. -/
theorem runOn_save_sample {path : Path} {d : Disk} (hformat : ConfigFile.format path = .ok .json)
    (hwrite : ∀ bytes, ((Files.writeAtomic path bytes).runOn d).1 = .ok ()) :
    ∃ d', (ConfigFile.save path sample.toValue).runOn d = (.ok (), d') := by
  have hrender : ConfigFile.render path sample.toValue = .ok (Json.write sample.toValue) := by
    rw [ConfigFile.render, hformat]
    rfl
  exact ⟨_, ConfigFile.runOn_save_eq_ok_iff.2 ⟨_, hrender, Prod.ext (hwrite _) rfl⟩⟩

/-- The sample is loaded from a path that leads through a link to the directory that it is in. -/
theorem overlay_and_load_save_linked : ∃ d',
    ofValue? samplePart = some { default with
      enumName := "E", anchors := { Anchor.defaults with allCases := .marker "d" } } ∧
    (ConfigFile.save ⟨"a.json/b.JSON"⟩ sample.toValue).runOn linkedDisk = (.ok (), d') ∧
    (ConfigFile.load ofValue? ⟨"a.json/b.JSON"⟩).runOn d' = (.ok sample, d') := by
  have hformat : ConfigFile.format ⟨"a.json/b.JSON"⟩ = .ok .json := by cbv
  have hwrite : ∀ bytes, ((Files.writeAtomic ⟨"a.json/b.JSON"⟩ bytes).runOn linkedDisk).1 = .ok () :=
    fun bytes => by cbv
  have hname : (Path.mk "a.json/b.JSON").fileName? = some "b.JSON".toList := by cbv
  have htemporary : Files.temporaryName linkedDisk.process ⟨"a.json/b.JSON"⟩ =
      ".b.JSON.1.tmp".toList := by cbv
  obtain ⟨d', hsave⟩ := runOn_save_sample hformat hwrite
  obtain ⟨hoverlay, hload⟩ := overlay_and_load_save sample
  obtain ⟨hiff, hfile⟩ := hload Codec.standard ⟨"a.json/b.JSON"⟩ linkedDisk d'
    (fun f hf => by
      cases hformat.symm.trans hf
      exact undoes_sample) hsave
  refine ⟨d', hoverlay _ _ _ sample_isPart, hsave, hiff.2 (hfile fun dir name target h hlink => ?_)⟩
  rw [hname, htemporary, eq_of_linkedDisk hlink] at h
  exact absurd h (by decide)

/-- What has been saved may be lost: the file replaces a link that its own path passes. The save
succeeds, and nothing can be loaded, although the format is read back. -/
theorem load_save_lost : ∃ d', (Codec.standard .json).Undoes sample.toValue ∧
    ConfigFile.format ⟨"a.json/a.json"⟩ = .ok .json ∧
    (ConfigFile.save ⟨"a.json/a.json"⟩ sample.toValue).runOn linkedDisk = (.ok (), d') ∧
    (ConfigFile.load ofValue? ⟨"a.json/a.json"⟩).runOn d' =
      (.error (.io "a.json/a.json" .notDirectory), d') := by
  have hformat : ConfigFile.format ⟨"a.json/a.json"⟩ = .ok .json := by cbv
  have hwrite : ∀ bytes, ((Files.writeAtomic ⟨"a.json/a.json"⟩ bytes).runOn linkedDisk).1 = .ok () :=
    fun bytes => by cbv
  have hread : ∀ bytes, ((Files.readText ⟨"a.json/a.json"⟩).runOn
      ((Files.writeAtomic ⟨"a.json/a.json"⟩ bytes).runOn linkedDisk).2).1 =
        .error (.io "a.json/a.json" .notDirectory) := fun bytes => by cbv
  obtain ⟨d', hsave⟩ := runOn_save_sample hformat hwrite
  refine ⟨d', undoes_sample, hformat, hsave, DiskAction.runOn_bind_error ?_⟩
  obtain ⟨t, -, hwritten⟩ := ConfigFile.runOn_save_eq_ok_iff.1 hsave
  have hd' := hread t.toBytes
  rw [hwritten] at hd'
  exact Prod.ext hd' (Files.readsOnly_readText _ _ _)

end StatusSettings

end ProtoUpkeep
