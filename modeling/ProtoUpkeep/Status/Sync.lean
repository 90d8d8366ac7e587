import ProtoUpkeep.Files.BackedUpWrite
import ProtoUpkeep.Status.Plan

/-!
# Bringing the Swift file in step

A run reads the proto file and the Swift file, makes the plan, and overwrites the Swift file if the
plan changes it. A dry run does everything but the overwriting.
-/

namespace ProtoUpkeep

/-- What is asked of a run. -/
structure SyncOptions where
  /-- Nothing is written. -/
  dryRun : Bool
  /-- Doc comments that have drifted are replaced. -/
  updateComments : Bool
deriving DecidableEq, Repr

/-- What a run has done. -/
structure SyncReport where
  /-- The plan that was made. -/
  plan : Plan
  /-- Whether the Swift file was overwritten. -/
  written : Bool

namespace StatusSync

/-- Refuses a path that does not lead to a file. -/
def requireFile (kind : InputFile) (path : Path) : DiskAction StatusError Unit := do
  if ← Files.isFile path then return
  else throw (.missingInput kind path.text)

/-- The plan for the texts in a proto file and a Swift file. -/
def planFiles (s : StatusSync) (proto swift : Path) (updateComments : Bool) :
    DiskAction StatusError Plan := do
  requireFile .proto proto
  requireFile .swift swift
  let protoText ← (Files.readText proto).mapError .file
  let swiftText ← (Files.readText swift).mapError .file
  DiskAction.ofReader fun _ => s.plan protoText swiftText updateComments

/-- Brings a Swift file in step with a proto file. -/
def run (s : StatusSync) (proto swift : Path) (options : SyncOptions) :
    DiskAction StatusError SyncReport := do
  let plan ← s.planFiles proto swift options.updateComments
  if options.dryRun || !plan.hasChanges then return { plan, written := false }
  else
    (Files.overwrite swift plan.updated).mapError .file
    return { plan, written := true }

end StatusSync

end ProtoUpkeep
