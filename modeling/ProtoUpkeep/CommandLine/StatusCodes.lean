import ProtoUpkeep.CommandLine.Project
import ProtoUpkeep.Status.Sync

/-!
# The command for the status enum
-/

namespace ProtoUpkeep.StatusCodesCommand

open ConsoleAction

/-- What is given on the command line. -/
structure Options where
  /-- Nothing is written. -/
  dryRun : Bool
  /-- Doc comments that have drifted are replaced. -/
  updateComments : Bool
  /-- The proto file instead of the configured one. -/
  proto? : Option Text
  /-- The Swift file instead of the configured one. -/
  swift? : Option Text
deriving DecidableEq, Repr

/-- A number with what is counted. -/
def count (n : Nat) (noun : Text) : Text :=
  if n = 1 then "1 ".toList ++ noun else Text.ofNat n ++ ' ' :: noun ++ ['s']

/-- A name with a number behind it. -/
def numbered (mark name : Text) (n : Int) : Text :=
  "   ".toList ++ mark ++ ' ' :: name ++ " (" ++ Text.ofInt n ++ [')']

/-- The lines about the codes that the Swift file lacks. -/
def missingLines (plan : Plan) : List Text :=
  if plan.missing.isEmpty then []
  else [] :: ("MISSING ".toList ++ Text.ofNat plan.missing.length ++ " missing status codes:") ::
    plan.missing.map fun c => numbered ['-'] c.name c.number

/-- The lines about the doc comments that have drifted. -/
def driftLines (plan : Plan) : List Text :=
  if plan.drifts.isEmpty then []
  else [] :: ("DRIFTED ".toList ++ Text.ofNat plan.drifts.length ++ " doc comments to update:") ::
    plan.drifts.map fun d => numbered ['~'] d.declaration.identifier d.code.number

/-- The lines about the sections that were left alone. -/
def warningLines (plan : Plan) : List Text := plan.warnings.map ("WARNING ".toList ++ ·)

/-- The text of a report from the lines about its plan on. -/
def outcome (r : SyncReport) (swiftName : Text) (dryRun : Bool) : Text :=
  let codes := count r.plan.missing.length "status code"
  let comments := count r.plan.drifts.length "doc comment"
  if dryRun then
    "[DRY RUN] Would add ".toList ++ codes ++ " and update " ++ comments ++ " in " ++ swiftName ++ "\n" ++
      if r.plan.hasChanges then '\n' :: r.plan.diff swiftName else []
  else if r.written then
    "OK Updated ".toList ++ swiftName ++ ": added " ++ codes ++ ", updated " ++ comments ++ "\n"
  else "WARNING ".toList ++ swiftName ++ " was not modified\n"

/-- Prints what a run has done. -/
def printReport (r : SyncReport) (swiftName : Text) (dryRun : Bool) : ConsoleAction Unit := do
  say ("   Found ".toList ++ Text.ofNat r.plan.protoCount ++ " status codes in proto")
  say ("   Found ".toList ++ Text.ofNat r.plan.mappedCount ++ " status codes in " ++ swiftName)
  if r.plan.inSync then say ("OK ".toList ++ swiftName ++ " is in sync. No changes needed.")
  else
    sayAll (missingLines r.plan)
    sayAll (driftLines r.plan)
    sayAll (warningLines r.plan)
    say []
    print (outcome r swiftName dryRun)

/-- Brings the Swift file of a project in step and prints what was done. -/
def run (p : Project) (o : Options) : ConsoleAction Unit := do
  let settings ← p.statusSettings
  let settings := { settings with
    protoPath := o.proto?.getD settings.protoPath
    swiftPath := o.swift?.getD settings.swiftPath }
  let proto := p.resolve settings.protoPath
  let swift := p.resolve settings.swiftPath
  let swiftName := swift.fileName?.getD "Status.swift"
  let protoName := proto.fileName?.getD "response_code.proto"
  say ("=> Synchronizing ".toList ++ swiftName ++ " with " ++ protoName ++ "...")
  if o.dryRun then say "[DRY RUN MODE]"
  let report ← ofDisk .status do
    let sync ← DiskAction.ofReader fun _ => settings.ready
    sync.run proto swift { dryRun := o.dryRun, updateComments := o.updateComments }
  printReport report swiftName o.dryRun

end ProtoUpkeep.StatusCodesCommand
