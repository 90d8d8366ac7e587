import ProtoUpkeep.Diff.Unified
import ProtoUpkeep.Status.EnumBlock
import ProtoUpkeep.Status.Splice

/-!
# Plans

A plan is what one run would change, computed from the two texts alone: the codes that the Swift enum
lacks, the doc comments that have drifted, and the Swift text brought in step. Doc comments are
replaced first, because the line numbers of declarations are those of the text as it was read.
-/

namespace ProtoUpkeep

/-- Settings whose anchors have been read. -/
structure StatusSync where
  /-- The settings. -/
  settings : StatusSettings
  /-- Where the text generated for each section goes. -/
  points : PerSection InsertionPoint

/-- The settings made ready for use, unless an anchor is refused. -/
def StatusSettings.ready (settings : StatusSettings) (engine : PatternEngine := .standard) :
    Except StatusError StatusSync := do
  return { settings, points := ← readyAnchors settings.anchors engine }

/-- What one run would change. -/
structure Plan where
  /-- The number of codes in the proto file. -/
  protoCount : Nat
  /-- The number of raw values that the Swift file maps. -/
  mappedCount : Nat
  /-- The codes that the Swift file lacks. -/
  missing : List StatusCode
  /-- The doc comments to replace. -/
  drifts : List Drift
  /-- The sections that were left alone. -/
  skipped : List Section
  /-- The Swift text as it is. -/
  original : Text
  /-- The Swift text as it should be. -/
  updated : Text

namespace Plan

/-- Whether there is nothing to bring in step. -/
def inSync (p : Plan) : Bool := p.missing.isEmpty && p.drifts.isEmpty

/-- Whether the Swift text would change. -/
def hasChanges (p : Plan) : Bool := p.original != p.updated

/-- What the sections that were left alone are reported as. -/
def warnings (p : Plan) : List Text := p.skipped.map missingAnchorWarning

/-- The change as a unified diff. -/
def diff (p : Plan) (fileName : Text) : Text := unifiedDiff fileName p.original p.updated

end Plan

namespace StatusSync

/-- The Swift text with the drifted doc comments replaced. -/
def withDocs (s : StatusSync) (ds : List Drift) (swift : Text) : Text :=
  if ds.isEmpty then swift else replaceDocs s.settings.style ds swift

/-- The Swift text with the missing codes inserted, and the sections that were left alone. -/
def withCodes (s : StatusSync) (missing : List StatusCode) (swift : Text) : Text × List Section :=
  if missing.isEmpty then (swift, [])
  else insertFragments s.points (s.settings.style.fragments missing) swift

/-- The plan for a proto text and a Swift text; doc comments are looked at on request. -/
def plan (s : StatusSync) (proto swift : Text) (updateComments : Bool) :
    Except StatusError Plan :=
  match StatusCode.ofProto? s.settings.enumName proto with
  | none => .error (.enumNotFound s.settings.enumName)
  | some codes =>
    let mapped := RawValues.ofSwift swift
    let missing := missingCodes codes mapped
    let drifts :=
      if updateComments then
        drifts codes mapped (Declaration.ofSwift s.settings.deprecatedMarker swift)
      else []
    let (updated, skipped) := s.withCodes missing (s.withDocs drifts swift)
    .ok {
      protoCount := codes.length
      mappedCount := mapped.size
      missing, drifts, skipped
      original := swift
      updated }

end StatusSync

end ProtoUpkeep
