import ProtoUpkeep.Pattern.Basic
import ProtoUpkeep.Status.Section

/-!
# Anchors

An anchor says where the text generated for a section goes: in front of the first occurrence of a
marker, or in front of what a pattern points at. A pattern has to be read by an engine before it can
be used; an `InsertionPoint` is an anchor that has been.
-/

namespace ProtoUpkeep

/-- Where the text generated for a section goes. -/
inductive Anchor where
  /-- In front of the first occurrence of a text. -/
  | marker (text : Text)
  /-- In front of what a pattern points at. -/
  | pattern (regex : Text)
deriving DecidableEq, Repr

/-- An anchor that can be looked for. -/
inductive InsertionPoint where
  /-- The first occurrence of a text. -/
  | marker (text : Text)
  /-- What a pattern points at. -/
  | pattern (p : Pattern)

/-- The anchor with its pattern read. -/
def Anchor.ready (a : Anchor) (engine : PatternEngine := .standard) :
    Except PatternError InsertionPoint :=
  match a with
  | marker text => return .marker text
  | pattern regex => return .pattern (← engine.read regex)

/-- The text before the insertion point and the text behind it, if the anchor occurs. -/
def InsertionPoint.cutAt : InsertionPoint → Text → Option (Text × Text)
  | marker text, t => Text.cutAt text t
  | pattern p, t => p.cutAt t

/-- The anchors of a Swift file in its usual layout. -/
def Anchor.defaults : PerSection Anchor where
  caseDeclarations := .marker
    "    /// swift-format-ignore: AlwaysUseLowerCamelCase\n    case unrecognized(Int32)"
  initCases := .marker "        default: self = .unrecognized(rawValue)"
  rawValueCases := .marker "        case .unrecognized(let i): return i"
  allCases := .pattern
    "(    \\]\\n\\\x7d)\\n\\n// minimal edit from proto-generated file:"
  nameMap := .pattern "(        \\]\\n\\\x7d)\\n\\nextension Status: Sendable"

end ProtoUpkeep
