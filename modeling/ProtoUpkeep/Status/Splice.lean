import ProtoUpkeep.Status.Drift
import ProtoUpkeep.Status.Error
import ProtoUpkeep.Status.Settings

/-!
# Changing the Swift text

Generated text is inserted section by section: each anchor is looked for in the text that the
sections before it have left. A section whose anchor does not occur is left alone and reported. The
doc comments of drifted declarations are replaced by line numbers that were taken from the text
before any change, so the replacements run from the end of the text to its start.
-/

namespace ProtoUpkeep

/-- The text with the generated text and a line feed in front of the insertion point. -/
def insertAt (point : InsertionPoint) (generated t : Text) : Option Text :=
  (point.cutAt t).map fun (before, rest) => before ++ generated ++ '\n' :: rest

/-- The insertion points of all sections. The first anchor that is refused is the error. -/
def readyAnchors (anchors : PerSection Anchor) (engine : PatternEngine := .standard) :
    Except StatusError (PerSection InsertionPoint) :=
  anchors.mapM fun s a => (a.ready engine).mapError (StatusError.invalidAnchor s)

/-- The text with the fragments of the given sections inserted, and the sections whose anchor does
not occur. -/
def insertSections (points : PerSection InsertionPoint) (fragments : PerSection Text) :
    List Section → Text → Text × List Section
  | [], t => (t, [])
  | s :: rest, t =>
    match insertAt (points.get s) (fragments.get s) t with
    | some t => insertSections points fragments rest t
    | none =>
      let (t, skipped) := insertSections points fragments rest t
      (t, s :: skipped)

/-- The text with the fragments of all sections inserted, and the sections whose anchor does not
occur. -/
def insertFragments (points : PerSection InsertionPoint) (fragments : PerSection Text) (t : Text) :
    Text × List Section :=
  insertSections points fragments Section.all t

/-- The warning about a section whose anchor does not occur. -/
def missingAnchorWarning (s : Section) : Text :=
  "Could not find insertion point for ".toList ++ s.title

/-- The lines with the doc comment of one declaration replaced. A declaration whose case line is not
among the lines changes nothing. -/
def replaceDoc (style : Style) (ls : List Text) (d : Drift) : List Text :=
  match ls[d.declaration.caseLine]? with
  | none => ls
  | some caseLine =>
    let indent := caseLine.takeWhile isBlank
    let doc := (style.docComment? d.code.comment d.code.deprecated).map fun text =>
      indent ++ "/// " ++ text
    ls.take d.declaration.firstLine ++ doc.toList ++ ls.drop d.declaration.caseLine

/-- The drifts in the order of replacement: by first lines, the last one first. -/
def bottomUp (ds : List Drift) : List Drift :=
  ds.mergeSort fun a b => b.declaration.firstLine ≤ a.declaration.firstLine

/-- The text with the doc comments of the drifted declarations replaced. -/
def replaceDocs (style : Style) (ds : List Drift) (t : Text) : Text :=
  Text.ofLines ((bottomUp ds).foldl (replaceDoc style) t.lines)

end ProtoUpkeep
