import ProtoUpkeep.Diff.Edit

/-!
# Compacting edit scripts

A deletion or insertion between kept lines can often slide: if the last kept line before an insertion
equals the last inserted line, the insertion can start one line earlier. Compaction slides each
deletion and then each insertion up as far as it goes and down again, and joins the edits of one
kind that meet, so that a script has fewer and lower edits.

A script under compaction is a pair of lists around the edit at hand: the edits before it, the
nearest first, and the edits behind it.
-/

namespace ProtoUpkeep.Compaction

/-- An edit in its script. -/
structure Focus where
  /-- The edits before it, the nearest first. -/
  before : List Edit
  /-- The edit at hand. -/
  edit : Edit
  /-- The edits behind it. -/
  behind : List Edit

/-- The edits behind with the kept lines that an edit slid over: the next edit grows if it keeps
lines, or else a new edit keeps them. -/
def keepBehind (n oldEnd newEnd : Nat) : List Edit → List Edit
  | e :: rest =>
    if e.kind = .keep then e.growUp n :: rest
    else ⟨.keep, oldEnd - n, newEnd - n, n⟩ :: e :: rest
  | [] => [⟨.keep, oldEnd - n, newEnd - n, n⟩]

/-- The edits before with the kept lines that an edit slid over. -/
def keepBefore (n oldPos newPos : Nat) : List Edit → List Edit
  | e :: rest =>
    if e.kind = .keep then e.growDown n :: rest else ⟨.keep, oldPos, newPos, n⟩ :: e :: rest
  | [] => [⟨.keep, oldPos, newPos, n⟩]

/-- Slides the edit up. It passes edits of the other kind and takes in those of its own. -/
def slideUp (s : Sides) : (bound : Nat) → Focus → Focus
  | 0, f => f
  | bound + 1, f =>
    match f.before with
    | [] => f
    | p :: before =>
      if p.kind = .keep then
        let n := s.commonBefore (p.oldPos + p.oldCount) (f.edit.newPos + f.edit.newCount)
          (min p.oldCount f.edit.newCount)
        if 0 < n then
          let behind := keepBehind n (p.oldPos + p.oldCount) (f.edit.newPos + f.edit.newCount)
            f.behind
          let p := p.shrinkUp n
          slideUp s bound
            { before := if p.count = 0 then before else p :: before
              edit := f.edit.moveUp n
              behind }
        else if p.count = 0 then slideUp s bound { f with before }
        else f
      else if p.kind = f.edit.kind then
        slideUp s bound { f with before, edit := p.growDown f.edit.count }
      else slideUp s bound { f with before, behind := p :: f.behind }

/-- Slides the edit down. It passes edits of the other kind and takes in those of its own. -/
def slideDown (s : Sides) : (bound : Nat) → Focus → Focus
  | 0, f => f
  | bound + 1, f =>
    match f.behind with
    | [] => f
    | q :: behind =>
      if q.kind = .keep then
        let n := s.commonAfter q.oldPos f.edit.newPos (min q.oldCount f.edit.newCount)
        if 0 < n then
          let before := keepBefore n q.oldPos f.edit.newPos f.before
          let q := q.shrinkDown n
          slideDown s bound
            { before
              edit := f.edit.moveDown n
              behind := if q.count = 0 then behind else q :: behind }
        else if q.count = 0 then slideDown s bound { f with behind }
        else f
      else if q.kind = f.edit.kind then
        slideDown s bound { f with behind, edit := f.edit.growDown q.count }
      else slideDown s bound { f with behind, before := q :: f.before }

/-- Slides each edit of one kind up and down, from the start of the script to its end; `before` is
what has been passed. -/
def slideAll (s : Sides) (kind : EditKind) : (bound : Nat) → (before behind : List Edit) → List Edit
  | 0, before, behind => before.reverse ++ behind
  | _ + 1, before, [] => before.reverse
  | bound + 1, before, e :: behind =>
    if e.kind = kind then
      let steps := s.old.size + s.new.size + before.length + behind.length + 1
      let up := slideUp s steps { before, edit := e, behind }
      let down := slideDown s (steps + up.behind.length) up
      slideAll s kind bound (down.edit :: down.before) down.behind
    else slideAll s kind bound (e :: before) behind

/-- The script with its deletions and then its insertions slid into place. -/
def compact (s : Sides) (script : List Edit) : List Edit :=
  let size := s.old.size + s.new.size + script.length + 1
  let bound := size * size
  slideAll s .insert bound [] (slideAll s .delete bound [] script)

end ProtoUpkeep.Compaction
