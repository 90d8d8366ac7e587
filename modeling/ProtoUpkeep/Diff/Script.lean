import ProtoUpkeep.Diff.Edit

/-!
# Shortest edit scripts

The search follows the divide-and-conquer form of Myers' algorithm. Within a range of lines of both
sides the common lines at its two ends are kept. What lies between is cut at a place in the middle
of a shortest path from corner to corner, which a search from both corners finds: each of its rounds
allows one more deletion or insertion from either corner and notes how far each diagonal gets.
-/

namespace ProtoUpkeep

/-- A range of lines of both sides. -/
structure LineRange where
  /-- The first old line. -/
  oldStart : Nat
  /-- The number of old lines. -/
  oldCount : Nat
  /-- The first new line. -/
  newStart : Nat
  /-- The number of new lines. -/
  newCount : Nat

namespace LineRange

/-- How far the search has come on each diagonal. Diagonal `k` is kept at index `k + offset`. -/
structure Reach where
  /-- The index of the middle diagonal. -/
  offset : Nat
  /-- The number of old lines behind it, by diagonals. -/
  xs : Array Nat

/-- The number of old lines behind the search on diagonal `k`. -/
def Reach.at (r : Reach) (k : Int) : Nat := r.xs.getD (k + r.offset).toNat 0

/-- Notes how far the search has come on diagonal `k`. -/
def Reach.set (r : Reach) (k : Int) (x : Nat) : Reach :=
  { r with xs := r.xs.setIfInBounds (k + r.offset).toNat x }

/-- Where round `d` enters diagonal `k`: from the neighbour that came further. -/
def Reach.enter (r : Reach) (d k : Int) : Nat :=
  if k = -d ∨ (k ≠ d ∧ r.at (k - 1) < r.at (k + 1)) then r.at (k + 1) else r.at (k - 1) + 1

/-- The diagonals of round `d`, from the last one down. -/
def diagonals (d : Nat) : List Int :=
  (List.range (d + 1)).map fun (i : Nat) => (d : Int) - 2 * (i : Int)

/-- One round of the search from the start, until it meets the search from the end. -/
def forward (s : Sides) (r : LineRange) (d : Nat) (back : Reach) :
    List Int → Reach → Reach × Option (Nat × Nat)
  | [], fwd => (fwd, none)
  | k :: ks, fwd =>
    let x := fwd.enter d k
    let y := ((x : Int) - k).toNat
    let run :=
      if x < r.oldCount ∧ y < r.newCount then
        s.commonAfter (r.oldStart + x) (r.newStart + y) (min (r.oldCount - x) (r.newCount - y))
      else 0
    let fwd := fwd.set k (x + run)
    let delta := (r.oldCount : Int) - r.newCount
    if delta % 2 ≠ 0 ∧ (k - delta).natAbs < d ∧ r.oldCount ≤ x + run + back.at (delta - k) then
      (fwd, some (x, y))
    else forward s r d back ks fwd

/-- One round of the search from the end, until it meets the search from the start. -/
def backward (s : Sides) (r : LineRange) (d : Nat) (fwd : Reach) :
    List Int → Reach → Reach × Option (Nat × Nat)
  | [], back => (back, none)
  | k :: ks, back =>
    let x := back.enter d k
    let y := ((x : Int) - k).toNat
    let run :=
      if x < r.oldCount ∧ y < r.newCount then
        s.commonBefore (r.oldStart + (r.oldCount - x)) (r.newStart + (r.newCount - y))
          (min (r.oldCount - x) (r.newCount - y))
      else 0
    let back := back.set k (x + run)
    let delta := (r.oldCount : Int) - r.newCount
    if delta % 2 = 0 ∧ (k - delta).natAbs ≤ d ∧ r.oldCount ≤ x + run + fwd.at (delta - k) then
      (back, some (r.oldCount - (x + run), r.newCount - (y + run)))
    else backward s r d fwd ks back

/-- The rounds of the search from round `d` on; `left` is the number of rounds left. -/
def rounds (s : Sides) (r : LineRange) : (left d : Nat) → (fwd back : Reach) → Option (Nat × Nat)
  | 0, _, _, _ => none
  | left + 1, d, fwd, back =>
    match forward s r d back (diagonals d) fwd with
    | (_, some cut) => some cut
    | (fwd, none) =>
      match backward s r d fwd (diagonals d) back with
      | (_, some cut) => some cut
      | (back, none) => rounds s r left (d + 1) fwd back

/-- The place where a range is cut, as numbers of lines of both sides before it. -/
def middle? (s : Sides) (r : LineRange) : Option (Nat × Nat) :=
  let most := (r.oldCount + r.newCount + 1) / 2 + 1
  let reach : Reach := { offset := most + 1, xs := Array.replicate (2 * most + 3) 0 }
  rounds s r most 0 reach reach

/-- An edit script for a range, in the order of the lines. The bound limits how often the range is
cut; as each cut leaves smaller ranges, the number of lines is enough. -/
def script (s : Sides) : (bound : Nat) → LineRange → List Edit
  | bound, r =>
    let head := s.commonAfter r.oldStart r.newStart (min r.oldCount r.newCount)
    let oldStart := r.oldStart + head
    let newStart := r.newStart + head
    let tail := s.commonBefore (r.oldStart + r.oldCount) (r.newStart + r.newCount)
      (min r.oldCount r.newCount - head)
    let oldCount := r.oldCount - head - tail
    let newCount := r.newCount - head - tail
    let kept (i j n : Nat) : List Edit := if n = 0 then [] else [⟨.keep, i, j, n⟩]
    let between : List Edit :=
      if oldCount = 0 ∧ newCount = 0 then []
      else if newCount = 0 then [⟨.delete, oldStart, newStart, oldCount⟩]
      else if oldCount = 0 then [⟨.insert, oldStart, newStart, newCount⟩]
      else
        match bound with
        | 0 =>
          [⟨.delete, oldStart, newStart, oldCount⟩, ⟨.insert, oldStart, newStart, newCount⟩]
        | bound + 1 =>
          match middle? s ⟨oldStart, oldCount, newStart, newCount⟩ with
          | none =>
            [⟨.delete, oldStart, newStart, oldCount⟩, ⟨.insert, oldStart, newStart, newCount⟩]
          | some (x, y) =>
            script s bound ⟨oldStart, x, newStart, y⟩ ++
              script s bound ⟨oldStart + x, oldCount - x, newStart + y, newCount - y⟩
    kept r.oldStart r.newStart head ++ between ++
      kept (oldStart + oldCount) (newStart + newCount) tail

end LineRange

/-- A shortest edit script between the two sides. -/
def Sides.script (s : Sides) : List Edit :=
  LineRange.script s (s.old.size + s.new.size) ⟨0, s.old.size, 0, s.new.size⟩

end ProtoUpkeep
