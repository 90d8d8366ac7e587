import ProtoUpkeep.CommandLine.Console
import ProtoUpkeep.Proofs.Files.Actions

/-!
# Commands at work

What a command does to the disk is what its actions on disks do: printing leaves the disk alone
(`ConsoleAction.exists_runOn_sayAll`), and an action on disks leaves the printed text alone
(`ConsoleAction.runOn_ofDisk_ok`).
-/

namespace ProtoUpkeep.ConsoleAction

variable {α β ε : Type} {a : ConsoleAction α} {f : α → ConsoleAction β} {c c' : Console} {x : α}

/-- The result of a command, and the disk and the printed text behind it. -/
def runOn (a : ConsoleAction α) (c : Console) : Except CommandError α × Console :=
  StateT.run (ExceptT.run a) c

@[simp] theorem runOn_pure (x : α) (c : Console) : (pure x : ConsoleAction α).runOn c = (.ok x, c) :=
  rfl

@[simp] theorem runOn_throw (e : CommandError) (c : Console) :
    (throw e : ConsoleAction α).runOn c = (.error e, c) := rfl

/-- A command goes on with the result of its first part. -/
theorem runOn_bind_ok (h : a.runOn c = (.ok x, c')) : (a >>= f).runOn c = (f x).runOn c' := by
  have hrun : StateT.run (ExceptT.run a) c = (Except.ok x, c') := h
  simp only [runOn, ExceptT.run_bind, StateT.run_bind, hrun]
  rfl

/-- A command ends with the error of its first part. -/
theorem runOn_bind_error {e : CommandError} (h : a.runOn c = (.error e, c')) :
    (a >>= f).runOn c = (.error e, c') := by
  have hrun : StateT.run (ExceptT.run a) c = (Except.error e, c') := h
  simp only [runOn, ExceptT.run_bind, StateT.run_bind, hrun]
  rfl

/-- A command that succeeds has succeeded in its first part. -/
theorem exists_of_runOn_bind {y : β} (h : (a >>= f).runOn c = (.ok y, c')) :
    ∃ x c₁, a.runOn c = (.ok x, c₁) ∧ (f x).runOn c₁ = (.ok y, c') := by
  rcases hrun : a.runOn c with ⟨r, c₁⟩
  cases r with
  | error e =>
    rw [runOn_bind_error hrun] at h
    cases h
  | ok x =>
    rw [runOn_bind_ok hrun] at h
    exact ⟨x, c₁, rfl, h⟩

/-- An action on disks leaves the printed text alone. -/
theorem runOn_ofDisk_ok {b : DiskAction ε α} {d d' : Disk} (g : ε → CommandError)
    (h : b.runOn d = (.ok x, d')) (printed : Text) :
    (ofDisk g b).runOn ⟨d, printed⟩ = (.ok x, ⟨d', printed⟩) := by
  have hrun : (ofDisk g b).runOn ⟨d, printed⟩ =
      ((b.runOn d).1.mapError g, ⟨(b.runOn d).2, printed⟩) := rfl
  rw [hrun, h]
  rfl

/-- An action on disks has succeeded if the command has. -/
theorem exists_of_runOn_ofDisk {b : DiskAction ε α} {d : Disk} {printed : Text}
    {g : ε → CommandError} (h : (ofDisk g b).runOn ⟨d, printed⟩ = (.ok x, c')) :
    ∃ d', b.runOn d = (.ok x, d') ∧ c' = ⟨d', printed⟩ := by
  have hrun : (ofDisk g b).runOn ⟨d, printed⟩ =
      ((b.runOn d).1.mapError g, ⟨(b.runOn d).2, printed⟩) := rfl
  rw [hrun] at h
  rcases hb : b.runOn d with ⟨r, d'⟩
  rw [hb] at h
  cases r with
  | error e => cases h
  | ok y =>
    cases h
    exact ⟨d', rfl, rfl⟩

/-- Printing a line leaves the disk alone. -/
theorem runOn_say (t : Text) (d : Disk) (printed : Text) :
    (say t).runOn ⟨d, printed⟩ = (.ok (), ⟨d, printed ++ (t ++ ['\n'])⟩) := rfl

/-- Printing lines leaves the disk alone. -/
theorem exists_runOn_sayAll (ts : List Text) (d : Disk) (printed : Text) :
    ∃ printed', (sayAll ts).runOn ⟨d, printed⟩ = (.ok (), ⟨d, printed'⟩) := by
  induction ts generalizing printed with
  | nil => exact ⟨printed, rfl⟩
  | cons t ts ih =>
    obtain ⟨printed', h⟩ := ih (printed ++ (t ++ ['\n']))
    exact ⟨printed', (runOn_bind_ok (runOn_say t d printed)).trans h⟩

end ProtoUpkeep.ConsoleAction
