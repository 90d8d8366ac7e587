import ProtoUpkeep.Files.Action

/-!
# Running actions

An action that is put together from others is run by running these. There is one lemma for each way
of putting actions together, in terms of `DiskAction.runOn`, so that no proof about files looks into
the monad. Actions that only read leave the disk alone (`DiskAction.ReadsOnly`), and a text is read
exactly where a path leads to a file that writes it (`Files.runOn_readText_eq_ok_iff`).
-/

namespace ProtoUpkeep

namespace DiskAction

variable {ε ε' α β : Type} {a : DiskAction ε α} {f : α → DiskAction ε β} {d d' : Disk} {o : Outside}
  {x : α} {e : ε}

/-! ## One step -/

@[simp] theorem runOn_pure (x : α) (d : Disk) :
    (pure x : DiskAction ε α).runOn d o = (.ok x, d) := rfl

@[simp] theorem runOn_throw (e : ε) (d : Disk) :
    (throw e : DiskAction ε α).runOn d o = (.error e, d) := rfl

@[simp] theorem runOn_get (d : Disk) : (get : DiskAction ε Disk).runOn d o = (.ok d, d) := rfl

@[simp] theorem runOn_ofStep (f : Outside → Disk → Except ε α × Disk) (d : Disk) :
    (ofStep f).runOn d o = f o d := rfl

@[simp] theorem runOn_ofQuery (f : Outside → Disk → Except ε α) (d : Disk) :
    (ofQuery f).runOn d o = (f o d, d) := rfl

@[simp] theorem runOn_ofReader (f : Disk → Except ε α) (d : Disk) :
    (ofReader f).runOn d o = (f d, d) := rfl

/-- An action goes on with the result of its first part. -/
theorem runOn_bind_ok (h : a.runOn d o = (.ok x, d')) :
    (a >>= f).runOn d o = (f x).runOn d' o := by
  have hrun : StateT.run (ReaderT.run (ExceptT.run a) o) d = (Except.ok x, d') := h
  simp only [runOn, ExceptT.run_bind, ReaderT.run_bind, StateT.run_bind, hrun]
  rfl

/-- An action ends with the error of its first part. -/
theorem runOn_bind_error (h : a.runOn d o = (.error e, d')) :
    (a >>= f).runOn d o = (.error e, d') := by
  have hrun : StateT.run (ReaderT.run (ExceptT.run a) o) d = (Except.error e, d') := h
  simp only [runOn, ExceptT.run_bind, ReaderT.run_bind, StateT.run_bind, hrun]
  rfl

/-- An action that succeeds has succeeded in its first part. -/
theorem exists_of_runOn_bind {y : β} (h : (a >>= f).runOn d o = (.ok y, d')) :
    ∃ x d₁, a.runOn d o = (.ok x, d₁) ∧ (f x).runOn d₁ o = (.ok y, d') := by
  rcases hrun : a.runOn d o with ⟨r, d₁⟩
  cases r with
  | error e =>
    rw [runOn_bind_error hrun] at h
    cases h
  | ok x =>
    rw [runOn_bind_ok hrun] at h
    exact ⟨x, d₁, rfl, h⟩

/-- An action fails with its error changed. -/
@[simp] theorem runOn_mapError (f : ε → ε') (a : DiskAction ε α) (d : Disk) :
    (a.mapError f).runOn d o = ((a.runOn d o).1.mapError f, (a.runOn d o).2) := by
  rw [mapError, runOn_ofStep]
  rcases a.runOn d o with ⟨r, d'⟩
  cases r <;> rfl

/-- An action that does not fail is the same with its error changed. -/
theorem runOn_mapError_ok (h : a.runOn d o = (.ok x, d')) (g : ε → ε') :
    (a.mapError g).runOn d o = (.ok x, d') := by
  rw [runOn_mapError, h]
  rfl

/-- An action that succeeds with its error changed succeeds without. -/
theorem runOn_of_mapError {g : ε → ε'} (h : (a.mapError g).runOn d o = (.ok x, d')) :
    a.runOn d o = (.ok x, d') := by
  rw [runOn_mapError] at h
  rcases hrun : a.runOn d o with ⟨r, d₁⟩
  rw [hrun] at h
  cases r <;> cases h
  rfl

/-- The error of an action is changed. -/
theorem runOn_mapError_error (h : a.runOn d o = (.error e, d')) (g : ε → ε') :
    (a.mapError g).runOn d o = (.error (g e), d') := by
  rw [runOn_mapError, h]
  rfl

/-- An action whose error is looked at does not fail. -/
@[simp] theorem runOn_attempt (a : DiskAction ε α) (d : Disk) :
    (a.attempt : DiskAction ε' (Except ε α)).runOn d o = (.ok (a.runOn d o).1, (a.runOn d o).2) := rfl

/-- An action that does not fail is not cleaned up behind. -/
theorem runOn_withCleanup_ok (h : a.runOn d o = (.ok x, d')) (b : DiskAction ε' Unit) :
    (a.withCleanup b).runOn d o = (.ok x, d') := by
  rw [withCleanup, runOn_ofStep, h]

/-- An action that fails is cleaned up behind. -/
theorem runOn_withCleanup_error (h : a.runOn d o = (.error e, d')) (b : DiskAction ε' Unit) :
    (a.withCleanup b).runOn d o = (.error e, (b.runOn d' o).2) := by
  rw [withCleanup, runOn_ofStep, h]

/-- An action that succeeds with a cleaning up has succeeded itself. -/
theorem runOn_of_withCleanup {b : DiskAction ε' Unit} (h : (a.withCleanup b).runOn d o = (.ok x, d')) :
    a.runOn d o = (.ok x, d') := by
  rcases hrun : a.runOn d o with ⟨r, d₁⟩
  cases r with
  | ok y =>
    rw [runOn_withCleanup_ok hrun] at h
    exact h
  | error e =>
    rw [runOn_withCleanup_error hrun] at h
    cases h

/-- A change that is made. -/
theorem runOn_ofUpdate_ok {g : Outside → Disk → Except ε (α × Disk)} (h : g o d = .ok (x, d')) :
    (ofUpdate g).runOn d o = (.ok x, d') := by
  rw [ofUpdate, runOn_ofStep, h]

/-- A change that is refused leaves the disk alone. -/
theorem runOn_ofUpdate_error {g : Outside → Disk → Except ε (α × Disk)} (h : g o d = .error e) :
    (ofUpdate g).runOn d o = (.error e, d) := by
  rw [ofUpdate, runOn_ofStep, h]

/-! ## Reading -/

/-- The action leaves every disk alone, whatever stands around it. -/
def ReadsOnly (a : DiskAction ε α) : Prop := ∀ d o, (a.runOn d o).2 = d

/-- An action that reads leaves the disk that it finds. -/
theorem ReadsOnly.eq_of_runOn {r : Except ε α} (h : ReadsOnly a) (hrun : a.runOn d o = (r, d')) :
    d' = d := by
  have hd := h d o
  rwa [hrun] at hd

theorem readsOnly_pure (x : α) : ReadsOnly (pure x : DiskAction ε α) := fun _ _ => rfl

theorem readsOnly_throw (e : ε) : ReadsOnly (throw e : DiskAction ε α) := fun _ _ => rfl

theorem readsOnly_ofQuery (g : Outside → Disk → Except ε α) : ReadsOnly (ofQuery g) :=
  fun _ _ => rfl

theorem readsOnly_ofReader (g : Disk → Except ε α) : ReadsOnly (ofReader g) := readsOnly_ofQuery _

theorem ReadsOnly.mapError (h : ReadsOnly a) (g : ε → ε') : ReadsOnly (a.mapError g) := fun d o => by
  rw [runOn_mapError]
  exact h d o

theorem ReadsOnly.bind (h : ReadsOnly a) (hf : ∀ x, ReadsOnly (f x)) : ReadsOnly (a >>= f) := by
  intro d o
  rcases hrun : a.runOn d o with ⟨r, d'⟩
  obtain rfl := h.eq_of_runOn hrun
  cases r with
  | ok x => rw [runOn_bind_ok hrun, hf x]
  | error e => rw [runOn_bind_error hrun]

end DiskAction

namespace Files

/-- What is reported at a path is what the file system says. -/
theorem runOn_reportedAt_ok {α : Type} {a : DiskAction FileFault α} {d d' : Disk} {o : Outside} {x : α}
    (h : a.runOn d o = (.ok x, d')) (path : Text) : (reportedAt path a).runOn d o = (.ok x, d') :=
  DiskAction.runOn_mapError_ok h _

/-- A fault is reported at a path. -/
theorem runOn_reportedAt_error {α : Type} {a : DiskAction FileFault α} {d d' : Disk} {o : Outside}
    {fault : FileFault} (h : a.runOn d o = (.error fault, d')) (path : Text) :
    (reportedAt path a).runOn d o = (.error (.io path fault), d') :=
  DiskAction.runOn_mapError_error h _

/-! ## Reading files -/

theorem readsOnly_isFile {ε : Type} (path : Path) :
    DiskAction.ReadsOnly (isFile path : DiskAction ε Bool) := DiskAction.readsOnly_ofQuery _

theorem readsOnly_readBytes (path : Path) : (readBytes path).ReadsOnly :=
  (DiskAction.readsOnly_ofQuery _).mapError _

theorem readsOnly_readText (path : Path) : (readText path).ReadsOnly :=
  (readsOnly_readBytes path).bind fun bytes => by
    split
    · exact DiskAction.readsOnly_pure _
    · exact DiskAction.readsOnly_throw _

/-- The file that a path leads to is read. -/
theorem readFile_eq_ok_iff {d : Disk} {path : Text} {q : Place} {content : ByteArray}
    {executable : Bool} : d.readFile path = .ok (q, content, executable) ↔
      d.lookup true path = .ok (.found q (.file content executable)) := by
  simp only [Disk.readFile, bind, Except.bind]
  cases d.lookup true path with
  | error fault => simp
  | ok spot =>
    cases spot with
    | vacant place => simp
    | found place entry => cases entry <;> simp [pure, Except.pure]

/-- A text is read where a path leads to a file whose bytes write it, unless that is refused. -/
theorem runOn_readText_eq_ok_iff_of_outside {path : Path} {t : Text} {d d' : Disk} {o : Outside} :
    (readText path).runOn d o = (.ok t, d') ↔ d' = d ∧ o.refuses d (.read path.text) = none ∧
      ∃ q content executable, d.lookup true path.text = .ok (.found q (.file content executable)) ∧
        Text.ofBytes? content = some t := by
  have hbytes : (readBytes path).runOn d o =
      (((o.readFile d path.text).map fun file => file.2.1).mapError (.io path.text), d) :=
    DiskAction.runOn_mapError _ _ _
  constructor
  · intro h
    obtain ⟨bytes, d₁, hread, hdecode⟩ := DiskAction.exists_of_runOn_bind h
    rw [hbytes] at hread
    cases hfile : o.readFile d path.text with
    | error fault =>
      rw [hfile] at hread
      cases hread
    | ok file =>
      obtain ⟨q, content, executable⟩ := file
      obtain ⟨hgranted, hfound⟩ := Outside.answer_eq_ok_iff.1 hfile
      rw [hfile] at hread
      cases hread
      split at hdecode
      · next hbytes =>
        cases hdecode
        exact ⟨rfl, hgranted, q, content, executable, readFile_eq_ok_iff.1 hfound, hbytes⟩
      · cases hdecode
  · rintro ⟨rfl, hgranted, q, content, executable, hlookup, hdecode⟩
    have hfile := Outside.answer_eq_ok_iff.2 ⟨hgranted, readFile_eq_ok_iff.2 hlookup⟩
    have hread : (readBytes path).runOn d' o = (.ok content, d') := by
      rw [hbytes, Outside.readFile, hfile]
      rfl
    rw [readText, DiskAction.runOn_bind_ok hread, hdecode]
    rfl

/-- A text is read where a path leads to a file whose bytes write it. -/
theorem runOn_readText_eq_ok_iff {path : Path} {t : Text} {d d' : Disk} :
    (readText path).runOn d = (.ok t, d') ↔ d' = d ∧ ∃ q content executable,
      d.lookup true path.text = .ok (.found q (.file content executable)) ∧
        Text.ofBytes? content = some t := by
  simp [runOn_readText_eq_ok_iff_of_outside, Outside.calm]

end Files

end ProtoUpkeep
