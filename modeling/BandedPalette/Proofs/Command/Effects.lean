import BandedPalette.Proofs.Command.Performing
namespace BandedPalette.Command

/-- What a command relies on: a read changes nothing, and neither does a write that is
refused. -/
structure Careful (around : Surroundings (StateM σ)) : Prop where
  read : ∀ path before result after,
    (around.read path).run before = (result, after) → after = before
  write : ∀ path text before fault after,
    (around.write path text).run before = (.error fault, after) → after = before

theorem careful_surroundings : Careful Workspace.surroundings where
  read := by
    intro path before result after ran
    cases ran
    rfl
  write := by
    intro path text before fault after ran
    rw [run_write] at ran
    split at ran <;> cases ran
    rfl

/-- An action after which a view of the state is what it was. -/
def Keeps (view : σ → β) (action : ExceptT Failure (StateM σ) α) : Prop :=
  ∀ before result after, action.run.run before = (result, after) → view after = view before

/-- An action that changes nothing if it fails. -/
def Atomic (action : ExceptT Failure (StateM σ) α) : Prop :=
  ∀ before failure after, action.run.run before = (.error failure, after) → after = before

def Succeeds (action : ExceptT Failure (StateM σ) α) : Prop :=
  ∀ before, ∃ value after, action.run.run before = (.ok value, after)

section Sequences

variable {view : σ → γ} {action : ExceptT Failure (StateM σ) α}
  {next : α → ExceptT Failure (StateM σ) β}

theorem Keeps.bind (first : Keeps view action) (later : ∀ value, Keeps view (next value)) :
    Keeps view (action >>= next) := by
  intro before result after ran
  rw [run_bind] at ran
  cases middle : action.run.run before with
  | mk outcome between =>
      have kept := first before outcome between middle
      rw [middle] at ran
      cases outcome with
      | error failure =>
          cases ran
          exact kept
      | ok value => exact (later value between result after ran).trans kept

theorem Keeps.bind_atomic (first : Keeps id action) (later : ∀ value, Atomic (next value)) :
    Atomic (action >>= next) := by
  intro before failure after ran
  rw [run_bind] at ran
  cases middle : action.run.run before with
  | mk outcome between =>
      have kept : between = before := first before outcome between middle
      rw [middle] at ran
      cases outcome with
      | error failure =>
          cases ran
          exact kept
      | ok value => exact (later value between failure after ran).trans kept

theorem Succeeds.bind (first : Succeeds action) (later : ∀ value, Succeeds (next value)) :
    Succeeds (action >>= next) := by
  intro before
  obtain ⟨value, between, middle⟩ := first before
  obtain ⟨result, after, last⟩ := later value between
  exact ⟨result, after, by rw [run_bind, middle]; exact last⟩

theorem Succeeds.atomic (succeeds : Succeeds action) : Atomic action := by
  intro before failure after ran
  obtain ⟨value, between, done⟩ := succeeds before
  cases done.symm.trans ran

theorem keeps_pure (view : σ → γ) (value : α) :
    Keeps view (pure value : ExceptT Failure (StateM σ) α) := by
  intro before result after ran
  cases ran
  rfl

theorem succeeds_pure (value : α) : Succeeds (pure value : ExceptT Failure (StateM σ) α) :=
  fun before => ⟨value, before, rfl⟩

variable {items : List ι} {each : ι → ExceptT Failure (StateM σ) PUnit}

theorem keeps_forM (keeps : ∀ item ∈ items, Keeps view (each item)) :
    Keeps view (items.forM each) := by
  induction items with
  | nil => exact keeps_pure view PUnit.unit
  | cons item rest ih =>
      have later := ih fun other member => keeps other (by simp [member])
      exact (keeps item (by simp)).bind fun _ => later

theorem succeeds_forM (succeeds : ∀ item ∈ items, Succeeds (each item)) :
    Succeeds (items.forM each) := by
  induction items with
  | nil => exact succeeds_pure PUnit.unit
  | cons item rest ih =>
      have later := ih fun other member => succeeds other (by simp [member])
      exact (succeeds item (by simp)).bind fun _ => later

end Sequences

section Steps

variable {around : Surroundings (StateM σ)} {view : σ → γ}

theorem run_lift (action : StateM σ α) (before : σ) :
    (liftM action : ExceptT Failure (StateM σ) α).run.run before =
      (.ok (action.run before).1, (action.run before).2) := rfl

theorem keeps_require (view : σ → γ) (reason : ε → Failure) (result : Except ε α) :
    Keeps view (require (m := StateM σ) reason result) := by
  intro before outcome after ran
  rw [run_require] at ran
  cases ran
  rfl

theorem succeeds_print (around : Surroundings (StateM σ)) (text : String) :
    Succeeds (liftM (around.print text) : ExceptT Failure (StateM σ) Unit) :=
  fun before => ⟨_, _, run_lift (around.print text) before⟩

theorem Careful.keeps_read (careful : Careful around) (view : σ → γ) (path : String) :
    Keeps view (liftM (around.read path) : ExceptT Failure (StateM σ) _) := by
  intro before result after ran
  rw [run_lift] at ran
  cases ran
  exact congrArg view (careful.read path before _ _ rfl)

theorem Careful.atomic_save (careful : Careful around) (use : FileUse) (path text : String) :
    Atomic (save around use path text) := by
  intro before failure after ran
  rw [save, run_bind, run_lift] at ran
  simp only [run_require] at ran
  cases written : (around.write path text).run before with
  | mk result between =>
      rw [written] at ran
      cases result with
      | error fault =>
          cases ran
          exact careful.write path text before fault _ written
      | ok done => cases ran

theorem Careful.keeps_file (careful : Careful around) (view : σ → γ) (use : FileUse)
    (path : String) (reason : ε → Failure) (decode : String → Except ε α) :
    Keeps view (do
        let text ← require (.file use path) (← around.read path)
        require reason (decode text) : ExceptT Failure (StateM σ) α) :=
  (careful.keeps_read view path).bind fun _ => (keeps_require view _ _).bind fun _ =>
    keeps_require view _ _

theorem Careful.keeps_loadFormula (careful : Careful around) (view : σ → γ)
    (path : Option String) : Keeps view (loadFormula around path) := by
  cases path with
  | none => exact keeps_pure view _
  | some path => exact careful.keeps_file view _ _ _ _

theorem Careful.keeps_loadReference (careful : Careful around) (view : σ → γ)
    (path : Option String) : Keeps view (loadReference around path) := by
  cases path with
  | none => exact keeps_pure view _
  | some path => exact careful.keeps_file view _ _ _ _

end Steps

end BandedPalette.Command
