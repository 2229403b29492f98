import BandedPalette.Proofs.Command.Effects
import BandedPalette.Proofs.Result
namespace BandedPalette.Command

theorem levels_of_steps (formula : Formula) (band : Band) :
    ((List.range 4).mapM fun number => do
      let step ← checkSelector number
      formula.levelAt band.val step) = .ok ((List.finRange 4).map (formula.level band)) := by
  have numbers : List.range 4 = (List.finRange 4).map Fin.val := by decide
  have each : (fun number => do
      let step ← checkSelector number
      formula.levelAt band.val step) ∘ Fin.val =
        fun step : Selector => (pure (formula.level band step) : Except DomainFault UInt8) := by
    funext step
    simp [checkSelector, Formula.levelAt, Except.map, bind, Except.bind, pure, Except.pure]
  rw [numbers, List.mapM_map, each, List.mapM_pure]
  rfl

theorem bandRowAt_eq (formula : Formula) (band : Band) :
    bandRowAt formula band =
      .ok (bandRow formula band (formula.bounds band)
        ((List.finRange 4).map (formula.level band))) := by
  rw [bandRowAt, levels_of_steps]
  simp [Formula.boundsAt, Except.map, bind, Except.bind, pure, Except.pure]

theorem hueRowAt_eq (formula : Formula) (hue : Hue) :
    hueRowAt formula hue = .ok (hueRow hue (formula.hueCode hue)) := by
  simp [hueRowAt, Formula.hueCodeAt, Except.map, bind, Except.bind, pure, Except.pure]

section Performing

variable {around : Surroundings (StateM σ)}

theorem succeeds_printRow (around : Surroundings (StateM σ)) {row : Except DomainFault String}
    {text : String} (found : row = .ok text) : Succeeds (printRow around row) := by
  subst found
  exact (succeeds_pure text).bind fun _ => succeeds_print around _

theorem succeeds_printTables (around : Surroundings (StateM σ)) (formula : Formula) :
    Succeeds (printTables around formula) := by
  have bands : Succeeds ((List.finRange 7).forM fun band =>
      printRow around (bandRowAt formula band)) :=
    succeeds_forM fun band _ => succeeds_printRow around (bandRowAt_eq formula band)
  have hues : Succeeds ((List.finRange 18).forM fun hue =>
      printRow around (hueRowAt formula hue)) :=
    succeeds_forM fun hue _ => succeeds_printRow around (hueRowAt_eq formula hue)
  exact (succeeds_print around _).bind fun _ => bands.bind fun _ =>
    (succeeds_print around _).bind fun _ => hues

theorem Careful.atomic_perform (careful : Careful around) (command : Command) :
    Atomic (command.perform around) := by
  cases command with
  | encode index formula format =>
      refine (careful.keeps_loadFormula id formula).bind_atomic fun formula => ?_
      cases index with
      | none => exact (succeeds_print around _).atomic
      | some number =>
          exact (keeps_require id _ _).bind_atomic fun _ => (succeeds_print around _).atomic
  | analyze reference formula top bands format =>
      exact (careful.keeps_loadFormula id formula).bind_atomic fun _ =>
        (careful.keeps_loadReference id reference).bind_atomic fun _ =>
          (keeps_require id _ _).bind_atomic fun _ => (succeeds_print around _).atomic
  | series reference formula format out =>
      refine (careful.keeps_loadFormula id formula).bind_atomic fun _ =>
        (careful.keeps_loadReference id reference).bind_atomic fun _ =>
          (keeps_require id _ _).bind_atomic fun _ => ?_
      cases out with
      | some path => exact careful.atomic_save _ path _
      | none => exact (succeeds_print around _).atomic
  | inspect formula =>
      exact (careful.keeps_loadFormula id formula).bind_atomic fun formula =>
        ((succeeds_print around _).bind fun _ => succeeds_printTables around formula).atomic
  | dump out =>
      cases out with
      | some path => exact careful.atomic_save _ path _
      | none => exact (succeeds_print around _).atomic
  | tint index base formula =>
      exact (careful.keeps_loadFormula id formula).bind_atomic fun _ =>
        (keeps_require id _ _).bind_atomic fun _ => (keeps_require id _ _).bind_atomic fun _ =>
          (succeeds_print around _).atomic

end Performing

/-- A run that fails prints nothing and leaves every file as it was.  The same
holds of a command in any surroundings where a refused write changes nothing. -/
theorem failure_leaves_no_trace :
    (∀ arguments folder outcome failure, BandedPalette.run arguments folder = .ok outcome →
      outcome.result = .error failure →
        outcome.workspace.printed = "" ∧ outcome.workspace.folder = folder) ∧
      ∀ (σ : Type) (around : Surroundings (StateM σ)), Careful around →
        ∀ (command : Command) before failure after,
          (command.perform around).run.run before = (.error failure, after) → after = before := by
  constructor
  · intro arguments folder outcome failure ran failed
    obtain ⟨command, _, rfl⟩ := exists_of_map ran
    have kept := careful_surroundings.atomic_perform command ⟨folder, ""⟩ failure
      (command.run folder).workspace (Prod.ext failed rfl)
    rw [kept]
    exact ⟨rfl, rfl⟩
  · intro σ around careful command
    exact careful.atomic_perform command

/-- A formula cannot be written over the directory itself. -/
theorem failure_leaves_no_trace_directory :
    ∃ outcome failure,
      BandedPalette.run ["formula", "dump", "--out", "."] ⟨[("notes.txt", "kept".toUTF8)]⟩ =
          .ok outcome ∧
        outcome.result = .error failure ∧ outcome.workspace.printed = "" ∧
        outcome.workspace.folder = ⟨[("notes.txt", "kept".toUTF8)]⟩ := by
  let folder : Folder := ⟨[("notes.txt", "kept".toUTF8)]⟩
  let failure : Failure := .file .writeFormula "." .isDirectory
  have ran : BandedPalette.run ["formula", "dump", "--out", "."] folder =
      .ok ⟨.error failure, ⟨folder, ""⟩⟩ := rfl
  exact ⟨_, failure, ran, rfl, failure_leaves_no_trace.1 _ _ _ _ ran rfl⟩

end BandedPalette.Command
