namespace BandedPalette

theorem exists_of_map {result : Except ε α} {build : α → β} {value : β}
    (mapped : result.map build = .ok value) :
    ∃ found, result = .ok found ∧ build found = value := by
  cases result with
  | error fault => cases mapped
  | ok found =>
      cases mapped
      exact ⟨found, rfl, rfl⟩

theorem exists_of_bind {result : Except ε α} {next : α → Except ε β} {value : β}
    (bound : (result >>= next) = .ok value) :
    ∃ found, result = .ok found ∧ next found = .ok value := by
  cases result with
  | error fault => cases bound
  | ok found => exact ⟨found, rfl, bound⟩

theorem mapError_ok (value : α) (reason : ε → δ) :
    (Except.ok value : Except ε α).mapError reason = .ok value := rfl

theorem mapError_error (fault : ε) (reason : ε → δ) :
    (Except.error fault : Except ε α).mapError reason = .error (reason fault) := rfl

theorem mapM_map_some {items : List ι} {print : ι → α} {read : α → Option β} {value : ι → β}
    (each : ∀ item, read (print item) = some (value item)) :
    (items.map print).mapM read = some (items.map value) := by
  have composed : read ∘ print = fun item => pure (value item) := funext each
  rw [List.mapM_map, composed, List.mapM_pure]
  rfl

end BandedPalette
