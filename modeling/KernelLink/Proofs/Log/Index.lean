import KernelLink.Proofs.Log.History

namespace KernelLink

/-- The step inserts a request whose id the log does not know. -/
def LogStep.InsertsNew (log : ExecutionLog) (step : LogStep) : Prop :=
  ∃ request, step = .insert request ∧ request.msgId ∉ log.ids

namespace ExecutionLog

variable {log : ExecutionLog}

theorem Indexed.length_index (good : log.Indexed) : log.index.length = log.entries.length := by
  rw [good.index_eq, List.length_zipIdx, ids, List.length_map]

theorem Indexed.keys_nodup (good : log.Indexed) : (log.index.map (·.1)).Nodup := by
  rw [good.index_eq, List.zipIdx_map_fst]
  exact good.nodup

/-- What the index gives as the place of an id can be read without a look at the bounds. -/
theorem Indexed.get?_of_lookup (good : log.Indexed) {id : String} {i : Nat}
    (found : log.index.lookup id = some i) :
    ∃ bound : i < log.entries.length, log.get? id = some log.entries[i] ∧ log.entries[i].id = id := by
  have bound := good.lookup_lt found
  obtain ⟨e, place, named⟩ := (good.lookup_iff id i).mp found
  rw [List.getElem?_eq_getElem bound] at place
  cases Option.some.inj place
  refine ⟨bound, ?_, named⟩
  rw [get?, found, Option.bind_some, List.getElem?_eq_getElem bound]

theorem Indexed.lookup_iff_getElem (good : log.Indexed) (id : String) (i : Nat) :
    log.index.lookup id = some i ↔ ∃ bound : i < log.entries.length, log.entries[i].id = id := by
  constructor
  · intro found
    obtain ⟨bound, _, named⟩ := good.get?_of_lookup found
    exact ⟨bound, named⟩
  · rintro ⟨bound, named⟩
    exact (good.lookup_iff id i).mpr ⟨log.entries[i], List.getElem?_eq_getElem bound, named⟩

/-- The ids stay as they are, and where they are, in every step but two: a new id comes last, and a log that
is cleared loses them all. -/
theorem Indexed.ids_apply_eq_iff (good : log.Indexed) (step : LogStep) :
    (log.apply step).ids = log.ids ↔ ¬step.InsertsNew log ∧ (step = .clear → log.entries = []) := by
  cases step with
  | insert request =>
    rw [ExecutionLog.apply, good.ids_insert]
    by_cases tracked : request.msgId ∈ log.ids <;> simp [LogStep.InsertsNew, tracked]
  | clear =>
    rw [ExecutionLog.apply, eq_comm]
    simp [LogStep.InsertsNew, ids, empty]
  | _ =>
    -- what is left changes entries where they stand
    refine iff_of_true (good.ids_apply rfl rfl) ?_
    simp [LogStep.InsertsNew]

/-- In every log that a history leaves the index is a bijection onto the entries: an id leads to a place exactly
if the entry there is that of the id. So no two entries share an id, the index is as long as the log, a look-up
never leaves the log and finds the entry that was asked for, and only the insertion of a new id and the clearing
of a log with entries change which ids there are, how many, or their order. -/
theorem index_bijective (history : List LogStep) :
    let log := after history
    (∀ id i, log.index.lookup id = some i ↔
      ∃ bound : i < log.entries.length, log.entries[i].request.msgId = id) ∧
    (log.index.map (·.1)).Nodup ∧ (log.entries.map (·.request.msgId)).Nodup ∧
    log.index.length = log.entries.length ∧
    (∀ id i, log.index.lookup id = some i → ∃ bound : i < log.entries.length,
      log.get? id = some log.entries[i] ∧ log.entries[i].request.msgId = id) ∧
    ∀ step, (log.apply step).entries.map (·.request.msgId) = log.entries.map (·.request.msgId) ↔
      ¬(∃ request, step = .insert request ∧ request.msgId ∉ log.entries.map (·.request.msgId)) ∧
        (step = .clear → log.entries = []) := by
  have good := after_indexed history
  exact ⟨good.lookup_iff_getElem, good.keys_nodup, good.nodup, good.length_index,
    fun _ _ found => good.get?_of_lookup found, good.ids_apply_eq_iff⟩

end ExecutionLog
end KernelLink
