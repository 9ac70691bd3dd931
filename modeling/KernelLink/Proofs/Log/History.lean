import KernelLink.Proofs.Log.Entries
import Mathlib.Data.Set.Card

namespace KernelLink

/-- What can be done to a log. -/
inductive LogStep where
  | insert (request : Message)
  | recordOutput (parent : String) (m : Message)
  | recordReply (parent : String) (m : Message) (status : Option ReplyStatus) (count : Option Int)
  | abandon (id : String)
  | abandonPending
  | clear

namespace ExecutionLog

/-- The log after one more step. -/
def apply (log : ExecutionLog) : LogStep → ExecutionLog
  | .insert request => log.insert request
  | .recordOutput parent m => (log.recordOutput parent m).1
  | .recordReply parent m status count => (log.recordReply parent m status count).1
  | .abandon id => log.abandon id
  | .abandonPending => log.abandonPending.1
  | .clear => .empty

/-- The log that a history leaves. -/
def after (history : List LogStep) : ExecutionLog := history.foldl apply .empty

end ExecutionLog

/-- The life of an id: its last insertion, of a request, and all that came later. Nothing may have
been cleared since. -/
structure IsLife (history : List LogStep) (id : String) (request : Message) (rest : List LogStep) : Prop where
  named : request.msgId = id
  split : ∃ before, history = before ++ .insert request :: rest
  kept : .clear ∉ rest
  last : ∀ other, .insert other ∈ rest → other.msgId ≠ id

/-- The message that a step adds to the responses of an id. -/
def LogStep.response? (id : String) : LogStep → Option Message
  | .recordOutput parent m => if id = parent then some m else none
  | .recordReply parent m _ _ => if id = parent then some m else none
  | _ => none

def LogStep.inserted? : LogStep → Option String
  | .insert request => some request.msgId
  | _ => none

def LogStep.isClear : LogStep → Bool
  | .clear => true
  | _ => false

/-- The ids inserted since the log was last cleared, as often as they were. -/
def insertedIds (history : List LogStep) : List String :=
  ((history.reverse.takeWhile (!·.isClear)).reverse).filterMap LogStep.inserted?

/-- The status of a terminal reply says that the kernel gave the request up. -/
def Aborts (status : Option ReplyStatus) : Prop := status = some .abort ∨ status = some .aborted

/-- The status of a terminal reply is missing, or is none that a kernel should send. -/
def Fails (status : Option ReplyStatus) : Prop := ¬Aborts status ∧ status ≠ some .ok

/-- Among the steps is a terminal reply to the id with a status of some kind. -/
def Replied (id : String) (kind : Option ReplyStatus → Prop) (steps : List LogStep) : Prop :=
  ∃ m status count, .recordReply id m status count ∈ steps ∧ kind status

/-- All that was pending has been given up before the first terminal reply to the id. -/
def Swept (id : String) (steps : List LogStep) : Prop :=
  ∃ earlier later, steps = earlier ++ .abandonPending :: later ∧ ¬Replied id (fun _ => True) earlier

/-- The request of an id has no terminal reply yet, and nobody has given it up. -/
structure Unanswered (id : String) (steps : List LogStep) : Prop where
  unreplied : ¬Replied id (fun _ => True) steps
  kept : .abandon id ∉ steps
  unswept : .abandonPending ∉ steps

/-- What the steps of a life make of the entry of its id. -/
structure Outcome (id : String) (request : Message) (steps : List LogStep) (e : ExecutionEntry) : Prop where
  request_eq : e.request = request
  responses_eq : e.responses = steps.filterMap (LogStep.response? id)
  complete_iff : e.complete = true ↔ Replied id (¬Aborts ·) steps
  error_iff : e.error = true ↔ Replied id Fails steps
  abandoned_iff : e.abandoned = true ↔ .abandon id ∈ steps ∨ Replied id Aborts steps ∨ Swept id steps

/-- What a step does to the entry of an id that it does not insert anew. -/
def ExecutionEntry.react (id : String) (e : ExecutionEntry) : LogStep → ExecutionEntry
  | .recordOutput parent m => if id = parent then e.addResponse m else e
  | .recordReply parent m status count => if id = parent then (e.addResponse m).finish status count else e
  | .abandon other => if id = other then e.abandon else e
  | .abandonPending => ExecutionLog.giveUp e
  | _ => e

namespace ExecutionLog

variable {log : ExecutionLog}

theorem Indexed.apply (good : log.Indexed) (step : LogStep) : (log.apply step).Indexed := by
  cases step with
  | insert request => exact good.insert request
  | recordOutput parent m => exact good.update (ExecutionEntry.id_addResponse m) parent
  | recordReply parent m status count =>
    exact good.update (ExecutionEntry.id_addResponse_finish m status count) parent
  | abandon id => exact good.update ExecutionEntry.id_abandon id
  | abandonPending => exact good.abandonPending
  | clear => exact empty_indexed

/-- Only an insertion and the clearing of the log change which ids it knows, and their order. -/
theorem Indexed.ids_apply (good : log.Indexed) {step : LogStep} (kept : step.isClear = false)
    (same : step.inserted? = none) : (log.apply step).ids = log.ids := by
  cases step with
  | insert request => cases same
  | recordOutput parent m => exact good.ids_update (ExecutionEntry.id_addResponse m) parent
  | recordReply parent m status count =>
    exact good.ids_update (ExecutionEntry.id_addResponse_finish m status count) parent
  | abandon id => exact good.ids_update ExecutionEntry.id_abandon id
  | abandonPending => exact ids_abandonPending log
  | clear => cases kept

theorem after_append (history later : List LogStep) :
    after (history ++ later) = later.foldl ExecutionLog.apply (after history) := List.foldl_append

theorem after_snoc (history : List LogStep) (step : LogStep) :
    after (history ++ [step]) = (after history).apply step := after_append history [step]

theorem after_indexed (history : List LogStep) : (after history).Indexed := by
  induction history using List.reverseRecOn with
  | nil => exact empty_indexed
  | append_singleton history step ih => rw [after_snoc]; exact ih.apply step

/-- A step that neither inserts an id nor clears the log changes at most the entry of that id. -/
theorem Indexed.get?_apply (good : log.Indexed) {id : String} {step : LogStep}
    (kept : step ≠ .clear) (same : ∀ request, step = .insert request → request.msgId ≠ id) :
    (log.apply step).get? id = (log.get? id).map fun e => e.react id step := by
  cases step with
  | insert request =>
    rw [ExecutionLog.apply, good.get?_insert, if_neg fun named => same request rfl named.symm]
    exact Option.map_id'.symm
  | recordOutput parent m => exact good.get?_update (ExecutionEntry.id_addResponse m) parent id
  | recordReply parent m status count =>
    exact good.get?_update (ExecutionEntry.id_addResponse_finish m status count) parent id
  | abandon other => exact good.get?_update ExecutionEntry.id_abandon other id
  | abandonPending => exact good.get?_abandonPending id
  | clear => exact absurd rfl kept

theorem Indexed.get?_foldl (good : log.Indexed) {id : String} {rest : List LogStep} (kept : .clear ∉ rest)
    (last : ∀ other, .insert other ∈ rest → other.msgId ≠ id) :
    (rest.foldl ExecutionLog.apply log).get? id =
      (log.get? id).map fun e => rest.foldl (ExecutionEntry.react id) e := by
  induction rest generalizing log with
  | nil => exact Option.map_id'.symm
  | cons step rest ih =>
    rw [List.foldl_cons, ih (good.apply step) (fun later => kept (List.mem_cons_of_mem _ later))
      fun other later => last other (List.mem_cons_of_mem _ later)]
    rw [good.get?_apply (fun here => kept (here ▸ List.mem_cons_self ..))
      fun other here => last other (here ▸ List.mem_cons_self ..), Option.map_map]
    rfl

/-- The entry of an id is what the steps of its life have made of it. -/
theorem get?_after_life {history rest : List LogStep} {id : String} {request : Message}
    (life : IsLife history id request rest) :
    (after history).get? id = some (rest.foldl (ExecutionEntry.react id) (.new request)) := by
  obtain ⟨before, rfl⟩ := life.split
  have good := after_indexed before
  rw [after_append, List.foldl_cons, (good.apply _).get?_foldl life.kept life.last, ExecutionLog.apply,
    good.get?_insert, if_pos life.named.symm, Option.map_some]

end ExecutionLog

theorem IsLife.snoc {history rest : List LogStep} {id : String} {request : Message} {step : LogStep}
    (life : IsLife history id request rest) (kept : step ≠ .clear)
    (same : ∀ other, step = .insert other → other.msgId ≠ id) :
    IsLife (history ++ [step]) id request (rest ++ [step]) := by
  obtain ⟨before, rfl⟩ := life.split
  refine ⟨life.named, ⟨before, by simp⟩, ?_, ?_⟩
  · simpa using ⟨life.kept, kept.symm⟩
  · intro other member
    rcases List.mem_append.mp member with old | new
    · exact life.last other old
    · exact same other (List.mem_singleton.mp new).symm

theorem replied_snoc {id : String} {kind : Option ReplyStatus → Prop} {steps : List LogStep}
    {step : LogStep} :
    Replied id kind (steps ++ [step]) ↔
      Replied id kind steps ∨ ∃ m status count, step = .recordReply id m status count ∧ kind status := by
  simp only [Replied, List.mem_append, List.mem_singleton]
  constructor
  · rintro ⟨m, status, count, old | new, fits⟩
    · exact Or.inl ⟨m, status, count, old, fits⟩
    · exact Or.inr ⟨m, status, count, new.symm, fits⟩
  · rintro (⟨m, status, count, old, fits⟩ | ⟨m, status, count, new, fits⟩)
    · exact ⟨m, status, count, Or.inl old, fits⟩
    · exact ⟨m, status, count, Or.inr new.symm, fits⟩

theorem swept_snoc {id : String} {steps : List LogStep} {step : LogStep} :
    Swept id (steps ++ [step]) ↔
      Swept id steps ∨ step = .abandonPending ∧ ¬Replied id (fun _ => True) steps := by
  constructor
  · rintro ⟨earlier, later, split, unreplied⟩
    rcases List.eq_nil_or_concat later with rfl | ⟨middle, last, rfl⟩
    · obtain ⟨rfl, same⟩ := List.append_inj' split rfl
      exact Or.inr ⟨List.singleton_inj.mp same, unreplied⟩
    · rw [List.concat_eq_append, ← List.cons_append, ← List.append_assoc] at split
      obtain ⟨rfl, _⟩ := List.append_inj' split rfl
      exact Or.inl ⟨earlier, middle, rfl, unreplied⟩
  · rintro (⟨earlier, later, rfl, unreplied⟩ | ⟨rfl, unreplied⟩)
    · exact ⟨earlier, later ++ [step], by simp, unreplied⟩
    · exact ⟨steps, [], rfl, unreplied⟩

/-- A sweep is among the steps if it came before the first reply; any other came too late. -/
theorem Swept.mem {id : String} {steps : List LogStep} (swept : Swept id steps) :
    .abandonPending ∈ steps := by
  obtain ⟨earlier, later, rfl, _⟩ := swept
  simp

theorem replied_or_swept {id : String} {steps : List LogStep} (member : .abandonPending ∈ steps) :
    Replied id (fun _ => True) steps ∨ Swept id steps := by
  obtain ⟨earlier, later, rfl⟩ := List.append_of_mem member
  by_cases replied : Replied id (fun _ => True) earlier
  · obtain ⟨m, status, count, old, fits⟩ := replied
    exact Or.inl ⟨m, status, count, List.mem_append_left _ old, fits⟩
  · exact Or.inr ⟨earlier, later, rfl, replied⟩

theorem replied_cases {id : String} {steps : List LogStep} :
    Replied id (fun _ => True) steps ↔ Replied id (¬Aborts ·) steps ∨ Replied id Aborts steps := by
  constructor
  · rintro ⟨m, status, count, member, _⟩
    by_cases aborts : Aborts status
    · exact Or.inr ⟨m, status, count, member, aborts⟩
    · exact Or.inl ⟨m, status, count, member, aborts⟩
  · rintro (⟨m, status, count, member, _⟩ | ⟨m, status, count, member, _⟩) <;>
      exact ⟨m, status, count, member, trivial⟩

namespace Outcome

variable {id : String} {request : Message} {steps : List LogStep} {e : ExecutionEntry}

theorem new (id : String) (request : Message) : Outcome id request [] (.new request) where
  request_eq := rfl
  responses_eq := rfl
  complete_iff := by simp [Replied, ExecutionEntry.new]
  error_iff := by simp [Replied, ExecutionEntry.new]
  abandoned_iff := by simp [Replied, Swept, ExecutionEntry.new]

/-- A step that is neither a reply to the id nor gives anything up leaves the flags alone. -/
theorem quiet (known : Outcome id request steps e) {step : LogStep} {after : ExecutionEntry}
    (unreplied : ∀ m status count, step ≠ .recordReply id m status count) (kept : step ≠ .abandon id)
    (unswept : step ≠ .abandonPending) (request_eq : after.request = e.request)
    (responses_eq : after.responses = e.responses ++ (step.response? id).toList)
    (complete_eq : after.complete = e.complete) (error_eq : after.error = e.error)
    (abandoned_eq : after.abandoned = e.abandoned) : Outcome id request (steps ++ [step]) after where
  request_eq := request_eq.trans known.request_eq
  responses_eq := by
    rw [responses_eq, known.responses_eq, List.filterMap_append]
    cases answer : step.response? id <;> simp [answer]
  complete_iff := by simp [complete_eq, known.complete_iff, replied_snoc, unreplied]
  error_iff := by simp [error_eq, known.error_iff, replied_snoc, unreplied]
  abandoned_iff := by
    simp [abandoned_eq, known.abandoned_iff, replied_snoc, swept_snoc, unreplied, kept.symm, unswept]

/-- Whether an entry is pending follows from its flags. -/
theorem pending_iff (known : Outcome id request steps e) : e.isPending = true ↔ Unanswered id steps := by
  rw [ExecutionEntry.isPending, Bool.and_eq_true, Bool.not_eq_true', Bool.not_eq_true', ← Bool.not_eq_true,
    ← Bool.not_eq_true, known.complete_iff, known.abandoned_iff]
  constructor
  · rintro ⟨incomplete, kept⟩
    have unreplied : ¬Replied id (fun _ => True) steps := fun replied =>
      (replied_cases.mp replied).elim incomplete fun aborted => kept (Or.inr (Or.inl aborted))
    exact ⟨unreplied, fun given => kept (Or.inl given), fun member =>
      (replied_or_swept member).elim unreplied fun swept => kept (Or.inr (Or.inr swept))⟩
  · rintro ⟨unreplied, kept, unswept⟩
    refine ⟨fun ended => unreplied (replied_cases.mpr (Or.inl ended)), ?_⟩
    rintro (given | aborted | swept)
    · exact kept given
    · exact unreplied (replied_cases.mpr (Or.inr aborted))
    · exact unswept swept.mem

theorem finish_flags (e : ExecutionEntry) (status : Option ReplyStatus) (count : Option Int) :
    ((e.finish status count).complete = true ↔ e.complete = true ∨ ¬Aborts status) ∧
      ((e.finish status count).error = true ↔ e.error = true ∨ Fails status) ∧
      ((e.finish status count).abandoned = true ↔ e.abandoned = true ∨ Aborts status) ∧
      (e.finish status count).responses = e.responses := by
  unfold ExecutionEntry.finish
  split
  case h_4 notOk notAbort notAborted =>
    have goesOn : ¬Aborts status := fun aborts => aborts.elim notAbort notAborted
    have failed : Fails status := ⟨goesOn, notOk⟩
    simp [goesOn, failed]
  all_goals simp [Aborts, Fails]

theorem reply (known : Outcome id request steps e) (m : Message) (status : Option ReplyStatus)
    (count : Option Int) :
    Outcome id request (steps ++ [.recordReply id m status count])
      ((e.addResponse m).finish status count) := by
  obtain ⟨complete, error, abandoned, responses⟩ := finish_flags (e.addResponse m) status count
  refine ⟨?_, ?_, ?_, ?_, ?_⟩
  · rw [ExecutionEntry.request_finish]
    exact known.request_eq
  · rw [responses, ExecutionEntry.addResponse, known.responses_eq, List.filterMap_append]
    simp [LogStep.response?]
  · rw [complete, replied_snoc, ExecutionEntry.addResponse, known.complete_iff]
    simp
  · rw [error, replied_snoc, ExecutionEntry.addResponse, known.error_iff]
    simp
  · rw [abandoned, replied_snoc, swept_snoc, ExecutionEntry.addResponse, known.abandoned_iff]
    simp only [reduceCtorEq, List.mem_append, List.mem_singleton, or_false, false_and]
    constructor
    · rintro ((given | aborted | swept) | aborts)
      · exact Or.inl given
      · exact Or.inr (Or.inl (Or.inl aborted))
      · exact Or.inr (Or.inr swept)
      · exact Or.inr (Or.inl (Or.inr ⟨m, status, count, rfl, aborts⟩))
    · rintro (given | (aborted | ⟨_, _, _, same, aborts⟩) | swept)
      · exact Or.inl (Or.inl given)
      · exact Or.inl (Or.inr (Or.inl aborted))
      · cases same
        exact Or.inr aborts
      · exact Or.inl (Or.inr (Or.inr swept))

theorem abandon (known : Outcome id request steps e) :
    Outcome id request (steps ++ [.abandon id]) e.abandon where
  request_eq := known.request_eq
  responses_eq := by simp [ExecutionEntry.abandon, known.responses_eq, LogStep.response?]
  complete_iff := by simp [ExecutionEntry.abandon, known.complete_iff, replied_snoc]
  error_iff := by simp [ExecutionEntry.abandon, known.error_iff, replied_snoc]
  abandoned_iff := by simp [ExecutionEntry.abandon]

theorem sweep (known : Outcome id request steps e) :
    Outcome id request (steps ++ [.abandonPending]) (ExecutionLog.giveUp e) := by
  have flags : (ExecutionLog.giveUp e).request = e.request ∧ (ExecutionLog.giveUp e).responses = e.responses ∧
      (ExecutionLog.giveUp e).complete = e.complete ∧ (ExecutionLog.giveUp e).error = e.error ∧
      (ExecutionLog.giveUp e).abandoned = (e.abandoned || e.isPending) := by
    unfold ExecutionLog.giveUp
    cases pending : e.isPending <;> simp [ExecutionEntry.abandon]
  obtain ⟨request_eq, responses_eq, complete_eq, error_eq, abandoned_eq⟩ := flags
  refine ⟨request_eq.trans known.request_eq, ?_, ?_, ?_, ?_⟩
  · rw [responses_eq, known.responses_eq, List.filterMap_append]
    simp [LogStep.response?]
  · simp [complete_eq, known.complete_iff, replied_snoc]
  · simp [error_eq, known.error_iff, replied_snoc]
  · rw [abandoned_eq, Bool.or_eq_true, known.abandoned_iff, known.pending_iff, replied_snoc, swept_snoc]
    simp only [reduceCtorEq, List.mem_append, List.mem_singleton, or_false, true_and, false_and, exists_false]
    constructor
    · rintro ((given | aborted | swept) | unanswered)
      · exact Or.inl given
      · exact Or.inr (Or.inl aborted)
      · exact Or.inr (Or.inr (Or.inl swept))
      · exact Or.inr (Or.inr (Or.inr unanswered.unreplied))
    · rintro (given | aborted | swept | unreplied)
      · exact Or.inl (Or.inl given)
      · exact Or.inl (Or.inr (Or.inl aborted))
      · exact Or.inl (Or.inr (Or.inr swept))
      · -- without a reply the request is still pending, unless it has been given up before
        by_cases given : .abandon id ∈ steps
        · exact Or.inl (Or.inl given)
        by_cases earlier : .abandonPending ∈ steps
        · exact Or.inl (Or.inr (Or.inr ((replied_or_swept earlier).resolve_left unreplied)))
        · exact Or.inr ⟨unreplied, given, earlier⟩

/-- Every step of a life keeps what is known of its entry. -/
theorem react (known : Outcome id request steps e) {step : LogStep} (kept : step ≠ .clear)
    (same : ∀ other, step = .insert other → other.msgId ≠ id) :
    Outcome id request (steps ++ [step]) (e.react id step) := by
  cases step with
  | insert other => exact known.quiet (by simp) (by simp) (by simp) rfl (by simp [ExecutionEntry.react,
      LogStep.response?]) rfl rfl rfl
  | recordOutput parent m =>
    by_cases here : id = parent
    · subst here
      rw [ExecutionEntry.react, if_pos rfl]
      exact known.quiet (by simp) (by simp) (by simp) rfl (by simp [LogStep.response?,
        ExecutionEntry.addResponse]) rfl rfl rfl
    · rw [ExecutionEntry.react, if_neg here]
      exact known.quiet (by simp) (by simp) (by simp) rfl (by simp [LogStep.response?, here]) rfl rfl rfl
  | recordReply parent m status count =>
    by_cases here : id = parent
    · subst here
      rw [ExecutionEntry.react, if_pos rfl]
      exact known.reply m status count
    · rw [ExecutionEntry.react, if_neg here]
      exact known.quiet (by simp [Ne.symm here]) (by simp) (by simp) rfl
        (by simp [LogStep.response?, here]) rfl rfl rfl
  | abandon other =>
    by_cases here : id = other
    · subst here
      rw [ExecutionEntry.react, if_pos rfl]
      exact known.abandon
    · rw [ExecutionEntry.react, if_neg here]
      exact known.quiet (by simp) (by simp [Ne.symm here]) (by simp) rfl
        (by simp [LogStep.response?]) rfl rfl rfl
  | abandonPending => exact known.sweep
  | clear => exact absurd rfl kept

/-- The whole of a life, step by step. -/
theorem foldl_react (id : String) (request : Message) {steps : List LogStep} (kept : .clear ∉ steps)
    (last : ∀ other, .insert other ∈ steps → other.msgId ≠ id) :
    Outcome id request steps (steps.foldl (ExecutionEntry.react id) (.new request)) := by
  induction steps using List.reverseRecOn with
  | nil => exact new id request
  | append_singleton steps step ih =>
    rw [List.foldl_append]
    have known := ih (fun earlier => kept (List.mem_append_left _ earlier))
      fun other earlier => last other (List.mem_append_left _ earlier)
    exact known.react (fun here => kept (by simp [here])) fun other here => last other (by simp [here])

end Outcome

namespace ExecutionLog

/-- An id that the log knows has a life. -/
theorem exists_life {history : List LogStep} {id : String} {e : ExecutionEntry}
    (found : (after history).get? id = some e) : ∃ request rest, IsLife history id request rest := by
  induction history using List.reverseRecOn generalizing e with
  | nil => cases found
  | append_singleton history step ih =>
    have good := after_indexed history
    rw [after_snoc] at found
    by_cases kept : step = .clear
    · subst kept
      cases found
    -- a life goes on with every step but the insertion of its id, which begins another
    by_cases same : ∀ request, step = .insert request → request.msgId ≠ id
    · rw [good.get?_apply kept same] at found
      obtain ⟨old, before, _⟩ := Option.map_eq_some_iff.mp found
      obtain ⟨request, rest, life⟩ := ih before
      exact ⟨request, rest ++ [step], life.snoc kept same⟩
    · simp only [not_forall, not_not] at same
      obtain ⟨request, rfl, named⟩ := same
      exact ⟨request, [], named, ⟨history, rfl⟩, List.not_mem_nil, fun _ none => absurd none List.not_mem_nil⟩

theorem get?_isSome_iff_life (history : List LogStep) (id : String) :
    ((after history).get? id).isSome ↔ ∃ request rest, IsLife history id request rest := by
  constructor
  · intro found
    obtain ⟨e, here⟩ := Option.isSome_iff_exists.mp found
    exact exists_life here
  · rintro ⟨request, rest, life⟩
    rw [get?_after_life life]
    rfl

theorem outcome_of_life {history rest : List LogStep} {id : String} {request : Message}
    (life : IsLife history id request rest) :
    ∃ e, (after history).get? id = some e ∧ Outcome id request rest e :=
  ⟨_, get?_after_life life, .foldl_react id request life.kept life.last⟩

theorem mem_entries_pending_iff (history : List LogStep) (id : String) :
    (∃ e ∈ (after history).entries, e.id = id ∧ e.isPending = true) ↔
      ∃ request rest, IsLife history id request rest ∧ Unanswered id rest := by
  have good := after_indexed history
  constructor
  · rintro ⟨e, member, named, pending⟩
    have found := good.get?_eq_some.mpr ⟨member, named⟩
    obtain ⟨request, rest, life⟩ := exists_life found
    obtain ⟨same, here, known⟩ := outcome_of_life life
    cases Option.some.inj (found.symm.trans here)
    exact ⟨request, rest, life, known.pending_iff.mp pending⟩
  · rintro ⟨request, rest, life, unanswered⟩
    obtain ⟨e, found, known⟩ := outcome_of_life life
    obtain ⟨member, named⟩ := good.get?_eq_some.mp found
    exact ⟨e, member, named, known.pending_iff.mpr unanswered⟩

theorem hasPending_iff (history : List LogStep) :
    (after history).hasPending = true ↔
      ∃ id request rest, IsLife history id request rest ∧ Unanswered id rest := by
  simp only [← mem_entries_pending_iff, hasPending, List.any_eq_true]
  constructor
  · rintro ⟨e, member, pending⟩
    exact ⟨e.id, e, member, rfl, pending⟩
  · rintro ⟨_, e, member, _, pending⟩
    exact ⟨e, member, pending⟩

theorem pendingCount_eq_ncard (history : List LogStep) :
    (after history).pendingCount =
      {id | ∃ request rest, IsLife history id request rest ∧ Unanswered id rest}.ncard := by
  have nodup : (((after history).entries.filter (·.isPending)).map (·.id)).Nodup :=
    (after_indexed history).nodup.sublist (List.filter_sublist.map _)
  have same : {id | ∃ request rest, IsLife history id request rest ∧ Unanswered id rest} =
      ((((after history).entries.filter (·.isPending)).map (·.id)).toFinset : Set String) := by
    ext id
    simp only [Set.mem_ofPred_eq, ← mem_entries_pending_iff, List.coe_toFinset, List.mem_map, List.mem_filter]
    constructor
    · rintro ⟨e, member, named, pending⟩
      exact ⟨e, ⟨member, pending⟩, named⟩
    · rintro ⟨e, ⟨member, pending⟩, named⟩
      exact ⟨e, member, named, pending⟩
  rw [same, Set.ncard_coe_finset, List.toFinset_card_of_nodup nodup, List.length_map, pendingCount,
    List.countP_eq_length_filter]

theorem eraseDups_snoc (ids : List String) (id : String) :
    (ids ++ [id]).eraseDups = if id ∈ ids then ids.eraseDups else ids.eraseDups ++ [id] := by
  rw [List.eraseDups_append]
  by_cases known : id ∈ ids <;> simp [List.removeAll, known, List.eraseDups_cons]

theorem insertedIds_snoc (history : List LogStep) (step : LogStep) :
    insertedIds (history ++ [step]) =
      if step.isClear then [] else insertedIds history ++ step.inserted?.toList := by
  unfold insertedIds
  rw [List.reverse_append, List.reverse_singleton, List.singleton_append, List.takeWhile_cons]
  cases step <;> simp [LogStep.isClear, LogStep.inserted?]

/-- The entries stand in the order in which their ids were inserted first. -/
theorem ids_after (history : List LogStep) : (after history).ids = (insertedIds history).eraseDups := by
  induction history using List.reverseRecOn with
  | nil => rfl
  | append_singleton history step ih =>
    have good := after_indexed history
    rw [after_snoc, insertedIds_snoc]
    cases kept : step.isClear with
    | true =>
      cases step <;> cases kept
      rfl
    | false =>
      cases inserted : step.inserted? with
      | none => simpa [ih] using good.ids_apply kept inserted
      | some id =>
        cases step <;> cases inserted
        rw [ExecutionLog.apply, good.ids_insert, ih]
        simp [eraseDups_snoc]

/-- A log is exactly determined by its history: which ids it knows, what it holds of each of them, which
of them are pending and how many, and their order. -/
theorem history_determines_log (history : List LogStep) :
    (∀ id, ((after history).get? id).isSome ↔ ∃ request rest, IsLife history id request rest) ∧
    (∀ id request rest, IsLife history id request rest →
      ∃ e, (after history).get? id = some e ∧ Outcome id request rest e ∧
        (e.isPending = true ↔ Unanswered id rest)) ∧
    (after history).pendingCount =
      {id | ∃ request rest, IsLife history id request rest ∧ Unanswered id rest}.ncard ∧
    ((after history).hasPending = true ↔
      ∃ id request rest, IsLife history id request rest ∧ Unanswered id rest) ∧
    (after history).entries.map (·.request.msgId) = (insertedIds history).eraseDups := by
  refine ⟨get?_isSome_iff_life history, fun id request rest life => ?_, pendingCount_eq_ncard history,
    hasPending_iff history, ids_after history⟩
  obtain ⟨e, found, known⟩ := outcome_of_life life
  exact ⟨e, found, known, known.pending_iff⟩

end ExecutionLog
end KernelLink
