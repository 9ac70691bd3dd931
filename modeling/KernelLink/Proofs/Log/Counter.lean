import KernelLink.Proofs.Log.History

namespace KernelLink

/-- What a terminal reply says of the counter, if it has a say. A success always has, with a count or without;
an abort never has; any other reply has if it brings a count. -/
def ruling (status : Option ReplyStatus) (count : Option Int) : Option (Option Int) :=
  match status with
  | some .ok => some count
  | some .abort => none
  | some .aborted => none
  | _ => count.map some

/-- What a step says of the counter of an id. -/
def LogStep.ruling? (id : String) : LogStep → Option (Option Int)
  | .recordReply parent _ status count => if id = parent then ruling status count else none
  | _ => none

/-- Only a success can take a counter back, and it does so by bringing none. -/
theorem ruling_eq_some_none {status : Option ReplyStatus} {count : Option Int} :
    ruling status count = some none ↔ status = some .ok ∧ count = none := by
  cases status with
  | none => cases count <;> simp [ruling]
  | some status => cases status <;> cases count <;> simp [ruling]

theorem LogStep.ruling?_eq_some_none {id : String} {step : LogStep} :
    step.ruling? id = some none ↔ ∃ m, step = .recordReply id m (some .ok) none := by
  cases step with
  | recordReply parent m status count =>
    rw [LogStep.ruling?]
    by_cases here : id = parent
    · simp [here, ruling_eq_some_none]
    · simp [here, Ne.symm here]
  | _ => simp [LogStep.ruling?]

namespace ExecutionEntry

theorem executionIndex_finish_eq (e : ExecutionEntry) (status : Option ReplyStatus) (count : Option Int) :
    (e.finish status count).executionIndex = (ruling status count).getD e.executionIndex := by
  cases status with
  | none => cases count <;> rfl
  | some status => cases status <;> cases count <;> rfl

/-- Whatever happens to an entry, its counter follows what is said of it. -/
theorem executionIndex_react (id : String) (e : ExecutionEntry) (step : LogStep) :
    (e.react id step).executionIndex = (step.ruling? id).getD e.executionIndex := by
  cases step with
  | recordReply parent m status count =>
    rw [react, LogStep.ruling?]
    split
    · exact executionIndex_finish_eq (e.addResponse m) status count
    · rfl
  | recordOutput parent m => rw [react]; split <;> rfl
  | abandon other => rw [react]; split <;> rfl
  | abandonPending => rw [react, ExecutionLog.giveUp]; split <;> rfl
  | insert request => rfl
  | clear => rfl

/-- The last that is said of the counter holds. -/
theorem executionIndex_foldl_react (id : String) (e : ExecutionEntry) (steps : List LogStep) :
    (steps.foldl (react id) e).executionIndex =
      ((steps.filterMap (LogStep.ruling? id)).getLast?).getD e.executionIndex := by
  induction steps using List.reverseRecOn with
  | nil => rfl
  | append_singleton steps step ih =>
    rw [List.foldl_append, List.filterMap_append, List.foldl_cons, List.foldl_nil, executionIndex_react, ih]
    cases said : step.ruling? id <;> simp [said]

end ExecutionEntry

namespace ExecutionLog

/-- The counter of the request with an id, if there is one and its counter is known. -/
def counter? (log : ExecutionLog) (id : String) : Option Int :=
  (log.get? id).bind (·.executionIndex)

variable {history later : List LogStep} {id : String}

theorem counter?_after_append (known : ((after history).counter? id).isSome) (kept : .clear ∉ later)
    (last : ∀ other, .insert other ∈ later → other.msgId ≠ id) :
    (after (history ++ later)).counter? id =
      ((later.filterMap (LogStep.ruling? id)).getLast?).getD ((after history).counter? id) := by
  cases found : (after history).get? id with
  | none =>
    rw [counter?, found] at known
    cases known
  | some e =>
    have now := (after_indexed history).get?_foldl kept last
    rw [← after_append, found, Option.map_some] at now
    rw [counter?, now, Option.bind_some, ExecutionEntry.executionIndex_foldl_react, counter?, found,
      Option.bind_some]

theorem isSome_counter?_iff (known : ((after history).counter? id).isSome) (kept : .clear ∉ later)
    (last : ∀ other, .insert other ∈ later → other.msgId ≠ id) :
    ((after (history ++ later)).counter? id).isSome ↔
      (later.filterMap (LogStep.ruling? id)).getLast? ≠ some none := by
  rw [counter?_after_append known kept last]
  cases said : (later.filterMap (LogStep.ruling? id)).getLast? with
  | none => simpa using known
  | some count => cases count <;> simp

/-- A counter that is known is what the last reply with a say in it makes of it, as long as its request is
tracked. It stays known exactly as long as no success without a count comes for the request. -/
theorem counter_kept_iff_counted (known : ((after history).counter? id).isSome) (kept : .clear ∉ later)
    (last : ∀ other, .insert other ∈ later → other.msgId ≠ id) :
    (after (history ++ later)).counter? id =
        ((later.filterMap (LogStep.ruling? id)).getLast?).getD ((after history).counter? id) ∧
      ((∀ earlier, earlier <+: later → ((after (history ++ earlier)).counter? id).isSome) ↔
        ∀ m, .recordReply id m (some .ok) none ∉ later) := by
  have now (earlier : List LogStep) (part : earlier <+: later) :=
    isSome_counter?_iff known (fun cleared => kept (part.subset cleared))
      fun other inserted => last other (part.subset inserted)
  refine ⟨counter?_after_append known kept last, fun always m member => ?_, fun counted earlier part => ?_⟩
  · -- the counter is lost when the success without a count has come
    obtain ⟨before, rest, rfl⟩ := List.append_of_mem member
    have part : before ++ [.recordReply id m (some .ok) none] <+:
        before ++ .recordReply id m (some .ok) none :: rest := ⟨rest, by simp⟩
    have stays := (now _ part).mp (always _ part)
    exact stays (by simp [List.filterMap_append, LogStep.ruling?, ruling])
  · refine (now earlier part).mpr fun said => ?_
    obtain ⟨step, member, none⟩ := List.mem_filterMap.mp (List.mem_of_getLast? said)
    obtain ⟨m, rfl⟩ := LogStep.ruling?_eq_some_none.mp none
    exact counted m (part.subset member)

def asked : Message := .new { Header.blank with msgId := "request" } .empty

def answer : Message := .new { Header.blank with msgType := "execute_reply" } .empty

/-- The request has been answered, with a count. -/
def countedHistory : List LogStep :=
  [.insert asked, .recordReply "request" answer (some .ok) (some 3)]

theorem counter_kept_through_error :
    ((after countedHistory).counter? "request").isSome ∧
      ∀ earlier, earlier <+: [.recordReply "request" answer (some .error) none, .abandonPending] →
        ((after (countedHistory ++ earlier)).counter? "request").isSome := by
  have known : ((after countedHistory).counter? "request").isSome := by decide
  exact ⟨known, (counter_kept_iff_counted known (by simp) (by simp)).2.mpr (by simp)⟩

/-- A second success without a count takes the counter back. -/
theorem counter_forgotten_without_count :
    ¬ ∀ history later id, ((after history).counter? id).isSome → .clear ∉ later →
      (∀ other, .insert other ∈ later → other.msgId ≠ id) →
      ((after (history ++ later)).counter? id).isSome := by
  intro remembered
  have known := remembered countedHistory [.recordReply "request" answer (some .ok) none] "request"
    (by decide) (by simp) (by simp)
  exact absurd known (by decide)

end ExecutionLog
end KernelLink
