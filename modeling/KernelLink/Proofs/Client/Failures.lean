import KernelLink.CommandLine.Report
import KernelLink.Proofs.Client.Attribution

namespace KernelLink

namespace Message

/-- The message tells that its execution went wrong: its status is not ok, or it ends the execution without a status
that could be read. -/
def Failed (m : Message) : Prop :=
  (∃ status, m.status = some status ∧ status ≠ .ok) ∨
    m.isTerminal = true ∧ Fails (ExecuteReply.record.takeOrBlank m.content).replyStatus

/-- The message says what went wrong. -/
def NamesError (m : Message) : Prop := m.ename ≠ none ∨ m.evalue ≠ none

theorem errorSummary_eq_none_iff {m : Message} : m.errorSummary = none ↔ ¬m.NamesError := by
  unfold errorSummary NamesError
  cases m.ename <;> cases m.evalue <;> simp

/-- A reply is logged with the status that its content has as a record. -/
theorem logStep?_eq_recordReply {m reply : Message} {parent : String} {status : Option ReplyStatus}
    {count : Option Int} (logs : m.logStep? = some (.recordReply parent reply status count)) :
    reply = m ∧ m.isTerminal = true ∧ status = (ExecuteReply.record.takeOrBlank m.content).replyStatus := by
  rw [logStep?_eq] at logs
  obtain ⟨id, -, does⟩ := Option.bind_eq_some_iff.mp logs
  by_cases terminal : m.isTerminal = true
  · simp only [terminal, if_true] at does
    cases does
    exact ⟨rfl, terminal, rfl⟩
  · by_cases output : m.isOutput = true <;> simp [terminal, output] at does

theorem logStep?_eq_recordOutput {m output : Message} {parent : String}
    (logs : m.logStep? = some (.recordOutput parent output)) : output = m ∧ ¬m.isTerminal = true := by
  rw [logStep?_eq] at logs
  obtain ⟨id, -, does⟩ := Option.bind_eq_some_iff.mp logs
  by_cases terminal : m.isTerminal = true
  · simp [terminal] at does
  · by_cases shown : m.isOutput = true
    · simp only [terminal, shown] at does
      cases does
      exact ⟨rfl, terminal⟩
    · simp [terminal, shown] at does

end Message

/-- A reply that fails its execution is among the responses, and every response that ends the execution is a reply. -/
theorem replied_fails_iff {trace : List Happening} {id : String} {rest : List LogStep}
    (logged : ∀ step ∈ rest, step ∈ logHistory trace) :
    Replied id Fails rest ↔ ∃ m ∈ rest.filterMap (LogStep.response? id), m.isTerminal = true ∧
      Fails (ExecuteReply.record.takeOrBlank m.content).replyStatus := by
  constructor
  · rintro ⟨reply, status, count, member, fails⟩
    obtain ⟨happening, -, does⟩ := mem_logHistory.mp (logged _ member)
    obtain ⟨kind, rfl⟩ := Happening.of_logStep? does
    obtain ⟨-, terminal, rfl⟩ := Message.logStep?_eq_recordReply does
    exact ⟨reply, List.mem_filterMap.mpr ⟨_, member, by simp [LogStep.response?]⟩, terminal, fails⟩
  · rintro ⟨m, response, terminal, fails⟩
    -- the step that has added the response is a reply, since outputs are never terminal
    obtain ⟨step, member, answers⟩ := List.mem_filterMap.mp response
    obtain ⟨happening, -, does⟩ := mem_logHistory.mp (logged step member)
    cases step with
    | recordReply parent reply status count =>
      obtain ⟨named, same⟩ := Option.ite_none_right_eq_some.mp answers
      cases same
      obtain ⟨kind, rfl⟩ := Happening.of_logStep? does
      obtain ⟨-, -, rfl⟩ := Message.logStep?_eq_recordReply does
      exact ⟨m, _, count, named ▸ member, fails⟩
    | recordOutput parent output =>
      obtain ⟨-, same⟩ := Option.ite_none_right_eq_some.mp answers
      cases same
      obtain ⟨kind, rfl⟩ := Happening.of_logStep? does
      exact absurd terminal (Message.logStep?_eq_recordOutput does).2
    | _ => cases answers

namespace Outcome

variable {id : String} {request : Message} {rest : List LogStep} {e : ExecutionEntry}

theorem hasError_iff {trace : List Happening} (known : Outcome id request rest e)
    (logged : ∀ step ∈ rest, step ∈ logHistory trace) :
    e.hasError = true ↔ GivenUp id rest ∨ ∃ m ∈ rest.filterMap (LogStep.response? id), m.Failed := by
  have status (m : Message) : (m.status.any (· ≠ .ok)) = true ↔ ∃ status, m.status = some status ∧ status ≠ .ok := by
    simp [Option.any_eq_true]
  simp only [ExecutionEntry.hasError, Bool.or_eq_true, List.any_eq_true, status, known.responses_eq,
    known.abandoned_iff, known.error_iff, replied_fails_iff logged, Message.Failed]
  constructor
  · rintro ((given | ⟨m, response, failed⟩) | ⟨m, response, failed⟩)
    · exact Or.inl given
    · exact Or.inr ⟨m, response, Or.inr failed⟩
    · exact Or.inr ⟨m, response, Or.inl failed⟩
  · rintro (given | ⟨m, response, failed | failed⟩)
    · exact Or.inl (Or.inl given)
    · exact Or.inr ⟨m, response, failed⟩
    · exact Or.inl (Or.inr ⟨m, response, failed⟩)

theorem errors_ne_nil_iff (known : Outcome id request rest e) :
    e.errors ≠ [] ↔ GivenUp id rest ∨ ∃ m ∈ rest.filterMap (LogStep.response? id), m.NamesError := by
  have given : e.abandoned = true ↔ GivenUp id rest := known.abandoned_iff
  unfold ExecutionEntry.errors
  rw [Ne, List.append_eq_nil_iff, List.filterMap_eq_nil_iff, known.responses_eq]
  simp only [Message.errorSummary_eq_none_iff]
  by_cases abandoned : e.abandoned = true
  · simp [abandoned, given.mp abandoned]
  · have goesOn : ¬GivenUp id rest := fun up => abandoned (given.mpr up)
    rw [if_neg abandoned]
    simp only [goesOn, false_or, and_true, not_forall, not_not, exists_prop]

end Outcome

/-- What a life makes of an entry can be found in the log, and nothing else can. -/
theorem ExecutionLog.exists_entry_iff {history : List LogStep} {P : ExecutionEntry → Prop}
    {Q : String → List LogStep → Prop}
    (agree : ∀ {id request rest e}, IsLife history id request rest → Outcome id request rest e → (P e ↔ Q id rest)) :
    (∃ e ∈ (after history).entries, P e) ↔ ∃ id request rest, IsLife history id request rest ∧ Q id rest := by
  constructor
  · rintro ⟨e, member, holds⟩
    obtain ⟨request, rest, life, known⟩ := exists_outcome member
    exact ⟨e.id, request, rest, life, (agree life known).mp holds⟩
  · rintro ⟨id, request, rest, life, holds⟩
    obtain ⟨e, found, known⟩ := outcome_of_life life
    obtain ⟨member, -⟩ := (after_indexed history).get?_eq_some.mp found
    exact ⟨e, member, (agree life known).mpr holds⟩

theorem IsLife.mem_of_mem {history rest : List LogStep} {id : String} {request : Message}
    (life : IsLife history id request rest) {step : LogStep} (member : step ∈ rest) : step ∈ history := by
  obtain ⟨before, rfl⟩ := life.split
  exact List.mem_append_right _ (List.mem_cons_of_mem _ member)

theorem withoutRepeats_eq_nil_iff (errors : List String) : withoutRepeats errors = [] ↔ errors = [] := by
  fun_induction withoutRepeats errors with
  | case1 => simp
  | case2 last => simp
  | case3 second rest ih => simpa using ih
  | case4 first second rest differs ih => simp

/-- The program complains if anything is listed. -/
theorem failedCode_eq_none_iff (errors : List String) : failedCode (withoutRepeats errors) = none ↔ errors = [] := by
  rw [← withoutRepeats_eq_nil_iff]
  unfold failedCode
  cases withoutRepeats errors <;> simp

namespace Client

variable {session : Session} {owned : Bool} {trace : List Happening} {s : Situation}

theorem Run.hasError_iff (run : Run session owned trace s) :
    s.client.log.hasError = true ↔ ∃ id request rest, IsLife (logHistory trace) id request rest ∧
      (GivenUp id rest ∨ ∃ m ∈ rest.filterMap (LogStep.response? id), m.Failed) := by
  rw [run.log_eq, ExecutionLog.hasError, List.any_eq_true]
  exact ExecutionLog.exists_entry_iff fun life known => known.hasError_iff fun _ => life.mem_of_mem

theorem Run.errors_ne_nil_iff (run : Run session owned trace s) :
    s.client.log.errors ≠ [] ↔ ∃ id request rest, IsLife (logHistory trace) id request rest ∧
      (GivenUp id rest ∨ ∃ m ∈ rest.filterMap (LogStep.response? id), m.NamesError) := by
  have some_errors : s.client.log.errors ≠ [] ↔ ∃ e ∈ s.client.log.entries, e.errors ≠ [] := by
    simp [ExecutionLog.errors, List.flatMap_eq_nil_iff]
  rw [some_errors, run.log_eq]
  exact ExecutionLog.exists_entry_iff fun _ known => known.errors_ne_nil_iff

/-- A client that has an error lists one exactly if, where some response tells of a failure, some request has been given
up or some response says what went wrong. The program that runs code succeeds if nothing is listed. -/
theorem Run.failure_listed_iff (run : Run session owned trace s) :
    ((s.client.log.hasError = true → s.client.log.errors ≠ []) ↔
      ((∃ id request rest, IsLife (logHistory trace) id request rest ∧
          ∃ m ∈ rest.filterMap (LogStep.response? id), m.Failed) →
        ∃ id request rest, IsLife (logHistory trace) id request rest ∧
          (GivenUp id rest ∨ ∃ m ∈ rest.filterMap (LogStep.response? id), m.NamesError))) ∧
    ∀ output, (⟨output, [], withoutRepeats s.client.log.errors,
        failedCode (withoutRepeats s.client.log.errors)⟩ : Report).exitCode = 0 ↔ s.client.log.errors = [] := by
  rw [run.hasError_iff, run.errors_ne_nil_iff]
  constructor
  · constructor
    · rintro listed ⟨id, request, rest, life, failed⟩
      exact listed ⟨id, request, rest, life, Or.inr failed⟩
    · rintro listed ⟨id, request, rest, life, given | failed⟩
      · exact ⟨id, request, rest, life, Or.inl given⟩
      · exact listed ⟨id, request, rest, life, failed⟩
  · intro output
    rw [← failedCode_eq_none_iff]
    unfold Report.exitCode
    cases failedCode (withoutRepeats s.client.log.errors) <;> simp

/-- A client that has been told how the execution of its code ended. -/
def failing (content : List (String × Json)) : Client × Exchange :=
  listening.2.1.takeArrival
    (listening.2.2.arrive shellLoop.line (.ok (about "request" "execute_reply" content))) shellLoop

theorem exists_failing_run (content : List (String × Json)) :
    ∃ trace, Run plainSession false trace ⟨(failing content).1, (failing content).2, []⟩ := by
  obtain ⟨_, asked⟩ := exists_listening_run
  have arrived : Run plainSession false _ ⟨listening.2.1, listening.2.2.arrive shellLoop.line
      (.ok (about "request" "execute_reply" content)), []⟩ := asked.silent (.elsewhere le_rfl)
  have running : shellLoop ∈ listening.2.1.loops := by decide
  exact ⟨_, arrived.takeArrival running⟩

/-- The program does not succeed if a reply says what went wrong. -/
theorem Run.named_failure_listed :
    (failing [("status", .text "error"), ("ename", .text "E")]).1.log.errors = ["E"] ∧
      ∀ output, (⟨output, [], ["E"], failedCode ["E"]⟩ : Report).exitCode ≠ 0 := by
  obtain ⟨_, run⟩ := exists_failing_run [("status", .text "error"), ("ename", .text "E")]
  have listed : (failing [("status", .text "error"), ("ename", .text "E")]).1.log.errors = ["E"] := by decide
  have exits := run.failure_listed_iff.2
  simp only [listed] at exits
  refine ⟨listed, fun output zero => ?_⟩
  cases (exits output).mp zero

/-- A reply of status error that does not say what went wrong gives the client an error that is not listed. -/
theorem Run.unnamed_failure_unlisted :
    (∃ trace, Run plainSession false trace
      ⟨(failing [("status", .text "error")]).1, (failing [("status", .text "error")]).2, []⟩) ∧
      (failing [("status", .text "error")]).1.log.hasError = true ∧
      (failing [("status", .text "error")]).1.log.errors = [] ∧
      ∀ output, (⟨output, [], [], failedCode []⟩ : Report).exitCode = 0 :=
  ⟨exists_failing_run _, by decide, by decide, fun _ => rfl⟩

end Client
end KernelLink
