import KernelLink.Proofs.Client.Interleaving
import KernelLink.Proofs.Client.Pending

namespace KernelLink

/-- Somebody has given the request of an id up: the client, the kernel, or a loop at its end. -/
def GivenUp (id : String) (steps : List LogStep) : Prop :=
  .abandon id ∈ steps ∨ Replied id Aborts steps ∨ Swept id steps

/-- A verdict on the request of an id has been overruled: the kernel has answered a request that had been
given up, or a request that the kernel had answered has been given up. A loop that ends overrules nothing. -/
inductive Overruled (id : String) : List LogStep → Prop
  | answered {earlier later m status count} : GivenUp id earlier → ¬Aborts status →
      Overruled id (earlier ++ .recordReply id m status count :: later)
  | aborted {earlier later m status count} : Replied id (¬Aborts ·) earlier → Aborts status →
      Overruled id (earlier ++ .recordReply id m status count :: later)
  | abandoned {earlier later} : Replied id (¬Aborts ·) earlier →
      Overruled id (earlier ++ .abandon id :: later)

variable {id : String} {steps : List LogStep}

theorem Replied.append {kind : Option ReplyStatus → Prop} (replied : Replied id kind steps)
    (later : List LogStep) : Replied id kind (steps ++ later) := by
  obtain ⟨m, status, count, member, fits⟩ := replied
  exact ⟨m, status, count, List.mem_append_left _ member, fits⟩

theorem replied_of_mem {kind : Option ReplyStatus → Prop} {m : Message} {status : Option ReplyStatus}
    {count : Option Int} (earlier later : List LogStep) (fits : kind status) :
    Replied id kind (earlier ++ .recordReply id m status count :: later) :=
  ⟨m, status, count, List.mem_append_right _ (List.mem_cons_self ..), fits⟩

theorem GivenUp.append (given : GivenUp id steps) (later : List LogStep) : GivenUp id (steps ++ later) := by
  rcases given with abandoned | aborted | ⟨earlier, rest, rfl, unreplied⟩
  · exact Or.inl (List.mem_append_left _ abandoned)
  · exact Or.inr (Or.inl (aborted.append later))
  · exact Or.inr (Or.inr ⟨earlier, rest ++ later, by simp, unreplied⟩)

theorem givenUp_snoc {step : LogStep} (given : GivenUp id (steps ++ [step])) :
    GivenUp id steps ∨ step = .abandon id ∨
      (∃ m status count, step = .recordReply id m status count ∧ Aborts status) ∨
      step = .abandonPending ∧ ¬Replied id (fun _ => True) steps := by
  rcases given with abandoned | aborted | swept
  · rcases List.mem_append.mp abandoned with old | new
    · exact Or.inl (Or.inl old)
    · exact Or.inr (Or.inl (List.mem_singleton.mp new).symm)
  · rcases replied_snoc.mp aborted with old | new
    · exact Or.inl (Or.inr (Or.inl old))
    · exact Or.inr (Or.inr (Or.inl new))
  · rcases swept_snoc.mp swept with old | new
    · exact Or.inl (Or.inr (Or.inr old))
    · exact Or.inr (Or.inr (Or.inr new))

theorem Overruled.append (overruled : Overruled id steps) (later : List LogStep) :
    Overruled id (steps ++ later) := by
  cases overruled with
  | answered given goesOn => simpa using Overruled.answered given goesOn
  | aborted replied aborts => simpa using Overruled.aborted replied aborts
  | abandoned replied => simpa using Overruled.abandoned replied

/-- Two verdicts on a request are there if the later one of them has overruled the other. -/
theorem overruled_iff : Overruled id steps ↔ Replied id (¬Aborts ·) steps ∧ GivenUp id steps := by
  constructor
  · rintro (⟨given, goesOn⟩ | ⟨replied, aborts⟩ | replied)
    · exact ⟨replied_of_mem _ _ goesOn, given.append _⟩
    · exact ⟨replied.append _, Or.inr (Or.inl (replied_of_mem _ _ aborts))⟩
    · exact ⟨replied.append _, Or.inl (List.mem_append_right _ (List.mem_cons_self ..))⟩
  · induction steps using List.reverseRecOn with
    | nil => rintro ⟨⟨_, _, _, none, _⟩, _⟩; exact absurd none List.not_mem_nil
    | append_singleton steps step ih =>
      rintro ⟨replied, given⟩
      -- the later of the two verdicts is the last step, unless both have been there before
      rcases replied_snoc.mp replied with old | ⟨m, status, count, rfl, goesOn⟩
      · rcases givenUp_snoc given with before | rfl | ⟨m, status, count, rfl, aborts⟩ | ⟨-, unreplied⟩
        · exact (ih ⟨old, before⟩).append [step]
        · exact .abandoned old
        · exact .aborted old aborts
        · exact absurd (replied_cases.mpr (Or.inl old)) unreplied
      · rcases givenUp_snoc given with before | same | ⟨_, _, _, same, aborts⟩ | ⟨same, -⟩
        · exact .answered before goesOn
        · cases same
        · cases same
          exact absurd aborts goesOn
        · cases same

theorem Outcome.overruled_iff {request : Message} {e : ExecutionEntry} (known : Outcome id request steps e) :
    e.complete = true ∧ e.abandoned = true ↔ Overruled id steps := by
  rw [known.complete_iff, known.abandoned_iff, KernelLink.overruled_iff, GivenUp]

namespace ExecutionLog

/-- No request is both complete and abandoned. -/
def Exclusive (log : ExecutionLog) : Prop :=
  ∀ e ∈ log.entries, ¬(e.complete = true ∧ e.abandoned = true)

instance (log : ExecutionLog) : Decidable log.Exclusive :=
  inferInstanceAs (Decidable (∀ e ∈ log.entries, ¬(e.complete = true ∧ e.abandoned = true)))

/-- The entries of a log are the outcomes of lives. -/
theorem exists_outcome {history : List LogStep} {e : ExecutionEntry} (member : e ∈ (after history).entries) :
    ∃ request rest, IsLife history e.id request rest ∧ Outcome e.id request rest e := by
  have found := (after_indexed history).get?_eq_some.mpr ⟨member, rfl⟩
  obtain ⟨request, rest, life⟩ := exists_life found
  obtain ⟨same, here, known⟩ := outcome_of_life life
  cases Option.some.inj (found.symm.trans here)
  exact ⟨request, rest, life, known⟩

theorem exclusive_after (history : List LogStep) :
    (after history).Exclusive ↔ ∀ id request rest, IsLife history id request rest → ¬Overruled id rest := by
  constructor
  · intro exclusive id request rest life overruled
    obtain ⟨e, found, known⟩ := outcome_of_life life
    exact exclusive e ((after_indexed history).get?_eq_some.mp found).1 (known.overruled_iff.mpr overruled)
  · intro kept e member both
    obtain ⟨request, rest, life, known⟩ := exists_outcome member
    exact kept e.id request rest life (known.overruled_iff.mp both)

end ExecutionLog

namespace Client

/-- A request is both complete and abandoned if a verdict on it has been overruled, and only then: in a log by
itself, and in the log of a client. -/
theorem Run.exclusive_iff_not_overruled (history : List LogStep) {session : Session} {owned : Bool}
    {trace : List Happening} {s : Situation} (run : Run session owned trace s) :
    ((ExecutionLog.after history).Exclusive ↔
        ∀ id request rest, IsLife history id request rest → ¬Overruled id rest) ∧
      (s.client.log.Exclusive ↔
        ∀ id request rest, IsLife (logHistory trace) id request rest → ¬Overruled id rest) :=
  ⟨ExecutionLog.exclusive_after history, run.log_eq ▸ ExecutionLog.exclusive_after (logHistory trace)⟩

/-- A client with loops on the shell line and on iopub that has asked for the execution of code. -/
def listening : Except Failure String × Client × Exchange :=
  let started := (Client.new plainSession false).start (.new false) ⟨true, true, false, false⟩ ⟨"info", ""⟩
  started.2.1.execute started.2.2 ⟨"request", ""⟩ "x"

def shellLoop : Loop := ⟨0, ⟨.shell, 0⟩, none⟩

def iopubLoop : Loop := ⟨1, ⟨.iopub, 1⟩, none⟩

def success : Message := about "request" "execute_reply" [("status", .text "ok")]

/-- The exchange once the reply has arrived on the shell line, and a failure on iopub. -/
def disturbed : Exchange :=
  (listening.2.2.arrive shellLoop.line (.ok success)).arrive iopubLoop.line
    (.error (.protocol (.receiveOnly .iopub)))

/-- The loop of the shell line takes the reply before the client is stopped. -/
def answeredInTime : Client × Exchange :=
  let answered := listening.2.1.takeArrival disturbed shellLoop
  answered.1.stop answered.2

/-- The loop of iopub ends before the loop of the shell line takes the reply. -/
def answeredLate : Client × Exchange :=
  let ended := listening.2.1.takeArrival disturbed iopubLoop
  ended.1.takeArrival ended.2 shellLoop

theorem exists_listening_run : ∃ trace, Run plainSession false trace ⟨listening.2.1, listening.2.2, []⟩ := by
  have new : Run plainSession false [] ⟨.new plainSession false, .new false, []⟩ := .new (.new false)
  have started := new.start ⟨true, true, false, false⟩ ⟨"info", ""⟩
  exact ⟨_, started.execute ⟨"request", ""⟩ "x"⟩

theorem exists_disturbed_run : ∃ trace, Run plainSession false trace ⟨listening.2.1, disturbed, []⟩ := by
  obtain ⟨trace, asked⟩ := exists_listening_run
  exact ⟨trace, asked.silent (.elsewhere (by decide))⟩

/-- A request that is answered before the loops end stays complete. -/
theorem Run.answered_in_time_exclusive :
    ∃ trace, Run plainSession false trace ⟨answeredInTime.1, answeredInTime.2, []⟩ ∧
      ∀ id request rest, IsLife (logHistory trace) id request rest → ¬Overruled id rest := by
  obtain ⟨_, waiting⟩ := exists_disturbed_run
  have stopped := (waiting.takeArrival (by decide : shellLoop ∈ listening.2.1.loops)).stop
  exact ⟨_, stopped, (stopped.exclusive_iff_not_overruled []).2.mp (by decide)⟩

/-- The loop of iopub gives the request up when it ends, and the reply on the shell line completes it. -/
theorem Run.answered_late_complete_and_abandoned :
    (∃ trace, Run plainSession false trace ⟨answeredLate.1, answeredLate.2, []⟩) ∧
      answeredLate.1.log.entries.map (fun e => (e.complete, e.abandoned)) = [(true, true)] ∧
      ¬answeredLate.1.log.Exclusive := by
  obtain ⟨_, waiting⟩ := exists_disturbed_run
  have ended := waiting.takeArrival (by decide : iopubLoop ∈ listening.2.1.loops)
  have still : shellLoop ∈ (listening.2.1.takeArrival disturbed iopubLoop).1.loops := by decide
  exact ⟨⟨_, ended.takeArrival still⟩, by decide, by decide⟩

end Client
end KernelLink
