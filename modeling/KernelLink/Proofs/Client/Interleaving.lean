import KernelLink.Client.Operations
import Mathlib.Data.List.Forall2

namespace KernelLink

/-- Arrivals on the shell line and on iopub in one order, in which those of each line keep their own. -/
inductive Interleaving : List Message → List Message → List (ChannelKind × Message) → Prop
  | nil : Interleaving [] [] []
  | shell {shell iopub arrivals} (m : Message) : Interleaving shell iopub arrivals →
      Interleaving (m :: shell) iopub ((.shell, m) :: arrivals)
  | iopub {shell iopub arrivals} (m : Message) : Interleaving shell iopub arrivals →
      Interleaving shell (m :: iopub) ((.iopub, m) :: arrivals)

theorem Interleaving.perm {shell iopub : List Message} {arrivals : List (ChannelKind × Message)}
    (woven : Interleaving shell iopub arrivals) : (arrivals.map (·.2)).Perm (shell ++ iopub) := by
  induction woven with
  | nil => exact .nil
  | shell m _ ih => exact ih.cons m
  | iopub m _ ih => exact (ih.cons m).trans List.perm_middle.symm

/-- A terminal message that neither ends an execution well nor counts it. -/
def Message.Uncounted (m : Message) : Prop :=
  ∀ reply, m.classify = .executeReply reply → reply.replyStatus ≠ some .ok ∧ reply.executionCount = none

namespace ExecutionEntry

/-- What a message does to the entry of the request that it answers. -/
def hear (e : ExecutionEntry) (m : Message) : ExecutionEntry :=
  match m.classify with
  | .executeReply reply => (e.addResponse m).finish reply.replyStatus reply.executionCount
  | .data => e.addResponse m
  | .shutdownReply _ => e
  | .status _ => e
  | .other => e

/-- Two entries of one request that ended alike and hold the same responses, in whatever order. -/
structure SameOutcome (e e' : ExecutionEntry) : Prop where
  request : e.request = e'.request
  complete : e.complete = e'.complete
  error : e.error = e'.error
  abandoned : e.abandoned = e'.abandoned
  responses : e.responses.Perm e'.responses

namespace SameOutcome

variable {e e' e'' : ExecutionEntry}

theorem refl (e : ExecutionEntry) : SameOutcome e e := ⟨rfl, rfl, rfl, rfl, .refl _⟩

theorem trans (one : SameOutcome e e') (two : SameOutcome e' e'') : SameOutcome e e'' :=
  ⟨one.request.trans two.request, one.complete.trans two.complete, one.error.trans two.error,
    one.abandoned.trans two.abandoned, one.responses.trans two.responses⟩

theorem addResponse (same : SameOutcome e e') (m : Message) :
    SameOutcome (e.addResponse m) (e'.addResponse m) :=
  { same with responses := same.responses.append_right [m] }

theorem finish (same : SameOutcome e e') (status : Option ReplyStatus) (count : Option Int) :
    SameOutcome (e.finish status count) (e'.finish status count) := by
  unfold ExecutionEntry.finish
  split
  · exact { same with complete := rfl }
  · exact { same with abandoned := rfl }
  · exact { same with abandoned := rfl }
  · exact { same with complete := rfl, error := rfl }

theorem hear (same : SameOutcome e e') (m : Message) : SameOutcome (e.hear m) (e'.hear m) := by
  unfold ExecutionEntry.hear
  split
  · exact (same.addResponse m).finish _ _
  · exact same.addResponse m
  · exact same
  · exact same
  · exact same

end SameOutcome

theorem SameOutcome.isPending {e e' : ExecutionEntry} (same : SameOutcome e e') : e.isPending = e'.isPending := by
  rw [ExecutionEntry.isPending, same.complete, same.abandoned, ExecutionEntry.isPending]

theorem SameOutcome.hasError {e e' : ExecutionEntry} (same : SameOutcome e e') : e.hasError = e'.hasError := by
  rw [ExecutionEntry.hasError, same.abandoned, same.error, same.responses.any_eq, ExecutionEntry.hasError]

theorem addResponse_comm (e : ExecutionEntry) (m n : Message) :
    SameOutcome ((e.addResponse m).addResponse n) ((e.addResponse n).addResponse m) := by
  refine ⟨rfl, rfl, rfl, rfl, ?_⟩
  simp only [addResponse, List.append_assoc, List.singleton_append]
  exact (List.Perm.swap n m []).append_left e.responses

theorem addResponse_finish (e : ExecutionEntry) (m : Message) (status : Option ReplyStatus)
    (count : Option Int) : (e.finish status count).addResponse m = (e.addResponse m).finish status count := by
  unfold finish
  split <;> rfl

/-- The flags are only ever set, so it does not matter in which order. -/
theorem finish_comm (e : ExecutionEntry) (one two : Option ReplyStatus) (count count' : Option Int) :
    SameOutcome ((e.finish one count).finish two count') ((e.finish two count').finish one count) := by
  rcases one with _ | _ | _ | _ | _ | _ <;> rcases two with _ | _ | _ | _ | _ | _ <;>
    exact ⟨rfl, rfl, rfl, rfl, .refl _⟩

/-- Two messages that answer one request may change places. -/
theorem hear_comm (e : ExecutionEntry) (m n : Message) :
    SameOutcome ((e.hear m).hear n) ((e.hear n).hear m) := by
  unfold hear
  cases m.classify <;> cases n.classify <;> simp only [addResponse_finish]
  case executeReply.executeReply one two =>
    exact (((e.addResponse_comm m n).finish _ _).finish _ _).trans (finish_comm ..)
  case executeReply.data => exact (e.addResponse_comm m n).finish _ _
  case data.executeReply => exact (e.addResponse_comm m n).finish _ _
  case data.data => exact e.addResponse_comm m n
  all_goals exact .refl _

theorem SameOutcome.foldl_hear (ms : List Message) {e e' : ExecutionEntry} (same : SameOutcome e e') :
    SameOutcome (ms.foldl ExecutionEntry.hear e) (ms.foldl ExecutionEntry.hear e') := by
  induction ms generalizing e e' with
  | nil => exact same
  | cons m ms ih => exact ih (same.hear m)

/-- Messages that answer one request may come in any order. -/
theorem foldl_hear_perm (e : ExecutionEntry) {ms ns : List Message} (perm : ms.Perm ns) :
    SameOutcome (ms.foldl hear e) (ns.foldl hear e) := by
  induction perm generalizing e with
  | nil => exact .refl e
  | cons m _ ih => exact ih (e.hear m)
  | swap m n ms => exact (e.hear_comm n m).foldl_hear ms
  | trans _ _ first second => exact (first e).trans (second e)

theorem executionIndex_finish {e e' : ExecutionEntry} (known : e.executionIndex = e'.executionIndex)
    (status : Option ReplyStatus) (count : Option Int) :
    (e.finish status count).executionIndex = (e'.finish status count).executionIndex := by
  unfold finish
  split
  · rfl
  · exact known
  · exact known
  · exact congrArg count.or known

/-- What a message makes of the counter depends on nothing but the counter. -/
theorem executionIndex_hear {e e' : ExecutionEntry} (known : e.executionIndex = e'.executionIndex)
    (m : Message) : (e.hear m).executionIndex = (e'.hear m).executionIndex := by
  unfold hear
  split
  · have added : (e.addResponse m).executionIndex = (e'.addResponse m).executionIndex := known
    exact executionIndex_finish added _ _
  all_goals exact known

theorem executionIndex_hear_of_uncounted (e : ExecutionEntry) {m : Message} (quiet : m.Uncounted) :
    (e.hear m).executionIndex = e.executionIndex := by
  unfold hear
  split
  · rename_i reply terminal
    obtain ⟨notOk, uncounted⟩ := quiet reply terminal
    unfold finish
    split
    · rename_i ok
      exact absurd ok notOk
    · rfl
    · rfl
    · rw [uncounted]
      rfl
  all_goals rfl

/-- Only shell messages decide about the counter if no message on iopub counts. -/
theorem executionIndex_foldl_hear {shell iopub : List Message} {arrivals : List (ChannelKind × Message)}
    (woven : Interleaving shell iopub arrivals) (quiet : ∀ m ∈ iopub, m.Uncounted) (belongs : Message → Bool)
    {e e' : ExecutionEntry} (known : e.executionIndex = e'.executionIndex) :
    (((arrivals.map (·.2)).filter belongs).foldl hear e).executionIndex =
      ((shell.filter belongs).foldl hear e').executionIndex := by
  induction woven generalizing e e' with
  | nil => exact known
  | shell m _ ih =>
    simp only [List.map_cons, List.filter_cons]
    split
    · exact ih quiet (executionIndex_hear known m)
    · exact ih quiet known
  | iopub m _ ih =>
    simp only [List.map_cons, List.filter_cons]
    have later := fun n member => quiet n (List.mem_cons_of_mem m member)
    split
    · refine ih later ?_
      rw [executionIndex_hear_of_uncounted e (quiet m (List.mem_cons_self ..)), known]
    · exact ih later known

end ExecutionEntry

namespace ExecutionLog

/-- The place of the entry that a message belongs to. -/
def place? (log : ExecutionLog) (m : Message) : Option Nat := m.parentId.bind (List.lookup · log.index)

theorem index_update (log : ExecutionLog) (id : String) (f : ExecutionEntry → ExecutionEntry) :
    (log.update id f).1.index = log.index := by
  unfold update
  split
  · split <;> rfl
  · rfl

theorem getElem?_update (log : ExecutionLog) (id : String) (f : ExecutionEntry → ExecutionEntry) (i : Nat) :
    (log.update id f).1.entries[i]? =
      log.entries[i]?.map fun e => if log.index.lookup id = some i then f e else e := by
  unfold update
  split
  · rename_i place found
    split
    · simp only [List.getElem?_modify, found, Option.some.injEq]
      rfl
    · -- an index that leads nowhere leads to no entry
      rename_i outside
      cases here : log.entries[i]? with
      | none => rfl
      | some e =>
        have bound := (List.getElem?_eq_some_iff.mp here).1
        have other : place ≠ i := fun same => outside (same ▸ bound)
        simp [found, other]
  · rename_i missing
    simp [missing]

end ExecutionLog

theorem map_eq_of_forall₂ {α β : Type} {f : α → β} {as bs : List α}
    (same : List.Forall₂ (fun a b => f a = f b) as bs) : as.map f = bs.map f := by
  induction same with
  | nil => rfl
  | cons here _ ih => rw [List.map_cons, List.map_cons, here, ih]

theorem any_eq_of_map_eq {α : Type} {p : α → Bool} {as bs : List α} (same : as.map p = bs.map p) :
    as.any p = bs.any p := by
  have holds := congrArg (List.any · id) same
  rwa [List.any_map, List.any_map] at holds

theorem countP_eq_of_map_eq {α : Type} {p : α → Bool} {as bs : List α} (same : as.map p = bs.map p) :
    as.countP p = bs.countP p := by
  have holds := congrArg (List.countP id) same
  rwa [List.countP_map, List.countP_map] at holds

namespace Client

theorem index_record (log : ExecutionLog) (m : Message) : (record log m).index = log.index := by
  unfold record ExecutionLog.recordReply ExecutionLog.recordOutput
  split
  · rfl
  · split
    · exact log.index_update _ _
    · exact log.index_update _ _
    all_goals rfl

/-- A message changes the entry that it belongs to, and no other. -/
theorem getElem?_record (log : ExecutionLog) (m : Message) (i : Nat) :
    (record log m).entries[i]? =
      log.entries[i]?.map fun e => if log.place? m = some i then e.hear m else e := by
  unfold record ExecutionLog.place?
  cases m.parentId with
  | none => simp
  | some parent =>
    unfold ExecutionEntry.hear
    cases m.classify with
    | executeReply reply => exact log.getElem?_update parent _ i
    | data => exact log.getElem?_update parent _ i
    | shutdownReply _ => simp
    | status _ => simp
    | other => simp

/-- An entry hears the messages that belong to it, in the order in which they come. -/
theorem entries_foldl_record (log : ExecutionLog) (ms : List Message) :
    (ms.foldl record log).entries =
      log.entries.mapIdx fun i e => (ms.filter fun m => log.place? m = some i).foldl ExecutionEntry.hear e := by
  refine List.ext_getElem? fun i => ?_
  rw [List.getElem?_mapIdx]
  induction ms generalizing log with
  | nil => simp
  | cons m ms ih =>
    -- a message moves no entry, so the later ones find theirs where they were
    have places (n : Message) : (record log m).place? n = log.place? n := by
      rw [ExecutionLog.place?, index_record]
      rfl
    rw [List.foldl_cons, ih, getElem?_record, Option.map_map]
    refine congrArg (Option.map · _) (funext fun e => ?_)
    simp only [Function.comp_apply, places, List.filter_cons, decide_eq_true_eq]
    split <;> rfl

/-- Takes in what arrives, one message after the other. -/
def handleAll (c : Client) (arrivals : List (ChannelKind × Message)) : Client :=
  arrivals.foldl (fun c arrival => c.handle arrival.1 arrival.2) c

theorem log_handleAll (c : Client) (arrivals : List (ChannelKind × Message)) :
    (c.handleAll arrivals).log = (arrivals.map (·.2)).foldl record c.log := by
  unfold handleAll
  induction arrivals generalizing c with
  | nil => rfl
  | cons arrival arrivals ih => exact ih (c.handle arrival.1 arrival.2)

/-- Two series of arrivals leave entries that are related if they are wherever the same entry hears what belongs
to it in one series and in the other. -/
theorem forall₂_handleAll {related : ExecutionEntry → ExecutionEntry → Prop} (c : Client)
    {one two : List (ChannelKind × Message)}
    (each : ∀ (belongs : Message → Bool) (e : ExecutionEntry),
      related (((one.map (·.2)).filter belongs).foldl ExecutionEntry.hear e)
        (((two.map (·.2)).filter belongs).foldl ExecutionEntry.hear e)) :
    List.Forall₂ related (c.handleAll one).log.entries (c.handleAll two).log.entries := by
  simp only [log_handleAll, entries_foldl_record]
  refine List.forall₂_iff_get.mpr ⟨by simp, fun i _ _ => ?_⟩
  simp only [List.get_eq_getElem, List.getElem_mapIdx]
  exact each _ _

/-- The outcome of a request does not depend on how the messages on the shell line and on iopub come between
one another. Nor does its counter, if no terminal message on iopub tells of success or counts. -/
theorem handleAll_interleaved (c : Client) {shell iopub : List Message}
    {one two : List (ChannelKind × Message)} (first : Interleaving shell iopub one)
    (second : Interleaving shell iopub two) :
    List.Forall₂ ExecutionEntry.SameOutcome (c.handleAll one).log.entries (c.handleAll two).log.entries ∧
      (c.handleAll one).log.hasPending = (c.handleAll two).log.hasPending ∧
      (c.handleAll one).log.pendingCount = (c.handleAll two).log.pendingCount ∧
      (c.handleAll one).log.hasError = (c.handleAll two).log.hasError ∧
      ((∀ m ∈ iopub, m.Uncounted) →
        (c.handleAll one).log.entries.map (·.executionIndex) =
          (c.handleAll two).log.entries.map (·.executionIndex)) := by
  have perm : (one.map (·.2)).Perm (two.map (·.2)) := first.perm.trans second.perm.symm
  have alike : List.Forall₂ ExecutionEntry.SameOutcome (c.handleAll one).log.entries
      (c.handleAll two).log.entries :=
    c.forall₂_handleAll fun belongs e => e.foldl_hear_perm (perm.filter belongs)
  have pending := map_eq_of_forall₂ (alike.imp fun _ _ same => same.isPending)
  have errors := map_eq_of_forall₂ (alike.imp fun _ _ same => same.hasError)
  refine ⟨alike, any_eq_of_map_eq pending, countP_eq_of_map_eq pending, any_eq_of_map_eq errors,
    fun quiet => map_eq_of_forall₂ (c.forall₂_handleAll fun belongs e => ?_)⟩
  rw [ExecutionEntry.executionIndex_foldl_hear first quiet belongs rfl,
    ExecutionEntry.executionIndex_foldl_hear second quiet belongs rfl]

def askedTwice : Client :=
  ((((Client.new ⟨"session", "user", ⟨[]⟩⟩ false).beginExecute ⟨"first", ""⟩ "x").2).beginExecute
    ⟨"second", ""⟩ "y").2

/-- A message from the kernel about one of the two requests. -/
def about (request msgType : String) (members : List (String × Json)) : Message :=
  Message.replyTo (.new { Header.blank with msgType := msgType } (.ofJson (.object members)))
    (.new { Header.blank with msgId := request } .empty)

def failedReply : Message :=
  about "first" "execute_reply" [("status", .text "error"), ("execution_count", .ofNat 4)]

/-- The same failure as it is published, without a status and without a count. -/
def publishedFailure : Message := about "first" "error" [("ename", .text "NameError")]

def printed : Message := about "second" "stream" [("text", .text "y")]

/-- Whether the reply to a failed request comes before the failure is published or behind it, the request has
failed as the fourth, and the other is pending. -/
theorem handleAll_failure_either_way :
    Interleaving [failedReply] [publishedFailure, printed]
        [(.shell, failedReply), (.iopub, publishedFailure), (.iopub, printed)] ∧
      Interleaving [failedReply] [publishedFailure, printed]
        [(.iopub, publishedFailure), (.iopub, printed), (.shell, failedReply)] ∧
      (∀ m ∈ [publishedFailure, printed], m.Uncounted) ∧
      (askedTwice.handleAll [(.iopub, publishedFailure), (.iopub, printed),
        (.shell, failedReply)]).log.entries.map (·.executionIndex) = [some 4, none] ∧
      (askedTwice.handleAll [(.iopub, publishedFailure), (.iopub, printed),
        (.shell, failedReply)]).log.pendingCount = 1 := by
  have first : Interleaving [failedReply] [publishedFailure, printed]
      [(.shell, failedReply), (.iopub, publishedFailure), (.iopub, printed)] :=
    .shell _ (.iopub _ (.iopub _ .nil))
  have second : Interleaving [failedReply] [publishedFailure, printed]
      [(.iopub, publishedFailure), (.iopub, printed), (.shell, failedReply)] :=
    .iopub _ (.iopub _ (.shell _ .nil))
  have quiet : ∀ m ∈ [publishedFailure, printed], m.Uncounted := by
    simp only [List.forall_mem_cons, List.not_mem_nil, false_implies, implies_true, and_true]
    refine ⟨fun reply terminal => ?_, fun reply terminal => ?_⟩
    · have sort : publishedFailure.classify = .executeReply ⟨none, none, some "NameError", none⟩ := by decide
      cases sort.symm.trans terminal
      exact ⟨by decide, rfl⟩
    · have sort : printed.classify = .data := by decide
      cases sort.symm.trans terminal
  obtain ⟨_, _, pending, _, counted⟩ := askedTwice.handleAll_interleaved first second
  exact ⟨first, second, quiet, (counted quiet).symm.trans (by decide), pending.symm.trans (by decide)⟩

end Client
end KernelLink
