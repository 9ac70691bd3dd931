import KernelLink.Proofs.Client.Run

namespace KernelLink
namespace Client
namespace Run

variable {session : Session} {owned : Bool} {trace : List Happening} {c : Client} {x : Exchange}
  {calls : List Call}

theorem silent {s s' : Situation} (run : Run session owned trace s) (step : Client.Step s none s') :
    Run session owned trace s' := by
  have next := run.next step
  rwa [Option.toList_none, List.append_nil] at next

theorem startChannels (run : Run session owned trace ⟨c, x, calls⟩) (kinds : List ChannelKind) :
    Run session owned trace ⟨(c.startChannels x kinds).2.1, (c.startChannels x kinds).2.2, calls⟩ := by
  induction kinds generalizing c x with
  | nil => exact run
  | cons kind rest ih =>
    have next := run.silent (.startChannel kind)
    unfold Client.startChannels
    split
    · rename_i failed
      rwa [failed] at next
    · rename_i started
      rw [started] at next
      exact ih next

theorem kernelInfo (run : Run session owned trace ⟨c, x, calls⟩) (stamp : Stamp) :
    Run session owned trace ⟨(c.kernelInfo x stamp).2.1, (c.kernelInfo x stamp).2.2, calls⟩ :=
  run.silent (.kernelInfo stamp)

/-- Starting a client, whether it succeeds or not, is a part of a run. -/
theorem start (run : Run session owned trace ⟨c, x, calls⟩) (options : StartOptions) (stamp : Stamp) :
    Run session owned trace ⟨(c.start x options stamp).2.1, (c.start x options stamp).2.2, calls⟩ := by
  have lines := (run.silent .beginStart).startChannels options.kinds
  unfold Client.start
  split
  · rename_i failed
    rwa [failed] at lines
  rename_i c₁ x₁ started
  rw [started] at lines
  have allowed := lines.silent (.allow options.stdin)
  have pulsed : Run session owned trace
      ⟨(if options.heartbeat then ({ c₁ with allowStdin := options.stdin } : Client).startPulse x₁
          else (.ok (), { c₁ with allowStdin := options.stdin }, x₁)).2.1,
        (if options.heartbeat then ({ c₁ with allowStdin := options.stdin } : Client).startPulse x₁
          else (.ok (), { c₁ with allowStdin := options.stdin }, x₁)).2.2, calls⟩ := by
    cases options.heartbeat with
    | false => exact allowed
    | true => exact allowed.silent .startPulse
  simp only
  split
  · rename_i failed
    rwa [failed] at pulsed
  rename_i beating
  rw [beating] at pulsed
  split
  · have asked := pulsed.kernelInfo stamp
    split <;> (rename_i answered; rwa [answered] at asked)
  · exact pulsed

/-- Asking for the execution of code logs a request and finds out what comes of it. -/
theorem execute (run : Run session owned trace ⟨c, x, calls⟩) (stamp : Stamp) (code : String) :
    Run session owned
      (trace ++ [.requested (c.beginExecute stamp code).1,
        .ofResult (c.beginExecute stamp code).1
          ((c.beginExecute stamp code).2.sendOnShell x (c.beginExecute stamp code).1).1])
      ⟨(c.execute x stamp code).2.1, (c.execute x stamp code).2.2, calls⟩ := by
  have logged := run.next (.request stamp code)
  have sent := logged.silent (@Step.send _ x [] _ calls)
  have settled := sent.next (@Step.settle _ _ [] _ _ calls)
  rwa [Option.toList_some, Option.toList_some, List.append_assoc] at settled

/-- Loops that are told to end do so one by one. -/
theorem leaveAll {loops : List Loop} (run : Run session owned trace ⟨c, x, calls⟩)
    (running : ∀ loop ∈ loops, loop ∈ c.loops) (distinct : (loops.map (·.id)).Nodup) :
    Run session owned (trace ++ loops.map (.left ·.id))
      ⟨loops.foldl (fun c loop => c.leave loop.id) c, x, calls⟩ := by
  induction loops generalizing c trace with
  | nil => rwa [List.map_nil, List.append_nil]
  | cons loop rest ih =>
    obtain ⟨other, distinct⟩ := List.nodup_cons.mp distinct
    have next := run.next (.leave (running loop (List.mem_cons_self ..)))
    have others : ∀ later ∈ rest, later ∈ (c.leave loop.id).loops := fun later member =>
      List.mem_filter.mpr ⟨running later (List.mem_cons_of_mem _ member), by
        simpa using fun same => other (List.mem_map.mpr ⟨later, member, same⟩)⟩
    simpa using ih next others distinct

/-- Stopping a client ends all of its loops. -/
theorem stop (run : Run session owned trace ⟨c, x, calls⟩) :
    Run session owned (trace ++ c.loops.map (.left ·.id)) ⟨(c.stop x).1, (c.stop x).2, calls⟩ := by
  have lines := (run.silent .beginStop).silent .stopLines
  have pulse := lines.silent .stopPulse
  have loops : ((c.beginStop.stopLines x).1.stopPulse (c.beginStop.stopLines x).2).1.loops = c.loops :=
    (stopPulse_undisturbed ..).loops
  have left := pulse.leaveAll (fun _ member => member) pulse.loopIds_nodup
  rw [loops] at left
  simpa only [Client.stop, joinLoops, loops] using left

/-- A loop that takes what has arrived first hears a message, or ends because of a failure. -/
theorem takeArrival {loop : Loop} (run : Run session owned trace ⟨c, x, calls⟩) (member : loop ∈ c.loops) :
    Run session owned
      (trace ++ match (x.take loop.line).1 with
        | none => []
        | some (.ok m) => [.heard loop.line.kind m]
        | some (.error _) => [.left loop.id])
      ⟨(c.takeArrival x loop).1, (c.takeArrival x loop).2, calls⟩ := by
  have turns := x.turns_take loop.line
  unfold Client.takeArrival
  cases taken : x.take loop.line with
  | mk arrival x' =>
    rw [taken] at turns
    cases arrival with
    | none => simpa using run.silent (.elsewhere turns.ge)
    | some received =>
      cases received with
      | ok m => exact run.next (.hear member taken)
      | error failure => exact (run.next (.leave member)).silent (.elsewhere turns.ge)

end Run
end Client
end KernelLink
