import KernelLink.Proofs.Manager.SharedKey
import KernelLink.Proofs.Rehearsal.Ensuing

namespace KernelLink

namespace Manager

/-- How the opening of the control line ends. What is refused as a setting is refused by those who open it. -/
theorem openControl_ends (m : Manager) (p : KernelProcess) (x : Exchange) (session : Session) :
    (∃ failure after, m.openControl p x session = (.error failure, m, after) ∧ x.SameNews after ∧
      (failure.isConfig = true → x.refused.lookup .control = some failure)) ∨
    ∃ watch control after, m.openControl p x session = (.ok watch, { m with control := control }, after) ∧
      x.SameNews after := by
  unfold openControl
  split
  · exact Or.inl ⟨_, x, rfl, .refl x, nofun⟩
  · have news := x.sameNews_create .control
    unfold Exchange.create at news ⊢
    simp only at news ⊢
    cases refused : x.refused.lookup .control with
    | some failure => exact Or.inl ⟨failure, _, rfl, ⟨rfl, rfl⟩, fun _ => rfl⟩
    | none => exact Or.inr ⟨_, _, _, rfl, ⟨rfl, rfl⟩⟩

end Manager

namespace Supervision

variable {s s' : Supervision}

/-- How a launch ends once a process has been started: the control line is opened, or the process is killed and let
go of. -/
theorem settleLaunch_ends (s : Supervision) (child : Nat) :
    (∃ failure p, s.settleLaunch child = (.error failure, letGo { s with premises := p }) ∧ s.premises.Ensues p ∧
      (failure.isConfig = true → s.premises.scene.exchange.refused.lookup .control = some failure)) ∨
    ∃ p control watch, s.settleLaunch child =
        (.ok (), { s with premises := p, manager := { s.manager with control := control }, watch := watch }) ∧
      s.premises.Ensues p := by
  have waited := (s.premises.ensues_await (fun p => (p.process? child).any (·.exited)) s.manager.options.settleTime
    1).trans (Premises.ensues_identifier _)
  unfold settleLaunch
  simp only
  generalize (s.premises.await _ _ _).2.identifier = identified at waited ⊢
  obtain ⟨id, p⟩ := identified
  cases here : p.process? child with
  | none => exact Or.inr ⟨p, s.manager.control, s.watch, rfl, waited⟩
  | some process =>
    rcases s.manager.openControl_ends process p.scene.exchange (s.manager.newSession id s.username) with
      ⟨failure, x, failed, news, kind⟩ | ⟨watch, control, x, opened, news⟩
    · have there : p.Ensues { p with scene := { p.scene with exchange := x } } :=
        (Scene.ensues_exchange news).premises
      rw [waited.refused] at kind
      simp only [failed]
      exact Or.inl ⟨failure, _, rfl, (waited.trans there).trans (Premises.ensues_kill ..), kind⟩
    · have joined : p.Ensues { p with scene := { p.scene with
          exchange := x, parties := p.scene.parties ++ [.control watch] } } :=
        (Scene.ensues_append (.control watch) news).premises
      simp only [opened]
      exact Or.inr ⟨_, control, p.scene.parties.length, rfl, waited.trans joined⟩

theorem ask_ends (s : Supervision) : ∃ agreed p, s.ask = (agreed, { s with premises := p }) ∧ s.premises.Ensues p := by
  unfold ask
  split
  · exact ⟨false, s.premises, rfl, .refl _⟩
  · rename_i line _
    have stamped := s.premises.ensues_stamp
    simp only
    generalize s.premises.stamp = stamped' at stamped ⊢
    obtain ⟨stamp, p⟩ := stamped'
    have sent := (p.scene.ensues_sendRequest s.watch line stamp).premises
    generalize p.scene.sendRequest s.watch line stamp = request at sent ⊢
    obtain ⟨_ | _, scene⟩ := request
    · exact ⟨false, _, rfl, stamped.trans sent⟩
    · exact ⟨_, _, rfl, (stamped.trans sent).trans (Premises.ensues_await ..)⟩

theorem endControl_ends (s : Supervision) : ∃ p control,
    s.endControl = { s with premises := p, manager := { s.manager with control := control } } ∧
      s.premises.Ensues p := by
  unfold endControl
  split
  · exact ⟨s.premises, s.manager.control, rfl, .refl _⟩
  · rename_i watch here
    have there := Scene.parties_of_control? here
    have same : (Party.control watch.stop.join).owned? = (Party.control watch).owned? := rfl
    unfold Manager.endControl
    cases held : s.manager.control with
    | none =>
      have kept := Scene.ensues_setParty there same (.refl s.premises.scene.exchange)
      exact ⟨_, s.manager.control, rfl, kept.premises⟩
    | some line =>
      have stopped : s.premises.scene.exchange.SameNews (s.premises.scene.exchange.stopLine line) := ⟨rfl, rfl⟩
      exact ⟨_, none, rfl, (Scene.ensues_setParty there same stopped).premises⟩

theorem seeOff_ends (s : Supervision) (child : Nat) (outcome : ShutdownOutcome) :
    ∃ p, s.seeOff child outcome = { s with premises := p } ∧ s.premises.Ensues p := by
  refine ⟨_, rfl, ?_⟩
  cases outcome with
  | acknowledged =>
    have waited := s.premises.ensues_waitForExit child s.manager.options.shutdownWait
    simp only
    generalize s.premises.waitForExit child s.manager.options.shutdownWait = exit at waited ⊢
    obtain ⟨_ | _, p⟩ := exit
    · exact waited.trans (Premises.ensues_kill ..)
    · exact waited
  | killed => exact Premises.ensues_kill ..
  | alreadyExited => exact .refl _
  | notRunning => exact .refl _

/-- What comes of the control line and of the process once the kernel has been asked. -/
theorem close_ends (s : Supervision) (child : Nat) (outcome : ShutdownOutcome) : ∃ p control,
    s.endControl.seeOff child outcome =
        { s with premises := p, manager := { s.manager with control := control } } ∧ s.premises.Ensues p := by
  obtain ⟨p, control, hungUp, first⟩ := s.endControl_ends
  obtain ⟨p', parted, second⟩ := seeOff_ends
    { s with premises := p, manager := { s.manager with control := control } } child outcome
  rw [hungUp, parted]
  exact ⟨p', control, rfl, first.trans second⟩

/-- A shutdown that finds a process ends with its being let go of. -/
theorem shutdown_ends {child : Nat} (process : s.manager.process = some child) : ∃ outcome p control,
    s.shutdown = (outcome, letGo { s with premises := p, manager := { s.manager with control := control } }) ∧
      s.premises.Ensues p := by
  have unasked (outcome : ShutdownOutcome) : ∃ o p control, (outcome, (s.endControl.seeOff child outcome).letGo) =
      (o, letGo { s with premises := p, manager := { s.manager with control := control } }) ∧
        s.premises.Ensues p := by
    obtain ⟨p, control, closed, ensues⟩ := s.close_ends child outcome
    exact ⟨outcome, p, control, by rw [closed], ensues⟩
  unfold shutdown
  rw [process]
  simp only
  cases Manager.farewell s.process? with
  | killed =>
    obtain ⟨agreed, p, ended, first⟩ := s.ask_ends
    simp only [ended]
    cases agreed with
    | true =>
      obtain ⟨p', control, closed, second⟩ := close_ends { s with premises := p } child .acknowledged
      exact ⟨_, p', control, by rw [closed], first.trans second⟩
    | false =>
      obtain ⟨p', control, closed, second⟩ := close_ends { s with premises := p } child .killed
      exact ⟨_, p', control, by rw [closed], first.trans second⟩
  | acknowledged => exact unasked .acknowledged
  | alreadyExited => exact unasked .alreadyExited
  | notRunning => exact unasked .notRunning

theorem name_shutdown (s : Supervision) : s.shutdown.2.manager.name = s.manager.name := by
  cases process : s.manager.process with
  | none =>
    unfold shutdown
    rw [process]
    rfl
  | some child =>
    obtain ⟨outcome, p, control, ended, -⟩ := shutdown_ends process
    rw [ended]
    rfl

end Supervision
end KernelLink
