import KernelLink.Proofs.Rehearsal.Course

namespace KernelLink

/-- Whatever goes over the lines, the same sockets are out of reach, and the same is known of the kernel process. -/
structure Exchange.SameNews (x x' : Exchange) : Prop where
  refused : x'.refused = x.refused
  kernelAlive : x'.kernelAlive = x.kernelAlive

namespace Exchange

theorem SameNews.refl (x : Exchange) : SameNews x x := ⟨rfl, rfl⟩

theorem SameNews.trans {x x' x'' : Exchange} (one : SameNews x x') (two : SameNews x' x'') : SameNews x x'' :=
  ⟨two.refused.trans one.refused, two.kernelAlive.trans one.kernelAlive⟩

theorem sameNews_create (x : Exchange) (kind : ChannelKind) : SameNews x (x.create kind).2 := by
  unfold create
  simp only
  split <;> exact ⟨rfl, rfl⟩

theorem sameNews_send (x : Exchange) (id : LineId) (m : Message) : SameNews x (x.send id m).2 := by
  unfold send
  simp only
  split
  · exact .refl x
  · split <;> exact ⟨rfl, rfl⟩

theorem sameNews_take (x : Exchange) (id : LineId) : SameNews x (x.take id).2 := by
  unfold take
  simp only
  split <;> exact ⟨rfl, rfl⟩

theorem sameNews_foldl {α : Type} {f : Exchange → α → Exchange} (each : ∀ x a, SameNews x (f x a)) (all : List α)
    (x : Exchange) : SameNews x (all.foldl f x) := by
  induction all generalizing x with
  | nil => exact .refl x
  | cons a rest ih => exact (each x a).trans (ih (f x a))

end Exchange

namespace Client

theorem owned_receive (c : Client) (loop : Loop) (a : Except Failure Message) :
    (c.receive loop a).owned = c.owned := by
  cases a <;> rfl

theorem owned_takeArrival (c : Client) (x : Exchange) (loop : Loop) :
    (c.takeArrival x loop).1.owned = c.owned := by
  rcases taken : x.take loop.line with ⟨_ | a, x'⟩ <;> simp only [takeArrival, taken]
  exact c.owned_receive loop a

theorem owned_lookAround (c : Client) (x : Exchange) (loop : Loop) : (c.lookAround x loop).1.owned = c.owned := by
  unfold lookAround
  split <;> rfl

/-- What a client does with its lines changes neither the news nor what it knows itself. -/
structure Alike (c : Client) (x : Exchange) (c' : Client) (x' : Exchange) : Prop where
  news : x.SameNews x'
  owned : c'.owned = c.owned

variable {c c' c'' : Client} {x x' x'' : Exchange}

theorem Alike.trans (one : Alike c x c' x') (two : Alike c' x' c'' x'') : Alike c x c'' x'' :=
  ⟨one.news.trans two.news, two.owned.trans one.owned⟩

theorem alike_lineTo (c : Client) (x : Exchange) (kind : ChannelKind) :
    Alike c x (c.lineTo x kind).2.1 (c.lineTo x kind).2.2 := by
  have news := x.sameNews_create kind
  unfold lineTo
  split
  · exact ⟨.refl x, rfl⟩
  · generalize x.create kind = created at news ⊢
    obtain ⟨_ | serial, x'⟩ := created <;> exact ⟨news, rfl⟩

theorem alike_startChannel (c : Client) (x : Exchange) (kind : ChannelKind) :
    Alike c x (c.startChannel x kind).2.1 (c.startChannel x kind).2.2 := by
  have found := c.alike_lineTo x kind
  unfold startChannel
  generalize c.lineTo x kind = line at found ⊢
  obtain ⟨_ | id, c', x'⟩ := line
  · exact found
  · dsimp only at found ⊢
    split
    · exact found
    · have started : Alike c' x' { c' with loops := c'.loops ++ [⟨x'.turns, id, none⟩] }
          (x'.startLine id).takeTurn.2 := ⟨⟨rfl, rfl⟩, rfl⟩
      exact found.trans started

theorem alike_startChannels (kinds : List ChannelKind) (c : Client) (x : Exchange) :
    Alike c x (c.startChannels x kinds).2.1 (c.startChannels x kinds).2.2 := by
  induction kinds generalizing c x with
  | nil => exact ⟨.refl x, rfl⟩
  | cons kind rest ih =>
    have first := c.alike_startChannel x kind
    unfold startChannels
    generalize c.startChannel x kind = started at first ⊢
    obtain ⟨_ | _, c', x'⟩ := started
    · exact first
    · exact first.trans (ih c' x')

theorem alike_startPulse (c : Client) (x : Exchange) : Alike c x (c.startPulse x).2.1 (c.startPulse x).2.2 := by
  have news := x.sameNews_create .heartbeat
  unfold startPulse
  split
  · exact ⟨⟨rfl, rfl⟩, rfl⟩
  · generalize x.create .heartbeat = created at news ⊢
    obtain ⟨_ | id, x'⟩ := created
    · exact ⟨news, rfl⟩
    · exact ⟨news.trans ⟨rfl, rfl⟩, rfl⟩

theorem alike_kernelInfo (c : Client) (x : Exchange) (stamp : Stamp) :
    Alike c x (c.kernelInfo x stamp).2.1 (c.kernelInfo x stamp).2.2 := by
  unfold kernelInfo
  generalize c.session.newMessage stamp "kernel_info_request" .empty = request
  have found := c.alike_lineTo x .shell
  unfold sendOnShell
  generalize c.lineTo x .shell = line at found ⊢
  obtain ⟨_ | id, c', x'⟩ := line
  · exact found
  · have news := x'.sameNews_send id request
    dsimp only at found ⊢
    generalize x'.send id request = sent at news ⊢
    obtain ⟨_ | _ | _, x''⟩ := sent <;> exact found.trans ⟨news, rfl⟩

theorem alike_start (c : Client) (x : Exchange) (options : StartOptions) (stamp : Stamp) :
    Alike c x (c.start x options stamp).2.1 (c.start x options stamp).2.2 := by
  have begun : Alike c x { c with stopping := false } x := ⟨.refl x, rfl⟩
  have lines := begun.trans (alike_startChannels options.kinds _ x)
  unfold start
  generalize ({ c with stopping := false } : Client).startChannels x options.kinds = started at lines ⊢
  obtain ⟨_ | _, c₁, x₁⟩ := started
  · exact lines
  have allowed : Alike c x { c₁ with allowStdin := options.stdin } x₁ := lines.trans ⟨.refl x₁, rfl⟩
  dsimp only
  generalize ({ c₁ with allowStdin := options.stdin } : Client) = allowing at allowed ⊢
  have pulsed : Alike c x (if options.heartbeat then allowing.startPulse x₁ else (.ok (), allowing, x₁)).2.1
      (if options.heartbeat then allowing.startPulse x₁ else (.ok (), allowing, x₁)).2.2 := by
    split
    · exact allowed.trans (allowing.alike_startPulse x₁)
    · exact allowed
  generalize (if options.heartbeat then allowing.startPulse x₁ else (.ok (), allowing, x₁)) = beating at pulsed ⊢
  obtain ⟨_ | _, c₂, x₂⟩ := beating
  · exact pulsed
  dsimp only
  split
  · have asked := pulsed.trans (c₂.alike_kernelInfo x₂ stamp)
    split <;> (rename_i answered; rwa [answered] at asked)
  · exact pulsed

theorem owned_joinLoops (c : Client) : c.joinLoops.owned = c.owned := by
  unfold joinLoops
  induction c.loops generalizing c with
  | nil => rfl
  | cons l rest ih => exact ih (c.leave l.id)

theorem alike_stop (c : Client) (x : Exchange) : Alike c x (c.stop x).1 (c.stop x).2 := by
  have hungUp : x.SameNews (c.channels.foldl Exchange.stopLine x) :=
    @Exchange.sameNews_foldl _ Exchange.stopLine (fun _ _ => ⟨rfl, rfl⟩) c.channels x
  have lines : Alike c x (c.beginStop.stopLines x).1 (c.beginStop.stopLines x).2 := ⟨hungUp, rfl⟩
  have ended (c : Client) (x : Exchange) : Alike c x (c.stopPulse x).1.joinLoops (c.stopPulse x).2 := by
    unfold stopPulse
    cases c.pulse with
    | none => exact ⟨.refl x, owned_joinLoops c⟩
    | some id => exact ⟨⟨rfl, rfl⟩, owned_joinLoops { c with pulse := none }⟩
  exact lines.trans (ended _ _)

end Client

namespace Party

/-- Whether a party that is a client knows somebody who supervises the kernel process. -/
def owned? : Party → Option Bool
  | .client c => some c.owned
  | _ => none

theorem owned?_takeArrival (p : Party) (x : Exchange) (l : Loop) : (p.takeArrival x l).1.owned? = p.owned? := by
  cases p with
  | client c => exact congrArg some (c.owned_takeArrival x l)
  | control c => rfl
  | reader r => rfl

theorem owned?_lookAround (p : Party) (x : Exchange) (l : Loop) : (p.lookAround x l).1.owned? = p.owned? := by
  cases p with
  | client c => exact congrArg some (c.owned_lookAround x l)
  | control c => rfl
  | reader r =>
    unfold lookAround
    simp only
    split <;> rfl

theorem owned?_expire (p : Party) (now : Nat) : (p.expire now).owned? = p.owned? := by
  cases p <;> rfl

end Party

namespace Scene

/-- What a client among the parties knows. -/
def owned? (s : Scene) (i : Nat) : Option Bool := (s.client? i).map (·.owned)

theorem owned?_eq (s : Scene) (i : Nat) : s.owned? i = s.parties[i]?.bind Party.owned? := by
  unfold owned? client?
  rcases s.parties[i]? with _ | ⟨_ | _ | _⟩ <;> rfl

/-- What lies behind as the scene goes on: every client stays where it is, and the news are the same. -/
structure Ensues (s s' : Scene) : Prop where
  news : s.exchange.SameNews s'.exchange
  owned : ∀ i known, s.owned? i = some known → s'.owned? i = some known

variable {s s' s'' : Scene}

theorem Ensues.refl (s : Scene) : Ensues s s := ⟨.refl _, fun _ _ here => here⟩

theorem Ensues.trans (one : Ensues s s') (two : Ensues s' s'') : Ensues s s'' :=
  ⟨one.news.trans two.news, fun i known here => two.owned i known (one.owned i known here)⟩

theorem ensues_exchange {s : Scene} {x : Exchange} (news : s.exchange.SameNews x) :
    Ensues s { s with exchange := x } := ⟨news, fun _ _ here => here⟩

theorem ensues_setParty {i : Nat} {p p' : Party} (here : s.parties[i]? = some p) (same : p'.owned? = p.owned?)
    {x : Exchange} (news : s.exchange.SameNews x) : Ensues s (s.setParty i p' x) := by
  refine ⟨news, fun j known there => ?_⟩
  have bound : i < s.parties.length := (List.getElem?_eq_some_iff.mp here).1
  rw [owned?_eq] at there ⊢
  by_cases there' : j = i
  · subst there'
    rw [here] at there
    rw [setParty, List.getElem?_set_self bound]
    exact same.trans there
  · rw [setParty, List.getElem?_set_ne (Ne.symm there')]
    exact there

/-- Somebody joins the others. -/
theorem ensues_append (p : Party) {x : Exchange} (news : s.exchange.SameNews x) :
    Ensues s { s with exchange := x, parties := s.parties ++ [p] } := by
  refine ⟨news, fun i known here => ?_⟩
  rw [owned?_eq] at here ⊢
  obtain ⟨party, found, -⟩ := Option.bind_eq_some_iff.mp here
  have bound : i < s.parties.length := (List.getElem?_eq_some_iff.mp found).1
  rw [List.getElem?_append_left bound]
  exact here

theorem ensues_moveTo (s : Scene) (t : Nat) : Ensues s (s.moveTo t) := by
  refine ⟨⟨rfl, rfl⟩, fun i known here => ?_⟩
  rw [owned?_eq] at here ⊢
  rw [moveTo, List.getElem?_map]
  cases found : s.parties[i]? with
  | none => simp [found] at here
  | some p =>
    rw [found] at here
    exact (p.owned?_expire _).trans here

theorem ensues_deliver (s : Scene) : Ensues s s.deliver := by
  unfold deliver
  generalize s.arrivals.partition _ = parted
  obtain ⟨due, later⟩ := parted
  refine ⟨?_, fun _ _ here => here⟩
  refine Exchange.sameNews_foldl ?_ due s.exchange
  intro x arrival
  exact ⟨rfl, rfl⟩

theorem habit_ensues : Habit Ensues where
  refl := .refl
  trans := .trans
  take {s i p l} here _ _ := by
    have news : s.exchange.SameNews (p.takeArrival s.exchange l).2 := by
      rw [p.exchange_takeArrival]
      exact s.exchange.sameNews_take l.line
    exact ensues_setParty here (p.owned?_takeArrival s.exchange l) news
  look {s i p l} here _ _ := by
    have news : s.exchange.SameNews (p.lookAround s.exchange l).2 := by
      rcases p.exchange_lookAround s.exchange l with same | same <;> rw [same] <;> exact ⟨rfl, rfl⟩
    exact ensues_setParty here (p.owned?_lookAround s.exchange l) news
  moveTo := ensues_moveTo
  deliver := ensues_deliver
  rest s now later := ensues_exchange ⟨rfl, rfl⟩

theorem ensues_settle (s : Scene) : Ensues s s.settle := habit_ensues.settle s

theorem ensues_pass (s : Scene) (ms : Nat) : Ensues s (s.pass ms) := habit_ensues.pass s ms

theorem ensues_sendRequest (s : Scene) (i : Nat) (id : LineId) (stamp : Stamp) :
    Ensues s (s.sendRequest i id stamp).2 := by
  unfold sendRequest
  cases s.control? i with
  | none => exact .refl s
  | some c =>
    have news := s.exchange.sameNews_send id (c.request stamp)
    simp only
    generalize s.exchange.send id (c.request stamp) = sent at news ⊢
    obtain ⟨_ | taken, x⟩ := sent <;> exact ensues_exchange news

end Scene

/-- The mark of a process that has exited stays. -/
theorem Child.exited_reapOnce {c : Child} (exited : c.process.exited = true) :
    (c.reap 1).process.exited = true := by
  obtain ⟨⟨_, code, requested, called, reaper, watches⟩, program⟩ := c
  simp only at exited
  subst exited
  cases reaper <;> cases program <;> cases requested <;> cases called <;> rfl

theorem Child.exited_settle {c : Child} (exited : c.process.exited = true) (now : Nat) :
    (c.settle now).process.exited = true := by
  have reaped := @reap_keeps (fun c => c.process.exited = true) (fun _ => exited_reapOnce) 16 c exited
  exact (c.settle_eq now).1.trans reaped

namespace Premises

/-- The news are those of the process that is being supervised. -/
def Informed (p : Premises) : Prop := p.scene.exchange.kernelAlive = p.isAlive

/-- What lies behind as the premises go on: the same process is being supervised, a process that has exited
remains so, every client stays, and the news are kept up. -/
structure Ensues (p p' : Premises) : Prop where
  refused : p'.scene.exchange.refused = p.scene.exchange.refused
  owned : ∀ i known, p.scene.owned? i = some known → p'.scene.owned? i = some known
  slot : p'.slot = p.slot
  processes : ∀ child process, p.process? child = some process →
    ∃ process', p'.process? child = some process' ∧ (process.exited = true → process'.exited = true)
  informed : p.Informed → p'.Informed

variable {p p' p'' : Premises}

theorem Ensues.refl (p : Premises) : Ensues p p :=
  ⟨rfl, fun _ _ here => here, rfl, fun _ process here => ⟨process, here, id⟩, id⟩

theorem Ensues.trans (one : Ensues p p') (two : Ensues p' p'') : Ensues p p'' where
  refused := two.refused.trans one.refused
  owned i known here := two.owned i known (one.owned i known here)
  slot := two.slot.trans one.slot
  processes child process here := by
    obtain ⟨process', there, exited⟩ := one.processes child process here
    obtain ⟨process'', last, exited'⟩ := two.processes child process' there
    exact ⟨process'', last, exited' ∘ exited⟩
  informed before := two.informed (one.informed before)

theorem informed_inform (p : Premises) : p.inform.Informed := rfl

end Premises

/-- Only the scene goes on. -/
theorem Scene.Ensues.premises {p : Premises} {scene : Scene} (ensues : p.scene.Ensues scene) :
    Premises.Ensues p { p with scene := scene } where
  refused := ensues.news.refused
  owned := ensues.owned
  slot := rfl
  processes _ process here := ⟨process, here, id⟩
  informed before := ensues.news.kernelAlive.trans before

namespace Premises

variable {p p' : Premises}

theorem isAlive_congr (slot : p'.slot = p.slot)
    (same : ∀ child, (p'.process? child).map (·.exited) = (p.process? child).map (·.exited)) :
    p'.isAlive = p.isAlive := by
  have seen (o : Option KernelProcess) : o.any (·.isAlive) = (o.map (·.exited)).any (!·) := by
    cases o <;> rfl
  unfold isAlive supervised
  rw [slot]
  cases p.slot with
  | none => rfl
  | some child => rw [Option.bind_some, Option.bind_some, seen, seen, same child]

/-- Nobody has exited, and nothing else has changed that the clients see. -/
theorem ensues_children (scene : p'.scene = p.scene) (slot : p'.slot = p.slot)
    (same : ∀ child, (p'.process? child).map (·.exited) = (p.process? child).map (·.exited)) : Ensues p p' where
  refused := by rw [scene]
  owned i known here := by rwa [scene]
  slot := slot
  processes child process here := by
    have there := same child
    rw [here] at there
    obtain ⟨process', found, exited⟩ := Option.map_eq_some_iff.mp there
    exact ⟨process', found, fun before => exited.trans before⟩
  informed before := by
    unfold Informed
    rw [scene, isAlive_congr slot same]
    exact before

theorem ensues_identifier (p : Premises) : Ensues p p.identifier.2 := ensues_children rfl rfl fun _ => rfl

theorem ensues_stamp (p : Premises) : Ensues p p.stamp.2 := ensues_children rfl rfl fun _ => rfl

theorem ensues_runPrograms (p : Premises) : Ensues p p.runPrograms := by
  -- a program that ends does not mark its process; the task that waits for it does so when it settles
  refine ensues_children rfl rfl fun child => ?_
  have each := p.forall₂_runPrograms
  unfold process?
  generalize p.children = before, p.runPrograms.children = after at each ⊢
  induction each generalizing child with
  | nil => rfl
  | cons ran _ ih =>
    obtain ⟨tree, rfl⟩ := ran
    cases child with
    | zero => rfl
    | succ child => exact ih child

theorem ensues_settleProcesses (p : Premises) : Ensues p p.settleProcesses where
  refused := rfl
  owned _ _ here := here
  slot := rfl
  processes child process here := by
    obtain ⟨c, found, rfl⟩ := Option.map_eq_some_iff.mp here
    refine ⟨(c.settle p.now).process, ?_, fun exited => c.exited_settle exited p.now⟩
    simp [process?, settleProcesses, inform, found]
  informed _ := informed_inform _

theorem ensues_settle (p : Premises) : Ensues p p.settle :=
  (p.ensues_runPrograms.trans (ensues_settleProcesses _)).trans (Scene.ensues_settle _).premises

theorem ensues_pass (ms : Nat) (p : Premises) : Ensues p (pass ms p) := by
  unfold pass
  induction ms with
  | zero => exact .refl p
  | succ ms ih =>
    rw [Nat.repeat]
    generalize Nat.repeat _ ms p = q at ih ⊢
    exact (ih.trans (q.scene.ensues_pass 1).premises).trans (ensues_settle _)

theorem ensues_await (p : Premises) (done : Premises → Bool) (budget pause : Nat) :
    Ensues p (p.await done budget pause).2 :=
  @Clock.await_keeps _ clock (Ensues p) (fun ms q before => before.trans (q.ensues_pass ms)) done budget pause p
    (.refl p)

theorem ensues_awaitWatch (p : Premises) (child watch budget : Nat) :
    Ensues p (p.awaitWatch child watch budget).2 := by
  have waited := p.settleProcesses.ensues_await (fun p => ((p.process? child).bind (·.answer? watch)).isSome)
    (budget + 1) 1
  unfold awaitWatch
  exact p.ensues_settleProcesses.trans waited

/-- Somebody does something about a process that does not end it. -/
theorem ensues_onProcess {child : Nat} {f : KernelProcess → KernelProcess}
    (same : ∀ process, p.process? child = some process → (f process).exited = process.exited) :
    Ensues p (p.onProcess child f) := by
  refine ensues_children rfl rfl fun other => ?_
  unfold process? at same ⊢
  simp only [onProcess, List.getElem?_modify]
  by_cases here : child = other
  · subst here
    cases found : p.children[child]? with
    | none => simp
    | some c => simp [same c.process (by simp [found])]
  · simp [here]

theorem ensues_waitForExit (p : Premises) (child budget : Nat) : Ensues p (p.waitForExit child budget).2 := by
  unfold waitForExit
  cases found : p.process? child with
  | none => exact .refl p
  | some process =>
    have enlisted : Ensues p (p.onProcess child fun _ => (process.watch (some (p.now + budget))).2) := by
      refine ensues_onProcess fun other there => ?_
      cases found.symm.trans there
      rfl
    exact enlisted.trans (ensues_awaitWatch ..)

theorem exited_kill (q : KernelProcess) (deadline : Nat) : (q.kill deadline).2.exited = q.exited := by
  unfold KernelProcess.kill
  split
  · rfl
  · obtain ⟨exited, code, requested, called, reaper, watches⟩ := q
    cases reaper <;> rfl

theorem ensues_kill (p : Premises) (child budget : Nat) : Ensues p (p.kill child budget).2 := by
  unfold kill
  cases found : p.process? child with
  | none => exact .refl p
  | some process =>
    have asked : Ensues p (p.onProcess child fun _ => (process.kill (p.now + budget)).2) := by
      refine ensues_onProcess fun other there => ?_
      cases found.symm.trans there
      exact exited_kill process _
    simp only
    generalize process.kill (p.now + budget) = killed at asked ⊢
    obtain ⟨_ | watch, process'⟩ := killed
    · exact .refl p
    · exact asked.trans (ensues_awaitWatch ..)

end Premises
end KernelLink
