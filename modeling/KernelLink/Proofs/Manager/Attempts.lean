import KernelLink.Proofs.Manager.Connecting
import KernelLink.Proofs.Manager.Liveness
import KernelLink.Proofs.Client.Stopping
import KernelLink.Proofs.Rehearsal.Passing

namespace KernelLink
namespace Connecting

theorem Idles.refl (c : Client) : Idles c c := ⟨rfl, rfl, rfl, id⟩

theorem Idles.trans {c c' c'' : Client} (one : Idles c c') (two : Idles c' c'') : Idles c c'' where
  channels := two.channels.trans one.channels
  pulse := two.pulse.trans one.pulse
  stopping := two.stopping.trans one.stopping
  loops none := two.loops (one.loops none)

theorem idles_leave (c : Client) (loop : Nat) : Idles c (c.leave loop) :=
  ⟨rfl, rfl, rfl, fun none => by rw [Client.leave, none]; rfl⟩

theorem idles_setPoll (c : Client) (loop : Nat) (poll : Option Poll) : Idles c (c.setPoll loop poll) :=
  ⟨rfl, rfl, rfl, fun none => by rw [Client.setPoll, none]; rfl⟩

theorem idles_receive (c : Client) (loop : Loop) (a : Except Failure Message) : Idles c (c.receive loop a) := by
  cases a with
  | error failure => exact idles_leave c loop.id
  | ok m =>
    have handled : Idles c (c.handle loop.line.kind m) := ⟨rfl, rfl, rfl, id⟩
    exact handled.trans (idles_setPoll _ loop.id none)

theorem idles_joinLoops (c : Client) : Idles c c.joinLoops := by
  unfold Client.joinLoops
  induction c.loops generalizing c with
  | nil => exact .refl c
  | cons loop rest ih => exact (idles_leave c loop.id).trans (ih (c.leave loop.id))

/-- If a party is a client, it goes on by itself. -/
def Party.Idles (p p' : Party) : Prop := ∀ c, p = .client c → ∃ c', p' = .client c' ∧ Connecting.Idles c c'

theorem idles_takeArrival (p : Party) (x : Exchange) (l : Loop) : Party.Idles p (p.takeArrival x l).1 := by
  rintro c rfl
  simp only [KernelLink.Party.takeArrival, Client.takeArrival]
  rcases x.take l.line with ⟨_ | a, x'⟩
  · exact ⟨c, rfl, .refl c⟩
  · exact ⟨_, rfl, idles_receive c l a⟩

theorem idles_lookAround (p : Party) (x : Exchange) (l : Loop) : Party.Idles p (p.lookAround x l).1 := by
  rintro c rfl
  simp only [KernelLink.Party.lookAround, Client.lookAround]
  split
  · exact ⟨_, rfl, idles_setPoll c l.id _⟩
  · exact ⟨_, rfl, idles_leave c l.id⟩

theorem idles_expire (p : Party) (now : Nat) : Party.Idles p (p.expire now) := by
  rintro c rfl
  exact ⟨_, rfl, rfl, rfl, rfl, fun none => by simp [none]⟩

/-- A scene that goes on by itself: lines and probes run as before, and the clients have not got any that are
new. Nobody comes. -/
structure SceneIdles (s s' : Scene) : Prop where
  parties : s'.parties.length = s.parties.length
  now : s.exchange.now ≤ s'.exchange.now
  steady : s.exchange.Steady s'.exchange
  clients : ∀ {i c}, s.client? i = some c → ∃ c', s'.client? i = some c' ∧ Idles c c'

theorem SceneIdles.refl (s : Scene) : SceneIdles s s :=
  ⟨rfl, Nat.le_refl _, .refl _, fun here => ⟨_, here, .refl _⟩⟩

theorem SceneIdles.trans {s s' s'' : Scene} (one : SceneIdles s s') (two : SceneIdles s' s'') : SceneIdles s s'' where
  parties := two.parties.trans one.parties
  now := Nat.le_trans one.now two.now
  steady := one.steady.trans two.steady
  clients here := by
    obtain ⟨c', there, idles⟩ := one.clients here
    obtain ⟨c'', there, idles'⟩ := two.clients there
    exact ⟨c'', there, idles.trans idles'⟩

theorem party_of_client? {s : Scene} {i : Nat} {c : Client} (here : s.client? i = some c) :
    s.parties[i]? = some (.client c) := by
  unfold Scene.client? at here
  split at here
  · rename_i found
    cases here
    exact found
  · cases here

theorem client?_of_party {s : Scene} {i : Nat} {c : Client} (here : s.parties[i]? = some (.client c)) :
    s.client? i = some c := by
  simp only [Scene.client?, here]

theorem sceneIdles_setParty {s : Scene} {i : Nat} {p p' : Party} (here : s.parties[i]? = some p)
    (idles : Party.Idles p p') {x : Exchange} (now : s.exchange.now ≤ x.now) (steady : s.exchange.Steady x) :
    SceneIdles s (s.setParty i p' x) := by
  refine ⟨List.length_set, now, steady, fun {j c} found => ?_⟩
  have inside := (List.getElem?_eq_some_iff.mp here).1
  by_cases same : i = j
  · subst same
    obtain ⟨c', rfl, went⟩ := idles c (Option.some.inj (here.symm.trans (party_of_client? found)))
    exact ⟨c', client?_of_party (List.getElem?_set_self inside), went⟩
  · exact ⟨c, client?_of_party ((List.getElem?_set_ne same).trans (party_of_client? found)), .refl c⟩

theorem steady_arriveAll (due : List (Nat × LineId × Except Failure Message)) (x : Exchange) :
    x.Steady (due.foldl (fun x (_, id, a) => x.arrive id a) x) ∧
      (due.foldl (fun x (_, id, a) => x.arrive id a) x).now = x.now := by
  induction due generalizing x with
  | nil => exact ⟨.refl x, rfl⟩
  | cons first rest ih =>
    obtain ⟨steady, now⟩ := ih (x.arrive first.2.1 first.2.2)
    have arrived : x.Steady (x.arrive first.2.1 first.2.2) := x.steady_setLine first.2.1 rfl
    exact ⟨arrived.trans steady, now⟩

theorem habit_idles : Scene.Habit SceneIdles where
  refl := .refl
  trans := .trans
  take {s i p l} here _ _ := by
    have steady := s.exchange.steady_take l.line
    have now := s.exchange.now_take l.line
    rw [← p.exchange_takeArrival] at steady now
    exact sceneIdles_setParty here (idles_takeArrival p s.exchange l) (Nat.le_of_eq now.symm) steady
  look {s i p l} here _ _ := by
    have idles := idles_lookAround p s.exchange l
    rcases p.exchange_lookAround s.exchange l with same | same <;> rw [same]
    · exact sceneIdles_setParty here idles (Nat.le_refl _) (.refl _)
    · exact sceneIdles_setParty here idles (Nat.le_refl s.exchange.now) s.exchange.steady_takeTurn
  moveTo s t := by
    refine ⟨List.length_map _, Nat.le_max_left .., ⟨fun _ => rfl, fun _ => rfl, Nat.le_refl _⟩, fun {i c} here => ?_⟩
    obtain ⟨c', same, idles⟩ := idles_expire (.client c) (max s.exchange.now t) c rfl
    refine ⟨c', client?_of_party ?_, idles⟩
    rw [Scene.moveTo, List.getElem?_map, party_of_client? here]
    exact congrArg some same
  deliver s := by
    unfold Scene.deliver
    generalize s.arrivals.partition _ = parted
    obtain ⟨due, later⟩ := parted
    obtain ⟨steady, now⟩ := steady_arriveAll due s.exchange
    exact ⟨rfl, Nat.le_of_eq now.symm, steady, fun here => ⟨_, here, .refl _⟩⟩
  rest s now later := ⟨rfl, later, ⟨fun _ => rfl, fun _ => rfl, Nat.le_refl _⟩, fun here => ⟨_, here, .refl _⟩⟩

theorem sceneIdles_inform (p : Premises) : SceneIdles p.scene p.inform.scene :=
  ⟨rfl, Nat.le_refl _, ⟨fun _ => rfl, fun _ => rfl, Nat.le_refl _⟩, fun here => ⟨_, here, .refl _⟩⟩

theorem sceneIdles_settle (p : Premises) : SceneIdles p.scene p.settle.scene := by
  have told : SceneIdles p.scene p.runPrograms.settleProcesses.scene :=
    sceneIdles_inform ({ p.runPrograms with
      children := p.runPrograms.children.map fun c => c.settle p.runPrograms.now } : Premises)
  exact told.trans (habit_idles.settle _)

theorem sceneIdles_pass (ms : Nat) (p : Premises) : SceneIdles p.scene (Premises.pass ms p).scene := by
  unfold Premises.pass
  induction ms with
  | zero => exact .refl p.scene
  | succ ms ih =>
    rw [Nat.repeat]
    generalize Nat.repeat _ ms p = q at ih ⊢
    have passed := ih.trans (habit_idles.pass q.scene 1)
    generalize q.scene.pass 1 = later at passed ⊢
    exact passed.trans (sceneIdles_settle { q with scene := later })

variable {s t : Supervision} {stage stage' : Stage} {attempts wait left client : Nat} {why : Option Failure}

theorem SceneIdles.meanwhile {p : Premises} (idles : SceneIdles t.premises.scene p.scene) (o : Opened) :
    Meanwhile o t { t with premises := p } where
  now := idles.now
  clients _ _ _ here := idles.clients here
  lines id _ running := (idles.steady.lines id).symm.trans running
  pulses id _ running := (idles.steady.pulses id).symm.trans running

/-- Whoever has come meanwhile is a client that has been opened. -/
structure Alone (o : Opened) (s t : Supervision) : Prop where
  count : t.premises.scene.parties.length = s.premises.scene.parties.length + o.clients.length
  opened : ∀ i, s.premises.scene.parties.length ≤ i → i < t.premises.scene.parties.length → i ∈ o.clients

theorem Alone.stays {o more : Opened} {t' : Supervision} (alone : Alone o s t) (none : more.clients = [])
    (same : t'.premises.scene.parties.length = t.premises.scene.parties.length) : Alone (o.and more) s t' := by
  have clients : (o.and more).clients = o.clients := by simp only [Opened.and, none, List.append_nil]
  refine ⟨?_, fun i after before => ?_⟩
  · rw [clients, same, alone.count]
  · rw [clients]
    exact alone.opened i after (same ▸ before)

theorem Alone.act {o more : Opened} {further : List Attempt} {t' : Supervision} {total : Nat}
    (alone : Alone o s t) (act : Act wait total t stage more further t' stage') : Alone (o.and more) s t' := by
  cases act with
  | made id stamp may =>
    have one (c : Client) : (t.join c).premises.scene.parties.length = t.premises.scene.parties.length + 1 :=
      List.length_append
    have count := alone.count
    refine ⟨?_, fun i after before => ?_⟩
    · simp only [one, Opened.and, List.length_append, List.length_singleton]
      omega
    · rw [one] at before
      by_cases last : i = t.premises.scene.parties.length
      · exact List.mem_append_right _ (List.mem_singleton.mpr last)
      · exact List.mem_append_left _ (alone.opened i after (by omega))
  | done | failed | told | hungUp | quieted => exact alone.stays rfl List.length_set
  | _ => exact alone.stays rfl rfl

/-- The call comes to a stage in the course of some run in which nobody else has come. -/
def Reaches (attempts wait : Nat) (s t : Supervision) (stage : Stage) : Prop :=
  ∃ steps o made, Run attempts wait s steps o made t stage ∧ Alone o s t

theorem Reaches.act {more : Opened} {further : List Attempt} {t' : Supervision}
    (reaches : Reaches attempts wait s t stage) (act : Act wait (max attempts 1) t stage more further t' stage') :
    Reaches attempts wait s t' stage' := by
  obtain ⟨steps, o, made, run, alone⟩ := reaches
  exact ⟨_, _, _, run.act act, alone.act act⟩

theorem Reaches.idles (reaches : Reaches attempts wait s t stage) {p : Premises}
    (idles : SceneIdles t.premises.scene p.scene) : Reaches attempts wait s { t with premises := p } stage := by
  obtain ⟨steps, o, made, run, alone⟩ := reaches
  have still : Alone (o.and .nothing) s { t with premises := p } := alone.stays rfl idles.parties
  rw [and_nothing] at still
  exact ⟨_, _, _, run.meanwhile (idles.meanwhile o), still⟩

theorem Reaches.exists_client (reaches : Reaches attempts wait s t stage) (busy : stage.client? = some client) :
    ∃ c, t.client? client = some c := by
  obtain ⟨steps, o, made, run, -⟩ := reaches
  obtain ⟨-, c, here, -⟩ := run.sound.here client busy
  exact ⟨c, here⟩

theorem any_connected {c : Client} (here : t.client? client = some c) :
    (t.premises.scene.client? client).any (·.connected) = c.connected :=
  congrArg (Option.any (·.connected)) here

/-- Whoever looks again after every pause, until the client is connected or the time is over, goes through these
stages. -/
theorem Reaches.awaits {due : Nat}
    (reaches : Reaches attempts wait s t (.looking left client (t.premises.now + wait) due))
    (now : due ≤ t.premises.now) {found : Bool} {p : Premises}
    (waited : t.premises.await (fun p => (p.scene.client? client).any (·.connected)) wait Supervision.clientPause =
      (found, p)) :
    Reaches attempts wait s { t with premises := p }
      (if found then .returned (.ok client) else .telling left client none) := by
  refine Clock.await_leads
    (fun p => ∃ due ≤ p.now, Reaches attempts wait s { t with premises := p }
      (.looking left client (t.premises.now + wait) due))
    (fun found p => Reaches attempts wait s { t with premises := p }
      (if found then .returned (.ok client) else .telling left client none))
    waited Premises.now_pass ?_ ?_ ?_ ⟨due, now, reaches⟩
  · rintro p ⟨due, now, looking⟩ connected
    obtain ⟨c, here⟩ := looking.exists_client rfl
    exact looking.act (.connected now here ((any_connected here).symm.trans connected))
  · rintro p ⟨due, now, looking⟩ silent late
    obtain ⟨c, here⟩ := looking.exists_client rfl
    exact (looking.act (.silent now here ((any_connected here).symm.trans silent))).act (.gaveUp late)
  · rintro p ⟨due, now, looking⟩ silent early
    obtain ⟨c, here⟩ := looking.exists_client rfl
    have doubting := looking.act (.silent now here ((any_connected here).symm.trans silent))
    have slept := (doubting.act (.paused early)).idles (sceneIdles_pass (max Supervision.clientPause 1) p)
    have later := Premises.now_pass (max Supervision.clientPause 1) p
    exact ⟨_, Nat.le_of_eq later.symm, slept⟩

theorem place_place (s : Supervision) (i : Nat) (c c' : Client) (x x' : Exchange) :
    (s.place i c x).place i c' x' = s.place i c' x' := by
  simp only [Supervision.place, Scene.setParty, List.set_set]

theorem place_self {i : Nat} {c : Client} (here : s.client? i = some c) : s.place i c s.exchange = s := by
  have party := party_of_client? here
  obtain ⟨inside, same⟩ := List.getElem?_eq_some_iff.mp party
  simp only [Supervision.place, Scene.setParty, ← same, List.set_getElem_self]
  rfl

theorem client?_placed {i : Nat} {old : Client} (here : s.client? i = some old) (c : Client) (x : Exchange) :
    (s.place i c x).client? i = some c := by
  rw [client?_place here, if_pos rfl]

/-- The loops of a client end. -/
theorem Reaches.joins {c : Client} {x : Exchange} (reaches : Reaches attempts wait s (t.place client c x) stage)
    {old : Client} (here : t.client? client = some old) :
    Reaches attempts wait s (t.place client c.joinLoops x) stage := by
  have placed : (t.place client c x).premises.scene.parties[client]? = some (.client c) :=
    party_of_client? (client?_placed here c x)
  have ended : Party.Idles (.client c) (.client c.joinLoops) := by
    rintro d same
    cases same
    exact ⟨_, rfl, idles_joinLoops c⟩
  have idles := sceneIdles_setParty placed ended (Nat.le_refl x.now) (.refl x)
  have next := @Reaches.idles _ _ _ _ _ reaches ((t.place client c x).place client c.joinLoops x).premises idles
  have same := place_place t client c c.joinLoops x x
  rw [← same]
  exact next

theorem stopClient_eq {c : Client} (here : t.client? client = some c) :
    t.stopClient client = t.place client (c.stop t.exchange).1 (c.stop t.exchange).2 := by
  have found : t.premises.scene.client? client = some c := here
  unfold Supervision.stopClient Scene.withClient
  rw [found]
  rfl

/-- The client is stopped in four steps, between which its loops end. -/
theorem Reaches.stops (reaches : Reaches attempts wait s t (.telling left client why)) :
    Reaches attempts wait s (t.stopClient client) (.judging left why) := by
  obtain ⟨c, here⟩ := reaches.exists_client rfl
  have told := reaches.act (.told here)
  have hungUp := told.act (.hungUp (client?_placed here c.beginStop t.exchange))
  rw [place_place] at hungUp
  have quieted := hungUp.act (.quieted (client?_placed here _ _))
  rw [place_place] at quieted
  have joined := quieted.joins here
  have judged := joined.act (.joined (client?_placed here _ _) (Client.loops_joinLoops _))
  rw [stopClient_eq here]
  exact judged

/-- Where the start of a client leads. -/
def performed? (left client : Nat) (stamp : Stamp) : Except Failure Unit → Stage
  | .ok () => .starting left client stamp []
  | .error failure => .telling left client (some failure)

/-- The one thing after the other is done to start the client. -/
theorem Reaches.performs {stamp : Stamp} {chores : List Chore} {c : Client} (here : t.client? client = some c)
    (reaches : Reaches attempts wait s t (.starting left client stamp chores)) :
    ∃ answer c' x, c.performAll stamp t.exchange chores = (answer, c', x) ∧
      Reaches attempts wait s (t.place client c' x) (performed? left client stamp answer) := by
  induction chores generalizing t c with
  | nil =>
    refine ⟨_, _, _, rfl, ?_⟩
    rw [place_self here]
    exact reaches
  | cons chore chores ih =>
    rw [Client.performAll]
    rcases did : c.perform stamp t.exchange chore with ⟨failure | _, c', x⟩
    · exact ⟨_, _, _, rfl, reaches.act (.failed here did)⟩
    · obtain ⟨answer, c'', x', rest, reached⟩ := ih (client?_placed here c' x) (reaches.act (.done here did))
      rw [place_place] at reached
      exact ⟨answer, c'', x', rest, reached⟩

/-- Where an attempt to make a client leads. -/
def made? (left wait : Nat) (t : Supervision) : Except Failure Nat → Stage
  | .ok client => .looking left client (t.premises.now + wait) t.premises.now
  | .error failure => .judging left (some failure)

theorem place_join (s : Supervision) (c c' : Client) (x : Exchange) :
    (s.join c).place s.premises.scene.parties.length c' x =
      { s with premises := { s.premises with scene :=
        { s.premises.scene with exchange := x, parties := s.premises.scene.parties ++ [.client c'] } } } := by
  simp only [Supervision.join, Supervision.place, Scene.setParty]
  rw [List.set_append_right _ _ (Nat.le_refl _), Nat.sub_self]
  rfl

theorem Reaches.creates (reaches : Reaches attempts wait s t (.making left)) :
    Reaches attempts wait s t.createClient.2 (made? left wait t.createClient.2 t.createClient.1) := by
  unfold Supervision.createClient
  cases may : t.manager.mayConnect t.process? with
  | error failure => exact reaches.act (.refused may)
  | ok =>
    -- an identifier and a stamp are drawn first, which nobody else can tell
    have drawn : SceneIdles t.premises.scene t.premises.identifier.2.stamp.2.scene := .refl _
    have asked := reaches.idles drawn
    have allowed : t.manager.mayConnect
        ({ t with premises := t.premises.identifier.2.stamp.2 } : Supervision).process? = .ok () := may
    simp only
    generalize t.premises.identifier.1 = id
    generalize t.premises.identifier.2.stamp.1 = stamp
    generalize t.premises.identifier.2.stamp.2 = p at asked allowed ⊢
    have made := asked.act (.made id stamp allowed)
    have here := client?_join (s := { t with premises := p }) (.new (t.manager.newSession id t.username) true)
      p.scene.parties.length
    rw [if_pos rfl] at here
    obtain ⟨answer, c, x, performed, reached⟩ := made.performs here
    have began : (Client.new (t.manager.newSession id t.username) true).start p.scene.exchange .all stamp =
        (answer, c, x) := (Client.start_all stamp _ p.scene.exchange).trans performed
    rw [began]
    have placed := place_join { t with premises := p } (.new (t.manager.newSession id t.username) true)
    cases answer with
    | ok =>
      have looking := reached.act .started
      rw [placed c x] at looking
      exact looking
    | error failure =>
      have stopped := reached.stops
      rw [stopClient_eq (client?_placed here c x), place_place, placed] at stopped
      exact stopped

/-- What is left to be done after an attempt. -/
def tried? (left : Nat) : Except Failure (Option Nat) → Stage
  | .ok (some client) => .returned (.ok client)
  | .ok none => .judging left none
  | .error failure => .judging left (some failure)

theorem Reaches.tries (reaches : Reaches attempts wait s t (.making left)) :
    Reaches attempts wait s (t.attempt wait).2 (tried? left (t.attempt wait).1) := by
  have created := reaches.creates
  unfold Supervision.attempt
  generalize t.createClient = answered at created ⊢
  obtain ⟨failure | client, t'⟩ := answered
  · exact created
  · have looking : Reaches attempts wait s t' (.looking left client (t'.premises.now + wait) t'.premises.now) :=
      created
    rcases waited : t'.premises.await (fun p => (p.scene.client? client).any (·.connected)) wait
      Supervision.clientPause with ⟨found, p⟩
    have reached := looking.awaits (Nat.le_refl _) waited
    simp only [waited]
    cases found with
    | true => exact reached
    | false => exact reached.stops

/-- How a call ends that has made these attempts and has opened so much for them. -/
structure Ended (total : Nat) (o : Opened) (made : List Attempt) (t : Supervision) (result : Except Failure Nat) :
    Prop where
  verdict : Verdict total made result
  attempts : made.length ≤ total
  /-- No attempt has opened two clients. -/
  clients : o.clients.length ≤ made.length
  returned : ∀ i, result = .ok i → i ∈ o.clients
  stopped : ∀ i ∈ o.clients, result ≠ .ok i → Stopped t i
  lines : ∀ id ∈ o.lines, (t.exchange.line id).alive = true →
    ∃ i c, result = .ok i ∧ t.client? i = some c ∧ id ∈ c.channels
  pulses : ∀ id ∈ o.pulses, (t.exchange.pulse id).alive = true →
    ∃ i c, result = .ok i ∧ t.client? i = some c ∧ c.pulse = some id

theorem client?_returned {result : Except Failure Nat} {i : Nat} :
    (Stage.returned result).client? = some i ↔ result = .ok i := by
  cases result with
  | error failure => exact ⟨nofun, nofun⟩
  | ok client => exact ⟨fun same => congrArg Except.ok (Option.some.inj same), fun same => by cases same; rfl⟩

theorem Run.ended {steps : Nat} {o : Opened} {made : List Attempt} {result : Except Failure Nat}
    (run : Run attempts wait s steps o made t (.returned result)) : Ended (max attempts 1) o made t result := by
  obtain ⟨verdict, clients⟩ : Verdict (max attempts 1) made result ∧ o.clients.length ≤ made.length := run.accounts
  obtain ⟨stopped, here, lines, pulses⟩ := run.sound
  simp only [client?_returned] at here lines pulses
  exact ⟨verdict, verdict.length_le, clients, fun i returned => (here i returned).1,
    fun i member other => stopped i member fun busy => other (client?_returned.mp busy), lines, pulses⟩

end Connecting
end KernelLink
