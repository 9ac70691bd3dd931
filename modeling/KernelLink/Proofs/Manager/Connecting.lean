import KernelLink.Proofs.Client.Chores
import KernelLink.Rehearsal.Supervision

namespace KernelLink
namespace Connecting

/-- How far the call has come that tries to connect, and how many attempts are left behind this one. -/
inductive Stage where
  | making (left : Nat)
  /-- A client has been made, and is being started. -/
  | starting (left client : Nat) (stamp : Stamp) (chores : List Chore)
  /-- A look whether the client is connected is due at some time. -/
  | looking (left client deadline due : Nat)
  /-- It was not, and the clock is to be looked at. -/
  | doubting (left client deadline : Nat)
  /-- The client is to be stopped, after a failure or because it has waited in vain. -/
  | telling (left client : Nat) (why : Option Failure)
  | hanging (left client : Nat) (why : Option Failure)
  | quieting (left client : Nat) (why : Option Failure)
  | joining (left client : Nat) (why : Option Failure)
  /-- The attempt has failed, and nothing is left of it. -/
  | judging (left : Nat) (why : Option Failure)
  | returned (result : Except Failure Nat)

/-- What has become of an attempt. After one that failed in a way that another may not, it was looked how the
process had ended, if it had. -/
inductive Attempt where
  | connected (client : Nat)
  | misconfigured (failure : Failure)
  | inVain (why : Option Failure) (exit : Option ExitStatus)

/-- What the call has opened so far, whether it still holds it or not. -/
structure Opened where
  clients : List Nat
  lines : List LineId
  pulses : List Nat

namespace Opened

def nothing : Opened := ⟨[], [], []⟩

def and (o more : Opened) : Opened := ⟨o.clients ++ more.clients, o.lines ++ more.lines, o.pulses ++ more.pulses⟩

/-- What a client holds. -/
def held (c : Client) : Opened := ⟨[], c.channels, c.pulse.toList⟩

end Opened

/-- The client for which something is being done, or that has been returned. -/
def Stage.client? : Stage → Option Nat
  | starting _ client _ _ => some client
  | looking _ client _ _ => some client
  | doubting _ client _ => some client
  | telling _ client _ => some client
  | hanging _ client _ => some client
  | quieting _ client _ => some client
  | joining _ client _ => some client
  | returned (.ok client) => some client
  | _ => none

end Connecting

namespace Supervision

def exchange (s : Supervision) : Exchange := s.premises.scene.exchange

def client? (s : Supervision) (i : Nat) : Option Client := s.premises.scene.client? i

/-- A client has done something. -/
def place (s : Supervision) (i : Nat) (c : Client) (x : Exchange) : Supervision :=
  { s with premises := { s.premises with scene := s.premises.scene.setParty i (.client c) x } }

/-- A client comes to the others. -/
def join (s : Supervision) (c : Client) : Supervision :=
  { s with premises := { s.premises with scene :=
    { s.premises.scene with parties := s.premises.scene.parties ++ [.client c] } } }

end Supervision

namespace Connecting

/-- A client that goes on by itself: it may take in messages, and its loops may end. -/
structure Idles (c c' : Client) : Prop where
  channels : c'.channels = c.channels
  pulse : c'.pulse = c.pulse
  stopping : c'.stopping = c.stopping
  loops : c.loops = [] → c'.loops = []

/-- Whatever else goes on, nobody but the call itself starts or stops what it has opened. Lines may break down. -/
structure Meanwhile (o : Opened) (s t : Supervision) : Prop where
  now : s.premises.now ≤ t.premises.now
  clients : ∀ i ∈ o.clients, ∀ c, s.client? i = some c → ∃ c', t.client? i = some c' ∧ Idles c c'
  lines : ∀ id ∈ o.lines, (t.exchange.line id).alive = true → (s.exchange.line id).alive = true
  pulses : ∀ id ∈ o.pulses, (t.exchange.pulse id).alive = true → (s.exchange.pulse id).alive = true

/-- What the call does next, what it opens thereby, and what it finds out about an attempt. -/
inductive Act (wait total : Nat) (s : Supervision) : Stage → Opened → List Attempt → Supervision → Stage → Prop
  | refused {left failure} : s.manager.mayConnect s.process? = .error failure →
      Act wait total s (.making left) .nothing [] s (.judging left (some failure))
  | made {left} (id : String) (stamp : Stamp) : s.manager.mayConnect s.process? = .ok () →
      Act wait total s (.making left) ⟨[s.premises.scene.parties.length], [], []⟩ []
        (s.join (.new (s.manager.newSession id s.username) true))
        (.starting left s.premises.scene.parties.length stamp Chore.all)
  | cut {left client stamp chore chores process} : s.process? = some process → process.exited = true →
      Act wait total s (.starting left client stamp (chore :: chores)) .nothing [] s
        (.telling left client (some (.kernelExited process.exitCode)))
  | done {left client stamp chore chores c c' x} : s.client? client = some c →
      c.perform stamp s.exchange chore = (.ok (), c', x) →
      Act wait total s (.starting left client stamp (chore :: chores)) (.held c') [] (s.place client c' x)
        (.starting left client stamp chores)
  | failed {left client stamp chore chores c failure c' x} : s.client? client = some c →
      c.perform stamp s.exchange chore = (.error failure, c', x) →
      Act wait total s (.starting left client stamp (chore :: chores)) (.held c') [] (s.place client c' x)
        (.telling left client (some failure))
  | started {left client stamp} : Act wait total s (.starting left client stamp []) .nothing [] s
      (.looking left client (s.premises.now + wait) s.premises.now)
  | connected {left client deadline due c} : due ≤ s.premises.now → s.client? client = some c →
      c.connected = true →
      Act wait total s (.looking left client deadline due) .nothing [.connected client] s (.returned (.ok client))
  | silent {left client deadline due c} : due ≤ s.premises.now → s.client? client = some c →
      c.connected = false →
      Act wait total s (.looking left client deadline due) .nothing [] s (.doubting left client deadline)
  | gaveUp {left client deadline} : deadline ≤ s.premises.now →
      Act wait total s (.doubting left client deadline) .nothing [] s (.telling left client none)
  | paused {left client deadline} : s.premises.now < deadline →
      Act wait total s (.doubting left client deadline) .nothing [] s
        (.looking left client deadline (s.premises.now + Supervision.clientPause))
  | told {left client why c} : s.client? client = some c →
      Act wait total s (.telling left client why) .nothing [] (s.place client c.beginStop s.exchange)
        (.hanging left client why)
  | hungUp {left client why c} : s.client? client = some c →
      Act wait total s (.hanging left client why) .nothing []
        (s.place client (c.stopLines s.exchange).1 (c.stopLines s.exchange).2) (.quieting left client why)
  | quieted {left client why c} : s.client? client = some c →
      Act wait total s (.quieting left client why) .nothing []
        (s.place client (c.stopPulse s.exchange).1 (c.stopPulse s.exchange).2) (.joining left client why)
  | joined {left client why c} : s.client? client = some c → c.loops = [] →
      Act wait total s (.joining left client why) .nothing [] s (.judging left why)
  | misconfigured {left failure} : failure.isConfig = true →
      Act wait total s (.judging left (some failure)) .nothing [.misconfigured failure] s
        (.returned (.error failure))
  | exited {left why status} : (∀ failure, why = some failure → failure.isConfig = false) →
      s.exit? = some status →
      Act wait total s (.judging left why) .nothing [.inVain why (some status)] s
        (.returned (.error (.kernelExited status)))
  | again {left why} : (∀ failure, why = some failure → failure.isConfig = false) → s.exit? = none →
      Act wait total s (.judging (left + 1) why) .nothing [.inVain why none] s (.making left)
  | timedOut {why} : (∀ failure, why = some failure → failure.isConfig = false) → s.exit? = none →
      Act wait total s (.judging 0 why) .nothing [.inVain why none] s
        (.returned (.error (.connectionTimeout total)))

/-- A call that tries to connect in so many attempts: how many steps it has taken itself, what it has opened, and
what has become of its attempts. Anything may go on between any two of its steps. -/
inductive Run (attempts wait : Nat) (s : Supervision) : Nat → Opened → List Attempt → Supervision → Stage → Prop
  | called : Run attempts wait s 0 .nothing [] s (.making (max attempts 1 - 1))
  | meanwhile {steps o made t stage t'} : Run attempts wait s steps o made t stage → Meanwhile o t t' →
      Run attempts wait s steps o made t' stage
  | act {steps o made t stage more further t' stage'} : Run attempts wait s steps o made t stage →
      Act wait (max attempts 1) t stage more further t' stage' →
      Run attempts wait s (steps + 1) (o.and more) (made ++ further) t' stage'

/-- After an attempt that failed another may follow, if the process is running. -/
def Attempt.goesOn : Attempt → Prop
  | inVain why none => ∀ failure, why = some failure → failure.isConfig = false
  | _ => False

/-- What the call answers to the attempts that there have been, of so many at most. -/
inductive Verdict (total : Nat) : List Attempt → Except Failure Nat → Prop
  | connected {before client} : (∀ a ∈ before, a.goesOn) → before.length < total →
      Verdict total (before ++ [.connected client]) (.ok client)
  | misconfigured {before failure} : (∀ a ∈ before, a.goesOn) → before.length < total → failure.isConfig = true →
      Verdict total (before ++ [.misconfigured failure]) (.error failure)
  | exited {before why status} : (∀ a ∈ before, a.goesOn) → before.length < total →
      (∀ failure, why = some failure → failure.isConfig = false) →
      Verdict total (before ++ [.inVain why (some status)]) (.error (.kernelExited status))
  | timedOut {before} : (∀ a ∈ before, a.goesOn) → before.length = total →
      Verdict total before (.error (.connectionTimeout total))

/-- An attempt is under way, or is to be made, and so many are left behind it. -/
structure Pending (total : Nat) (o : Opened) (attempts : List Attempt) (left busy : Nat) : Prop where
  goesOn : ∀ a ∈ attempts, a.goesOn
  count : attempts.length + left + 1 = total
  clients : o.clients.length ≤ attempts.length + busy

/-- At every stage no attempt has opened more than one client. -/
def Accounts (total : Nat) (o : Opened) (attempts : List Attempt) : Stage → Prop
  | .making left => Pending total o attempts left 0
  | .starting left _ _ _ => Pending total o attempts left 1
  | .looking left _ _ _ => Pending total o attempts left 1
  | .doubting left _ _ => Pending total o attempts left 1
  | .telling left _ _ => Pending total o attempts left 1
  | .hanging left _ _ => Pending total o attempts left 1
  | .quieting left _ _ => Pending total o attempts left 1
  | .joining left _ _ => Pending total o attempts left 1
  | .judging left _ => Pending total o attempts left 1
  | .returned result => Verdict total attempts result ∧ o.clients.length ≤ attempts.length

variable {wait total left client : Nat} {why : Option Failure} {s t : Supervision} {o more : Opened}
  {made further : List Attempt} {stage stage' : Stage}

theorem Verdict.length_le {result : Except Failure Nat} (verdict : Verdict total made result) :
    made.length ≤ total := by
  cases verdict with
  | connected goesOn early | misconfigured goesOn early config | exited goesOn early apt =>
    rw [List.length_append, List.length_singleton]
    exact early
  | timedOut goesOn last => exact Nat.le_of_eq last

/-- A step that makes no client and ends no attempt. -/
theorem Pending.stays {left busy : Nat} (pending : Pending total o made left busy) (same : more.clients = [])
    {busy' : Nat} (more_busy : busy ≤ busy') : Pending total (o.and more) (made ++ []) left busy' := by
  obtain ⟨goesOn, count, clients⟩ := pending
  rw [List.append_nil]
  refine ⟨goesOn, count, ?_⟩
  simp only [Opened.and, same, List.append_nil]
  omega

theorem Pending.judged {left : Nat} (pending : Pending total o made left 1) (a : Attempt) :
    (o.and .nothing).clients.length ≤ (made ++ [a]).length := by
  have clients := pending.clients
  simpa only [Opened.and, Opened.nothing, List.append_nil, List.length_append, List.length_singleton] using clients

theorem Pending.early {left busy : Nat} (pending : Pending total o made left busy) : made.length < total := by
  have count := pending.count
  omega

theorem goesOn_snoc (goesOn : ∀ a ∈ made, a.goesOn) {why : Option Failure}
    (apt : ∀ failure, why = some failure → failure.isConfig = false) :
    ∀ a ∈ made ++ [.inVain why none], a.goesOn := by
  intro a member
  rcases List.mem_append.mp member with before | last
  · exact goesOn a before
  · obtain rfl := List.mem_singleton.mp last
    exact apt

theorem Act.accounts (act : Act wait total s stage more further t stage') (accounts : Accounts total o made stage) :
    Accounts total (o.and more) (made ++ further) stage' := by
  cases act with
  | refused => exact accounts.stays rfl (Nat.zero_le 1)
  | made id stamp may =>
    obtain ⟨goesOn, count, clients⟩ := accounts
    rw [List.append_nil]
    refine ⟨goesOn, count, ?_⟩
    simpa only [Opened.and, List.length_append, List.length_singleton] using Nat.add_le_add_right clients 1
  | cut | done | failed | started | silent | gaveUp | paused | told | hungUp | quieted | joined =>
    exact accounts.stays rfl (Nat.le_refl 1)
  | connected => exact ⟨.connected accounts.goesOn accounts.early, accounts.judged _⟩
  | misconfigured config => exact ⟨.misconfigured accounts.goesOn accounts.early config, accounts.judged _⟩
  | exited apt exit => exact ⟨.exited accounts.goesOn accounts.early apt, accounts.judged _⟩
  | again apt exit =>
    have count := accounts.count
    refine ⟨goesOn_snoc accounts.goesOn apt, ?_, accounts.judged _⟩
    rw [List.length_append, List.length_singleton]
    omega
  | timedOut apt exit =>
    have count := accounts.count
    refine ⟨.timedOut (goesOn_snoc accounts.goesOn apt) ?_, accounts.judged _⟩
    rw [List.length_append, List.length_singleton]
    omega

variable {attempts steps : Nat}

theorem Run.accounts (run : Run attempts wait s steps o made t stage) :
    Accounts (max attempts 1) o made stage := by
  induction run with
  | called => exact ⟨nofun, by simp only [List.length_nil]; omega, Nat.le_refl 0⟩
  | meanwhile _ _ ih => exact ih
  | act _ act ih => exact act.accounts ih

/-- How far a client has been stopped at a stage. -/
def Stage.Fits (c : Client) : Stage → Prop
  | hanging _ _ _ => c.stopping = true
  | quieting _ _ _ => c.stopping = true ∧ c.channels = []
  | joining _ _ _ => c.stopping = true ∧ c.channels = [] ∧ c.pulse = none
  | _ => True

/-- A client that has been stopped: it holds nothing, and no loop works for it. -/
def Stopped (s : Supervision) (i : Nat) : Prop :=
  ∃ c, s.client? i = some c ∧ c.channels = [] ∧ c.pulse = none ∧ c.loops = [] ∧ c.stopping = true

/-- Every client has been stopped but the one that is being dealt with, and of all that has been opened only what
this one holds is running. -/
structure Sound (o : Opened) (s : Supervision) (stage : Stage) : Prop where
  stopped : ∀ i ∈ o.clients, stage.client? ≠ some i → Stopped s i
  here : ∀ i, stage.client? = some i → i ∈ o.clients ∧ ∃ c, s.client? i = some c ∧ stage.Fits c
  lines : ∀ id ∈ o.lines, (s.exchange.line id).alive = true →
    ∃ i c, stage.client? = some i ∧ s.client? i = some c ∧ id ∈ c.channels
  pulses : ∀ id ∈ o.pulses, (s.exchange.pulse id).alive = true →
    ∃ i c, stage.client? = some i ∧ s.client? i = some c ∧ c.pulse = some id

theorem lt_of_client? {i : Nat} {c : Client} (here : s.client? i = some c) :
    i < s.premises.scene.parties.length := by
  unfold Supervision.client? Scene.client? at here
  split at here
  · rename_i found
    exact (List.getElem?_eq_some_iff.mp found).1
  · cases here

theorem client?_place {i : Nat} {old : Client} (here : s.client? i = some old) (c : Client) (x : Exchange) (j : Nat) :
    (s.place i c x).client? j = if j = i then some c else s.client? j := by
  have inside := lt_of_client? here
  unfold Supervision.place Supervision.client? Scene.client? Scene.setParty
  by_cases same : j = i
  · simp only [same, List.getElem?_set_self inside, if_true]
  · simp only [List.getElem?_set_ne (Ne.symm same), same, if_false]

theorem client?_join (c : Client) (j : Nat) : (s.join c).client? j =
    if j = s.premises.scene.parties.length then some c else s.client? j := by
  unfold Supervision.join Supervision.client? Scene.client?
  simp only [List.getElem?_append]
  by_cases last : j = s.premises.scene.parties.length
  · simp [last]
  · by_cases inside : j < s.premises.scene.parties.length
    · simp [inside, last]
    · have outside : s.premises.scene.parties.length < j := by omega
      have apart : j - s.premises.scene.parties.length ≠ 0 := by omega
      simp [inside, last, apart]

theorem Idles.stopped {c c' : Client} (idles : Idles c c')
    (stopped : c.channels = [] ∧ c.pulse = none ∧ c.loops = [] ∧ c.stopping = true) :
    c'.channels = [] ∧ c'.pulse = none ∧ c'.loops = [] ∧ c'.stopping = true := by
  obtain ⟨channels, pulse, loops, stopping⟩ := stopped
  exact ⟨idles.channels.trans channels, idles.pulse.trans pulse, idles.loops loops, idles.stopping.trans stopping⟩

theorem Idles.fits {c c' : Client} (idles : Idles c c') (fits : stage.Fits c) : stage.Fits c' := by
  cases stage with
  | hanging => exact idles.stopping.trans fits
  | quieting => exact ⟨idles.stopping.trans fits.1, idles.channels.trans fits.2⟩
  | joining => exact ⟨idles.stopping.trans fits.1, idles.channels.trans fits.2.1, idles.pulse.trans fits.2.2⟩
  | _ => trivial

theorem Sound.meanwhile (sound : Sound o s stage) (goes : Meanwhile o s t) : Sound o t stage where
  stopped i member other := by
    obtain ⟨c, here, stopped⟩ := sound.stopped i member other
    obtain ⟨c', there, idles⟩ := goes.clients i member c here
    exact ⟨c', there, idles.stopped stopped⟩
  here i busy := by
    obtain ⟨member, c, here, fits⟩ := sound.here i busy
    obtain ⟨c', there, idles⟩ := goes.clients i member c here
    exact ⟨member, c', there, idles.fits fits⟩
  lines id member running := by
    obtain ⟨i, c, busy, here, held⟩ := sound.lines id member (goes.lines id member running)
    obtain ⟨c', there, idles⟩ := goes.clients i (sound.here i busy).1 c here
    exact ⟨i, c', busy, there, idles.channels ▸ held⟩
  pulses id member running := by
    obtain ⟨i, c, busy, here, held⟩ := sound.pulses id member (goes.pulses id member running)
    obtain ⟨c', there, idles⟩ := goes.clients i (sound.here i busy).1 c here
    exact ⟨i, c', busy, there, idles.pulse.trans held⟩

/-- What is running of what has been opened, is held by the client that is being dealt with. -/
theorem Sound.mem_channels (sound : Sound o s stage) {client : Nat} {c : Client} (busy : stage.client? = some client)
    (here : s.client? client = some c) {id : LineId} (member : id ∈ o.lines)
    (running : (s.exchange.line id).alive = true) : id ∈ c.channels := by
  obtain ⟨i, d, busy', there, held⟩ := sound.lines id member running
  obtain rfl := Option.some.inj (busy.symm.trans busy')
  obtain rfl := Option.some.inj (here.symm.trans there)
  exact held

theorem Sound.pulse_eq (sound : Sound o s stage) {client : Nat} {c : Client} (busy : stage.client? = some client)
    (here : s.client? client = some c) {id : Nat} (member : id ∈ o.pulses)
    (running : (s.exchange.pulse id).alive = true) : c.pulse = some id := by
  obtain ⟨i, d, busy', there, held⟩ := sound.pulses id member running
  obtain rfl := Option.some.inj (busy.symm.trans busy')
  obtain rfl := Option.some.inj (here.symm.trans there)
  exact held

theorem Sound.fits (sound : Sound o s stage) {client : Nat} {c : Client} (busy : stage.client? = some client)
    (here : s.client? client = some c) : stage.Fits c := by
  obtain ⟨-, d, there, fits⟩ := sound.here client busy
  obtain rfl := Option.some.inj (here.symm.trans there)
  exact fits

/-- The client that is being dealt with does something. -/
theorem Sound.place (sound : Sound o s stage) {i : Nat} {old c : Client} {x : Exchange}
    (busy : stage.client? = some i) (next : stage'.client? = some i) (here : s.client? i = some old)
    (none : more.clients = []) (fits : stage'.Fits c)
    (lines : ∀ id ∈ o.lines ++ more.lines, (x.line id).alive = true → id ∈ c.channels)
    (pulses : ∀ id ∈ o.pulses ++ more.pulses, (x.pulse id).alive = true → c.pulse = some id) :
    Sound (o.and more) (s.place i c x) stage' := by
  have mine : (s.place i c x).client? i = some c := by rw [client?_place here, if_pos rfl]
  refine ⟨fun j member other => ?_, fun j same => ?_, fun id member running => ?_, fun id member running => ?_⟩
  · simp only [Opened.and, none, List.append_nil] at member
    have apart : j ≠ i := fun same => other (by rw [next, same])
    have others : stage.client? ≠ some j := fun same => apart (Option.some.inj (same.symm.trans busy))
    obtain ⟨d, there, stopped⟩ := sound.stopped j member others
    exact ⟨d, by rw [client?_place here, if_neg apart, there], stopped⟩
  · obtain rfl := Option.some.inj (next.symm.trans same)
    have member := (sound.here i busy).1
    exact ⟨List.mem_append_left _ member, c, mine, fits⟩
  · exact ⟨i, c, next, mine, lines id member running⟩
  · exact ⟨i, c, next, mine, pulses id member running⟩

theorem and_nothing (o : Opened) : o.and .nothing = o := by
  simp only [Opened.and, Opened.nothing, List.append_nil]

/-- Nothing has been done, and the same client is being dealt with. -/
theorem Sound.stays (sound : Sound o s stage) (same : stage'.client? = stage.client?) (fits : ∀ c, stage'.Fits c) :
    Sound (o.and .nothing) s stage' := by
  rw [and_nothing]
  refine ⟨fun j member other => sound.stopped j member (same ▸ other), fun j busy => ?_, ?_, ?_⟩
  · obtain ⟨member, c, here, -⟩ := sound.here j (same ▸ busy)
    exact ⟨member, c, here, fits c⟩
  · rw [same]
    exact sound.lines
  · rw [same]
    exact sound.pulses

theorem Sound.join (sound : Sound o s (.making left)) (c : Client) (stamp : Stamp) :
    Sound (o.and ⟨[s.premises.scene.parties.length], [], []⟩) (s.join c)
      (.starting left s.premises.scene.parties.length stamp Chore.all) := by
  have still (line : LineId) (member : line ∈ o.lines ++ []) : (s.exchange.line line).alive ≠ true := by
    intro running
    obtain ⟨i, c, busy, -⟩ := sound.lines line (by simpa using member) running
    cases busy
  have quiet (probe : Nat) (member : probe ∈ o.pulses ++ []) : (s.exchange.pulse probe).alive ≠ true := by
    intro running
    obtain ⟨i, c, busy, -⟩ := sound.pulses probe (by simpa using member) running
    cases busy
  refine ⟨fun i member other => ?_, fun i busy => ?_, fun id member running => absurd running (still id member),
    fun id member running => absurd running (quiet id member)⟩
  · have apart : i ≠ s.premises.scene.parties.length := fun same => other (congrArg some same.symm)
    have before : i ∈ o.clients := by
      rcases List.mem_append.mp member with before | new
      · exact before
      · exact absurd (List.mem_singleton.mp new) apart
    obtain ⟨d, here, stopped⟩ := sound.stopped i before nofun
    exact ⟨d, by rw [client?_join, if_neg apart, here], stopped⟩
  · obtain rfl := Option.some.inj busy
    exact ⟨List.mem_append_right _ (List.mem_singleton_self _), c, by rw [client?_join, if_pos rfl], trivial⟩

/-- What is done to start the client leaves running only what the client holds. -/
theorem Sound.performed (sound : Sound o s stage) {client : Nat} {c c' : Client} {x : Exchange}
    {answer : Except Failure Unit} {stamp : Stamp} {chore : Chore} (busy : stage.client? = some client)
    (next : stage'.client? = some client) (fits : ∀ c, stage'.Fits c) (here : s.client? client = some c)
    (did : c.perform stamp s.exchange chore = (answer, c', x)) :
    Sound (o.and (.held c')) (s.place client c' x) stage' := by
  have adds := c.adds_perform stamp s.exchange chore
  rw [did] at adds
  refine sound.place busy next here rfl (fits c') (fun id member running => ?_) (fun id member running => ?_)
  · rcases adds.lines id running with before | held
    · rcases List.mem_append.mp member with old | new
      · exact adds.channels id (sound.mem_channels busy here old before)
      · exact new
    · exact held
  · rcases adds.pulses id running with before | held
    · rcases List.mem_append.mp member with old | new
      · exact adds.pulse id (sound.pulse_eq busy here old before)
      · exact Option.mem_toList.mp new
    · exact held

theorem Sound.told (sound : Sound o s (.telling left client why)) {c : Client} (here : s.client? client = some c) :
    Sound (o.and .nothing) (s.place client c.beginStop s.exchange) (.hanging left client why) := by
  refine sound.place rfl rfl here rfl rfl (fun id member running => ?_) (fun id member running => ?_)
  · rw [Opened.nothing, List.append_nil] at member
    exact sound.mem_channels rfl here member running
  · rw [Opened.nothing, List.append_nil] at member
    exact sound.pulse_eq rfl here member running

theorem Sound.hungUp (sound : Sound o s (.hanging left client why)) {c : Client} (here : s.client? client = some c) :
    Sound (o.and .nothing) (s.place client (c.stopLines s.exchange).1 (c.stopLines s.exchange).2)
      (.quieting left client why) := by
  have stopping : c.stopping = true := sound.fits rfl here
  refine sound.place rfl rfl here rfl ⟨stopping, rfl⟩ (fun id member running => ?_) (fun id member running => ?_)
  · rw [Opened.nothing, List.append_nil] at member
    obtain ⟨free, before⟩ := (Client.alive_stopLines ..).mp running
    exact absurd (sound.mem_channels rfl here member before) free
  · rw [Opened.nothing, List.append_nil] at member
    have before : (s.exchange.pulse id).alive = true := by
      unfold Exchange.pulse at running ⊢
      rwa [Client.pulses_stopLines] at running
    exact sound.pulse_eq rfl here member before

theorem Sound.quieted (sound : Sound o s (.quieting left client why)) {c : Client}
    (here : s.client? client = some c) :
    Sound (o.and .nothing) (s.place client (c.stopPulse s.exchange).1 (c.stopPulse s.exchange).2)
      (.joining left client why) := by
  obtain ⟨stopping, channels⟩ : c.stopping = true ∧ c.channels = [] := sound.fits rfl here
  have quiet : (c.stopPulse s.exchange).1.stopping = c.stopping ∧ (c.stopPulse s.exchange).1.pulse = none ∧
      (c.stopPulse s.exchange).1.channels = c.channels ∧
      (c.stopPulse s.exchange).2.lines = s.exchange.lines := by
    unfold Client.stopPulse
    cases held : c.pulse <;> exact ⟨rfl, by simp [held], rfl, rfl⟩
  obtain ⟨same, none, same', still⟩ := quiet
  refine sound.place rfl rfl here rfl ⟨same.trans stopping, same'.trans channels, none⟩
    (fun id member running => ?_) (fun id member running => ?_)
  · rw [Opened.nothing, List.append_nil] at member
    have before : (s.exchange.line id).alive = true := by
      unfold Exchange.line at running ⊢
      rwa [still] at running
    have held := sound.mem_channels rfl here member before
    rw [channels] at held
    exact absurd held List.not_mem_nil
  · rw [Opened.nothing, List.append_nil] at member
    obtain ⟨free, before⟩ := (Client.alive_stopPulse ..).mp running
    exact absurd (sound.pulse_eq rfl here member before) free

/-- A client whose loops have ended joins those that have been stopped. -/
theorem Sound.joined (sound : Sound o s (.joining left client why)) {c : Client} (here : s.client? client = some c)
    (ended : c.loops = []) : Sound (o.and .nothing) s (.judging left why) := by
  obtain ⟨stopping, channels, pulse⟩ : c.stopping = true ∧ c.channels = [] ∧ c.pulse = none := sound.fits rfl here
  rw [and_nothing]
  refine ⟨fun i member _ => ?_, nofun, fun id member running => ?_, fun id member running => ?_⟩
  · by_cases same : i = client
    · exact ⟨c, same ▸ here, channels, pulse, ended, stopping⟩
    · exact sound.stopped i member fun busy => same (Option.some.inj busy.symm)
  · have held := sound.mem_channels rfl here member running
    rw [channels] at held
    exact absurd held List.not_mem_nil
  · have held := sound.pulse_eq rfl here member running
    cases pulse.symm.trans held

theorem Sound.act (sound : Sound o s stage) (act : Act wait total s stage more further t stage') :
    Sound (o.and more) t stage' := by
  cases act with
  | refused | cut | started | connected | silent | gaveUp | paused | misconfigured | exited | again | timedOut =>
    exact sound.stays rfl fun _ => trivial
  | made id stamp may => exact sound.join _ stamp
  | done here did => exact sound.performed rfl rfl (fun _ => trivial) here did
  | failed here did => exact sound.performed rfl rfl (fun _ => trivial) here did
  | told here => exact sound.told here
  | hungUp here => exact sound.hungUp here
  | quieted here => exact sound.quieted here
  | joined here ended => exact sound.joined here ended

theorem Run.sound (run : Run attempts wait s steps o made t stage) : Sound o t stage := by
  induction run with
  | called => exact ⟨nofun, nofun, nofun, nofun⟩
  | meanwhile _ goes ih => exact ih.meanwhile goes
  | act _ act ih => exact ih.act act

/-- How many steps an attempt takes at most that may wait so long, between two clients. -/
def round (wait : Nat) : Nat := 2 * wait + 15

/-- How many steps of its own the call has ahead of it, at most. Between two looks lies a pause. -/
def Stage.ahead (wait now : Nat) : Stage → Nat
  | making left => (left + 1) * round wait
  | starting left _ _ chores => left * round wait + 2 * wait + chores.length + 8
  | looking left _ deadline due => left * round wait + 2 * (deadline - due) + 7
  | doubting left _ deadline => left * round wait + 2 * (deadline - now) + 6
  | telling left _ _ => left * round wait + 5
  | hanging left _ _ => left * round wait + 4
  | quieting left _ _ => left * round wait + 3
  | joining left _ _ => left * round wait + 2
  | judging left _ => left * round wait + 1
  | returned _ => 0

/-- The call waits for the clock, or for the loops of a client that it has told to stop. -/
inductive Waits (s : Supervision) : Stage → Prop
  | clock {left client deadline due} : s.premises.now < due → Waits s (.looking left client deadline due)
  | loops {left client why c} : s.client? client = some c → c.stopping = true → c.loops ≠ [] →
      Waits s (.joining left client why)

end Connecting
end KernelLink
