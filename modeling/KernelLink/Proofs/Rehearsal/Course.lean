import KernelLink.Proofs.Exchange
import KernelLink.Proofs.Rehearsal.Children

namespace KernelLink

/-- What a loop has taken from a control line: the watch that it belongs to, the time, and what had come over
the line. -/
structure Reception (Frame : Type) where
  watch : Nat
  now : Nat
  frame : Frame

/-- A watch that has gone on, and that nobody has told to end. Its loops may have ended, but it has not got any
that are new. -/
structure Control.Later (c c' : Control) : Prop where
  signer : c'.session.signer = c.session.signer
  stopping : c'.stopping = c.stopping
  loops : ∀ l' ∈ c'.loops, ∃ l ∈ c.loops, l.id = l'.id

/-- A watch that has gone on and has not taken in anything. -/
structure Control.Onward (c c' : Control) : Prop extends Control.Later c c' where
  acknowledged : c'.acknowledged = c.acknowledged

/-- A watch that has gone on, whose polls may have ended, but none of whose loops. -/
structure Control.Lasting (c c' : Control) : Prop extends Control.Onward c c' where
  lasting : ∀ l ∈ c.loops, ∃ l' ∈ c'.loops, l'.id = l.id ∧ l'.line = l.line

namespace Control

variable {c c' c'' : Control}

theorem Later.trans (one : Later c c') (two : Later c' c'') : Later c c'' := by
  refine ⟨two.signer.trans one.signer, two.stopping.trans one.stopping, fun l'' here => ?_⟩
  obtain ⟨l', there, same⟩ := two.loops l'' here
  obtain ⟨l, first, same'⟩ := one.loops l' there
  exact ⟨l, first, same'.trans same⟩

theorem Later.loops_eq_nil (later : Later c c') (none : c.loops = []) : c'.loops = [] := by
  refine List.eq_nil_iff_forall_not_mem.mpr fun l' here => ?_
  obtain ⟨l, there, -⟩ := later.loops l' here
  rw [none] at there
  cases there

theorem Lasting.refl (c : Control) : Lasting c c :=
  ⟨⟨⟨rfl, rfl, fun l here => ⟨l, here, rfl⟩⟩, rfl⟩, fun l here => ⟨l, here, rfl, rfl⟩⟩

theorem onward_leave (c : Control) (loop : Nat) : Onward c (c.leave loop) :=
  ⟨⟨rfl, rfl, fun l here => ⟨l, (List.mem_filter.mp here).1, rfl⟩⟩, rfl⟩

/-- Whatever becomes of their polls, the loops are the same. -/
theorem lasting_map (c : Control) {f : Loop → Loop} (same : ∀ l, (f l).id = l.id ∧ (f l).line = l.line) :
    Lasting c { c with loops := c.loops.map f } := by
  refine ⟨⟨⟨rfl, rfl, fun l here => ?_⟩, rfl⟩, fun l here => ⟨f l, List.mem_map_of_mem here, same l⟩⟩
  obtain ⟨old, there, rfl⟩ := List.mem_map.mp here
  exact ⟨old, there, (same old).1.symm⟩

theorem lasting_setPoll (c : Control) (loop : Nat) (poll : Option Poll) : Lasting c (c.setPoll loop poll) := by
  refine lasting_map c fun l => ?_
  split <;> exact ⟨rfl, rfl⟩

theorem onward_lookAround (c : Control) (x : Exchange) (loop : Loop) : Onward c (c.lookAround x loop).1 := by
  unfold lookAround
  split
  · exact (lasting_setPoll c loop.id _).toOnward
  · exact onward_leave c loop.id

/-- A watch that has been told to end loses every loop that looks around. -/
theorem lookAround_of_stopping {c : Control} (stopping : c.stopping = true) (x : Exchange) (loop : Loop) :
    c.lookAround x loop = (c.leave loop.id, x) := by
  simp [lookAround, mayPoll, stopping]

theorem signer_handle (c : Control) (m : Message) : (c.handle m).session.signer = c.session.signer := by
  unfold handle Session.adopt
  simp only
  split <;> rfl

theorem later_receive (c : Control) (loop : Loop) (a : Except Failure Message) : Later c (c.receive loop a) := by
  cases a with
  | error failure => exact (c.onward_leave loop.id).toLater
  | ok m =>
    have handled : Later c (c.handle m) := ⟨c.signer_handle m, rfl, fun l here => ⟨l, here, rfl⟩⟩
    exact handled.trans ((c.handle m).lasting_setPoll loop.id none).toLater

theorem rel_trans {o o' o'' : Option Control} (one : Option.Rel Later o o') (two : Option.Rel Later o' o'') :
    Option.Rel Later o o'' := by
  cases one with
  | none =>
    cases two
    exact .none
  | some first =>
    cases two with
    | some second => exact .some (first.trans second)

theorem rel_later {o o' : Option Control} (lasting : Option.Rel Lasting o o') : Option.Rel Later o o' := by
  cases lasting with
  | none => exact .none
  | some lasting => exact .some lasting.toLater

end Control

namespace Exchange

/-- Whatever has arrived or has been taken, the same lines are running and the same has been sent over them. -/
structure SameLines (x x' : Exchange) : Prop where
  alive : ∀ id, (x'.line id).alive = (x.line id).alive
  sent : ∀ id, (x'.line id).sent = (x.line id).sent

theorem SameLines.refl (x : Exchange) : SameLines x x := ⟨fun _ => rfl, fun _ => rfl⟩

theorem SameLines.trans {x x' x'' : Exchange} (one : SameLines x x') (two : SameLines x' x'') : SameLines x x'' :=
  ⟨fun id => (two.alive id).trans (one.alive id), fun id => (two.sent id).trans (one.sent id)⟩

theorem sameLines_inbox (x : Exchange) (id : LineId) (inbox : List (Except Failure Message)) :
    SameLines x (x.setLine id { x.line id with inbox := inbox }) := by
  have same (other : LineId) : (x.setLine id { x.line id with inbox := inbox }).line other =
      if other = id then { x.line id with inbox := inbox } else x.line other := by
    by_cases here : other = id
    · rw [if_pos here, here, line_setLine]
    · rw [if_neg here, line_setLine_of_ne x here]
  refine ⟨fun other => ?_, fun other => ?_⟩ <;> rw [same] <;> split <;> simp [*]

theorem sameLines_take (x : Exchange) (id : LineId) : SameLines x (x.take id).2 := by
  unfold take
  simp only
  split
  · exact .refl x
  · exact sameLines_inbox x id _

theorem now_take (x : Exchange) (id : LineId) : (x.take id).2.now = x.now := by
  unfold take
  simp only
  split <;> rfl

end Exchange

namespace Party

/-- The watch over a control line that a party is. -/
def watch? : Party → Option Control
  | .control c => some c
  | _ => none

theorem exchange_takeArrival (p : Party) (x : Exchange) (l : Loop) :
    (p.takeArrival x l).2 = (x.take l.line).2 := by
  cases p with
  | client c =>
    unfold takeArrival Client.takeArrival
    rcases x.take l.line with ⟨_ | a, x'⟩ <;> rfl
  | control c =>
    unfold takeArrival Control.takeArrival
    rcases x.take l.line with ⟨_ | a, x'⟩ <;> rfl
  | reader r => rfl

/-- Who looks around takes a turn at most. -/
theorem exchange_lookAround (p : Party) (x : Exchange) (l : Loop) :
    (p.lookAround x l).2 = x ∨ (p.lookAround x l).2 = x.takeTurn.2 := by
  cases p with
  | client c => cases may : c.mayPoll x l <;> simp [lookAround, Client.lookAround, may]
  | control c => cases may : c.mayPoll x l <;> simp [lookAround, Control.lookAround, may]
  | reader r => cases running : (x.line l.line).alive <;> simp [lookAround, running]

/-- The same lines are running, and it takes no time. -/
theorem sameLines_lookAround (p : Party) (x : Exchange) (l : Loop) :
    x.SameLines (p.lookAround x l).2 ∧ (p.lookAround x l).2.now = x.now := by
  rcases p.exchange_lookAround x l with same | same <;> rw [same]
  · exact ⟨.refl x, rfl⟩
  · exact ⟨⟨fun _ => rfl, fun _ => rfl⟩, rfl⟩

theorem eq_of_watch? {p : Party} {c : Control} (watch : p.watch? = some c) : p = .control c := by
  cases p <;> cases watch
  rfl

/-- Who is no watch does not become one by looking around. -/
theorem watch?_lookAround {p : Party} (noWatch : p.watch? = none) (x : Exchange) (l : Loop) :
    (p.lookAround x l).1.watch? = none := by
  cases p with
  | client c => rfl
  | control c => cases noWatch
  | reader r => cases running : (x.line l.line).alive <;> simp [lookAround, running, watch?]

theorem watch?_expire (p : Party) (now : Nat) : Option.Rel Control.Lasting p.watch? (p.expire now).watch? := by
  cases p with
  | client c => exact .none
  | control c => exact .some (c.lasting_map fun _ => ⟨rfl, rfl⟩)
  | reader r => exact .none

end Party

namespace Scene

/-- What may happen behind the back of a manager: its control lines may break down, and polls over them may end, but
nobody else sends over these lines or starts them, and no loop ends. -/
structure Apart (s s' : Scene) : Prop where
  now : s.exchange.now ≤ s'.exchange.now
  watches : ∀ i, Option.Rel Control.Lasting (s.control? i) (s'.control? i)
  alive : ∀ id : LineId, id.kind = .control → (s'.exchange.line id).alive = true →
    (s.exchange.line id).alive = true
  sent : ∀ id : LineId, id.kind = .control → (s'.exchange.line id).sent = (s.exchange.line id).sent

/-- The scene goes on by itself. Between all that happens apart, the loops over control lines take what has come,
as the signer of their watch reads it, and those that are between two polls look around. A loop ends only in one of
these two ways: it takes a failure, or it sees that it is not to go on. -/
inductive Course {Frame : Type} (reads : Signer → Frame → Except Failure Message) (start : Scene) :
    List (Reception Frame) → Scene → Prop
  | begin : Course reads start [] start
  | apart {heard s s'} : Course reads start heard s → Apart s s' → Course reads start heard s'
  | hears {heard s i c loop} (frame : Frame) : Course reads start heard s → s.control? i = some c →
      loop ∈ c.loops →
      Course reads start (heard ++ [⟨i, s.exchange.now, frame⟩])
        (s.setParty i (.control (c.receive loop (reads c.session.signer frame))) s.exchange)
  | looks {heard s i c loop} : Course reads start heard s → s.control? i = some c → loop ∈ c.loops →
      loop.poll = none →
      Course reads start heard (s.setParty i (.control (c.lookAround s.exchange loop).1)
        (c.lookAround s.exchange loop).2)

theorem Apart.refl (s : Scene) : Apart s s where
  now := Nat.le_refl _
  watches i := by
    cases s.control? i with
    | none => exact .none
    | some c => exact .some (.refl c)
  alive _ _ running := running
  sent _ _ := rfl

theorem control?_eq (s : Scene) (i : Nat) : s.control? i = s.parties[i]?.bind Party.watch? := by
  unfold control?
  rcases s.parties[i]? with _ | ⟨_ | _ | _⟩ <;> rfl

theorem control?_setParty {s : Scene} {i : Nat} {old : Party} (here : s.parties[i]? = some old) (p : Party)
    (x : Exchange) (j : Nat) :
    (s.setParty i p x).control? j = if j = i then p.watch? else s.control? j := by
  have bound : i < s.parties.length := (List.getElem?_eq_some_iff.mp here).1
  rw [control?_eq, control?_eq, setParty]
  by_cases same : j = i
  · rw [same, if_pos rfl, List.getElem?_set_self bound]
    rfl
  · rw [if_neg same, List.getElem?_set_ne (Ne.symm same)]

theorem parties_of_control? {s : Scene} {i : Nat} {c : Control} (here : s.control? i = some c) :
    s.parties[i]? = some (.control c) := by
  rw [control?_eq] at here
  rcases found : s.parties[i]? with _ | ⟨_ | _ | _⟩ <;> rw [found] at here <;> cases here
  rfl

/-- A party has joined the others. -/
theorem control?_append (s : Scene) (p : Party) (x : Exchange) (i : Nat) :
    ({ s with exchange := x, parties := s.parties ++ [p] } : Scene).control? i =
      if i = s.parties.length then p.watch? else s.control? i := by
  rw [control?_eq, control?_eq, List.getElem?_append]
  by_cases last : i = s.parties.length
  · simp [last]
  · by_cases inside : i < s.parties.length
    · simp [last, inside]
    · have outside : s.parties.length < i := by omega
      rw [if_neg inside, if_neg last, List.getElem?_eq_none (Nat.le_of_lt outside),
        List.getElem?_eq_none (by simp; omega)]

/-- What becomes of one party, if it is a watch, is what becomes of a watch that nobody has told anything. -/
theorem apart_setParty {s : Scene} {i : Nat} {p p' : Party} (here : s.parties[i]? = some p)
    (onward : Option.Rel Control.Lasting p.watch? p'.watch?) {x : Exchange} (lines : s.exchange.SameLines x)
    (now : x.now = s.exchange.now) : Apart s (s.setParty i p' x) where
  now := Nat.le_of_eq now.symm
  watches j := by
    rw [control?_setParty here]
    by_cases same : j = i
    · rwa [if_pos same, same, control?_eq, here]
    · rw [if_neg same]
      exact (Apart.refl s).watches j
  alive id _ running := (lines.alive id).symm.trans running
  sent id _ := lines.sent id

theorem apart_exchange (s : Scene) {x : Exchange} (later : s.exchange.now ≤ x.now)
    (lines : s.exchange.SameLines x) : Apart s { s with exchange := x } where
  now := later
  watches := (Apart.refl s).watches
  alive id _ running := (lines.alive id).symm.trans running
  sent id _ := lines.sent id

theorem mem_loops {s : Scene} {i : Nat} {p : Party} {l : Loop} (here : (i, p, l) ∈ s.loops) :
    s.parties[i]? = some p ∧ l ∈ p.loops := by
  obtain ⟨⟨q, j⟩, there, member⟩ := List.mem_flatMap.mp here
  obtain ⟨loop, inside, same⟩ := List.mem_map.mp member
  cases same
  exact ⟨List.mem_zipIdx_iff_getElem?.mp there, inside⟩

theorem foldl_mem {α : Type} (f : α → α → α) (either : ∀ a b, f a b = a ∨ f a b = b) (rest : List α) (first : α) :
    rest.foldl f first ∈ first :: rest := by
  induction rest generalizing first with
  | nil => exact List.mem_singleton_self first
  | cons next rest ih =>
    have found := ih (f first next)
    rw [List.foldl_cons]
    rcases either first next with same | same <;> rw [same] at found ⊢
    · exact List.mem_cons.mpr ((List.mem_cons.mp found).imp id (List.mem_cons_of_mem _))
    · exact List.mem_cons_of_mem _ found

/-- The loop that is served is one of those that are in a poll. -/
theorem served_mem {s : Scene} {served : Nat × Party × Loop} (found : s.served = some served) :
    served ∈ s.loops ∧ served.2.2.poll ≠ none := by
  unfold Scene.served at found
  simp only at found
  split at found
  · cases found
  · rename_i first rest able
    cases found
    have member := foldl_mem (fun best next => if next.1 < best.1 then next else best)
      (fun best next => by split <;> simp) rest first
    rw [← able] at member
    obtain ⟨⟨i, p, l⟩, there, same⟩ := List.mem_filterMap.mp member
    simp only at same
    split at same
    · rename_i polling
      split at same
      · cases same
      · rw [← Option.some.inj same]
        exact ⟨there, Option.ne_none_iff_exists'.mpr ⟨_, polling⟩⟩
    · cases same

/-- The clock moves on to a moment, and the polls whose time is over end. -/
def moveTo (s : Scene) (t : Nat) : Scene :=
  { s with
    exchange := { s.exchange with now := max s.exchange.now t }
    parties := s.parties.map (Party.expire · (max s.exchange.now t)) }

theorem runWith_succ (fuel limit : Nat) (s : Scene) : runWith (fuel + 1) limit s =
    match s.settle.nextMoment limit with
    | none =>
      { s.settle with exchange := { s.settle.exchange with now := max s.settle.exchange.now limit } }
    | some t => runWith fuel limit (s.settle.moveTo t).deliver := rfl

/-- Something between what was and what is, that holds of all that a scene does by itself. -/
structure Habit (R : Scene → Scene → Prop) : Prop where
  refl : ∀ s, R s s
  trans : ∀ {s s' s''}, R s s' → R s' s'' → R s s''
  take : ∀ {s : Scene} {i : Nat} {p : Party} {l : Loop}, s.parties[i]? = some p → l ∈ p.loops → l.poll ≠ none →
    R s (s.setParty i (p.takeArrival s.exchange l).1 (p.takeArrival s.exchange l).2)
  look : ∀ {s : Scene} {i : Nat} {p : Party} {l : Loop}, s.parties[i]? = some p → l ∈ p.loops → l.poll = none →
    R s (s.setParty i (p.lookAround s.exchange l).1 (p.lookAround s.exchange l).2)
  moveTo : ∀ s t, R s (s.moveTo t)
  deliver : ∀ s, R s s.deliver
  rest : ∀ (s : Scene) (now : Nat), s.exchange.now ≤ now → R s { s with exchange := { s.exchange with now := now } }

section Habit

variable {R : Scene → Scene → Prop}

theorem Habit.step (habit : Habit R) {s s' : Scene} (stepped : s.step = some s') : R s s' := by
  unfold Scene.step at stepped
  split at stepped
  · rename_i i p l served
    cases stepped
    obtain ⟨there, polling⟩ := served_mem served
    obtain ⟨here, member⟩ := mem_loops there
    exact habit.take here member polling
  · split at stepped
    · rename_i i p l found
      cases stepped
      obtain ⟨here, member⟩ := mem_loops (List.mem_of_find?_eq_some found)
      have idle := List.find?_some found
      exact habit.look here member (Option.isNone_iff_eq_none.mp idle)
    · cases stepped

theorem Habit.settle (habit : Habit R) (s : Scene) : R s s.settle := by
  unfold Scene.settle
  simp only
  generalize 2 * _ + _ + 1 = fuel
  induction fuel generalizing s with
  | zero => exact habit.refl s
  | succ fuel ih =>
    unfold settleWith
    split
    · rename_i s' stepped
      exact habit.trans (habit.step stepped) (ih s')
    · exact habit.refl s

theorem Habit.runWith (habit : Habit R) (fuel limit : Nat) (s : Scene) : R s (runWith fuel limit s) := by
  induction fuel generalizing s with
  | zero => exact habit.refl s
  | succ fuel ih =>
    have settled := habit.settle s
    rw [runWith_succ]
    split
    · exact habit.trans settled (habit.rest s.settle _ (Nat.le_max_left ..))
    · rename_i t _
      have moved := habit.trans settled (habit.moveTo s.settle t)
      exact habit.trans (habit.trans moved (habit.deliver _)) (ih _)

theorem Habit.pass (habit : Habit R) (s : Scene) (ms : Nat) : R s (s.pass ms) :=
  habit.trans (habit.runWith _ _ s) (habit.settle _)

end Habit

/-- The rehearsal hands on what has arrived as it has arrived. -/
def asArrived (_ : Signer) (a : Except Failure Message) : Except Failure Message := a

variable {Frame : Type} {reads : Signer → Frame → Except Failure Message} {start s s' : Scene}
  {heard more : List (Reception Frame)}

theorem Course.trans {s'' : Scene} (one : Course reads s heard s') (two : Course reads s' more s'') :
    Course reads s (heard ++ more) s'' := by
  induction two with
  | begin => rwa [List.append_nil]
  | apart _ apart ih => exact .apart ih apart
  | hears frame _ here member ih =>
    rw [← List.append_assoc]
    exact .hears frame ih here member
  | looks _ here member idle ih => exact .looks ih here member idle

theorem Apart.course (apart : Apart s s') : Course reads s [] s' := .apart .begin apart

/-- A loop takes what has arrived first on its line. -/
theorem course_takeArrival {i : Nat} {p : Party} {l : Loop} (here : s.parties[i]? = some p) (member : l ∈ p.loops) :
    ∃ heard, Course asArrived s heard
      (s.setParty i (p.takeArrival s.exchange l).1 (p.takeArrival s.exchange l).2) := by
  have lines := s.exchange.sameLines_take l.line
  have now := s.exchange.now_take l.line
  cases p with
  | client c =>
    have neither : Option.Rel Control.Lasting (Party.client c).watch?
        ((Party.client c).takeArrival s.exchange l).1.watch? := .none
    rw [← Party.exchange_takeArrival (.client c)] at lines now
    exact ⟨[], (apart_setParty here neither lines now).course⟩
  | reader r =>
    have neither : Option.Rel Control.Lasting (Party.reader r).watch?
        ((Party.reader r).takeArrival s.exchange l).1.watch? := .none
    rw [← Party.exchange_takeArrival (.reader r)] at lines now
    exact ⟨[], (apart_setParty here neither lines now).course⟩
  | control c =>
    rcases taken : s.exchange.take l.line with ⟨_ | a, x⟩ <;> rw [taken] at lines now
    · have idle : c.takeArrival s.exchange l = (c, x) := by
        unfold Control.takeArrival
        rw [taken]
      have same : Option.Rel Control.Lasting (Party.control c).watch? (Party.control c).watch? := .some (.refl c)
      rw [Party.takeArrival, idle]
      exact ⟨[], (apart_setParty here same lines now).course⟩
    · -- the line hands on what has arrived, and then the watch takes it in
      have took : c.takeArrival s.exchange l = (c.receive l a, x) := by
        unfold Control.takeArrival
        rw [taken]
      have watch : s.control? i = some c := by
        rw [control?_eq, here]
        rfl
      have before : Course asArrived s [] { s with exchange := x } :=
        (apart_exchange s (Nat.le_of_eq now.symm) lines).course
      rw [Party.takeArrival, took]
      exact ⟨_, before.hears a watch member⟩

theorem course_lookAround {i : Nat} {p : Party} {l : Loop} (here : s.parties[i]? = some p) (member : l ∈ p.loops)
    (idle : l.poll = none) :
    Course reads s [] (s.setParty i (p.lookAround s.exchange l).1 (p.lookAround s.exchange l).2) := by
  cases watch : p.watch? with
  | none =>
    obtain ⟨lines, now⟩ := p.sameLines_lookAround s.exchange l
    refine (apart_setParty here ?_ lines now).course
    rw [watch, Party.watch?_lookAround watch]
    exact .none
  | some c =>
    obtain rfl := Party.eq_of_watch? watch
    exact .looks .begin (by rw [control?_eq, here]; rfl) member idle

theorem course_moveTo (s : Scene) (t : Nat) : Course reads s [] (s.moveTo t) := by
  refine Apart.course ⟨Nat.le_max_left .., fun i => ?_, fun id _ running => running, fun id _ => rfl⟩
  rw [control?_eq, control?_eq, moveTo, List.getElem?_map]
  cases s.parties[i]? with
  | none => exact .none
  | some p => exact p.watch?_expire _

theorem sameLines_arriveAll (due : List (Nat × LineId × Except Failure Message)) (x : Exchange) :
    x.SameLines (due.foldl (fun x (_, id, a) => x.arrive id a) x) ∧
      (due.foldl (fun x (_, id, a) => x.arrive id a) x).now = x.now := by
  induction due generalizing x with
  | nil => exact ⟨.refl x, rfl⟩
  | cons first rest ih =>
    obtain ⟨lines, now⟩ := ih (x.arrive first.2.1 first.2.2)
    exact ⟨(x.sameLines_inbox first.2.1 _).trans lines, now⟩

/-- What is due arrives. -/
theorem deliver_cases (s : Scene) : ∃ x later, s.deliver = { s with exchange := x, arrivals := later } ∧
    s.exchange.SameLines x ∧ x.now = s.exchange.now := by
  unfold deliver
  generalize s.arrivals.partition _ = parted
  obtain ⟨due, later⟩ := parted
  obtain ⟨lines, now⟩ := sameLines_arriveAll due s.exchange
  exact ⟨_, later, rfl, lines, now⟩

theorem course_deliver (s : Scene) : Course reads s [] s.deliver := by
  obtain ⟨x, later, delivered, lines, now⟩ := s.deliver_cases
  rw [delivered]
  exact Apart.course { apart_exchange s (Nat.le_of_eq now.symm) lines with }

theorem habit_course : Habit fun s s' => ∃ heard, Course asArrived s heard s' where
  refl s := ⟨[], .begin⟩
  trans one two := by
    obtain ⟨heard, one⟩ := one
    obtain ⟨more, two⟩ := two
    exact ⟨heard ++ more, one.trans two⟩
  take here member _ := course_takeArrival here member
  look here member idle := ⟨[], course_lookAround here member idle⟩
  moveTo s t := ⟨[], course_moveTo s t⟩
  deliver s := ⟨[], course_deliver s⟩
  rest s now later :=
    ⟨[], (apart_exchange s (x := { s.exchange with now := now }) later ⟨fun _ => rfl, fun _ => rfl⟩).course⟩

theorem course_settle (s : Scene) : ∃ heard, Course asArrived s heard s.settle := habit_course.settle s

/-- As time passes the scene goes on by itself. -/
theorem course_pass (s : Scene) (ms : Nat) : ∃ heard, Course asArrived s heard (s.pass ms) := habit_course.pass s ms

/-- A watch goes on. -/
theorem course_setWatch {i : Nat} {c c' : Control} (here : s.control? i = some c) (lasting : c.Lasting c') :
    Course reads s [] (s.setParty i (.control c') s.exchange) := by
  have rel : Option.Rel Control.Lasting (Party.control c).watch? (Party.control c').watch? := .some lasting
  exact (apart_setParty (parties_of_control? here) rel (.refl _) rfl).course

/-- The watch that has been put somewhere is found there. -/
theorem control?_setWatch {i : Nat} {c : Control} (here : s.control? i = some c) (c' : Control) (x : Exchange) :
    (s.setParty i (.control c') x).control? i = some c' := by
  rw [control?_setParty (parties_of_control? here), if_pos rfl]
  rfl

theorem Course.now_le (course : Course reads start heard s) : start.exchange.now ≤ s.exchange.now := by
  induction course with
  | begin => exact Nat.le_refl _
  | apart _ apart ih => exact Nat.le_trans ih apart.now
  | hears _ _ _ _ ih => exact ih
  | @looks _ s _ c loop _ _ _ _ ih =>
    exact Nat.le_trans ih (Nat.le_of_eq ((Party.control c).sameLines_lookAround s.exchange loop).2.symm)

theorem Course.alive (course : Course reads start heard s) {id : LineId} (control : id.kind = .control)
    (running : (s.exchange.line id).alive = true) : (start.exchange.line id).alive = true := by
  induction course with
  | begin => exact running
  | apart _ apart ih => exact ih (apart.alive id control running)
  | hears _ _ _ _ ih => exact ih running
  | @looks _ s _ c loop _ _ _ _ ih =>
    exact ih ((((Party.control c).sameLines_lookAround s.exchange loop).1.alive id).symm.trans running)

theorem Course.sent (course : Course reads start heard s) {id : LineId} (control : id.kind = .control) :
    (s.exchange.line id).sent = (start.exchange.line id).sent := by
  induction course with
  | begin => rfl
  | apart _ apart ih => exact (apart.sent id control).trans ih
  | hears _ _ _ _ ih => exact ih
  | @looks _ s _ c loop _ _ _ _ ih =>
    exact (((Party.control c).sameLines_lookAround s.exchange loop).1.sent id).trans ih

/-- Where one watch has gone on, every watch has. -/
theorem watch_setParty {i : Nat} {c c' : Control} (here : s.control? i = some c) (later : c.Later c') (x : Exchange)
    {j : Nat} (went : Option.Rel Control.Later (start.control? j) (s.control? j)) :
    Option.Rel Control.Later (start.control? j) ((s.setParty i (.control c') x).control? j) := by
  rw [control?_setParty (parties_of_control? here)]
  by_cases same : j = i
  · subst same
    rw [here] at went
    rw [if_pos rfl]
    exact Control.rel_trans went (.some later)
  · rwa [if_neg same]

/-- Every watch goes on, whatever its loops take. -/
theorem Course.watch (course : Course reads start heard s) (i : Nat) :
    Option.Rel Control.Later (start.control? i) (s.control? i) := by
  induction course with
  | begin => exact Control.rel_later ((Apart.refl start).watches i)
  | apart _ apart ih => exact Control.rel_trans ih (Control.rel_later (apart.watches i))
  | @hears _ _ _ c loop frame _ here _ ih => exact watch_setParty here (c.later_receive loop _) _ ih
  | @looks _ s _ c loop _ here _ _ ih =>
    exact watch_setParty here (c.onward_lookAround s.exchange loop).toLater _ ih

theorem Course.later (course : Course reads start heard s) {i : Nat} {c : Control}
    (here : start.control? i = some c) : ∃ c', s.control? i = some c' ∧ c.Later c' := by
  have went := course.watch i
  rw [here] at went
  generalize s.control? i = there at went ⊢
  cases went with
  | some later => exact ⟨_, rfl, later⟩

/-- No watch is new. -/
theorem Course.earlier (course : Course reads start heard s) {i : Nat} {c' : Control}
    (there : s.control? i = some c') : ∃ c, start.control? i = some c ∧ c.Later c' := by
  have went := course.watch i
  rw [there] at went
  generalize start.control? i = here at went ⊢
  cases went with
  | some later => exact ⟨_, rfl, later⟩

end Scene

namespace Premises

/-- The premises go on by themselves. The programs run, and all that does not belong to the manager may change in
any way. -/
structure Course {Frame : Type} (reads : Signer → Frame → Except Failure Message) (p : Premises)
    (heard : List (Reception Frame)) (p' : Premises) : Prop where
  scene : Scene.Course reads p.scene heard p'.scene
  slot : p'.slot = p.slot
  children : p.children.length ≤ p'.children.length

variable {Frame : Type} {reads : Signer → Frame → Except Failure Message} {p p' p'' : Premises}
  {heard more : List (Reception Frame)}

theorem Course.refl (p : Premises) : Course reads p [] p := ⟨.begin, rfl, Nat.le_refl _⟩

theorem Course.trans (one : Course reads p heard p') (two : Course reads p' more p'') :
    Course reads p (heard ++ more) p'' :=
  ⟨one.scene.trans two.scene, two.slot.trans one.slot, Nat.le_trans one.children two.children⟩

/-- Time passes until some moment, and nothing else happens. -/
def waitUntil (p : Premises) (t : Nat) : Premises :=
  { p with scene := p.scene.onExchange fun x => { x with now := max x.now t } }

theorem course_waitUntil (p : Premises) (t : Nat) : Course reads p [] (p.waitUntil t) :=
  ⟨(Scene.apart_exchange p.scene (x := { p.scene.exchange with now := max p.scene.exchange.now t })
    (Nat.le_max_left ..) ⟨fun _ => rfl, fun _ => rfl⟩).course, rfl, Nat.le_refl _⟩

theorem course_inform (p : Premises) : Course reads p [] p.inform :=
  ⟨(Scene.apart_exchange p.scene (x := p.inform.scene.exchange) (Nat.le_refl _)
    ⟨fun _ => rfl, fun _ => rfl⟩).course, rfl, Nat.le_refl _⟩

theorem course_onProcess (p : Premises) (child : Nat) (f : KernelProcess → KernelProcess) :
    Course reads p [] (p.onProcess child f) :=
  ⟨.begin, rfl, by simp [onProcess]⟩

theorem course_settleProcesses (p : Premises) : Course reads p [] p.settleProcesses := by
  have settled : Course reads p [] { p with children := p.children.map fun c => c.settle p.now } :=
    ⟨.begin, rfl, by simp⟩
  exact settled.trans (course_inform _)

theorem course_settle (p : Premises) : ∃ heard, Course Scene.asArrived p heard p.settle := by
  have ran : Course Scene.asArrived p [] p.runPrograms :=
    ⟨.begin, rfl, Nat.le_of_eq p.forall₂_runPrograms.length_eq⟩
  obtain ⟨heard, settled⟩ := Scene.course_settle p.runPrograms.settleProcesses.scene
  have last : Course Scene.asArrived p.runPrograms.settleProcesses heard p.settle :=
    ⟨settled, rfl, Nat.le_refl _⟩
  exact ⟨_, (ran.trans (course_settleProcesses _)).trans last⟩

theorem course_pass (ms : Nat) (p : Premises) : ∃ heard, Course Scene.asArrived p heard (pass ms p) := by
  unfold pass
  induction ms with
  | zero => exact ⟨[], .refl p⟩
  | succ ms ih =>
    obtain ⟨heard, before⟩ := ih
    rw [Nat.repeat]
    generalize Nat.repeat _ ms p = q at before ⊢
    obtain ⟨more, passed⟩ := q.scene.course_pass 1
    generalize q.scene.pass 1 = scene at passed ⊢
    have moved : Course Scene.asArrived q more { q with scene := scene } := ⟨passed, rfl, Nat.le_refl _⟩
    obtain ⟨rest, settled⟩ := course_settle { q with scene := scene }
    exact ⟨_, (before.trans moved).trans settled⟩

theorem course_await (p : Premises) (done : Premises → Bool) (budget pause : Nat) :
    ∃ heard, Course Scene.asArrived p heard (p.await done budget pause).2 := by
  have passes (ms : Nat) (q : Premises) (before : ∃ heard, Course Scene.asArrived p heard q) :
      ∃ heard, Course Scene.asArrived p heard (pass ms q) := by
    obtain ⟨heard, before⟩ := before
    obtain ⟨more, passed⟩ := course_pass ms q
    exact ⟨heard ++ more, before.trans passed⟩
  exact @Clock.await_keeps _ clock (fun q => ∃ heard, Course Scene.asArrived p heard q) passes done budget pause p
    ⟨[], .refl p⟩

theorem course_awaitWatch (p : Premises) (child watch budget : Nat) :
    ∃ heard, Course Scene.asArrived p heard (p.awaitWatch child watch budget).2 := by
  obtain ⟨heard, waited⟩ := p.settleProcesses.course_await
    (fun p => ((p.process? child).bind (·.answer? watch)).isSome) (budget + 1) 1
  exact ⟨_, (course_settleProcesses p).trans waited⟩

theorem course_kill (p : Premises) (child budget : Nat) :
    ∃ heard, Course Scene.asArrived p heard (p.kill child budget).2 := by
  unfold kill
  cases p.process? child with
  | none => exact ⟨[], .refl p⟩
  | some process =>
    simp only
    rcases process.kill (p.now + budget) with ⟨_ | watch, killed⟩
    · exact ⟨[], .refl p⟩
    · obtain ⟨heard, waited⟩ := (p.onProcess child fun _ => killed).course_awaitWatch child watch budget
      exact ⟨_, (course_onProcess p child fun _ => killed).trans waited⟩

end Premises
end KernelLink
