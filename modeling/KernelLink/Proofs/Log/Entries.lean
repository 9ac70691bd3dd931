import KernelLink.ExecutionLog

namespace KernelLink

/-- The id by which an entry is found: that of its request. -/
def ExecutionEntry.id (e : ExecutionEntry) : String := e.request.msgId

theorem ExecutionEntry.id_new (request : Message) : (new request).id = request.msgId := rfl

theorem ExecutionEntry.id_addResponse (m : Message) (e : ExecutionEntry) :
    (e.addResponse m).id = e.id := rfl

theorem ExecutionEntry.id_abandon (e : ExecutionEntry) : e.abandon.id = e.id := rfl

theorem ExecutionEntry.request_finish (status : Option ReplyStatus) (count : Option Int)
    (e : ExecutionEntry) : (e.finish status count).request = e.request := by
  unfold finish
  split <;> rfl

theorem ExecutionEntry.id_addResponse_finish (m : Message) (status : Option ReplyStatus)
    (count : Option Int) (e : ExecutionEntry) : ((e.addResponse m).finish status count).id = e.id :=
  congrArg Message.msgId ((e.addResponse m).request_finish status count)

namespace ExecutionLog

/-- The ids of the tracked requests, in the order in which their entries stand. -/
def ids (log : ExecutionLog) : List String := log.entries.map (·.id)

/-- A change to the entry of an id is seen under that id, whatever the log. -/
theorem get?_update_self (log : ExecutionLog) (id : String) (f : ExecutionEntry → ExecutionEntry) :
    (log.update id f).1.get? id = (log.get? id).map f := by
  unfold update get?
  cases found : log.index.lookup id with
  | none => simp [found]
  | some i => by_cases bound : i < log.entries.length <;> simp [found, bound]

/-- The index names the place of every entry, and no id stands twice. -/
structure Indexed (log : ExecutionLog) : Prop where
  index_eq : log.index = log.ids.zipIdx
  nodup : log.ids.Nodup

theorem lookup_zipIdx {ids : List String} (nodup : ids.Nodup) (start : Nat) (id : String) (i : Nat) :
    (ids.zipIdx start).lookup id = some i ↔ start ≤ i ∧ ids[i - start]? = some id := by
  -- the rest of the ids is numbered from the next number on
  induction ids generalizing start with
  | nil => simp
  | cons head rest ih =>
    obtain ⟨fresh, later⟩ := List.nodup_cons.mp nodup
    rw [List.zipIdx_cons, List.lookup_cons]
    by_cases here : id = head
    · subst here
      simp only [beq_self_eq_true, Option.some.injEq]
      constructor
      · rintro rfl
        simp
      · rintro ⟨bound, found⟩
        cases distance : i - start with
        | zero => omega
        | succ n =>
          rw [distance, List.getElem?_cons_succ] at found
          exact absurd (List.mem_of_getElem? found) fresh
    · rw [beq_eq_false_iff_ne.mpr here]
      simp only [ih later]
      constructor
      · rintro ⟨bound, found⟩
        refine ⟨by omega, ?_⟩
        rw [show i - start = (i - (start + 1)) + 1 by omega, List.getElem?_cons_succ]
        exact found
      · rintro ⟨bound, found⟩
        cases distance : i - start with
        | zero =>
          rw [distance, List.getElem?_cons_zero] at found
          exact absurd (Option.some.inj found).symm here
        | succ n =>
          rw [distance, List.getElem?_cons_succ] at found
          exact ⟨by omega, by rwa [show i - (start + 1) = n by omega]⟩

variable {log : ExecutionLog}

theorem Indexed.lookup_iff (good : log.Indexed) (id : String) (i : Nat) :
    log.index.lookup id = some i ↔ ∃ e, log.entries[i]? = some e ∧ e.id = id := by
  rw [good.index_eq, lookup_zipIdx good.nodup]
  simp [ids]

theorem Indexed.lookup_lt (good : log.Indexed) {id : String} {i : Nat}
    (found : log.index.lookup id = some i) : i < log.entries.length := by
  obtain ⟨e, place, _⟩ := (good.lookup_iff id i).mp found
  exact (List.getElem?_eq_some_iff.mp place).1

/-- An entry is found by its id, and by no other. -/
theorem Indexed.get?_eq_some (good : log.Indexed) {id : String} {e : ExecutionEntry} :
    log.get? id = some e ↔ e ∈ log.entries ∧ e.id = id := by
  unfold get?
  rw [Option.bind_eq_some_iff]
  constructor
  · rintro ⟨i, found, place⟩
    obtain ⟨other, same, named⟩ := (good.lookup_iff id i).mp found
    rw [place] at same
    cases Option.some.inj same
    exact ⟨List.mem_of_getElem? place, named⟩
  · rintro ⟨member, named⟩
    obtain ⟨i, bound, here⟩ := List.getElem_of_mem member
    have place : log.entries[i]? = some e := by rw [List.getElem?_eq_getElem bound, here]
    exact ⟨i, (good.lookup_iff id i).mpr ⟨e, place, named⟩, place⟩

theorem Indexed.get?_eq_none (good : log.Indexed) {id : String} :
    log.get? id = none ↔ id ∉ log.ids := by
  constructor
  · intro missing member
    obtain ⟨e, tracked, named⟩ := List.mem_map.mp member
    rw [good.get?_eq_some.mpr ⟨tracked, named⟩] at missing
    cases missing
  · intro missing
    cases found : log.get? id with
    | none => rfl
    | some e =>
      obtain ⟨tracked, named⟩ := good.get?_eq_some.mp found
      exact absurd (List.mem_map.mpr ⟨e, tracked, named⟩) missing

/-- Changes the entry of an id, wherever it stands. -/
def mapEntry (log : ExecutionLog) (id : String) (f : ExecutionEntry → ExecutionEntry) : ExecutionLog :=
  { log with entries := log.entries.map fun e => if e.id = id then f e else e }

theorem Indexed.update_eq (good : log.Indexed) (id : String) (f : ExecutionEntry → ExecutionEntry) :
    log.update id f = (log.mapEntry id f, (log.get? id).isSome) := by
  unfold update
  cases found : log.index.lookup id with
  | none =>
    have missing : log.get? id = none := by rw [get?, found, Option.bind_none]
    have untracked := good.get?_eq_none.mp missing
    have same : log.entries.map (fun e => if e.id = id then f e else e) = log.entries := by
      refine (List.map_congr_left fun e tracked => ?_).trans (List.map_id _)
      exact if_neg fun named => untracked (List.mem_map.mpr ⟨e, tracked, named⟩)
    simp only [missing, mapEntry, same, Option.isSome_none]
  | some i =>
    obtain ⟨e, place, named⟩ := (good.lookup_iff id i).mp found
    have present : (log.get? id).isSome = true := by
      rw [get?, found, Option.bind_some, place, Option.isSome_some]
    have same : log.entries.modify i f = log.entries.map (fun e => if e.id = id then f e else e) := by
      refine List.ext_getElem? fun j => ?_
      rw [List.getElem?_modify, List.getElem?_map]
      cases other : log.entries[j]? with
      | none => rfl
      | some o =>
        have here : i = j ↔ o.id = id := by
          rw [← Option.some.injEq, ← found, good.lookup_iff, other]
          simp
        simp [here]
    simp only [if_pos (good.lookup_lt found), present, mapEntry, same]

theorem Indexed.of_ids (good : log.Indexed) {other : ExecutionLog} (index : other.index = log.index)
    (ids : other.ids = log.ids) : other.Indexed :=
  ⟨by rw [index, ids, good.index_eq], by rw [ids]; exact good.nodup⟩

section mapEntry

variable {id : String} {f : ExecutionEntry → ExecutionEntry} (keeps : ∀ e, e.id = id → (f e).id = id)
include keeps

theorem ids_mapEntry (log : ExecutionLog) : (log.mapEntry id f).ids = log.ids := by
  simp only [ids, mapEntry, List.map_map]
  refine List.map_congr_left fun e _ => ?_
  rw [Function.comp_apply]
  split
  · rename_i named
    rw [keeps e named, named]
  · rfl

theorem Indexed.mapEntry (good : log.Indexed) : (log.mapEntry id f).Indexed :=
  good.of_ids rfl (ids_mapEntry keeps log)

theorem Indexed.get?_mapEntry (good : log.Indexed) (other : String) :
    (log.mapEntry id f).get? other = (log.get? other).map fun e => if other = id then f e else e := by
  refine Option.ext fun e => ?_
  rw [(good.mapEntry keeps).get?_eq_some, Option.map_eq_some_iff]
  constructor
  · rintro ⟨tracked, named⟩
    obtain ⟨old, member, rfl⟩ := List.mem_map.mp tracked
    have same : old.id = other := by
      rw [← named]
      split
      · rename_i here
        rw [keeps old here, here]
      · rfl
    exact ⟨old, good.get?_eq_some.mpr ⟨member, same⟩, by rw [same]⟩
  · rintro ⟨old, found, rfl⟩
    obtain ⟨member, same⟩ := good.get?_eq_some.mp found
    refine ⟨List.mem_map.mpr ⟨old, member, by rw [same]⟩, ?_⟩
    split
    · rename_i here
      rw [keeps old (same.trans here), here]
    · exact same

end mapEntry

section update

variable {f : ExecutionEntry → ExecutionEntry} (keeps : ∀ e, (f e).id = e.id)
include keeps

theorem Indexed.update (good : log.Indexed) (id : String) : (log.update id f).1.Indexed := by
  rw [good.update_eq]
  exact good.mapEntry fun e same => (keeps e).trans same

theorem Indexed.ids_update (good : log.Indexed) (id : String) : (log.update id f).1.ids = log.ids := by
  rw [good.update_eq]
  exact ids_mapEntry (fun e same => (keeps e).trans same) log

theorem Indexed.get?_update (good : log.Indexed) (id other : String) :
    (log.update id f).1.get? other = (log.get? other).map fun e => if other = id then f e else e := by
  rw [good.update_eq]
  exact good.get?_mapEntry (fun e same => (keeps e).trans same) other

end update

theorem Indexed.insert_tracked (good : log.Indexed) {request : Message} (tracked : request.msgId ∈ log.ids) :
    log.insert request = log.mapEntry request.msgId fun _ => .new request := by
  obtain ⟨e, member, named⟩ := List.mem_map.mp tracked
  obtain ⟨i, bound, here⟩ := List.getElem_of_mem member
  have place : log.entries[i]? = some e := by rw [List.getElem?_eq_getElem bound, here]
  have found := (good.lookup_iff request.msgId i).mpr ⟨e, place, named⟩
  have updated := congrArg Prod.fst (good.update_eq request.msgId fun _ => .new request)
  simp only [ExecutionLog.update, found, if_pos bound] at updated
  have some_entry : Inhabited ExecutionEntry := ⟨e⟩
  rw [← updated, List.modify_eq_set, insert, found]

theorem Indexed.insert_untracked (good : log.Indexed) {request : Message}
    (untracked : request.msgId ∉ log.ids) :
    log.insert request =
      ⟨log.entries ++ [.new request], log.index ++ [(request.msgId, log.entries.length)]⟩ := by
  have missing := good.get?_eq_none.mpr untracked
  cases found : log.index.lookup request.msgId with
  | none => rw [insert, found]
  | some i =>
    rw [get?, found, Option.bind_some, List.getElem?_eq_none_iff] at missing
    exact absurd (good.lookup_lt found) (Nat.not_lt.mpr missing)

theorem id_new_of_eq (request : Message) :
    ∀ e : ExecutionEntry, e.id = request.msgId → (ExecutionEntry.new request).id = request.msgId :=
  fun _ _ => rfl

/-- A request that is tracked already is replaced where it stands, any other comes last. -/
theorem Indexed.ids_insert (good : log.Indexed) (request : Message) :
    (log.insert request).ids =
      if request.msgId ∈ log.ids then log.ids else log.ids ++ [request.msgId] := by
  by_cases tracked : request.msgId ∈ log.ids
  · rw [if_pos tracked, good.insert_tracked tracked, ids_mapEntry (id_new_of_eq request)]
  · rw [if_neg tracked, good.insert_untracked tracked]
    simp [ids, ExecutionEntry.id_new]

theorem Indexed.insert (good : log.Indexed) (request : Message) : (log.insert request).Indexed := by
  by_cases tracked : request.msgId ∈ log.ids
  · rw [good.insert_tracked tracked]
    exact good.mapEntry (id_new_of_eq request)
  · have names := good.ids_insert request
    rw [if_neg tracked] at names
    refine ⟨?_, ?_⟩
    · rw [names, good.insert_untracked tracked, List.zipIdx_append, ← good.index_eq]
      simp [ids]
    · rw [names, List.nodup_append]
      refine ⟨good.nodup, by simp, fun id member other last same => tracked ?_⟩
      rwa [← List.mem_singleton.mp last, ← same]

theorem Indexed.get?_insert (good : log.Indexed) (request : Message) (id : String) :
    (log.insert request).get? id =
      if id = request.msgId then some (.new request) else log.get? id := by
  by_cases tracked : request.msgId ∈ log.ids
  · rw [good.insert_tracked tracked, good.get?_mapEntry (id_new_of_eq request)]
    split
    · rename_i named
      cases found : log.get? id with
      | none => exact absurd (named ▸ tracked) (good.get?_eq_none.mp found)
      | some e => rfl
    · exact Option.map_id'
  · refine Option.ext fun e => ?_
    rw [(good.insert request).get?_eq_some, good.insert_untracked tracked]
    simp only [List.mem_append, List.mem_singleton]
    split
    · rename_i named
      rw [Option.some.injEq]
      constructor
      · rintro ⟨old | rfl, same⟩
        · exact absurd (List.mem_map.mpr ⟨e, old, same.trans named⟩) tracked
        · rfl
      · rintro rfl
        exact ⟨Or.inr rfl, named.symm⟩
    · rename_i different
      rw [good.get?_eq_some]
      constructor
      · rintro ⟨old | rfl, same⟩
        · exact ⟨old, same⟩
        · exact absurd same.symm different
      · rintro ⟨old, same⟩
        exact ⟨Or.inl old, same⟩

/-- Gives an entry up if it is pending. -/
def giveUp (e : ExecutionEntry) : ExecutionEntry := if e.isPending then e.abandon else e

theorem id_giveUp (e : ExecutionEntry) : (giveUp e).id = e.id := by
  unfold giveUp
  split <;> rfl

theorem isPending_giveUp (e : ExecutionEntry) : (giveUp e).isPending = false := by
  unfold giveUp
  split
  · exact Bool.and_false _
  · rename_i done
    exact Bool.eq_false_iff.mpr done

/-- Nothing is pending once everything pending has been given up. -/
theorem hasPending_abandonPending (log : ExecutionLog) : log.abandonPending.1.hasPending = false := by
  rw [hasPending, List.any_eq_false]
  intro e member
  obtain ⟨old, _, rfl⟩ := List.mem_map.mp member
  exact Bool.eq_false_iff.mp (isPending_giveUp old)

theorem ids_abandonPending (log : ExecutionLog) : log.abandonPending.1.ids = log.ids := by
  simp only [ids, ExecutionLog.abandonPending, List.map_map]
  exact List.map_congr_left fun e _ => id_giveUp e

theorem Indexed.abandonPending (good : log.Indexed) : log.abandonPending.1.Indexed :=
  good.of_ids rfl (ids_abandonPending log)

theorem Indexed.get?_abandonPending (good : log.Indexed) (id : String) :
    log.abandonPending.1.get? id = (log.get? id).map giveUp := by
  refine Option.ext fun e => ?_
  rw [good.abandonPending.get?_eq_some, Option.map_eq_some_iff]
  constructor
  · rintro ⟨tracked, named⟩
    obtain ⟨old, member, rfl⟩ := List.mem_map.mp tracked
    exact ⟨old, good.get?_eq_some.mpr ⟨member, (id_giveUp old).symm.trans named⟩, rfl⟩
  · rintro ⟨old, found, rfl⟩
    obtain ⟨member, same⟩ := good.get?_eq_some.mp found
    exact ⟨List.mem_map.mpr ⟨old, member, rfl⟩, (id_giveUp old).trans same⟩

theorem empty_indexed : ExecutionLog.empty.Indexed := ⟨rfl, List.nodup_nil⟩

end ExecutionLog
end KernelLink
