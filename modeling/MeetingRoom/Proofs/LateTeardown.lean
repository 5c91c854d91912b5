import MeetingRoom.Proofs.Exchange

/-!
Teardowns that come late. Whoever ends a session lets go of it before releasing the transport, and
an attempt waits for other attempts only. So a teardown can take effect when a newer session has
been let in already: exactly if it was still outstanding then, since none is added while the
session lasts.
-/

namespace MeetingRoom

variable {Remote : Type}

namespace Room

/-- In the same epoch a teardown that is there after a step was there before it. -/
theorem Coherent.teardown_before {room next : Room Remote} (coherent : room.Coherent)
    {action : Action Remote} (stepped : room.step? action = some next)
    (same : next.session.epoch = room.session.epoch) {id : TaskId} {task : Session.Task Remote}
    (found : next.task? id = some task) (tears : task.tearsDown = true) :
    room.task? id = some task ∧ (id ∈ room.asked → id ∈ next.asked) := by
  rcases coherent.moves_of_step stepped with ⟨mover, moving, part, _moved, moves, rfl⟩ |
      ⟨operation, rfl⟩ | ⟨asker, rfl⟩ | ⟨view, event, rfl⟩ | ⟨text?, rfl⟩
  · rw [session_enact] at same
    rcases moves.origin found with ⟨_own, waits⟩ | ⟨different, kept, old⟩ | ⟨_heir, new⟩
    · have later := moves.tears task waits tears
      omega
    · refine ⟨old, ?_⟩
      intro asked
      exact (mem_asked_enact room mover part id).mpr ⟨asked, different, kept⟩
    · obtain ⟨_enables, started, _rest⟩ := moves.listener_eq new
      rw [started] at tears
      cases tears
  · cases stepped
    rcases origin_start found with old | ⟨_same, new⟩
    · exact ⟨old, fun asked => asked⟩
    · subst new
      cases operation <;> cases tears
  · obtain ⟨waiting, _found, _asks, _new, rfl⟩ := ask?_eq_some_iff.mp stepped
    exact ⟨found, fun asked => List.mem_append_left _ asked⟩
  · cases stepped
    exact ⟨found, fun asked => asked⟩
  · cases stepped
    exact ⟨found, fun asked => asked⟩

theorem Coherent.epoch_le {room next : Room Remote} (coherent : room.Coherent)
    {action : Action Remote} (stepped : room.step? action = some next) :
    room.session.epoch ≤ next.session.epoch := by
  rw [epoch_step coherent stepped]
  exact Nat.le_add_right _ _

end Room

namespace Exchange

/-- No teardown of a session that has ended is still to take effect. -/
def AllDown (exchange : Exchange Remote) : Prop :=
  ∀ id task, exchange.room.task? id = some task → task.tearsDown = true → id ∈ exchange.carried

theorem AllDown.of_all {exchange : Exchange Remote}
    (all : (exchange.room.tasks.all fun entry =>
      !entry.2.tearsDown || exchange.carried.contains entry.1) = true) : exchange.AllDown := by
  intro id task found tears
  obtain ⟨entry, hit, same⟩ := Option.map_eq_some_iff.mp found
  have key : entry.1 = id := by simpa using List.find?_some hit
  have each := List.all_eq_true.mp all entry (List.mem_of_find?_eq_some hit)
  rw [same, tears, key] at each
  exact List.contains_iff_mem.mp each

/-- As long as the session lasts, all teardowns stay done. -/
private theorem AllDown.step {exchange next : Exchange Remote} (down : exchange.AllDown)
    (sound : exchange.Sound) {action : Action Remote}
    (stepped : exchange.step? action = some next)
    (same : next.room.session.epoch = exchange.room.session.epoch) : next.AllDown := by
  intro id task found tears
  cases action with
  | room action =>
      obtain ⟨_permitted, room, moved, rfl⟩ := act?_eq_some_iff.mp stepped
      obtain ⟨old, kept⟩ := sound.coherent.teardown_before moved same found tears
      have carried := down id task old tears
      have asked := kept (sound.asked id carried)
      exact List.mem_filter.mpr ⟨carried, List.contains_iff_mem.mpr asked⟩
  | effect other =>
      obtain ⟨asking, ask, _found, _asks, _asked, _new, rfl⟩ := effect?_eq_some_iff.mp stepped
      rw [room_carryOut] at found
      exact List.mem_append_left _ (down id task found tears)

private theorem epoch_le_step {exchange next : Exchange Remote} (sound : exchange.Sound)
    {action : Action Remote} (stepped : exchange.step? action = some next) :
    exchange.room.session.epoch ≤ next.room.session.epoch := by
  cases action with
  | room action =>
      obtain ⟨_permitted, room, moved, rfl⟩ := act?_eq_some_iff.mp stepped
      exact sound.coherent.epoch_le moved
  | effect other =>
      obtain ⟨asking, ask, _found, _asks, _asked, _new, rfl⟩ := effect?_eq_some_iff.mp stepped
      have same := room_carryOut exchange asking ask
      exact Nat.le_of_eq (congrArg (fun room => room.session.epoch) same).symm

structure DownWhile (epoch : Nat) (exchange : Exchange Remote) : Prop where
  sound : exchange.Sound
  reached : epoch ≤ exchange.room.session.epoch
  down : exchange.room.session.epoch = epoch → exchange.AllDown

private theorem DownWhile.step {epoch : Nat} {exchange next : Exchange Remote}
    {action : Action Remote} (before : exchange.DownWhile epoch)
    (stepped : exchange.step? action = some next) : next.DownWhile epoch := by
  have onwards := epoch_le_step before.sound stepped
  have reached := before.reached
  refine ⟨before.sound.step stepped, Nat.le_trans reached onwards, ?_⟩
  intro current
  have still : exchange.room.session.epoch = epoch := by omega
  exact (before.down still).step before.sound stepped (by omega)

private theorem DownWhile.run {epoch : Nat} {first last : Exchange Remote}
    {actions : List (Action Remote)} (before : first.DownWhile epoch)
    (ran : first.run? actions = some last) : last.DownWhile epoch := by
  refine run_keeps ?_ before ran
  intro exchange action next holds stepped
  exact holds.step stepped

private theorem effect_of_asked {exchange : Exchange Remote} {id : Room.TaskId}
    {task : Session.Task Remote} (found : exchange.room.task? id = some task)
    (asks : task.ask? = some .disconnect) (asked : id ∈ exchange.room.asked)
    (outstanding : id ∉ exchange.carried) : ∃ after, exchange.step? (.effect id) = some after :=
  ⟨_, effect?_eq_some_iff.mpr ⟨task, _, found, asks, asked, outstanding, rfl⟩⟩

private theorem ask_of_unasked {exchange : Exchange Remote} {id : Room.TaskId}
    {task : Session.Task Remote} (found : exchange.room.task? id = some task)
    (asks : task.ask? = some .disconnect) (unasked : id ∉ exchange.room.asked)
    (outstanding : id ∉ exchange.carried) :
    ∃ next, exchange.step? (.room (.ask id)) = some next ∧
      next.room.session = exchange.room.session ∧ next.room.task? id = some task ∧
      id ∈ next.room.asked ∧ id ∉ next.carried := by
  have requested : exchange.room.step? (.ask id) =
      some { exchange.room with asked := exchange.room.asked ++ [id] } :=
    Room.ask?_eq_some_iff.mpr ⟨task, found, by rw [asks]; rfl, unasked, rfl⟩
  refine ⟨_, act?_eq_some_iff.mpr ⟨rfl, _, requested, rfl⟩, rfl, found, ?_, ?_⟩
  · exact List.mem_append_right _ (List.mem_singleton_self id)
  · intro carried
    exact outstanding (List.mem_filter.mp carried).1

theorem ask?_of_tearsDown {task : Session.Task Remote} (tears : task.tearsDown = true) :
    task.ask? = some .disconnect := by
  cases task with
  | attempt request stage => cases tears
  | toggle track stage => cases tears
  | hangUp stage =>
      cases stage with
      | starting => cases tears
      | releasing => rfl
  | listener epoch stage =>
      cases stage with
      | releasing => rfl
      | _ => cases tears

/-- An outstanding teardown can take effect without anything else happening before. -/
private theorem effect_of_outstanding {exchange : Exchange Remote} {id : Room.TaskId}
    {task : Session.Task Remote} (found : exchange.room.task? id = some task)
    (tears : task.tearsDown = true) (outstanding : id ∉ exchange.carried) :
    ∃ actions last after, exchange.run? actions = some last ∧
      last.room.session = exchange.room.session ∧ last.room.task? id = some task ∧
      last.step? (.effect id) = some after := by
  have asks := ask?_of_tearsDown tears
  by_cases asked : id ∈ exchange.room.asked
  · obtain ⟨after, effected⟩ := effect_of_asked found asks asked outstanding
    exact ⟨[], exchange, after, rfl, rfl, found, effected⟩
  · obtain ⟨next, stepped, session, still, requested, waiting⟩ :=
      ask_of_unasked found asks asked outstanding
    obtain ⟨after, effected⟩ := effect_of_asked still asks requested waiting
    refine ⟨[.room (.ask id)], next, after, ?_, session, still, effected⟩
    rw [run?, List.foldlM_cons, stepped]
    rfl

/-- An accepted handshake connects the session and leaves all teardowns where they are. -/
private theorem accept_step {exchange next : Exchange Remote} {id : Room.TaskId}
    {view : Media.View Remote} {request : Session.Request}
    (settling : exchange.room.task? id =
      some (.attempt request (.settling exchange.room.session.epoch (.ok ()))))
    (accepted : exchange.step? (.room (.work id view)) = some next) :
    next.room.session.call = .connected ∧
      next.room.session.epoch = exchange.room.session.epoch ∧
      ∀ other task, exchange.room.task? other = some task → task.tearsDown = true →
        next.room.task? other = some task ∧ (other ∈ next.carried → other ∈ exchange.carried) := by
  obtain ⟨_permitted, room, moved, same⟩ := act?_eq_some_iff.mp accepted
  obtain ⟨task, part, found, _may, worked, enacted⟩ := Room.work?_eq_some_iff.mp moved
  rw [settling] at found
  cases found
  have settled : part = Session.Attempt.settle request exchange.room.session.epoch (.ok ()) view
      exchange.room.session := by
    cases worked
    rfl
  have session : next.room.session = part.session := by
    rw [← same, ← enacted, Room.session_enact]
  rw [session]
  refine ⟨?_, ?_, ?_⟩
  · rw [settled, Session.Attempt.settle, if_pos rfl]
    rfl
  · rw [settled, Session.Attempt.settle, if_pos rfl]
    rfl
  · intro other task found tears
    have different : other ≠ id := by
      intro own
      rw [own, settling] at found
      cases found
      cases tears
    have kept : part.dropped.map Room.TaskId.listener ≠ some other := by
      rw [settled, Session.Attempt.settle, if_pos rfl]
      intro dropped
      cases dropped
    constructor
    · rw [← same, ← enacted, Room.task?_enact settling, if_neg kept, if_neg different, found]
      rfl
    · rw [← same]
      intro carried
      exact (List.mem_filter.mp carried).1

/-- Once the handshake of an attempt has been accepted, no teardown of a session that ended before
takes effect in its epoch, exactly if none was still outstanding at that moment. -/
theorem no_late_teardown_iff {limit : Duration} {actions : List (Action Remote)}
    {exchange next : Exchange Remote} {id : Room.TaskId} {view : Media.View Remote}
    {request : Session.Request} {epoch : Nat}
    (ran : (Exchange.new limit).run? actions = some exchange)
    (settling : exchange.room.task? id = some (.attempt request (.settling epoch (.ok ()))))
    (current : exchange.room.session.epoch = epoch)
    (accepted : exchange.step? (.room (.work id view)) = some next) :
    next.room.session.call = .connected ∧ next.room.session.epoch = epoch ∧
      ((∀ later last other task after, next.run? later = some last →
          last.room.session.epoch = epoch → last.room.task? other = some task →
          last.step? (.effect other) = some after → task.tearsDown = false) ↔
        ∀ other task, exchange.room.task? other = some task → task.tearsDown = true →
          other ∈ exchange.carried) := by
  subst current
  have sound := Sound.run ran
  obtain ⟨connected, epoch, kept⟩ := accept_step settling accepted
  refine ⟨connected, epoch, ?_⟩
  constructor
  · intro never other task found tears
    apply Decidable.byContradiction
    intro outstanding
    obtain ⟨still, carried⟩ := kept other task found tears
    have waiting : other ∉ next.carried := fun member => outstanding (carried member)
    obtain ⟨later, last, after, ran, unchanged, landing, effected⟩ :=
      effect_of_outstanding still tears waiting
    have harmless := never later last other task after ran (by rw [unchanged, epoch]) landing effected
    rw [tears] at harmless
    cases harmless
  · intro allDown later last other task after ran unchanged found effected
    have down : exchange.AllDown := allDown
    have accepting : next.DownWhile exchange.room.session.epoch :=
      ⟨sound.step accepted, Nat.le_of_eq epoch.symm, fun _ => down.step sound accepted epoch⟩
    have settledDown := (accepting.run ran).down unchanged
    obtain ⟨asking, ask, same, _asks, _asked, fresh, _after⟩ := effect?_eq_some_iff.mp effected
    cases tears : task.tearsDown with
    | false => rfl
    | true => exact absurd (settledDown other task found tears) fresh

def handshake (number : Nat) : List (Action Unit) :=
  [.room (.call (.join { url := "wss://media", token := "token", audio := false, video := false })),
    .room (.work (.call number) .empty), .room (.work (.call number) .empty),
    .room (.work (.call number) .empty), .room (.ask (.call number)), .effect (.call number),
    .room (.answer (.call number) .done)]

/-- A session that is hung up, and another attempt while the hang-up waits for the transport. -/
def rejoin (meanwhile : List (Action Unit)) : List (Action Unit) :=
  handshake 0 ++ [.room (.work (.call 0) .empty), .room (.work (.call 0) .empty),
    .room (.call .hangUp), .room (.work (.call 1) .empty), .room (.ask (.call 1))] ++
    meanwhile ++ handshake 2

theorem no_late_teardown_after_effect :
    ∃ exchange next, (Exchange.new (.ofSeconds 15 0)).run? (rejoin [.effect (.call 1)]) =
        some exchange ∧
      exchange.step? (.room (.work (.call 2) .empty)) = some next ∧
      ∀ later last other task after, next.run? later = some last → last.room.session.epoch = 3 →
        last.room.task? other = some task → last.step? (.effect other) = some after →
        task.tearsDown = false := by
  refine ⟨_, _, rfl, rfl, ?_⟩
  have exact := @no_late_teardown_iff Unit (.ofSeconds 15 0) (rejoin [.effect (.call 1)]) _ _
    (.call 2) .empty _ 3 rfl rfl rfl rfl
  exact exact.2.2.mpr (AllDown.of_all rfl)

/-- The teardown of a hang-up can hit the session that has come after it. -/
theorem teardown_hits_newer_session :
    ∃ exchange next after, (Exchange.new (.ofSeconds 15 0)).run? (rejoin []) = some exchange ∧
      exchange.step? (.room (.work (.call 2) .empty)) = some next ∧
      next.room.session.call = .connected ∧ next.connected = true ∧
      next.room.task? (.call 1) = some (.hangUp .releasing) ∧
      next.step? (.effect (.call 1)) = some after ∧
      after.room.session.epoch = next.room.session.epoch ∧
      after.room.session.call = .connected ∧ after.connected = false :=
  ⟨_, _, _, rfl, rfl, rfl, rfl, rfl, rfl, rfl, rfl, rfl⟩

end Exchange

end MeetingRoom
