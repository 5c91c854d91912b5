import MeetingRoom.Proofs.Coherence
import MeetingRoom.Proofs.Entries
import MeetingRoom.Proofs.Touches

/-!
A room and the feed of the handshake that was made last. Handlers see the feed's view as it is then,
the listener takes the feed's events in order and at its own pace, and the feed changes whenever it
likes. Here is what a room and its feed keep, and that a task which moves keeps it: a resync begins
anew with all events of the feed, and an event that is handled has been foreseen.
-/

namespace MeetingRoom

variable {Remote : Type}

namespace Session

def Attempt.isOpened : Attempt → Bool
  | .settling _ (.ok _) => true
  | .enabling _ _ => true
  | .switching _ _ _ => true
  | _ => false

theorem Attempt.hasTurn_of_isOpened {stage : Attempt} (opened : stage.isOpened = true) :
    stage.hasTurn = true := by
  cases stage <;> first | rfl | cases opened

theorem Attempt.epoch?_of_isOpened {request : Request} {stage : Attempt}
    (opened : stage.isOpened = true) :
    (Task.attempt request stage : Task Remote).epoch?.isSome = true := by
  cases stage <;> first | rfl | cases opened

theorem Task.Follows.isOpened {session : Session Remote} {request laterRequest : Request}
    {stage later : Attempt}
    (follows : Follows session (.attempt request stage : Task Remote)
      (.attempt laterRequest later))
    (opened : later.isOpened = true) : stage.isOpened = true ∨
      ∃ epoch, stage = .handshake epoch ∧ later = .settling epoch (.ok ()) := by
  cases follows with
  | shaken _ epoch answer =>
      cases answer with
      | ok done => exact Or.inr ⟨epoch, rfl, rfl⟩
      | error fault => cases opened
  | admitted => cases opened
  | linedUp => cases opened
  | turned => cases opened
  | failed => cases opened
  | discarded => cases opened
  | tooLate => cases opened
  | _ => exact Or.inl rfl

/-- An attempt that brings up devices did so before, unless the session has just become live. -/
theorem Task.Follows.joining {session : Session Remote} {request laterRequest : Request}
    {stage later : Attempt}
    (follows : Follows session (.attempt request stage : Task Remote)
      (.attempt laterRequest later))
    (joins : (Task.attempt laterRequest later : Task Remote).phase? = some .live) :
    (Task.attempt request stage : Task Remote).phase? = some .live ∧
        (Task.attempt request stage : Task Remote).epoch? =
          (Task.attempt laterRequest later : Task Remote).epoch? ∨
      stage = .settling session.epoch (.ok ()) := by
  cases follows with
  | accepted => exact Or.inr rfl
  | enables => exact Or.inl ⟨rfl, rfl⟩
  | skips => exact Or.inl ⟨rfl, rfl⟩
  | switched => exact Or.inl ⟨rfl, rfl⟩
  | _ => cases joins

def Toggle.identity? : Toggle → Option String
  | .switching _ identity _ => some identity
  | .settling _ identity _ => some identity
  | _ => none

theorem Toggle.phase?_of_identity? {track : Media.Track} {stage : Toggle} {identity : String}
    (switches : stage.identity? = some identity) :
    (Task.toggle track stage : Task Remote).phase? = some .live := by
  cases stage with
  | starting => cases switches
  | switching epoch own target => rfl
  | settling epoch own target => rfl

/-- What a session keeps while a feed serves it: in the end of the events that it has not dealt with
every entry is right, as long as there is a session to be right about. -/
structure Serves (session : Session Remote) (feed : Feed Remote)
    (waiting : List (Media.Event Remote)) : Prop where
  quiet : session.phase ≠ .live → session.identity = none
  knows : session.phase = .live → session.Knows feed
  settles : session.phase = .live → ∀ identity, identity ≠ feed.own.identity →
    feed.Settles identity waiting (session.call, session.entry identity)
  listening : ∀ number, session.listener = some number → number = feed.call

end Session

/-- A room and the feed of the handshake that was made last. -/
structure Reception (Remote : Type) where
  room : Room Remote
  feed : Feed Remote

namespace Reception

def inHand (epoch : Nat) : Option (Session.Task Remote) → List (Media.Event Remote)
  | some (.listener own (.holding (some event))) => if own = epoch then [event] else []
  | _ => []

def queue (reception : Reception Remote) : List (Media.Event Remote) :=
  inHand reception.room.session.epoch
      (reception.room.task? (.listener reception.feed.call)) ++ reception.feed.queue

/-- What the room may do by itself. Sections see the view of the feed, a handshake comes through
only for the call that has opened the feed, other listeners may hear anything, and events come by
listeners only. -/
def Permits (reception : Reception Remote) : Room.Action Remote → Prop
  | .work _ view => view = reception.feed.view
  | .answer id answer => ∀ request epoch, answer = .done →
      reception.room.task? id = some (.attempt request (.handshake epoch)) →
        id.number = reception.feed.call
  | .hear number _ => number ≠ reception.feed.call
  | .event _ _ => False
  | _ => True

inductive Step (before after : Reception Remote) : Prop where
  /-- Something happens to the transport. -/
  | happens (added : List (Media.Event Remote)) (room : after.room = before.room)
      (happens : before.feed.Happens after.feed added)
  /-- A handshake opens a new feed. -/
  | opens (number epoch : Nat) (request : Session.Request)
      (shaking : before.room.task? (.call number) = some (.attempt request (.handshake epoch)))
      (room : after.room = before.room) (call : after.feed.call = number)
      (away : after.feed.away = false) (empty : after.feed.queue = [])
  | acts (action : Room.Action Remote) (permitted : before.Permits action)
      (stepped : before.room.step? action = some after.room) (feed : after.feed = before.feed)
  /-- The listener takes the next event. -/
  | hears (event : Media.Event Remote) (rest : List (Media.Event Remote))
      (next : before.feed.queue = event :: rest)
      (feed : after.feed = { before.feed with queue := rest })
      (stepped : before.room.step? (.hear before.feed.call (some event)) = some after.room)
  /-- The listener learns that there are no more events. -/
  | hearsEnd (empty : before.feed.queue = []) (feed : after.feed = before.feed)
      (stepped : before.room.step? (.hear before.feed.call none) = some after.room)

inductive Reaches (first : Reception Remote) : Reception Remote → Prop where
  | refl : Reaches first first
  | step {middle last : Reception Remote} (reached : Reaches first middle)
      (step : middle.Step last) : Reaches first last

structure Faithful (reception : Reception Remote) : Prop where
  coherent : reception.room.Coherent
  /-- Until its attempt has ended nobody has taken an event of the feed. -/
  fresh : (∃ task, reception.room.task? (.call reception.feed.call) = some task) ∨
    reception.room.calls ≤ reception.feed.call → reception.feed.Fresh
  opened : ∀ id request stage, reception.room.task? id = some (.attempt request stage) →
    stage.isOpened = true → id.number = reception.feed.call
  /-- While an attempt is bringing up devices the session is not reconnecting. -/
  joining : ∀ id request stage, reception.room.task? id = some (.attempt request stage) →
    (Session.Task.attempt request stage : Session.Task Remote).epoch? =
      some reception.room.session.epoch →
    (Session.Task.attempt request stage : Session.Task Remote).phase? = some .live →
      reception.room.session.call = .connected
  toggles : ∀ id track stage identity, reception.room.task? id = some (.toggle track stage) →
    (Session.Task.toggle track stage : Session.Task Remote).epoch? =
      some reception.room.session.epoch →
    stage.identity? = some identity → reception.room.session.identity = some identity
  /-- As long as there is a session, its own listener takes the events. -/
  heard : reception.room.session.phase = .live → ∀ epoch stage,
    reception.room.task? (.listener reception.feed.call) = some (.listener epoch stage) →
      epoch = reception.room.session.epoch
  serves : reception.room.session.Serves reception.feed reception.queue

theorem Faithful.new {limit : Duration} {feed : Feed Remote} (away : feed.away = false)
    (empty : feed.queue = []) : ({ room := Room.new limit, feed := feed } : Reception Remote).Faithful := by
  refine ⟨Room.Coherent.new limit, ?_, ?_, ?_, ?_, ?_, ?_⟩
  · intro _untouched
    exact Feed.fresh_of_empty away empty
  · intro id request stage found
    cases found
  · intro id request stage found
    cases found
  · intro id track stage identity found
    cases found
  · intro live
    cases live
  · refine ⟨?_, ?_, ?_, ?_⟩
    · intro _quiet
      rfl
    · intro live
      cases live
    · intro live
      cases live
    · intro number held
      cases held

/-! ### A task that moves -/

section Moves

open Session

variable {room : Room Remote} {feed : Feed Remote} {id : Room.TaskId} {task : Session.Task Remote}
  {part : Section Remote}

/-- A session that is live after a section is of the epoch it was of, and it was live before unless
a handshake has been accepted. -/
private theorem before_of_live (moves : room.Moves id task part)
    (live : part.session.phase = .live) : part.session.epoch = room.session.epoch ∧
      (room.session.phase = .live ∨
        ∃ request, task = .attempt request (.settling room.session.epoch (.ok ()))) := by
  cases moves.change with
  | continues same => exact ⟨same.epoch, Or.inl (same.phase ▸ live)⟩
  | accepts request settles epoch => exact ⟨epoch, Or.inr ⟨request, settles⟩⟩
  | completes _ _ epoch phase => exact ⟨epoch, Or.inl (phase ▸ live)⟩
  | admits _ _ _ _ _ phase => rw [phase] at live; cases live
  | fails _ _ _ _ phase => rw [phase] at live; cases live
  | hangsUp _ _ phase => rw [phase] at live; cases live
  | loses _ _ _ _ _ phase => rw [phase] at live; cases live

private theorem goesOn_of_live {session : Session Remote} {view : Media.View Remote}
    {event : Media.Event Remote} (lived : session.phase = .live)
    (live : (session.apply view event).session.phase = .live) : event.endsSession = false := by
  cases event with
  | disconnected reason =>
      rw [apply_disconnected lived] at live
      cases live
  | _ => rfl

/-- An attempt whose handshake has come through is that of the feed, and nobody listens yet. -/
private theorem Faithful.unheard
    (faithful : ({ room := room, feed := feed } : Reception Remote).Faithful) {request : Request}
    {stage : Attempt} (found : room.task? id = some (.attempt request stage))
    (opened : stage.isOpened = true) :
    id = .call feed.call ∧ room.task? (.listener feed.call) = none ∧ feed.Fresh := by
  have named := faithful.opened id request stage found opened
  obtain ⟨number, call⟩ := faithful.coherent.attempt_call found
  subst call
  change number = feed.call at named
  subst named
  refine ⟨rfl, ?_, faithful.fresh (Or.inl ⟨_, found⟩)⟩
  cases heir : room.task? (.listener feed.call) with
  | none => rfl
  | some listener =>
      have ended := (faithful.coherent.heirs feed.call listener heir).2.1
      rw [found] at ended
      cases ended

private theorem inHand_of_stale {epoch own : Nat} (stale : own ≠ epoch)
    (stage : Listening Remote) : inHand epoch (some (.listener own stage)) = [] := by
  cases stage with
  | waiting => rfl
  | releasing => rfl
  | holding event? =>
      cases event? with
      | none => rfl
      | some event => exact if_neg stale

/-- Listeners stay where they are when something else moves. -/
private theorem task?_listener_enact (moves : room.Moves id task part)
    (listener : part.listener = none) (dropped : part.dropped = none) {number : Nat}
    (other : id ≠ .listener number) :
    (room.enact id part).task? (.listener number) = room.task? (.listener number) := by
  rw [Room.task?_enact moves.found, listener, dropped, if_neg (Ne.symm other)]
  simp

private theorem task?_self_enact (moves : room.Moves id task part)
    (listener : part.listener = none) (dropped : part.dropped = none) :
    (room.enact id part).task? id = part.next.task? := by
  rw [Room.task?_enact moves.found, listener, dropped, if_pos rfl]
  simp

/-- What is in hand stays there unless the listener of the session moves. -/
private theorem inHand_enact (coherent : room.Coherent) (moves : room.Moves id task part)
    (listener : part.listener = none) (dropped : part.dropped = none)
    (stale : ∀ stage, task ≠ .listener room.session.epoch stage) (number : Nat) :
    inHand room.session.epoch ((room.enact id part).task? (.listener number)) =
      inHand room.session.epoch (room.task? (.listener number)) := by
  by_cases own : id = .listener number
  · subst own
    obtain ⟨epoch, stage, listens⟩ := (coherent.heirs number task moves.found).2.2
    subst listens
    have gone : epoch ≠ room.session.epoch := by
      intro current
      exact stale stage (by rw [current])
    rw [moves.found, inHand_of_stale gone, task?_self_enact moves listener dropped]
    cases next : part.next with
    | ends result => rfl
    | waits later =>
        obtain ⟨after, still⟩ := (moves.follows later next).listener
        subst still
        exact inHand_of_stale gone after
  · rw [task?_listener_enact moves listener dropped own]

/-- The listener of the session is that of the feed. -/
private theorem Faithful.listener_eq
    (faithful : ({ room := room, feed := feed } : Reception Remote).Faithful)
    {stage : Listening Remote}
    (found : room.task? id = some (.listener room.session.epoch stage)) :
    id = .listener feed.call := by
  have held := (faithful.coherent.fits id _ found).held _ rfl
  have named : id.number = feed.call := faithful.serves.listening id.number held
  cases id with
  | call number => exact absurd rfl ((faithful.coherent.calls number _ found).2 _ _)
  | listener number => exact congrArg Room.TaskId.listener named

/-- An event that is handled has been foreseen. -/
private theorem settles_handled
    (faithful : ({ room := room, feed := feed } : Reception Remote).Faithful)
    {event : Media.Event Remote}
    (moves : room.Moves id (.listener room.session.epoch (.holding (some event))) part)
    (listener : part.listener = none) (dropped : part.dropped = none)
    (lived : room.session.phase = .live) {identity : String}
    (remote : identity ≠ feed.own.identity) :
    feed.Settles identity
      (inHand room.session.epoch ((room.enact id part).task? (.listener feed.call)) ++ feed.queue)
      ((room.session.apply feed.view event).session.call,
        (room.session.apply feed.view event).session.entry identity) := by
  have own := faithful.listener_eq moves.found
  subst own
  have empty : inHand room.session.epoch
      ((room.enact (.listener feed.call) part).task? (.listener feed.call)) = [] := by
    rw [task?_self_enact moves listener dropped]
    cases next : part.next with
    | ends result => rfl
    | waits later => cases moves.follows later next <;> rfl
  have settles : feed.Settles identity
      (inHand room.session.epoch (room.task? (.listener feed.call)) ++ feed.queue)
      (room.session.call, room.session.entry identity) :=
    faithful.serves.settles lived identity remote
  rw [moves.found, inHand, if_pos rfl, List.singleton_append, Feed.Settles, List.foldl_cons,
    ← apply_foresee (faithful.serves.knows lived).identity remote event] at settles
  rw [empty]
  exact settles

variable (faithful : ({ room := room, feed := feed } : Reception Remote).Faithful)
  (moves : room.Moves id task part)

include faithful moves

private theorem listening_enact {number : Nat} (held : part.session.listener = some number) :
    number = feed.call := by
  have listening : room.session.listener = some number → number = feed.call :=
    faithful.serves.listening number
  cases moves.change with
  | continues same => exact listening (same.listener ▸ held)
  | admits _ _ _ _ _ _ same => exact listening (same ▸ held)
  | accepts _ _ _ _ same => exact listening (same ▸ held)
  | fails _ _ _ _ _ same => exact listening (same ▸ held)
  | completes request enables _ _ same =>
      rw [same] at held
      cases held
      exact faithful.opened id request _ (enables ▸ moves.found) rfl
  | hangsUp _ _ _ none => rw [none] at held; cases held
  | loses _ _ _ _ _ _ none => rw [none] at held; cases held

private theorem heard_enact (live : part.session.phase = .live) {epoch : Nat}
    {stage : Listening Remote}
    (found : (room.enact id part).task? (.listener feed.call) = some (.listener epoch stage)) :
    epoch = part.session.epoch := by
  rw [(before_of_live moves live).1]
  have lived : (∃ before, room.task? (.listener feed.call) = some (.listener epoch before)) →
      room.session.phase = .live := by
    intro listens
    rcases (before_of_live moves live).2 with lived | ⟨request, settles⟩
    · exact lived
    · have unheard := (faithful.unheard (settles ▸ moves.found) rfl).2.1
      obtain ⟨before, old⟩ := listens
      rw [old] at unheard
      cases unheard
  rcases moves.origin found with ⟨same, next⟩ | ⟨_different, _kept, old⟩ | ⟨_same, new⟩
  · obtain ⟨before, listens⟩ := (moves.follows _ next).of_listener
    have old : room.task? (.listener feed.call) = some (.listener epoch before) := by
      rw [same, moves.found, listens]
    exact faithful.heard (lived ⟨before, old⟩) epoch before old
  · exact faithful.heard (lived ⟨stage, old⟩) epoch stage old
  · cases (moves.listener_eq new).2.1
    rfl

private theorem toggles_enact
    (knows : part.session.phase = .live → part.session.Knows feed) {other : Room.TaskId}
    {track : Media.Track} {stage : Toggle} {identity : String}
    (found : (room.enact id part).task? other = some (.toggle track stage))
    (belongs : (Session.Task.toggle track stage : Session.Task Remote).epoch? =
      some part.session.epoch)
    (switches : stage.identity? = some identity) : part.session.identity = some identity := by
  have coherent := moves.coherent_enact faithful.coherent
  have fits := coherent.fits other _ found
  rw [Room.session_enact] at fits
  have live := fits.phase_eq belongs (Toggle.phase?_of_identity? switches)
  rw [(before_of_live moves live).1] at belongs
  have before : room.session.phase = .live ∧ room.session.identity = some identity := by
    rcases moves.origin found with ⟨_same, next⟩ | ⟨_different, _kept, old⟩ | ⟨_same, new⟩
    · cases moves.follows _ next with
      | toggles _track _identity _target lived known =>
          cases switches
          exact ⟨lived, known⟩
      | toggled _track epoch own target =>
          exact ⟨faithful.coherent.stage_phase moves.found belongs rfl,
            faithful.toggles id track _ identity moves.found belongs switches⟩
    · exact ⟨faithful.coherent.stage_phase old belongs (Toggle.phase?_of_identity? switches),
        faithful.toggles other track stage identity old belongs switches⟩
    · cases (moves.listener_eq new).2.1
  have own := (faithful.serves.knows before.1).identity
  rw [before.2] at own
  rw [own]
  exact (knows live).identity

variable (touches : Session.Task.Touches id.number feed.view room.session task part)

include touches

private theorem quiet_enact (idle : part.session.phase ≠ .live) : part.session.identity = none := by
  have quiet : room.session.phase ≠ .live → room.session.identity = none := faithful.serves.quiet
  cases touches with
  | nothing same =>
      rw [same] at idle ⊢
      exact quiet idle
  | outside was _phase identity =>
      rw [identity]
      exact quiet (by rw [was]; nofun)
  | accepts request settles after =>
      rw [after] at idle
      exact absurd rfl idle
  | fails request fault settles _phase identity =>
      have connecting := faithful.coherent.stage_phase (settles ▸ moves.found) rfl rfl
      rw [identity]
      exact quiet (by rw [connecting]; nofun)
  | completes request enables after =>
      have live := faithful.coherent.stage_phase (enables ▸ moves.found) rfl rfl
      rw [after] at idle
      exact absurd live idle
  | hangsUp _phase identity => exact identity
  | refreshes track identity target settles after =>
      have live := faithful.coherent.stage_phase (settles ▸ moves.found) rfl rfl
      rw [after, (continues_refreshMedia feed.view room.session identity).phase] at idle
      exact absurd live idle
  | handles event? holds after =>
      have live := faithful.coherent.stage_phase (holds ▸ moves.found) rfl rfl
      rw [after] at idle ⊢
      cases ends : (Listening.act event?).endsSession with
      | false =>
          rw [(continues_apply_of_goesOn ends feed.view).1.phase] at idle
          exact absurd live idle
      | true =>
          cases acted : Listening.act event? with
          | disconnected reason =>
              rw [apply_disconnected live]
              rfl
          | _ => rw [acted] at ends; cases ends

private theorem knows_enact (live : part.session.phase = .live) : part.session.Knows feed := by
  have knows : room.session.phase = .live → room.session.Knows feed := faithful.serves.knows
  cases touches with
  | nothing same =>
      rw [same] at live ⊢
      exact knows live
  | outside _was phase => exact absurd live phase
  | accepts request settles after =>
      have connecting := faithful.coherent.stage_phase (settles ▸ moves.found) rfl rfl
      have unknown : room.session.identity = none :=
        faithful.serves.quiet (by rw [connecting]; nofun)
      rw [after]
      exact knows_resync (Or.inl unknown)
  | fails request fault settles phase => exact absurd live phase
  | completes request enables after =>
      have lived := faithful.coherent.stage_phase (enables ▸ moves.found) rfl rfl
      have synced : (resync feed.view room.session).Knows feed :=
        knows_resync (Or.inr (knows lived).identity)
      rw [after]
      exact ⟨synced.identity, synced.own⟩
  | hangsUp phase => exact absurd live phase
  | refreshes track identity target settles after =>
      have lived := faithful.coherent.stage_phase (settles ▸ moves.found) rfl rfl
      rw [after]
      exact (knows lived).refreshMedia identity
  | handles event? holds after =>
      have lived := faithful.coherent.stage_phase (holds ▸ moves.found) rfl rfl
      rw [after] at live ⊢
      exact (knows lived).apply (goesOn_of_live lived live)

/-- What the events still do to an entry stays right: a resync begins anew with all of them, and an
event that is handled has been foreseen. -/
private theorem settles_enact (live : part.session.phase = .live) {identity : String}
    (remote : identity ≠ feed.own.identity) :
    feed.Settles identity
      (inHand part.session.epoch ((room.enact id part).task? (.listener feed.call)) ++ feed.queue)
      (part.session.call, part.session.entry identity) := by
  have coherent : room.Coherent := faithful.coherent
  have settles : room.session.phase = .live → feed.Settles identity
      (inHand room.session.epoch (room.task? (.listener feed.call)) ++ feed.queue)
      (room.session.call, room.session.entry identity) := fun lived =>
    faithful.serves.settles lived identity remote
  have epoch := (before_of_live moves live).1
  cases touches with
  | nothing same stale listener dropped =>
      rw [same] at live ⊢
      rw [inHand_enact coherent moves listener dropped stale]
      exact settles live
  | outside _was phase => exact absurd live phase
  | accepts request settling after listener dropped =>
      have attempt := settling ▸ moves.found
      obtain ⟨call, unheard, fresh⟩ := faithful.unheard attempt rfl
      have connecting := coherent.stage_phase attempt rfl rfl
      have idle : room.session.phase ≠ .live := by
        rw [connecting]
        intro lived
        cases lived
      have unknown : room.session.identity = none := faithful.serves.quiet idle
      have other : id ≠ .listener feed.call := by
        rw [call]
        intro same
        cases same
      have synced := @resync_entry Remote feed { room.session with call := .connected } identity
        remote (Or.inl unknown)
      rw [task?_listener_enact moves listener dropped other, unheard, after, synced]
      exact fresh identity remote
  | fails request fault settling phase => exact absurd live phase
  | completes request enables after started dropped =>
      have attempt := enables ▸ moves.found
      obtain ⟨call, unheard, fresh⟩ := faithful.unheard attempt rfl
      have lived := coherent.stage_phase attempt rfl rfl
      have connected : room.session.call = .connected :=
        faithful.joining id request _ attempt rfl rfl
      have synced : (resync feed.view room.session).entry identity = feed.seen identity :=
        resync_entry remote (Or.inr (faithful.serves.knows lived).identity)
      have waits : (room.enact id part).task? (.listener feed.call) =
          some (.listener room.session.epoch .waiting) := by
        rw [Room.task?_enact moves.found, started, dropped, call]
        simp [unheard, Room.TaskId.number]
      rw [waits, after]
      change feed.Settles identity feed.queue
        (room.session.call, (resync feed.view room.session).entry identity)
      rw [connected, synced]
      exact fresh identity remote
  | hangsUp phase => exact absurd live phase
  | refreshes track own target settling after listener dropped =>
      have toggle := settling ▸ moves.found
      have lived := coherent.stage_phase toggle rfl rfl
      have known : room.session.identity = some own :=
        faithful.toggles id track _ own toggle rfl rfl
      have same : own = feed.own.identity := by
        rw [(faithful.serves.knows lived).identity] at known
        exact (Option.some.inj known).symm
      have stale : ∀ stage, task ≠ .listener room.session.epoch stage := by
        intro stage listens
        rw [settling] at listens
        cases listens
      rw [epoch, inHand_enact coherent moves listener dropped stale, after,
        refreshMedia_call, refreshMedia_entry_other feed.view (by rw [same]; exact Ne.symm remote)]
      exact settles lived
  | handles event? holds after listener dropped =>
      subst holds
      have lived := coherent.stage_phase moves.found rfl rfl
      cases event? with
      | none =>
          rw [after] at live
          cases goesOn_of_live lived live
      | some event =>
          rw [epoch, after]
          exact settles_handled faithful moves listener dropped lived remote

private theorem joining_enact {other : Room.TaskId} {request : Request} {stage : Attempt}
    (found : (room.enact id part).task? other = some (.attempt request stage))
    (belongs : (Session.Task.attempt request stage : Session.Task Remote).epoch? =
      some part.session.epoch)
    (joins : (Session.Task.attempt request stage : Session.Task Remote).phase? = some .live) :
    part.session.call = .connected := by
  have coherent := moves.coherent_enact faithful.coherent
  have fits := coherent.fits other _ found
  rw [Room.session_enact] at fits
  have live := fits.phase_eq belongs joins
  have epoch := (before_of_live moves live).1
  -- The attempt was bringing up devices before, if the session was live then.
  have connected : room.session.phase = .live → room.session.call = .connected := by
    intro lived
    rcases moves.origin found with ⟨_same, next⟩ | ⟨_different, _kept, old⟩ | ⟨_same, new⟩
    · have follows := moves.follows _ next
      obtain ⟨before, same⟩ := follows.of_attempt
      subst same
      rcases follows.joining joins with ⟨joined, same⟩ | settling
      · exact faithful.joining id request before moves.found (same.trans (epoch ▸ belongs)) joined
      · subst settling
        rw [faithful.coherent.stage_phase moves.found rfl rfl] at lived
        cases lived
    · exact faithful.joining other request stage old (epoch ▸ belongs) joins
    · cases (moves.listener_eq new).2.1
  cases touches with
  | nothing same =>
      rw [same] at live ⊢
      exact connected live
  | outside _was phase => exact absurd live phase
  | accepts accepted settles after =>
      rw [after]
      rfl
  | fails failed fault settles phase => exact absurd live phase
  | completes completed enables after =>
      rw [after]
      exact connected (faithful.coherent.stage_phase (enables ▸ moves.found) rfl rfl)
  | hangsUp phase => exact absurd live phase
  | refreshes track identity target settles after =>
      rw [after, refreshMedia_call]
      exact connected (faithful.coherent.stage_phase (settles ▸ moves.found) rfl rfl)
  | handles event? holds after =>
      -- There is a listener, so no attempt is bringing up devices any more.
      have listens := holds ▸ moves.found
      have held := (faithful.coherent.fits id _ listens).held _ rfl
      have lived := faithful.coherent.stage_phase listens rfl rfl
      have free := fits.free request stage rfl belongs
      rw [after] at live free
      have goesOn : room.session.Continues (room.session.apply feed.view _).session :=
        (continues_apply_of_goesOn (goesOn_of_live lived live) feed.view).1
      rw [goesOn.listener, held] at free
      cases free

theorem Faithful.enact
    (comes : ∀ request epoch, task = .attempt request (.handshake epoch) →
      part.next = .waits (.attempt request (.settling epoch (.ok ()))) → id.number = feed.call) :
    ({ room := room.enact id part, feed := feed } : Reception Remote).Faithful := by
  have knows : part.session.phase = .live → part.session.Knows feed :=
    knows_enact faithful moves touches
  refine ⟨moves.coherent_enact faithful.coherent, ?_, ?_, ?_, ?_, ?_, ?_⟩
  · intro untouched
    apply faithful.fresh
    rcases untouched with ⟨later, found⟩ | ahead
    · apply Or.inl
      cases before : room.task? (.call feed.call) with
      | none =>
          rw [moves.task?_call_none before] at found
          cases found
      | some earlier => exact ⟨earlier, rfl⟩
    · exact Or.inr (Room.calls_enact room id part ▸ ahead)
  · intro other request stage found opened
    rcases moves.origin found with ⟨same, next⟩ | ⟨_different, _kept, old⟩ | ⟨_same, new⟩
    · have follows := moves.follows _ next
      obtain ⟨before, earlier⟩ := follows.of_attempt
      subst earlier
      rw [same]
      rcases follows.isOpened opened with was | ⟨epoch, shaking, settling⟩
      · exact faithful.opened id request before moves.found was
      · subst shaking
        subst settling
        exact comes request epoch rfl next
    · exact faithful.opened other request stage old opened
    · cases (moves.listener_eq new).2.1
  · intro other request stage found belongs joins
    rw [Room.session_enact] at belongs ⊢
    exact joining_enact faithful moves touches found belongs joins
  · intro other track stage identity found belongs switches
    rw [Room.session_enact] at belongs ⊢
    exact toggles_enact faithful moves knows found belongs switches
  · intro live epoch stage found
    rw [Room.session_enact] at live ⊢
    exact heard_enact faithful moves live found
  · refine ⟨?_, ?_, ?_, ?_⟩
    · rw [Room.session_enact]
      exact quiet_enact faithful moves touches
    · rw [Room.session_enact]
      exact knows
    · rw [queue, Room.session_enact]
      intro live identity remote
      exact settles_enact faithful moves touches live remote
    · rw [Room.session_enact]
      intro number held
      exact listening_enact faithful moves held

end Moves

end Reception

end MeetingRoom
