import MeetingRoom.Proofs.Entries
import MeetingRoom.Proofs.Refreshes
import MeetingRoom.Proofs.Repeats

/-!
Where the flags of an entry come from. An entry has the flags of the snapshot with which its
participant joined or was found in a resync, until an event on one of its tracks, or a toggle, has
them read anew. So they are always the flags that were read last, whatever else has happened and
however the view has changed since.
-/

namespace MeetingRoom

variable {Remote : Type}

/-! ### Flags in a view -/

namespace Media.View

variable (view : Media.View Remote) (started? : Option String) (identity : String)

/-- The flags that the transport has for a participant of a session, whose own one is whoever the
transport has for it, by whatever identity. -/
def flags? : Option (Bool × Bool) :=
  if started? = some identity then view.own.map (·.flags)
  else ((view.own.toList ++ view.remotes).find? (·.identity = identity)).map (·.flags)

/-- The flags of a participant when all are listed anew, the own one by the identity that the session
has started with. -/
def listed? : Option (Bool × Bool) :=
  ((view.own.filter fun own => started?.getD own.identity = identity).or
    (view.remotes.find? (·.identity = identity))).map (·.flags)

end Media.View

namespace Session

theorem flags_truth? (view : Media.View Remote) (session : Session Remote) (identity : String) :
    (session.truth? view identity).map (·.flags) = view.flags? session.identity identity := by
  unfold truth? Media.View.flags?
  split <;> rfl

theorem entry_resync (view : Media.View Remote) (session : Session Remote) (identity : String) :
    (resync view session).entry identity = view.listed? session.identity identity := by
  rw [entry, resync, Roster.get?_ofList, List.find?_append, find?_map_ofSnapshot,
    find?_map_ofSnapshot, Option.map_or, Option.map_map, Option.map_map, Media.View.listed?,
    Option.map_or]
  cases view.own with
  | none => rfl
  | some own =>
      have named : (session.ownSnapshot own).identity = session.identity.getD own.identity := rfl
      rw [Option.map_some, Option.toList_some, List.find?_singleton, named, Option.filter_some]
      split <;> rfl

/-- The flags of a participant that an event has the session read: those of a new participant, of
one whose track has changed if the transport knows it, and of all that are found in a resync. -/
def reads? (identity : String) (view : Media.View Remote) (session : Session Remote)
    (event : Media.Event Remote) : Option (Bool × Bool) :=
  if session.call = .connected ∨ session.call = .reconnecting then
    match event with
    | .joined snapshot =>
        if snapshot.identity = identity ∧ session.entry identity = none then some snapshot.flags
        else none
    | .track _ named _ => if named = identity then view.flags? session.identity identity else none
    | .reconnected => view.listed? session.identity identity
    | _ => none
  else none

def attend? (session : Session Remote) (moment : Media.View Remote × Media.Event Remote) :
    Option (Session Remote) :=
  some (session.apply moment.1 moment.2).session

def readings (identity : String) (session : Session Remote)
    (history : List (Media.View Remote × Media.Event Remote)) : List (Bool × Bool) :=
  noted attend? (fun reached moment => reached.reads? identity moment.1 moment.2) session history

def Shows (identity : String) (session : Session Remote) (last : Option (Bool × Bool)) : Prop :=
  session.entry identity = none ∨ session.entry identity = last

variable {session : Session Remote} {view : Media.View Remote} {identity : String}
  {last : Option (Bool × Bool)}

theorem foldlM_attend? (session : Session Remote)
    (history : List (Media.View Remote × Media.Event Remote)) :
    history.foldlM attend? session = some (session.follow history) := by
  induction history generalizing session with
  | nil => rfl
  | cons moment rest ih => exact ih _

theorem entry_refreshMedia (view : Media.View Remote) (session : Session Remote)
    (identity : String) :
    (session.refreshMedia view identity).session.entry identity =
      (session.entry identity).map (view.flags? session.identity identity).getD := by
  rw [entry, get?_refreshMedia, entry, Option.map_map, Option.map_map, ← flags_truth?]
  congr 1
  funext listed
  rw [Function.comp_apply, if_pos rfl]
  cases session.truth? view identity with
  | none => rfl
  | some snapshot => rfl

namespace Shows

theorem of_empty (empty : session.roster = Roster.empty) : session.Shows identity last := by
  refine Or.inl ?_
  rw [entry, empty, Roster.get?_empty]
  rfl

/-- Whoever is found in a resync shows the flags that were found, and nobody else is listed. -/
theorem resync (view : Media.View Remote) (session : Session Remote) :
    (Session.resync view session).Shows identity
      ((view.listed? session.identity identity).or last) := by
  unfold Shows
  rw [entry_resync]
  cases view.listed? session.identity identity with
  | none => exact Or.inl rfl
  | some flags => exact Or.inr rfl

/-- Whoever is listed shows what the transport says of it, if it says anything. -/
theorem refreshMedia (shows : session.Shows identity last) (view : Media.View Remote) :
    (session.refreshMedia view identity).session.Shows identity
      ((view.flags? session.identity identity).or last) := by
  unfold Shows
  rw [entry_refreshMedia]
  rcases shows with absent | listed
  · rw [absent]
    exact Or.inl rfl
  · rw [listed]
    cases last with
    | none => exact Or.inl rfl
    | some flags =>
        refine Or.inr ?_
        cases view.flags? session.identity identity with
        | none => rfl
        | some now => rfl

private theorem join (shows : session.Shows identity last) (snapshot : Media.Snapshot Remote) :
    (session.join snapshot).session.Shows identity
      ((if snapshot.identity = identity ∧ session.entry identity = none then some snapshot.flags
        else none).or last) := by
  unfold Shows
  rw [join_entry]
  by_cases same : snapshot.identity = identity
  · rw [if_pos same]
    cases present : session.entry identity with
    | none =>
        rw [if_pos ⟨same, rfl⟩]
        exact Or.inr rfl
    | some flags =>
        rw [if_neg fun both => Option.some_ne_none flags both.2]
        rcases shows with absent | shown
        · rw [present] at absent
          cases absent
        · rw [← shown, present]
          exact Or.inr rfl
  · rw [if_neg same, if_neg fun both => same both.1]
    exact shows

private theorem leave (shows : session.Shows identity last) (gone : String) :
    (session.leave gone).session.Shows identity last := by
  unfold Shows
  rw [entry, session_leave]
  dsimp only
  by_cases own : session.identity = some gone
  · rw [if_pos own]
    exact shows
  · rw [if_neg own, Roster.get?_remove]
    by_cases same : gone = identity
    · rw [if_pos same]
      exact Or.inl rfl
    · rw [if_neg same]
      exact shows

/-- After an event an entry shows what the event has read of it, or else what it has shown. -/
theorem apply (shows : session.Shows identity last) (view : Media.View Remote)
    (event : Media.Event Remote) :
    (session.apply view event).session.Shows identity
      ((session.reads? identity view event).or last) := by
  by_cases live : session.call = .connected ∨ session.call = .reconnecting
  · unfold Session.apply reads?
    rw [if_pos (inCall_iff.mpr (live_iff.mpr live)), if_pos live]
    cases event with
    | joined snapshot => exact shows.join snapshot
    | left gone => exact shows.leave gone
    | track change named track =>
        dsimp only
        by_cases same : named = identity
        · subst same
          rw [if_pos rfl]
          exact shows.refreshMedia view
        · unfold Shows
          rw [if_neg same, refreshMedia_entry_other view same]
          exact shows
    | metadata other =>
        dsimp only
        unfold Shows
        rw [refreshMetadata_entry]
        exact shows
    | reconnecting => exact shows
    | reconnected => exact .resync view { session with call := .connected }
    | disconnected reason => exact .of_empty rfl
  · have outside : session.inCall = false :=
      Bool.eq_false_iff.mpr fun inCall => live (live_iff.mp (inCall_iff.mp inCall))
    rw [apply_of_outside outside]
    unfold reads?
    rw [if_neg live]
    exact shows

end Shows

/-- After any events an entry shows what was read of it last, or else what it showed at first. -/
theorem shows_follow (identity : String) (session : Session Remote)
    (history : List (Media.View Remote × Media.Event Remote)) :
    (session.follow history).Shows identity
      ((session.readings identity history).getLast?.or (session.entry identity)) := by
  refine run_keeps_last ?_ (Or.inr rfl) (foldlM_attend? session history)
  intro reached moment next last shows stepped
  rw [← Option.some.inj stepped]
  exact shows.apply moment.1 moment.2

/-! ### Sections -/

/-- What a section of work has the session read of a participant: an attempt reads everybody when it
is accepted and when it is done, a toggle the own participant, and a listener what its event is
about. -/
def Task.reads? (identity : String) (view : Media.View Remote) (session : Session Remote) :
    Task Remote → Option (Bool × Bool)
  | .attempt _ (.settling epoch (.ok _)) =>
      if session.epoch = epoch then view.listed? session.identity identity else none
  | .attempt _ (.enabling epoch []) =>
      if session.epoch = epoch then view.listed? session.identity identity else none
  | .toggle _ (.settling epoch own _) =>
      if session.epoch = epoch ∧ own = identity then view.flags? session.identity identity
      else none
  | .listener epoch (.holding event?) =>
      if session.epoch = epoch then session.reads? identity view (Listening.act event?) else none
  | _ => none

section Sections

variable (shows : session.Shows identity last)

include shows

private theorem Attempt.shows_start (request : Request) :
    (start request session).session.Shows identity last := by
  unfold start
  split
  · split
    · exact shows
    · exact shows
  · exact shows

private theorem Attempt.shows_settle (request : Request) (epoch : Nat) (answer : Except Fault Unit) :
    (settle request epoch answer view session).session.Shows identity
      (((Task.attempt request (.settling epoch answer)).reads? identity view session).or last) := by
  unfold settle Task.reads?
  by_cases current : session.epoch = epoch
  · rw [if_pos current]
    cases answer with
    | ok done =>
        dsimp only
        rw [if_pos current]
        exact .resync view { session with call := .connected }
    | error fault => exact shows
  · rw [if_neg current]
    cases answer with
    | ok done =>
        dsimp only
        rw [if_neg current]
        exact shows
    | error fault => exact shows

private theorem Attempt.shows_complete (number : Nat) (request : Request) (epoch : Nat) :
    (complete number request epoch view session).session.Shows identity
      (((Task.attempt request (.enabling epoch [])).reads? identity view session).or last) := by
  unfold complete Task.reads?
  dsimp only
  by_cases current : session.epoch = epoch
  · rw [if_pos current, if_pos current]
    exact Shows.resync view session
  · rw [if_neg current, if_neg current]
    exact shows

private theorem Toggle.shows_settle (track : Media.Track) (epoch : Nat) (own : String)
    (target : Bool) :
    (settle track epoch own target view session).session.Shows identity
      (((Task.toggle track (.settling epoch own target)).reads? identity view session).or last) := by
  unfold settle Task.reads?
  dsimp only
  by_cases current : session.epoch = epoch
  · rw [if_pos current]
    by_cases same : own = identity
    · subst same
      rw [if_pos ⟨current, rfl⟩]
      exact shows.refreshMedia view
    · rw [if_neg fun both => same both.2]
      unfold Shows
      rw [refreshMedia_entry_other view same]
      exact shows
  · rw [if_neg current, if_neg fun both => current both.1]
    exact shows

private theorem Listening.shows_handle (epoch : Nat) (event? : Option (Media.Event Remote)) :
    (handle epoch event? view session).session.Shows identity
      (((Task.listener epoch (.holding event?)).reads? identity view session).or last) := by
  unfold handle Task.reads?
  dsimp only
  by_cases current : session.epoch = epoch
  · rw [if_pos current, if_pos current]
    exact shows.apply view (act event?)
  · rw [if_neg current, if_neg current]
    exact shows

theorem Task.shows_section {number : Nat} {task : Task Remote} {part : Section Remote}
    (worked : task.section? number view session = some part) :
    part.session.Shows identity ((task.reads? identity view session).or last) := by
  cases Task.works_of_section worked with
  | starts request => exact Attempt.shows_start shows request
  | linesUp request epoch => exact shows
  | takesTurn request epoch =>
      unfold Attempt.takeTurn
      split <;> exact shows
  | settles request epoch answer => exact Attempt.shows_settle shows request epoch answer
  | enables request epoch track todo => exact shows
  | completes request epoch => exact Attempt.shows_complete shows number request epoch
  | hangsUp =>
      unfold HangUp.start
      split <;> exact .of_empty rfl
  | startsToggle track =>
      unfold Toggle.start
      split <;> exact shows
  | settlesToggle track epoch own target => exact Toggle.shows_settle shows track epoch own target
  | handles epoch event? => exact Listening.shows_handle shows epoch event?

end Sections

end Session

/-! ### Rooms -/

namespace Room

def reads? (identity : String) (room : Room Remote) : Action Remote → Option (Bool × Bool)
  | .work id view => (room.task? id).bind (·.reads? identity view room.session)
  | .event view event => room.session.reads? identity view event
  | _ => none

def readings (identity : String) (room : Room Remote) (actions : List (Action Remote)) :
    List (Bool × Bool) :=
  noted step? (reads? identity) room actions

theorem shows_step {room next : Room Remote} {identity : String} {last : Option (Bool × Bool)}
    (shows : room.session.Shows identity last) {action : Action Remote}
    (stepped : room.step? action = some next) :
    next.session.Shows identity ((room.reads? identity action).or last) := by
  have alters := alters_of_step stepped
  generalize next.session = after at alters ⊢
  cases alters with
  | work id view found worked =>
      rw [reads?, found]
      exact Session.Task.shows_section shows worked
  | event view event => exact shows.apply view event
  | _ => exact shows

/-- In every run an entry shows what was read of it last. -/
theorem shows_run {limit : Duration} {actions : List (Action Remote)} {room : Room Remote}
    (ran : (Room.new limit).run? actions = some room) (identity : String) :
    room.session.Shows identity ((Room.new limit).readings identity actions).getLast? := by
  have shows := @run_keeps_last _ _ _ step? (reads? identity)
    (fun reached last => reached.session.Shows identity last)
    (fun _reached _action _next _last shows stepped => shows_step shows stepped) _ _ actions none
    (.of_empty rfl) ran
  rw [Option.or_none] at shows
  exact shows

end Room

/-- With the same view behind them it does not matter in which order events on tracks and metadata
come, or how often, but only who is named by the first kind and who by the second. And whatever
events come, with whatever views, the flags of somebody who is listed are those that were read last:
since the beginning of the events if they were read since then, and in every room that can be
reached since the beginning of the room. -/
theorem flags_as_last_read :
    (∀ (session : Session Remote) (view : Media.View Remote) (left right : List (Media.Event Remote)),
      (∀ event ∈ left ++ right, event.isRefresh = true) →
      (∀ identity, identity ∈ left.filterMap (·.onTrack?) ↔ identity ∈ right.filterMap (·.onTrack?)) →
      (∀ identity,
        identity ∈ left.filterMap (·.onMetadata?) ↔ identity ∈ right.filterMap (·.onMetadata?)) →
      session.follow (left.map (view, ·)) = session.follow (right.map (view, ·))) ∧
    (∀ (session : Session Remote) (history : List (Media.View Remote × Media.Event Remote))
      (identity : String) (entry : Participant Remote),
      (session.follow history).roster.get? identity = some entry →
      some entry.flags =
        (session.readings identity history).getLast?.or
          ((session.roster.get? identity).map (·.flags))) ∧
    ∀ (limit : Duration) (actions : List (Room.Action Remote)) (room : Room Remote)
      (identity : String) (entry : Participant Remote),
      (Room.new limit).run? actions = some room → room.session.roster.get? identity = some entry →
      some entry.flags = ((Room.new limit).readings identity actions).getLast? := by
  have listed : ∀ {session : Session Remote} {identity : String} {entry : Participant Remote}
      {last : Option (Bool × Bool)}, session.roster.get? identity = some entry →
      session.Shows identity last → some entry.flags = last := by
    intro session identity entry last found shows
    have present : session.entry identity = some entry.flags := by
      rw [Session.entry, found]
      rfl
    rcases shows with absent | shown
    · rw [present] at absent
      cases absent
    · exact present.symm.trans shown
  refine ⟨?_, ?_, ?_⟩
  · intro session view left right refreshes tracks metadata
    refine Session.follow_congr ?_ ?_ tracks metadata
    · intro event member
      exact refreshes event (List.mem_append_left right member)
    · intro event member
      exact refreshes event (List.mem_append_right left member)
  · intro session history identity entry found
    exact listed found (Session.shows_follow identity session history)
  · intro limit actions room identity entry ran found
    exact listed found (Room.shows_run ran identity)

def meetingView (own guest : Bool × Bool) : Media.View Unit :=
  { own := some { Session.bare "alex" with audio := own.1, video := own.2 }
    remotes := [{ Session.bare "guest" with audio := guest.1, video := guest.2 }] }

def metGuest : Session Unit :=
  Session.resync (meetingView (true, false) (true, false))
    { (Session.new : Session Unit) with call := .connected }

/-- The guest changes to the camera, then `alex` does, by another identity and while the guest is
renamed with both devices on, and then the transport does not know the guest any more. -/
def deviceMoments : List (Media.View Unit × Media.Event Unit) :=
  [(meetingView (true, false) (false, true), .track .muted "guest" .audio),
    (meetingView (true, true) (true, true), .metadata "guest"),
    ({ meetingView (false, true) (true, true) with
        own := some { Session.bare "alex-2" with audio := false, video := true } },
      .track .unmuted "alex" .video),
    (.empty, .track .unmuted "guest" .audio)]

/-- The same in a room, where the listener brings an event of the guest, and `alex` switches the
camera on. -/
def deviceActions : List (Room.Action Unit) :=
  [.call (.join { url := "wss://media", token := "token", audio := false, video := false }),
    .work (.call 0) .empty, .work (.call 0) .empty, .work (.call 0) .empty, .ask (.call 0),
    .answer (.call 0) .done, .work (.call 0) (meetingView (true, false) (true, false)),
    .work (.call 0) (meetingView (true, false) (true, false)),
    .hear 0 (some (.track .muted "guest" .audio)),
    .work (.listener 0) (meetingView (true, false) (false, true)),
    .call (.toggle .video), .work (.call 1) (meetingView (true, false) (true, true)),
    .ask (.call 1), .answer (.call 1) .done,
    .work (.call 1) (meetingView (false, true) (true, true)),
    .event .empty (.track .unmuted "guest" .audio)]

theorem tiles_show_flags_read_last :
    metGuest.follow ([.track .unmuted "guest" .audio, .metadata "alex", .track .muted "guest" .video,
        .track .muted "alex" .audio].map (meetingView (false, false) (false, true), ·)) =
      metGuest.follow ([.track .subscribed "alex" .video, .track .muted "guest" .audio,
        .metadata "alex", .metadata "alex"].map (meetingView (false, false) (false, true), ·)) ∧
    (∃ own guest, (metGuest.follow deviceMoments).roster.get? "alex" = some own ∧
      (metGuest.follow deviceMoments).roster.get? "guest" = some guest ∧
      own.flags = (false, true) ∧ guest.flags = (false, true)) ∧
    ∃ room own guest, (Room.new (.ofSeconds 15 0)).run? deviceActions = some room ∧
      room.session.roster.get? "alex" = some own ∧ room.session.roster.get? "guest" = some guest ∧
      own.flags = (false, true) ∧ guest.flags = (false, true) := by
  obtain ⟨order, events, rooms⟩ := @flags_as_last_read Unit
  refine ⟨order metGuest _ _ _ ?_ ?_ ?_, ⟨_, _, rfl, rfl, ?_, ?_⟩,
    ⟨_, _, _, rfl, rfl, rfl, ?_, ?_⟩⟩
  · decide
  · intro identity
    have named : identity = "guest" ∨ identity = "alex" ↔ identity = "alex" ∨ identity = "guest" :=
      or_comm
    simpa [Media.Event.onTrack?] using named
  · intro identity
    simp [Media.Event.onMetadata?]
  · exact Option.some.inj (events metGuest deviceMoments "alex" _ rfl)
  · exact Option.some.inj (events metGuest deviceMoments "guest" _ rfl)
  · exact Option.some.inj (rooms (.ofSeconds 15 0) deviceActions _ "alex" _ rfl rfl)
  · exact Option.some.inj (rooms (.ofSeconds 15 0) deviceActions _ "guest" _ rfl rfl)

end MeetingRoom
