import MeetingRoom.Proofs.Seating

/-!
The voice is in the list that is shown and nowhere else. Every section of work and every event does
the same to a session whatever its voice, and hands the voice on as it was. So leaving the changes
of voice out of a run leaves everything else in it as it was, and the voice at the end is the one
that was given last.
-/

namespace MeetingRoom

variable {Remote : Type}

namespace Session

def withVoice (session : Session Remote) (voice? : Option Voice) : Session Remote :=
  { session with voice := voice? }

def After.withVoice {Result : Type} (after : After Remote Result) (voice? : Option Voice) :
    After Remote Result :=
  { after with session := after.session.withVoice voice? }

def Section.withVoice (part : Section Remote) (voice? : Option Voice) : Section Remote :=
  { part with session := part.session.withVoice voice? }

section Events

variable (view : Media.View Remote) (session : Session Remote) (voice? : Option Voice)

theorem call_withVoice : (session.withVoice voice?).call = session.call := rfl

theorem identity_withVoice : (session.withVoice voice?).identity = session.identity := rfl

theorem roster_withVoice : (session.withVoice voice?).roster = session.roster := rfl

theorem truth?_withVoice (identity : String) :
    (session.withVoice voice?).truth? view identity = session.truth? view identity := rfl

private theorem join_withVoice (snapshot : Media.Snapshot Remote) :
    (session.withVoice voice?).join snapshot = (session.join snapshot).withVoice voice? := by
  unfold join withVoice
  dsimp only
  split <;> rfl

private theorem leave_withVoice (identity : String) :
    (session.withVoice voice?).leave identity = (session.leave identity).withVoice voice? := by
  unfold leave withVoice
  dsimp only
  split
  · rfl
  · split <;> rfl

private theorem refreshMedia_withVoice (identity : String) :
    (session.withVoice voice?).refreshMedia view identity =
      (session.refreshMedia view identity).withVoice voice? := by
  unfold refreshMedia
  rw [truth?_withVoice, roster_withVoice]
  cases session.truth? view identity with
  | none => cases session.roster.contains identity <;> rfl
  | some snapshot => cases session.roster.contains identity <;> rfl

private theorem refreshMetadata_withVoice (identity : String) :
    (session.withVoice voice?).refreshMetadata view identity =
      (session.refreshMetadata view identity).withVoice voice? := by
  unfold refreshMetadata
  rw [truth?_withVoice, roster_withVoice]
  cases session.truth? view identity with
  | none => cases session.roster.contains identity <;> rfl
  | some snapshot => cases session.roster.contains identity <;> rfl

theorem apply_withVoice (event : Media.Event Remote) :
    (session.withVoice voice?).apply view event = (session.apply view event).withVoice voice? := by
  unfold apply
  change (if session.inCall then _ else _) = _
  split
  · cases event with
    | joined snapshot => exact session.join_withVoice voice? snapshot
    | left identity => exact session.leave_withVoice voice? identity
    | track change identity track => exact refreshMedia_withVoice view session voice? identity
    | metadata identity => exact refreshMetadata_withVoice view session voice? identity
    | reconnecting => rfl
    | reconnected => rfl
    | disconnected reason => rfl
  · rfl

end Events

/-! ### Sections -/

section Sections

variable {number : Nat} {view : Media.View Remote} {session : Session Remote}

private theorem Attempt.start_withVoice (voice? : Option Voice) (request : Request) :
    start request (session.withVoice voice?) = (start request session).withVoice voice? := by
  unfold start withVoice
  dsimp only
  split
  · split <;> rfl
  · rfl

private theorem Attempt.takeTurn_withVoice (voice? : Option Voice) (request : Request)
    (epoch : Nat) :
    takeTurn request epoch (session.withVoice voice?) =
      (takeTurn request epoch session).withVoice voice? := by
  unfold takeTurn withVoice
  dsimp only
  split <;> rfl

private theorem Attempt.settle_withVoice (voice? : Option Voice) (request : Request) (epoch : Nat)
    (answer : Except Fault Unit) :
    settle request epoch answer view (session.withVoice voice?) =
      (settle request epoch answer view session).withVoice voice? := by
  unfold settle
  change (if session.epoch = epoch then _ else _) = _
  split
  · cases answer <;> rfl
  · rfl

private theorem Attempt.complete_withVoice (voice? : Option Voice) (request : Request)
    (epoch : Nat) :
    complete number request epoch view (session.withVoice voice?) =
      (complete number request epoch view session).withVoice voice? := by
  unfold complete
  change (if session.epoch = epoch then _ else _) = _
  split <;> rfl

private theorem HangUp.start_withVoice (voice? : Option Voice) :
    start (session.withVoice voice?) = (start session).withVoice voice? := by
  unfold start withVoice
  dsimp only
  split <;> rfl

private theorem Toggle.start_withVoice (voice? : Option Voice) (track : Media.Track) :
    start track view (session.withVoice voice?) = (start track view session).withVoice voice? := by
  unfold start
  rw [call_withVoice, identity_withVoice]
  cases session.identity with
  | none => cases session.call <;> rfl
  | some identity => cases session.call <;> rfl

private theorem Toggle.settle_withVoice (voice? : Option Voice) (track : Media.Track) (epoch : Nat)
    (identity : String) (target : Bool) :
    settle track epoch identity target view (session.withVoice voice?) =
      (settle track epoch identity target view session).withVoice voice? := by
  unfold settle
  rw [refreshMedia_withVoice]
  change (if session.epoch = epoch then _ else _) = _
  split <;> rfl

private theorem Listening.handle_withVoice (voice? : Option Voice) (epoch : Nat)
    (event? : Option (Media.Event Remote)) :
    handle epoch event? view (session.withVoice voice?) =
      (handle epoch event? view session).withVoice voice? := by
  unfold handle
  rw [apply_withVoice]
  change (if session.epoch = epoch then _ else _) = _
  split <;> rfl

theorem Task.section?_withVoice (voice? : Option Voice) (task : Task Remote) :
    task.section? number view (session.withVoice voice?) =
      (task.section? number view session).map (·.withVoice voice?) := by
  cases task with
  | attempt request stage =>
      cases stage with
      | starting => exact congrArg some (Attempt.start_withVoice voice? request)
      | queued epoch => exact congrArg some (Attempt.takeTurn_withVoice voice? request epoch)
      | settling epoch answer =>
          exact congrArg some (Attempt.settle_withVoice voice? request epoch answer)
      | enabling epoch todo =>
          cases todo with
          | nil => exact congrArg some (Attempt.complete_withVoice voice? request epoch)
          | cons track todo => rfl
      | _ => rfl
  | hangUp stage =>
      cases stage with
      | starting => exact congrArg some (HangUp.start_withVoice voice?)
      | releasing => rfl
  | toggle track stage =>
      cases stage with
      | starting => exact congrArg some (Toggle.start_withVoice voice? track)
      | switching epoch identity target => rfl
      | settling epoch identity target =>
          exact congrArg some (Toggle.settle_withVoice voice? track epoch identity target)
  | listener epoch stage =>
      cases stage with
      | holding event? => exact congrArg some (Listening.handle_withVoice voice? epoch event?)
      | _ => rfl

end Sections

end Session

/-! ### The list that is shown -/

namespace Voice

variable {roster : Roster Remote}

/-- The host is behind the participants where nobody goes by its identity. -/
theorem overlay_of_free (free : ∀ participant ∈ roster.toList, participant.id ≠ identity)
    (voice : Voice) : overlay roster (some voice) = roster.toList ++ [voice.host] := by
  have untaken : ¬roster.contains identity = true := by
    rw [Roster.contains_iff_mem_toList]
    rintro ⟨participant, member, same⟩
    exact free participant member same
  rw [overlay, if_neg untaken]

theorem overlay_of_taken {voice? : Option Voice}
    (taken : voice? = none ∨ ∃ participant ∈ roster.toList, participant.id = identity) :
    overlay roster voice? = roster.toList := by
  cases voice? with
  | none => rfl
  | some voice =>
      have present := taken.resolve_left (Option.some_ne_none voice)
      rw [overlay, if_pos (Roster.contains_iff_mem_toList.mpr present)]

theorem nodup_map_id_overlay (roster : Roster Remote) (voice? : Option Voice) :
    ((overlay roster voice?).map (·.id)).Nodup := by
  by_cases taken : voice? = none ∨ ∃ participant ∈ roster.toList, participant.id = identity
  · rw [overlay_of_taken taken]
    exact Roster.nodup_map_id roster
  · rw [not_or] at taken
    obtain ⟨voice, spoken⟩ := Option.ne_none_iff_exists'.mp taken.1
    have free : ∀ participant ∈ roster.toList, participant.id ≠ identity :=
      fun participant member same => taken.2 ⟨participant, member, same⟩
    rw [spoken, overlay_of_free free, List.map_append, List.nodup_append]
    refine ⟨Roster.nodup_map_id roster, List.pairwise_singleton _ _, ?_⟩
    intro left listed right hosted
    obtain ⟨participant, member, rfl⟩ := List.mem_map.mp listed
    rw [List.map_singleton, List.mem_singleton] at hosted
    rw [hosted]
    exact free participant member

end Voice

/-! ### Rooms -/

namespace Room

def withVoice (room : Room Remote) (voice? : Option Voice) : Room Remote :=
  { room with session := room.session.withVoice voice? }

/-- A room without what has been said about its voice. -/
def withoutVoice (room : Room Remote) : Room Remote := room.withVoice none

def Action.voice? : Action Remote → Option (Option String)
  | .voice text? => some text?
  | _ => none

private theorem proceed_withVoice (room : Room Remote) (voice? : Option Voice) (id : TaskId)
    (next : Session.Next Remote) :
    (room.withVoice voice?).proceed id next = (room.proceed id next).withVoice voice? := by
  cases next with
  | waits task =>
      change ((room.withVoice voice?).replace id task).lineUp id task =
        ((room.replace id task).lineUp id task).withVoice voice?
      by_cases queued : task.isQueued = true
      · rw [lineUp, if_pos queued, lineUp, if_pos queued]
        rfl
      · rw [lineUp, if_neg queued, lineUp, if_neg queued]
        rfl
  | ends result => cases id <;> rfl

private theorem enact_withVoice (room : Room Remote) (voice? : Option Voice) (id : TaskId)
    (part : Session.Section Remote) :
    (room.withVoice voice?).enact id (part.withVoice voice?) =
      (room.enact id part).withVoice voice? := by
  have moved := proceed_withVoice
    { room with session := part.session, journal := room.journal ++ part.journal } voice? id part.next
  change ({ room with
      session := part.session.withVoice voice?, journal := room.journal ++ part.journal } :
    Room Remote).proceed id part.next = _ at moved
  unfold enact
  change (let moved := ({ room with
        session := part.session.withVoice voice?, journal := room.journal ++ part.journal } :
      Room Remote).proceed id part.next
    let dropped := (part.dropped.map fun number => moved.drop (.listener number)).getD moved
    ({ dropped with
        tasks := dropped.tasks ++ part.listener.toList.map (.listener id.number, ·) } :
      Room Remote)) = _
  rw [moved]
  cases part.dropped <;> rfl

private theorem step_withVoice {room next : Room Remote} {action : Action Remote}
    (stepped : room.step? action = some next) (silent : action.voice? = none)
    (voice? : Option Voice) :
    (room.withVoice voice?).step? action = some (next.withVoice voice?) := by
  cases action with
  | call operation => cases stepped; rfl
  | work id view =>
      obtain ⟨task, part, found, may, worked, rfl⟩ := work?_eq_some_iff.mp stepped
      have again : task.section? id.number view (room.withVoice voice?).session =
          some (part.withVoice voice?) := by
        change task.section? id.number view (room.session.withVoice voice?) = _
        rw [Session.Task.section?_withVoice, worked]
        rfl
      exact work?_eq_some_iff.mpr ⟨task, _, found, may, again, enact_withVoice room voice? id part⟩
  | ask id =>
      obtain ⟨task, found, asks, new, rfl⟩ := ask?_eq_some_iff.mp stepped
      exact ask?_eq_some_iff.mpr ⟨task, found, asks, new, rfl⟩
  | answer id answer =>
      obtain ⟨task, later, journal, found, asked, answered, rfl⟩ := answer?_eq_some_iff.mp stepped
      exact answer?_eq_some_iff.mpr ⟨task, later, journal, found, asked, answered,
        proceed_withVoice { room with journal := room.journal ++ journal } voice? id later⟩
  | hear number event? =>
      obtain ⟨epoch, found, rfl⟩ := hear?_eq_some_iff.mp stepped
      exact hear?_eq_some_iff.mpr ⟨epoch, found, rfl⟩
  | event view event =>
      cases stepped
      change some ((room.withVoice voice?).event view event) = _
      unfold Room.event
      change some (let after := (room.session.withVoice voice?).apply view event
        ({ room with session := after.session, journal := room.journal ++ after.journal } :
          Room Remote)) = _
      rw [Session.apply_withVoice]
      rfl
  | voice text? => cases silent

/-- An action that is not about the voice does the same, and keeps the voice. -/
theorem step?_withVoice (room : Room Remote) (voice? : Option Voice) {action : Action Remote}
    (silent : action.voice? = none) :
    (room.withVoice voice?).step? action = (room.step? action).map (·.withVoice voice?) := by
  apply Option.ext
  intro next
  rw [Option.map_eq_some_iff]
  constructor
  · intro stepped
    have back := step_withVoice stepped silent room.session.voice
    have same := stepped.symm.trans (step_withVoice stepped silent voice?)
    exact ⟨_, back, (Option.some.inj same).symm⟩
  · rintro ⟨before, stepped, rfl⟩
    exact step_withVoice stepped silent voice?

/-- What one can see of a room when an action takes place: where the call stands, who is listed, what
the calls have come to that have ended, and what an event comes to that is applied without a listener.
A new voice shows nothing of its own. -/
def sight? (room : Room Remote) : Action Remote →
    Option (Session.Call × List (Participant Remote) × List (Nat × Session.Result) ×
      Option Session.Effect)
  | .voice _ => none
  | .event view event =>
      some (room.session.call, room.session.participants, room.results,
        some (room.session.apply view event).result)
  | _ => some (room.session.call, room.session.participants, room.results, none)

def spoken (actions : List (Action Remote)) : List (Option String) := actions.filterMap (·.voice?)

def unspoken (actions : List (Action Remote)) : List (Action Remote) :=
  actions.filter (·.voice?.isNone)

theorem unspoken_of_voice (text? : Option String) (rest : List (Action Remote)) :
    unspoken (.voice text? :: rest) = unspoken rest := rfl

theorem unspoken_of_silent {action : Action Remote} (silent : action.voice? = none)
    (rest : List (Action Remote)) : unspoken (action :: rest) = action :: unspoken rest := by
  rw [unspoken, List.filter_cons_of_pos (by rw [silent]; rfl)]
  rfl

theorem Action.eq_of_voice? {action : Action Remote} {text? : Option String}
    (spoke : action.voice? = some text?) : action = .voice text? := by
  cases action with
  | voice given => rw [Option.some.inj spoke]
  | _ => cases spoke

/-- The voices can be left out before a run or after it: it is possible either way, one sees the same,
and it ends in the same room. -/
theorem run?_withoutVoice (room : Room Remote) (actions : List (Action Remote)) :
    (room.run? actions).map withoutVoice = room.withoutVoice.run? (unspoken actions) ∧
      noted step? sight? room actions = noted step? sight? room.withoutVoice (unspoken actions) := by
  induction actions generalizing room with
  | nil => exact ⟨rfl, rfl⟩
  | cons action rest ih =>
      cases spoke : action.voice? with
      | some text? =>
          -- The next room differs from this one in its voice, so without it they are the same.
          rw [Action.eq_of_voice? spoke, unspoken_of_voice]
          exact ih (room.withVoice (text?.bind Voice.ofText?))
      | none =>
          have voiceless : room.withoutVoice.step? action = (room.step? action).map withoutVoice :=
            step?_withVoice room none spoke
          have seen : sight? room.withoutVoice action = sight? room action := by
            cases action with
            | event view event =>
                have same : (room.withoutVoice.session.apply view event).result =
                    (room.session.apply view event).result :=
                  congrArg (·.result) (Session.apply_withVoice view room.session none event)
                change some (room.session.call, room.session.participants, room.results,
                  some (room.withoutVoice.session.apply view event).result) = _
                rw [same]
                rfl
            | _ => rfl
          rw [unspoken_of_silent spoke, run?, run?, List.foldlM_cons, List.foldlM_cons, noted, noted,
            voiceless, seen]
          cases room.step? action with
          | none => exact ⟨rfl, rfl⟩
          | some next =>
              obtain ⟨ran, sights⟩ := ih next
              exact ⟨ran, congrArg _ sights⟩

private theorem voice_step {room next : Room Remote} {action : Action Remote}
    (stepped : room.step? action = some next) :
    next.session.voice = (action.voice?.map (·.bind Voice.ofText?)).getD room.session.voice := by
  cases spoke : action.voice? with
  | some text? =>
      rw [Action.eq_of_voice? spoke] at stepped
      cases stepped
      rfl
  | none =>
      have kept := step_withVoice stepped spoke room.session.voice
      have same : next = next.withVoice room.session.voice :=
        Option.some.inj (stepped.symm.trans kept)
      rw [same]
      rfl

/-- The voice is the one that was given last, or else the one at the beginning. -/
theorem voice_run {room last : Room Remote} {actions : List (Action Remote)}
    (ran : room.run? actions = some last) :
    last.session.voice =
      ((spoken actions).getLast?.map (·.bind Voice.ofText?)).getD room.session.voice := by
  induction actions generalizing room with
  | nil =>
      cases ran
      rfl
  | cons action rest ih =>
      rw [run?, List.foldlM_cons] at ran
      obtain ⟨next, stepped, rested⟩ := Option.bind_eq_some_iff.mp ran
      rw [ih rested, voice_step stepped]
      cases spoke : action.voice? with
      | none => rw [spoken, spoken, List.filterMap_cons_none spoke]; rfl
      | some text? =>
          rw [spoken, spoken, List.filterMap_cons_some spoke, List.getLast?_cons]
          cases (rest.filterMap (·.voice?)).getLast? <;> rfl

/-- In every run: the voice is the one that was given last, as far as it can be read. Any other run
that differs in nothing but the voices given is possible as well, one sees the same in it at every
step, and it ends in the same room but for the voice. The list that is shown is that of the
participants, none of whom is artificial, with the host behind them exactly if there is a voice and
nobody goes by the identity of the host; so nobody is in it twice. -/
theorem host_only_in_list {limit : Duration} {actions : List (Action Remote)} {room : Room Remote}
    (ran : (Room.new limit).run? actions = some room) :
    room.session.voice = (spoken actions).getLast?.join.bind Voice.ofText? ∧
    (∀ others, unspoken others = unspoken actions →
      ∃ other, (Room.new limit).run? others = some other ∧ other.withoutVoice = room.withoutVoice ∧
        noted step? sight? (Room.new limit) others =
          noted step? sight? (Room.new limit) actions) ∧
    (∀ participant ∈ room.session.participants, participant.kind ≠ .synthetic) ∧
    (∀ voice, room.session.voice = some voice →
      (∀ participant ∈ room.session.participants, participant.id ≠ "ai") →
      room.session.shown = room.session.participants ++ [voice.host] ∧
        (voice.host : Participant Remote).id = "ai" ∧
        (voice.host : Participant Remote).kind = .synthetic) ∧
    (room.session.voice = none ∨
        (∃ participant ∈ room.session.participants, participant.id = "ai") →
      room.session.shown = room.session.participants) ∧
    (room.session.shown.map (·.id)).Nodup := by
  refine ⟨?_, ?_, (orderly_run ran).2.seated.natural, ?_, Voice.overlay_of_taken,
    Voice.nodup_map_id_overlay _ _⟩
  · rw [voice_run ran]
    cases (spoken actions).getLast? <;> rfl
  · intro others same
    obtain ⟨voiceless, sights⟩ := run?_withoutVoice (Room.new limit) actions
    obtain ⟨otherVoiceless, otherSights⟩ := run?_withoutVoice (Room.new limit) others
    rw [same, ← voiceless, ran] at otherVoiceless
    obtain ⟨other, otherRan, unvoiced⟩ := Option.map_eq_some_iff.mp otherVoiceless
    exact ⟨other, otherRan, unvoiced, by rw [otherSights, same, sights]⟩
  · intro voice spoken free
    refine ⟨?_, rfl, rfl⟩
    rw [Session.shown, spoken]
    exact Voice.overlay_of_free free voice

/-- The guest takes the identity of the host and leaves again, and only then another voice is given. -/
def namesakeLeaves : List (Action Unit) :=
  hostedMeeting "ai" ++ [.event (viewOf "alex") (.left "ai"), .voice (some " Nova · Bright ")]

def unhosted : List (Action Unit) := .voice (some " · Calm") :: unspoken namesakeLeaves

theorem host_returns_after_namesake :
    ∃ room other, (Room.new (.ofSeconds 15 0)).run? namesakeLeaves = some room ∧
      room.session.voice = some { name := "Nova", mood := some "Bright" } ∧
      room.session.shown.map (·.id) = ["alex", "ai"] ∧
      (room.session.shown.map (·.id)).Nodup ∧
      (Room.new (.ofSeconds 15 0)).run? unhosted = some other ∧ other.session.voice = none ∧
      other.withoutVoice = room.withoutVoice := by
  have alone := @host_only_in_list Unit (.ofSeconds 15 0) namesakeLeaves _ rfl
  obtain ⟨other, ran, same, _sights⟩ := alone.2.1 unhosted rfl
  refine ⟨_, other, rfl, ?_, rfl, ?_, ran, ?_, same⟩
  · exact alone.1
  · exact alone.2.2.2.2.2
  · have silent := @host_only_in_list Unit (.ofSeconds 15 0) unhosted _ ran
    exact silent.1

end Room

end MeetingRoom
