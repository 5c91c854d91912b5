import MeetingRoom.Proofs.Orderly
import MeetingRoom.Proofs.Passages
import MeetingRoom.Proofs.Refreshes

/-!
A toggle that is left alone. Outside a call, or without an own identity, it is refused and nothing
is asked of the transport; if the device cannot be switched, the session is as it was. Otherwise the
entry of the own identity takes over what the transport shows by then, and the result is what this
entry shows. Nothing but flags changes as long as this entry is the own participant. It may be
somebody else: a resync that finds no own participant lists a remote one who goes by the own
identity, and this one loses its handle by a toggle.
-/

namespace MeetingRoom

variable {Remote : Type}

def Participant.SameButFlags (before after : Participant Remote) : Prop :=
  after = { before with audio := after.audio, video := after.video }

def Media.View.switched (view : Media.View Remote) (track : Media.Track) (on : Bool) :
    Media.View Remote :=
  { view with own := view.own.map (·.setEnabled track on) }

namespace Room

/-- What a toggle meets in a call: what is shown at first, and then the fault, or what is shown when
the device has been switched. -/
structure Handling (Remote : Type) where
  shown : Media.View Remote
  outcome : Except Media.Fault (Media.View Remote)

namespace Handling

def steps (number : Nat) (handling : Handling Remote) : List (Action Remote) :=
  .work (.call number) handling.shown :: .ask (.call number) ::
    match handling.outcome with
    | .error fault => [.answer (.call number) (.failed fault)]
    | .ok after => [.answer (.call number) .done, .work (.call number) after]

/-- A toggle asks for the opposite of what it takes the device to be at. -/
def target (track : Media.Track) (identity : String) (session : Session Remote)
    (handling : Handling Remote) : Bool :=
  !Session.Toggle.current track identity handling.shown session

def obedient (track : Media.Track) (identity : String) (session : Session Remote)
    (view : Media.View Remote) : Handling Remote :=
  { shown := view
    outcome := .ok (view.switched track (!Session.Toggle.current track identity view session)) }

def session (identity : String) (session : Session Remote) (handling : Handling Remote) :
    Session Remote :=
  match handling.outcome with
  | .error _ => session
  | .ok after => (session.refreshMedia after identity).session

def result (track : Media.Track) (identity : String) (session : Session Remote)
    (handling : Handling Remote) : Session.Result :=
  match handling.outcome with
  | .error fault => .toggle (.error (.failed track fault.message))
  | .ok after =>
      .toggle (.ok ((((session.refreshMedia after identity).session.roster.get? identity).map
        (·.enabled track)).getD (handling.target track identity session)))

def passage (track : Media.Track) (identity : String) (number : Nat) (session : Session Remote)
    (handling : Handling Remote) : Passage Remote :=
  { steps := handling.steps number
    asks := [.enable track (handling.target track identity session)]
    session := handling.session identity session
    result := handling.result track identity session }

end Handling

/-! ### The stages of a toggle -/

section Stages

variable {limit : Duration} {number : Nat} {session : Session Remote} {track : Media.Track}
  {identity : String} {passage : Passage Remote}

theorem passes_refused_toggle_iff
    (nowhere : session.call ≠ .connected ∨ session.identity = none) :
    Passes limit number session (.waits (.toggle track .starting)) false passage ↔
      ∃ shown, passage =
        { steps := [.work (.call number) shown]
          asks := []
          session := session
          result := .toggle (.error .notConnected) } := by
  have refuses : ∀ view, (Session.Task.toggle track .starting).section? number view session =
      some { session := session, next := .ends (.toggle (.error .notConnected)) } := by
    intro view
    change some (Session.Toggle.start track view session) = _
    unfold Session.Toggle.start
    split
    · rename_i identity connected known
      rcases nowhere with elsewhere | unknown
      · exact absurd connected elsewhere
      · rw [unknown] at known
        cases known
    · rfl
  rw [passes_works_iff refuses]
  constructor
  · rintro ⟨shown, rest, ended, rfl⟩
    rw [passes_ends_iff.mp ended]
    exact ⟨shown, rfl⟩
  · rintro ⟨shown, rfl⟩
    exact ⟨shown, .ended session (.toggle (.error .notConnected)), .returns _ _, rfl⟩

theorem passes_toggle_iff (connected : session.call = .connected)
    (known : session.identity = some identity) :
    Passes limit number session (.waits (.toggle track .starting)) false passage ↔
      ∃ handling : Handling Remote,
        passage = handling.passage track identity number session := by
  have starts : ∀ view, (Session.Task.toggle track .starting).section? number view session =
      some { session := session
             next := .waits (.toggle track (.switching session.epoch identity
              (!Session.Toggle.current track identity view session))) } := by
    intro view
    change some (Session.Toggle.start track view session) = _
    rw [Session.Toggle.start, connected, known]
  have settles : ∀ target view,
      (Session.Task.toggle track (.settling session.epoch identity target)).section? number view
          session =
        some { session := (session.refreshMedia view identity).session
               next := .ends (.toggle (.ok
                ((((session.refreshMedia view identity).session.roster.get? identity).map
                  (·.enabled track)).getD target))) } := by
    intro target view
    change some (Session.Toggle.settle track session.epoch identity target view session) = _
    rw [Session.Toggle.settle, if_pos rfl]
  rw [passes_works_iff starts]
  constructor
  · rintro ⟨shown, rest, asking, rfl⟩
    obtain ⟨answer, next, journal, heard, answered, going, rfl⟩ :=
      (passes_asks_iff rfl).mp asking
    cases answer with
    | done =>
        cases answered
        obtain ⟨after, last, ended, rfl⟩ := (passes_works_iff (settles _)).mp going
        rw [passes_ends_iff.mp ended]
        exact ⟨{ shown := shown, outcome := .ok after }, rfl⟩
    | failed fault =>
        cases answered
        rw [passes_ends_iff.mp going]
        exact ⟨{ shown := shown, outcome := .error fault }, rfl⟩
    | timedOut => cases answered
  · rintro ⟨⟨shown, outcome⟩, rfl⟩
    cases outcome with
    | ok after =>
        have settled : Passes limit number session (.waits (.toggle track (.settling session.epoch
            identity (!Session.Toggle.current track identity shown session)))) false _ :=
          (passes_works_iff (settles _)).mpr ⟨after, _, .returns _ _, rfl⟩
        exact ⟨shown, _, (passes_asks_iff rfl).mpr ⟨.done, _, _, _, rfl, settled, rfl⟩, rfl⟩
    | error fault =>
        exact ⟨shown, _, (passes_asks_iff rfl).mpr
          ⟨.failed fault, _, _, _, rfl, .returns session _, rfl⟩, rfl⟩

end Stages

end Room

/-! ### What a toggle leaves -/

namespace Media.Snapshot

theorem enabled_setEnabled (snapshot : Snapshot Remote) (track : Track) (on : Bool) :
    (snapshot.setEnabled track on).enabled track = on := by
  cases track <;> rfl

theorem setEnabled_back (snapshot : Snapshot Remote) (track : Track) (on : Bool) :
    (snapshot.setEnabled track on).setEnabled track (snapshot.enabled track) = snapshot := by
  cases track <;> rfl

end Media.Snapshot

theorem Participant.enabled_withMedia (participant : Participant Remote)
    (snapshot : Media.Snapshot Remote) (track : Media.Track) :
    (participant.withMedia snapshot).enabled track = snapshot.enabled track := by
  cases track <;> rfl

namespace Session

variable {session : Session Remote} {identity : String} {view after : Media.View Remote}
  {own : Media.Snapshot Remote} {track : Media.Track}

theorem Toggle.current_of_own (shown : view.own = some own) (track : Media.Track)
    (identity : String) (session : Session Remote) :
    current track identity view session = own.enabled track := by
  rw [current, shown]
  rfl

/-- The own identity is looked up as the own participant. -/
theorem participants_refreshOwn (known : session.identity = some identity) :
    (session.refreshMedia after identity).session.participants =
      session.participants.map fun entry =>
        if entry.id = identity then (after.own.map entry.withMedia).getD entry else entry := by
  rw [participants_refreshMedia, truth?, if_pos known]

/-- The flag of the entry is that of the transport, if there are both. -/
theorem flag_refreshOwn (track : Media.Track) (known : session.identity = some identity)
    (shown : after.own = some own) :
    (((session.refreshMedia after identity).session.roster.get? identity).map
        (·.enabled track)).getD (own.enabled track) = own.enabled track := by
  rw [get?_refreshMedia, truth?, if_pos known, shown]
  cases session.roster.get? identity with
  | none => rfl
  | some entry =>
      rw [Option.map_some, Option.map_some, if_pos rfl]
      exact entry.enabled_withMedia own track

/-- No more than flags change exactly if a remote participant under the own identity has the handle
already that it is given. -/
theorem refreshOwn_spares_handles_iff (own? : Option (Media.Snapshot Remote))
    (participants : List (Participant Remote)) :
    (∃ change : Participant Remote → Participant Remote,
      (∀ entry, Participant.SameButFlags entry (change entry)) ∧
        (participants.map fun entry =>
            if entry.id = identity then (own?.map entry.withMedia).getD entry else entry) =
          participants.map fun entry => if entry.id = identity then change entry else entry) ↔
      ∀ own, own? = some own → ∀ entry ∈ participants, entry.id = identity →
        entry.kind = .remote → entry.handle = own.handle := by
  constructor
  · rintro ⟨change, same, listed⟩ own rfl entry member named remote
    have changed := List.map_inj_left.mp listed entry member
    rw [if_pos named, if_pos named] at changed
    have kept : (change entry).handle = entry.handle := by rw [same entry]
    rw [← changed] at kept
    exact kept.symm.trans (if_pos remote)
  · intro handles
    refine ⟨fun entry => (own?.map fun own =>
      { entry with audio := own.audio, video := own.video }).getD entry, ?_, ?_⟩
    · intro entry
      cases own? <;> rfl
    · apply List.map_congr_left
      intro entry member
      by_cases named : entry.id = identity
      · rw [if_pos named, if_pos named]
        cases own? with
        | none => rfl
        | some own =>
            change entry.withMedia own = { entry with audio := own.audio, video := own.video }
            rw [Participant.withMedia]
            split
            · rename_i remote
              rw [handles own rfl entry member named remote]
            · rfl
      · rw [if_neg named, if_neg named]

/-- What a toggle that has come through leaves: nothing but the entry of the own identity has changed,
by what the transport shows, and this entry shows the result. -/
structure Flipped (track : Media.Track) (identity : String) (own? : Option (Media.Snapshot Remote))
    (session after : Session Remote) (on : Bool) : Prop where
  rest : after = { session with roster := after.roster }
  participants : after.participants = session.participants.map fun entry =>
    if entry.id = identity then (own?.map entry.withMedia).getD entry else entry
  shows : ∀ entry ∈ after.participants, entry.id = identity ∨ entry.isOwn = true →
    entry.enabled track = on
  flagsOnly :
    (∃ change : Participant Remote → Participant Remote,
      (∀ entry, Participant.SameButFlags entry (change entry)) ∧
        after.participants = session.participants.map fun entry =>
          if entry.id = identity then change entry else entry) ↔
      ∀ own, own? = some own → ∀ entry ∈ session.participants, entry.id = identity →
        entry.kind = .remote → entry.handle = own.handle

theorem flipped_refreshOwn (known : session.identity = some identity)
    (orderly : (session.refreshMedia after identity).session.Orderly) (target : Bool) :
    session.Flipped track identity after.own (session.refreshMedia after identity).session
      ((((session.refreshMedia after identity).session.roster.get? identity).map
        (·.enabled track)).getD target) := by
  have rest := session_refreshMedia after session identity
  refine ⟨by rw [rest], participants_refreshOwn known, ?_, ?_⟩
  · intro entry member either
    have named : entry.id = identity := by
      rcases either with named | own
      · exact named
      · have pinned := (orderly.seated.own entry member (of_decide_eq_true own)).2.1
        rw [rest] at pinned
        exact (Option.some.inj (known.symm.trans pinned)).symm
    have found := Roster.get?_eq_some_iff.mpr ⟨member, named⟩
    rw [found]
    rfl
  · rw [participants_refreshOwn known]
    exact refreshOwn_spares_handles_iff after.own session.participants

end Session

/-! ### Toggles that are left alone -/

namespace Media.View

theorem own_switched {view : View Remote} {own : Snapshot Remote} (shown : view.own = some own)
    (track : Track) (on : Bool) :
    (view.switched track on).own = some (own.setEnabled track on) := by
  rw [switched, shown]
  rfl

theorem switched_back {view : View Remote} {own : Snapshot Remote} (shown : view.own = some own)
    (track : Track) (on : Bool) :
    (view.switched track on).switched track (own.enabled track) = view := by
  obtain ⟨own?, remotes⟩ := view
  cases shown
  simp [switched, Snapshot.setEnabled_back]

end Media.View

namespace Room

theorem Handling.steps_inj {number : Nat} {left right : Handling Remote}
    (same : left.steps number = right.steps number) : left = right := by
  obtain ⟨shown, outcome⟩ := left
  obtain ⟨otherShown, other⟩ := right
  cases outcome with
  | error fault =>
      cases other with
      | error otherFault => cases same; rfl
      | ok otherAfter => cases same
  | ok after =>
      cases other with
      | error otherFault => cases same
      | ok otherAfter => cases same; rfl

theorem Handling.result_obedient {session : Session Remote} {track : Media.Track}
    {identity : String} {view : Media.View Remote} {own : Media.Snapshot Remote}
    (known : session.identity = some identity) (shown : view.own = some own) :
    (obedient track identity session view).result track identity session =
      .toggle (.ok (!own.enabled track)) := by
  have turned := Media.View.own_switched shown track (!own.enabled track)
  have flag := Session.flag_refreshOwn track known turned
  rw [Media.Snapshot.enabled_setEnabled] at flag
  rw [result, target, obedient, Session.Toggle.current_of_own shown]
  exact congrArg (fun on => Session.Result.toggle (.ok on)) flag

structure Obeyed (room : Room Remote) (track : Media.Track) (identity : String)
    (view : Media.View Remote) (actions : List (Action Remote)) (last : Room Remote) : Prop where
  alone : room.Alone (.toggle track) actions last
  steps : stepsOf room.calls actions =
    (Handling.obedient track identity room.session view).steps room.calls

section Reached

variable {limit : Duration} {before actions : List (Action Remote)} {room last : Room Remote}
  {track : Media.Track} {identity : String} (ran : (Room.new limit).run? before = some room)
  (connected : room.session.call = .connected) (known : room.session.identity = some identity)

include ran connected known

theorem Alone.exists_handling (alone : room.Alone (.toggle track) actions last) :
    ∃ handling : Handling Remote, (room.start (.toggle track)).Makes room.calls actions last
      (handling.passage track identity room.calls room.session) := by
  obtain ⟨passage, passes, makes⟩ := alone.exists_passage ran
  obtain ⟨handling, rfl⟩ := (passes_toggle_iff connected known).mp passes
  exact ⟨handling, makes⟩

/-- If the transport shows the own participant, its flag is turned, and that is the result. -/
theorem Obeyed.turned {view : Media.View Remote} {own : Media.Snapshot Remote}
    (shown : view.own = some own) (obeyed : room.Obeyed track identity view actions last) :
    (Handling.obedient track identity room.session view).outcome =
        .ok (view.switched track (!own.enabled track)) ∧
      (room.calls, .toggle (.ok (!own.enabled track))) ∈ last.results ∧
      last.session.call = .connected ∧ last.session.identity = some identity := by
  obtain ⟨handling, makes⟩ := obeyed.alone.exists_handling ran connected known
  have same := Handling.steps_inj (makes.steps.symm.trans obeyed.steps)
  subst same
  refine ⟨?_, ?_, ?_, ?_⟩
  · rw [Handling.obedient, Session.Toggle.current_of_own shown]
  · exact (makes.results _).mpr (Handling.result_obedient known shown).symm
  · rw [makes.session]
    change (Session.refreshMedia _ room.session identity).session.call = .connected
    rw [Session.session_refreshMedia]
    exact connected
  · rw [makes.session]
    change (Session.refreshMedia _ room.session identity).session.identity = some identity
    rw [Session.session_refreshMedia]
    exact known

end Reached

/-- A toggle is made in a room that can be reached, and the session is left to it until it returns.
Unless there is a call and an own identity it is refused, and neither the transport nor the session
hears of it. Otherwise it asks for the opposite of what the device is at, by the transport or else by
the roster. If that fails, it comes to this fault and the session is as it was. If not, the entry of
the own identity has taken over what the transport shows of the own participant, and shows the result;
nothing but flags has changed exactly if no remote participant goes by the own identity and gets
another handle by this. Whatever the transport answers and shows, a toggle can take this course. And
if the transport shows the own participant and does as it is asked, its flag is turned, and by a
second toggle turned back. -/
theorem toggle_changes_flags_only_iff {limit : Duration} {before : List (Action Remote)}
    {room : Room Remote} (ran : (Room.new limit).run? before = some room) (track : Media.Track) :
    ((room.session.call ≠ .connected ∨ room.session.identity = none) →
      (∀ actions last, room.Alone (.toggle track) actions last →
        (∀ result, (room.calls, result) ∈ last.results ↔
          result = .toggle (.error .notConnected)) ∧
        asksOf room.calls (room.start (.toggle track)) actions = [] ∧
        last.session = room.session) ∧
      ∀ shown, ∃ last, room.Alone (.toggle track) [.work (.call room.calls) shown] last) ∧
    ∀ identity, room.session.call = .connected → room.session.identity = some identity →
      (∀ actions last, room.Alone (.toggle track) actions last →
        ∃ handling : Handling Remote,
          stepsOf room.calls actions = handling.steps room.calls ∧
          asksOf room.calls (room.start (.toggle track)) actions =
            [.enable track (!Session.Toggle.current track identity handling.shown room.session)] ∧
          match handling.outcome with
          | .error fault =>
              (∀ result, (room.calls, result) ∈ last.results ↔
                result = .toggle (.error (.failed track fault.message))) ∧
              last.session = room.session
          | .ok after =>
              ∃ on, (∀ result, (room.calls, result) ∈ last.results ↔
                  result = .toggle (.ok on)) ∧
                room.session.Flipped track identity after.own last.session on) ∧
      (∀ handling : Handling Remote,
        ∃ last, room.Alone (.toggle track) (handling.steps room.calls) last) ∧
      ∀ view own, view.own = some own → ∀ actions middle,
        room.Obeyed track identity view actions middle →
          ∃ turned, (Handling.obedient track identity room.session view).outcome = .ok turned ∧
            turned.own.map (·.enabled track) = some (!own.enabled track) ∧
            (room.calls, .toggle (.ok (!own.enabled track))) ∈ middle.results ∧
            ∀ later last, middle.Obeyed track identity turned later last →
              (Handling.obedient track identity middle.session turned).outcome = .ok view ∧
                (middle.calls, .toggle (.ok (own.enabled track))) ∈ last.results := by
  refine ⟨?_, ?_⟩
  · intro nowhere
    refine ⟨?_, ?_⟩
    · intro actions last alone
      obtain ⟨passage, passes, makes⟩ := alone.exists_passage ran
      obtain ⟨shown, rfl⟩ := (passes_refused_toggle_iff nowhere).mp passes
      exact ⟨makes.results, makes.asks, makes.session⟩
    · intro shown
      exact @Alone.of_passes Remote limit before room (.toggle track) _ ran
        ((passes_refused_toggle_iff nowhere).mpr ⟨shown, rfl⟩) nofun
  · intro identity connected known
    refine ⟨?_, ?_, ?_⟩
    · intro actions last alone
      obtain ⟨⟨shown, outcome⟩, makes⟩ := alone.exists_handling ran connected known
      refine ⟨⟨shown, outcome⟩, makes.steps, makes.asks, ?_⟩
      cases outcome with
      | error fault => exact ⟨makes.results, makes.session⟩
      | ok after =>
          have left : last.session = (room.session.refreshMedia after identity).session :=
            makes.session
          have orderly := (orderly_run (alone.reached ran)).2
          rw [left] at orderly ⊢
          exact ⟨_, makes.results, Session.flipped_refreshOwn known orderly _⟩
    · intro handling
      exact @Alone.of_passes Remote limit before room (.toggle track) _ ran
        ((passes_toggle_iff connected known).mpr ⟨handling, rfl⟩) nofun
    · intro view own shown actions middle obeyed
      obtain ⟨turns, noted, still, same⟩ := obeyed.turned ran connected known shown
      have turned := Media.View.own_switched shown track (!own.enabled track)
      have flag := own.enabled_setEnabled track (!own.enabled track)
      refine ⟨_, turns, ?_, noted, ?_⟩
      · rw [turned, Option.map_some, flag]
      · intro later last again
        obtain ⟨back, result, _call, _identity⟩ :=
          again.turned (obeyed.alone.reached ran) still same turned
        rw [flag, Bool.not_not] at back result
        rw [Media.View.switched_back shown] at back
        exact ⟨back, result⟩

def metRoom : Room Unit :=
  ((Room.new (.ofSeconds 15 0)).run? (renamedMeanwhile.take 8)).get rfl

def flipsMicrophone (room : Room Unit) (view : Media.View Unit) : List (Action Unit) :=
  (Handling.obedient .audio "alex" room.session view).steps room.calls

def heardRoom : Room Unit :=
  (metRoom.run? (.call (.toggle .audio) :: flipsMicrophone metRoom (viewOf "alex"))).get rfl

theorem microphone_on_and_off_again :
    ∃ last, metRoom.Alone (.toggle .audio) (flipsMicrophone metRoom (viewOf "alex")) heardRoom ∧
      heardRoom.Alone (.toggle .audio)
        (flipsMicrophone heardRoom ((viewOf "alex").switched .audio true)) last ∧
      (1, .toggle (.ok true)) ∈ heardRoom.results ∧ (2, .toggle (.ok false)) ∈ last.results := by
  have reached : (Room.new (.ofSeconds 15 0)).run? (renamedMeanwhile.take 8) = some metRoom := rfl
  have alone : metRoom.Alone (.toggle .audio) (flipsMicrophone metRoom (viewOf "alex"))
      heardRoom := ⟨rfl, leftTo_of_own (by decide) _, rfl⟩
  obtain ⟨_course, _possible, flips⟩ :=
    (toggle_changes_flags_only_iff reached .audio).2 "alex" rfl rfl
  obtain ⟨turned, turns, _flag, noted, back⟩ := flips (viewOf "alex") _ rfl _ heardRoom ⟨alone, rfl⟩
  cases turns
  obtain ⟨_course, possible, _flips⟩ :=
    (toggle_changes_flags_only_iff (alone.reached reached) .audio).2 "alex" rfl rfl
  obtain ⟨last, again⟩ := possible
    (.obedient .audio "alex" heardRoom.session ((viewOf "alex").switched .audio true))
  exact ⟨last, alone, again, noted, (back _ last ⟨again, rfl⟩).2⟩

/-- When the transport is back it has no own participant yet, but somebody else is known as `alex`. -/
def backAsSomebodyElse : List (Action Unit) :=
  renamedMeanwhile ++
    [.hear 0 (some .reconnected),
      .work (.listener 0)
        { own := none, remotes := [{ Session.bare "alex" with handle := some () }] }]

def namesakeRoom : Room Unit :=
  ((Room.new (.ofSeconds 15 0)).run? backAsSomebodyElse).get rfl

/-- A toggle takes the handle away from whoever is listed by the own identity. -/
theorem namesake_loses_handle :
    (Room.new (.ofSeconds 15 0)).run? backAsSomebodyElse = some namesakeRoom ∧
      namesakeRoom.session.call = .connected ∧ namesakeRoom.session.identity = some "alex" ∧
      ∃ last, namesakeRoom.Alone (.toggle .audio)
          (flipsMicrophone namesakeRoom (viewOf "alex")) last ∧
        last.results = [(0, .attempt (.ok .connected)), (1, .toggle (.ok true))] ∧
        (namesakeRoom.session.participants.map fun entry => (entry.id, entry.isOwn, entry.handle)) =
          [("alex", false, some ())] ∧
        (last.session.participants.map fun entry => (entry.id, entry.isOwn, entry.handle)) =
          [("alex", false, none)] := by
  refine ⟨rfl, rfl, rfl, _, ⟨rfl, leftTo_of_own ?_ _, rfl⟩, rfl, rfl, rfl⟩
  decide

end Room

end MeetingRoom
