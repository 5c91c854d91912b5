import MeetingRoom.Proofs.Reception

/-!
The roster converges on what the transport shows. What keeps it right is that the events still to
come settle every entry, whatever happens to the transport, and that a resync may begin anew with
all events of a feed since they settle even the view that they have led to.
-/

namespace MeetingRoom

variable {Remote : Type}

namespace Reception

/-! ### Every step keeps the room faithful -/

section Steps

open Session

variable {room next : Room Remote} {feed later : Feed Remote} {added : List (Media.Event Remote)}

private theorem Faithful.happens
    (faithful : ({ room := room, feed := feed } : Reception Remote).Faithful)
    (happens : feed.Happens later added) :
    ({ room := room, feed := later } : Reception Remote).Faithful := by
  have call : later.call = feed.call := happens.call
  refine ⟨faithful.coherent, ?_, ?_, faithful.joining, faithful.toggles, ?_, ?_⟩
  · rw [call]
    intro untouched
    exact (faithful.fresh untouched).happens happens
  · rw [call]
    exact faithful.opened
  · rw [call]
    exact faithful.heard
  · refine ⟨faithful.serves.quiet, ?_, ?_, ?_⟩
    · intro live
      have knows := faithful.serves.knows live
      constructor
      · rw [happens.identity]
        exact knows.identity
      · rw [happens.identity]
        exact knows.own
    · intro live identity remote
      rw [happens.identity] at remote
      rw [queue, call, happens.queue, ← List.append_assoc]
      exact (faithful.serves.settles live identity remote).happens happens remote (Or.inl rfl)
    · rw [call]
      exact faithful.serves.listening

/-- A handshake comes through for the first in line only, and while there is no session. -/
private theorem Faithful.opens
    (faithful : ({ room := room, feed := feed } : Reception Remote).Faithful) {number epoch : Nat}
    {request : Request}
    (shaking : room.task? (.call number) = some (.attempt request (.handshake epoch)))
    (call : later.call = number) (away : later.away = false) (empty : later.queue = []) :
    ({ room := room, feed := later } : Reception Remote).Faithful := by
  have coherent : room.Coherent := faithful.coherent
  have idle : room.session.phase ≠ .live := by
    intro live
    have belongs := coherent.alone live _ request _ shaking rfl
    rw [coherent.stage_phase shaking belongs rfl] at live
    cases live
  refine ⟨coherent, ?_, ?_, ?_, ?_, ?_, ?_⟩
  · intro _untouched
    exact Feed.fresh_of_empty away empty
  · intro id other stage found opened
    have first := coherent.turn _ request _ shaking rfl
    rw [coherent.turn id other stage found (Attempt.hasTurn_of_isOpened opened)] at first
    exact (Option.some.inj first).trans call.symm
  · intro id other stage found belongs joins
    exact absurd (coherent.stage_phase found belongs joins) idle
  · intro id track stage identity found belongs switches
    exact absurd (coherent.stage_phase found belongs (Toggle.phase?_of_identity? switches)) idle
  · intro live
    exact absurd live idle
  · refine ⟨faithful.serves.quiet, ?_, ?_, ?_⟩
    · intro live
      exact absurd live idle
    · intro live
      exact absurd live idle
    · intro other held
      rw [coherent.quiet idle] at held
      cases held

/-- What has no epoch, and what listens, makes no difference. -/
private theorem Faithful.of_origin
    (faithful : ({ room := room, feed := feed } : Reception Remote).Faithful)
    (coherent : next.Coherent) (call : next.session.call = room.session.call)
    (identity : next.session.identity = room.session.identity)
    (epoch : next.session.epoch = room.session.epoch) (same : later.call = feed.call)
    (origin : ∀ id task, next.task? id = some task →
      task.epoch? = none ∨ (∃ epoch stage, task = .listener epoch stage) ∨
        room.task? id = some task)
    (fresh : (∃ task, next.task? (.call feed.call) = some task) ∨ next.calls ≤ feed.call →
      later.Fresh)
    (heard : next.session.phase = .live → ∀ epoch stage,
      next.task? (.listener feed.call) = some (.listener epoch stage) →
        epoch = next.session.epoch)
    (serves : next.session.Serves later
      (inHand next.session.epoch (next.task? (.listener feed.call)) ++ later.queue)) :
    ({ room := next, feed := later } : Reception Remote).Faithful := by
  refine ⟨coherent, ?_, ?_, ?_, ?_, ?_, ?_⟩
  · rw [same]
    exact fresh
  · intro id request stage found opened
    rw [same]
    rcases origin id _ found with epochless | ⟨own, after, listens⟩ | old
    · have belongs := @Attempt.epoch?_of_isOpened Remote request stage opened
      rw [epochless] at belongs
      cases belongs
    · cases listens
    · exact faithful.opened id request stage old opened
  · intro id request stage found belongs joins
    change next.session.call = .connected
    rw [call]
    rcases origin id _ found with epochless | ⟨own, after, listens⟩ | old
    · rw [epochless] at belongs
      cases belongs
    · cases listens
    · exact faithful.joining id request stage old (belongs.trans (congrArg some epoch)) joins
  · intro id track stage known found belongs switches
    change next.session.identity = some known
    rw [identity]
    rcases origin id _ found with epochless | ⟨own, after, listens⟩ | old
    · rw [epochless] at belongs
      cases belongs
    · cases listens
    · exact faithful.toggles id track stage known old (belongs.trans (congrArg some epoch)) switches
  · rw [same]
    exact heard
  · rw [queue, same]
    exact serves

private theorem Faithful.start
    (faithful : ({ room := room, feed := feed } : Reception Remote).Faithful)
    (operation : Room.Operation) (coherent : (room.start operation).Coherent) :
    ({ room := room.start operation, feed := feed } : Reception Remote).Faithful := by
  have heard : (room.start operation).task? (.listener feed.call) =
      room.task? (.listener feed.call) := by
    rw [Room.task?_start, if_neg (by nofun), Option.or_none]
  refine faithful.of_origin coherent rfl rfl rfl rfl ?_ ?_ ?_ ?_
  · intro id task found
    rcases Room.origin_start found with old | ⟨_same, new⟩
    · exact Or.inr (Or.inr old)
    · rw [new]
      exact Or.inl (by cases operation <;> rfl)
  · intro untouched
    apply faithful.fresh
    rcases untouched with ⟨task, found⟩ | ahead
    · rcases Room.origin_start found with old | ⟨same, _new⟩
      · exact Or.inl ⟨task, old⟩
      · exact Or.inr (Nat.le_of_eq (Room.TaskId.call.inj same).symm)
    · exact Or.inr (Nat.le_of_succ_le ahead)
  · rw [heard]
    exact faithful.heard
  · rw [heard]
    exact faithful.serves

/-- A listener takes from the queue what it then has in hand. -/
private theorem Faithful.hear
    (faithful : ({ room := room, feed := feed } : Reception Remote).Faithful) {epoch : Nat}
    {event? : Option (Media.Event Remote)} {rest : List (Media.Event Remote)}
    (found : room.task? (.listener feed.call) = some (.listener epoch .waiting))
    (coherent :
      (room.replace (.listener feed.call) (.listener epoch (.holding event?))).Coherent)
    (queued : feed.queue = event?.toList ++ rest) :
    ({ room := room.replace (.listener feed.call) (.listener epoch (.holding event?))
       feed := { feed with queue := rest } } : Reception Remote).Faithful := by
  obtain ⟨issued, ended, _listens⟩ := faithful.coherent.heirs feed.call _ found
  have holds : (room.replace (.listener feed.call) (.listener epoch (.holding event?))).task?
      (.listener feed.call) = some (.listener epoch (.holding event?)) := by
    rw [Room.task?_replace, if_pos rfl, found]
    rfl
  refine faithful.of_origin coherent rfl rfl rfl rfl ?_ ?_ ?_ ?_
  · intro id task moved
    rw [Room.task?_replace] at moved
    split at moved
    · obtain ⟨_old, _present, same⟩ := Option.map_eq_some_iff.mp moved
      exact Or.inr (Or.inl ⟨epoch, _, same.symm⟩)
    · exact Or.inr (Or.inr moved)
  · intro untouched
    rcases untouched with ⟨task, attempt⟩ | ahead
    · rw [Room.task?_replace, if_neg (by nofun), ended] at attempt
      cases attempt
    · exact absurd issued (Nat.not_lt.mpr ahead)
  · intro live own stage listens
    rw [holds] at listens
    cases listens
    exact faithful.heard live epoch .waiting found
  · refine ⟨faithful.serves.quiet, ?_, ?_, faithful.serves.listening⟩
    · intro live
      have knows := faithful.serves.knows live
      exact ⟨knows.identity, knows.own⟩
    · intro live identity remote
      have settles := faithful.serves.settles live identity remote
      have current : epoch = room.session.epoch := faithful.heard live epoch .waiting found
      have taken : inHand room.session.epoch
          (some (.listener epoch (.holding event?))) = event?.toList := by
        cases event? with
        | none => rfl
        | some event => exact if_pos current
      rw [holds]
      change feed.Settles identity (inHand room.session.epoch _ ++ rest) _
      rw [taken, ← queued]
      rw [queue, found] at settles
      exact settles

private theorem Faithful.acts
    (faithful : ({ room := room, feed := feed } : Reception Remote).Faithful)
    {action : Room.Action Remote}
    (permitted : ({ room := room, feed := feed } : Reception Remote).Permits action)
    (stepped : room.step? action = some next) :
    ({ room := next, feed := feed } : Reception Remote).Faithful := by
  have before : room.Coherent := faithful.coherent
  have coherent : next.Coherent := before.step stepped
  cases action with
  | call operation =>
      cases stepped
      exact faithful.start operation coherent
  | work id view =>
      obtain ⟨task, part, found, may, worked, enacted⟩ := Room.work?_eq_some_iff.mp stepped
      change view = feed.view at permitted
      subst permitted
      subst enacted
      refine faithful.enact (before.moves_of_work found may worked)
        (Session.Task.section?_touches worked) ?_
      intro request epoch shaking
      subst shaking
      cases worked
  | ask id =>
      obtain ⟨task, found, asks, unasked, asked⟩ := Room.ask?_eq_some_iff.mp stepped
      subst asked
      exact ⟨coherent, faithful.fresh, faithful.opened, faithful.joining, faithful.toggles,
        faithful.heard, faithful.serves⟩
  | answer id answer =>
      obtain ⟨task, waits, journal, found, asked, answered, proceeded⟩ :=
        Room.answer?_eq_some_iff.mp stepped
      have enacted : room.enact id
          { session := room.session, next := waits, journal := journal } = next :=
        (Room.enact_of_none room id rfl rfl).trans proceeded
      rw [← enacted]
      refine faithful.enact (before.moves_of_answer found answered) (.nothing rfl ?_ rfl rfl) ?_
      · intro stage listens
        subst listens
        cases stage with
        | waiting => cases answered
        | holding event? => cases answered
        | releasing => cases (before.fits id _ found).phase rfl
      · intro request epoch shaking settles
        subst shaking
        cases answer with
        | done => exact permitted request epoch rfl found
        | failed fault =>
            cases answered
            cases settles
        | timedOut =>
            cases answered
            cases settles
  | hear number event? =>
      obtain ⟨epoch, found, replaced⟩ := Room.hear?_eq_some_iff.mp stepped
      rw [← replaced, ← Room.enact_hearing]
      refine faithful.enact (before.moves_of_hear found) (.nothing rfl ?_ rfl rfl) (by nofun)
      intro stage listens
      cases listens
      exact permitted (faithful.serves.listening number ((before.fits _ _ found).held _ rfl))
  | event view event => cases permitted
  | voice text? =>
      cases stepped
      refine ⟨coherent, faithful.fresh, faithful.opened, faithful.joining, faithful.toggles,
        faithful.heard, faithful.serves.quiet, ?_, faithful.serves.settles,
        faithful.serves.listening⟩
      intro live
      have knows := faithful.serves.knows live
      exact ⟨knows.identity, knows.own⟩

end Steps

theorem Faithful.step {before after : Reception Remote} (faithful : before.Faithful)
    (step : before.Step after) : after.Faithful := by
  obtain ⟨room, feed⟩ := before
  obtain ⟨next, later⟩ := after
  cases step with
  | happens added same happens =>
      cases same
      exact faithful.happens happens
  | opens number epoch request shaking same call away empty =>
      cases same
      exact faithful.opens shaking call away empty
  | acts action permitted stepped same =>
      cases same
      exact faithful.acts permitted stepped
  | hears event rest queued same stepped =>
      cases same
      have coherent : next.Coherent := faithful.coherent.step stepped
      obtain ⟨epoch, found, replaced⟩ := Room.hear?_eq_some_iff.mp stepped
      cases replaced
      exact faithful.hear found coherent queued
  | hearsEnd empty same stepped =>
      cases same
      have coherent : next.Coherent := faithful.coherent.step stepped
      obtain ⟨epoch, found, replaced⟩ := Room.hear?_eq_some_iff.mp stepped
      cases replaced
      exact faithful.hear found coherent rfl

theorem Faithful.reaches {first last : Reception Remote} (faithful : first.Faithful)
    (reaches : first.Reaches last) : last.Faithful := by
  induction reaches with
  | refl => exact faithful
  | step _reached step ih => exact ih.step step

/-! ### Convergence -/

variable {reception : Reception Remote}

/-- Once the queue is empty, the entries of all others are what the view shows. -/
private theorem Faithful.entry_eq (faithful : reception.Faithful)
    (connected : reception.room.session.call = .connected) (drained : reception.queue = [])
    {identity : String} (remote : identity ≠ reception.feed.own.identity) :
    reception.room.session.entry identity = reception.feed.seen identity := by
  have live := Session.phase_of_connected connected
  have settles := faithful.serves.settles live identity remote
  rw [drained] at settles
  exact (settles connected).2

private theorem Faithful.mem_participants_iff (faithful : reception.Faithful)
    (connected : reception.room.session.call = .connected) (drained : reception.queue = [])
    (identity : String) :
    identity ∈ reception.room.session.participants.map (·.id) ↔
      identity ∈ reception.feed.own.identity :: reception.feed.remotes.map (·.identity) := by
  have listed : identity ∈ reception.room.session.participants.map (·.id) ↔
      (reception.room.session.entry identity).isSome = true := by
    rw [Session.participants, Roster.map_id_toList, Roster.mem_order_iff, Session.entry,
      Option.isSome_map, Option.isSome_iff_exists]
  rw [listed, List.mem_cons]
  by_cases own : identity = reception.feed.own.identity
  · have knows := faithful.serves.knows (Session.phase_of_connected connected)
    rw [own]
    exact ⟨fun _known => Or.inl rfl, fun _known => knows.own⟩
  · rw [faithful.entry_eq connected drained own, Option.isSome_iff_exists, List.mem_map]
    constructor
    · intro shown
      obtain ⟨flags, seen⟩ := shown
      obtain ⟨snapshot, member, named, _flagged⟩ := Feed.seen_eq_some_iff.mp seen
      exact Or.inr ⟨snapshot, member, named⟩
    · intro present
      obtain ⟨snapshot, member, named⟩ := present.resolve_left own
      exact ⟨snapshot.flags, Feed.seen_eq_some_iff.mpr ⟨snapshot, member, named, rfl⟩⟩

/-- Whatever happens to the transport, and whenever the listener comes to the events, the roster is
right as soon as the session is connected and has dealt with all of them. -/
theorem roster_converges {limit : Duration} {feed : Feed Remote} (away : feed.away = false)
    (empty : feed.queue = [])
    (reaches : Reaches { room := Room.new limit, feed := feed } reception)
    (connected : reception.room.session.call = .connected) (drained : reception.queue = []) :
    (reception.room.session.participants.map (·.id)).Perm
        (reception.feed.own.identity :: reception.feed.remotes.map (·.identity)) ∧
      (reception.room.session.participants.map (·.id)).Nodup ∧
      ∀ snapshot ∈ reception.feed.remotes, ∃ participant ∈ reception.room.session.participants,
        participant.id = snapshot.identity ∧ participant.audio = snapshot.audio ∧
          participant.video = snapshot.video := by
  have faithful : reception.Faithful := Faithful.reaches (Faithful.new away empty) reaches
  have distinct := Roster.nodup_map_id reception.room.session.roster
  refine ⟨?_, distinct, ?_⟩
  · exact (List.perm_ext_iff_of_nodup distinct reception.feed.distinct).mpr
      (faithful.mem_participants_iff connected drained)
  · intro snapshot member
    have remote : snapshot.identity ≠ reception.feed.own.identity := by
      intro same
      have present := List.mem_map_of_mem (f := (·.identity)) member
      rw [same] at present
      exact (List.nodup_cons.mp reception.feed.distinct).1 present
    have seen := Feed.seen_eq_some_iff.mpr ⟨snapshot, member, rfl, rfl⟩
    rw [← faithful.entry_eq connected drained remote] at seen
    obtain ⟨participant, found, flags⟩ := Option.map_eq_some_iff.mp seen
    have named := Roster.id_of_get? found
    refine ⟨participant, Roster.mem_toList_iff.mpr ?_, named, congrArg Prod.fst flags,
      congrArg Prod.snd flags⟩
    rw [named]
    exact found

private theorem Reaches.acts {first : Reception Remote} {room next : Room Remote}
    {feed : Feed Remote} (reached : first.Reaches { room := room, feed := feed })
    (action : Room.Action Remote)
    (permitted : ({ room := room, feed := feed } : Reception Remote).Permits action)
    (stepped : room.step? action = some next) :
    first.Reaches { room := next, feed := feed } :=
  reached.step (.acts action permitted stepped rfl)

def someone (identity : String) : Media.Snapshot Unit :=
  { identity := identity, name := identity, metadata := none, audio := true, video := false,
    handle := none }

def alone : Feed Unit :=
  { call := 0, own := someone "me", remotes := [], distinct := by decide, away := false, queue := [] }

def opened : Reception Unit := { room := Room.new (.ofSeconds 15 0), feed := alone }

def visited : Feed Unit :=
  { alone with
    remotes := [someone "guest"]
    distinct := by decide
    queue := [.joined (someone "guest")] }

/-- A guest who comes between the two resyncs is listed once, though the event is still to come. -/
theorem guest_between_resyncs_is_listed_once :
    ∃ last : Reception Unit, opened.Reaches last ∧ last.feed = { visited with queue := [] } ∧
        (last.room.session.participants.map (·.id)).Perm ["me", "guest"] := by
  have start : opened.Reaches { room := Room.new (.ofSeconds 15 0), feed := alone } := .refl
  have called := start.acts (.call (.join
    { url := "wss://media", token := "token", audio := false, video := false })) trivial rfl
  have begun := called.acts (.work (.call 0) alone.view) rfl rfl
  have queued := begun.acts (.work (.call 0) alone.view) rfl rfl
  have turned := queued.acts (.work (.call 0) alone.view) rfl rfl
  have asked := turned.acts (.ask (.call 0)) trivial rfl
  have answered := asked.acts (.answer (.call 0) .done) (fun _ _ _ _ => rfl) rfl
  have accepted := answered.acts (.work (.call 0) alone.view) rfl rfl
  have joined : Reaches _ { room := _, feed := visited } := accepted.step
    (.happens [.joined (someone "guest")] rfl ⟨rfl, rfl, rfl, .joins (someone "guest") rfl (.refl _)⟩)
  have completed := joined.acts (.work (.call 0) visited.view) rfl rfl
  have taken : Reaches _ { room := _, feed := { visited with queue := [] } } := completed.step
    (.hears (.joined (someone "guest")) [] rfl rfl rfl)
  have handled := taken.acts (.work (.listener 0) visited.view) rfl rfl
  exact ⟨_, handled, rfl, (roster_converges rfl rfl handled rfl rfl).1⟩

end Reception

end MeetingRoom
