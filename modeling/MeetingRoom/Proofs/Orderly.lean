import MeetingRoom.Proofs.Becoming
import MeetingRoom.Proofs.Resync
import MeetingRoom.Proofs.Supersession

/-!
What holds of the session in every room that can be reached. Outside a call nobody is listed and
nothing is left of a session, a fault is there only when there is no session, and the own
participant is listed first and by the identity that the session has started with. Each of these is
kept by all the ways in which a session can change, and each of them needs the others.
-/

namespace MeetingRoom

variable {Remote : Type}

structure Seated (identity : Option String) (participants : List (Participant Remote)) : Prop where
  natural : ∀ participant ∈ participants, participant.kind ≠ .synthetic
  own : ∀ participant ∈ participants, participant.kind = .own →
    participants.head? = some participant ∧ identity = some participant.id ∧
      participant.label = "You" ∧ participant.handle = none

namespace Seated

variable {identity : Option String} {participants : List (Participant Remote)}

theorem nil : Seated identity ([] : List (Participant Remote)) := by
  constructor <;> intro participant member <;> cases member

theorem single (snapshot : Media.Snapshot Remote) :
    Seated (some snapshot.identity) [Participant.ofSnapshot .own snapshot] := by
  constructor
  · intro participant member
    rw [List.mem_singleton.mp member]
    nofun
  · intro participant member _own
    rw [List.mem_singleton.mp member]
    exact ⟨rfl, rfl, rfl, rfl⟩

/-- Whoever comes later is put behind the others. -/
theorem append (seated : Seated identity participants) {added : List (Participant Remote)}
    (remote : ∀ participant ∈ added, participant.kind = .remote) :
    Seated identity (participants ++ added) := by
  constructor
  · intro participant member
    rcases List.mem_append.mp member with old | new
    · exact seated.natural participant old
    · rw [remote participant new]
      nofun
  · intro participant member own
    rcases List.mem_append.mp member with old | new
    · obtain ⟨first, rest⟩ := seated.own participant old own
      refine ⟨?_, rest⟩
      rw [List.head?_append, first]
      rfl
    · rw [remote participant new] at own
      cases own

theorem filter (seated : Seated identity participants) (keep : Participant Remote → Bool) :
    Seated identity (participants.filter keep) := by
  constructor
  · intro participant member
    exact seated.natural participant (List.mem_filter.mp member).1
  · intro participant member own
    obtain ⟨listed, kept⟩ := List.mem_filter.mp member
    obtain ⟨first, rest⟩ := seated.own participant listed own
    obtain ⟨others, list⟩ := List.head?_eq_some_iff.mp first
    refine ⟨?_, rest⟩
    rw [list, List.filter_cons_of_pos kept]
    rfl

/-- A change of one entry that leaves alone what the own participant is told by. -/
theorem update {roster : Roster Remote} (seated : Seated identity roster.toList) (other : String)
    {change : Participant Remote → Participant Remote}
    (keeps : ∀ participant, (change participant).id = participant.id)
    (same : ∀ participant, (change participant).kind = participant.kind ∧
      (change participant).label = participant.label ∧
      (participant.kind = .own → (change participant).handle = participant.handle)) :
    Seated identity (roster.update other change keeps).toList := by
  have kind : ∀ participant : Participant Remote,
      (if participant.id = other then change participant else participant).kind =
        participant.kind := by
    intro participant
    split
    · exact (same participant).1
    · rfl
  rw [Roster.toList_update]
  constructor
  · intro changed member
    obtain ⟨participant, listed, rfl⟩ := List.mem_map.mp member
    rw [kind]
    exact seated.natural participant listed
  · intro changed member own
    obtain ⟨participant, listed, rfl⟩ := List.mem_map.mp member
    rw [kind] at own
    obtain ⟨first, known, labelled, bare⟩ := seated.own participant listed own
    refine ⟨by rw [List.head?_map, first]; rfl, ?_⟩
    split
    · rw [keeps, (same participant).2.1, (same participant).2.2 own]
      exact ⟨known, labelled, bare⟩
    · exact ⟨known, labelled, bare⟩

/-- There is one own participant at most. -/
theorem length_own_le_one (seated : Seated identity participants) (distinct : participants.Nodup) :
    (participants.filter (·.isOwn)).length ≤ 1 := by
  cases participants with
  | nil => exact Nat.zero_le 1
  | cons first rest =>
      have others : rest.filter (·.isOwn) = [] := by
        rw [List.filter_eq_nil_iff]
        intro participant member own
        have listed := List.mem_cons_of_mem first member
        have head := (seated.own participant listed (of_decide_eq_true own)).1
        cases head
        exact (List.nodup_cons.mp distinct).1 member
      rw [List.filter_cons, others]
      split
      · exact Nat.le_refl 1
      · exact Nat.zero_le 1

end Seated

theorem Roster.nodup_toList (roster : Roster Remote) : roster.toList.Nodup := by
  refine List.Pairwise.of_map (·.id) ?_ (nodup_map_id roster)
  intro left right different same
  exact different (congrArg _ same)

namespace Session

theorem seated_lineup (view : Media.View Remote) (identity : Option String) :
    Seated (identity.or (view.own.map (·.identity))) (lineup view identity) := by
  have remotes : ∀ (snapshots : List (Media.Snapshot Remote)) (participant : Participant Remote),
      participant ∈ snapshots.map (Participant.ofSnapshot .remote) →
        participant.kind = .remote := by
    intro snapshots participant member
    obtain ⟨snapshot, _listed, rfl⟩ := List.mem_map.mp member
    rfl
  unfold lineup
  cases view.own with
  | none => exact Seated.nil.append (remotes _)
  | some own =>
      have known : identity.or (some own.identity) = some (identity.getD own.identity) := by
        cases identity <;> rfl
      refine Seated.append ?_ (remotes _)
      rw [Option.map_some, known]
      exact .single { own with identity := identity.getD own.identity }

/-- What the parts of a session that can be reached have to do with each other. -/
structure Orderly (session : Session Remote) : Prop where
  quiet : session.call = .disconnected ∨ session.call = .connecting →
    session.roster = Roster.empty ∧ session.identity = none ∧ session.listener = none
  faultless : session.call ≠ .disconnected → session.fault = none
  seated : Seated session.identity session.participants

theorem Orderly.new : (new : Session Remote).Orderly := by
  refine ⟨?_, ?_, .nil⟩
  · intro _outside
    exact ⟨rfl, rfl, rfl⟩
  · intro connected
    exact absurd rfl connected

theorem live_iff {session : Session Remote} :
    session.phase = .live ↔ session.call = .connected ∨ session.call = .reconnecting := by
  unfold phase
  cases session.call <;> simp

/-- In a call nothing has to be empty. -/
private theorem Orderly.of_live {session after : Session Remote} (orderly : session.Orderly)
    (live : session.phase = .live) (call : after.phase = .live) (fault : after.fault = session.fault)
    (seated : Seated after.identity after.participants) : after.Orderly := by
  have calling : ∀ any : Session Remote, any.phase = .live →
      any.call ≠ .disconnected ∧ any.call ≠ .connecting := by
    intro any lives
    rcases live_iff.mp lives with connected | reconnecting
    · rw [connected]
      exact ⟨nofun, nofun⟩
    · rw [reconnecting]
      exact ⟨nofun, nofun⟩
  refine ⟨?_, ?_, seated⟩
  · intro outside
    rcases outside with disconnected | connecting
    · exact absurd disconnected (calling after call).1
    · exact absurd connecting (calling after call).2
  · intro _connected
    rw [fault]
    exact orderly.faultless (calling session live).1

private theorem Orderly.closed {after : Session Remote} (call : after.call = .disconnected)
    (roster : after.roster = Roster.empty) (identity : after.identity = none)
    (listener : after.listener = none) : after.Orderly := by
  refine ⟨?_, ?_, ?_⟩
  · intro _outside
    exact ⟨roster, identity, listener⟩
  · intro connected
    exact absurd call connected
  · rw [participants, roster]
    exact .nil

/-- Whatever a session can become is orderly if the session is. -/
theorem Orderly.step {view : Media.View Remote} {session after : Session Remote}
    (orderly : session.Orderly) (becomes : session.Becomes view after) : after.Orderly := by
  have seated : Seated session.identity session.roster.toList := orderly.seated
  have resynced : ∀ any : Session Remote,
      Seated (resync view any).identity (resync view any).participants := by
    intro any
    rw [participants_resync]
    exact seated_lineup view any.identity
  cases becomes with
  | stays => exact orderly
  | voices text? => exact ⟨orderly.quiet, orderly.faultless, orderly.seated⟩
  | refuses fault idle =>
      refine ⟨orderly.quiet, ?_, orderly.seated⟩
      intro connected
      exact absurd (disconnected_iff.mpr idle) connected
  | admits idle =>
      obtain ⟨empty, unknown, unheard⟩ := orderly.quiet (Or.inl (disconnected_iff.mpr idle))
      exact ⟨fun _outside => ⟨empty, unknown, unheard⟩, fun _connecting => rfl, orderly.seated⟩
  | accepts connecting =>
      have busy : session.call ≠ .disconnected := by
        rw [connecting_iff.mpr connecting]
        intro disconnected
        cases disconnected
      refine ⟨?_, ?_, resynced _⟩
      · rintro (disconnected | connecting)
        · cases disconnected
        · cases connecting
      · intro _connected
        exact orderly.faultless busy
  | fails fault connecting =>
      obtain ⟨empty, unknown, unheard⟩ := orderly.quiet (Or.inr (connecting_iff.mpr connecting))
      exact .closed rfl empty unknown unheard
  | completes number live => exact orderly.of_live live live rfl (resynced session)
  | hangsUp => exact .closed rfl rfl rfl rfl
  | joins snapshot roster live added =>
      refine orderly.of_live live live rfl ?_
      rw [participants, Roster.toList_add? added]
      refine seated.append ?_
      intro participant member
      rw [List.mem_singleton.mp member]
      rfl
  | leaves identity live other =>
      refine orderly.of_live live live rfl ?_
      rw [participants, Roster.toList_remove]
      exact seated.filter _
  | turns identity snapshot live known =>
      refine orderly.of_live live live rfl (seated.update identity
        (Participant.withMedia_id · snapshot) ?_)
      intro participant
      refine ⟨rfl, rfl, ?_⟩
      intro own
      have here : participant.kind ≠ .remote := by
        rw [own]
        intro remote
        cases remote
      rw [Participant.withMedia, if_neg here]
  | describes identity snapshot live known =>
      exact orderly.of_live live live rfl
        (seated.update identity (Participant.withMetadata_id · snapshot)
          fun participant => ⟨rfl, rfl, fun _own => rfl⟩)
  | suspends live => exact orderly.of_live live rfl rfl seated
  | resumes live => exact orderly.of_live live rfl rfl (resynced _)
  | loses reason live => exact .closed rfl rfl rfl rfl

def Call.leadsTo : Call → Call → Bool
  | .disconnected, .connecting => true
  | .connecting, .connected => true
  | .connecting, .disconnected => true
  | .connected, .reconnecting => true
  | .connected, .disconnected => true
  | .reconnecting, .connected => true
  | .reconnecting, .disconnected => true
  | _, _ => false

theorem Becomes.call {view : Media.View Remote} {session after : Session Remote}
    (becomes : session.Becomes view after) :
    after.call = session.call ∨ session.call.leadsTo after.call = true := by
  cases becomes with
  | admits idle =>
      rw [disconnected_iff.mpr idle]
      exact Or.inr rfl
  | accepts connecting =>
      rw [connecting_iff.mpr connecting]
      exact Or.inr rfl
  | fails fault connecting =>
      rw [connecting_iff.mpr connecting]
      exact Or.inr rfl
  | hangsUp =>
      change Call.disconnected = session.call ∨ session.call.leadsTo .disconnected = true
      cases session.call with
      | disconnected => exact Or.inl rfl
      | _ => exact Or.inr rfl
  | suspends live =>
      rcases live_iff.mp live with connected | reconnecting
      · rw [connected]
        exact Or.inr rfl
      · exact Or.inl reconnecting.symm
  | resumes live =>
      rcases live_iff.mp live with connected | reconnecting
      · exact Or.inl connected.symm
      · rw [reconnecting]
        exact Or.inr rfl
  | loses reason live =>
      rcases live_iff.mp live with connected | reconnecting
      · rw [connected]
        exact Or.inr rfl
      · rw [reconnecting]
        exact Or.inr rfl
  | _ => exact Or.inl rfl

/-- The own identity stays, or the session ends. -/
theorem Becomes.identity {view : Media.View Remote} {session after : Session Remote}
    (becomes : session.Becomes view after) {identity : String}
    (known : session.identity = some identity) :
    after.identity = some identity ∨ after.call = .disconnected := by
  have resynced : ∀ any : Session Remote, any.identity = some identity →
      (resync view any).identity = some identity := by
    intro any same
    rw [resync, same]
    rfl
  cases becomes with
  | accepts connecting => exact Or.inl (resynced _ known)
  | completes number live => exact Or.inl (resynced session known)
  | resumes live => exact Or.inl (resynced _ known)
  | hangsUp => exact Or.inr rfl
  | loses reason live => exact Or.inr rfl
  | _ => exact Or.inl known

end Session

namespace Room

theorem orderly_run {limit : Duration} {actions : List (Action Remote)} {room : Room Remote}
    (ran : (Room.new limit).run? actions = some room) :
    room.Coherent ∧ room.session.Orderly :=
  ⟨.run ran, session_run .new (fun _view _session _after => Session.Orderly.step) ran⟩

def ends (room : Room Remote) (action : Action Remote) : Bool :=
  (room.step? action).any fun next => next.session.call = .disconnected

/-- As long as the session lasts, the own identity does. -/
private theorem identity_run {room last : Room Remote} (coherent : room.Coherent)
    {identity : String} (known : room.session.identity = some identity)
    {actions : List (Action Remote)} (lasting : room.avoids ends actions = true)
    (ran : room.run? actions = some last) : last.session.identity = some identity := by
  induction actions generalizing room with
  | nil => cases ran; exact known
  | cons action rest ih =>
      rw [run?, List.foldlM_cons] at ran
      obtain ⟨next, stepped, rested⟩ := Option.bind_eq_some_iff.mp ran
      rw [avoids, stepped, Option.all_some, Bool.and_eq_true, ends, stepped, Option.any_some] at lasting
      obtain ⟨view, becomes⟩ := coherent.becomes_step stepped
      rcases becomes.identity known with kept | disconnected
      · exact ih (coherent.step stepped) kept lasting.2 rested
      · rw [disconnected] at lasting
        cases lasting.1

/-- In every room that can be reached: outside a call, that is without a session or with one that is
still coming about, nobody is listed, no own identity is known and nobody listens; a fault is there
only without a session; everybody is listed once, nobody is artificial, and the own participant
comes first; the own identity stays until the session ends; and the call only goes where it may. -/
theorem session_in_order {limit : Duration} {actions : List (Action Remote)} {room : Room Remote}
    (ran : (Room.new limit).run? actions = some room) :
    (room.session.call = .disconnected ∨ room.session.call = .connecting →
      room.session.roster = Roster.empty ∧ room.session.identity = none ∧
        room.session.listener = none) ∧
    (room.session.call ≠ .disconnected → room.session.fault = none) ∧
    ((room.session.participants.map (·.id)).Nodup ∧
      (room.session.participants.filter (·.isOwn)).length ≤ 1 ∧
      Seated room.session.identity room.session.participants) ∧
    (∀ later last identity, room.session.identity = some identity →
      room.avoids ends later = true → room.run? later = some last →
        last.session.identity = some identity) ∧
    ∀ action next, room.step? action = some next →
      next.session.call = room.session.call ∨
        room.session.call.leadsTo next.session.call = true := by
  obtain ⟨coherent, orderly⟩ := orderly_run ran
  refine ⟨orderly.quiet, orderly.faultless, ⟨Roster.nodup_map_id _, ?_, orderly.seated⟩, ?_, ?_⟩
  · exact orderly.seated.length_own_le_one (Roster.nodup_toList _)
  · intro later last identity known lasting rested
    exact identity_run coherent known lasting rested
  · intro action next stepped
    obtain ⟨view, becomes⟩ := coherent.becomes_step stepped
    exact becomes.call

def viewOf (identity : String) : Media.View Unit :=
  { own := some { identity := identity, name := "Alex", metadata := none, audio := false,
                  video := false, handle := none }
    remotes := [] }

/-- An attempt that finds `alex` and then, when it is done, somebody else, and a reconnect that is
under way. -/
def renamedMeanwhile : List (Action Unit) :=
  [.call (.join { url := "wss://media", token := "token", audio := false, video := false }),
    .work (.call 0) .empty, .work (.call 0) .empty, .work (.call 0) .empty, .ask (.call 0),
    .answer (.call 0) .done, .work (.call 0) (viewOf "alex"), .work (.call 0) (viewOf "alex-2"),
    .hear 0 (some .reconnecting), .work (.listener 0) .empty]

def renamedAgain : List (Action Unit) :=
  [.hear 0 (some .reconnected), .work (.listener 0) (viewOf "alex-3")]

theorem identity_kept_through_reconnect :
    ∃ room last, (Room.new (.ofSeconds 15 0)).run? renamedMeanwhile = some room ∧
      room.session.call = .reconnecting ∧ room.session.identity = some "alex" ∧
      room.run? renamedAgain = some last ∧ last.session.call = .connected ∧ last.session.identity = some "alex" := by
  refine ⟨_, _, rfl, rfl, rfl, rfl, rfl, ?_⟩
  have order := @session_in_order Unit (.ofSeconds 15 0) renamedMeanwhile _ rfl
  exact order.2.2.2.1 renamedAgain _ "alex" rfl rfl rfl

end Room

end MeetingRoom
