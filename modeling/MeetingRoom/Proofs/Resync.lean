import MeetingRoom.Roster.View
import MeetingRoom.Session.Event

/-!
A resync takes everything from the view. A roster built from a list keeps the first participant of
each identity, so after a reconnect the own participant comes first, and behind it the remote ones
as the transport lists them, each identity once. Of what the session held before only the identity
that it started with has any part in it.
-/

namespace MeetingRoom

/-! ### The first of each -/

section Firsts

variable {Item Image Key : Type} [DecidableEq Key] {key : Item → Key} {taken : List Key}

/-- The first item of each key that is not taken, in order. -/
def firsts (key : Item → Key) : List Key → List Item → List Item
  | _, [] => []
  | taken, item :: rest =>
      if key item ∈ taken then firsts key taken rest
      else item :: firsts key (key item :: taken) rest

/-- It matters which keys are taken, not in which order. -/
private theorem firsts_congr {left right : List Key} (same : ∀ other, other ∈ left ↔ other ∈ right)
    (items : List Item) : firsts key left items = firsts key right items := by
  induction items generalizing left right with
  | nil => rfl
  | cons item rest ih =>
      by_cases present : key item ∈ left
      · rw [firsts, if_pos present, firsts, if_pos ((same _).mp present)]
        exact ih same
      · have absent : key item ∉ right := fun member => present ((same _).mpr member)
        have grown : ∀ other, other ∈ key item :: left ↔ other ∈ key item :: right := by
          intro other
          rw [List.mem_cons, List.mem_cons, same]
        rw [firsts, if_neg present, firsts, if_neg absent, ih grown]

theorem firsts_map (change : Item → Image) (key : Image → Key) (taken : List Key)
    (items : List Item) :
    firsts key taken (items.map change) =
      (firsts (fun item => key (change item)) taken items).map change := by
  induction items generalizing taken with
  | nil => rfl
  | cons item rest ih =>
      rw [List.map_cons, firsts, firsts]
      by_cases present : key (change item) ∈ taken
      · rw [if_pos present, if_pos present, ih]
      · rw [if_neg present, if_neg present, ih, List.map_cons]

end Firsts

variable {Remote : Type}

/-! ### Rosters from lists -/

private theorem Roster.toList_foldl_add (participants : List (Participant Remote))
    (roster : Roster Remote) :
    (participants.foldl add roster).toList =
      roster.toList ++ firsts (·.id) (roster.toList.map (·.id)) participants := by
  induction participants generalizing roster with
  | nil =>
      rw [firsts, List.append_nil]
      rfl
  | cons participant rest ih =>
      have taken : participant.id ∈ roster.toList.map (·.id) ↔
          roster.contains participant.id = true := by
        rw [map_id_toList, contains_iff]
      rw [List.foldl_cons, ih, firsts, toList_add]
      by_cases present : roster.contains participant.id = true
      · rw [if_pos present, if_pos (taken.mpr present)]
      · rw [if_neg present, if_neg fun member => present (taken.mp member), List.append_assoc,
          List.singleton_append]
        congr 2
        apply firsts_congr
        intro other
        rw [List.map_append, List.mem_append, List.mem_cons, List.map_singleton,
          List.mem_singleton]
        exact or_comm

/-- A roster built from a list holds the first participant of each identity, in order. -/
theorem Roster.toList_ofList (participants : List (Participant Remote)) :
    (ofList participants).toList = firsts (·.id) [] participants := by
  rw [ofList, toList_foldl_add, toList_empty]
  rfl

/-! ### Resyncs -/

namespace Session

/-- Who is listed after a resync: the own participant, by the identity that the session has started
with if there is one, and then the first remote participant of each identity that is still free. -/
def lineup (view : Media.View Remote) (identity : Option String) : List (Participant Remote) :=
  let own := (view.own.map fun own => { own with identity := identity.getD own.identity }).toList
  own.map (Participant.ofSnapshot .own) ++
    (firsts (·.identity) (own.map (·.identity)) view.remotes).map (Participant.ofSnapshot .remote)

theorem participants_resync (view : Media.View Remote) (session : Session Remote) :
    (resync view session).participants = lineup view session.identity := by
  have remotes : ∀ taken : List String,
      firsts (·.id) taken (view.remotes.map (Participant.ofSnapshot .remote)) =
        (firsts (·.identity) taken view.remotes).map (Participant.ofSnapshot .remote) := fun taken =>
    firsts_map (Participant.ofSnapshot .remote) (·.id) taken view.remotes
  rw [participants, resync, Roster.toList_ofList, lineup]
  cases view.own with
  | none => exact remotes []
  | some own =>
      rw [Option.map_some, Option.toList_some, List.map_singleton, List.singleton_append, firsts,
        if_neg List.not_mem_nil, remotes]
      rfl

theorem apply_reconnected {session : Session Remote} (inCall : session.inCall = true)
    (view : Media.View Remote) : session.apply view .reconnected = session.resume view := by
  rw [apply, if_pos inCall]

/-- In a call, a reconnect lists whom the transport knows, and nothing else. So two sessions that
have started with the same identity list the same afterwards, whatever they listed before. -/
theorem reconnect_supersedes {session : Session Remote}
    (inCall : session.call = .connected ∨ session.call = .reconnecting)
    (view : Media.View Remote) :
    (session.apply view .reconnected).session.call = .connected ∧
      (session.apply view .reconnected).session.participants = lineup view session.identity ∧
      (∀ identity, session.identity = some identity →
        (session.apply view .reconnected).session.identity = some identity) ∧
      ∀ other : Session Remote, other.call = .connected ∨ other.call = .reconnecting →
        other.identity = session.identity →
          (other.apply view .reconnected).session.participants =
            (session.apply view .reconnected).session.participants := by
  have calling : ∀ any : Session Remote, any.call = .connected ∨ any.call = .reconnecting →
      any.inCall = true := by
    intro any either
    rcases either with connected | reconnecting
    · rw [Session.inCall, connected]
      rfl
    · rw [Session.inCall, reconnecting]
      rfl
  have listed : ∀ any : Session Remote, any.call = .connected ∨ any.call = .reconnecting →
      (any.apply view .reconnected).session.participants = lineup view any.identity := by
    intro any either
    rw [apply_reconnected (calling any either)]
    exact participants_resync view { any with call := .connected }
  refine ⟨?_, listed session inCall, ?_, ?_⟩
  · rw [apply_reconnected (calling session inCall)]
    rfl
  · intro identity known
    rw [apply_reconnected (calling session inCall)]
    change session.identity.or _ = some identity
    rw [known]
    rfl
  · intro other either same
    rw [listed other either, listed session inCall, same]

def bare (identity : String) : Media.Snapshot Unit :=
  { identity := identity, name := identity, metadata := none, audio := true, video := false,
    handle := none }

def staleSession : Session Unit :=
  { (new : Session Unit) with
    call := .reconnecting
    roster := Roster.ofList [Participant.ofSnapshot .remote (bare "gone")]
    identity := some "alex" }

def renamedView : Media.View Unit :=
  { own := some (bare "alex-2")
    remotes := [bare "guest", bare "alex", { bare "guest" with audio := false }] }

theorem first_identity_kept_over_guest :
    (staleSession.apply renamedView .reconnected).session.participants =
        [Participant.ofSnapshot .own { bare "alex-2" with identity := "alex" },
          Participant.ofSnapshot .remote (bare "guest")] ∧
      (staleSession.apply renamedView .reconnected).session.identity = some "alex" := by
  obtain ⟨_connected, listed, pinned, _independent⟩ :=
    @reconnect_supersedes Unit staleSession (Or.inr rfl) renamedView
  refine ⟨listed.trans ?_, pinned "alex" rfl⟩
  rfl

end Session

end MeetingRoom
