import MeetingRoom.Proofs.Sections
import MeetingRoom.Roster.View

/-!
The events of one handshake, and the view that runs ahead of them. What the events still do to the
entry of one identity can be foreseen without the others: only the entry itself counts, what the
view shows of the identity, and whether the session is in call. Whatever happens to the transport,
an entry that was going to be right in the end is still going to be right, since the event that
belongs to the change comes last.
-/

namespace MeetingRoom

variable {Remote : Type}

def Media.Snapshot.flags (snapshot : Media.Snapshot Remote) : Bool × Bool :=
  (snapshot.audio, snapshot.video)

/-- The transport as one handshake has opened it. -/
structure Feed (Remote : Type) where
  /-- The call that made the handshake. -/
  call : Nat
  own : Media.Snapshot Remote
  remotes : List (Media.Snapshot Remote)
  distinct : ((own :: remotes).map (·.identity)).Nodup
  /-- Whether the transport is reconnecting, when changes need not come with events. -/
  away : Bool
  /-- The events that nobody has taken yet. -/
  queue : List (Media.Event Remote)

namespace Feed

def view (feed : Feed Remote) : Media.View Remote := { own := some feed.own, remotes := feed.remotes }

def seen (feed : Feed Remote) (identity : String) : Option (Bool × Bool) :=
  (feed.remotes.find? (·.identity = identity)).map (·.flags)

/-- The ways in which the transport changes, each with the events that it sends. Remote participants
may come in any order. -/
inductive Change (before after : Feed Remote) : List (Media.Event Remote) → Prop where
  | joins (snapshot : Media.Snapshot Remote) (away : after.away = before.away)
      (remotes : after.remotes.Perm (snapshot :: before.remotes)) :
      Change before after [.joined snapshot]
  | leaves (identity : String) (away : after.away = before.away)
      (remotes : after.remotes.Perm (before.remotes.filter (·.identity ≠ identity))) :
      Change before after [.left identity]
  | turns (change : Media.TrackChange) (track : Media.Track) (snapshot : Media.Snapshot Remote)
      (away : after.away = before.away)
      (member : ∃ old ∈ before.remotes, old.identity = snapshot.identity)
      (remotes : after.remotes.Perm
        (before.remotes.map fun old => if old.identity = snapshot.identity then snapshot else old)) :
      Change before after [.track change snapshot.identity track]
  | turnsOwn (events : List (Media.Event Remote)) (away : after.away = before.away)
      (remotes : after.remotes.Perm before.remotes)
      (own : events = [] ∨ ∃ change track, events = [.track change before.own.identity track]) :
      Change before after events
  | describes (identity : String) (away : after.away = before.away)
      (same : ∀ other, after.seen other = before.seen other) :
      Change before after [.metadata identity]
  | suspends (away : after.away = true) (remotes : after.remotes.Perm before.remotes) :
      Change before after [.reconnecting]
  | silent (still : before.away = true) (away : after.away = true) : Change before after []
  | resumes (away : after.away = false) (remotes : after.remotes.Perm before.remotes) :
      Change before after [.reconnected]
  | ends (reason : String) (away : after.away = before.away)
      (remotes : after.remotes.Perm before.remotes) :
      Change before after [.disconnected reason]

structure Happens (before after : Feed Remote) (added : List (Media.Event Remote)) : Prop where
  call : after.call = before.call
  identity : after.own.identity = before.own.identity
  queue : after.queue = before.queue ++ added
  change : before.Change after added

/-! ### What the view shows -/

theorem seen_eq_some_iff {feed : Feed Remote} {identity : String} {flags : Bool × Bool} :
    feed.seen identity = some flags ↔
      ∃ snapshot ∈ feed.remotes, snapshot.identity = identity ∧ snapshot.flags = flags := by
  have distinct := (List.nodup_cons.mp feed.distinct).2
  rw [seen, Option.map_eq_some_iff]
  constructor
  · intro shown
    obtain ⟨snapshot, found, same⟩ := shown
    obtain ⟨member, named⟩ := (find?_eq_some_iff_of_nodup distinct).mp found
    exact ⟨snapshot, member, named, same⟩
  · intro shown
    obtain ⟨snapshot, member, named, same⟩ := shown
    exact ⟨snapshot, (find?_eq_some_iff_of_nodup distinct).mpr ⟨member, named⟩, same⟩

theorem seen_eq_none_iff {feed : Feed Remote} {identity : String} :
    feed.seen identity = none ↔ ∀ snapshot ∈ feed.remotes, snapshot.identity ≠ identity := by
  rw [seen, Option.map_eq_none_iff, List.find?_eq_none]
  simp only [decide_eq_true_eq]

/-- Two views show the same of an identity if the same participants go by it. -/
private theorem seen_congr {before after : Feed Remote} {identity : String}
    (same : ∀ snapshot : Media.Snapshot Remote, snapshot.identity = identity →
      (snapshot ∈ after.remotes ↔ snapshot ∈ before.remotes)) :
    after.seen identity = before.seen identity := by
  apply Option.ext
  intro flags
  rw [seen_eq_some_iff, seen_eq_some_iff]
  constructor
  · intro shown
    obtain ⟨snapshot, member, named, flagged⟩ := shown
    exact ⟨snapshot, (same snapshot named).mp member, named, flagged⟩
  · intro shown
    obtain ⟨snapshot, member, named, flagged⟩ := shown
    exact ⟨snapshot, (same snapshot named).mpr member, named, flagged⟩

private theorem seen_perm {before after : Feed Remote}
    (remotes : after.remotes.Perm before.remotes) (identity : String) :
    after.seen identity = before.seen identity :=
  seen_congr fun _snapshot _named => remotes.mem_iff

private theorem seen_joined {before after : Feed Remote} {snapshot : Media.Snapshot Remote}
    {identity : String} (other : snapshot.identity ≠ identity)
    (remotes : after.remotes.Perm (snapshot :: before.remotes)) :
    after.seen identity = before.seen identity := by
  apply seen_congr
  intro shown named
  rw [remotes.mem_iff, List.mem_cons]
  apply or_iff_right
  intro new
  rw [new] at named
  exact other named

private theorem seen_left {before after : Feed Remote} {gone identity : String}
    (other : gone ≠ identity)
    (remotes : after.remotes.Perm (before.remotes.filter (·.identity ≠ gone))) :
    after.seen identity = before.seen identity := by
  apply seen_congr
  intro shown named
  rw [remotes.mem_iff, List.mem_filter]
  refine and_iff_left (decide_eq_true ?_)
  intro leaving
  exact other (leaving.symm.trans named)

private theorem seen_turned {before after : Feed Remote} {snapshot : Media.Snapshot Remote}
    {identity : String} (other : snapshot.identity ≠ identity)
    (remotes : after.remotes.Perm
      (before.remotes.map fun old => if old.identity = snapshot.identity then snapshot else old)) :
    after.seen identity = before.seen identity := by
  apply seen_congr
  intro shown named
  rw [remotes.mem_iff, List.mem_map]
  constructor
  · intro turned
    obtain ⟨old, present, becomes⟩ := turned
    split at becomes
    · rw [becomes] at other
      exact absurd named other
    · exact becomes ▸ present
  · intro present
    refine ⟨shown, present, if_neg ?_⟩
    intro turning
    exact other (turning.symm.trans named)

/-! ### What the events do to one entry -/

end Feed

def Session.Call.after (call : Session.Call) (event : Media.Event Remote) : Session.Call :=
  if call = .connected ∨ call = .reconnecting then
    match event with
    | .reconnecting => .reconnecting
    | .reconnected => .connected
    | .disconnected _ => .disconnected
    | _ => call
  else call

abbrev Feed.Entry := Option (Bool × Bool)

/-- The call and the entry of an identity after an event, if the view shows what it shows. -/
def Feed.foresee (seen : Feed.Entry) (identity : String) (state : Session.Call × Feed.Entry)
    (event : Media.Event Remote) : Session.Call × Feed.Entry :=
  (state.1.after event,
    if state.1 = .connected ∨ state.1 = .reconnecting then
      match event with
      | .joined snapshot =>
          if snapshot.identity = identity then state.2.or (some snapshot.flags) else state.2
      | .left other => if other = identity then none else state.2
      | .track _ other _ => if other = identity then state.2.map seen.getD else state.2
      | .reconnected => seen
      | .disconnected _ => none
      | _ => state.2
    else state.2)

namespace Feed

/-- Once the events are through, the entry is what the view shows, if there is a call then. -/
def Settles (feed : Feed Remote) (identity : String) (events : List (Media.Event Remote))
    (state : Session.Call × Entry) : Prop :=
  (events.foldl (foresee (feed.seen identity) identity) state).1 = .connected →
    feed.away = false ∧
      (events.foldl (foresee (feed.seen identity) identity) state).2 = feed.seen identity

/-- An entry that is right now stays right when all events so far come once more. -/
def Fresh (feed : Feed Remote) : Prop :=
  ∀ identity, identity ≠ feed.own.identity →
    feed.Settles identity feed.queue (.connected, feed.seen identity)

theorem fresh_of_empty {feed : Feed Remote} (away : feed.away = false) (queue : feed.queue = []) :
    feed.Fresh := by
  intro identity _other _connected
  rw [queue]
  exact ⟨away, rfl⟩

/-- The call depends on nothing but the events. -/
private theorem foldl_fst (seen : Entry) (identity : String) (events : List (Media.Event Remote))
    (state : Session.Call × Entry) :
    (events.foldl (foresee seen identity) state).1 = events.foldl Session.Call.after state.1 := by
  induction events generalizing state with
  | nil => rfl
  | cons event rest ih => exact ih (foresee seen identity state event)

/-- Two foreseen entries stay in a relation if every event keeps it. -/
private theorem foldl_keeps {seen other : Entry} {identity : String} {related : Entry → Entry → Prop}
    (keeps : ∀ call entry twin (event : Media.Event Remote), related entry twin →
      related (foresee seen identity (call, entry) event).2
        (foresee other identity (call, twin) event).2)
    (events : List (Media.Event Remote)) (call : Session.Call) {entry twin : Entry}
    (start : related entry twin) :
    related (events.foldl (foresee seen identity) (call, entry)).2
      (events.foldl (foresee other identity) (call, twin)).2 := by
  induction events generalizing call entry twin with
  | nil => exact start
  | cons event rest ih => exact ih (call.after event) (keeps call entry twin event start)

/-- Who was not to be seen and now is may turn up before the event that says so. -/
private theorem foresee_joined {identity : String} {flags : Bool × Bool} (call : Session.Call)
    (entry twin : Entry) (event : Media.Event Remote)
    (start : entry = none → twin = none ∨ twin = some flags) :
    (foresee none identity (call, entry) event).2 = none →
      (foresee (some flags) identity (call, twin) event).2 = none ∨
        (foresee (some flags) identity (call, twin) event).2 = some flags := by
  unfold foresee
  dsimp only
  split
  · cases event with
    | joined snapshot =>
        dsimp only
        split
        · intro gone
          cases entry <;> cases gone
        · exact start
    | left other =>
        dsimp only
        split
        · intro _gone
          exact Or.inl rfl
        · exact start
    | track change other track =>
        dsimp only
        split
        · intro gone
          rcases start (Option.map_eq_none_iff.mp gone) with absent | shown
          · rw [absent]
            exact Or.inl rfl
          · rw [shown]
            exact Or.inr rfl
        · exact start
    | metadata other => exact start
    | reconnecting => exact start
    | reconnected => exact fun _gone => Or.inr rfl
    | disconnected reason => exact fun _gone => Or.inl rfl
  · exact start

/-- A change of flags brings nobody in and sends nobody out. -/
private theorem foresee_turned {identity : String} {old new : Bool × Bool} (call : Session.Call)
    (entry twin : Entry) (event : Media.Event Remote) (start : entry.isSome = twin.isSome) :
    (foresee (some old) identity (call, entry) event).2.isSome =
      (foresee (some new) identity (call, twin) event).2.isSome := by
  unfold foresee
  dsimp only
  split
  · cases event with
    | joined snapshot =>
        dsimp only
        split
        · rw [Option.isSome_or, Option.isSome_or, start]
        · exact start
    | left other =>
        dsimp only
        split
        · rfl
        · exact start
    | track change other track =>
        dsimp only
        split
        · rw [Option.isSome_map, Option.isSome_map, start]
        · exact start
    | metadata other => exact start
    | reconnecting => exact start
    | reconnected => rfl
    | disconnected reason => rfl
  · exact start

/-! ### What happens to the transport -/

section Happens

variable {before after : Feed Remote} {identity : String} {events added : List (Media.Event Remote)}
  {call : Session.Call} {entry twin : Entry}

private theorem foldl_fst_eq (seen other : Entry) :
    (events.foldl (foresee seen identity) (call, entry)).1 =
      (events.foldl (foresee other identity) (call, twin)).1 := by
  rw [foldl_fst, foldl_fst]

/-- Most events leave the call as it is. -/
private theorem connected_before {seen : Entry} {event : Media.Event Remote}
    (calm : ∀ call : Session.Call, call.after event = call)
    (connected : ((events ++ [event]).foldl (foresee seen identity) (call, twin)).1 = .connected) :
    (events.foldl (foresee seen identity) (call, twin)).1 = .connected := by
  rw [List.foldl_append] at connected
  exact (calm _).symm.trans connected

/-- An event of somebody else changes nothing. -/
private theorem Settles.apart {event : Media.Event Remote}
    (settles : before.Settles identity events (call, entry))
    (seen : after.seen identity = before.seen identity) (away : after.away = before.away)
    (apart : ∀ state, foresee (before.seen identity) identity state event = state) :
    after.Settles identity (events ++ [event]) (call, entry) := by
  intro connected
  rw [List.foldl_append, seen, List.foldl_cons, List.foldl_nil, apart] at connected ⊢
  rw [away]
  exact settles connected

private theorem after_joined (call : Session.Call) (snapshot : Media.Snapshot Remote) :
    call.after (.joined snapshot) = call := by
  unfold Session.Call.after
  split <;> rfl

private theorem after_left (call : Session.Call) (identity : String) :
    call.after (.left identity : Media.Event Remote) = call := by
  unfold Session.Call.after
  split <;> rfl

private theorem after_track (call : Session.Call) (change : Media.TrackChange) (identity : String)
    (track : Media.Track) :
    call.after (.track change identity track : Media.Event Remote) = call := by
  unfold Session.Call.after
  split <;> rfl

private theorem after_metadata (call : Session.Call) (identity : String) :
    call.after (.metadata identity : Media.Event Remote) = call := by
  unfold Session.Call.after
  split <;> rfl

private theorem after_reconnecting (call : Session.Call) :
    call.after (.reconnecting : Media.Event Remote) ≠ .connected := by
  unfold Session.Call.after
  split
  · nofun
  · rename_i outside
    exact fun connected => outside (Or.inl connected)

private theorem after_disconnected (call : Session.Call) (reason : String) :
    call.after (.disconnected reason : Media.Event Remote) ≠ .connected := by
  unfold Session.Call.after
  split
  · nofun
  · rename_i outside
    exact fun connected => outside (Or.inl connected)

/-- Behind an event that takes the connection away there is nothing to be right. -/
private theorem Settles.of_break {event : Media.Event Remote}
    (breaks : ∀ call : Session.Call, call.after event ≠ .connected) :
    after.Settles identity (events ++ [event]) (call, twin) := by
  intro connected
  rw [List.foldl_append] at connected
  exact absurd connected (breaks _)

private theorem Settles.joins (settles : before.Settles identity events (call, entry))
    {snapshot : Media.Snapshot Remote} (named : snapshot.identity = identity)
    (away : after.away = before.away) (remotes : after.remotes.Perm (snapshot :: before.remotes))
    (twins : twin = entry ∨ entry = before.seen identity ∧ twin = after.seen identity) :
    after.Settles identity (events ++ [.joined snapshot]) (call, twin) := by
  have shown : after.seen identity = some snapshot.flags :=
    seen_eq_some_iff.mpr ⟨snapshot, remotes.mem_iff.mpr List.mem_cons_self, named, rfl⟩
  have hidden : before.seen identity = none := by
    rw [seen_eq_none_iff]
    intro other member same
    have distinct := (List.nodup_cons.mp after.distinct).2
    rw [(remotes.map _).nodup_iff, List.map_cons, List.nodup_cons] at distinct
    exact distinct.1 (List.mem_map.mpr ⟨other, member, same.trans named.symm⟩)
  rw [Settles, hidden] at settles
  rw [Settles, shown]
  intro joined
  have connected := connected_before (fun call => after_joined call snapshot) joined
  obtain ⟨present, gone⟩ := settles ((foldl_fst_eq none (some snapshot.flags)).trans connected)
  have start : entry = none → twin = none ∨ twin = some snapshot.flags := by
    intro absent
    rcases twins with same | ⟨_old, new⟩
    · exact Or.inl (same.trans absent)
    · exact Or.inr (new.trans shown)
  have turnedUp := foldl_keeps foresee_joined events call start gone
  refine ⟨away.trans present, ?_⟩
  rw [List.foldl_append, List.foldl_cons, List.foldl_nil, foresee, if_pos (Or.inl connected)]
  dsimp only
  rw [if_pos named]
  rcases turnedUp with absent | early
  · rw [absent]
    rfl
  · rw [early]
    rfl

private theorem Settles.leaves (settles : before.Settles identity events (call, entry))
    (away : after.away = before.away)
    (remotes : after.remotes.Perm (before.remotes.filter (·.identity ≠ identity))) :
    after.Settles identity (events ++ [.left identity]) (call, twin) := by
  have hidden : after.seen identity = none := by
    rw [seen_eq_none_iff]
    intro other member
    exact of_decide_eq_true (List.mem_filter.mp (remotes.mem_iff.mp member)).2
  intro left
  have connected := connected_before (fun call => after_left call identity) left
  have present := (settles ((foldl_fst_eq _ _).trans connected)).1
  refine ⟨away.trans present, ?_⟩
  rw [List.foldl_append, List.foldl_cons, List.foldl_nil, foresee, if_pos (Or.inl connected),
    hidden]
  dsimp only
  rw [if_pos rfl]

private theorem Settles.turns (settles : before.Settles identity events (call, entry))
    {change : Media.TrackChange} {track : Media.Track} {snapshot : Media.Snapshot Remote}
    (named : snapshot.identity = identity) (away : after.away = before.away)
    (member : ∃ old ∈ before.remotes, old.identity = snapshot.identity)
    (remotes : after.remotes.Perm
      (before.remotes.map fun old => if old.identity = snapshot.identity then snapshot else old))
    (twins : twin = entry ∨ entry = before.seen identity ∧ twin = after.seen identity) :
    after.Settles identity (events ++ [.track change identity track]) (call, twin) := by
  obtain ⟨old, present, same⟩ := member
  have shown : before.seen identity = some old.flags :=
    seen_eq_some_iff.mpr ⟨old, present, same.trans named, rfl⟩
  have turned : after.seen identity = some snapshot.flags := by
    refine seen_eq_some_iff.mpr ⟨snapshot, ?_, named, rfl⟩
    exact remotes.mem_iff.mpr (List.mem_map.mpr ⟨old, present, if_pos same⟩)
  rw [Settles, shown] at settles
  rw [Settles, turned]
  intro tracked
  have connected := connected_before (fun call => after_track call change identity track) tracked
  obtain ⟨back, still⟩ := settles ((foldl_fst_eq _ _).trans connected)
  have start : entry.isSome = twin.isSome := by
    rcases twins with same | ⟨old, new⟩
    · rw [same]
    · rw [old, new, shown, turned]
      rfl
  have stays := @foldl_keeps Remote (some old.flags) (some snapshot.flags) identity
    (fun entry twin => entry.isSome = twin.isSome) foresee_turned events call entry twin start
  rw [still] at stays
  obtain ⟨flags, entered⟩ := Option.isSome_iff_exists.mp stays.symm
  refine ⟨away.trans back, ?_⟩
  rw [List.foldl_append, List.foldl_cons, List.foldl_nil, foresee, if_pos (Or.inl connected)]
  dsimp only
  rw [if_pos rfl, entered]
  rfl

/-- When the transport is back, everything is read anew. -/
private theorem Settles.of_resync (away : after.away = false) :
    after.Settles identity (events ++ [.reconnected]) (call, twin) := by
  intro connected
  refine ⟨away, ?_⟩
  rw [List.foldl_append, List.foldl_cons, List.foldl_nil, foresee] at connected ⊢
  dsimp only at connected ⊢
  split
  · rfl
  · rename_i outside
    unfold Session.Call.after at connected
    rw [if_neg outside] at connected
    exact absurd (Or.inl connected) outside

/-- Whatever happens to the transport, an entry that was going to be right still is. It may start
from what it is, or from what the view shows by then. -/
theorem Settles.happens (settles : before.Settles identity events (call, entry))
    (happens : before.Happens after added) (remote : identity ≠ before.own.identity)
    (twins : twin = entry ∨ entry = before.seen identity ∧ twin = after.seen identity) :
    after.Settles identity (events ++ added) (call, twin) := by
  -- Where the view shows the same as before, there is only one start.
  have one : after.seen identity = before.seen identity → twin = entry := by
    intro same
    rcases twins with twin | ⟨old, new⟩
    · exact twin
    · rw [new, old, same]
  cases happens.change with
  | joins snapshot away remotes =>
      by_cases named : snapshot.identity = identity
      · exact settles.joins named away remotes twins
      · have same := seen_joined named remotes
        rw [one same]
        apply settles.apart same away
        intro state
        rw [foresee, after_joined]
        simp [named]
  | leaves gone away remotes =>
      by_cases named : gone = identity
      · subst named
        exact settles.leaves away remotes
      · have same := seen_left named remotes
        rw [one same]
        apply settles.apart same away
        intro state
        rw [foresee, after_left]
        simp [named]
  | turns change track snapshot away member remotes =>
      by_cases named : snapshot.identity = identity
      · subst named
        exact settles.turns rfl away member remotes twins
      · have same := seen_turned named remotes
        rw [one same]
        apply settles.apart same away
        intro state
        rw [foresee, after_track]
        simp [named]
  | turnsOwn events away remotes own =>
      have same := seen_perm remotes identity
      rw [one same]
      rcases own with nothing | ⟨change, track, tracked⟩
      · subst nothing
        rw [List.append_nil, Settles, same, away]
        exact settles
      · subst tracked
        apply settles.apart same away
        intro state
        rw [foresee, after_track]
        simp [Ne.symm remote]
  | describes other away same =>
      rw [one (same identity)]
      apply settles.apart (same identity) away
      intro state
      unfold foresee
      dsimp only
      rw [after_metadata, ite_self]
  | suspends away remotes => exact .of_break fun call => after_reconnecting call
  | silent still away =>
      rw [List.append_nil]
      intro connected
      have present := (settles ((foldl_fst_eq _ _).trans connected)).1
      rw [still] at present
      cases present
  | resumes away remotes => exact .of_resync away
  | ends reason away remotes => exact .of_break fun call => after_disconnected call reason

theorem Fresh.happens (fresh : before.Fresh) (happens : before.Happens after added) :
    after.Fresh := by
  intro identity remote
  rw [happens.identity] at remote
  rw [happens.queue]
  exact (fresh identity remote).happens happens remote (Or.inr ⟨rfl, rfl⟩)

end Happens

end Feed

end MeetingRoom
