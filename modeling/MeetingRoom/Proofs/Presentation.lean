import MeetingRoom.Proofs.Ends
import MeetingRoom.Proofs.Seating

/-!
What participants show of themselves. A name that is blank is passed over, wherever it comes from,
and what is left is trimmed, so no name and no label is blank or starts or ends blank, and a picture
falls back on the identity. A refresh gives a new name and a new picture and leaves the rest, so who
is listed keeps identity, kind and label until taken off the roster or found anew in a resync.
-/

namespace MeetingRoom

variable {Remote : Type}

/-! ### Trimmed texts -/

namespace Text

structure Neat (text : String) : Prop where
  filled : text ≠ ""
  front : text.toList.head?.any isBlank = false
  back : text.toList.getLast?.any isBlank = false

instance (text : String) : Decidable (Neat text) :=
  decidable_of_iff
    (text ≠ "" ∧ text.toList.head?.any isBlank = false ∧ text.toList.getLast?.any isBlank = false)
    ⟨fun both => ⟨both.1, both.2.1, both.2.2⟩, fun neat => ⟨neat.filled, neat.front, neat.back⟩⟩

theorem neat_of_content? {text kept : String} (content : content? text = some kept) :
    Neat kept := by
  unfold content? at content
  split at content
  · cases content
  · rename_i shown
    cases content
    refine ⟨fun empty => shown (trim_eq_empty_iff.mp empty), ?_, ?_⟩
    · -- What is dropped from the end leaves the front as it is, if it leaves anything.
      rw [toList_trim]
      obtain ⟨dropped, whole⟩ := List.rdropWhile_prefix isBlank (text.toList.dropWhile isBlank)
      have stops := List.head?_dropWhile_not isBlank text.toList
      cases left : (text.toList.dropWhile isBlank).rdropWhile isBlank with
      | nil => rfl
      | cons first others =>
          rw [← whole, left] at stops
          exact stops
    · rw [toList_trim]
      exact getLast?_rdropWhile isBlank _

theorem neat_getD {text? : Option String} (neat : ∀ text, text? = some text → Neat text)
    {fallback : String} (instead : Neat fallback) : Neat (text?.getD fallback) := by
  cases text? with
  | none => exact instead
  | some text => exact neat text rfl

end Text

/-! ### Participants -/

namespace Participant

structure Presentable (participant : Participant Remote) : Prop where
  name : Text.Neat participant.name
  label : Text.Neat participant.label
  avatar : participant.avatar ≠ ""

theorem fallbackAvatar_ne_empty (seed : String) : fallbackAvatar seed ≠ "" := by
  intro empty
  have nothing := (String.append_eq_empty_iff.mp empty).1
  revert nothing
  decide

theorem neat_displayName (metadata : Metadata) (transportName : String) :
    Text.Neat (displayName metadata transportName) := by
  refine Text.neat_getD ?_ (show Text.Neat "Unknown" by decide)
  intro name chosen
  rcases Option.or_eq_some_iff.mp chosen with published | ⟨_unpublished, known⟩
  · obtain ⟨text, _given, content⟩ := Option.bind_eq_some_iff.mp published
    exact Text.neat_of_content? content
  · exact Text.neat_of_content? known

theorem neat_displayLabel (kind : Kind) (transportName : String) :
    Text.Neat (displayLabel kind transportName) := by
  have named : Text.Neat ((Text.content? transportName).getD "Participant") :=
    Text.neat_getD (fun _name content => Text.neat_of_content? content) (by decide)
  cases kind with
  | own => exact show Text.Neat "You" by decide
  | remote => exact named
  | synthetic => exact named

theorem displayAvatar_ne_empty (metadata : Metadata) (identity : String) :
    displayAvatar metadata identity ≠ "" := by
  unfold displayAvatar
  cases pictured : metadata.avatar.bind Text.content? with
  | none => exact fallbackAvatar_ne_empty identity
  | some avatar =>
      obtain ⟨text, _given, content⟩ := Option.bind_eq_some_iff.mp pictured
      exact (Text.neat_of_content? content).filled

theorem presentable_ofSnapshot (kind : Kind) (snapshot : Media.Snapshot Remote) :
    (ofSnapshot kind snapshot).Presentable :=
  ⟨neat_displayName _ _, neat_displayLabel kind _, displayAvatar_ne_empty _ _⟩

variable {participant : Participant Remote}

theorem Presentable.withMedia (presentable : participant.Presentable)
    (snapshot : Media.Snapshot Remote) : (participant.withMedia snapshot).Presentable :=
  ⟨presentable.name, presentable.label, presentable.avatar⟩

theorem Presentable.withMetadata (presentable : participant.Presentable)
    (snapshot : Media.Snapshot Remote) : (participant.withMetadata snapshot).Presentable :=
  ⟨neat_displayName _ _, presentable.label, displayAvatar_ne_empty _ _⟩

/-- What a participant is told by, whatever else becomes of it. -/
structure Alike (participant before : Participant Remote) : Prop where
  id : participant.id = before.id
  kind : participant.kind = before.kind
  label : participant.label = before.label

theorem Alike.refl (participant : Participant Remote) : participant.Alike participant :=
  ⟨rfl, rfl, rfl⟩

theorem Alike.trans {last : Participant Remote} {before : Participant Remote}
    (later : last.Alike participant) (earlier : participant.Alike before) : last.Alike before :=
  ⟨later.id.trans earlier.id, later.kind.trans earlier.kind, later.label.trans earlier.label⟩

end Participant

namespace Voice

theorem neat_name_ofText? {text : String} {voice : Voice} (read : ofText? text = some voice) :
    Text.Neat voice.name := by
  obtain ⟨name, content, rfl⟩ := Option.map_eq_some_iff.mp read
  exact Text.neat_of_content? content

theorem presentable_host {voice : Voice} (neat : Text.Neat voice.name) :
    (voice.host : Participant Remote).Presentable :=
  ⟨neat, show Text.Neat "AI" by decide, Participant.fallbackAvatar_ne_empty _⟩

theorem mem_overlay {roster : Roster Remote} {voice? : Option Voice}
    {participant : Participant Remote} (shown : participant ∈ overlay roster voice?) :
    participant ∈ roster.toList ∨ ∃ voice, voice? = some voice ∧ participant = voice.host := by
  cases voice? with
  | none => exact Or.inl shown
  | some voice =>
      rw [overlay] at shown
      split at shown
      · exact Or.inl shown
      · rcases List.mem_append.mp shown with listed | host
        · exact Or.inl listed
        · exact Or.inr ⟨voice, rfl, List.mem_singleton.mp host⟩

end Voice

/-! ### Sessions -/

namespace Session

structure Presentable (session : Session Remote) : Prop where
  listed : ∀ participant ∈ session.participants, participant.Presentable
  voice : ∀ voice, session.voice = some voice → Text.Neat voice.name

variable {session : Session Remote}

theorem Presentable.shown (presentable : session.Presentable) {participant : Participant Remote}
    (shown : participant ∈ session.shown) : participant.Presentable := by
  rcases Voice.mem_overlay shown with listed | ⟨voice, given, rfl⟩
  · exact presentable.listed participant listed
  · exact Voice.presentable_host (presentable.voice voice given)

theorem presentable_lineup (view : Media.View Remote) (identity : Option String) :
    ∀ participant ∈ lineup view identity, participant.Presentable := by
  intro participant member
  rcases List.mem_append.mp member with own | remote
  · obtain ⟨snapshot, _known, rfl⟩ := List.mem_map.mp own
    exact Participant.presentable_ofSnapshot .own snapshot
  · obtain ⟨snapshot, _known, rfl⟩ := List.mem_map.mp remote
    exact Participant.presentable_ofSnapshot .remote snapshot

private theorem Presentable.update (presentable : session.Presentable) (identity : String)
    {change : Participant Remote → Participant Remote}
    (keeps : ∀ participant, (change participant).id = participant.id)
    (changed : ∀ participant, participant.Presentable → (change participant).Presentable) :
    ∀ participant ∈ (session.roster.update identity change keeps).toList,
      participant.Presentable := by
  intro participant member
  rw [Roster.toList_update] at member
  obtain ⟨before, listed, rfl⟩ := List.mem_map.mp member
  have presented := presentable.listed before listed
  split
  · exact changed before presented
  · exact presented

theorem Presentable.step {view : Media.View Remote} {after : Session Remote}
    (presentable : session.Presentable) (becomes : session.Becomes view after) :
    after.Presentable := by
  have resynced : ∀ any : Session Remote,
      ∀ participant ∈ (resync view any).participants, participant.Presentable := by
    intro any
    rw [participants_resync]
    exact presentable_lineup view any.identity
  cases becomes with
  | accepts connecting => exact ⟨resynced _, presentable.voice⟩
  | completes number live => exact ⟨resynced session, presentable.voice⟩
  | resumes live => exact ⟨resynced _, presentable.voice⟩
  | hangsUp => exact ⟨nofun, presentable.voice⟩
  | loses reason live => exact ⟨nofun, presentable.voice⟩
  | joins snapshot roster live added =>
      refine ⟨?_, presentable.voice⟩
      intro participant member
      rw [participants, Roster.toList_add? added] at member
      rcases List.mem_append.mp member with old | new
      · exact presentable.listed participant old
      · rw [List.mem_singleton.mp new]
        exact Participant.presentable_ofSnapshot .remote snapshot
  | leaves identity live other =>
      refine ⟨?_, presentable.voice⟩
      intro participant member
      rw [participants, Roster.toList_remove] at member
      exact presentable.listed participant (List.mem_filter.mp member).1
  | turns identity snapshot live known =>
      exact ⟨presentable.update identity (Participant.withMedia_id · snapshot)
        fun _participant presented => presented.withMedia snapshot, presentable.voice⟩
  | describes identity snapshot live known =>
      exact ⟨presentable.update identity (Participant.withMetadata_id · snapshot)
        fun _participant presented => presented.withMetadata snapshot, presentable.voice⟩
  | voices text? =>
      refine ⟨presentable.listed, ?_⟩
      intro voice given
      obtain ⟨text, _spoken, read⟩ := Option.bind_eq_some_iff.mp given
      exact Voice.neat_name_ofText? read
  | _ => exact ⟨presentable.listed, presentable.voice⟩

/-! ### Who stays the same -/

def Retains (before after : Session Remote) : Prop :=
  ∀ identity participant kept, before.roster.get? identity = some participant →
    after.roster.get? identity = some kept → kept.Alike participant

theorem Retains.of_roster {before after : Session Remote} (same : after.roster = before.roster) :
    before.Retains after := by
  intro identity participant kept listed still
  rw [same, listed] at still
  cases still
  exact .refl participant

theorem Retains.of_empty {before after : Session Remote} (empty : after.roster = Roster.empty) :
    before.Retains after := by
  intro identity participant kept _listed still
  rw [empty, Roster.get?_empty] at still
  cases still

theorem retains_join (snapshot : Media.Snapshot Remote) :
    session.Retains (session.join snapshot).session := by
  intro identity participant kept listed still
  rw [session_join] at still
  change (session.roster.add _).get? identity = some kept at still
  rw [Roster.get?_add, listed, Option.some_or] at still
  cases still
  exact .refl participant

theorem retains_leave (gone : String) : session.Retains (session.leave gone).session := by
  rw [session_leave]
  split
  · exact .of_roster rfl
  · intro identity participant kept listed still
    change (session.roster.remove gone).get? identity = some kept at still
    rw [Roster.get?_remove] at still
    split at still
    · cases still
    · rw [listed] at still
      cases still
      exact .refl participant

private theorem retains_refresh {after : Session Remote} {named : String}
    {known? : Option (Media.Snapshot Remote)}
    {change : Participant Remote → Media.Snapshot Remote → Participant Remote}
    (alike : ∀ participant snapshot, (change participant snapshot).Alike participant)
    (refreshed : ∀ identity, after.roster.get? identity =
      (session.roster.get? identity).map fun entry =>
        if named = identity then (known?.map (change entry)).getD entry else entry) :
    session.Retains after := by
  intro identity participant kept listed still
  rw [refreshed, listed] at still
  cases still
  split
  · cases known? with
    | none => exact .refl participant
    | some snapshot => exact alike participant snapshot
  · exact .refl participant

theorem retains_refreshMedia (view : Media.View Remote) (named : String) :
    session.Retains (session.refreshMedia view named).session :=
  @retains_refresh Remote session _ named (session.truth? view named) Participant.withMedia
    (fun _participant _snapshot => ⟨rfl, rfl, rfl⟩) (get?_refreshMedia view session named)

theorem retains_refreshMetadata (view : Media.View Remote) (named : String) :
    session.Retains (session.refreshMetadata view named).session :=
  @retains_refresh Remote session _ named (session.truth? view named) Participant.withMetadata
    (fun _participant _snapshot => ⟨rfl, rfl, rfl⟩) (get?_refreshMetadata view session named)

def resyncsOn (session : Session Remote) (event : Media.Event Remote) : Bool :=
  match event with
  | .reconnected => session.inCall
  | _ => false

def Task.resyncs (session : Session Remote) : Task Remote → Bool
  | .attempt _ (.settling epoch (.ok _)) => epoch = session.epoch
  | .attempt _ (.enabling epoch []) => epoch = session.epoch
  | .listener epoch (.holding event?) =>
      epoch = session.epoch && session.resyncsOn (Listening.act event?)
  | _ => false

theorem retains_apply (view : Media.View Remote) {event : Media.Event Remote}
    (calm : session.resyncsOn event = false) :
    session.Retains (session.apply view event).session := by
  unfold apply
  split
  · rename_i inCall
    cases event with
    | joined snapshot => exact retains_join snapshot
    | left identity => exact retains_leave identity
    | track change identity track => exact retains_refreshMedia view identity
    | metadata identity => exact retains_refreshMetadata view identity
    | reconnecting => exact .of_roster rfl
    | reconnected =>
        rw [resyncsOn, inCall] at calm
        cases calm
    | disconnected reason => exact .of_empty rfl
  · exact .of_roster rfl

/-- Only a resync lists anybody as somebody else. -/
theorem Task.retains_section {number : Nat} {view : Media.View Remote} {task : Task Remote}
    {part : Section Remote} (worked : task.section? number view session = some part)
    (calm : task.resyncs session = false) : session.Retains part.session := by
  cases works_of_section worked with
  | starts request =>
      unfold Attempt.start
      split
      · split <;> exact .of_roster rfl
      · exact .of_roster rfl
  | linesUp request epoch => exact .of_roster rfl
  | takesTurn request epoch =>
      unfold Attempt.takeTurn
      split <;> exact .of_roster rfl
  | settles request epoch answer =>
      unfold Attempt.settle
      split
      · rename_i current
        cases answer with
        | ok done =>
            rw [resyncs, current, decide_eq_true rfl] at calm
            cases calm
        | error fault => exact .of_roster rfl
      · exact .of_roster rfl
  | enables request epoch track todo => exact .of_roster rfl
  | completes request epoch =>
      unfold Attempt.complete
      split
      · rename_i current
        rw [resyncs, current, decide_eq_true rfl] at calm
        cases calm
      · exact .of_roster rfl
  | hangsUp =>
      unfold HangUp.start
      split <;> exact .of_empty rfl
  | startsToggle track =>
      unfold Toggle.start
      split <;> exact .of_roster rfl
  | settlesToggle track epoch identity target =>
      unfold Toggle.settle
      split
      · exact retains_refreshMedia view identity
      · exact .of_roster rfl
  | handles epoch event? =>
      unfold Listening.handle
      split
      · rename_i current
        rw [resyncs, current, decide_eq_true rfl, Bool.true_and] at calm
        exact retains_apply view calm
      · exact .of_roster rfl

end Session

/-! ### Rooms -/

namespace Room

def resyncs (room : Room Remote) : Action Remote → Bool
  | .work id _ => (room.task? id).any (·.resyncs room.session)
  | .event _ event => room.session.resyncsOn event
  | _ => false

def drops (identity : String) (room : Room Remote) (action : Action Remote) : Bool :=
  (room.step? action).any fun next => !next.session.roster.contains identity

theorem retains_step {room next : Room Remote} {action : Action Remote}
    (stepped : room.step? action = some next) (calm : room.resyncs action = false) :
    room.session.Retains next.session := by
  have alters := alters_of_step stepped
  generalize next.session = after at alters ⊢
  cases alters with
  | work id view found worked =>
      rw [resyncs, found] at calm
      exact Session.Task.retains_section worked calm
  | event view event => exact Session.retains_apply view calm
  | _ => exact .of_roster rfl

private theorem alike_run {room last : Room Remote} {participant : Participant Remote}
    {actions : List (Action Remote)} (ran : room.run? actions = some last)
    (stays : room.avoids
      (fun reached action => reached.resyncs action || reached.drops participant.id action)
      actions = true)
    {entry : Participant Remote} (listed : room.session.roster.get? participant.id = some entry)
    (alike : entry.Alike participant) :
    ∃ kept, last.session.roster.get? participant.id = some kept ∧ kept.Alike participant := by
  -- Refreshes replace the entry on the way, so it need only be told by the same as the participant.
  induction actions generalizing room entry with
  | nil =>
      cases ran
      exact ⟨entry, listed, alike⟩
  | cons action rest ih =>
      rw [run?, List.foldlM_cons] at ran
      obtain ⟨next, stepped, rested⟩ := Option.bind_eq_some_iff.mp ran
      rw [avoids, stepped, Option.all_some, Bool.and_eq_true, Bool.not_eq_true',
        Bool.or_eq_false_iff, drops, stepped, Option.any_some, Bool.not_eq_false'] at stays
      obtain ⟨⟨calm, still⟩, later⟩ := stays
      obtain ⟨kept, found⟩ := Roster.contains_iff_get?.mp still
      have same := retains_step stepped calm participant.id entry kept listed found
      exact ih rested later found (same.trans alike)

theorem presentable_run {limit : Duration} {actions : List (Action Remote)} {room : Room Remote}
    (ran : (Room.new limit).run? actions = some room) : room.session.Presentable :=
  session_run ⟨nofun, nofun⟩ (fun _view _session _after => Session.Presentable.step) ran

/-- In every room that can be reached, whatever the transport has shown and whatever voices were
given: nobody who is listed or shown has a name or a label that is blank or starts or ends blank, and
everybody has a picture; the own participant is labelled as such; and who is listed keeps identity,
kind and label in every run that goes on from there, until taken off the roster or found in a resync. -/
theorem nobody_shows_blank {limit : Duration} {actions : List (Action Remote)} {room : Room Remote}
    (ran : (Room.new limit).run? actions = some room) :
    (∀ participant, participant ∈ room.session.participants ∨ participant ∈ room.session.shown →
      participant.Presentable ∧ (participant.kind = .own → participant.label = "You")) ∧
    ∀ participant ∈ room.session.participants, ∀ later last, room.run? later = some last →
      room.avoids
        (fun reached action => reached.resyncs action || reached.drops participant.id action)
        later = true →
      ∃ kept ∈ last.session.participants, kept.id = participant.id ∧
        kept.kind = participant.kind ∧ kept.label = participant.label := by
  have presentable := presentable_run ran
  have seated := (orderly_run ran).2.seated
  constructor
  · rintro participant (listed | shown)
    · refine ⟨presentable.listed participant listed, ?_⟩
      intro own
      exact (seated.own participant listed own).2.2.1
    · refine ⟨presentable.shown shown, ?_⟩
      intro own
      rcases Voice.mem_overlay shown with listed | ⟨voice, _given, rfl⟩
      · exact (seated.own participant listed own).2.2.1
      · cases own
  · intro participant listed later last rested stays
    have found := Roster.mem_toList_iff.mp listed
    obtain ⟨kept, still, alike⟩ := alike_run rested stays found (.refl participant)
    exact ⟨kept, (Roster.get?_eq_some_iff.mp still).1, alike.id, alike.kind, alike.label⟩

def guestNamed (name : String) : Media.Snapshot Unit :=
  { Session.bare "guest" with name := name, metadata := some "" }

def namelessView (guest : String) : Media.View Unit :=
  { own := some { Session.bare "alex" with name := "\u00a0 ", metadata := some "\u3000" }
    remotes := [guestNamed guest] }

def namelessMeeting : List (Action Unit) :=
  [.voice (some " Nova · Bright "), .call (.join quietRequest), .work (.call 0) .empty,
    .work (.call 0) .empty, .work (.call 0) .empty, .ask (.call 0), .answer (.call 0) .done,
    .work (.call 0) (namelessView "\u2003")]

theorem named_guest_keeps_label :
    ∃ room last kept, (Room.new (.ofSeconds 15 0)).run? namelessMeeting = some room ∧
      room.session.shown.map (fun participant => (participant.name, participant.label)) =
        [("Unknown", "You"), ("Unknown", "Participant"), ("Nova", "AI")] ∧
      (∀ participant ∈ room.session.shown, participant.Presentable) ∧
      room.run? [.event (namelessView " Robin") (.metadata "guest")] = some last ∧
      last.session.participants.map (·.name) = ["Unknown", "Robin"] ∧
      kept ∈ last.session.participants ∧ kept.id = "guest" ∧ kept.label = "Participant" := by
  obtain ⟨presented, keeps⟩ := @nobody_shows_blank Unit (.ofSeconds 15 0) namelessMeeting _ rfl
  obtain ⟨kept, listed, identity, _kind, label⟩ :=
    keeps (.ofSnapshot .remote (guestNamed "\u2003")) (by decide)
      [.event (namelessView " Robin") (.metadata "guest")] _ rfl rfl
  exact ⟨_, _, kept, rfl, rfl, fun participant shown => (presented participant (Or.inr shown)).1,
    rfl, rfl, listed, identity, label⟩

end Room

end MeetingRoom
