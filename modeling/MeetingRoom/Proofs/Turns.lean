import MeetingRoom.Proofs.Chronicle

/-!
Attempts take turns at the transport. A log of what they say to it falls into blocks, one for each
attempt that has come to its handshake, and a block begins only when the attempt before has ended.
An attempt whose session is over before its turn comes has no block; one that gets through too late
ends its block with a teardown.
-/

namespace MeetingRoom

variable {Remote : Type}

namespace Room

def HasTurn (room : Room Remote) (number : Nat) : Prop :=
  ∃ request stage, room.task? (.call number) = some (.attempt request stage) ∧
    stage.hasTurn = true

def Ended (room : Room Remote) (number : Nat) : Prop :=
  number < room.calls ∧ room.task? (.call number) = none

/-- An attempt that waits for its turn although its session is over. -/
def Lapsed (room : Room Remote) (number : Nat) : Prop :=
  ∃ request stage epoch, room.task? (.call number) = some (.attempt request stage) ∧
    (stage = .begun epoch ∨ stage = .queued epoch) ∧ epoch ≠ room.session.epoch

variable {room next : Room Remote} {action : Action Remote} {number : Nat}

/-- There is one turn only. -/
theorem Coherent.eq_of_hasTurn (coherent : room.Coherent) {other : Nat}
    (turn : room.HasTurn number) (otherTurn : room.HasTurn other) : number = other := by
  obtain ⟨request, stage, found, has⟩ := turn
  obtain ⟨otherRequest, otherStage, otherFound, otherHas⟩ := otherTurn
  have first := coherent.turn _ request stage found has
  rw [coherent.turn _ otherRequest otherStage otherFound otherHas] at first
  exact (Option.some.inj first).symm

/-- What has ended does not come back. -/
theorem Coherent.ended_step (coherent : room.Coherent) (stepped : room.step? action = some next)
    (ended : room.Ended number) : next.Ended number := by
  have others : action.task? ≠ some (.call number) := by
    intro moved
    obtain ⟨task, found⟩ := coherent.found_of_moved stepped moved
    rw [ended.2] at found
    cases found
  refine ⟨?_, ((coherent.others stepped others).1 ended.1).trans ended.2⟩
  have issued := ended.1
  rcases coherent.calls_step stepped with same | ⟨_operation, _called, more⟩ <;> omega

end Room

/-! ### Blocks -/

/-- A log cut into blocks, each of them all that one attempt has said, from its handshake on. -/
structure Blocks (log : List (Nat × Session.Signal))
    (blocks : List (Nat × List Session.Signal)) : Prop where
  joined : log = blocks.flatMap fun block => block.2.map (block.1, ·)
  apart : (blocks.map (·.1)).Nodup
  opened : ∀ block ∈ blocks, ∃ url token said, block.2 = .asks (.connect url token) :: said

namespace Blocks

variable {log : List (Nat × Session.Signal)} {blocks : List (Nat × List Session.Signal)}
  {number : Nat}

theorem nil : Blocks [] [] :=
  ⟨rfl, List.nodup_nil, fun _block member => nomatch member⟩

/-- Whoever has a block has said something, and whoever has said something has a block. -/
theorem mem_iff (cut : Blocks log blocks) :
    (∃ said, (number, said) ∈ blocks) ↔ ∃ signal, (number, signal) ∈ log := by
  rw [cut.joined]
  constructor
  · rintro ⟨said, member⟩
    obtain ⟨url, token, rest, opens⟩ := cut.opened _ member
    refine ⟨.asks (.connect url token), List.mem_flatMap.mpr ⟨_, member, ?_⟩⟩
    exact List.mem_map.mpr ⟨_, opens ▸ List.mem_cons_self, rfl⟩
  · rintro ⟨signal, member⟩
    obtain ⟨block, kept, signals⟩ := List.mem_flatMap.mp member
    obtain ⟨_signal, _member, same⟩ := List.mem_map.mp signals
    cases same
    exact ⟨block.2, kept⟩

/-- A block is all that its attempt has said. -/
theorem said_eq {said : List Session.Signal} (cut : Blocks log blocks)
    (member : (number, said) ∈ blocks) : (log.filter (·.1 = number)).map (·.2) = said := by
  have apart := cut.apart
  rw [cut.joined]
  clear cut
  induction blocks with
  | nil => cases member
  | cons block rest ih =>
      rw [List.map_cons, List.nodup_cons] at apart
      rw [List.flatMap_cons, List.filter_append, List.map_append]
      rcases List.mem_cons.mp member with rfl | later
      · have others : (rest.flatMap fun block => block.2.map (block.1, ·)).filter
            (·.1 = number) = [] := by
          apply List.filter_eq_nil_iff.mpr
          intro entry signals own
          obtain ⟨block, kept, mapped⟩ := List.mem_flatMap.mp signals
          obtain ⟨signal, _member, rfl⟩ := List.mem_map.mp mapped
          exact apart.1 (List.mem_map.mpr ⟨block, kept, of_decide_eq_true own⟩)
        rw [others]
        simp [List.filter_map, Function.comp_def]
      · have different : block.1 ≠ number := by
          intro same
          exact apart.1 (List.mem_map.mpr ⟨_, later, same.symm⟩)
        rw [ih later apart.2]
        simp [different]

/-- The attempt of the last block goes on. -/
theorem extend {said : List Session.Signal} (cut : Blocks log (blocks ++ [(number, said)]))
    (signal : Session.Signal) :
    Blocks (log ++ [(number, signal)]) (blocks ++ [(number, said ++ [signal])]) := by
  refine ⟨?_, ?_, ?_⟩
  · rw [cut.joined]
    simp
  · have apart := cut.apart
    simpa using apart
  · intro block member
    rcases List.mem_append.mp member with old | last
    · exact cut.opened block (List.mem_append_left _ old)
    · rw [List.mem_singleton.mp last]
      obtain ⟨url, token, rest, opens⟩ :=
        cut.opened (number, said) (List.mem_append_right _ (List.mem_singleton_self _))
      exact ⟨url, token, rest ++ [signal], congrArg (· ++ [signal]) opens⟩

/-- Another attempt comes to its handshake. -/
theorem begin (cut : Blocks log blocks) (fresh : ∀ said, (number, said) ∉ blocks)
    (url token : String) :
    Blocks (log ++ [(number, .asks (.connect url token))])
      (blocks ++ [(number, [.asks (.connect url token)])]) := by
  refine ⟨?_, ?_, ?_⟩
  · rw [cut.joined]
    simp
  · rw [List.map_append, List.nodup_append]
    refine ⟨cut.apart, List.nodup_cons.mpr ⟨nofun, List.nodup_nil⟩, ?_⟩
    intro first member second last same
    obtain ⟨⟨other, said⟩, kept, rfl⟩ := List.mem_map.mp member
    have own : other = number := same.trans (List.mem_singleton.mp last)
    exact fresh said (own ▸ kept)
  · intro block member
    rcases List.mem_append.mp member with old | last
    · exact cut.opened block old
    · rw [List.mem_singleton.mp last]
      exact ⟨url, token, [], rfl⟩

end Blocks

namespace Chronicle

variable {chronicle next : Chronicle Remote} {action : Room.Action Remote} {number : Nat}

theorem dealings_ne_nil_iff :
    chronicle.dealings number ≠ [] ↔ ∃ signal, (number, signal) ∈ chronicle.log := by
  rw [dealings, ne_eq, List.map_eq_nil_iff, List.filter_eq_nil_iff]
  simp

/-- Whoever speaks has the turn. -/
theorem hasTurn_of_signal? {signal : Session.Signal}
    (signals : signal? chronicle.room action = some (number, signal)) :
    chronicle.room.HasTurn number := by
  obtain ⟨task, ask, found, speaks, _kind⟩ := signal?_cases signals
  obtain ⟨request, stage, rfl, turn⟩ := Session.Task.hasTurn_of_speaks? speaks
  exact ⟨request, stage, found, turn⟩

namespace Truthful

variable (truthful : chronicle.Truthful)

include truthful

/-- Whoever has spoken still has the turn, or has ended. -/
theorem ended_or_hasTurn (spoken : chronicle.dealings number ≠ []) :
    chronicle.room.Ended number ∨ chronicle.room.HasTurn number := by
  cases found : chronicle.room.task? (.call number) with
  | none =>
      refine Or.inl ⟨?_, found⟩
      apply Nat.lt_of_not_le
      intro beyond
      exact spoken (truthful.fresh number beyond)
  | some task =>
      apply Or.inr
      obtain ⟨said, dealt, shown⟩ := truthful.shows number task found
      have turn : ∃ request stage, task = .attempt request stage ∧ stage.hasTurn = true := by
        cases speaks : task.speaks? with
        | some ask => exact Session.Task.hasTurn_of_speaks? speaks
        | none =>
            apply Session.Task.hasTurn_of_dealt dealt
            intro nothing
            have request : task.request = [] := by rw [Session.Task.request, speaks]; rfl
            rw [shown, nothing, pending, request, ite_self] at spoken
            exact spoken rfl
      obtain ⟨request, stage, rfl, has⟩ := turn
      exact ⟨request, stage, found, has⟩

/-- The first thing that an attempt says is its handshake. -/
theorem signal?_opens {signal : Session.Signal} (stepped : chronicle.step? action = some next)
    (signals : signal? chronicle.room action = some (number, signal))
    (silent : chronicle.dealings number = []) :
    ∃ url token, signal = .asks (.connect url token) := by
  obtain ⟨task, ask, found, speaks, kind⟩ := signal?_cases signals
  obtain ⟨said, dealt, shown⟩ := truthful.shows number task found
  rw [silent] at shown
  obtain ⟨nothing, unasked⟩ := List.append_eq_nil_iff.mp shown.symm
  rcases kind with ⟨_asks, rfl⟩ | ⟨answer, rfl, _hears⟩
  · obtain ⟨url, token, rfl⟩ := Session.Task.connect_of_dealt_nil (nothing ▸ dealt) speaks
    exact ⟨url, token, rfl⟩
  · -- Nothing is answered that has not been asked.
    obtain ⟨_waiting, _later, _journal, _found, asked, _answered, _next⟩ :=
      Room.answer?_eq_some_iff.mp (step?_eq_some_iff.mp stepped).1
    rw [pending, if_pos asked, Session.Task.request, speaks] at unasked
    cases unasked

end Truthful

structure InTurn (chronicle : Chronicle Remote) : Prop where
  truthful : chronicle.Truthful
  blocks : ∃ blocks, Blocks chronicle.log blocks ∧
    ∀ block ∈ blocks.dropLast, chronicle.room.Ended block.1

theorem InTurn.new (limit : Duration) : (new limit : Chronicle Remote).InTurn :=
  ⟨Truthful.new limit, [], .nil, fun _block member => nomatch member⟩

/-- The attempt of the last block goes on, or everybody who has a block has ended. -/
private theorem InTurn.last_or_closed (inTurn : chronicle.InTurn)
    (turn : chronicle.room.HasTurn number) {blocks : List (Nat × List Session.Signal)}
    (cut : Blocks chronicle.log blocks)
    (closed : ∀ block ∈ blocks.dropLast, chronicle.room.Ended block.1) :
    (∃ before said, blocks = before ++ [(number, said)]) ∨
      ∀ block ∈ blocks, chronicle.room.Ended block.1 := by
  have truthful := inTurn.truthful
  rcases List.eq_nil_or_concat blocks with rfl | ⟨before, ⟨other, said⟩, rfl⟩
  · exact Or.inr fun _block member => nomatch member
  · rw [List.concat_eq_append] at cut closed ⊢
    rw [List.dropLast_concat] at closed
    have spoken : chronicle.dealings other ≠ [] := by
      refine dealings_ne_nil_iff.mpr (cut.mem_iff.mp ⟨said, ?_⟩)
      exact List.mem_append_right _ (List.mem_singleton_self _)
    rcases truthful.ended_or_hasTurn spoken with ended | has
    · apply Or.inr
      intro block member
      rcases List.mem_append.mp member with old | last
      · exact closed block old
      · rw [List.mem_singleton.mp last]
        exact ended
    · rw [truthful.coherent.eq_of_hasTurn has turn]
      exact Or.inl ⟨before, said, rfl⟩

theorem InTurn.step (inTurn : chronicle.InTurn) (stepped : chronicle.step? action = some next) :
    next.InTurn := by
  have truthful := inTurn.truthful
  obtain ⟨acted, log⟩ := step?_eq_some_iff.mp stepped
  obtain ⟨blocks, cut, closed⟩ := inTurn.blocks
  refine ⟨truthful.step stepped, ?_⟩
  cases signals : signal? chronicle.room action with
  | none =>
      rw [signals, Option.toList_none, List.append_nil] at log
      refine ⟨blocks, log ▸ cut, ?_⟩
      intro block member
      exact truthful.coherent.ended_step acted (closed block member)
  | some entry =>
      obtain ⟨number, signal⟩ := entry
      rw [signals, Option.toList_some] at log
      have turn := hasTurn_of_signal? signals
      rw [log]
      rcases inTurn.last_or_closed turn cut closed with ⟨before, said, rfl⟩ | ended
      · refine ⟨_, cut.extend signal, ?_⟩
        rw [List.dropLast_concat] at closed ⊢
        intro block member
        exact truthful.coherent.ended_step acted (closed block member)
      · have fresh : ∀ said, (number, said) ∉ blocks := by
          intro said member
          obtain ⟨request, stage, found, _has⟩ := turn
          have gone := (ended _ member).2
          rw [found] at gone
          cases gone
        have silent : chronicle.dealings number = [] := by
          apply Decidable.byContradiction
          intro spoken
          obtain ⟨said, member⟩ := cut.mem_iff.mpr (dealings_ne_nil_iff.mp spoken)
          exact fresh said member
        obtain ⟨url, token, rfl⟩ := truthful.signal?_opens stepped signals silent
        refine ⟨_, cut.begin fresh url token, ?_⟩
        rw [List.dropLast_concat]
        intro block member
        exact truthful.coherent.ended_step acted (ended block member)

theorem InTurn.run {limit : Duration} {actions : List (Room.Action Remote)}
    (ran : (Chronicle.new limit).run? actions = some chronicle) : chronicle.InTurn := by
  refine run_keeps ?_ (InTurn.new limit) ran
  intro reached action next inTurn stepped
  exact inTurn.step stepped

/-! ### Whoever has nothing more to say -/

/-- A call from which the log hears nothing more: it has ended, or its session is over before its
turn. -/
def Silent (chronicle : Chronicle Remote) (number : Nat) : Prop :=
  chronicle.room.Ended number ∨ chronicle.room.Lapsed number

/-- How a lapsed attempt goes on. -/
private theorem next_of_lapsed {request : Session.Request} {stage : Session.Attempt}
    {epoch : Nat} {view : Media.View Remote} {session : Session Remote}
    {part : Session.Section Remote} (waits : stage = .begun epoch ∨ stage = .queued epoch)
    (late : epoch ≠ session.epoch)
    (worked : (Session.Task.attempt request stage).section? number view session = some part) :
    part.session = session ∧
      (part.next = .waits (.attempt request (.queued epoch)) ∨
        part.next = .ends (.attempt (.ok .superseded))) := by
  rcases waits with rfl | rfl
  · cases worked
    exact ⟨rfl, Or.inl rfl⟩
  · cases worked
    rw [Session.Attempt.takeTurn, if_neg (Ne.symm late)]
    exact ⟨rfl, Or.inr rfl⟩

/-- A lapsed attempt that acts lines up, or ends as superseded. -/
private theorem silent_of_moved (truthful : chronicle.Truthful)
    (stepped : chronicle.step? action = some next) (lapsed : chronicle.room.Lapsed number)
    (moved : action.task? = some (.call number)) :
    next.Silent number ∧ next.dealings number = chronicle.dealings number ∧
      ∀ result, (number, result) ∈ next.room.results →
        (number, result) ∈ chronicle.room.results ∨ result = .attempt (.ok .superseded) := by
  have coherent := truthful.coherent
  have acted := (step?_eq_some_iff.mp stepped).1
  obtain ⟨request, stage, epoch, found, waits, late⟩ := lapsed
  cases action with
  | work id view =>
      cases moved
      obtain ⟨task, part, same, may, worked, enacted⟩ := Room.work?_eq_some_iff.mp acted
      rw [found] at same
      cases same
      have moves := coherent.moves_of_work found may worked
      obtain ⟨goesOn, _unasked, results⟩ := moves.call_enact
      obtain ⟨session, after⟩ := next_of_lapsed waits late worked
      rw [enacted] at goesOn results
      refine ⟨?_, dealings_of_work stepped, ?_⟩
      · rcases after with lined | superseded
        · refine Or.inr ⟨request, .queued epoch, epoch, ?_, Or.inr rfl, ?_⟩
          · rw [goesOn, lined]
            rfl
          · rw [← enacted, Room.session_enact, session]
            exact late
        · refine Or.inl ⟨?_, ?_⟩
          · rw [← enacted, Room.calls_enact]
            exact (coherent.calls number _ found).1
          · rw [goesOn, superseded]
            rfl
      · intro result noted
        rcases results result noted with old | ends
        · exact Or.inl old
        · rcases after with lined | superseded
          · rw [lined] at ends
            cases ends
          · rw [superseded] at ends
            cases ends
            exact Or.inr rfl
  | ask id =>
      cases moved
      obtain ⟨task, same, asks, _new, _next⟩ := Room.ask?_eq_some_iff.mp acted
      rw [found] at same
      cases same
      rcases waits with rfl | rfl <;> cases asks
  | answer id answer =>
      cases moved
      obtain ⟨task, later, journal, same, _asked, answered, _next⟩ :=
        Room.answer?_eq_some_iff.mp acted
      rw [found] at same
      cases same
      rcases waits with rfl | rfl <;> cases answered
  | hear listener event? => cases moved
  | call operation => cases moved
  | event view event => cases moved
  | voice text? => cases moved

/-- It stays so, whatever happens. -/
theorem Silent.step (silent : chronicle.Silent number) (truthful : chronicle.Truthful)
    (stepped : chronicle.step? action = some next) :
    next.Silent number ∧ next.dealings number = chronicle.dealings number ∧
      ∀ result, (number, result) ∈ next.room.results →
        (number, result) ∈ chronicle.room.results ∨ result = .attempt (.ok .superseded) := by
  have coherent := truthful.coherent
  have acted := (step?_eq_some_iff.mp stepped).1
  by_cases moved : action.task? = some (.call number)
  · rcases silent with ended | lapsed
    · obtain ⟨task, found⟩ := coherent.found_of_moved acted moved
      rw [ended.2] at found
      cases found
    · exact silent_of_moved truthful stepped lapsed moved
  · obtain ⟨still, _asked, results⟩ := coherent.others acted moved
    refine ⟨?_, dealings_of_others stepped moved, ?_⟩
    · rcases silent with ended | ⟨request, stage, epoch, found, waits, late⟩
      · exact Or.inl (coherent.ended_step acted ended)
      · have issued := (coherent.calls number _ found).1
        have behind : epoch ≤ chronicle.room.session.epoch := by
          refine (coherent.fits _ _ found).notAhead epoch ?_
          rcases waits with rfl | rfl <;> rfl
        have onwards := coherent.epoch_le acted
        exact Or.inr ⟨request, stage, epoch, (still issued).trans found, waits, by omega⟩
    · intro result noted
      exact Or.inl ((results result).mp noted)

theorem Silent.run {last : Chronicle Remote} {later : List (Room.Action Remote)}
    (silent : chronicle.Silent number) (truthful : chronicle.Truthful)
    (ran : chronicle.run? later = some last) :
    last.dealings number = chronicle.dealings number ∧
      ∀ result, (number, result) ∈ last.room.results →
        (number, result) ∈ chronicle.room.results ∨ result = .attempt (.ok .superseded) := by
  have kept := @run_keeps _ _ step?
    (fun reached => reached.Truthful ∧ reached.Silent number ∧
      reached.dealings number = chronicle.dealings number ∧
      ∀ result, (number, result) ∈ reached.room.results →
        (number, result) ∈ chronicle.room.results ∨ result = .attempt (.ok .superseded))
    ?_ _ _ later ⟨truthful, silent, rfl, fun _result noted => Or.inl noted⟩ ran
  · exact kept.2.2
  · intro reached action next ⟨truthful, silent, same, noted⟩ stepped
    obtain ⟨still, nothing, results⟩ := silent.step truthful stepped
    refine ⟨truthful.step stepped, still, nothing.trans same, ?_⟩
    intro result added
    rcases results result added with old | superseded
    · exact noted result old
    · exact Or.inr superseded

/-- A call has no request with the transport, and will not make one. -/
def DoneWith (chronicle : Chronicle Remote) (number : Nat) : Prop :=
  .call number ∉ chronicle.room.asked ∧ ∀ later last, chronicle.run? later = some last →
    last.dealings number = chronicle.dealings number

theorem Silent.doneWith (silent : chronicle.Silent number) (truthful : chronicle.Truthful) :
    chronicle.DoneWith number := by
  constructor
  · intro asked
    obtain ⟨task, found, asks⟩ := truthful.coherent.asked _ asked
    rcases silent with ended | ⟨request, stage, epoch, waiting, waits, _late⟩
    · rw [ended.2] at found
      cases found
    · rw [waiting] at found
      cases found
      rcases waits with rfl | rfl <;> cases asks
  · intro later last ran
    exact (silent.run truthful ran).1

def Precedes (chronicle : Chronicle Remote) (number epoch : Nat) : Prop :=
  chronicle.dealings number ≠ [] ∨ chronicle.room.Ended number ∨
    ∃ request stage before, chronicle.room.task? (.call number) = some (.attempt request stage) ∧
      (Session.Task.attempt request stage : Session.Task Remote).epoch? = some before ∧
      before < epoch

/-- While an attempt is at its handshake, whoever came before has nothing more to say. -/
private theorem silent_of_precedes (truthful : chronicle.Truthful) {earlier epoch : Nat}
    {request : Session.Request}
    (found : chronicle.room.task? (.call number) = some (.attempt request (.handshake epoch)))
    (other : earlier ≠ number) (precedes : chronicle.Precedes earlier epoch) :
    chronicle.Silent earlier := by
  have coherent := truthful.coherent
  have turn : ¬chronicle.room.HasTurn earlier := by
    intro has
    exact other (coherent.eq_of_hasTurn has ⟨request, _, found, rfl⟩)
  rcases precedes with spoken | ended | ⟨earlierRequest, stage, before, waiting, belongs, behind⟩
  · rcases truthful.ended_or_hasTurn spoken with ended | has
    · exact Or.inl ended
    · exact absurd has turn
  · exact Or.inl ended
  · have reached := (coherent.fits _ _ found).notAhead epoch rfl
    have late : before ≠ chronicle.room.session.epoch := by omega
    refine Or.inr ⟨earlierRequest, stage, before, waiting, ?_, late⟩
    cases stage with
    | begun began => exact Or.inl (congrArg _ (Option.some.inj belongs))
    | queued began => exact Or.inr (congrArg _ (Option.some.inj belongs))
    | starting => cases belongs
    | _ => exact absurd ⟨earlierRequest, _, waiting, rfl⟩ turn

private theorem dealings_of_lapsed (truthful : chronicle.Truthful)
    (lapsed : chronicle.room.Lapsed number) : chronicle.dealings number = [] := by
  obtain ⟨request, stage, epoch, found, waits, _late⟩ := lapsed
  obtain ⟨said, dealt, shown⟩ := truthful.shows number _ found
  rw [shown, pending]
  rcases waits with rfl | rfl
  · cases dealt
    exact ite_self []
  · cases dealt
    exact ite_self []

/-- What attempts and the transport say to each other falls into blocks, one for each attempt, and
all attempts but the one of the last block have ended. When an attempt comes to its handshake,
whoever came before has finished with the transport. An attempt whose session is over before its
turn comes says nothing and is superseded, and an attempt that is superseded after its handshake has
come through says last that the transport is to be released. -/
theorem attempts_take_turns {limit : Duration} {actions : List (Room.Action Remote)}
    (ran : (Chronicle.new limit).run? actions = some chronicle) :
    (∃ blocks, Blocks chronicle.log blocks ∧
      (∀ block ∈ blocks, chronicle.dealings block.1 = block.2) ∧
      ∀ block ∈ blocks.dropLast, chronicle.room.Ended block.1) ∧
    (∀ number request epoch,
      chronicle.room.task? (.call number) = some (.attempt request (.handshake epoch)) →
        ∀ earlier, earlier ≠ number → chronicle.Precedes earlier epoch →
          chronicle.DoneWith earlier) ∧
    (∀ number, chronicle.room.Lapsed number → ∀ later last, chronicle.run? later = some last →
      last.dealings number = [] ∧ ∀ result, (number, result) ∈ last.room.results →
        result = .attempt (.ok .superseded)) ∧
    ∀ number request, (number, .attempt (.ok .superseded)) ∈ chronicle.room.results →
      Session.Signal.shaken request .done <+: chronicle.dealings number →
        ∃ devices, chronicle.dealings number =
          Session.Signal.shaken request .done ++ Session.Signal.switched devices ++
            Session.Signal.released := by
  have inTurn := InTurn.run ran
  have truthful := inTurn.truthful
  refine ⟨?_, ?_, ?_, ?_⟩
  · obtain ⟨blocks, cut, ended⟩ := inTurn.blocks
    exact ⟨blocks, cut, fun _block member => cut.said_eq member, ended⟩
  · intro number request epoch found earlier other precedes
    exact (silent_of_precedes truthful found other precedes).doneWith truthful
  · intro number lapsed later last rested
    have silent : chronicle.Silent number := Or.inr lapsed
    obtain ⟨same, noted⟩ := silent.run truthful rested
    refine ⟨same.trans (dealings_of_lapsed truthful lapsed), ?_⟩
    intro result added
    rcases noted result added with old | superseded
    · obtain ⟨_request, _stage, _epoch, found, _waits, _late⟩ := lapsed
      rw [(truthful.concluded number result old).2.1] at found
      cases found
    · exact superseded
  · intro number request superseded through
    exact Session.Concluded.released (truthful.concluded number _ superseded).2.2 through

def joining : Session.Request :=
  { url := "wss://media", token := "token", audio := false, video := false }

/-- Three attempts with a hang-up behind the first and another behind the second. The first comes
back from its handshake too late; the third lines up before the second does, and gets its turn. -/
def threeAttempts : List (Room.Action Unit) :=
  [.call (.join joining), .work (.call 0) .empty, .work (.call 0) .empty, .work (.call 0) .empty,
    .ask (.call 0), .call .hangUp, .work (.call 1) .empty,
    .call (.join joining), .work (.call 2) .empty, .call .hangUp, .work (.call 3) .empty,
    .call (.join joining), .work (.call 4) .empty, .work (.call 4) .empty,
    .answer (.call 0) .done, .work (.call 0) .empty, .ask (.call 0), .answer (.call 0) .done,
    .work (.call 4) .empty]

theorem third_attempt_waits_for_first :
    ∃ chronicle, (Chronicle.new (.ofSeconds 15 0)).run? threeAttempts = some chronicle ∧
      chronicle.room.task? (.call 4) = some (.attempt joining (.handshake 5)) ∧
      chronicle.DoneWith 0 ∧ chronicle.DoneWith 2 ∧
      (∀ later last, chronicle.run? later = some last → last.dealings 2 = []) ∧
      ∃ devices, chronicle.dealings 0 =
        Session.Signal.shaken joining .done ++ Session.Signal.switched devices ++
          Session.Signal.released := by
  refine ⟨_, rfl, rfl, ?_⟩
  have order := @attempts_take_turns Unit _ (.ofSeconds 15 0) threeAttempts rfl
  refine ⟨?_, ?_, ?_, ?_⟩
  · exact order.2.1 4 joining 5 rfl 0 (by decide) (Or.inl nofun)
  · exact order.2.1 4 joining 5 rfl 2 (by decide)
      (Or.inr (Or.inr ⟨joining, .begun 3, 3, rfl, rfl, by decide⟩))
  · intro later last ran
    exact (order.2.2.1 2 ⟨joining, .begun 3, 3, rfl, Or.inl rfl, by decide⟩ later last ran).1
  · exact order.2.2.2 0 joining (.head _) ⟨[.asks .disconnect, .hears .done], rfl⟩

end Chronicle

end MeetingRoom
