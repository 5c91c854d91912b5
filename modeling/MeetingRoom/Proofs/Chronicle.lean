import MeetingRoom.Proofs.LateTeardown

/-!
What attempts and the transport have said to each other. A chronicle is a room with a log of it: the
requests that attempts have made and the answers that they have got, in their order. What hang-ups,
toggles and listeners ask of the transport is left out. Where an attempt stands tells what it has
said so far: first its handshake, then its devices one after the other, and at last a teardown if it
has failed or come too late.
-/

namespace MeetingRoom

variable {Remote : Type}

namespace Session

inductive Signal where
  | asks (ask : Ask)
  | hears (answer : Answer)
  deriving DecidableEq

namespace Signal

def shaken (request : Request) (answer : Answer) : List Signal :=
  [.asks (.connect request.url request.token), .hears answer]

def switched (devices : List (Media.Track × Answer)) : List Signal :=
  devices.flatMap fun (track, answer) => [.asks (.enable track true), .hears answer]

def released : List Signal := [.asks .disconnect, .hears .done]

/-- The handshake has come through, and devices have been brought up since. -/
def Opened (request : Request) (said : List Signal) : Prop :=
  ∃ devices, said = shaken request .done ++ switched devices

def Refused (request : Request) (said : List Signal) : Prop :=
  ∃ answer, answer ≠ .done ∧ said = shaken request answer

theorem Opened.switched {request : Request} {said : List Signal} (opened : Opened request said)
    (track : Media.Track) (answer : Answer) :
    Opened request (said ++ [.asks (.enable track true), .hears answer]) := by
  obtain ⟨devices, rfl⟩ := opened
  refine ⟨devices ++ [(track, answer)], ?_⟩
  simp [Signal.switched]

end Signal

def Attempt.Dealt (request : Request) : Attempt → List Signal → Prop
  | .settling _ (.ok _), said => said = Signal.shaken request .done
  | .settling _ (.error _), said => Signal.Refused request said
  | .enabling _ _, said => Signal.Opened request said
  | .switching _ _ _, said => Signal.Opened request said
  | .releasing (.ok .superseded), said => Signal.Opened request said
  | .releasing (.ok _), _ => False
  | .releasing (.error _), said => Signal.Refused request said
  | _, said => said = []

def Concluded : Except Fault Outcome → List Signal → Prop
  | .ok .connected, said => ∃ request, Signal.Opened request said
  | .ok .alreadyActive, said => said = []
  | .ok .superseded, said =>
      said = [] ∨ (∃ request, Signal.Refused request said) ∨
        ∃ request before, Signal.Opened request before ∧ said = before ++ Signal.released
  | .error _, said =>
      said = [] ∨ ∃ request before, Signal.Refused request before ∧ said = before ++ Signal.released

/-- An attempt that has got through and still was too late has released the transport last. -/
theorem Concluded.released {request : Request} {said : List Signal}
    (concluded : Concluded (.ok .superseded) said) (through : Signal.shaken request .done <+: said) :
    ∃ devices, said =
      Signal.shaken request .done ++ Signal.switched devices ++ Signal.released := by
  obtain ⟨rest, same⟩ := through
  rcases concluded with rfl | ⟨other, answer, failed, rfl⟩ | ⟨other, _before, ⟨devices, rfl⟩, rfl⟩
  · cases same
  · have answered : Answer.done = answer :=
      Signal.hears.inj (List.cons.inj (List.cons.inj same).2).1
    exact absurd answered.symm failed
  · have shaken : Signal.shaken request .done = Signal.shaken other .done :=
      (List.append_inj ((same.trans (List.append_assoc _ _ _))) rfl).1
    exact ⟨devices, by rw [shaken]⟩

namespace Task

/-- What an attempt asks of the transport next. The requests of others are not in the log. -/
def speaks? : Task Remote → Option Ask
  | attempt request stage => (attempt request stage : Task Remote).ask?
  | _ => none

def Dealt : Task Remote → List Signal → Prop
  | attempt request stage, said => stage.Dealt request said
  | _, said => said = []

def request (task : Task Remote) : List Signal :=
  (task.speaks?.map .asks).toList

def reply (task : Task Remote) (answer : Answer) : List Signal :=
  (task.speaks?.map fun _ => .hears answer).toList

end Task

def Next.Told (said : List Signal) : Next Remote → Prop
  | .waits task => task.Dealt said
  | .ends (.attempt result) => Concluded result said
  | .ends _ => said = []

/-! ### What a task says at its stages -/

private theorem Attempt.start_told (request : Request) (session : Session Remote) :
    (start request session).next.Told [] := by
  unfold start
  split
  · split
    · exact Or.inl rfl
    · exact rfl
  · exact rfl

private theorem Attempt.settle_told {request : Request} {epoch : Nat}
    {answer : Except Fault Unit} {said : List Signal}
    (dealt : (Attempt.settling epoch answer).Dealt request said) (view : Media.View Remote)
    (session : Session Remote) : (settle request epoch answer view session).next.Told said := by
  unfold settle
  cases answer with
  | ok done =>
      have opened : Signal.Opened request said := ⟨[], by rw [dealt]; rfl⟩
      split <;> exact opened
  | error fault =>
      split
      · exact dealt
      · exact Or.inr (Or.inl ⟨request, dealt⟩)

private theorem Attempt.complete_told {request : Request} {said : List Signal}
    (opened : Signal.Opened request said) (number epoch : Nat) (view : Media.View Remote)
    (session : Session Remote) :
    (complete number request epoch view session).next.Told said := by
  unfold complete
  split
  · exact ⟨request, opened⟩
  · exact opened

/-- A section of work says nothing. -/
theorem Task.told_of_section {number : Nat} {view : Media.View Remote}
    {session : Session Remote} {task : Task Remote} {part : Section Remote} {said : List Signal}
    (dealt : task.Dealt said) (worked : task.section? number view session = some part) :
    part.next.Told said := by
  cases task with
  | attempt request stage =>
      cases stage with
      | starting =>
          cases worked
          cases dealt
          exact Attempt.start_told request session
      | begun epoch => cases worked; exact dealt
      | queued epoch =>
          cases worked
          unfold Attempt.takeTurn
          split
          · exact dealt
          · exact Or.inl dealt
      | handshake epoch => cases worked
      | settling epoch answer => cases worked; exact Attempt.settle_told dealt view session
      | enabling epoch todo =>
          cases todo with
          | nil => cases worked; exact Attempt.complete_told dealt number epoch view session
          | cons track todo =>
              cases worked
              unfold Attempt.enable
              dsimp only
              split <;> exact dealt
      | switching epoch track todo => cases worked
      | releasing result => cases worked
  | hangUp stage =>
      cases stage with
      | starting =>
          cases worked
          unfold HangUp.start
          split <;> exact dealt
      | releasing => cases worked
  | toggle track stage =>
      cases stage with
      | starting =>
          cases worked
          unfold Toggle.start
          split <;> exact dealt
      | switching epoch identity target => cases worked
      | settling epoch identity target =>
          cases worked
          unfold Toggle.settle
          split <;> exact dealt
  | listener epoch stage =>
      cases stage with
      | waiting => cases worked
      | holding event? =>
          cases worked
          unfold Listening.handle
          split
          · dsimp only
            split <;> exact dealt
          · exact dealt
      | releasing => cases worked

/-- The answer to a request comes right behind it. -/
theorem Task.told_of_answer {limit : Duration} {task : Task Remote} {answer : Answer}
    {next : Next Remote} {journal : List Journal.Entry} {said : List Signal}
    (dealt : task.Dealt said) (answered : task.answered? limit answer = some (next, journal)) :
    next.Told (said ++ (task.request ++ task.reply answer)) := by
  cases task with
  | attempt request stage =>
      cases stage with
      | handshake epoch =>
          cases answered
          cases dealt
          cases answer with
          | done => exact rfl
          | failed fault => exact ⟨.failed fault, nofun, rfl⟩
          | timedOut => exact ⟨.timedOut, nofun, rfl⟩
      | switching epoch track todo =>
          have opened := Signal.Opened.switched dealt track answer
          cases answer with
          | done => cases answered; exact opened
          | failed fault => cases answered; exact opened
          | timedOut => cases answered
      | releasing result =>
          cases answer with
          | done =>
              cases answered
              cases result with
              | error fault => exact Or.inr ⟨request, said, dealt, rfl⟩
              | ok outcome =>
                  cases outcome with
                  | superseded => exact Or.inr (Or.inr ⟨request, said, dealt, rfl⟩)
                  | connected => cases dealt
                  | alreadyActive => cases dealt
          | failed fault => cases answered
          | timedOut => cases answered
      | _ => cases answered
  | hangUp stage =>
      cases dealt
      cases stage <;> cases answer <;> cases answered
      exact rfl
  | toggle track stage =>
      cases dealt
      cases stage <;> cases answer <;> cases answered <;> exact rfl
  | listener epoch stage =>
      cases dealt
      cases stage <;> cases answer <;> cases answered
      exact rfl

/-- Whoever asks for something first asks for its handshake. -/
theorem Task.connect_of_dealt_nil {task : Task Remote} {ask : Ask} (dealt : task.Dealt [])
    (speaks : task.speaks? = some ask) : ∃ url token, ask = .connect url token := by
  cases task with
  | attempt request stage =>
      cases stage with
      | handshake epoch => cases speaks; exact ⟨request.url, request.token, rfl⟩
      | switching epoch track todo => obtain ⟨devices, empty⟩ := dealt; cases empty
      | releasing result =>
          cases result with
          | error fault => obtain ⟨answer, _other, empty⟩ := dealt; cases empty
          | ok outcome =>
              cases outcome with
              | superseded => obtain ⟨devices, empty⟩ := dealt; cases empty
              | connected => cases dealt
              | alreadyActive => cases dealt
      | _ => cases speaks
  | hangUp stage => cases speaks
  | toggle track stage => cases speaks
  | listener epoch stage => cases speaks

/-- Whoever asks for something has the turn. -/
theorem Task.hasTurn_of_speaks? {task : Task Remote} {ask : Ask} (speaks : task.speaks? = some ask) :
    ∃ request stage, task = .attempt request stage ∧ stage.hasTurn = true := by
  cases task with
  | attempt request stage =>
      refine ⟨request, stage, rfl, ?_⟩
      cases stage <;> first | rfl | cases speaks
  | hangUp stage => cases speaks
  | toggle track stage => cases speaks
  | listener epoch stage => cases speaks

/-- Whoever has said something has the turn. -/
theorem Task.hasTurn_of_dealt {task : Task Remote} {said : List Signal} (dealt : task.Dealt said)
    (spoken : said ≠ []) : ∃ request stage, task = .attempt request stage ∧ stage.hasTurn = true := by
  cases task with
  | attempt request stage =>
      refine ⟨request, stage, rfl, ?_⟩
      cases stage with
      | starting => exact absurd dealt spoken
      | begun epoch => exact absurd dealt spoken
      | queued epoch => exact absurd dealt spoken
      | _ => rfl
  | hangUp stage => exact absurd dealt spoken
  | toggle track stage => exact absurd dealt spoken
  | listener epoch stage => exact absurd dealt spoken

end Session

/-- A room with what its attempts and the transport have said to each other, by the numbers of the
attempts. -/
structure Chronicle (Remote : Type) where
  room : Room Remote
  log : List (Nat × Session.Signal)

namespace Chronicle

def new (limit : Duration) : Chronicle Remote :=
  { room := Room.new limit, log := [] }

def signal? (room : Room Remote) : Room.Action Remote → Option (Nat × Session.Signal)
  | .ask (.call number) =>
      ((room.task? (.call number)).bind (·.speaks?)).map fun ask => (number, .asks ask)
  | .answer (.call number) answer =>
      ((room.task? (.call number)).bind (·.speaks?)).map fun _ => (number, .hears answer)
  | _ => none

def step? (chronicle : Chronicle Remote) (action : Room.Action Remote) :
    Option (Chronicle Remote) :=
  (chronicle.room.step? action).map fun room =>
    { room := room, log := chronicle.log ++ (signal? chronicle.room action).toList }

def run? (chronicle : Chronicle Remote) (actions : List (Room.Action Remote)) :
    Option (Chronicle Remote) :=
  actions.foldlM step? chronicle

def dealings (chronicle : Chronicle Remote) (number : Nat) : List Session.Signal :=
  (chronicle.log.filter (·.1 = number)).map (·.2)

def pending (chronicle : Chronicle Remote) (number : Nat) (task : Session.Task Remote) :
    List Session.Signal :=
  if .call number ∈ chronicle.room.asked then task.request else []

/-- What the log shows of a call follows from where its task stands. -/
def Shows (chronicle : Chronicle Remote) (number : Nat) (task : Session.Task Remote) : Prop :=
  ∃ said, task.Dealt said ∧ chronicle.dealings number = said ++ chronicle.pending number task

/-! ### Steps -/

variable {chronicle next : Chronicle Remote} {action : Room.Action Remote} {number : Nat}

theorem step?_eq_some_iff :
    chronicle.step? action = some next ↔
      chronicle.room.step? action = some next.room ∧
        next.log = chronicle.log ++ (signal? chronicle.room action).toList := by
  rw [step?, Option.map_eq_some_iff]
  constructor
  · rintro ⟨room, stepped, rfl⟩
    exact ⟨stepped, rfl⟩
  · rintro ⟨stepped, log⟩
    exact ⟨next.room, stepped, by rw [← log]⟩

/-- Every run of the room is in a chronicle. -/
theorem room_run? (chronicle : Chronicle Remote) (actions : List (Room.Action Remote)) :
    (chronicle.run? actions).map (·.room) = chronicle.room.run? actions := by
  induction actions generalizing chronicle with
  | nil => rfl
  | cons action rest ih =>
      rw [run?, Room.run?, List.foldlM_cons, List.foldlM_cons, step?]
      cases chronicle.room.step? action with
      | none => rfl
      | some room => exact ih _

/-- Only the requests of attempts and the answers to them are in the log. -/
theorem signal?_cases {room : Room Remote} {signal : Session.Signal}
    (signals : signal? room action = some (number, signal)) :
    ∃ task ask, room.task? (.call number) = some task ∧ task.speaks? = some ask ∧
      (action = .ask (.call number) ∧ signal = .asks ask ∨
        ∃ answer, action = .answer (.call number) answer ∧ signal = .hears answer) := by
  cases action with
  | ask id =>
      cases id with
      | call caller =>
          obtain ⟨ask, speaks, same⟩ := Option.map_eq_some_iff.mp signals
          cases same
          obtain ⟨task, found, asks⟩ := Option.bind_eq_some_iff.mp speaks
          exact ⟨task, ask, found, asks, Or.inl ⟨rfl, rfl⟩⟩
      | listener listening => cases signals
  | answer id answer =>
      cases id with
      | call caller =>
          obtain ⟨ask, speaks, same⟩ := Option.map_eq_some_iff.mp signals
          cases same
          obtain ⟨task, found, asks⟩ := Option.bind_eq_some_iff.mp speaks
          exact ⟨task, ask, found, asks, Or.inr ⟨answer, rfl, rfl⟩⟩
      | listener listening => cases signals
  | _ => cases signals

theorem task?_of_signal? {room : Room Remote} {signal : Session.Signal}
    (signals : signal? room action = some (number, signal)) :
    action.task? = some (.call number) := by
  obtain ⟨_task, _ask, _found, _speaks, ⟨rfl, _same⟩ | ⟨_answer, rfl, _same⟩⟩ :=
    signal?_cases signals
  · rfl
  · rfl

theorem dealings_of_others (stepped : chronicle.step? action = some next)
    (others : action.task? ≠ some (.call number)) :
    next.dealings number = chronicle.dealings number := by
  rw [dealings, (step?_eq_some_iff.mp stepped).2]
  cases signals : signal? chronicle.room action with
  | none => simp [dealings]
  | some entry =>
      have different : entry.1 ≠ number := by
        intro same
        exact others (same ▸ task?_of_signal? signals)
      simp [dealings, different]

theorem dealings_of_signal? {said? : Option Session.Signal}
    (stepped : chronicle.step? action = some next)
    (signals : signal? chronicle.room action = said?.map (number, ·)) :
    next.dealings number = chronicle.dealings number ++ said?.toList := by
  rw [dealings, (step?_eq_some_iff.mp stepped).2, signals]
  cases said? <;> simp [dealings]

theorem dealings_of_work {view : Media.View Remote}
    (stepped : chronicle.step? (.work (.call number) view) = some next) :
    next.dealings number = chronicle.dealings number := by
  have silent := @dealings_of_signal? Remote chronicle next _ number none stepped rfl
  exact silent.trans (List.append_nil _)

theorem dealings_of_ask {task : Session.Task Remote}
    (stepped : chronicle.step? (.ask (.call number)) = some next)
    (found : chronicle.room.task? (.call number) = some task) :
    next.dealings number = chronicle.dealings number ++ task.request := by
  apply dealings_of_signal? stepped
  rw [signal?, found, Option.bind_some, Option.map_map]
  rfl

theorem dealings_of_answer {task : Session.Task Remote} {answer : Session.Answer}
    (stepped : chronicle.step? (.answer (.call number) answer) = some next)
    (found : chronicle.room.task? (.call number) = some task) :
    next.dealings number = chronicle.dealings number ++ task.reply answer := by
  apply dealings_of_signal? stepped
  rw [signal?, found, Option.bind_some, Option.map_map]
  rfl

/-! ### What the log shows -/

structure Truthful (chronicle : Chronicle Remote) : Prop where
  coherent : chronicle.room.Coherent
  shows : ∀ number task, chronicle.room.task? (.call number) = some task →
    chronicle.Shows number task
  concluded : ∀ number result, (number, result) ∈ chronicle.room.results →
    number < chronicle.room.calls ∧ chronicle.room.task? (.call number) = none ∧
      (Session.Next.ends result : Session.Next Remote).Told (chronicle.dealings number)
  fresh : ∀ number, chronicle.room.calls ≤ number → chronicle.dealings number = []

theorem Truthful.new (limit : Duration) : (new limit : Chronicle Remote).Truthful := by
  refine ⟨Room.Coherent.new limit, ?_, ?_, ?_⟩
  · intro number task found
    cases found
  · intro number result noted
    cases noted
  · intro number _beyond
    rfl

/-- A call that has gone on has said what its new place tells. -/
private theorem shows_enact {part : Session.Section Remote} {moving task : Session.Task Remote}
    (moves : chronicle.room.Moves (.call number) moving part)
    (enacted : chronicle.room.enact (.call number) part = next.room)
    (told : part.next.Told (next.dealings number))
    (found : next.room.task? (.call number) = some task) : next.Shows number task := by
  obtain ⟨goesOn, unasked, _results⟩ := moves.call_enact
  rw [enacted] at goesOn unasked
  refine ⟨next.dealings number, ?_, by rw [pending, if_neg unasked, List.append_nil]⟩
  rw [goesOn] at found
  cases waits : part.next with
  | waits later =>
      rw [waits] at found told
      cases found
      exact told
  | ends result =>
      rw [waits] at found
      cases found

namespace Truthful

variable (truthful : chronicle.Truthful) (stepped : chronicle.step? action = some next)

include truthful stepped

/-- A call that acts either makes its request, or moves and has said then what its place tells. -/
private theorem told_of_moved (moved : action.task? = some (.call number)) :
    (∃ task, action = .ask (.call number) ∧ chronicle.room.task? (.call number) = some task ∧
      .call number ∉ chronicle.room.asked ∧
      next.room = { chronicle.room with asked := chronicle.room.asked ++ [.call number] }) ∨
    ∃ task part, chronicle.room.Moves (.call number) task part ∧
      chronicle.room.enact (.call number) part = next.room ∧
      part.next.Told (next.dealings number) := by
  have coherent := truthful.coherent
  have acted := (step?_eq_some_iff.mp stepped).1
  cases action with
  | ask id =>
      cases moved
      obtain ⟨task, found, _asks, unasked, same⟩ := Room.ask?_eq_some_iff.mp acted
      exact Or.inl ⟨task, rfl, found, unasked, same.symm⟩
  | work id view =>
      cases moved
      obtain ⟨task, part, found, may, worked, enacted⟩ := Room.work?_eq_some_iff.mp acted
      refine Or.inr ⟨task, part, coherent.moves_of_work found may worked, enacted, ?_⟩
      obtain ⟨said, dealt, shown⟩ := truthful.shows number task found
      have unasked : .call number ∉ chronicle.room.asked := by
        intro asked
        obtain ⟨waiting, same, asks⟩ := coherent.asked _ asked
        rw [found] at same
        cases same
        rw [Session.Task.ask?_of_section? worked] at asks
        cases asks
      rw [dealings_of_work stepped, shown, pending, if_neg unasked, List.append_nil]
      exact Session.Task.told_of_section dealt worked
  | answer id answer =>
      cases moved
      obtain ⟨task, later, journal, found, asked, answered, proceeded⟩ :=
        Room.answer?_eq_some_iff.mp acted
      refine Or.inr ⟨task, _, coherent.moves_of_answer found answered, ?_, ?_⟩
      · rw [Room.enact_of_none _ _ rfl rfl]
        exact proceeded
      · obtain ⟨said, dealt, shown⟩ := truthful.shows number task found
        rw [dealings_of_answer stepped found, shown, pending, if_pos asked, List.append_assoc]
        exact Session.Task.told_of_answer dealt answered
  | hear listener event? => cases moved
  | call operation => cases moved
  | event view event => cases moved
  | voice text? => cases moved

private theorem shows_step {task : Session.Task Remote}
    (found : next.room.task? (.call number) = some task) : next.Shows number task := by
  have coherent := truthful.coherent
  have acted := (step?_eq_some_iff.mp stepped).1
  by_cases moved : action.task? = some (.call number)
  · rcases told_of_moved truthful stepped moved with ⟨waiting, rfl, before, unasked, room⟩ |
        ⟨moving, part, moves, enacted, told⟩
    · rw [room] at found
      have same := Option.some.inj (before.symm.trans found)
      subst same
      obtain ⟨said, dealt, shown⟩ := truthful.shows number waiting before
      rw [pending, if_neg unasked, List.append_nil] at shown
      refine ⟨said, dealt, ?_⟩
      have asked : .call number ∈ next.room.asked := by
        rw [room]
        exact List.mem_append_right _ (List.mem_singleton_self _)
      rw [dealings_of_ask stepped before, shown, pending, if_pos asked]
    · exact shows_enact moves enacted told found
  · obtain ⟨still, asked, _results⟩ := coherent.others acted moved
    by_cases issued : number < chronicle.room.calls
    · rw [still issued] at found
      obtain ⟨said, dealt, shown⟩ := truthful.shows number task found
      refine ⟨said, dealt, ?_⟩
      rw [dealings_of_others stepped moved, shown, pending, pending]
      simp only [asked]
    · have unasked : .call number ∉ next.room.asked := by
        rw [asked]
        intro requested
        obtain ⟨waiting, old, _asks⟩ := coherent.asked _ requested
        exact issued (coherent.calls _ waiting old).1
      refine ⟨[], ?_, ?_⟩
      · rcases coherent.calls_step acted with same | ⟨operation, rfl, _more⟩
        · have after := ((coherent.step acted).calls number task found).1
          exact absurd (same ▸ after) issued
        · rw [← Option.some.inj acted] at found
          rcases Room.origin_start found with old | ⟨_same, new⟩
          · exact absurd (coherent.calls _ task old).1 issued
          · subst new
            cases operation <;> exact rfl
      · rw [dealings_of_others stepped moved, truthful.fresh _ (Nat.le_of_not_lt issued), pending,
          if_neg unasked]
        rfl

private theorem concluded_step {result : Session.Result}
    (noted : (number, result) ∈ next.room.results) :
    number < next.room.calls ∧ next.room.task? (.call number) = none ∧
      (Session.Next.ends result : Session.Next Remote).Told (next.dealings number) := by
  have coherent := truthful.coherent
  have acted := (step?_eq_some_iff.mp stepped).1
  by_cases moved : action.task? = some (.call number)
  · rcases told_of_moved truthful stepped moved with ⟨waiting, rfl, before, _unasked, room⟩ |
        ⟨moving, part, moves, enacted, told⟩
    · rw [room] at noted
      have gone := (truthful.concluded number result noted).2.1
      rw [before] at gone
      cases gone
    · obtain ⟨goesOn, _unasked, results⟩ := moves.call_enact
      rw [enacted] at goesOn results
      rcases results _ noted with old | ends
      · have gone := (truthful.concluded number result old).2.1
        rw [moves.found] at gone
        cases gone
      · rw [ends] at goesOn told
        refine ⟨?_, goesOn, told⟩
        rw [← enacted, Room.calls_enact]
        exact (coherent.calls number moving moves.found).1
  · obtain ⟨still, _asked, results⟩ := coherent.others acted moved
    obtain ⟨issued, gone, concluded⟩ := truthful.concluded number result ((results _).mp noted)
    refine ⟨?_, (still issued).trans gone, ?_⟩
    · rcases coherent.calls_step acted with same | ⟨_operation, _called, more⟩
      · rw [same]
        exact issued
      · rw [more]
        exact Nat.lt_succ_of_lt issued
    · rw [dealings_of_others stepped moved]
      exact concluded

theorem step : next.Truthful := by
  have coherent := truthful.coherent
  have acted := (step?_eq_some_iff.mp stepped).1
  refine ⟨coherent.step acted, ?_, ?_, ?_⟩
  · intro number task found
    exact shows_step truthful stepped found
  · intro number result noted
    exact concluded_step truthful stepped noted
  · intro number beyond
    have before : chronicle.room.calls ≤ number := by
      rcases coherent.calls_step acted with same | ⟨_operation, _called, more⟩ <;> omega
    rw [dealings_of_others stepped, truthful.fresh number before]
    intro moved
    obtain ⟨task, found⟩ := coherent.found_of_moved acted moved
    exact absurd (coherent.calls number task found).1 (Nat.not_lt.mpr before)

end Truthful

end Chronicle

end MeetingRoom
