import MeetingRoom.Viewport

/-!
Who hears of what. The signal is held against the history of its use alone: the class is that of the
last width, and a subscriber has something to hear exactly if a resize has changed the class since
it came and since it looked last. That the class may be back by now makes no difference, and a
resize within the class is as if it had not been.
-/

namespace MeetingRoom.Viewport

/-- What can be done with a signal. Subscribers are numbered in the order in which they come. -/
inductive Use where
  | resize (width : Nat)
  | subscribe
  /-- A subscriber reads the class, after being woken or on its own account. -/
  | look (subscriber : Nat)
  deriving DecidableEq

def Use.width? : Use → Option Nat
  | .resize width => some width
  | _ => none

def use (viewport : Viewport) : Use → Viewport
  | .resize width => viewport.resize width
  | .subscribe => viewport.subscribe
  | .look subscriber => viewport.look subscriber

def answer? (viewport : Viewport) : Use → Option Screen
  | .resize width => some (viewport.resize width).screen
  | .subscribe => none
  | .look subscriber => some (viewport.look subscriber).screen

def useAll (viewport : Viewport) (history : List Use) : Viewport := history.foldl use viewport

/-- The class of the last width in a history, or else of the width at the start. -/
def classAfter (initial : Option Nat) (history : List Use) : Screen :=
  (((history.filterMap (·.width?)).getLast?.or initial).map Screen.ofWidth).getD .desktop

/-- A resize has changed the class when a subscriber was there already, and it has not looked since. -/
def Missed (initial : Option Nat) (history : List Use) (subscriber : Nat) : Prop :=
  ∃ before width after, history = before ++ .resize width :: after ∧
    Screen.ofWidth width ≠ classAfter initial before ∧
    subscriber < before.count .subscribe ∧ .look subscriber ∉ after

/-! ### Histories -/

section Histories

variable {initial : Option Nat} {history : List Use}

theorem classAfter_append (use : Use) :
    classAfter initial (history ++ [use]) =
      (use.width?.map Screen.ofWidth).getD (classAfter initial history) := by
  rw [classAfter, List.filterMap_append, classAfter]
  cases use with
  | resize width =>
      rw [List.filterMap_cons_some (show (Use.resize width).width? = some width from rfl),
        List.getLast?_append]
      rfl
  | subscribe => rw [List.filterMap_cons_none rfl, List.filterMap_nil, List.append_nil]; rfl
  | look subscriber => rw [List.filterMap_cons_none rfl, List.filterMap_nil, List.append_nil]; rfl

/-- What a subscriber has missed after one more use: what it had missed before unless it looks now,
and a change that happens just now. -/
theorem missed_append {use : Use} {subscriber : Nat} :
    Missed initial (history ++ [use]) subscriber ↔
      Missed initial history subscriber ∧ use ≠ .look subscriber ∨
        ∃ width, use = .resize width ∧ Screen.ofWidth width ≠ classAfter initial history ∧
          subscriber < history.count .subscribe := by
  constructor
  · rintro ⟨before, width, after, split, changed, present, unseen⟩
    rcases List.eq_nil_or_concat after with rfl | ⟨earlier, last, rfl⟩
    · obtain ⟨rfl, same⟩ := List.append_inj' split rfl
      exact Or.inr ⟨width, (List.cons.inj same).1, changed, present⟩
    · rw [List.concat_eq_append, ← List.cons_append, ← List.append_assoc] at split
      rw [List.concat_eq_append, List.mem_append, List.mem_singleton, not_or] at unseen
      obtain ⟨rfl, same⟩ := List.append_inj' split rfl
      refine Or.inl ⟨⟨before, width, earlier, rfl, changed, present, unseen.1⟩, ?_⟩
      rw [(List.cons.inj same).1]
      exact Ne.symm unseen.2
  · rintro (⟨⟨before, width, after, rfl, changed, present, unseen⟩, other⟩ |
      ⟨width, rfl, changed, present⟩)
    · refine ⟨before, width, after ++ [use], by simp, changed, present, ?_⟩
      rw [List.mem_append, List.mem_singleton, not_or]
      exact ⟨unseen, Ne.symm other⟩
    · exact ⟨history, width, [], rfl, changed, present, List.not_mem_nil⟩

end Histories

/-! ### Uses -/

section Uses

variable {viewport : Viewport}

theorem resize_of_same {width : Nat} (same : viewport.screen = Screen.ofWidth width) :
    viewport.resize width = viewport := if_pos same

theorem screen_use (use : Use) :
    (viewport.use use).screen = (use.width?.map Screen.ofWidth).getD viewport.screen := by
  cases use with
  | resize width =>
      change (viewport.resize width).screen = Screen.ofWidth width
      unfold resize
      split
      · assumption
      · rfl
  | subscribe => rfl
  | look subscriber => rfl

theorem length_seen_use (use : Use) :
    (viewport.use use).seen.length = viewport.seen.length + [use].count .subscribe := by
  cases use with
  | resize width =>
      change (viewport.resize width).seen.length = _
      unfold resize
      split <;> rfl
  | subscribe => exact List.length_append
  | look subscriber => exact List.length_set

def Current (viewport : Viewport) : Prop := ∀ count ∈ viewport.seen, count ≤ viewport.moves

theorem Current.use (current : viewport.Current) (use : Use) : (viewport.use use).Current := by
  cases use with
  | resize width =>
      change (viewport.resize width).Current
      unfold resize
      split
      · exact current
      · intro count member
        exact Nat.le_succ_of_le (current count member)
  | subscribe =>
      intro count member
      rcases List.mem_append.mp member with old | new
      · exact current count old
      · exact Nat.le_of_eq (List.mem_singleton.mp new)
  | look subscriber =>
      intro count member
      rcases List.mem_or_eq_of_mem_set member with old | new
      · exact current count old
      · exact Nat.le_of_eq new

theorem hasNews_iff {subscriber : Nat} :
    viewport.hasNews subscriber = true ↔
      ∃ count, viewport.seen[subscriber]? = some count ∧ count ≠ viewport.moves := by
  unfold hasNews
  cases viewport.seen[subscriber]? with
  | none => simp
  | some count => simp

/-- A use takes the news from whoever looks, and a change of the class brings news to all. -/
theorem hasNews_use (current : viewport.Current) (use : Use) (subscriber : Nat) :
    (viewport.use use).hasNews subscriber = true ↔
      viewport.hasNews subscriber = true ∧ use ≠ .look subscriber ∨
        ∃ width, use = .resize width ∧ Screen.ofWidth width ≠ viewport.screen ∧
          subscriber < viewport.seen.length := by
  cases use with
  | resize width =>
      change (viewport.resize width).hasNews subscriber = true ↔ _
      by_cases same : viewport.screen = Screen.ofWidth width
      · rw [resize_of_same same]
        simp [same]
      · -- Everybody has seen fewer changes than there are now.
        have behind : (viewport.resize width).hasNews subscriber = true ↔
            subscriber < viewport.seen.length := by
          rw [resize, if_neg same, hasNews_iff]
          constructor
          · rintro ⟨count, found, _behind⟩
            exact (List.getElem?_eq_some_iff.mp found).1
          · intro present
            refine ⟨_, List.getElem?_eq_getElem present, ?_⟩
            exact Nat.ne_of_lt (Nat.lt_succ_of_le (current _ (List.getElem_mem present)))
        have before : viewport.hasNews subscriber = true → subscriber < viewport.seen.length := by
          intro news
          obtain ⟨count, found, _behind⟩ := hasNews_iff.mp news
          exact (List.getElem?_eq_some_iff.mp found).1
        rw [behind]
        constructor
        · intro present
          exact Or.inr ⟨width, rfl, Ne.symm same, present⟩
        · rintro (⟨news, _other⟩ | ⟨_width, _same, _changed, present⟩)
          · exact before news
          · exact present
  | subscribe =>
      change viewport.subscribe.hasNews subscriber = true ↔ _
      have old : viewport.subscribe.hasNews subscriber = viewport.hasNews subscriber := by
        unfold hasNews subscribe
        rcases Nat.lt_trichotomy subscriber viewport.seen.length with old | new | beyond
        · rw [List.getElem?_append_left old]
        · rw [new, List.getElem?_concat_length, List.getElem?_eq_none (Nat.le_refl _)]
          exact bne_self_eq_false _
        · rw [List.getElem?_eq_none (Nat.le_of_lt beyond), List.getElem?_eq_none]
          rw [List.length_append]
          exact beyond
      simp [old]
  | look looking =>
      change (viewport.look looking).hasNews subscriber = true ↔ _
      rw [hasNews_iff, hasNews_iff, look]
      by_cases same : looking = subscriber
      · subst same
        simp [List.getElem?_set_self']
      · simp [List.getElem?_set_ne same, same]

/-- The subscribers' news, one after the other. -/
theorem news_eq (viewport : Viewport) :
    viewport.news = (List.range viewport.seen.length).map viewport.hasNews := by
  apply List.ext_getElem?
  intro subscriber
  rw [news, List.getElem?_map, List.getElem?_map]
  by_cases present : subscriber < viewport.seen.length
  · rw [List.getElem?_range present, List.getElem?_eq_getElem present]
    simp [hasNews, List.getElem?_eq_getElem present]
  · rw [List.getElem?_eq_none (by simpa using present),
      List.getElem?_eq_none (by simpa using present)]
    rfl

end Uses

/-! ### Runs -/

structure Tells (initial : Option Nat) (history : List Use) (viewport : Viewport) : Prop where
  screen : viewport.screen = classAfter initial history
  subscribers : viewport.seen.length = history.count .subscribe
  current : viewport.Current
  news : ∀ subscriber, viewport.hasNews subscriber = true ↔ Missed initial history subscriber

namespace Tells

variable {initial : Option Nat} {history : List Use} {viewport : Viewport}

theorem start (initial : Option Nat) : Tells initial [] (start initial) := by
  refine ⟨?_, rfl, ?_, ?_⟩
  · rfl
  · intro count member
    cases member
  · intro subscriber
    refine iff_of_false (by simp [hasNews, Viewport.start]) ?_
    rintro ⟨before, width, after, split, _rest⟩
    cases before <;> cases split

theorem use (tells : Tells initial history viewport) (use : Use) :
    Tells initial (history ++ [use]) (viewport.use use) := by
  refine ⟨?_, ?_, tells.current.use use, ?_⟩
  · rw [screen_use, classAfter_append, tells.screen]
  · rw [length_seen_use, List.count_append, tells.subscribers]
  · intro subscriber
    rw [hasNews_use tells.current, missed_append, tells.news, tells.screen, tells.subscribers]

theorem useAll (tells : Tells initial history viewport) (more : List Use) :
    Tells initial (history ++ more) (viewport.useAll more) := by
  induction more generalizing history viewport with
  | nil =>
      rw [List.append_nil]
      exact tells
  | cons use rest ih =>
      have later := ih (tells.use use)
      rw [List.append_assoc] at later
      exact later

end Tells

/-- Whatever is done with a signal: it shows the class of the last width, or of the one at the start,
and gives it back to whoever resizes or looks; a subscriber has news exactly if a resize has changed
the class since it came and since it looked last; and a resize within the class leaves everything as
it is. -/
theorem news_exactly_of_class_changes (initial : Option Nat) (history : List Use) :
    ((start initial).useAll history).screen = classAfter initial history ∧
    (∀ width, ((start initial).useAll history).answer? (.resize width) =
      some (Screen.ofWidth width)) ∧
    (∀ subscriber, ((start initial).useAll history).answer? (.look subscriber) =
      some (classAfter initial history)) ∧
    ((start initial).useAll history).news =
      (List.range (history.count .subscribe)).map ((start initial).useAll history).hasNews ∧
    (∀ subscriber, ((start initial).useAll history).hasNews subscriber = true ↔
      Missed initial history subscriber) ∧
    ∀ width, Screen.ofWidth width = classAfter initial history →
      ((start initial).useAll history).resize width = (start initial).useAll history := by
  have tells := (Tells.start initial).useAll history
  rw [List.nil_append] at tells
  refine ⟨tells.screen, ?_, ?_, ?_, tells.news, ?_⟩
  · intro width
    exact congrArg some (screen_use (.resize width))
  · intro subscriber
    exact congrArg some tells.screen
  · rw [news_eq, tells.subscribers]
  · intro width same
    exact resize_of_same (tells.screen.trans same.symm)

/-- One subscriber is there all the time and never looks, the other one comes later and does. -/
def thereAndBack : List Use :=
  [.subscribe, .resize 800, .subscribe, .resize 1100, .look 1]

theorem heard_of_though_back_again :
    classAfter (some 1280) thereAndBack = Screen.ofWidth 1280 ∧
      ((start (some 1280)).useAll thereAndBack).hasNews 0 = true ∧
      ((start (some 1280)).useAll thereAndBack).hasNews 1 = false ∧
      ((start (some 1280)).useAll thereAndBack).resize 1024 =
        (start (some 1280)).useAll thereAndBack := by
  obtain ⟨_class, _resized, _looked, _all, news, within⟩ :=
    news_exactly_of_class_changes (some 1280) thereAndBack
  refine ⟨rfl, (news 0).mpr ?_, rfl, within 1024 rfl⟩
  exact ⟨[.subscribe], 800, _, rfl, by decide, by decide, by decide⟩

end MeetingRoom.Viewport
