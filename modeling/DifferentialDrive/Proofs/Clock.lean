import DifferentialDrive.Binary64.Scalar
import DifferentialDrive.Proofs.Arrival
import DifferentialDrive.Proofs.Binary64.Order
import DifferentialDrive.Proofs.Course

/-!
# Time goes forward

A robot is told the time by the arrival of its bytes, by ticks and by starts, and these need not
agree. It goes back to no instant that it has left: what a session passes through
(`Session.course`) is in order of time (`Robot.Precedes`). The journal says up to when the motion
has been followed (`Event.clockAfter`), so each slice begins where the one before it has ended, or
at the latest start since.
-/

namespace DifferentialDrive

open Wire Scalar

variable {α : Type}

/-! ## The clock in a history -/

namespace Event

/-- The instant of a start. -/
def start? : Event α → Option α
  | started now => some now
  | _ => none

/-- Where a slice of motion begins and ends. -/
def span? : Event α → Option (α × α)
  | moved first last .. => some (first, last)
  | _ => none

/-- The starts among some events. -/
def starts (events : List (Event α)) : List α := events.filterMap start?

@[simp] theorem starts_append (a b : List (Event α)) : starts (a ++ b) = starts a ++ starts b := by
  simp [starts]

@[simp] theorem starts_nil : starts ([] : List (Event α)) = [] := rfl

@[simp] theorem starts_cons (e : Event α) (rest : List (Event α)) :
    starts (e :: rest) = e.start?.toList ++ starts rest := by
  cases h : e.start? <;> simp [starts, h]

/-- Whether an event is neither a slice nor a start. -/
def timeless : Event α → Bool
  | moved .. | started _ => false
  | _ => true

theorem timeless_of_aside {e : Event α} (h : e.aside = true) : e.timeless = true := by
  cases e <;> first | rfl | cases h

theorem start?_of_timeless {e : Event α} (h : e.timeless = true) : e.start? = none := by
  cases e <;> first | rfl | cases h

theorem span?_of_timeless {e : Event α} (h : e.timeless = true) : e.span? = none := by
  cases e <;> first | rfl | cases h

variable [Scalar α]

/-- Where an event leaves a clock: at the end of a slice, or at a start that is later. -/
def clock (t : α) : Event α → α
  | moved _ last .. => last
  | started now => later now t
  | _ => t

/-- Where events leave a clock. -/
def clockAfter (t : α) (events : List (Event α)) : α := events.foldl clock t

theorem clock_of_timeless (t : α) {e : Event α} (h : e.timeless = true) : e.clock t = t := by
  cases e <;> first | rfl | cases h

@[simp] theorem clockAfter_nil (t : α) : clockAfter t [] = t := rfl

@[simp] theorem clockAfter_cons (t : α) (e : Event α) (rest : List (Event α)) :
    clockAfter t (e :: rest) = clockAfter (e.clock t) rest := rfl

@[simp] theorem clockAfter_append (t : α) (a b : List (Event α)) :
    clockAfter t (a ++ b) = clockAfter (clockAfter t a) b := by
  simp [clockAfter]

/-- Whether every slice begins where the events before it leave the clock. -/
def Seamless : α → List (Event α) → Prop
  | _, [] => True
  | t, e :: rest => (∀ s ∈ e.span?, s.1 = t) ∧ Seamless (e.clock t) rest

theorem seamless_append (t : α) (a b : List (Event α)) :
    Seamless t (a ++ b) ↔ Seamless t a ∧ Seamless (clockAfter t a) b := by
  induction a generalizing t with
  | nil => simp [Seamless]
  | cons e a ih => simp [Seamless, ih, and_assoc]

/-- Without a slice a clock is left at the latest of the starts. -/
theorem clockAfter_eq_latest (t : α) (events : List (Event α))
    (still : ∀ e ∈ events, e.isSlice = false) :
    clockAfter t events = latest t (starts events) := by
  induction events generalizing t with
  | nil => rfl
  | cons e rest ih =>
    rw [clockAfter_cons, ih (e.clock t) fun e he => still e (by simp [he])]
    cases e with
    | moved => simp [isSlice] at still
    | _ => rfl

/-- A clock is never left earlier than it was, nor at anything but a number. -/
theorem le_clockAfter [Ordered α] {t : α} {events : List (Event α)} (number : isNaN t = false)
    (seamless : Seamless t events)
    (spans : ∀ e ∈ events, ∀ s ∈ e.span?, s.1 ≤ s.2 ∧ isNaN s.2 = false)
    (starts : ∀ e ∈ events, ∀ s ∈ e.start?, isNaN s = false) :
    t ≤ clockAfter t events ∧ isNaN (clockAfter t events) = false := by
  induction events generalizing t with
  | nil => exact ⟨le_self number, number⟩
  | cons e rest ih =>
    obtain ⟨begins, seamless⟩ := seamless
    have span := spans e (by simp)
    have start := starts e (by simp)
    have step : t ≤ e.clock t ∧ isNaN (e.clock t) = false := by
      cases e with
      | moved first last =>
        obtain rfl : first = t := begins _ rfl
        exact span _ rfl
      | started now =>
        have numeric := start now rfl
        exact ⟨(le_later numeric number).2, isNaN_later numeric number⟩
      | _ => exact ⟨le_self number, number⟩
    obtain ⟨after, numeric⟩ := ih step.2 seamless (fun e he => spans e (by simp [he]))
      fun e he => starts e (by simp [he])
    exact ⟨Ordered.le_trans step.1 after, numeric⟩

/-- Where a slice begins that follows the given events, of a robot that was built at an instant. -/
structure BeginsAfter (start : α) (before : List (Event α)) (first : α) : Prop where
  /-- The first slice begins at the latest of that instant and the starts. -/
  initial : (∀ e ∈ before, e.isSlice = false) → first = latest start (starts before)
  /-- Any other begins where the last one has ended, or at the latest start since. -/
  next : ∀ a first' last' units point counts b,
    before = a ++ moved first' last' units point counts :: b → (∀ e ∈ b, e.isSlice = false) →
      first = latest last' (starts b)
  /-- No instant of an earlier slice is gone through again. -/
  ended : ∀ first' last' units point counts, moved first' last' units point counts ∈ before →
    last' ≤ first
  /-- Nothing before a start is gone through. -/
  started : ∀ t ∈ starts before, t ≤ first

theorem BeginsAfter.of_seamless [Ordered α] {start first : α} {before : List (Event α)}
    (number : isNaN start = false) (seamless : Seamless start before)
    (spans : ∀ e ∈ before, ∀ s ∈ e.span?, s.1 ≤ s.2 ∧ isNaN s.2 = false)
    (numbers : ∀ t ∈ starts before, isNaN t = false) (here : first = clockAfter start before) :
    BeginsAfter start before first := by
  have numbers' : ∀ e ∈ before, ∀ s ∈ e.start?, isNaN s = false := fun e he s hs =>
    numbers s (List.mem_filterMap.2 ⟨e, he, hs⟩)
  -- What follows an event leaves the clock no earlier than the event does.
  have beyond {a b : List (Event α)} {e : Event α} (split : before = a ++ e :: b) :
      e.clock (clockAfter start a) ≤ first ∧ isNaN (clockAfter start a) = false := by
    subst split
    obtain ⟨upto, behind⟩ := (seamless_append start (a ++ [e]) b).1 (by simpa using seamless)
    obtain ⟨front, -⟩ := (seamless_append start a [e]).1 upto
    obtain ⟨-, number'⟩ := le_clockAfter number front (fun e he => spans e (by simp [he]))
      fun e he => numbers' e (by simp [he])
    obtain ⟨-, reached⟩ := le_clockAfter number upto (fun e he => spans e (by simp at he ⊢; tauto))
      fun e he => numbers' e (by simp at he ⊢; tauto)
    obtain ⟨onward, -⟩ := le_clockAfter reached behind (fun e he => spans e (by simp [he]))
      fun e he => numbers' e (by simp [he])
    exact ⟨by simpa [here] using onward, number'⟩
  constructor
  · intro still
    rw [here, clockAfter_eq_latest _ _ still]
  · rintro a first' last' units point counts b rfl still
    rw [here, clockAfter_append, clockAfter_cons, clockAfter_eq_latest _ _ still]
    rfl
  · intro first' last' units point counts inside
    obtain ⟨a, b, split⟩ := List.append_of_mem inside
    exact (beyond split).1
  · intro t inside
    obtain ⟨e, he, hs⟩ := List.mem_filterMap.1 inside
    obtain ⟨a, b, split⟩ := List.append_of_mem he
    obtain ⟨onward, number⟩ := beyond split
    cases e with
    | started now =>
      obtain rfl : now = t := by simpa [start?] using hs
      exact Ordered.le_trans (le_later (numbers now inside) number).1 onward
    | _ => simp [start?] at hs

end Event

namespace Robot

variable [Scalar α]

/-- The motion of a robot that was built at an instant has been followed up to where its journal
says, in slices without a gap. -/
def FollowedFrom (start : α) (r : Robot α) : Prop :=
  r.lastStep = Event.clockAfter start r.journal.toList ∧ Event.Seamless start r.journal.toList

theorem FollowedFrom.note {start : α} {r : Robot α} (h : FollowedFrom start r) {e : Event α}
    (timeless : e.timeless = true) : FollowedFrom start (r.note e) := by
  obtain ⟨reached, seamless⟩ := h
  have still := Event.clock_of_timeless (Event.clockAfter start r.journal.toList) timeless
  constructor
  · simpa [still] using! reached
  · simp [Event.seamless_append, Event.Seamless, Event.span?_of_timeless timeless, seamless]

theorem followedFrom_step {start : α} (r s : Robot α) (step : Step r s)
    (h : FollowedFrom start r) : FollowedFrom start s := by
  cases step with
  | work step =>
    cases step with
    | stray | unknown | halt => exact h.note rfl
    | settle stop counts =>
      obtain ⟨reached, seamless⟩ := h
      simp [FollowedFrom, settle, slice, Event.seamless_append, Event.Seamless, Event.clock,
        Event.span?, seamless, reached]
    | @execute s now c rest found executed =>
      have effect := execute_effect executed
      have kept : FollowedFrom start s := by
        obtain same | ⟨e, aside, same⟩ := effect.journal
        · exact ⟨effect.lastStep.trans (same ▸ h.1), same ▸ h.2⟩
        · obtain ⟨reached, seamless⟩ := h.note (Event.timeless_of_aside aside)
          exact ⟨effect.lastStep.trans (same ▸ reached), same ▸ seamless⟩
      exact kept.note (e := .executed c r.commandTime) rfl
    | follow | arrive => exact h
  | remark e aside => exact h.note (Event.timeless_of_aside aside)
  | resume now =>
    obtain ⟨reached, seamless⟩ := h
    simp [FollowedFrom, Robot.note, Event.seamless_append, Event.Seamless, Event.clock,
      Event.span?, seamless, reached]
  | receive | clear | drain | poke => exact h

end Robot

/-! ## The clocks of a robot -/

/-- A command that is taken has the time of one of its bytes. -/
theorem Wire.Frame.stamp_of_ready [Scalar α] {now stamp : α} {q rest : List (Stamped α)}
    {c : Command} (h : next now q = .ready c stamp rest) :
    ∃ b ∈ q, b.stamp = stamp := by
  obtain ⟨p, due, rfl, command⟩ := next_portion (by rw [h]; rfl)
  obtain ⟨-, last⟩ := due.written c stamp (by rw [command, h]; rfl)
  obtain ⟨b, ends, same⟩ := Option.map_eq_some_iff.1 last
  exact ⟨b, List.mem_append_left _ (List.mem_of_getLast? ends), same⟩

namespace Robot

variable [Scalar α]

/-- The clocks of a robot are numbers, and none is ahead of the motion. -/
structure Timely (r : Robot α) : Prop where
  lastStep_number : isNaN r.lastStep = false
  commandTime_number : isNaN r.commandTime = false
  lastCommand_number : isNaN r.registers.lastCommand = false
  commandTime_le : r.commandTime ≤ r.lastStep
  lastCommand_le : r.registers.lastCommand ≤ r.lastStep

/-- A robot comes after another, and its clocks have not gone back. -/
structure Precedes (r s : Robot α) : Prop where
  timely : s.Timely
  lastStep : r.lastStep ≤ s.lastStep
  lastCommand : r.registers.lastCommand ≤ s.registers.lastCommand

variable [Ordered α] {r s t : Robot α} {now limit stamp : α}

theorem Precedes.trans (h : r.Precedes s) (h' : s.Precedes t) : r.Precedes t where
  timely := h'.timely
  lastStep := Ordered.le_trans h.lastStep h'.lastStep
  lastCommand := Ordered.le_trans h.lastCommand h'.lastCommand

instance : Trans (Precedes (α := α)) Precedes Precedes := ⟨Precedes.trans⟩

/-- What touches no clock. -/
theorem Timely.precedes (h : r.Timely) (lastStep : s.lastStep = r.lastStep)
    (commandTime : s.commandTime = r.commandTime)
    (lastCommand : s.registers.lastCommand = r.registers.lastCommand) : r.Precedes s := by
  obtain ⟨number, number', number'', le, le'⟩ := h
  constructor
  · constructor <;> simpa [lastStep, commandTime, lastCommand]
  · rw [lastStep]
    exact le_self number
  · rw [lastCommand]
    exact le_self number''

/-- What sets the motion on to an instant, if it is later. -/
theorem Timely.precedes_later (h : r.Timely) (number : isNaN limit = false)
    (lastStep : s.lastStep = later limit r.lastStep) (commandTime : s.commandTime = r.commandTime)
    (lastCommand : s.registers.lastCommand = r.registers.lastCommand) : r.Precedes s := by
  obtain ⟨number₀, number₁, number₂, le₁, le₂⟩ := h
  have forward : r.lastStep ≤ s.lastStep := by
    rw [lastStep]
    exact (le_later number number₀).2
  refine ⟨⟨?_, ?_, ?_, ?_, ?_⟩, forward, ?_⟩
  · rw [lastStep]
    exact isNaN_later number number₀
  · rwa [commandTime]
  · rwa [lastCommand]
  · rw [commandTime]
    exact Ordered.le_trans le₁ forward
  · rw [lastCommand]
    exact Ordered.le_trans le₂ forward
  · rw [lastCommand]
    exact le_self number₂

theorem timely_initial (chassis : Chassis α) (factor start : α) (timeout : Bool)
    (number : isNaN start = false) : (initial chassis factor start timeout).Timely :=
  ⟨number, number, number, le_self number, le_self number⟩

/-- A move goes forward, whether or not it is refused. -/
theorem precedes_advance (h : r.Timely) (number : isNaN limit = false) :
    r.Precedes (r.advance limit).state := by
  have watched {w : Robot α} (hw : r.watch = .ok w) : r.Precedes w := by
    obtain ⟨-, rfl⟩ | ⟨-, rfl⟩ := watch_cases hw <;> exact h.precedes rfl rfl rfl
  have slice := advance_slice r limit
  generalize r.advance limit = o at slice ⊢
  cases slice with
  | unwatched => exact h.precedes rfl rfl rfl
  | unmoved hw => exact watched hw
  | uncounted hw => exact (watched hw).trans ((watched hw).timely.precedes rfl rfl rfl)
  | @settled w t counts hw =>
    have before := watched hw
    have forward : w.Precedes (({ w with track := w.follow t } : Robot α).settle
        (later limit r.lastStep) counts) :=
      before.timely.precedes_later number (by rw [lastStep_watch hw]; rfl) rfl rfl
    exact before.trans forward

/-- A command has the watch count from the command's time, which is not ahead. -/
theorem precedes_execute {c : Command} (h : r.Timely) (executed : r.execute c = ⟨s, .ok ()⟩) :
    r.Precedes s := by
  have effect := execute_effect executed
  by_cases writes : c.writesSpeed = true
  · obtain ⟨number₀, number₁, number₂, le₁, le₂⟩ := h
    have written : s.registers.lastCommand = later r.commandTime r.registers.lastCommand := by
      simp [effect.registers, Registers.lastCommand_apply, writes]
    refine ⟨⟨?_, ?_, ?_, ?_, ?_⟩, ?_, ?_⟩
    · rwa [effect.lastStep]
    · rwa [effect.commandTime]
    · rw [written]
      exact isNaN_later number₁ number₂
    · rwa [effect.commandTime, effect.lastStep]
    · rw [written, effect.lastStep]
      obtain same | same := later_eq_or r.commandTime r.registers.lastCommand <;> rwa [same]
    · rw [effect.lastStep]
      exact le_self number₀
    · rw [written]
      exact (le_later number₁ number₂).2
  · exact h.precedes effect.lastStep effect.commandTime
      (by simp [effect.registers, Registers.lastCommand_apply, writes])

/-- A command is executed no earlier than the motion up to it ends. -/
theorem precedes_perform (h : r.Timely) (number : isNaN stamp = false) (c : Command) :
    (r.advance stamp).state.Precedes (r.perform c stamp).state := by
  have moved := precedes_advance h number
  unfold perform
  split
  · next a f stuck =>
    rw [stuck] at moved ⊢
    exact moved.timely.precedes rfl rfl rfl
  · next a done =>
    have reached : stamp ≤ a.lastStep := by
      rw [(moved_of_advance done).lastStep]
      exact (le_later number h.lastStep_number).1
    rw [done] at moved ⊢
    obtain ⟨number₁, -, number₂, -, le⟩ := moved.timely
    have arrived : a.Precedes { a with commandTime := stamp } :=
      ⟨⟨number₁, number, number₂, reached, le⟩, le_self number₁, le_self number₂⟩
    split
    · next s f executed =>
      obtain rfl := execute_refused executed
      exact arrived
    · next s executed =>
      have obeyed := precedes_execute arrived.timely executed
      exact (arrived.trans obeyed).trans (obeyed.timely.precedes rfl rfl rfl)

end Robot

/-! ## What a session passes through -/

/-- A slice that is noted is that between the ends of its leg. -/
theorem Leg.ends_of_slice? [Scalar α] {l : Leg α} {first last : α} {units counts : Int × Int}
    {point : α × α} (h : l.slice? = some (.moved first last units point counts)) :
    first = l.robot.lastStep ∧ last = l.arrived.lastStep := by
  obtain ⟨begins, ends, -⟩ := l.of_slice? h
  refine ⟨begins, ?_⟩
  unfold slice? at h
  split at h
  · next moved => rw [ends, arrived, moved, (Robot.moved_of_advance moved).lastStep]
  · cases h

namespace Robot

variable [Scalar α] [Ordered α] {r s : Robot α} {now : α}

/-- A frame that is taken, or a command that is refused, goes forward. -/
theorem precedes_takeFrame (h : r.Timely) (stamps : ∀ b ∈ r.queue, isNaN b.stamp = false)
    {taken : Except (Fault α) Bool} (done : r.takeFrame now = ⟨s, taken⟩)
    (other : taken ≠ .ok false) :
    (r :: (r.leg? now).toList.flatMap Leg.ends ++ [s]).IsChain Precedes := by
  unfold takeFrame at done
  unfold leg?
  split at done
  · simp_all
  · next found =>
    obtain ⟨rfl, -⟩ := by simpa using done
    rw [found]
    exact List.isChain_pair.2 (h.precedes rfl rfl rfl)
  · next found =>
    obtain ⟨rfl, -⟩ := by simpa using done
    rw [found]
    exact List.isChain_pair.2 (h.precedes rfl rfl rfl)
  · next c stamp rest found =>
    obtain ⟨b, inside, rfl⟩ := Frame.stamp_of_ready found
    have moved := precedes_advance h (stamps b inside)
    have performed := precedes_perform h (stamps b inside) c
    have still : r.Precedes r := h.precedes rfl rfl rfl
    have ends : (r.perform c b.stamp).state.Precedes s := by
      split at done
      all_goals
        next same =>
        obtain ⟨rfl, -⟩ := by simpa using done
        rw [same] at performed ⊢
        exact performed.timely.precedes rfl rfl rfl
    simpa [found, Leg.ends] using ⟨still, moved, performed.trans ends⟩

/-- A run goes forward from the beginning of its first leg to its end. -/
theorem precedes_run (h : r.Timely) (number : isNaN now = false)
    (stamps : ∀ b ∈ r.queue, isNaN b.stamp = false) :
    (r :: (r.legs now).flatMap Leg.ends ++ [(r.run now).state]).IsChain Precedes := by
  fun_induction run r now with
  | case1 r s taken ih =>
    have first := precedes_takeFrame h stamps taken (by simp)
    have timely : s.Timely := ((List.pairwise_cons.1 first.pairwise).1 s (by simp)).timely
    obtain ⟨portions, took⟩ := takeFrame_took r now
    have left : ∀ b ∈ s.queue, isNaN b.stamp = false := by
      intro b hb
      refine stamps b ?_
      rw [took.queue, taken]
      exact List.mem_append_right _ hb
    have both := List.isChain_split.2 ⟨first, ih timely left⟩
    rw [legs_of_taken taken, List.flatMap_append]
    exact both.sublist (by simp)
  | case2 r s taken =>
    obtain ⟨rfl, idle⟩ := leg?_of_idle taken
    have last : s.legs now = [⟨s, now, none⟩] := by
      rw [legs_of_not_taken taken (by simp), idle, Option.toList_some]
    simpa [last, Leg.ends, Leg.arrived] using
      ⟨h.precedes rfl rfl rfl, precedes_advance h number,
        (precedes_advance h number).timely.precedes rfl rfl rfl⟩
  | case3 r s f taken =>
    rw [legs_of_not_taken taken (by simp)]
    exact precedes_takeFrame h stamps taken (by simp)

end Robot

namespace Session

variable [Scalar α]

/-- The instant of a start. -/
def Action.start? : Action α → Option α
  | start now => some now
  | _ => none

/-- The instant of a start or a tick. -/
def Action.instant? : Action α → Option α
  | start now | tick now => some now
  | _ => none

omit [Scalar α] in
theorem Action.instant?_of_start? {a : Action α} {t : α} (h : t ∈ a.start?) : t ∈ a.instant? := by
  cases a <;> first | exact h | cases h

/-- The robot itself notes no start. -/
theorem starts_work (r s : Robot α) (work : Robot.Work r s) :
    Event.starts s.journal.toList = Event.starts r.journal.toList := by
  cases work with
  | @execute s now c rest found executed =>
    obtain same | ⟨e, aside, same⟩ := (Robot.execute_effect executed).journal
    · simp [same, Event.start?]
    · have silent := Event.start?_of_timeless (Event.timeless_of_aside aside)
      simp [same, silent]
      rfl
  | _ => simp [Event.start?, Robot.slice]

theorem starts_perform (s : Session α) (a : Action α) :
    Event.starts (s.perform a).state.sim.robot.journal.toList =
      Event.starts s.sim.robot.journal.toList ++ a.start?.toList := by
  have touched (touches : a.touches = true) (none : a.start? = none) :
      Event.starts (s.perform a).state.sim.robot.journal.toList =
        Event.starts s.sim.robot.journal.toList ++ a.start?.toList := by
    rw [none, (s.touches_perform a touches).journal_eq (fun j => Event.starts j.toList)
      fun _ _ aside => by simp [Event.start?_of_timeless (Event.timeless_of_aside aside)]]
    simp
  cases a with
  | start now => simp [perform, Simulation.start, Event.start?, Action.start?]
  | tick now =>
    have worked := kept_of_chain (P := fun r => Event.starts r.journal.toList = _)
      (fun r t work before => (starts_work r t work).trans before)
      (Robot.works_run s.sim.robot now) rfl
    simp only [perform, Simulation.tick]
    split
    · simpa [Action.start?] using worked
    · simp [Action.start?]
  | poke => simp [perform, poke, Action.start?]
  | _ => exact touched rfl rfl

/-- The starts in the journal are those of the session. -/
theorem starts_after (s : Session α) (actions : List (Action α)) :
    Event.starts (s.after actions).sim.robot.journal.toList =
      Event.starts s.sim.robot.journal.toList ++ actions.filterMap Action.start? := by
  induction actions generalizing s with
  | nil => simp [after]
  | cons a rest ih =>
    have others := ih (s.perform a).state
    rw [starts_perform] at others
    cases start : a.start? <;> simpa [after, start] using others

variable [Ordered α]

/-- An action goes forward, from the beginning of its first leg. -/
theorem precedes_action {s : Session α} {a : Action α} (h : s.sim.robot.Timely)
    (number : ∀ t ∈ a.instant?, isNaN t = false)
    (stamps : ∀ b ∈ s.sim.robot.queue, isNaN b.stamp = false) :
    (s.sim.robot :: (s.legsOf a).flatMap Leg.ends ++ [(s.perform a).state.sim.robot]).IsChain
      Robot.Precedes := by
  have alone (moves : s.legsOf a = []) (goes : s.sim.robot.Precedes
      (s.perform a).state.sim.robot) : (s.sim.robot :: (s.legsOf a).flatMap Leg.ends ++
        [(s.perform a).state.sim.robot]).IsChain Robot.Precedes := by
    rw [moves]
    exact List.isChain_pair.2 goes
  have touched (touches : a.touches = true) :
      s.sim.robot.Precedes (s.perform a).state.sim.robot := by
    obtain ⟨registers, -, lastStep, commandTime⟩ := (s.touches_perform a touches).same
    exact h.precedes lastStep commandTime (congrArg Registers.lastCommand registers)
  cases a with
  | start now => exact alone rfl (h.precedes_later (number now rfl) rfl rfl rfl)
  | tick now =>
    simp only [legsOf, perform, Simulation.tick]
    split
    · exact Robot.precedes_run h (number now rfl) stamps
    · exact List.isChain_pair.2 (h.precedes rfl rfl rfl)
  | poke => exact alone rfl (h.precedes rfl rfl rfl)
  | _ => exact alone rfl (touched rfl)

theorem precedes_course {s : Session α} {actions : List (Action α)} (h : s.sim.robot.Timely)
    (instants : ∀ a ∈ actions, ∀ t ∈ a.instant?, isNaN t = false)
    (stamps : ∀ done, done <+: actions →
      ∀ b ∈ (s.after done).sim.robot.queue, isNaN b.stamp = false) :
    (s.course actions).IsChain Robot.Precedes := by
  induction actions generalizing s with
  | nil => exact List.isChain_singleton _
  | cons a rest ih =>
    have first := precedes_action h (instants a (by simp)) (stamps [] List.nil_prefix)
    have timely : (s.perform a).state.sim.robot.Timely :=
      ((List.pairwise_cons.1 first.pairwise).1 _ (by simp)).timely
    have others := ih timely (fun b hb => instants b (by simp [hb]))
      fun done before => stamps (a :: done) (List.cons_prefix_cons.2 ⟨rfl, before⟩)
    simpa [course, passed] using List.isChain_split.2 ⟨first, others⟩

end Session

/-- In every session on a fresh simulation in which all instants that it is told are numbers, and
whether or not anything is refused, the motion and the watch never go back, and neither the last
command nor the watch is ahead of the motion. The slices are those of the legs, all of which are
noted if nothing is refused. Each ends no earlier than it begins, and it begins where the one before
has ended, or at the latest start since if that is later. -/
theorem Session.time_goes_forward [Scalar α] [Ordered α] (chassis : Chassis α) (arena : Arena α)
    (factor start : α) (timeout : Bool) (client : Timeline α) (keys : Keyboard)
    (world : World) (line : Bool) (socket : Option Socket) (actions : List (Session.Action α))
    (number : isNaN start = false)
    (instants : ∀ a ∈ actions, ∀ t ∈ a.instant?, isNaN t = false) :
    let fresh : Session α :=
      ⟨⟨.initial chassis arena factor start timeout, world, line, socket⟩, client, keys⟩
    let final := (fresh.after actions).sim.robot
    (∀ done, done <+: actions → ∀ b ∈ (fresh.after done).sim.robot.queue, isNaN b.stamp = false) →
    (fresh.course actions).Pairwise (fun r s => r.lastStep ≤ s.lastStep ∧
      r.registers.lastCommand ≤ s.registers.lastCommand) ∧
    (∀ r ∈ fresh.course actions,
      r.commandTime ≤ r.lastStep ∧ r.registers.lastCommand ≤ r.lastStep) ∧
    final.journal.slices = (fresh.legs actions).filterMap Leg.slice? ∧
    ((∀ o ∈ fresh.outcomes actions, o.result.isOk = true) →
      ∀ l ∈ fresh.legs actions, l.slice?.isSome = true) ∧
    Event.starts final.journal.toList = actions.filterMap Action.start? ∧
    ∀ before first last units point counts behind,
      final.journal.toList = before ++ .moved first last units point counts :: behind →
      first ≤ last ∧ Event.BeginsAfter start before first := by
  intro fresh final stamps
  have timely : fresh.sim.robot.Timely := Robot.timely_initial chassis factor start timeout number
  have course := precedes_course timely instants stamps
  have slices : final.journal.slices = (fresh.legs actions).filterMap Leg.slice? := by
    simpa using! fresh.slices_after actions
  have starts : Event.starts final.journal.toList = actions.filterMap Action.start? := by
    simpa using! fresh.starts_after actions
  refine ⟨course.pairwise.imp fun h => ⟨h.lastStep, h.lastCommand⟩, ?_, slices, ?_, starts, ?_⟩
  · intro r hr
    have here : r.Timely := by
      obtain rfl | later := List.mem_cons.1 hr
      · exact timely
      · exact ((List.pairwise_cons.1 course.pairwise).1 r later).timely
    exact ⟨here.commandTime_le, here.lastCommand_le⟩
  · intro fair l hl
    obtain ⟨units, point, counts, -, noted⟩ := Robot.slice?_of_ok (legs_moved fair l hl)
    simp [noted]
  · intro before first last units point counts behind split
    have seamless : Robot.FollowedFrom start final :=
      kept_of_chain Robot.followedFrom_step (fresh.steps_after actions) ⟨rfl, trivial⟩
    have spans : ∀ e ∈ final.journal.toList, ∀ s ∈ e.span?, s.1 ≤ s.2 ∧ isNaN s.2 = false := by
      intro e he s hs
      cases e with
      | moved first last units point counts =>
        obtain rfl : (first, last) = s := by simpa [Event.span?] using hs
        have inside : .moved first last units point counts ∈ final.journal.slices :=
          List.mem_filter.2 ⟨he, rfl⟩
        rw [slices] at inside
        obtain ⟨l, hl, noted⟩ := List.mem_filterMap.1 inside
        obtain ⟨rfl, rfl⟩ := Leg.ends_of_slice? noted
        have within := (sublist_passed hl).trans (List.sublist_cons_self fresh.sim.robot _)
        have ends := course.pairwise.sublist within
        have forward : l.robot.Precedes l.arrived := List.pairwise_pair.1 ends
        exact ⟨forward.lastStep, forward.timely.lastStep_number⟩
      | _ => simp [Event.span?] at hs
    have numbers : ∀ t ∈ Event.starts final.journal.toList, isNaN t = false := by
      intro t ht
      rw [starts] at ht
      obtain ⟨a, ha, same⟩ := List.mem_filterMap.1 ht
      exact instants a ha t (Action.instant?_of_start? same)
    obtain ⟨-, whole⟩ := seamless
    rw [split] at whole spans numbers
    have ends := spans (.moved first last units point counts) (by simp) _ rfl
    obtain ⟨front, begins, -⟩ := (Event.seamless_append start before _).1 whole
    refine ⟨ends.1, Event.BeginsAfter.of_seamless number front
      (fun e he => spans e (by simp [he])) (fun t ht => numbers t (by simp [ht])) ?_⟩
    exact begins _ rfl

/-- A speed that comes with a time before the start, a tick back in time, and two starts after a
stop, of which the second is earlier. -/
def Session.restarted : List (Session.Action Float) :=
  [.start (ofInt 5), .push [0, 0x31, 200] (ofInt 2), .tick (ofInt 10), .tick (ofInt 7), .stop,
    .start (ofInt 12), .start (ofInt 11), .push [0, 0x32, 200] (ofInt 11), .tick (ofInt 15)]

/-- The motion is followed from 5 to 10 and from 12 to 15, once each. -/
theorem Session.time_goes_forward_restarted :
    let final := (Session.standard.after restarted).sim.robot
    (Session.standard.course restarted).Pairwise (fun r s => r.lastStep ≤ s.lastStep ∧
      r.registers.lastCommand ≤ s.registers.lastCommand) ∧
    (∀ before first last units point counts behind,
      final.journal.toList = before ++ .moved first last units point counts :: behind →
      first ≤ last ∧ Event.BeginsAfter zero before first) ∧
    (final.journal.toList.filterMap Event.span?).map (fun s => (truncate s.1, truncate s.2)) =
      [(5, 5), (5, 10), (10, 10), (12, 12), (12, 15)] := by
  intro final
  have instants : ∀ a ∈ restarted, ∀ t ∈ a.instant?, isNaN t = false := by decide +kernel
  have stamps : ∀ done ∈ restarted.inits, ∀ b ∈ (Session.standard.after done).sim.robot.queue,
      isNaN b.stamp = false := by
    decide +kernel
  obtain ⟨forward, -, -, -, -, slices⟩ := time_goes_forward .standard .standard (ofInt 1) zero true
    ⟨.standard, zero, ofInt 1, {}⟩ {} { machine := .looped } false none restarted
    (by decide +kernel) instants
    fun done before => stamps done ((List.mem_inits _ _).2 before)
  exact ⟨forward, slices, by decide +kernel⟩

end DifferentialDrive
