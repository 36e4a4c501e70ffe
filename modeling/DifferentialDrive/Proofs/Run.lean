import DifferentialDrive.Proofs.Frames
import DifferentialDrive.Robot
import Mathlib.Logic.Relation

/-!
# What a run does

Everything a robot does between two looks at it is a chain of small steps. `advance_slice` and
`execute_effect` say what one slice of motion and one command can do, `works_run` that a run is a
chain of such steps whether or not it is refused, and `run_ran` that one which is not refused
takes every frame in turn and then moves. Histories are read off the journal; most events leave
them as they were (`Event.aside`).
-/

namespace DifferentialDrive

open Wire Scalar

variable {α : Type}

/-- What follows an operation that may be refused is done only if it was not. -/
theorem ok_of_bind {ε β γ : Type} {x : Except ε β} {f : β → Except ε γ} {c : γ}
    (h : (x >>= f) = .ok c) : ∃ b, x = .ok b ∧ f b = .ok c := by
  cases x with
  | error e => cases h
  | ok b => exact ⟨b, rfl, h⟩

/-- What every step keeps, a chain of steps keeps. -/
theorem kept_of_chain {σ : Type} {Step : σ → σ → Prop} {P : σ → Prop}
    (kept : ∀ r s, Step r s → P r → P s) {r s : σ} (h : Relation.ReflTransGen Step r s)
    (first : P r) : P s := by
  induction h with
  | refl => exact first
  | tail _ last ih => exact kept _ _ last ih

/-! ## The journal as a history -/

/-- Whether an event leaves the commands, the motion and the bytes as they were. -/
def Event.aside : Event α → Bool
  | strayByte _ | unknownOpcode _ | executed .. | timedOut .. | moved .. | started _ => false
  | _ => true

/-- Whether an event says that a byte was dropped. -/
def Event.drops : Event α → Bool
  | strayByte _ | unknownOpcode _ => true
  | _ => false

namespace Journal

/-- The commands executed, in order, each with its arrival time. -/
def executed (j : Journal α) : List (Command × α) := j.toList.filterMap Event.command?

/-- The bytes dropped, in order. -/
def dropped (j : Journal α) : List (Event α) := j.toList.filter Event.drops

@[simp] theorem executed_push (j : Journal α) (e : Event α) :
    executed (j.push e) = j.executed ++ e.command?.toList := by
  cases h : e.command? <;> simp [executed, h]

@[simp] theorem dropped_push (j : Journal α) (e : Event α) :
    dropped (j.push e) = j.dropped ++ if e.drops then [e] else [] := by
  cases h : e.drops <;> simp [dropped, h]

end Journal

theorem Event.command?_of_aside {e : Event α} (h : e.aside = true) : e.command? = none := by
  cases e <;> simp_all [Event.aside, Event.command?]

theorem Event.drops_of_aside {e : Event α} (h : e.aside = true) : e.drops = false := by
  cases e <;> simp_all [Event.aside, Event.drops]

namespace Robot

@[simp] theorem registers_note (r : Robot α) (e : Event α) :
    (r.note e).registers = r.registers := rfl

@[simp] theorem queue_note (r : Robot α) (e : Event α) : (r.note e).queue = r.queue := rfl

@[simp] theorem journal_note (r : Robot α) (e : Event α) :
    (r.note e).journal = r.journal.push e := rfl

/-- The slice that a robot has gone through, as it is noted. -/
def slice (r : Robot α) (stop : α) (counts : Int × Int) : Event α :=
  .moved r.lastStep stop r.registers.units (r.track.pose.x, r.track.pose.y) counts

/-- The robot at the end of a slice, with the counts of its wheels. -/
def settle (r : Robot α) (stop : α) (counts : Int × Int) : Robot α :=
  { r.note (r.slice stop counts) with
    registers := r.registers.addCounts counts.1 counts.2
    lastStep := stop }

@[simp] theorem registers_settle (r : Robot α) (stop : α) (counts : Int × Int) :
    (r.settle stop counts).registers = r.registers.addCounts counts.1 counts.2 := rfl

@[simp] theorem journal_settle (r : Robot α) (stop : α) (counts : Int × Int) :
    (r.settle stop counts).journal = r.journal.push (r.slice stop counts) := rfl

end Robot

/-- What a slice of motion can do to the registers: the watch may stop the motors, and then the
counts are added. -/
def Registers.Drift (r s : Registers α) : Prop :=
  ∃ a b, s = r.addCounts a b ∨ s = r.forceStop.addCounts a b

theorem Registers.Drift.mode {r s : Registers α} (h : r.Drift s) : s.mode = r.mode := by
  obtain ⟨a, b, rfl | rfl⟩ := h <;> rfl

variable [Scalar α]

/-! ## What is written to the registers -/

/-- The registers after a command that arrived at the given time. -/
def Registers.apply (r : Registers α) (stamp : α) : Command → Registers α
  | .speed1 v => { r.setSpeed1 v with lastCommand := later stamp r.lastCommand }
  | .speed2 v => { r.setSpeed2 v with lastCommand := later stamp r.lastCommand }
  | .acceleration v => r.setAcceleration v.toNat
  | .mode code => (Mode.ofCode? code.toNat).elim r r.setMode
  | .resetEncoders => r.resetEncoders
  | .regulator on => { r with regulator := on }
  | .timeout on => { r with timeout := on }
  | .query _ | .placeX _ | .placeY _ | .placeHeading _ | .simSpeed _ => r

/-- The mode register after a command. -/
def Mode.after (m : Mode) : Command → Mode
  | .mode code => (Mode.ofCode? code.toNat).getD m
  | _ => m

theorem Mode.after_of_ne_mode {m : Mode} {c : Command} (h : ∀ code, c ≠ .mode code) :
    m.after c = m := by
  cases c with
  | mode code => exact absurd rfl (h code)
  | _ => rfl

theorem Registers.mode_apply (r : Registers α) (t : α) (c : Command) :
    (r.apply t c).mode = r.mode.after c := by
  cases c with
  | mode code =>
    simp only [apply, Mode.after]
    cases Mode.ofCode? code.toNat <;> rfl
  | _ => rfl

/-- The registers are written by commands in turn, each after a slice of motion. -/
inductive Registers.Obeys : List (Command × α) → Registers α → Registers α → Prop where
  | nil (r) : Obeys [] r r
  | cons {c t rest} {r m s : Registers α} : r.Drift m → Obeys rest (m.apply t c) s →
      Obeys ((c, t) :: rest) r s

namespace Registers.Obeys

variable {r s : Registers α} {xs ys : List (Command × α)}

theorem mode (h : Obeys xs r s) : s.mode = xs.foldl (fun m p => m.after p.1) r.mode := by
  induction h with
  | nil r => rfl
  | cons drift _ ih => rw [ih, mode_apply, drift.mode, List.foldl_cons]

theorem eq_of_nil (h : Obeys [] r s) : s = r := by
  cases h
  rfl

theorem head {c : Command} {t : α} (h : Obeys ((c, t) :: xs) r s) :
    ∃ m, r.Drift m ∧ Obeys xs (m.apply t c) s := by
  cases h with
  | cons drift rest => exact ⟨_, drift, rest⟩

theorem append (h : Obeys (xs ++ ys) r s) : ∃ m, Obeys xs r m ∧ Obeys ys m s := by
  induction xs generalizing r with
  | nil => exact ⟨r, .nil r, h⟩
  | cons p xs ih =>
    obtain ⟨m, drift, rest⟩ := head h
    obtain ⟨n, first, second⟩ := ih rest
    exact ⟨n, .cons drift first, second⟩

end Registers.Obeys

namespace Robot

/-- The simulation speed after a command. -/
def speedAfter (factor : α) : Command → α
  | .simSpeed w => ofTenths w
  | _ => factor

/-- What a command does to a robot at the time it arrived. -/
structure Effect (r : Robot α) (c : Command) (s : Robot α) : Prop where
  registers : s.registers = r.registers.apply r.commandTime c
  simSpeed : s.simSpeed = speedAfter r.simSpeed c
  chassis : s.chassis = r.chassis
  lastStep : s.lastStep = r.lastStep
  commandTime : s.commandTime = r.commandTime
  queue : s.queue = r.queue
  journal : s.journal = r.journal ∨ ∃ e : Event α, e.aside = true ∧ s.journal = r.journal.push e

/-- A query whose answer is not refused puts it into the telemetry. -/
theorem execute_query_ok {r s : Robot α} {q : Query} (h : r.execute (.query q) = ⟨s, .ok ()⟩) :
    ∃ reply, r.answer q = .ok reply ∧
      s = { r.note (.replied q reply) with telemetry := r.telemetry ++ reply } := by
  simp only [execute] at h
  split at h
  · cases h
  · next reply answered =>
    cases h
    exact ⟨reply, answered, rfl⟩

/-- A command that is refused has had no effect. -/
theorem execute_refused {r s : Robot α} {c : Command} {f : Fault α}
    (h : r.execute c = ⟨s, .error f⟩) : s = r := by
  cases c with
  | query q =>
    simp only [execute] at h
    split at h <;> cases h
    rfl
  | mode code =>
    simp only [execute] at h
    split at h <;> cases h
  | _ => cases h

theorem execute_effect {r s : Robot α} {c : Command} (h : r.execute c = ⟨s, .ok ()⟩) :
    Effect r c s := by
  cases c with
  | query q =>
    obtain ⟨reply, -, rfl⟩ := execute_query_ok h
    exact ⟨rfl, rfl, rfl, rfl, rfl, rfl, .inr ⟨_, rfl, rfl⟩⟩
  | mode code =>
    simp only [execute] at h
    split at h
    · next m hm =>
      cases h
      exact ⟨by simp [Registers.apply, hm], rfl, rfl, rfl, rfl, rfl, .inl rfl⟩
    · next hm =>
      cases h
      exact ⟨by simp [Registers.apply, hm, note], rfl, rfl, rfl, rfl, rfl, .inr ⟨_, rfl, rfl⟩⟩
  | simSpeed w =>
    cases h
    exact ⟨rfl, rfl, rfl, rfl, rfl, rfl, .inr ⟨_, rfl, rfl⟩⟩
  | _ =>
    cases h
    exact ⟨rfl, rfl, rfl, rfl, rfl, rfl, .inl rfl⟩

/-- What is read off a journal and passes over what is aside, a command leaves as it was. -/
theorem Effect.journal_eq {β : Type} {read : Journal α → β} {r s : Robot α} {c : Command}
    (h : Effect r c s) (ignores : ∀ (j : Journal α) e, e.aside = true → read (j.push e) = read j) :
    read s.journal = read r.journal := by
  obtain same | ⟨e, aside, same⟩ := h.journal
  · rw [same]
  · rw [same, ignores r.journal e aside]

/-! ## A slice of motion -/

@[simp] theorem registers_halt (r : Robot α) : r.halt.registers = r.registers.forceStop := rfl

@[simp] theorem journal_halt (r : Robot α) :
    r.halt.journal = r.journal.push (.timedOut r.silence !r.registers.timedOut) := rfl

/-- What `advance` can come to: the watch is refused, the motion is, the counts of the motion are,
or the slice is done. -/
inductive Slice (r : Robot α) (limit : α) : Outcome (Robot α) (Fault α) Unit → Prop where
  | unwatched {f} : r.watch = .error f → Slice r limit ⟨r, .error f⟩
  | unmoved {w f} : r.watch = .ok w → w.motion (later limit r.lastStep) = .error f →
      Slice r limit ⟨w, .error f⟩
  | uncounted {w t f} : r.watch = .ok w → w.motion (later limit r.lastStep) = .ok t →
      Slice r limit ⟨{ w with track := w.follow t }, .error f⟩
  | settled {w t counts} : r.watch = .ok w → w.motion (later limit r.lastStep) = .ok t →
      Slice r limit
        ⟨{ w with track := w.follow t }.settle (later limit r.lastStep) counts, .ok ()⟩

theorem advance_slice (r : Robot α) (limit : α) : Slice r limit (r.advance limit) := by
  unfold advance
  split
  · next f hw => exact .unwatched hw
  · next w hw =>
    dsimp only
    split
    · next f hm => exact .unmoved hw hm
    · next t hm =>
      split
      · exact .uncounted hw hm
      · exact .settled hw hm

/-- The watch stops the motors exactly if they are overdue. -/
theorem watch_cases {r w : Robot α} (h : r.watch = .ok w) :
    (r.overdue = .ok false ∧ w = r) ∨ (r.overdue = .ok true ∧ w = r.halt) := by
  obtain ⟨late, overdue, hw⟩ := ok_of_bind h
  cases late <;> cases hw
  · exact .inl ⟨overdue, rfl⟩
  · exact .inr ⟨overdue, rfl⟩

/-- What stopping the motors, following the motion and settling each keep, a slice keeps, whether
or not it is refused. -/
theorem advance_preserves {P : Robot α → Prop} (halt : ∀ r, P r → P r.halt)
    (follow : ∀ r track, P r → P { r with track := track })
    (settle : ∀ r stop counts, P r → P (r.settle stop counts)) (r : Robot α) (limit : α)
    (h : P r) : P (r.advance limit).state := by
  have watched {w : Robot α} (hw : r.watch = .ok w) : P w := by
    obtain ⟨-, rfl⟩ | ⟨-, rfl⟩ := watch_cases hw
    · exact h
    · exact halt r h
  have slice := advance_slice r limit
  generalize r.advance limit = o at slice ⊢
  cases slice with
  | unwatched => exact h
  | unmoved hw => exact watched hw
  | uncounted hw => exact follow _ _ (watched hw)
  | settled hw => exact settle _ _ _ (follow _ _ (watched hw))

/-! ## Steps -/

/-- A step a robot makes by itself. -/
inductive Work : Robot α → Robot α → Prop where
  | stray {r now code rest} : Frame.next now r.queue = .stray code rest →
      Work r { r.note (.strayByte code) with queue := rest }
  | unknown {r now code rest} : Frame.next now r.queue = .unknown code rest →
      Work r { r.note (.unknownOpcode code) with queue := rest }
  | halt {r} : r.overdue = .ok true → Work r r.halt
  | follow {r stop t} : r.motion stop = .ok t → Work r { r with track := r.follow t }
  | settle (r stop counts) : Work r (r.settle stop counts)
  | arrive (r stamp) : Work r { r with commandTime := stamp }
  | execute {r s now c rest} : Frame.next now r.queue = .ready c r.commandTime rest →
      r.execute c = ⟨s, .ok ()⟩ → Work r { s.note (.executed c r.commandTime) with queue := rest }

/-- A chain of steps. -/
abbrev Works : Robot α → Robot α → Prop := Relation.ReflTransGen Work

theorem works_watch {r w : Robot α} (h : r.watch = .ok w) : Works r w := by
  obtain ⟨-, rfl⟩ | ⟨late, rfl⟩ := watch_cases h
  · exact .refl
  · exact .single (.halt late)

theorem works_advance (r : Robot α) (limit : α) : Works r (r.advance limit).state := by
  have slice := advance_slice r limit
  generalize r.advance limit = o at slice ⊢
  cases slice with
  | unwatched => exact .refl
  | unmoved hw => exact works_watch hw
  | uncounted hw hm => exact (works_watch hw).tail (.follow hm)
  | settled hw hm => exact ((works_watch hw).tail (.follow hm)).tail (.settle ..)

/-- A slice takes no bytes. -/
@[simp] theorem advance_queue (r : Robot α) (limit : α) :
    (r.advance limit).state.queue = r.queue :=
  advance_preserves (P := fun s => s.queue = r.queue) (fun _ h => h) (fun _ _ h => h)
    (fun _ _ _ h => h) r limit rfl

/-- A slice executes nothing. -/
@[simp] theorem advance_executed (r : Robot α) (limit : α) :
    (r.advance limit).state.journal.executed = r.journal.executed :=
  advance_preserves (P := fun s => s.journal.executed = r.journal.executed)
    (fun s h => by simpa [Event.command?] using h) (fun _ _ h => h)
    (fun s _ _ h => by simpa [slice, Event.command?] using h) r limit rfl

/-- A command is executed after the slice up to its arrival. -/
theorem perform_ok {r m : Robot α} {c : Command} {t : α} (h : r.perform c t = ⟨m, .ok ()⟩) :
    ∃ a s, r.advance t = ⟨a, .ok ()⟩ ∧
      ({ a with commandTime := t } : Robot α).execute c = ⟨s, .ok ()⟩ ∧
      m = s.note (.executed c t) := by
  unfold perform at h
  split at h
  · simp at h
  · next a ha =>
    split at h
    · simp at h
    · next s hs =>
      simp only [Outcome.mk.injEq, and_true] at h
      exact ⟨a, s, ha, hs, h.symm⟩

theorem Effect.executed_eq {r s : Robot α} {c : Command} (h : Effect r c s) :
    s.journal.executed = r.journal.executed :=
  h.journal_eq fun _ _ aside => by simp [Event.command?_of_aside aside]

theorem perform_executed_queue {r m : Robot α} {c : Command} {t : α}
    (h : r.perform c t = ⟨m, .ok ()⟩) :
    m.journal.executed = r.journal.executed ++ [(c, t)] ∧ m.queue = r.queue := by
  obtain ⟨a, s, moved, executed, rfl⟩ := perform_ok h
  obtain rfl : (r.advance t).state = a := by rw [moved]
  have effect := execute_effect executed
  constructor
  · simpa [Event.command?] using effect.executed_eq
  · simpa using effect.queue

/-- Taking a frame, refused or not, is a chain of steps. -/
theorem works_takeFrame (r : Robot α) (now : α) : Works r (r.takeFrame now).state := by
  unfold takeFrame
  split
  · exact .refl
  · next found => exact .single (.stray found)
  · next found => exact .single (.unknown found)
  · next c t rest found =>
    have moved := works_advance r t
    have waiting := advance_queue r t
    unfold perform
    generalize r.advance t = o at moved waiting ⊢
    rcases o with ⟨a, _ | _⟩
    · exact moved
    · have arrived : Works r { a with commandTime := t } := moved.tail (.arrive a t)
      rcases executed : ({ a with commandTime := t } : Robot α).execute c with ⟨s, f | _⟩
      · obtain rfl := execute_refused executed
        simpa [executed] using arrived
      · simp only [executed]
        have front : Frame.next now a.queue = .ready c t rest :=
          (congrArg (Frame.next now) waiting).trans found
        exact arrived.tail (.execute front executed)

/-- A run, refused or not, is a chain of steps. -/
theorem works_run (r : Robot α) (now : α) : Works r (r.run now).state := by
  fun_induction run r now with
  | case1 r s taken ih =>
    have first := works_takeFrame r now
    rw [taken] at first
    exact first.trans ih
  | case2 r s taken =>
    have first := works_takeFrame r now
    rw [taken] at first
    exact first.trans (works_advance s now)
  | case3 r s f taken =>
    have first := works_takeFrame r now
    rw [taken] at first
    exact first

/-! ## Runs that are not refused -/

/-- A run to an instant that is not refused: frame by frame, then the motion up to the instant. -/
inductive Ran (now : α) : Robot α → Robot α → Prop where
  | idle {r s} : Frame.next now r.queue = .waiting → r.advance now = ⟨s, .ok ()⟩ → Ran now r s
  | stray {r s code rest} : Frame.next now r.queue = .stray code rest →
      Ran now { r.note (.strayByte code) with queue := rest } s → Ran now r s
  | unknown {r s code rest} : Frame.next now r.queue = .unknown code rest →
      Ran now { r.note (.unknownOpcode code) with queue := rest } s → Ran now r s
  | command {r m s c t rest} : Frame.next now r.queue = .ready c t rest →
      r.perform c t = ⟨m, .ok ()⟩ → Ran now { m with queue := rest } s → Ran now r s

theorem run_ran {r s : Robot α} {now : α} (h : r.run now = ⟨s, .ok ()⟩) : Ran now r s := by
  fun_induction run r now with
  | case1 r m taken ih =>
    have rest := ih h
    unfold takeFrame at taken
    split at taken
    · simp at taken
    · next found =>
      obtain rfl : _ = m := by simpa using taken
      exact .stray found rest
    · next found =>
      obtain rfl : _ = m := by simpa using taken
      exact .unknown found rest
    · next found =>
      split at taken
      · simp at taken
      · next a performed =>
        obtain rfl : _ = m := by simpa using taken
        exact .command found performed rest
  | case2 r m taken =>
    unfold takeFrame at taken
    split at taken
    · next found =>
      obtain rfl : r = m := by simpa using taken
      exact .idle found h
    · simp at taken
    · simp at taken
    · split at taken <;> simp at taken
  | case3 r m f taken => simp at h

/-- A run that is not refused executes the commands of the queue in order and leaves the rest. -/
theorem Ran.executed_queue {now : α} {r s : Robot α} (h : Ran now r s) :
    s.journal.executed = r.journal.executed ++ (Frame.parse now r.queue).commands ∧
      s.queue = (Frame.parse now r.queue).rest := by
  induction h with
  | @idle r s waits moved =>
    obtain rfl : (r.advance now).state = s := by rw [moved]
    simp [Frame.parse_waiting waits]
  | stray found _ ih => simpa [Frame.parse_stray found, Event.command?] using ih
  | unknown found _ ih => simpa [Frame.parse_unknown found, Event.command?] using ih
  | command found performed _ ih =>
    obtain ⟨executed, -⟩ := perform_executed_queue performed
    simpa [Frame.parse_ready found, executed] using ih

/-- A slice that is not refused. -/
theorem advance_drift {r a : Robot α} {limit : α} (h : r.advance limit = ⟨a, .ok ()⟩) :
    r.registers.Drift a.registers := by
  have slice := advance_slice r limit
  rw [h] at slice
  cases slice with
  | @settled w t counts watched _ =>
    obtain ⟨-, rfl⟩ | ⟨-, rfl⟩ := watch_cases watched
    · exact ⟨counts.1, counts.2, .inl rfl⟩
    · exact ⟨counts.1, counts.2, .inr rfl⟩

/-- A run that is not refused obeys the commands of the queue and then moves. -/
theorem Ran.obeys {now : α} {r s : Robot α} (h : Ran now r s) :
    ∃ m, Registers.Obeys (Frame.parse now r.queue).commands r.registers m ∧
      m.Drift s.registers := by
  induction h with
  | @idle r s waits moved =>
    rw [Frame.parse_waiting waits]
    exact ⟨r.registers, .nil _, advance_drift moved⟩
  | stray found _ ih => rwa [Frame.parse_stray found]
  | unknown found _ ih => rwa [Frame.parse_unknown found]
  | command found performed _ ih =>
    obtain ⟨m, rest, last⟩ := ih
    obtain ⟨a, s, moved, executed, rfl⟩ := perform_ok performed
    rw [Frame.parse_ready found]
    refine ⟨m, .cons (advance_drift moved) ?_, last⟩
    simpa [(execute_effect executed).registers] using rest

end Robot

end DifferentialDrive
