import DifferentialDrive.Proofs.Binary64.Order
import DifferentialDrive.Proofs.Course
import Mathlib.Data.List.Destutter
import Mathlib.Data.List.DropRight

/-!
# The trace

Every slice of motion leads to a point. The path is those since the robot was last placed by hand,
read off the journal (`Event.path`), and the trace is the path without the points that equal the
one kept before them. A track compares a new point with the last of its trace, and with nothing if
it has not moved; that is enough because a trace that is not empty ends where the robot is
(`Track.Ends`).
-/

namespace DifferentialDrive

open Wire Scalar

/-! ## Lists without repetition -/

section Destutter

variable {β : Type} {R : β → β → Prop} [DecidableRel R]

theorem destutter'_concat (a b : β) (l : List β) :
    (l ++ [b]).destutter' R a =
      l.destutter' R a ++ if ∀ p ∈ (l.destutter' R a).getLast?, R p b then [b] else [] := by
  induction l generalizing a with
  | nil => by_cases h : R a b <;> simp [h]
  | cons x l ih =>
    by_cases h : R a x
    · have last : (a :: l.destutter' R x).getLast? = (l.destutter' R x).getLast? := by
        rw [List.getLast?_cons, List.getLast?_eq_some_getLast (List.destutter'_ne_nil l R)]
        rfl
      simp only [List.cons_append, List.destutter'_cons_pos _ h, ih, last]
    · simp only [List.cons_append, List.destutter'_cons_neg _ h, ih]

/-- An element at the end is kept unless it is related to the last that is kept. -/
theorem destutter_concat (b : β) (l : List β) :
    (l ++ [b]).destutter R =
      l.destutter R ++ if ∀ p ∈ (l.destutter R).getLast?, R p b then [b] else [] := by
  cases l with
  | nil => simp
  | cons a l => exact destutter'_concat a b l

theorem destutter_prefix_append (l m : List β) : l.destutter R <+: (l ++ m).destutter R := by
  induction m using List.reverseRecOn with
  | nil => simp
  | append_singleton m b ih =>
    rw [← List.append_assoc, destutter_concat]
    exact ih.trans (List.prefix_append _ _)

end Destutter

variable {α : Type}

/-! ## The path in a history -/

/-- Whether a command places the robot by hand. -/
def Wire.Command.places : Command → Bool
  | placeX _ | placeY _ | placeHeading _ => true
  | _ => false

namespace Event

/-- The point that a slice of motion leads to. -/
def point? : Event α → Option (α × α)
  | moved _ _ _ point _ => some point
  | _ => none

/-- Whether an event is the execution of a command that places the robot. -/
def places : Event α → Bool
  | executed c _ => c.places
  | _ => false

/-- The points of the slices since the robot was last placed, or ever. -/
def path (events : List (Event α)) : List (α × α) :=
  (events.rtakeWhile fun e => !e.places).filterMap point?

@[simp] theorem path_nil : path ([] : List (Event α)) = [] := rfl

@[simp] theorem path_concat (events : List (Event α)) (e : Event α) :
    path (events ++ [e]) = if e.places then [] else path events ++ e.point?.toList := by
  unfold path
  rw [List.rtakeWhile_concat]
  cases e.places <;> cases h : e.point? <;> simp [h]

theorem path_append (events more : List (Event α)) (still : ∀ e ∈ more, e.places = false) :
    path (events ++ more) = path events ++ more.filterMap point? := by
  induction more using List.reverseRecOn with
  | nil => simp
  | append_singleton more e ih =>
    have here := still e (by simp)
    rw [← List.append_assoc, path_concat, ih fun e he => still e (by simp [he])]
    cases h : e.point? <;> simp [here, h]

theorem point?_of_isSlice_eq_false {e : Event α} (h : e.isSlice = false) : e.point? = none := by
  cases e <;> simp_all [isSlice, point?]

theorem places_of_aside {e : Event α} (h : e.aside = true) : e.places = false := by
  cases e <;> simp_all [aside, places]

end Event

/-! ## Tracks -/

namespace Track

variable [Scalar α]

/-- Whether two points are equal. -/
def same (p q : α × α) : Bool := p.1 == q.1 && p.2 == q.2

/-- Whether two points are not. -/
abbrev Apart (p q : α × α) : Prop := same p q = false

/-- Where the robot is. -/
def point (t : Track α) : α × α := (t.pose.x, t.pose.y)

/-- The trace, unless it is empty, ends where the robot is. -/
def Ends (t : Track α) : Prop := ∀ p ∈ t.trace.toList.getLast?, same p t.point = true

theorem endsIn_eq (t : Track α) (x y : α) :
    t.endsIn x y = t.trace.toList.getLast?.any fun p => same p (x, y) := by
  unfold endsIn
  rw [Array.getLast?_toList]
  cases t.trace.back? <;> rfl

/-- A robot that has moved keeps the point if it is apart from the last, and its trace ends
there. -/
structure Reaches (t u : Track α) : Prop where
  trace : u.trace.toList =
    t.trace.toList ++ if ∀ p ∈ t.trace.toList.getLast?, Apart p u.point then [u.point] else []
  ends : u.endsIn u.pose.x u.pose.y = true

theorem reaches_moveTo (t : Track α) (p : Pose α) (self : same (p.x, p.y) (p.x, p.y) = true) :
    t.Reaches (t.moveTo p) := by
  have here : (t.moveTo p).point = (p.x, p.y) := rfl
  cases found : t.endsIn p.x p.y with
  | true =>
    have kept : (t.moveTo p).trace = t.trace := by simp [moveTo, found]
    have known := found
    rw [endsIn_eq, Option.any_eq_true] at known
    obtain ⟨q, last, equal⟩ := known
    constructor
    · simp [kept, here, last, equal]
    · simpa [endsIn, kept] using! found
  | false =>
    have kept : (t.moveTo p).trace = t.trace.push (p.x, p.y) := by simp [moveTo, found]
    have apart : ∀ q ∈ t.trace.toList.getLast?, Apart q (p.x, p.y) := by
      intro q last
      rw [endsIn_eq, last] at found
      simpa using found
    constructor
    · rw [kept, here, if_pos apart, Array.toList_push]
    · rw [endsIn_eq, kept]
      simpa using! self

theorem reaches_stay {t : Track α} (ends : t.Ends) (self : same t.point t.point = true) :
    t.Reaches t.stay := by
  have here : t.stay.point = t.point := rfl
  cases last : t.trace.toList.getLast? with
  | none =>
    have empty : t.trace = #[] := by simpa using last
    have kept : t.stay.trace = #[t.point] := by simp [stay, endsHere, empty, point]
    constructor
    · simp [kept, here, empty]
    · rw [endsIn_eq, kept]
      simpa using! self
  | some q =>
    have equal := ends q last
    have kept : t.stay.trace = t.trace := by
      obtain ⟨first, second⟩ : (q.1 == t.pose.x) = true ∧ (q.2 == t.pose.y) = true := by
        simpa [same, point] using equal
      have back : t.trace.back? = some q := by rw [← Array.getLast?_toList, last]
      simp [stay, endsHere, back, isStill, first, second]
    constructor
    · simp [kept, here, last, equal]
    · rw [endsIn_eq, kept, last]
      simpa using! equal

theorem Reaches.ends' {t u : Track α} (h : t.Reaches u) : u.Ends := by
  have known := h.ends
  rw [endsIn_eq, Option.any_eq_true] at known
  obtain ⟨q, last, equal⟩ := known
  intro p hp
  obtain rfl : q = p := by simpa [last] using hp
  exact equal

end Track

/-! ## The trace of a robot -/

variable [Scalar α]

/-- All points that slices have led to are numbers. -/
def Journal.Located (j : Journal α) : Prop :=
  ∀ e ∈ j.toList, ∀ p ∈ e.point?, isNaN p.1 = false ∧ isNaN p.2 = false

namespace Robot

/-- The trace of a robot is its path without repetition, and ends where the robot is. -/
structure Traced (r : Robot α) : Prop where
  trace : r.track.trace.toList = (Event.path r.journal.toList).destutter Track.Apart
  ends : r.track.Ends

/-- What neither places nor moves a robot. -/
theorem Traced.of_same {r s : Robot α} (h : r.Traced) (track : s.track = r.track)
    (journal : s.journal = r.journal ∨ ∃ e : Event α, e.places = false ∧ e.point? = none ∧
      s.journal = r.journal.push e) : s.Traced := by
  obtain ⟨trace, ends⟩ := h
  obtain same | ⟨e, still, pointless, same⟩ := journal
  · exact ⟨by rw [track, same, trace], track ▸ ends⟩
  · exact ⟨by simp [track, same, trace, still, pointless], track ▸ ends⟩

theorem Traced.of_aside {r s : Robot α} (h : r.Traced) (track : s.track = r.track)
    (journal : s.journal = r.journal ∨ ∃ e : Event α, e.aside = true ∧
      s.journal = r.journal.push e) : s.Traced := by
  refine h.of_same track (journal.imp_right ?_)
  rintro ⟨e, aside, same⟩
  exact ⟨e, Event.places_of_aside aside,
    Event.point?_of_isSlice_eq_false (Event.isSlice_of_aside aside), same⟩

/-- A command that places the robot empties the trace, and any other leaves the track as it is. -/
theorem track_execute {r s : Robot α} {c : Command} (h : r.execute c = ⟨s, .ok ()⟩) :
    (c.places = true → s.track.trace = #[]) ∧ (c.places = false → s.track = r.track) := by
  cases c with
  | query q =>
    obtain ⟨reply, -, rfl⟩ := execute_query_ok h
    exact ⟨fun placed => absurd placed Bool.false_ne_true, fun _ => rfl⟩
  | mode code =>
    simp only [execute] at h
    split at h <;> cases h <;> exact ⟨fun placed => absurd placed Bool.false_ne_true, fun _ => rfl⟩
  | placeX | placeY | placeHeading =>
    cases h
    exact ⟨fun _ => rfl, fun still => absurd still.symm Bool.false_ne_true⟩
  | _ =>
    cases h
    exact ⟨fun placed => absurd placed Bool.false_ne_true, fun _ => rfl⟩

/-- A slice adds the point it leads to to the path, and to the trace if it is apart. -/
theorem Traced.settle {w : Robot α} (h : w.Traced) {u : Track α} (reaches : w.track.Reaches u)
    (stop : α) (counts : Int × Int) :
    (({ w with track := u } : Robot α).settle stop counts).Traced := by
  refine ⟨?_, reaches.ends'⟩
  have path : Event.path (({ w with track := u } : Robot α).settle stop counts).journal.toList =
      Event.path w.journal.toList ++ [u.point] := by
    simp [slice, Event.places, Event.point?, Track.point]
  rw [path, destutter_concat, ← h.trace]
  exact reaches.trace

variable [Reflexive α]

theorem traced_move {r a : Robot α} {limit : α} (h : r.Traced)
    (moved : r.advance limit = ⟨a, .ok ()⟩) (numbers : Journal.Located a.journal) :
    a.Traced ∧ a.track.endsIn a.track.pose.x a.track.pose.y = true := by
  obtain ⟨w, t, counts, watched, -, -, rfl⟩ := advance_ok moved
  have before : w.Traced := by
    obtain ⟨-, rfl⟩ | ⟨-, rfl⟩ := watch_cases watched
    · exact h
    · exact h.of_same rfl (.inr ⟨_, rfl, rfl, rfl⟩)
  obtain ⟨number, number'⟩ : isNaN (w.follow t).point.1 = false ∧
      isNaN (w.follow t).point.2 = false := by
    refine numbers (slice { w with track := w.follow t } (later limit r.lastStep) counts) ?_ _ rfl
    simp
  have self : Track.same (w.follow t).point (w.follow t).point = true := by
    simp [Track.same, Reflexive.beq_self number, Reflexive.beq_self number']
  have reaches : w.track.Reaches (w.follow t) := by
    cases still : t.duration == zero with
    | true =>
      have stays : w.follow t = w.track.stay := by simp [follow, still]
      rw [stays] at self ⊢
      exact Track.reaches_stay before.ends self
    | false =>
      have goes : w.follow t = w.track.moveTo t.pose := by simp [follow, still]
      rw [goes] at self ⊢
      exact Track.reaches_moveTo w.track t.pose self
  exact ⟨before.settle reaches _ _, reaches.ends⟩

theorem traced_smooth {r s : Robot α} (h : r.Traced) (smooth : Smooth r s)
    (numbers : Journal.Located s.journal) : s.Traced := by
  cases smooth with
  | touch touch =>
    obtain ⟨-, track, -, -, journal⟩ := touch.same
    exact h.of_aside track journal
  | resume => exact h.of_same rfl (.inr ⟨_, rfl, rfl, rfl⟩)
  | @drop e rest drops =>
    refine h.of_same rfl (.inr ⟨e, ?_, ?_, rfl⟩) <;>
      cases e <;> simp_all [Event.drops, Event.places, Event.point?]
  | poke => exact h.of_same rfl (.inl rfl)
  | move moved => exact (traced_move h moved numbers).1
  | @obey s c stamp rest executed =>
    obtain ⟨emptied, left⟩ := track_execute executed
    cases places : c.places with
    | true =>
      have empty : (s.note (.executed c stamp)).track.trace = #[] := emptied places
      refine ⟨?_, ?_⟩
      · simp [empty, Event.places, places]
      · intro p hp
        simp [empty] at hp
    | false =>
      have kept : s.Traced := h.of_aside (left places) (execute_effect executed).journal
      exact kept.of_same rfl (.inr ⟨.executed c stamp, places, rfl, rfl⟩)

/-- Along a smooth course the trace stays the path without repetition. -/
theorem traced_smoothly {r s : Robot α} (h : Smoothly r s) (first : r.Traced)
    (numbers : Journal.Located s.journal) : s.Traced := by
  induction h with
  | refl => exact first
  | tail _ last ih =>
    exact traced_smooth (ih fun e he => numbers e (last.journal.subset he)) last numbers

end Robot

namespace Leg

/-- The slice of a leg that is not refused leads to where the robot then is. -/
theorem point_of_ok {l : Leg α} (h : (l.robot.advance l.limit).result = .ok ()) :
    ∃ first last units counts,
      l.slice? = some (.moved first last units l.arrived.track.point counts) := by
  cases done : l.robot.advance l.limit with
  | mk a result =>
    rw [done] at h
    subst h
    obtain ⟨w, t, counts, watched, -, -, rfl⟩ := Robot.advance_ok done
    exact ⟨w.lastStep, later l.limit l.robot.lastStep, w.registers.units, counts,
      by simp [slice?, arrived, done, Robot.slice, Track.point, Robot.settle, Robot.note]⟩

end Leg

/-- In every session on a fresh simulation in which nothing is refused and all points are numbers,
the trace is at every time the path since the robot was last placed, without the points that equal
the one kept before them. So no two neighbours in it are equal, it only grows at its end until the
robot is placed, a command empties it if it places the robot and leaves it alone otherwise, and
after a tick of a running simulation it ends where the robot is. The path is made of the points that
the legs lead to. -/
theorem Session.trace_eq_destutter [Reflexive α] (chassis : Chassis α) (arena : Arena α)
    (factor start : α) (timeout : Bool) (client : Timeline α) (keys : Keyboard)
    (world : World) (line : Bool) (socket : Option Socket) (actions : List (Session.Action α)) :
    let fresh : Session α :=
      ⟨⟨.initial chassis arena factor start timeout, world, line, socket⟩, client, keys⟩
    let final := (fresh.after actions).sim.robot
    (∀ o ∈ fresh.outcomes actions, o.result.isOk = true) → final.journal.Located →
    (∀ r ∈ fresh.course actions,
      r.track.trace.toList = (Event.path r.journal.toList).destutter Track.Apart ∧
        r.track.trace.toList.IsChain Track.Apart) ∧
    (fresh.course actions).Pairwise (fun r s => ∃ more,
      s.journal.toList = r.journal.toList ++ more ∧
        ((∀ e ∈ more, e.places = false) → r.track.trace.toList <+: s.track.trace.toList)) ∧
    (∀ (r s : Robot α) (c : Command), r.execute c = ⟨s, .ok ()⟩ →
      (c.places = true → s.track.trace = #[]) ∧ (c.places = false → s.track = r.track)) ∧
    (∀ done now, done ++ [.tick now] <+: actions → (fresh.after done).sim.running = true →
      let t := (fresh.after (done ++ [.tick now])).sim.robot.track
      t.endsIn t.pose.x t.pose.y = true) ∧
    final.journal.slices = (fresh.legs actions).filterMap Leg.slice? ∧
    ∀ l ∈ fresh.legs actions, ∃ first last units counts,
      l.slice? = some (.moved first last units l.arrived.track.point counts) := by
  intro fresh final fair located
  have slices : final.journal.slices = (fresh.legs actions).filterMap Leg.slice? := by
    simpa using! fresh.slices_after actions
  have first : fresh.sim.robot.Traced := ⟨rfl, nofun⟩
  have traced {r : Robot α} (h : r ∈ fresh.course actions) : r.Traced := by
    obtain ⟨before, after⟩ := smoothly_of_mem_course fair h
    exact Robot.traced_smoothly before first fun e he =>
      located e ((Robot.journal_prefix_of_smoothly after).subset he)
  refine ⟨fun r h => ⟨(traced h).trace, ?_⟩, ?_, fun r s c => Robot.track_execute, ?_, slices, ?_⟩
  · rw [(traced h).trace]
    exact List.isChain_destutter Track.Apart _
  · refine (smooth_course fair).pairwise.imp_of_mem fun {r s} hr hs onward => ?_
    obtain ⟨more, split⟩ := Robot.journal_prefix_of_smoothly onward
    refine ⟨more, split.symm, fun still => ?_⟩
    rw [(traced hr).trace, (traced hs).trace, ← split, Event.path_append _ _ still]
    exact destutter_prefix_append _ _
  · rintro done now ⟨rest, rfl⟩ running
    rw [outcomes_append, outcomes_append] at fair
    have ran : Robot.Ran now (fresh.after done).sim.robot _ :=
      ran_tick running (fair _ (by simp [outcomes]))
    obtain ⟨m, onward, last⟩ := ran.last_move
    have behind : ∀ o ∈ (fresh.after (done ++ [.tick now])).outcomes rest,
        o.result.isOk = true := fun o ho => fair o (by simp [ho])
    have before : Robot.Smoothly fresh.sim.robot (fresh.after done).sim.robot :=
      smoothly_after fun o ho => fair o (by simp [ho])
    have after : Robot.Smoothly (fresh.after (done ++ [.tick now])).sim.robot final := by
      have others := smoothly_after behind
      rwa [← after_append] at others
    have seen : (fresh.after (done ++ [.tick now])).sim.robot.journal.Located := fun e he =>
      located e ((Robot.journal_prefix_of_smoothly after).subset he)
    rw [after_append] at seen ⊢
    have settled : m.Traced := Robot.traced_smoothly (before.trans onward) first fun e he =>
      seen e ((Robot.Smooth.move last).journal.subset he)
    exact (Robot.traced_move settled last seen).2
  · exact fun l hl => Leg.point_of_ok (legs_moved fair l hl)

/-- A robot that stands still is placed twice between the slices of one tick, the first time where
it is. -/
def Session.placed : List (Session.Action Float) :=
  [.start zero, .push [0, 0x41, 0, 100] zero, .tick zero, .tick zero,
    .push [0, 0x41, 0, 100, 0, 0x29, 0, 0x42, 0, 7] zero, .tick zero, .tick zero]

/-- Of the two slices since, the trace keeps one point. -/
theorem Session.trace_eq_destutter_placed :
    let final := (Session.standard.after placed).sim.robot
    final.track.trace.toList = (Event.path final.journal.toList).destutter Track.Apart ∧
      final.track.endsIn final.track.pose.x final.track.pose.y = true ∧
      (Event.path final.journal.toList).map (fun p => (truncate p.1, truncate p.2)) =
        [(100, 7), (100, 7)] ∧
      final.track.trace.toList.map (fun p => (truncate p.1, truncate p.2)) = [(100, 7)] := by
  intro final
  have fair : ∀ o ∈ Session.standard.outcomes placed, o.result.isOk = true := by decide +kernel
  have located : final.journal.Located := by
    have points : ∀ e ∈ final.journal.toList, ∀ p ∈ e.point?.toList,
        isNaN p.1 = false ∧ isNaN p.2 = false := by
      decide +kernel
    exact fun e he p hp => points e he p (by simpa using hp)
  obtain ⟨traces, -, -, ends, -⟩ := trace_eq_destutter .standard .standard (ofInt 1) zero true
    ⟨.standard, zero, ofInt 1, {}⟩ {} { machine := .looped } false none placed fair located
  obtain ⟨before, split⟩ := Session.standard.course_eq_append placed
  have inside : final ∈ Session.standard.course placed := by
    rw [split]
    simp [final]
  exact ⟨(traces final inside).1,
    ends (placed.take 6) zero (List.prefix_refl _) (by decide +kernel),
    by decide +kernel, by decide +kernel⟩

end DifferentialDrive
