import DifferentialDrive.Binary64.Scalar
import DifferentialDrive.Proofs.Readings
import Mathlib

/-!
# Reply streams

A client asks, gives bytes and looks for a reply in any order. What it is handed depends on the
queries and on the bytes alone: the bytes given are cut into pieces of the sizes that the queries
call for, one after the other, and each piece is read as the reply to its query. Every action keeps
the account of what has been asked, given and handed out (`accounted_perform`), so it holds of every
exchange, and what is still to be popped completes it (`Accounted.popAll`).
-/

namespace DifferentialDrive.Wire

open Scalar

variable {α : Type}

/-- How many bytes answer queries in turn. -/
def Query.replyLength (qs : List Query) : Nat := (qs.map replySize).sum

@[simp] theorem Query.replyLength_nil : replyLength [] = 0 := rfl

@[simp] theorem Query.replyLength_cons (q : Query) (qs : List Query) :
    replyLength (q :: qs) = q.replySize + replyLength qs := by
  simp [replyLength]

namespace ReplyStream

/-! ## Exchanges -/

/-- What a client does with a stream of replies. -/
inductive Action where
  /-- Wait for the reply to an opcode, whatever opcode it is. -/
  | expect (opcode : Int)
  | push (chunk : List UInt8)
  | pop
  | reset
  deriving Repr, DecidableEq

namespace Action

/-- The query an action asks, if it asks one. -/
def query? : Action → Option Query
  | expect opcode => Query.ofCode? opcode
  | _ => none

/-- The bytes an action gives. -/
def bytes : Action → List UInt8
  | push chunk => chunk
  | _ => []

/-- Whether an action waits for a reply that no query has. -/
def isUnknown : Action → Bool
  | expect opcode => (Query.ofCode? opcode).isNone
  | _ => false

end Action

/-- The reply that an outcome hands out, if there is one. -/
def handed (o : Outcome ReplyStream (Fault α) (Option (Query × Reply α))) :
    List (Query × Reply α) :=
  match o.result with
  | .ok (some reply) => [reply]
  | _ => []

/-- The stream after an action, and the reply if the action is a pop that finds one. -/
def perform (α : Type) [Scalar α] (s : ReplyStream) :
    Action → Outcome ReplyStream (Fault α) (Option (Query × Reply α))
  | .expect opcode =>
    match s.expect (α := α) opcode with
    | .ok s => ⟨s, .ok none⟩
    | .error f => ⟨s, .error f⟩
  | .push chunk => ⟨s.push chunk, .ok none⟩
  | .pop => s.pop
  | .reset => ⟨{}, .ok none⟩

/-- The stream after actions in turn, and the replies that they hand out. -/
def exchange (α : Type) [Scalar α] (s : ReplyStream) :
    List Action → ReplyStream × List (Query × Reply α)
  | [] => (s, [])
  | a :: rest =>
    let o := s.perform α a
    let (final, replies) := exchange α o.state rest
    (final, handed o ++ replies)

variable [Scalar α]

theorem exchange_append (s : ReplyStream) (before later : List Action) :
    s.exchange α (before ++ later) =
      let first := s.exchange α before
      let second := first.1.exchange α later
      (second.1, first.2 ++ second.2) := by
  induction before generalizing s with
  | nil => simp [exchange]
  | cons a rest ih => simp [exchange, ih]

/-- After a reset a stream is as it was made. -/
theorem exchange_of_last_reset (before : List Action)
    (last : ∀ a ∈ before.getLast?, a = .reset) :
    (exchange α {} before).1 = {} := by
  rcases List.eq_nil_or_concat before with rfl | ⟨earlier, a, rfl⟩
  · rfl
  · obtain rfl : a = .reset := by simpa using last
    simp [exchange_append, exchange, perform]

/-! ## One reply -/

/-- As many bytes as a query calls for are read as a reply to it. -/
theorem read_isOk {q : Query} {bytes : List UInt8} (size : bytes.length = q.replySize) :
    ∃ reply, Reply.read (some q) bytes = (.ok reply : Except (Fault α) _) := by
  cases q with
  | encoder1 | encoder2 =>
    match bytes, size with
    | [a, b, c, d], _ => exact ⟨_, rfl⟩
  | encoders =>
    match bytes, size with
    | [a, b, c, d, e, f, g, h], _ => exact ⟨_, rfl⟩
  | simSpeed =>
    match bytes, size with
    | [a, b], _ => exact ⟨_, rfl⟩
  | error =>
    match bytes, size with
    | [a], _ => exact ⟨_, rfl⟩
  | _ => exact ⟨_, rfl⟩

/-- Whether the oldest query that waits, if there is one, lacks bytes. -/
def Lacks (s : ReplyStream) : Prop := ∀ q ∈ s.pending.head?, s.buffer.length < q.replySize

/-- A pop finds nothing if bytes are lacking, and otherwise the reply that stands in the first
bytes. -/
theorem pop_cases (s : ReplyStream) :
    (s.Lacks ∧ s.pop = (⟨s, .ok none⟩ : Outcome ReplyStream (Fault α) _)) ∨
      ∃ q pending bytes more reply, s = ⟨q :: pending, bytes ++ more⟩ ∧ ¬ s.Lacks ∧
        bytes.length = q.replySize ∧ Reply.read (some q) bytes = (.ok reply : Except (Fault α) _) ∧
        s.pop = ⟨⟨pending, more⟩, .ok (some (q, reply))⟩ := by
  obtain ⟨_ | ⟨q, pending⟩, buffer⟩ := s
  · exact .inl ⟨by simp [Lacks], rfl⟩
  by_cases few : buffer.length < q.replySize
  · exact .inl ⟨by simpa [Lacks] using few, by simp [pop, take?, few]⟩
  · have size : (buffer.take q.replySize).length = q.replySize := by
      rw [List.length_take]
      omega
    obtain ⟨reply, read⟩ := read_isOk (α := α) size
    have whole := buffer.take_append_drop q.replySize
    refine .inr ⟨q, pending, _, buffer.drop q.replySize, reply, by rw [whole],
      by simpa [Lacks] using few, size, read, ?_⟩
    rw [← pop_of_spells size read pending, whole]

theorem perform_pop (s : ReplyStream) :
    (s.Lacks ∧ s.perform α .pop = ⟨s, .ok none⟩) ∨
      (¬ s.Lacks ∧ ∃ final reply, s.perform α .pop = ⟨final, .ok (some reply)⟩) := by
  obtain ⟨lacks, none⟩ | ⟨q, pending, bytes, more, reply, -, full, -, -, found⟩ :=
    pop_cases (α := α) s
  · exact .inl ⟨lacks, by simp [perform, none]⟩
  · exact .inr ⟨full, ⟨pending, more⟩, (q, reply), by simp [perform, found]⟩

/-- Only to wait for a reply to what is no query is refused. -/
theorem isOk_perform (s : ReplyStream) (a : Action) :
    (s.perform α a).result.isOk = !a.isUnknown := by
  cases a with
  | expect opcode =>
    cases known : Query.ofCode? opcode <;>
      simp [perform, expect, Action.isUnknown, known, Except.isOk, Except.toBool]
  | pop =>
    obtain ⟨-, found⟩ | ⟨-, final, reply, found⟩ := perform_pop (α := α) s <;> rw [found] <;> rfl
  | push | reset => rfl

/-! ## The account of an exchange -/

/-- The queries asked and the bytes given are accounted for: of the queries the first have been
replied to, in order, and of the bytes the first have been read as these replies. The rest is still
in the stream. -/
structure Accounted (asked : List Query) (given : List UInt8) (replies : List (Query × Reply α))
    (s : ReplyStream) : Prop where
  queries : replies.map Prod.fst ++ s.pending = asked
  bytes : ∃ consumed, Spells replies consumed ∧ consumed ++ s.buffer = given

variable {asked : List Query} {given : List UInt8} {replies : List (Query × Reply α)}
  {s : ReplyStream}

theorem Accounted.pop {q : Query} {pending : List Query} {bytes more : List UInt8} {reply : Reply α}
    (h : Accounted asked given replies ⟨q :: pending, bytes ++ more⟩)
    (size : bytes.length = q.replySize) (read : Reply.read (some q) bytes = .ok reply) :
    Accounted asked given (replies ++ [(q, reply)]) ⟨pending, more⟩ := by
  obtain ⟨consumed, spells, split⟩ := h.bytes
  refine ⟨by simpa using h.queries, consumed ++ bytes, spells.append (.single size read), ?_⟩
  simpa using split

/-- An action adds to what is asked, given and handed out, and the account stays balanced. -/
theorem accounted_perform (h : Accounted asked given replies s) (a : Action) (kept : a ≠ .reset) :
    Accounted (asked ++ a.query?.toList) (given ++ a.bytes)
      (replies ++ handed (s.perform α a)) (s.perform α a).state := by
  have same : Accounted (asked ++ []) (given ++ []) (replies ++ []) s := by simpa using h
  cases a with
  | reset => exact absurd rfl kept
  | expect opcode =>
    cases known : Query.ofCode? opcode with
    | none => simpa [perform, expect, Action.query?, Action.bytes, known, handed] using same
    | some q =>
      obtain ⟨queries, bytes⟩ := h
      simp only [perform, expect, Action.query?, Action.bytes, known, handed]
      exact ⟨by simp [← queries], by simpa using bytes⟩
  | push chunk =>
    obtain ⟨queries, consumed, spells, split⟩ := h
    refine ⟨by simpa [perform, push, Action.query?, handed] using queries, consumed, ?_, ?_⟩
    · simpa [perform, handed] using spells
    · simp [perform, push, Action.bytes, ← split]
  | pop =>
    obtain ⟨-, none⟩ | ⟨q, pending, bytes, more, reply, rfl, -, size, read, found⟩ :=
      pop_cases (α := α) s
    · simpa [perform, none, Action.query?, Action.bytes, handed] using same
    · simpa [perform, found, Action.query?, Action.bytes, handed] using h.pop size read

theorem accounted_exchange (h : Accounted asked given replies s) (actions : List Action)
    (kept : .reset ∉ actions) :
    Accounted (asked ++ actions.filterMap Action.query?) (given ++ actions.flatMap Action.bytes)
      (replies ++ (s.exchange α actions).2) (s.exchange α actions).1 := by
  induction actions generalizing asked given replies s with
  | nil => simpa [exchange] using h
  | cons a rest ih =>
    have first := accounted_perform h a fun same => kept (by simp [same])
    have all := ih first fun inside => kept (by simp [inside])
    have split : (a :: rest).filterMap Action.query? =
        a.query?.toList ++ rest.filterMap Action.query? := by
      cases asks : a.query? <;> simp [asks]
    simpa [exchange, split] using all

end ReplyStream

/-! ## Which bytes a reply was read from -/

namespace Spells

variable [Scalar α] {answers : List (Query × Reply α)} {bytes : List UInt8}

/-- The bytes of a reply begin where those of the replies before it end. -/
theorem read_getElem? (h : Spells answers bytes) (more : List UInt8) {k : Nat} {q : Query}
    {reply : Reply α} (here : answers[k]? = some (q, reply)) :
    Reply.read (some q) (((bytes ++ more).drop
      (Query.replyLength ((answers.map Prod.fst).take k))).take q.replySize) = .ok reply := by
  induction h generalizing k with
  | nil => simp at here
  | @cons p first piece answers rest size read _ ih =>
    cases k with
    | zero =>
      obtain ⟨rfl, rfl⟩ : p = q ∧ first = reply := by simpa using here
      simpa [← size] using read
    | succ k =>
      have later := ih (k := k) (by simpa using here)
      simpa [← size, List.append_assoc, List.drop_length_add_append] using later

end Spells

namespace ReplyStream

variable [Scalar α] {answers : List (Query × Reply α)} {bytes : List UInt8}

/-- With as many pops as queries wait, nothing more is to be popped in the end. -/
theorem popUpTo_isOk (s : ReplyStream) (count : Nat) (enough : s.pending.length ≤ count) :
    ∃ replies final, popUpTo count s = (.ok (replies, final) : Except (Fault α) _) ∧
      final.Lacks := by
  induction count generalizing s with
  | zero =>
    have none : s.pending = [] := List.eq_nil_of_length_eq_zero (by omega)
    exact ⟨[], s, rfl, by simp [Lacks, none]⟩
  | succ count ih =>
    obtain ⟨lacks, none⟩ | ⟨q, pending, bytes, more, reply, rfl, -, -, -, found⟩ :=
      pop_cases (α := α) s
    · exact ⟨[], s, by simp [popUpTo, none], lacks⟩
    · obtain ⟨replies, final, rest, lacks⟩ := ih ⟨pending, more⟩ (by simpa using enough)
      refine ⟨(q, reply) :: replies, final, ?_, lacks⟩
      simp [popUpTo, found, rest, bind, Except.bind, pure, Except.pure]

/-- What an exchange has handed out and what can still be popped are the replies that there are in
all bytes given to all queries asked. -/
theorem Accounted.popAll {asked : List Query} {given : List UInt8}
    {replies : List (Query × Reply α)} {s : ReplyStream} (h : Accounted asked given replies s) :
    ∃ rest final, s.popAll = (.ok (rest, final) : Except (Fault α) _) ∧ final.Lacks ∧
      (⟨asked, given⟩ : ReplyStream).popAll = .ok (replies ++ rest, final) := by
  obtain ⟨queries, consumed, spells, split⟩ := h
  obtain ⟨rest, final, popped, lacks⟩ := popUpTo_isOk (α := α) s s.pending.length (Nat.le_refl _)
  refine ⟨rest, final, popped, lacks, ?_⟩
  have whole := popUpTo_append spells s.pending s.buffer s.pending.length
  rw [show (⟨s.pending, s.buffer⟩ : ReplyStream) = s from rfl, popped] at whole
  simpa [ReplyStream.popAll, ← queries, ← split, Except.map] using whole

/-- Whatever a stream has been through, since it was made or last reset: the opcodes of the replies
handed out and the queries that still wait are the queries asked, and the bytes of these replies and
the bytes that still wait are the bytes given, in order. Each reply is read from the piece of the
bytes given that begins where the sizes of the earlier replies end. A pop finds nothing, and changes
nothing, exactly if no query waits or the oldest lacks bytes. Nothing is refused but to wait for a
reply to what is no query. What can still be popped completes what is handed out to the replies that
all bytes given hold for all queries asked, in whatever portions they came. -/
theorem exchange_splits (before since : List Action) (last : ∀ a ∈ before.getLast?, a = .reset)
    (kept : .reset ∉ since) :
    let start := (exchange α {} before).1
    let final := (start.exchange α since).1
    let replies := (start.exchange α since).2
    let asked := since.filterMap Action.query?
    let given := since.flatMap Action.bytes
    replies.map Prod.fst ++ final.pending = asked ∧
      (∃ consumed, Spells replies consumed ∧ consumed ++ final.buffer = given) ∧
      (∀ k q reply, replies[k]? = some (q, reply) → asked[k]? = some q ∧
        Reply.read (some q) ((given.drop (Query.replyLength (asked.take k))).take q.replySize) =
          .ok reply) ∧
      ((final.perform α .pop).result = .ok none ↔ final.Lacks) ∧
      (final.Lacks → (final.perform α .pop).state = final) ∧
      (∀ a, (final.perform α a).result.isOk = !a.isUnknown) ∧
      ∃ rest left, final.popAll = .ok (rest, left) ∧ left.Lacks ∧
        (⟨asked, given⟩ : ReplyStream).popAll = .ok (replies ++ rest, left) := by
  intro start final replies asked given
  have fresh : start = {} := exchange_of_last_reset before last
  have accounted : Accounted asked given replies final := by
    have first : Accounted [] [] ([] : List (Query × Reply α)) start :=
      fresh ▸ ⟨rfl, [], .nil, rfl⟩
    simpa using accounted_exchange first since kept
  refine ⟨accounted.queries, accounted.bytes, ?_, ?_, ?_, isOk_perform final, accounted.popAll⟩
  · intro k q reply here
    obtain ⟨consumed, spells, split⟩ := accounted.bytes
    have within : k < replies.length := (List.getElem?_eq_some_iff.1 here).1
    have same : asked.take k = (replies.map Prod.fst).take k := by
      rw [← accounted.queries, List.take_append_of_le_length (by simpa using Nat.le_of_lt within)]
    refine ⟨?_, ?_⟩
    · rw [← accounted.queries, List.getElem?_append_left (by simpa using within)]
      simp [here]
    · rw [same, ← split]
      exact spells.read_getElem? final.buffer here
  · obtain ⟨lacks, found⟩ | ⟨full, left, reply, found⟩ := perform_pop (α := α) final
    · simp [found, lacks]
    · simp [found, full]
  · intro lacks
    obtain ⟨-, found⟩ | ⟨full, -⟩ := perform_pop (α := α) final
    · rw [found]
    · exact absurd lacks full

/-- Both counters and the errors are asked for while their bytes come in four portions, and then a
speed that has not come. -/
def pieces : List Action :=
  [.push [0, 0], .expect 0x25, .pop, .push [1, 44, 255], .expect 0x2D, .pop, .push [255, 255, 255],
    .pop, .expect 0x21, .push [4], .pop, .pop]

/-- The counters are handed out with the last of their bytes, and then the errors, whose byte stands
behind the eight of the counters. -/
theorem exchange_splits_pieces :
    let final := exchange Float {} pieces
    let errors : Reply Float := .flags { motor1Trip := true }
    final.2.map Prod.fst ++ final.1.pending = [.encoders, .error] ++ [.speed1] ∧
      final.2[0]? = some (.encoders, .numbers [300, -1]) ∧
      final.2[1]? = some (.error, errors) ∧
      Reply.read (some .error) (((pieces.flatMap Action.bytes).drop 8).take 1) = .ok errors ∧
      final.1.Lacks := by
  intro final errors
  obtain ⟨queries, -, slices, lacking, -, -⟩ := exchange_splits (α := Float) [] pieces
    (by decide) (by decide)
  have second : final.2[1]? = some (.error, errors) := rfl
  obtain ⟨-, read⟩ := slices 1 .error errors second
  exact ⟨queries.trans (by decide), by cbv, second, read, lacking.1 rfl⟩

end ReplyStream

end DifferentialDrive.Wire
