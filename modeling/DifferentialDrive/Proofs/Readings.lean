import DifferentialDrive.Proofs.Legs

/-!
# What queries read

`Robot.reading` is what a query asks of a robot. The bytes that answer it have the size the client
waits for and are read as that value (`answer_spells`), so a run adds to the telemetry the readings
of its queries one after the other (`Ran.readings`). A client that waits for these queries first
takes the bytes apart into the same readings and keeps none of them (`popAll_of_spells`).
-/

namespace DifferentialDrive

open Wire Scalar

variable {α : Type}

/-! ## Queries -/

/-- The query a command is. -/
def Wire.Command.query? : Command → Option Query
  | .query q => some q
  | _ => none

/-- The queries among commands. -/
def Wire.queries (commands : List (Command × α)) : List Query :=
  commands.filterMap fun p => p.1.query?

@[simp] theorem Wire.queries_nil : queries ([] : List (Command × α)) = [] := rfl

@[simp] theorem Wire.queries_append (a b : List (Command × α)) :
    queries (a ++ b) = queries a ++ queries b := by
  simp [queries]

@[simp] theorem Wire.queries_cons (c : Command) (t : α) (rest : List (Command × α)) :
    queries ((c, t) :: rest) = c.query?.toList ++ queries rest := by
  cases h : c.query? <;> simp [queries, h]

theorem Wire.Query.replySize_pos (q : Query) : 0 < q.replySize := by
  cases q <;> decide

/-- Both encoders are signed 32-bit numbers. -/
def Registers.Wrapped (r : Registers α) : Prop :=
  wrap32 r.encoder1 = r.encoder1 ∧ wrap32 r.encoder2 = r.encoder2

theorem Wire.wrap32_wrap32 (n : Int) : wrap32 (wrap32 n) = wrap32 n := by
  simp [wrap32, Int.bmod_bmod]

theorem Registers.wrapped_addCounts (r : Registers α) (a b : Int) : (r.addCounts a b).Wrapped :=
  ⟨wrap32_wrap32 _, wrap32_wrap32 _⟩

variable [Scalar α]

namespace Robot

/-- The simulation speed in whole tenths, as far as two bytes can hold it. -/
def speedTenths (r : Robot α) : Int := max 0 (min 65535 (nearest (r.simSpeed * ofInt 10)))

/-- What a query asks of a robot. Voltage, currents, version and error are fixed. -/
def reading (r : Robot α) : Query → Reply α
  | .speed1 => .number r.registers.speed1.toNat
  | .speed2 => .number r.registers.speed2.toNat
  | .encoder1 => .number r.registers.encoder1
  | .encoder2 => .number r.registers.encoder2
  | .encoders => .numbers [r.registers.encoder1, r.registers.encoder2]
  | .volts => .number 24
  | .current1 | .current2 => .number 10
  | .version => .number 1
  | .acceleration => .number r.registers.acceleration
  | .mode => .number r.registers.mode.code.toNat
  | .voltsAndCurrents => .numbers [24, 10, 10]
  | .error => .flags {}
  | .simSpeed => .factor (ofInt r.speedTenths / ofInt 10)

end Robot

/-! ## Streams of replies -/

namespace Wire

/-- Bytes that are read as the replies to queries, one after the other. -/
inductive Spells : List (Query × Reply α) → List UInt8 → Prop where
  | nil : Spells [] []
  | cons {q reply bytes answers more} : bytes.length = q.replySize →
      Reply.read (some q) bytes = .ok reply → Spells answers more →
      Spells ((q, reply) :: answers) (bytes ++ more)

namespace Spells

variable {answers answers' : List (Query × Reply α)} {bytes bytes' : List UInt8}

theorem single {q : Query} {reply : Reply α} (size : bytes.length = q.replySize)
    (read : Reply.read (some q) bytes = .ok reply) : Spells [(q, reply)] bytes := by
  simpa using cons size read nil

theorem append (h : Spells answers bytes) (h' : Spells answers' bytes') :
    Spells (answers ++ answers') (bytes ++ bytes') := by
  induction h with
  | nil => exact h'
  | cons size read _ ih => simpa using cons size read ih

end Spells

namespace ReplyStream

/-- Nothing is read from no bytes. -/
theorem pop_of_empty (later : List Query) :
    (pop ⟨later, []⟩ : Outcome ReplyStream (Fault α) _) = ⟨⟨later, []⟩, .ok none⟩ := by
  cases later with
  | nil => rfl
  | cons q rest => simp [pop, take?, q.replySize_pos]

theorem pop_of_spells {q : Query} {reply : Reply α} {bytes more : List UInt8}
    (size : bytes.length = q.replySize) (read : Reply.read (some q) bytes = .ok reply)
    (pending : List Query) :
    pop ⟨q :: pending, bytes ++ more⟩ = ⟨⟨pending, more⟩, .ok (some (q, reply))⟩ := by
  have enough : ¬ (bytes ++ more).length < q.replySize := by
    rw [List.length_append]
    omega
  have taken : take? ⟨q :: pending, bytes ++ more⟩ = some (q, bytes, ⟨pending, more⟩) := by
    simp only [take?]
    rw [if_neg enough, List.take_left' size, List.drop_left' size]
  simp only [pop, taken, read]
  rfl

/-- Replies whose bytes stand first are popped first. -/
theorem popUpTo_append {answers : List (Query × Reply α)} {bytes : List UInt8}
    (h : Spells answers bytes) (pending : List Query) (buffer : List UInt8) (count : Nat) :
    popUpTo (answers.length + count) ⟨answers.map Prod.fst ++ pending, bytes ++ buffer⟩ =
      (popUpTo count ⟨pending, buffer⟩).map fun last => (answers ++ last.1, last.2) := by
  induction h with
  | nil =>
    cases h : popUpTo (α := α) count ⟨pending, buffer⟩ <;> simp [h, Except.map]
  | @cons q reply piece answers rest size read _ ih =>
    simp only [List.length_cons, Nat.succ_add, List.map_cons, List.cons_append, List.append_assoc,
      popUpTo, pop_of_spells size read, bind, Except.bind, ih]
    cases popUpTo (α := α) count ⟨pending, buffer⟩ <;> rfl

theorem popUpTo_of_empty (later : List Query) (count : Nat) :
    popUpTo count ⟨later, []⟩ = (.ok ([], ⟨later, []⟩) : Except (Fault α) _) := by
  cases count with
  | zero => rfl
  | succ count => simp only [popUpTo, pop_of_empty]

/-- The replies to the queries asked first are all read, and no byte is left. -/
theorem popUpTo_of_spells {answers : List (Query × Reply α)} {bytes : List UInt8}
    (h : Spells answers bytes) (later : List Query) (count : Nat)
    (enough : answers.length ≤ count) :
    popUpTo count ⟨answers.map Prod.fst ++ later, bytes⟩ = .ok (answers, ⟨later, []⟩) := by
  obtain ⟨more, rfl⟩ := Nat.exists_eq_add_of_le enough
  have first := popUpTo_append h later [] more
  simpa [popUpTo_of_empty, Except.map] using first

theorem popAll_of_spells {answers : List (Query × Reply α)} {bytes : List UInt8}
    (h : Spells answers bytes) (later : List Query) :
    popAll ⟨answers.map Prod.fst ++ later, bytes⟩ = .ok (answers, ⟨later, []⟩) :=
  popUpTo_of_spells h later _ (by simp)

end ReplyStream

end Wire

/-! ## Answers -/

namespace Robot

omit [Scalar α] in
theorem registerByte_ok {n : Int} {bytes : List UInt8}
    (h : (registerByte n : Except (Fault α) _) = .ok bytes) :
    bytes = [n.toNat.toUInt8] ∧ (n.toNat.toUInt8.toNat : Int) = n := by
  unfold registerByte at h
  split at h
  · next fits =>
    cases h
    refine ⟨rfl, ?_⟩
    simp
    omega
  · cases h

omit [Scalar α] in
theorem counterPayload_ok {n : Int} {bytes : List UInt8}
    (h : (counterPayload n : Except (Fault α) _) = .ok bytes) : bytes = counterBytes n := by
  unfold counterPayload at h
  split at h <;> cases h
  rfl

omit [Scalar α] in
/-- A wrapped counter fits four bytes. -/
theorem counterPayload_of_wrapped {n : Int} (wrapped : wrap32 n = n) :
    (counterPayload n : Except (Fault α) _) = .ok (counterBytes n) := by
  have low := Int.le_bmod (x := n) (show 0 < 0x100000000 by decide)
  have high := Int.bmod_lt (x := n) (show 0 < 0x100000000 by decide)
  unfold wrap32 at wrapped
  exact if_pos (by omega)

/-- The four bytes of a signed 32-bit number are read as that number. -/
theorem read_counterBytes {q : Query} (one : q = .encoder1 ∨ q = .encoder2) {n : Int}
    (wrapped : wrap32 n = n) :
    Reply.read (some q) (counterBytes n) = (.ok (.number n) : Except (Fault α) _) := by
  have value := counter_counterBytes n _ _ _ _ rfl
  rw [wrapped] at value
  obtain rfl | rfl := one <;> exact congrArg (fun m => Except.ok (Reply.number m)) value

/-- Tenths that two bytes can hold are read as they are. -/
theorem read_wordBytes {n : Int} (low : 0 ≤ n) (high : n ≤ 65535) :
    Reply.read (some .simSpeed) (wordBytes n.toNat.toUInt16) =
      (.ok (.factor (ofInt n / ofInt 10)) : Except (Fault α) _) := by
  have value : (n.toNat.toUInt16.toNat : Int) = n := by
    simp
    omega
  change Except.ok (Reply.factor (ofInt (word _ _).toNat / ofInt 10)) = _
  rw [word_wordBytes, value]

theorem toNearest_ok {x : α} {n : Int} (h : toNearest x = .ok n) : n = nearest x := by
  obtain ⟨y, isFinite, h⟩ := ok_of_bind h
  cases h
  unfold finite at isFinite
  split at isFinite
  · cases isFinite
  · split at isFinite
    · cases isFinite
    · cases isFinite
      rfl

/-- What answers a query is read as what the query asks. -/
theorem answer_spells {r : Robot α} {q : Query} {bytes : List UInt8} (h : r.answer q = .ok bytes)
    (wrapped : r.registers.Wrapped) : Spells [(q, r.reading q)] bytes := by
  obtain ⟨first, second⟩ := wrapped
  cases q with
  | encoder1 =>
    obtain rfl := counterPayload_ok h
    exact .single rfl (read_counterBytes (.inl rfl) first)
  | encoder2 =>
    obtain rfl := counterPayload_ok h
    exact .single rfl (read_counterBytes (.inr rfl) second)
  | encoders =>
    obtain ⟨one, made, h⟩ := ok_of_bind h
    obtain ⟨two, made', h⟩ := ok_of_bind h
    obtain rfl := counterPayload_ok made
    obtain rfl := counterPayload_ok made'
    cases h
    refine .single rfl ?_
    have left := counter_counterBytes r.registers.encoder1 _ _ _ _ rfl
    have right := counter_counterBytes r.registers.encoder2 _ _ _ _ rfl
    rw [first] at left
    rw [second] at right
    change Except.ok (Reply.numbers [counter _ _ _ _, counter _ _ _ _]) = _
    rw [left, right]
    rfl
  | acceleration =>
    obtain ⟨rfl, value⟩ := registerByte_ok h
    refine .single rfl ?_
    change Except.ok (Reply.number _) = _
    rw [value]
    rfl
  | simSpeed =>
    obtain ⟨tenths, rounded, h⟩ := ok_of_bind h
    cases h
    obtain rfl := toNearest_ok rounded
    exact .single rfl (read_wordBytes (by omega) (by omega))
  | _ =>
    cases h
    exact .single rfl rfl

end Robot

/-! ## What a run adds to the telemetry -/

/-- What the command of a leg asks of the robot when it has moved, if the command is a query. -/
def Leg.reading? (l : Leg α) : Option (Query × Reply α) :=
  (l.command.bind Command.query?).map fun q => (q, l.arrived.reading q)

namespace Robot

/-- What the queries of a run ask, in order. -/
def readings (r : Robot α) (now : α) : List (Query × Reply α) :=
  (r.legs now).filterMap Leg.reading?

theorem wrapped_advance {r : Robot α} (h : r.registers.Wrapped) (limit : α) :
    (r.advance limit).state.registers.Wrapped :=
  advance_preserves (P := fun s => s.registers.Wrapped) (fun _ h => h) (fun _ _ h => h)
    (fun s _ counts _ => s.registers.wrapped_addCounts counts.1 counts.2) r limit h

/-- A slice that is not refused leaves both encoders wrapped. -/
theorem wrapped_of_advance {r a : Robot α} {limit : α} (h : r.advance limit = ⟨a, .ok ()⟩) :
    a.registers.Wrapped := by
  have slice := advance_slice r limit
  rw [h] at slice
  cases slice with
  | settled => exact Registers.wrapped_addCounts _ _ _

@[simp] theorem telemetry_advance (r : Robot α) (limit : α) :
    (r.advance limit).state.telemetry = r.telemetry :=
  advance_preserves (P := fun s => s.telemetry = r.telemetry) (fun _ h => h) (fun _ _ h => h)
    (fun _ _ _ h => h) r limit rfl

theorem wrapped_apply {r : Registers α} (h : r.Wrapped) (t : α) (c : Command) :
    (r.apply t c).Wrapped := by
  cases c with
  | resetEncoders => exact ⟨rfl, rfl⟩
  | mode code =>
    simp only [Registers.apply]
    cases Mode.ofCode? code.toNat <;> exact h
  | _ => exact h

/-- The bytes that a command adds to the telemetry. -/
def emits (r : Robot α) : Command → List UInt8
  | .query q => (r.answer q).toOption.getD []
  | _ => []

theorem execute_telemetry {r s : Robot α} {c : Command} (h : r.execute c = ⟨s, .ok ()⟩) :
    s.telemetry = r.telemetry ++ r.emits c := by
  cases c with
  | query q =>
    obtain ⟨bytes, answered, rfl⟩ := execute_query_ok h
    simp [emits, answered, Except.toOption]
  | mode code =>
    simp only [execute] at h
    split at h <;> cases h <;> simp [note, emits]
  | _ =>
    cases h
    simp [note, feedWatch, emits]

/-- A command adds to the telemetry what it asks, if it is a query. -/
theorem telemetry_execute {r s : Robot α} {c : Command} (h : r.execute c = ⟨s, .ok ()⟩)
    (wrapped : r.registers.Wrapped) :
    ∃ bytes, s.telemetry = r.telemetry ++ bytes ∧
      Spells (c.query?.map fun q => (q, r.reading q)).toList bytes := by
  refine ⟨r.emits c, execute_telemetry h, ?_⟩
  cases c with
  | query q =>
    obtain ⟨bytes, answered, -⟩ := execute_query_ok h
    simpa [emits, answered, Except.toOption, Command.query?] using answer_spells answered wrapped
  | _ => exact .nil

theorem perform_spells {r m : Robot α} {c : Command} {t : α} (h : r.perform c t = ⟨m, .ok ()⟩)
    (wrapped : r.registers.Wrapped) :
    m.registers.Wrapped ∧ ∃ bytes, m.telemetry = r.telemetry ++ bytes ∧
      Spells (Leg.mk r t (some c)).reading?.toList bytes := by
  obtain ⟨a, s, moved, executed, rfl⟩ := perform_ok h
  obtain rfl : (r.advance t).state = a := by rw [moved]
  have arrived := wrapped_advance wrapped t
  obtain ⟨bytes, telemetry, spells⟩ := telemetry_execute executed arrived
  refine ⟨?_, bytes, by simpa [note] using telemetry, spells⟩
  have registers := (execute_effect executed).registers
  simpa [registers] using wrapped_apply arrived t c

/-- A run that is not refused answers its queries in order, each with what it asks. -/
theorem Ran.readings {now : α} {r s : Robot α} (h : Ran now r s) (wrapped : r.registers.Wrapped) :
    s.registers.Wrapped ∧
      (r.readings now).map Prod.fst = queries (Frame.parse now r.queue).commands ∧
      ∃ bytes, s.telemetry = r.telemetry ++ bytes ∧ Spells (r.readings now) bytes := by
  induction h with
  | @idle r s waits moved =>
    obtain rfl : (r.advance now).state = s := by rw [moved]
    have none : r.readings now = [] := by simp [Robot.readings, legs_of_waiting waits, Leg.reading?]
    rw [none, Frame.parse_waiting waits]
    exact ⟨wrapped_advance wrapped now, rfl, [], by simp, .nil⟩
  | @stray r s code rest found _ ih =>
    rw [Frame.parse_stray found, Robot.readings, legs_of_stray found]
    exact ih wrapped
  | @unknown r s code rest found _ ih =>
    rw [Frame.parse_unknown found, Robot.readings, legs_of_unknown found]
    exact ih wrapped
  | @command r m s c t rest found performed _ ih =>
    obtain ⟨kept, bytes, telemetry, spells⟩ := perform_spells performed wrapped
    obtain ⟨last, asked, more, telemetry', spells'⟩ := ih kept
    have split : r.readings now = (Leg.mk r t (some c)).reading?.toList ++
        ({ m with queue := rest } : Robot α).readings now := by
      rw [Robot.readings, legs_of_ready found performed, List.filterMap_cons]
      cases (Leg.mk r t (some c)).reading? <;> rfl
    rw [split, Frame.parse_ready found]
    refine ⟨last, ?_, bytes ++ more, by simp [telemetry', telemetry], spells.append spells'⟩
    cases ask : c.query? <;> simp [Leg.reading?, ask, asked]

end Robot

end DifferentialDrive
