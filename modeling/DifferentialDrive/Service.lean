import DifferentialDrive.Config.Links
import DifferentialDrive.Link.Datagram
import DifferentialDrive.Link.Serial
import DifferentialDrive.Service.Limit

/-!
# The service

The service runs a simulation against the clock of its machine. In each turn what has come over the
links becomes command bytes, the robot is moved to the time of the turn, and its telemetry goes back
out. A run begins by opening the links and ends, whichever way it ends, by stopping the simulation
and closing them. The machine may strike the program in any of its statements.
-/

namespace DifferentialDrive

structure Service extends Station Float where
  /-- When the status is logged next. -/
  statusAt : Float
  intervals : Config.Intervals

namespace Service

variable {β : Type}

abbrev Step := Outcome Service (Fault Float) Unit

def note (s : Service) (e : Event Float) : Service := { s with sim := s.sim.note e }

/-- Takes over what something came to on the station. -/
def onStation (s : Service) (o : Outcome (Station Float) (Fault Float) β) :
    Outcome Service (Fault Float) β :=
  ⟨{ s with toStation := o.state }, o.result⟩

/-- What comes of a request to the machine. -/
def request (s : Service) (f : World → Outcome World Strike β) :
    Outcome Service (Fault Float) β :=
  s.onStation (s.ask f)

/-- Comes to the next statement. One in which the program is struck is not done: what it has made of
the robot by then is up to the machine. -/
def proceed (s : Service) : Step :=
  let o := s.request World.statement
  match o.result with
  | .ok () => o
  | .error f =>
    let robot := s.world.machine.cut s.world.past s.sim.robot
    ⟨{ o.state with sim := { s.sim with robot := robot } }, .error f⟩

/-- Statements in turn, until one is refused or struck. -/
def inTurn (s : Service) : List (Service → Step) → Step
  | [] => ⟨s, .ok ()⟩
  | step :: rest => s.proceed.andThen fun s _ => (step s).andThen fun s _ => s.inTurn rest

/-! ## Turns -/

/-- What is done on a link, if there is the link. -/
def onLink (s : Service) (there : Bool) (o : Outcome (Station Float) (Fault Float) β) : Step :=
  if there then (s.onStation o).andThen fun s _ => ⟨s, .ok ()⟩ else ⟨s, .ok ()⟩

def lineIngress (s : Service) (now : Float) : Step :=
  s.onLink s.line (s.toStation.lineIngress now)

def socketIngress (s : Service) (now : Float) : Step :=
  s.onLink s.socket.isSome (s.toStation.socketIngress now)

def tick (s : Service) (now : Float) : Step :=
  let o := s.sim.tick now
  ⟨{ s with sim := o.state }, o.result.map fun _ => ()⟩

def lineEgress (s : Service) : Step := s.onLink s.line s.toStation.lineEgress

def socketEgress (s : Service) : Step := s.onLink s.socket.isSome s.toStation.socketEgress

/-- Logs where the robot is, and the obstacles it overlaps, when it is time to. -/
def report (s : Service) (now : Float) : Step :=
  if s.statusAt ≤ now then
    let s := s.note (.status s.sim.robot.track.pose s.sim.robot.registers)
    match s.sim.collisions with
    | .error f => ⟨s, .error f⟩
    | .ok hits =>
      let s := if hits.isEmpty then s else s.note (.overlapping hits)
      ⟨{ s with statusAt := now + s.intervals.status }, .ok ()⟩
  else ⟨s, .ok ()⟩

/-- What has come over the links by a given time becomes command bytes. -/
def intake (s : Service) (now : Float) : Step :=
  s.inTurn [(·.lineIngress now), (·.socketIngress now)]

/-- One cycle at a given time. -/
def cycle (s : Service) (now : Float) : Step :=
  (s.intake now).andThen fun s _ =>
    s.inTurn [(·.tick now), lineEgress, socketEgress, (·.report now)]

/-- One turn, which has the time of an interval; the result says whether it is not the last. -/
def turn (s : Service) (limit : Limit) (start : Float) : Outcome Service (Fault Float) Bool :=
  if s.sim.running then
    (s.request World.clock).andThen fun s now =>
      match limit.isReached (now - start) with
      | .error f => ⟨s, .error f⟩
      | .ok true => ⟨s, .ok false⟩
      | .ok false =>
        (s.cycle now).andThen fun s _ =>
          (s.request World.clock).andThen fun s done =>
            let pause := s.intervals.tick - (done - now)
            if 0 < pause then (s.request (·.sleep pause)).andThen fun s _ => ⟨s, .ok true⟩
            else ⟨s, .ok true⟩
  else ⟨s, .ok false⟩

/-- Turns until one is the last or is refused; `none` if there are turns without end. -/
def loop (limit : Limit) (start : Float) (s : Service) : Option Step :=
  match s.turn limit start with
  | ⟨s, .error f⟩ => some ⟨s, .error f⟩
  | ⟨s, .ok false⟩ => some ⟨s, .ok ()⟩
  | ⟨s, .ok true⟩ => (loop (s := s)) limit start
partial_fixpoint

/-! ## The end of a run -/

def stop (s : Service) : Step := ⟨{ s with sim := s.sim.stop }, .ok ()⟩

def closeLine (s : Service) : Step := s.onLink s.line s.toStation.closeLine

def closeSocket (s : Service) : Step := s.onLink s.socket.isSome (s.ask World.closeSocket)

/-- Stops the simulation and closes the links. -/
def finish (s : Service) : Step := s.inTurn [stop, closeLine, closeSocket]

/-- An interruption of the turns is noted and is no failure. -/
def settle (o : Step) : Step :=
  match o.result with
  | .error (.struck .interrupted) => o.state.inTurn [fun s => ⟨s.note .shuttingDown, .ok ()⟩]
  | _ => o

/-- The end of a run whose turns have come to an end. What they were refused with comes out behind
the rest, unless that is refused itself. -/
def wrapUp (o : Step) : Step :=
  let settled := settle o
  settled.state.finish.andThen fun s _ => ⟨s, settled.result⟩

/-! ## Opening the links -/

def openPort (s : Service) (l : LineSettings) : Step :=
  (s.request (·.openLine l)).andThen fun s _ => ⟨{ s with line := true }, .ok ()⟩

/-- Notes that a line is open, if there are words for how it is set. -/
def announceLine (s : Service) (l : LineSettings) : Step :=
  match Config.shownText l.port, Config.shownNumber l.baud with
  | .ok name, .ok baud => ⟨s.note (.lineOpened name baud), .ok ()⟩
  | _, _ => ⟨s, .ok ()⟩

def createSocket (s : Service) : Step := s.request World.openSocket

def bindSocket (s : Service) (a : AddressSettings) : Step :=
  (s.request (·.bind a)).andThen fun s _ => ⟨{ s with socket := some {} }, .ok ()⟩

def announceSocket (s : Service) : Step :=
  (s.request World.address).andThen fun s a => ⟨s.note (.socketOpened a.host a.number), .ok ()⟩

/-- Does what a setting asks for, if there is the setting. -/
def asSet (s : Service) (setting : Except Failure (Option β)) (steps : β → List (Service → Step)) :
    Outcome Service Failure Unit :=
  match setting with
  | .error f => ⟨s, .error f⟩
  | .ok none => ⟨s, .ok ()⟩
  | .ok (some b) =>
    let o := s.inTurn (steps b)
    ⟨o.state, o.result.mapError .fault⟩

def openLine (s : Service) (cfg : Document.Value) : Outcome Service Failure Unit :=
  s.asSet (Config.line cfg) fun l => [(·.openPort l), (·.announceLine l)]

def openSocket (s : Service) (cfg : Document.Value) : Outcome Service Failure Unit :=
  s.asSet (Config.address cfg) fun a => [createSocket, (·.bindSocket a), announceSocket]

def openLinks (s : Service) (cfg : Document.Value) : Outcome Service Failure Unit :=
  (s.openLine cfg).andThen fun s _ => s.openSocket cfg

/-! ## Runs -/

/-- The service that a configuration describes, with its links not opened and its status due at
once. -/
def build (w : World) (cfg : Document.Value) : Outcome World Failure Service :=
  match Config.intervals cfg with
  | .error f => ⟨w, .error f⟩
  | .ok intervals =>
    match w.clock with
    | ⟨w, .error k⟩ => ⟨w, .error (.fault (.struck k))⟩
    | ⟨w, .ok start⟩ =>
      match Config.simulation cfg start with
      | .error f => ⟨w, .error f⟩
      | .ok sim => ⟨w, .ok { sim := sim, world := w, statusAt := start, intervals := intervals }⟩

/-- Starts the simulation. The program may also be struck between that and the first turn. -/
def start (s : Service) (now : Float) : Step :=
  (s.inTurn [fun s => ⟨{ s with sim := s.sim.start now }, .ok ()⟩]).andThen fun s _ => s.proceed

/-- What a run leaves: the world, the service if it came to be, and why it failed if it did. -/
structure Run where
  world : World
  service : Option Service := none
  failure : Option Failure := none

/-- The run that a step is the last of. -/
def Run.ofStep (o : Step) : Run where
  world := o.state.world
  service := some o.state
  failure := match o.result with
    | .ok () => none
    | .error f => some (.fault f)

/-- Builds the service that a configuration describes and runs it; `none` for a run without end. A
service whose links do not all open is not started. -/
def run (m : Machine) (cfg : Document.Value) (limit : Limit) : Option Run :=
  match build { machine := m } cfg with
  | ⟨w, .error f⟩ => some { world := w, failure := some f }
  | ⟨_, .ok s⟩ =>
    let begun := s.statusAt
    match s.openLinks cfg with
    | ⟨s, .error f⟩ => some { world := s.world, service := some s, failure := some f }
    | ⟨s, .ok ()⟩ =>
      match s.start begun with
      | ⟨s, .error f⟩ => some (.ofStep ⟨s, .error f⟩)
      | ⟨s, .ok ()⟩ => (s.loop limit begun).map fun o => .ofStep (wrapUp o)

end Service

end DifferentialDrive
