/-
The program as it runs: on a network, on a terminal, and with files.

Whatever happens outside is put into one inbox, in the order in which it happens,
and taken out one by one.  In between the engine moves as far as it can, and what
it has to say is written.
-/
import Provision.Places
import Provision.Program
import Provision.Key.Decode
import Provision.Terminal
import Provision.View
import Provision.WebSocket.Handshake
import Provision.WebSocket.Reader
import Std.Async.DNS
import Std.Async.Signal
import Std.Async.TCP
import Std.Sync.Channel
import Std.Time

namespace Provision.Outside

open Std.Async.TCP.Socket (Client)

/-- What happens outside. -/
inductive Happening where
  /-- The attempt at a gate has an answer: a connection, with the bytes that have come
  already, or the reason why there is none. -/
  | answered (gate : Nat) (result : Except String (Client × List UInt8))
  | received (peer : Nat) (bytes : List UInt8)
  /-- No more bytes come from a peer. -/
  | ended (peer : Nat)
  | failed (peer : Nat) (reason : String)
  | typed (text : String)
  /-- The program is asked to stop. -/
  | stop

instance : Inhabited Happening := ⟨.stop⟩

/-- Where happenings are put. -/
abbrev Inbox := Std.Channel.Sync Happening

/-- A connection, with what was read from it. -/
structure Wire where
  peer : Nat
  socket : Client
  reader : WebSocket.Reader := {}

/-- Everything outside that is known of. -/
structure World where
  inbox : Inbox
  /-- The gates whose attempt was begun. -/
  begun : List Nat := []
  wires : List Wire := []

/-! ### Connections -/

/-- What went wrong, as the system says it. -/
def reason (e : IO.Error) : String :=
  let text (code : UInt32) (details : String) : String :=
    "IO error: " ++ details.capitalize ++ " (os error " ++ toString (0 - code).toNat ++ ")"
  match e with
  | .otherError code details | .resourceBusy code details | .resourceVanished code details
  | .unsupportedOperation code details | .hardwareFault code details
  | .unsatisfiedConstraints code details | .illegalOperation code details
  | .protocolError code details | .timeExpired code details => text code details
  | .alreadyExists _ code details | .invalidArgument _ code details
  | .permissionDenied _ code details | .resourceExhausted _ code details
  | .inappropriateType _ code details | .noSuchThing _ code details => text code details
  | .interrupted _ code details | .noFileOrDirectory _ code details => text code details
  | e => "IO error: " ++ toString e

/-- Connect to the first of several addresses that can be connected to. -/
def connectFirst (port : UInt16) : List Std.Net.IPAddr → IO Client
  | [] => throw (.userError "no address")
  | address :: rest => do
    let place : Std.Net.SocketAddress := match address with
      | .v4 addr => .v4 ⟨addr, port⟩
      | .v6 addr => .v6 ⟨addr, port⟩
    try
      let socket ← Client.mk
      (socket.connect place).block
      socket.noDelay
      return socket
    catch e => if rest.isEmpty then throw e else connectFirst port rest

/-- Read the answer to a request. -/
partial def readAnswer (socket : Client) (key : String) (bytes : List UInt8) :
    IO (Except String (List UInt8)) := do
  match WebSocket.Handshake.read? key bytes with
  | .error fault => return .error fault.message
  | .ok (some rest) => return .ok rest
  | .ok none =>
    match ← (socket.recv? 4096).block with
    | some more => readAnswer socket key (bytes ++ more.toList)
    | none => return .error WebSocket.Handshake.Fault.unfinished.message

/-- Attempt to connect to a target. -/
def dial (target : String) : IO (Except String (Client × List UInt8)) := do
  match WebSocket.Target.read target with
  | .error fault => return .error fault.message
  | .ok whom =>
    try
      let host := whom.host.toList.filter fun c => c ≠ '[' && c ≠ ']'
      let addresses ← (Std.Async.DNS.getAddrInfo (String.ofList host) (toString whom.port)).block
      let socket ← connectFirst whom.port addresses.toList
      if let some fault := whom.fault? then return .error fault.message
      let key := WebSocket.Handshake.key (← IO.getRandomBytes 16).toList
      (socket.send (WebSocket.Handshake.request whom key).toUTF8).block
      return (← readAnswer socket key []).map (socket, ·)
    catch e => return .error (reason e)

/-- Listen to a connection until it ends. -/
partial def listen (inbox : Inbox) (peer : Nat) (socket : Client) : IO Unit := do
  match ← (socket.recv? 65536).block.toBaseIO with
  | .ok (some bytes) =>
    inbox.send (.received peer bytes.toList)
    listen inbox peer socket
  | .ok none => inbox.send (.ended peer)
  | .error e => inbox.send (.failed peer (reason e))

/-- Do something while the program goes on. -/
def meanwhile (act : IO Unit) : IO Unit :=
  discard <| IO.asTask act .dedicated

/-- Send a frame. -/
def sendFrame (w : World) (wire : Wire) (f : WebSocket.Frame) : IO Unit := do
  let key := (← IO.getRandomBytes 4).data
  try
    (wire.socket.send ⟨(f.encode key).toArray⟩).block
  catch e => w.inbox.send (.failed wire.peer (reason e))

/-- What was read from a connection is delivered, and answered. -/
def deliver (w : World) (n : Network) (wire : Wire) (outcome : WebSocket.Reader.Outcome) :
    IO (World × Network) := do
  let (reader, inbound, replies) := outcome
  for f in replies do
    sendFrame w wire f
  let wires := w.wires.map fun other => if other.peer = wire.peer then { wire with reader } else other
  return ({ w with wires }, inbound.foldl (·.deliver wire.peer ·) n)

/-- How many attempts are held back before they are made. -/
def ahead : Nat := 4

/-- Begin what the client waits for: attempts are made, payloads are sent, and
connections that it let go of are closed. -/
def serve (w : World) (x : Exchange) : IO (World × Exchange) := do
  let mut w := w
  for l in x.session.links do
    if let .waiting gate := l.stage then
      if !w.begun.contains gate then
        w := { w with begun := gate :: w.begun }
        let inbox := w.inbox
        meanwhile do inbox.send (.answered gate (← dial l.target))
  let mut wires := []
  for wire in w.wires do
    if let some peer := x.network.peers[wire.peer]? then
      for p in peer.written.drop peer.collected do
        sendFrame w wire (.ofPayload p)
      if peer.released then
        if !wire.reader.isOver then
          sendFrame w wire { kind := .close, payload := [] }
        try wire.socket.shutdown.block catch _ => pure ()
      else wires := wires ++ [wire]
  let network := w.wires.foldl (fun n wire => n.collect wire.peer) x.network
  let network := (List.range (ahead - network.plans.length)).foldl (fun n _ => n.hold) network
  return ({ w with wires }, { x with network })

/-- What happens on the network, as far as the client sees it. -/
def absorb (w : World) (x : Exchange) (h : Happening) : IO (World × Exchange) := do
  let onWire (peer : Nat) (read : Wire → WebSocket.Reader.Outcome) : IO (World × Exchange) := do
    match w.wires.find? (·.peer = peer) with
    | none => return (w, x)
    | some wire =>
      let (w, network) ← deliver w x.network wire (read wire)
      return (w, { x with network }.settle)
  match h with
  | .answered gate (.error reason) =>
    return (w, (x.onNetwork fun n => (n.openGate gate (.refuse reason)).2).settle)
  | .answered gate (.ok (socket, bytes)) =>
    let peer := x.network.peers.length
    let x := (x.onNetwork fun n => (n.openGate gate .accept).2).settle
    if x.network.peers.length = peer then
      try socket.shutdown.block catch _ => pure ()
      return (w, x)
    let wire : Wire := { peer, socket }
    let w := { w with wires := w.wires ++ [wire] }
    meanwhile (listen w.inbox peer socket)
    let (w, network) ← deliver w x.network wire (wire.reader.feed bytes)
    return (w, { x with network }.settle)
  | .received peer bytes => onWire peer fun wire => wire.reader.feed bytes
  | .ended peer => onWire peer (·.reader.finish)
  | .failed peer reason =>
    onWire peer fun wire => ({ wire.reader with isOver := true }, [.failure (.transport reason)], [])
  | .typed _ | .stop => return (w, x)

/-! ### Time -/

/-- Milliseconds since the epoch. -/
def clock : IO Int :=
  return (← Std.Time.Timestamp.now).toMillisecondsSinceUnixEpoch.val

/-- The time of day. -/
def timeOfDay : IO TimeOfDay := do
  try
    let t := (← Std.Time.PlainDateTime.now).time
    return ⟨t.hour.val.toNat, t.minute.val.toNat, t.second.val.toNat⟩
  catch _ => return .ofSeconds ((← clock) / 1000).toNat

/-- The day, as logs are named. -/
def today : IO String := do
  let days := (← Std.Time.Timestamp.now).toDaysSinceUnixEpoch
  return (Std.Time.PlainDate.ofEpochDay days).toSQLDateString

/-! ### Runs -/

/-- More turns than an engine takes until it has to wait. -/
def turns : Nat := 1000000

/-- Print lines at once. -/
def print (lines : List String) : IO Unit := do
  let out ← IO.getStdout
  for line in lines do
    out.putStrLn line
  out.flush

/-- A run without a screen. -/
partial def headless (w : World) (r : Headless.Run) (printed : Nat) : IO Headless.Outcome := do
  let r := r.advance turns
  let time ← clock
  print ((r.events.drop printed).map (·.line time))
  let (w, exchange) ← serve w r.engine.exchange.settle
  match r.outcome? with
  | some outcome => return outcome
  | none =>
    let h ← w.inbox.recv
    let (w, exchange) ← absorb w exchange h
    let engine := { r.engine with exchange }
    let engine := if h matches .stop then engine.post (.command .quit) else engine
    headless w { r with engine } r.events.length

/-- A run on a terminal, of which `shown` is on the screen. -/
partial def interactive (w : World) (e : Engine) (size : Nat × Nat) (shown : String) :
    IO Unit := do
  let (screen, app) := View.draw { e.app with now := ← timeOfDay } size.1 size.2
  let picture := Terminal.draw screen
  if picture ≠ shown then
    IO.print picture
    (← IO.getStdout).flush
  let (w, exchange) ← serve w e.exchange
  let e := { e with app, exchange }
  if app.quitting then
    discard <| serve w e.shutdown.1.exchange.settle
  else
    match e.run 1 with
    | (e, _ :: _, _) => interactive w e size picture
    | (e, [], _) =>
      let h ← w.inbox.recv
      let (w, exchange) ← absorb w e.exchange h
      let messages := match h with
        | .typed text => (Key.typed text).map Message.key
        | .stop => [.command .quit]
        | _ => []
      interactive w (messages.foldl Engine.post { e with exchange }) size picture

/-- Hear of the signals that ask the program to stop. -/
def hearSignals (inbox : Inbox) : IO Unit := do
  for signal in [Std.Async.Signal.sigint, .sigterm, .sighup] do
    let waiter ← Std.Async.Signal.Waiter.mk signal false
    let task ← waiter.wait
    meanwhile do
      discard task.block
      inbox.send .stop

/-- Hear of the keys that are pressed. -/
partial def hearKeys (inbox : Inbox) : IO Unit := do
  let bytes ← (← IO.getStdin).read 1024
  if bytes.isEmpty then inbox.send .stop
  else
    inbox.send (.typed (String.ofList (Text.Utf8.decodeLossy bytes.toList)))
    hearKeys inbox

/-- The columns and rows of the terminal, as far as it says so. -/
def terminalSize : IO (Nat × Nat) := do
  let number (name : String) (default : Nat) : IO Nat :=
    return ((← IO.getEnv name).bind (·.toNat?)).getD default
  return (← number "COLUMNS" 80, ← number "LINES" 24)

/-- Carry out what there is to do. -/
def carryOut (task : Task) (logFile : String) : IO Exit := do
  let inbox : Inbox ← Std.Channel.Sync.new
  let (w, exchange) ← serve { inbox } {}
  match task with
  | .exit e => return e
  | .headless settings endpoint filling =>
    hearSignals inbox
    let engine := { Engine.start settings endpoint with exchange }
    return Program.finished logFile (← headless w (Headless.Run.start engine filling) 0)
  | .interactive settings endpoint =>
    hearSignals inbox
    meanwhile (hearKeys inbox)
    let engine := { Engine.start settings endpoint with exchange }
    IO.print Terminal.enter
    try
      interactive w engine (← terminalSize) ""
    finally
      IO.print Terminal.leave
      (← IO.getStdout).flush
    return {}

/-- Begin the log of the day. -/
def openLog : IO String := do
  let folder := Places.logs (← IO.getEnv "XDG_DATA_HOME") (← IO.getEnv "HOME")
  IO.FS.createDirAll folder
  let file := Places.log folder (← today)
  let log ← IO.FS.Handle.mk file .append
  log.putStrLn s!"{(← timeOfDay).display} VPNator starting"
  return file

/-- The environment of a run with these arguments. -/
def environment (args : List String) : IO Environment := do
  let usual := Places.settings? (← IO.getEnv "XDG_CONFIG_HOME") (← IO.getEnv "HOME")
  let named := match CommandLine.read args with
    | .ok arguments => arguments.config
    | .error _ => none
  let bytes ← try (some ·.toList) <$> IO.FS.readBinFile ((named.or usual).getD "")
    catch _ => pure none
  return { endpoint := ← IO.getEnv Endpoint.variableName, file := fun _ => bytes }

end Provision.Outside

open Provision in
/-- Run the program. -/
def main (args : List String) : IO UInt32 := do
  let task := Program.start args (← Outside.environment args)
  let logs : Bool := match task with
    | .exit e => e.logged
    | _ => true
  let logFile ← if logs then Outside.openLog else pure ""
  let exit ← Outside.carryOut task logFile
  Outside.print exit.stdout
  for line in exit.stderr do
    IO.eprintln line
  return UInt32.ofNat exit.code
