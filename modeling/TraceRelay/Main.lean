import TraceRelay.CommandLine
import TraceRelay.Control.Http
import TraceRelay.HourTimer
import TraceRelay.Log.Clock
import TraceRelay.Log.Duration
import TraceRelay.Outbound.Supervisor
import TraceRelay.Outbound.Worker
import TraceRelay.Record.Encoder
import Std.Async
import Std.Sync.Mutex
/-! The daemon: sockets, timers, files and signals. Whatever happens is told to the library, and the answer
is carried out. -/
namespace TraceRelay.Main
open Std Async
open Text (Bytes)
open Outbound (Worker Phase Supervisor Lane)

def toChunk (bs : Bytes) : ByteArray := ⟨bs.toArray⟩

def micros : IO Nat := do
  let since := (← Time.Timestamp.now).toNanosecondsSinceUnixEpoch
  return (since.toInt / 1000).toNat

def millis : IO Int64 := do return Int64.ofNat ((← micros) / 1000)

structure Daemon where
  prepared : CommandLine.Prepared
  agent : Mutex Agent
  process : String
  backgroundStop : IO.Ref Bool
  senderStop : IO.Ref Bool

namespace Daemon

def stamp (d : Daemon) : IO Aggregate.Stamp := do return ⟨← millis, d.process⟩

def log (p : CommandLine.Prepared) (es : List Log.Event) : IO Unit := do
  let out ← IO.getStdout
  for e in p.shown es do
    out.putStr (e.line (Log.clock (← micros)))
  out.flush

def change (d : Daemon) (f : Agent → α × Agent) : IO α := d.agent.atomically (modifyGet f)

def turn (d : Daemon) (t : Agent.Turn) : IO Unit :=
  d.change fun a => ((), (a.step? t).getD a)

end Daemon

/-! Network -/

/-- False when the time is up first. -/
def within (limit : Nat) (work : Async Unit) : Async Bool :=
  let done : Async Bool := do
    work
    return true
  let late : Async Bool := do
    sleep (Time.Millisecond.Offset.ofInt limit)
    return false
  Async.race done late

def resolve (host : String) (service : UInt16) : Async (Option Net.SocketAddress) := do
  match Net.IPv4Addr.ofString host with
  | some ip => return some (.v4 ⟨ip, service⟩)
  | none =>
    let found ← DNS.getAddrInfo host ""
    return found[0]?.map fun a => match a with
      | .v4 ip => .v4 ⟨ip, service⟩
      | .v6 ip => .v6 ⟨ip, service⟩

def dial (address : String) : Async (Option TCP.Socket.Client) := do
  match Inbound.Place.ofText address with
  | .ok (.network host service) =>
    try
      match ← resolve host service with
      | none => return none
      | some goal =>
        let client ← TCP.Socket.Client.mk
        if ← within Outbound.dialDeadline (client.connect goal) then
          client.noDelay
          return some client
        else return none
    catch _ => return none
  | _ => return none

partial def readToEnd (client : TCP.Socket.Client) (read : Bytes) : Async Bytes := do
  match ← client.recv? 65536 with
  | some chunk => readToEnd client (read ++ chunk.toList)
  | none => return read

/-! Control plane -/

def askServer (s : Settings) (server : String) : Async Control.Outcome := do
  match ← dial server with
  | none => return none
  | some client =>
    try
      client.send (toChunk (Control.request server s))
      return Control.reply? (← readToEnd client [])
    catch _ => return none

partial def shuffled (servers : List String) : BaseIO (List String) := do
  if servers.isEmpty then return []
  let i ← IO.rand 0 (servers.length - 1)
  return servers.getD i "" :: (← shuffled (servers.eraseIdx i))

/-- The servers are asked in turn until one answers well; what is decided from the answers is decided
again by the library. -/
def outcomes (s : Settings) : Async (List (String × Control.Outcome)) := do
  let mut answers := []
  for server in ← shuffled s.servers do
    let outcome ← askServer s server
    answers := answers ++ [(server, outcome)]
    if (Control.document? outcome).isSome then return answers
  return answers

def answerOf (answers : List (String × Control.Outcome)) (server : String) : Control.Outcome :=
  ((answers.find? (·.1 == server)).map (·.2)).join

partial def pollLoop (d : Daemon) (wait : Nat) : Async Unit := do
  if ← d.backgroundStop.get then return
  if 0 < wait then
    sleep 100
    pollLoop d (wait - 100)
  else
    let answers ← outcomes d.prepared.settings
    d.change fun a =>
      let polled := Control.pollEach answers a.pipeline.routing
      ((), { a with pipeline := { a.pipeline with routing := polled.routing } })
    pollLoop d Control.pollInterval

/-! Timers -/

partial def hourLoop (d : Daemon) (wait : Nat) : Async Unit := do
  if ← d.backgroundStop.get then return
  if 0 < wait then
    sleep 100
    hourLoop d (wait - 100)
  else
    let now ← millis
    d.change fun a => ((), a.setIds (HourTimer.wake a.pipeline.ids now).2)
    hourLoop d (HourTimer.untilNextHour (← millis))

partial def aggregateLoop (d : Daemon) (k : Aggregate.Kind) (due : Nat) : Async Unit := do
  let now ← IO.monoMsNow
  let stage ← d.change fun a => (a.pipeline.stage k, a)
  match stage with
  | .finished => return
  | .running =>
    d.turn (.closeAggregator k)
    d.change fun a => ((), (List.range Aggregate.usualCapacity).foldl (fun a _ =>
      (a.step? (.absorb k)).getD a) a)
    if due ≤ now then
      d.turn (.tick k (← d.stamp))
      aggregateLoop d k (now + Aggregate.flushInterval)
    else
      sleep 50
      aggregateLoop d k due
  | .closing =>
    d.turn (.absorb k)
    d.turn (.finishAggregator k (← d.stamp))
    aggregateLoop d k due

/-! Workers -/

structure Hand where
  post : Outbound.Post
  encoder : Record.Encoder
  worker : Worker := {}
  link : Option TCP.Socket.Client := none
  due : Nat := 0

def take (d : Daemon) (l : Lane) : IO (Option Tree) :=
  d.change fun a => match a.pipeline.outbox.take? l with
    | some (t, b) => (some t, { a with pipeline := { a.pipeline with outbox := b } })
    | none => (none, a)

partial def happening (d : Daemon) (stop : IO.Ref Bool) (h : Hand) :
    Async (Outbound.Event × Option TCP.Socket.Client) := do
  let shutdown ← d.change fun a => (a.pipeline.outbox.closing, a)
  match h.worker.phase with
  | .receiving =>
    if ← stop.get then return (.cancelled shutdown, h.link)
    match ← take d h.post.lane with
    | some t => return (.received t, h.link)
    | none =>
      if h.due ≤ (← IO.monoMsNow) then return (.tick, h.link)
      sleep 20
      happening d stop h
  | .waiting delay =>
    let rec waitFor (left : Nat) : Async Outbound.Event := do
      if ← stop.get then return .cancelled shutdown
      if left = 0 then return .waited
      sleep 50
      waitFor (left - 50)
    return (← waitFor delay, none)
  | .draining =>
    match ← take d h.post.lane with
    | some t => return (.drained t, h.link)
    | none => return (.nothingQueued, h.link)
  | _ =>
    match ← dial h.post.address with
    | some link => return (.dialed, some link)
    | none => return (.refused, none)

/-- A connection over which a batch is not written in time is given up, with the batch. -/
def carryOut (d : Daemon) (h : Hand) : Async Hand := do
  let trees := h.worker.connections.headD []
  let forgotten := (h.worker.connections.take 1).map fun _ => []
  let kept := { h with worker := { h.worker with connections := forgotten } }
  if trees.isEmpty then return kept
  let (encoder, out) := h.encoder.encodeAll #[] trees
  let kept := { kept with encoder := encoder }
  match h.link with
  | none => return kept
  | some link =>
    let failure ← try
      let whole ← within Outbound.writeDeadline (link.send ⟨out⟩)
      pure (if whole then none else some "deadline exceeded")
    catch e => pure (some ("error: " ++ toString e))
    match failure with
    | none => return kept
    | some reason =>
      Daemon.log d.prepared [h.post.unwritten reason]
      return { kept with link := none, worker := { kept.worker with established := none } }

partial def workLoop (d : Daemon) (stop : IO.Ref Bool) (h : Hand) : Async Unit := do
  if h.worker.phase == .finished then
    match h.link with
    | some link => link.shutdown
    | none => return
  else
    let (e, link) ← happening d stop h
    let now ← IO.monoMsNow
    let due := match e with
      | .tick => now + Outbound.tickInterval
      | _ => h.due
    let worker := (h.worker.step? now e).getD h.worker
    workLoop d stop (← carryOut d { h with worker := worker, link := link, due := due })

def startPool (d : Daemon) (stop : IO.Ref Bool) (table : List String) :
    Async (List (AsyncTask Unit)) := do
  let s := d.prepared.settings
  let count : Lane → Nat
    | .normal => Settings.workers s.normalWorkers
    | .high => Settings.workers s.highWorkers
  let mut tasks := []
  for post in Outbound.posts count table do
    tasks := (← async (workLoop d stop
      { post := post, encoder := ⟨⟨s.hostname, s.ip⟩, #[]⟩ })) :: tasks
  return tasks

partial def superviseLoop (d : Daemon) (s : Supervisor) (stop : IO.Ref Bool)
    (pool : List (AsyncTask Unit)) : Async Unit := do
  let routing ← d.change fun a => (a.pipeline.routing, a)
  let asked ← d.senderStop.get
  let next := fun t => s.step? routing asked t
  match s.stage with
  | .reading => superviseLoop d ((next .read).getD s) stop pool
  | .starting table =>
    stop.set false
    superviseLoop d ((next .start).getD s) stop (← startPool d stop table)
  | .waiting =>
    match (next .wake).orElse fun _ => next .shutdown with
    | some s => superviseLoop d s stop pool
    | none =>
      sleep 50
      superviseLoop d s stop pool
  | .stopping _ =>
    if s.closing then d.turn .closeSender
    stop.set true
    for task in pool do await task
    superviseLoop d ((next .joined).getD s) stop []
  | .finished => return

/-! Clients -/

def receive (d : Daemon) (client : TCP.Socket.Client) : Async (Option ByteArray) := do
  let limit := d.prepared.settings.readTimeout
  if limit = 0 then client.recv? 65536
  else
    Selectable.one #[
      .case (client.recvSelector 65536) fun chunk => return chunk,
      .case (← Selector.sleep (Time.Millisecond.Offset.ofInt limit.toNat)) fun _ => return none]

def peerName : Net.SocketAddress → String
  | .v4 a => a.addr.toString ++ ":" ++ toString a.port
  | .v6 a => "[" ++ a.addr.toString ++ "]:" ++ toString a.port

def respond (d : Daemon) (client : TCP.Socket.Client) (response : Inbound.Response) : Async Bool := do
  let limit := d.prepared.settings.writeTimeout.toNat
  let out := toChunk response.encode
  if limit = 0 then
    client.send out
    return true
  else within limit (client.send out)

partial def serveLoop (d : Daemon) (client : TCP.Socket.Client) (peer : String) (read : Bytes) : Async Unit := do
  match Inbound.next read with
  | .request r rest =>
    let (said, response) ← d.change fun a =>
      let (response, after) := a.answer r
      ((a.notices peer r, response), after)
    Daemon.log d.prepared said
    match response with
    | some response =>
      if ← respond d client response then serveLoop d client peer rest else client.shutdown
    | none => serveLoop d client peer rest
  | .tooLong _ => client.shutdown
  | .ended =>
    match ← receive d client with
    | some chunk => serveLoop d client peer (read ++ chunk.toList)
    | none => client.shutdown

partial def acceptLoop (d : Daemon) (server : TCP.Socket.Server) : Async Unit := do
  let client ← server.accept
  background (try serveLoop d client (peerName (← client.getPeerName)) [] catch _ => pure ())
  acceptLoop d server

def listen (address : String) : Async (Except Inbound.Place.Fault TCP.Socket.Server) := do
  match Inbound.Place.ofText address with
  | .error f => return .error f
  | .ok (.socketFile _) =>
    -- The standard library has sockets for network addresses only, so that one in a file cannot be bound here.
    return .error (.system "Unix sockets are not supported on this platform")
  | .ok (.network host service) =>
    try
      match ← resolve host service with
      | none => return .error (.system "failed to lookup address information")
      | some goal =>
        let server ← TCP.Socket.Server.mk
        server.bind goal
        server.listen 1024
        return .ok server
    catch e => return .error (.system (toString e))

/-! From start to end -/

def waitForSignal : Async Unit := do
  let terminate ← Signal.Waiter.mk .sigterm false
  let interrupt ← Signal.Waiter.mk .sigint false
  let first : Async Unit := do discard (await (← terminate.wait))
  let second : Async Unit := do discard (await (← interrupt.wait))
  Async.race first second

def run (p : CommandLine.Prepared) (process : String) : Async UInt32 := do
  Daemon.log p [CommandLine.starting p]
  let s := p.settings
  let answers ← outcomes s
  let failed := fun (c : CommandLine.Course) => do
    Daemon.log p c.events
    return (1 : UInt32)
  match Agent.start? s (HourTimer.hourAt (← millis)) (answerOf answers) (answers.map (·.1)) with
  | .error f => failed (.notStarted f)
  | .ok agent =>
    match ← listen s.address with
    | .error f => failed (.notBound s.address f)
    | .ok server =>
      let d : Daemon := ⟨p, ← Mutex.new agent, process, ← IO.mkRef false, ← IO.mkRef false⟩
      background (acceptLoop d server)
      let supervisor ← async (superviseLoop d {} (← IO.mkRef false) [])
      let now ← IO.monoMsNow
      let aggregators ← [Aggregate.Kind.transaction, .event].mapM fun k =>
        async (t := AsyncTask) (aggregateLoop d k (now + Aggregate.flushInterval))
      let hours ← async (t := AsyncTask) (hourLoop d (HourTimer.untilNextHour (← millis)))
      let polls ← async (t := AsyncTask) (pollLoop d Control.pollInterval)
      waitForSignal
      let ending := CommandLine.Course.stopped.events
      Daemon.log p (ending.take 1)
      d.turn .askShutdown
      d.backgroundStop.set true
      await hours
      await polls
      d.turn .backgroundJoined
      for task in aggregators do await task
      d.turn .aggregatorsJoined
      d.senderStop.set true
      await supervisor
      Daemon.log p (ending.drop 1)
      return 0

partial def fileText (folders : List String) (path : String) : IO (Option (Except Unit String)) := do
  let place := match folders with
    | f :: _ => if path.startsWith "/" then path else f ++ "/" ++ path
    | [] => path
  try
    let bytes ← IO.FS.readBinFile place
    return some (match String.fromUTF8? bytes with
      | some s => .ok s
      | none => .error ())
  catch _ =>
    match folders with
    | _ :: g :: rest => if path.startsWith "/" then return none else fileText (g :: rest) path
    | _ => return none

def foldersFrom (folder : String) : List String :=
  let parts := (folder.splitOn "/").filter (· ≠ "")
  (List.range (parts.length + 1)).map fun k =>
    String.join ((parts.take (parts.length - k)).map fun p => "/" ++ p)

def readVariables : IO CommandLine.Variables := do
  let raw ← IO.FS.readBinFile "/proc/self/environ"
  return (Text.splitOn 0 raw.toList).filterMap fun entry =>
    let name := entry.takeWhile (· ≠ 61)
    if name = [] then none else some (Text.lossy name, Text.lossy (entry.drop (name.length + 1)))

def host (vs : CommandLine.Variables) : IO Host := do
  let system ← try IO.FS.readFile "/proc/sys/kernel/hostname" catch _ => pure ""
  let interfaces ← try Net.interfaceAddresses catch _ => pure #[]
  let ips := interfaces.toList.filterMap fun i => match i.address with
    | .v4 ip => if i.isLoopback then none else some (i.name, ip.toString)
    | .v6 _ => none
  let given := (CommandLine.valueOf? CommandLine.hostVariable vs).getD ""
  return ⟨Host.nameFrom given (Text.trim system), Host.ipFrom ips⟩

def processId : IO String := do
  let stat ← try IO.FS.readFile "/proc/self/stat" catch _ => pure ""
  return String.ofList (stat.toList.takeWhile Char.isDigit)

end TraceRelay.Main

open TraceRelay in
def main (arguments : List String) : IO UInt32 := do
  let vs ← Main.readVariables
  let path := CommandLine.path arguments vs
  let folder ← IO.currentDir
  let found ← Main.fileText (Main.foldersFrom folder.toString) path
  let file := fun _ => match found with
    | some (.ok s) => some s
    | some (.error _) => some "\x00"
    | none => none
  match CommandLine.prepare arguments vs file (← Main.host vs) with
  | .error r =>
    (← IO.getStderr).putStrLn r.message
    return r.status
  | .ok p => (Main.run p (← Main.processId)).block
