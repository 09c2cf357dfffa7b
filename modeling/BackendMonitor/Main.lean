import BackendMonitor.Network
import BackendMonitor.Program
import Std.Async.Signal

/-!
# The command

Carries out what the command line asks for. Whatever comes from outside, which is answers, lines and
interrupts, is handed to the machines of the library a few times in a hundredth of a second, and
what they ask for is started.
-/

namespace BackendMonitor.Main

open Std.Async

/-! ## From outside -/

/-- Something that is under way. -/
abbrev Pending (α : Type) := Task (Except IO.Error α)

/-- Starts something. -/
def start {α : Type} (act : IO α) : IO (Pending α) :=
  IO.asTask act .dedicated

/-- What something has come to. -/
def outcome? {α : Type} (t : Pending α) : IO (Option α) := do
  if ← IO.hasFinished t then return t.get.toOption else return none

/-- What has been finished, and what is still under way. -/
def sift {α : Type} (pending : List (Pending α)) : IO (List α × List (Pending α)) := do
  let finished ← pending.filterMapM outcome?
  let pending ← pending.filterM fun t => return !(← IO.hasFinished t)
  return (finished, pending)

/-- Gives up what is under way. -/
def abandon {α : Type} (pending : List (Pending α)) : IO Unit :=
  pending.forM fun t => IO.cancel t

/-- The interrupts from the keyboard. -/
structure Interrupts where
  waiter : Signal.Waiter
  /-- The next interrupt. -/
  next : IO.Ref (AsyncTask Int)

/-- Begins to notice interrupts. -/
def Interrupts.begin : IO Interrupts := do
  let waiter ← Signal.Waiter.mk .sigint true
  return { waiter := waiter, next := ← IO.mkRef (← waiter.wait) }

/-- Whether an interrupt has come since the last look. -/
def Interrupts.take (i : Interrupts) : IO Bool := do
  if ← IO.hasFinished (← i.next.get) then
    i.next.set (← i.waiter.wait)
    return true
  else return false

/-- Where the time of a machine begins, and how it is interrupted. -/
structure Surroundings where
  beginning : Nat
  interrupts : Interrupts

namespace Surroundings

/-- The surroundings from now on. -/
def fromNow : IO Surroundings :=
  return { beginning := ← IO.monoMsNow, interrupts := ← Interrupts.begin }

/-- The time that has passed. -/
def now (s : Surroundings) : IO Nat :=
  return (← IO.monoMsNow) - s.beginning

end Surroundings

/-- Waits a little. -/
def pause : IO Unit :=
  IO.sleep 2

/-! ## Scans -/

/-- Carries out a call of a poller. -/
def answerTo (c : Client) (call : Poller.Call ScanRequest) : IO Poller.Answer := do
  let response ← match Scan.request? c call with
    | some request => Network.exchange c.timeoutMs request
    | none => pure none
  return Scan.answer c (fun _ => response) call

/-- Follows a scan to its end. So many of its calls have been started. -/
partial def followScan (c : Client) (around : Surroundings) (started : Nat)
    (pending : List (Pending Poller.Answer)) (s : Scan) : IO Scan.Ending := do
  let (answers, pending) ← sift pending
  let s := answers.foldl (fun s a => { s with poller := s.poller.answer a }) s
  let s := if ← around.interrupts.take then s.interrupt else s
  let s := s.rest (← around.now)
  if let some ending := s.ending then
    abandon pending
    return ending
  let calls := s.poller.calls
  let fresh := (calls.take (calls.length - started)).reverse
  let more ← fresh.mapM fun (_, call) => start (answerTo c call)
  pause
  followScan c around calls.length (pending ++ more) s

/-- Scans. -/
def scan (c : Client) (poll : PollSettings) (request : ScanRequest) : IO Program.Outcome := do
  match Scan.start poll request with
  | .error f => return Program.refused f
  | .ok s => return Program.ofScan (← followScan c (← Surroundings.fromNow) 0 [] s)

/-! ## Previews -/

/-- Reads up to the end of a line. -/
partial def readLine (stream : IO.FS.Stream) (soFar : ByteArray) : IO Preview.Input := do
  let more ← stream.read 1
  let line := soFar ++ more
  if more.isEmpty && line.isEmpty then return .ended
  else if more.isEmpty || more[0]? = some 0x0A then return .line line.toList
  else readLine stream line

/-- Shows previews until the program ends. -/
partial def showPreviews (c : Client) (effectType : String) (around : Surroundings)
    (input : Option (Pending Preview.Input))
    (pending : List (Pending (Nat × Except Failure String))) (p : Preview) : IO Preview := do
  let now ← around.now
  let p := if ← around.interrupts.take then p.interrupt else p
  let arrived ← match input with
    | some t => outcome? t
    | none => pure none
  let p := match arrived with
    | some i => p.arrive i
    | none => p
  let (answers, pending) ← sift pending
  let q := answers.foldl (fun p (number, result) => p.answer number result) p
  let q := Schedule.runTurns (fun p => (p.turn now).or (p.settle now)) q.turnBound q
  (q.shown.take (q.shown.length - p.shown.length)).reverse.forM IO.println
  let fresh := q.asked.take (q.asked.length - p.asked.length)
  if !fresh.isEmpty then abandon pending
  let more ← fresh.mapM fun a => start do
    let result ← Network.carryOut c.timeoutMs
      (Client.Checked.previewEffect c effectType a.parameters)
    return (q.asked.length, result)
  match q.stage with
  | .ended => return q
  | .failed _ =>
    abandon (pending ++ more)
    return q
  | _ =>
    let input ← match arrived with
      | some (.line _) => pure (some (← start (readLine (← IO.getStdin) .empty)))
      | some .ended => pure none
      | none => pure input
    pause
    showPreviews c effectType around input (pending ++ more) q

/-- Shows previews. -/
def preview (c : Client) (effectType : String) (window : Int) : IO Program.Outcome := do
  match Preview.start window with
  | .error f => return Program.refused f
  | .ok p =>
    let input ← start (readLine (← IO.getStdin) .empty)
    let p ← showPreviews c effectType (← Surroundings.fromNow) (some input) [] p
    return { Program.ofPreview p with stdout := "" }

/-! ## Watching -/

/-- The sockets of a connection, as far as they are there. -/
structure Wiring where
  attempt : Option (Pending (Except Failure Network.Link)) := none
  link : Option Network.Link := none
  reading : Option (Pending (List SocketEvent × Network.Link)) := none

namespace Wiring

/-- Gives up what is under way. -/
def release (w : Wiring) : IO Wiring := do
  abandon w.attempt.toList
  abandon w.reading.toList
  return {}

/-- Begins to read from a socket. -/
def readFrom (l : Network.Link) : IO Wiring :=
  return { link := some l, reading := some (← start l.receive) }

/-- The news for a connection. An attempt that is not waited for any longer is given up. -/
def news (c : Connection) (w : Wiring) : IO (List Connection.News × Wiring) := do
  match w.attempt, w.reading, c.task with
  | some attempt, _, .opening .. =>
    match ← outcome? attempt with
    | some (.ok l) => return ([.answered none], ← readFrom l)
    | some (.error f) => return ([.answered (some f)], {})
    | none => return ([], w)
  | some _, _, _ => return ([], ← w.release)
  | none, some reading, _ =>
    match ← outcome? reading with
    | some (events, l) =>
      return (events.map .event, ← if events.contains .closed then pure {} else readFrom l)
    | none => return ([], w)
  | none, none, _ => return ([], w)

/-- Carries out what a connection asks of the network. -/
def carryOut (timeoutMs : Nat) (w : Wiring) :
    Connection.Call → IO (List Connection.News × Wiring)
  | .attempt url => do
    discard w.release
    return ([], { attempt := some (← start (Network.openLink timeoutMs url)) })
  | .write _ frame => do
    w.link.forM (·.write frame)
    return ([.written], w)
  | .close _ => do
    w.link.forM (·.close)
    return ([.closed], ← w.release)

end Wiring

/-- Hands news to the connection that is watched. -/
def notice (news : List Connection.News) (w : Watch) : Watch :=
  { w with connection := news.foldl (fun c n => c.notice n) w.connection }

/-- Lets the connection run, and carries out what it asks for. -/
partial def runConnection (now : Nat) (wiring : Wiring) (w : Watch) : IO (Watch × Wiring) := do
  match w.turn now with
  | none => return (w, wiring)
  | some next =>
    let calls := next.connection.calls
    let fresh := (calls.take (calls.length - w.connection.calls.length)).reverse
    let mut wiring := wiring
    let mut next := next
    for (_, call) in fresh do
      let (news, rewired) ← wiring.carryOut w.connection.policy.connectTimeoutMs.toNat call
      wiring := rewired
      next := notice news next
    runConnection now wiring (if next.connection.disposed then next else next.look)

/-- Follows a connection until it is torn down. -/
partial def followConnection (around : Surroundings) (wiring : Wiring) (before : Watch) :
    IO Unit := do
  let (news, wiring) ← wiring.news before.connection
  let w := notice news before
  let w := if ← around.interrupts.take then w.interrupt else w
  let (w, wiring) ← runConnection (← around.now) wiring w
  let ended := !w.connection.task.isRunning
  let w := if ended then w.finish else w
  (w.log.take (w.log.length - before.log.length)).reverse.forM IO.eprintln
  if ended then discard wiring.release
  else
    pause
    followConnection around wiring w

/-- Watches. -/
def watch (settings : Settings) : IO Program.Outcome := do
  followConnection (← Surroundings.fromNow) {} (Watch.start settings)
  return {}

/-! ## The program -/

/-- Carries out a plan. -/
def carryOut : Program.Plan → IO Program.Outcome
  | .watch settings => watch settings
  | .scan c poll request => scan c poll request
  | .preview c effectType window => preview c effectType window
  | .health c => do
    let result ← Network.carryOut c.timeoutMs c.readiness
    return Program.ofHealth c (Client.healthOf result)

/-- Why a file cannot be read. -/
def reasonOf : IO.Error → String
  | .noFileOrDirectory .. => "No such file or directory (os error 2)"
  | .permissionDenied .. => "Permission denied (os error 13)"
  | .inappropriateType .. => "Is a directory (os error 21)"
  | e => toString e

/-- What reading the file at a path comes to. -/
def content (path : String) : IO (Except String (List UInt8)) :=
  try
    return .ok (← IO.FS.readBinFile path).toList
  catch e => return .error (reasonOf e)

/-- Writes down what the program leaves behind. -/
def report (o : Program.Outcome) : IO UInt32 := do
  IO.print o.stdout
  o.stderr.forM IO.eprintln
  return UInt32.ofNat o.exitCode

end BackendMonitor.Main

open BackendMonitor in
/-- Does what the command line asks for. -/
def main (arguments : List String) : IO UInt32 := do
  let file ← match Program.settingsPath? arguments with
    | some path => Main.content path
    | none => pure (.ok [])
  match Program.prepare arguments (fun _ => file) with
  | .ok plan => Main.report (← Main.carryOut plan)
  | .error outcome => Main.report outcome
