import BackendMonitor.Client
import BackendMonitor.Json.Printer
import BackendMonitor.Poller
import BackendMonitor.Schedule

/-!
# Scans

A scan is submitted and followed to its end. The calls of its poller go to the backend; the first
interrupt asks to cancel, the second gives the scan up.

* `Scan.start`, `Scan.interrupt` and `Scan.look` are the steps of the one who follows it;
* `Scan.answer` carries out a call of the poller;
* `Scan.follow` runs a scan against a list of responses, one for each call, without interrupts;
* `Scan.Ending` is what is told in the end.
-/

namespace BackendMonitor

open Json Http

/-- How a scan ends for the one who follows it. -/
inductive Scan.Ending where
  | completed (result : Option Value)
  | cancelled
  | failed (reason : String)
  /-- It was given up; on the server it may go on. -/
  | abandoned
deriving Repr

namespace Scan.Ending

/-- The ending that a terminal state of the poller means. -/
def ofState (s : PollerState) : Ending :=
  match s.phase with
  | .completed => .completed (s.job.bind (·.result))
  | .cancelled => .cancelled
  | _ => .failed (s.error.getD "unknown error")

/-- What is printed. -/
def output : Ending → String
  | .completed (some result) => result.prettyText ++ "\n"
  | _ => ""

/-- What went wrong. -/
def failure? : Ending → Option String
  | .completed _ => none
  | .cancelled => some "scan cancelled"
  | .failed reason => some s!"scan failed: {reason}"
  | .abandoned => some "scan abandoned"

end Scan.Ending

/-- A scan that is followed. -/
structure Scan where
  poller : Poller ScanRequest
  interrupted : Bool := false
  ending : Option Scan.Ending := none

namespace Scan

/-- Submits a scan. -/
def start (settings : PollSettings) (request : ScanRequest) : Except Failure Scan :=
  (Poller.ofSettings settings).map fun poller => { poller := (poller.submit request).1 }

/-- Takes note of the end of the job. -/
def look (s : Scan) : Scan :=
  if s.ending.isNone && s.poller.phase.isTerminal then
    { s with ending := some (.ofState s.poller.state.value), poller := s.poller.dispose }
  else s

/-- The first interrupt asks to cancel if the job is being polled, the second gives up. -/
def interrupt (s : Scan) : Scan :=
  if s.ending.isSome then s
  else if s.interrupted then { s with ending := some .abandoned, poller := s.poller.dispose }
  else { s with interrupted := true, poller := s.poller.cancel }

/-- One turn of the poller. -/
def turn (now : Nat) (s : Scan) : Option Scan :=
  (s.poller.turn now).map fun p => { s with poller := p }

/-! ## Calls -/

/-- Carries an exchange out, if there is one. -/
def carryOut {α : Type} (respond : Request → Option Response)
    (x : Except Failure (Exchange α)) : Except Failure α :=
  x.bind fun x => x.result (respond x.request)

/-- The answer to a call of the poller. -/
def answer (c : Client) (respond : Request → Option Response) :
    Poller.Call ScanRequest → Poller.Answer
  | .submit request => .submitted (carryOut respond (Client.Checked.submitScan c request))
  | .status jobId => .status (carryOut respond (Client.Checked.jobStatus c jobId))
  | .cancel jobId => .cancelled (carryOut respond (Client.Checked.cancelJob c jobId))

/-- The request that a call of the poller makes, unless it fails before. -/
def request? (c : Client) : Poller.Call ScanRequest → Option Request
  | .submit request => (Client.Checked.submitScan c request).toOption.map (·.request)
  | .status jobId => (Client.Checked.jobStatus c jobId).toOption.map (·.request)
  | .cancel jobId => (Client.Checked.cancelJob c jobId).toOption.map (·.request)

/-- Lets the poller run until it rests. -/
def rest (now : Nat) (s : Scan) : Scan :=
  (Schedule.runTurns (turn now) (s.poller.turnBound now) s).look

/-- Answers the last call of the poller. -/
def respond (c : Client) (response : Option Response) (s : Scan) : Scan :=
  match s.poller.calls with
  | (_, call) :: _ => { s with poller := s.poller.answer (answer c (fun _ => response) call) }
  | [] => s

/-- Follows a scan as long as there are responses: each goes to one call, at the instant at which
the call is made. -/
def follow (c : Client) : List (Option Response) → Nat → Scan → Scan
  | [], _, s => s
  | response :: responses, now, s =>
    let s := (s.respond c response).rest now
    match s.ending, s.poller.due? with
    | none, some instant => follow c responses instant (s.rest instant)
    | _, _ => s

/-- Runs a scan against responses. -/
def run (c : Client) (settings : PollSettings) (request : ScanRequest)
    (responses : List (Option Response)) : Except Failure Scan :=
  (start settings request).map fun s => follow c responses 0 (s.rest 0)

end Scan

end BackendMonitor
