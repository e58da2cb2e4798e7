import Kernmux.Daemon.ResourcePool
import Kernmux.Library.Freshness

/-!
# Kernmux.Daemon.KerfProcess

Kerf processes under a deadline. A `ProcessKerfRunner` starts Kerf, polls it
until it exits or its deadline has passed, and then kills it. A process that
has been killed and is still there stays `pending`: the next run first looks
whether it has gone (`reapPending`), and is refused as long as it has not.

The operating system is a `ProcessHost` over an arbitrary state, so a child may
exit, and change whatever the inventory reads, at any time. Children are
numbered in the order of their start. Beside the runner stands a log of the
snapshots taken, the children started and the children reaped, which no
function reads.
-/

namespace Kernmux.Daemon

open Api.V1 Library Lifecycle

/-! ### The operating system -/

/-- Number of a child process. -/
abbrev Child := ℕ

/-- Exit status of a child: no code when a signal ended it. -/
structure ExitStatus where
  code : Option Int32
  deriving DecidableEq, Repr

/-- The two files that collect what a child writes. -/
inductive OutputFile
  | stdout
  | stderr
  deriving DecidableEq, Repr

/-- What a runner asks of the operating system; `ι` is its error type. -/
structure ProcessHost (ω ι : Type) where
  /-- Create and share the output files of a child. -/
  openOutputs : ω → Except ι Unit × ω
  /-- Start a child with this number. -/
  start : Child → (executable : String) → (arguments : List OsString) → ω → Except ι Unit × ω
  /-- The exit status of a child if it has exited; this reaps it. -/
  tryWait : Child → ω → Except ι (Option ExitStatus) × ω
  /-- Kill a child, whether or not that succeeds. -/
  kill : Child → ω → ω
  /-- How many polls are made before the deadline, in milliseconds, has passed. -/
  polls : (deadline : ℕ) → ω → ℕ
  /-- Everything in an output file of a child. -/
  output : Child → OutputFile → ω → Except ι (List UInt8) × ω

/-- Failure to start or supervise Kerf. -/
inductive KerfRunError (ι : Type)
  | spawn (error : ι)
  | inspect (error : ι)
  | output (error : ι)
  | outputTooLarge
  | previousProcessBlocked
  deriving DecidableEq, Repr

/-! ### The runner -/

/-- Direct, shell-free Kerf process runner with bounded time and output. -/
structure ProcessKerfRunner where
  executable : String
  deadline : ℕ
  outputLimit : UInt64
  pending : Option Child
  deriving DecidableEq, Repr

/-- Creates a runner for an explicit Kerf-compatible executable. -/
def ProcessKerfRunner.new (executable : String) (deadline : ℕ) (outputLimit : UInt64) :
    ProcessKerfRunner :=
  ⟨executable, deadline, outputLimit, none⟩

/-- A runner on a host, the number of the next child, and the log. -/
structure Processes (ω : Type) where
  host : ω
  runner : ProcessKerfRunner
  next : Child
  log : List (LogEvent Child)

/-- A runner that has not been used yet. -/
def Processes.new {ω : Type} (host : ω) (runner : ProcessKerfRunner) : Processes ω :=
  ⟨host, runner, 0, []⟩

namespace Processes

variable {ω ι ε : Type} (host : ProcessHost ω ι)

/-- Looks whether a child has exited. -/
def tryWait (child : Child) (state : Processes ω) :
    Except (KerfRunError ι) (Option ExitStatus) × Processes ω :=
  match host.tryWait child state.host with
  | (.error error, reached) => (.error (.inspect error), { state with host := reached })
  | (.ok none, reached) => (.ok none, { state with host := reached })
  | (.ok (some status), reached) =>
      (.ok (some status), { state with host := reached, log := state.log ++ [.ended child] })

/-- Lets go of a killed process that has exited by now. -/
def reapPending (state : Processes ω) : Except (KerfRunError ι) Unit × Processes ω :=
  match state.runner.pending with
  | none => (.ok (), state)
  | some child =>
      match tryWait host child state with
      | (.error error, reached) => (.error error, reached)
      | (.ok none, reached) => (.error .previousProcessBlocked, reached)
      | (.ok (some _), reached) =>
          (.ok (), { reached with runner := { reached.runner with pending := none } })

/-- Starts Kerf. -/
def spawn (arguments : List OsString) (state : Processes ω) :
    Except (KerfRunError ι) Child × Processes ω :=
  match host.openOutputs state.host with
  | (.error error, reached) => (.error (.output error), { state with host := reached })
  | (.ok (), reached) =>
      match host.start state.next state.runner.executable arguments reached with
      | (.error error, reached) => (.error (.spawn error), { state with host := reached })
      | (.ok (), reached) =>
          (.ok state.next, { state with
            host := reached
            next := state.next + 1
            log := state.log ++ [.started state.next] })

/-- Reads an output file, of which at most one byte more than the limit is looked at. -/
def readBounded (child : Child) (file : OutputFile) (state : Processes ω) :
    Except (KerfRunError ι) (List UInt8) × Processes ω :=
  match host.output child file state.host with
  | (.error error, reached) => (.error (.output error), { state with host := reached })
  | (.ok content, reached) =>
      let limit := state.runner.outputLimit
      let bytes := content.take (saturatingAdd limit 1).toNat
      let result := if bytes.length > limit.toNat then .error .outputTooLarge else .ok bytes
      (result, { state with host := reached })

/-- The result of a process that has been reaped. -/
def collect (termination : KerfTermination) (child : Child) (state : Processes ω) :
    Except (KerfRunError ι) KerfRunResult × Processes ω :=
  match readBounded host child .stdout state with
  | (.error error, reached) => (.error error, reached)
  | (.ok stdout, reached) =>
      match readBounded host child .stderr reached with
      | (.error error, reached) => (.error error, reached)
      | (.ok stderr, reached) => (.ok ⟨termination, stdout, stderr⟩, reached)

/-- The result of a process that has exited. -/
def collectResult (status : ExitStatus) : Child → Processes ω →
    Except (KerfRunError ι) KerfRunResult × Processes ω :=
  collect host (status.code.elim .signalled .exited)

/-- The result of a process that has been killed at its deadline. -/
def collectTimeoutResult : Child → Processes ω →
    Except (KerfRunError ι) KerfRunResult × Processes ω :=
  collect host .timedOut

/-- The deadline has passed. -/
def expire (child : Child) (state : Processes ω) :
    Except (KerfRunError ι) KerfRunResult × Processes ω :=
  match tryWait host child { state with host := host.kill child state.host } with
  -- The handle of the child is dropped here, and nothing will ever reap it.
  | (.error error, reached) => (.error error, reached)
  | (.ok none, reached) =>
      (.ok ⟨.timedOut, [], []⟩,
        { reached with runner := { reached.runner with pending := some child } })
  | (.ok (some _), reached) => collectTimeoutResult host child reached

/-- Polls a process, `remaining` more times before the deadline has passed. -/
def poll (child : Child) : (remaining : ℕ) → Processes ω →
    Except (KerfRunError ι) KerfRunResult × Processes ω
  | remaining, state =>
      match tryWait host child state with
      | (.error error, reached) => (.error error, reached)
      | (.ok (some status), reached) => collectResult host status child reached
      | (.ok none, reached) =>
          match remaining with
          | 0 => expire host child reached
          | remaining + 1 => poll child remaining reached

/-- Runs Kerf with arbitrary arguments. -/
def runRaw (arguments : List OsString) (state : Processes ω) :
    Except (KerfRunError ι) KerfRunResult × Processes ω :=
  match reapPending host state with
  | (.error error, reached) => (.error error, reached)
  | (.ok (), reached) =>
      match spawn host arguments reached with
      | (.error error, reached) => (.error error, reached)
      | (.ok child, reached) =>
          poll host child (host.polls reached.runner.deadline reached.host) reached

/-- The runner as a backend of the executors. -/
def kerfRunner : KerfRunner (Processes ω) (KerfRunError ι) where
  run invocation := runRaw host invocation.arguments

/-- Snapshots of the host, each of which is noted in the log. -/
def refresher (snapshots : SnapshotRefresher ω ε) : SnapshotRefresher (Processes ω) ε where
  refreshSnapshot state :=
    match snapshots.refreshSnapshot state.host with
    | (.error error, reached) => (.error error, { state with host := reached })
    | (.ok snapshot, reached) =>
        (.ok snapshot, { state with host := reached, log := state.log ++ [.observed] })

/-- One request to an executor over the runner. -/
def step (snapshots : SnapshotRefresher ω ε) (state : Processes ω) (request : HostRequest) :
    Option (Processes ω) :=
  some (request.execute (kerfRunner host) (refresher snapshots) state)

end Processes

end Kernmux.Daemon
