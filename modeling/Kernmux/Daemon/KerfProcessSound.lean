import Kernmux.Daemon.ExecutorSound
import Kernmux.Daemon.KerfProcess
import Kernmux.Library.Transition

/-!
# Kernmux.Daemon.KerfProcessSound

**When plans are made on a quiet host.** A log is `Fresh` when every Kerf
process was planned against a snapshot taken after all earlier processes of the
executor had been reaped.

The executors do not keep to this by themselves. They take the snapshot first,
and only the runner, after the plan is made, looks whether a killed process has
gone; if it has, the new process is started on the old plan. So the first
process after one that was left behind is always planned against a snapshot from
before the reaping. What keeps the log fresh is that a request never gets to that
point: an accepted request finds no killed process, or finds it still there and
is refused (`ReapsNothing`).
-/

namespace Kernmux.Daemon

open Api.V1 Library Lifecycle

variable {ω ι ε : Type} {host : ProcessHost ω ι} {snapshots : SnapshotRefresher ω ε}

/-- To ask whether a child has exited never fails. -/
def ProcessHost.Inspects (host : ProcessHost ω ι) : Prop :=
  ∀ child state, ∃ status, (host.tryWait child state).1 = .ok status

namespace Processes

variable {state : Processes ω} {child : Child}

/-- A request that comes as far as Kerf does not find that a killed process has exited. -/
def ReapsNothing (host : ProcessHost ω ι) (snapshots : SnapshotRefresher ω ε)
    (state : Processes ω) (request : HostRequest) : Prop :=
  ∀ before reached child, (refresher snapshots).refreshSnapshot state = (.ok before, reached) →
      request.Accepted before → reached.runner.pending = some child →
        (host.tryWait child reached.host).1 = .ok none

/-! ### Invariant -/

/-- Everything has been reaped, except the pending process if there is one. -/
def QuietBeside : Option Child → List (LogEvent Child) → Prop
  | none => Quiet
  | some child => QuietBut child

/-- Plans were made on a quiet host, and whatever is not reaped is pending. -/
structure Inv (state : Processes ω) : Prop where
  fresh : Fresh state.log
  quiet : QuietBeside state.runner.pending state.log

/-- The same right after a snapshot. -/
structure Seen (state : Processes ω) : Prop extends Inv state where
  seenQuiet : state.runner.pending = none → SeenQuiet state.log

theorem inv_new (start : ω) (executable : String) (deadline : ℕ) (outputLimit : UInt64) :
    Inv (.new start (.new executable deadline outputLimit)) :=
  ⟨fresh_nil, quiet_nil⟩

/-- The invariant speaks about the log and the pending process only. -/
theorem Inv.of_eq {next : Processes ω} (h : Inv state) (hlog : next.log = state.log)
    (hpending : next.runner.pending = state.runner.pending) : Inv next :=
  ⟨hlog ▸ h.fresh, by rw [hlog, hpending]; exact h.quiet⟩

theorem Inv.observed {reached : ω} (h : Inv state) :
    Seen { state with host := reached, log := state.log ++ [.observed] } := by
  obtain ⟨hfresh, hquiet⟩ := h
  refine ⟨⟨hfresh.observed, ?_⟩, fun hnone => ?_⟩
  · dsimp only
    cases hpending : state.runner.pending with
    | none => rw [hpending] at hquiet; exact Quiet.observed hquiet
    | some child => rw [hpending] at hquiet; exact QuietBut.observed hquiet
  · dsimp only at hnone
    rw [hnone] at hquiet
    exact Quiet.seenQuiet hquiet

/-! ### One run of Kerf -/

/-- A process that has been reaped leaves nothing behind. -/
theorem inv_collect {termination : KerfTermination} (h : Inv state) :
    Inv (collect host termination child state).2 := by
  have hread : ∀ file (state : Processes ω), Inv state →
      Inv (readBounded host child file state).2 := by
    intro file state h
    unfold readBounded
    split <;> exact h.of_eq rfl rfl
  unfold collect
  split
  case h_1 error reached hstdout =>
    have := hread .stdout state h
    rwa [hstdout] at this
  case h_2 stdout reached hstdout =>
    have hreached := hread .stdout state h
    rw [hstdout] at hreached
    have hboth := hread .stderr reached hreached
    split <;> rename_i hstderr <;> rw [hstderr] at hboth <;> exact hboth

theorem inv_collect_ended {termination : KerfTermination} {reached : ω} (hfresh : Fresh state.log)
    (hquiet : QuietBut child state.log) (hpending : state.runner.pending = none) :
    Inv (collect host termination child
      { state with host := reached, log := state.log ++ [.ended child] }).2 := by
  refine inv_collect ⟨hfresh.ended, ?_⟩
  dsimp only
  rw [hpending]
  exact hquiet.ended

/-- What an inspection tells, and what it does to the log. -/
theorem tryWait_cases (hinspect : host.Inspects) (child : Child) (state : Processes ω) :
    (∃ reached, tryWait host child state = (.ok none, { state with host := reached })) ∨
      ∃ status reached, tryWait host child state =
        (.ok (some status), { state with host := reached, log := state.log ++ [.ended child] }) := by
  obtain ⟨status, hstatus⟩ := hinspect child state.host
  unfold tryWait
  rcases hwait : host.tryWait child state.host with ⟨answer, reached⟩
  rw [hwait] at hstatus
  subst hstatus
  cases status with
  | none => exact .inl ⟨reached, rfl⟩
  | some status => exact .inr ⟨status, reached, rfl⟩

/-- At its deadline a process is reaped or becomes the pending one. -/
theorem inv_expire (hinspect : host.Inspects) (hfresh : Fresh state.log)
    (hquiet : QuietBut child state.log) (hpending : state.runner.pending = none) :
    Inv (expire host child state).2 := by
  unfold expire
  rcases tryWait_cases hinspect child { state with host := host.kill child state.host } with
    ⟨reached, hwait⟩ | ⟨status, reached, hwait⟩
  · rw [hwait]
    exact ⟨hfresh, hquiet⟩
  · rw [hwait]
    exact inv_collect_ended hfresh hquiet hpending

theorem inv_poll (hinspect : host.Inspects) (remaining : ℕ) (hfresh : Fresh state.log)
    (hquiet : QuietBut child state.log) (hpending : state.runner.pending = none) :
    Inv (poll host child remaining state).2 := by
  -- each poll reaps the child, or leaves the log alone and has one poll less to go
  induction remaining generalizing state with
  | zero =>
      unfold poll
      rcases tryWait_cases hinspect child state with ⟨reached, hwait⟩ | ⟨status, reached, hwait⟩
      · rw [hwait]
        exact inv_expire hinspect hfresh hquiet hpending
      · rw [hwait]
        exact inv_collect_ended hfresh hquiet hpending
  | succ remaining ih =>
      unfold poll
      rcases tryWait_cases hinspect child state with ⟨reached, hwait⟩ | ⟨status, reached, hwait⟩
      · rw [hwait]
        exact ih hfresh hquiet hpending
      · rw [hwait]
        exact inv_collect_ended hfresh hquiet hpending

/-- Kerf is run right after a snapshot; a pending process has not exited since. -/
theorem inv_runRaw (hinspect : host.Inspects) {arguments : List OsString} (h : Seen state)
    (halive : ∀ child, state.runner.pending = some child →
      (host.tryWait child state.host).1 = .ok none) :
    Inv (runRaw host arguments state).2 := by
  unfold runRaw reapPending
  cases hpending : state.runner.pending with
  | some child =>
      -- the killed process is still there: the run is refused and nothing is started
      have hwait : ∃ reached, tryWait host child state =
          (.ok none, { state with host := reached }) := by
        have hnone := halive child hpending
        unfold tryWait
        rcases hanswer : host.tryWait child state.host with ⟨answer, reached⟩
        rw [hanswer] at hnone
        subst hnone
        exact ⟨reached, rfl⟩
      obtain ⟨reached, hwait⟩ := hwait
      simp only [hwait]
      exact h.toInv.of_eq rfl rfl
  | none =>
      -- nothing is pending, so the snapshot just taken has seen a quiet host
      have hquiet : Quiet state.log := by
        have := h.quiet
        rwa [hpending] at this
      simp only [spawn]
      rcases host.openOutputs state.host with ⟨error | _, opened⟩
      · exact h.toInv.of_eq rfl rfl
      · rcases hstart : host.start state.next state.runner.executable arguments opened with
          ⟨error | _, started⟩
        · simp only [hstart]
          exact h.toInv.of_eq rfl rfl
        · simp only [hstart]
          exact inv_poll hinspect _ (h.fresh.started (h.seenQuiet hpending)) hquiet.started hpending

/-! ### Whole runs -/

theorem refresher_of_error {error : ε} {next : Processes ω} (h : Inv state)
    (hrefresh : (refresher snapshots).refreshSnapshot state = (.error error, next)) : Inv next := by
  simp only [refresher] at hrefresh
  split at hrefresh
  · obtain ⟨-, rfl⟩ := Prod.mk.inj hrefresh
    exact h.of_eq rfl rfl
  · exact absurd (Prod.mk.inj hrefresh).1 (by simp)

theorem refresher_of_ok {snapshot : HostSnapshot} {next : Processes ω} (h : Inv state)
    (hrefresh : (refresher snapshots).refreshSnapshot state = (.ok snapshot, next)) : Seen next := by
  simp only [refresher] at hrefresh
  split at hrefresh
  · exact absurd (Prod.mk.inj hrefresh).1 (by simp)
  · obtain ⟨-, rfl⟩ := Prod.mk.inj hrefresh
    exact h.observed

/-- One request, whatever executor it is for. -/
theorem inv_execute (hinspect : host.Inspects) {request : HostRequest} (h : Inv state)
    (hreaps : ReapsNothing host snapshots state request) :
    Inv (request.execute (kerfRunner host) (refresher snapshots) state) := by
  have hrun : ∀ before reached (invocation : KerfInvocation),
      (refresher snapshots).refreshSnapshot state = (.ok before, reached) →
        request.Accepted before → Seen reached →
          Inv ((kerfRunner host).run invocation reached).2 := by
    intro before reached invocation hlook haccepted hseen
    exact inv_runRaw hinspect hseen fun child hpending =>
      hreaps before reached child hlook haccepted hpending
  cases request with
  | lifecycle request =>
      refine supervise_invariant h (fun _ _ _ => refresher_of_error)
        (fun _ _ _ => refresher_of_ok) (fun _ hseen => hseen.toInv) ?_
      intro before reached invocation hlook hpreflight hseen
      have hplan := (LifecycleExecutor.preflight_eq_ok.mp hpreflight).2
      exact hrun before reached invocation hlook ⟨invocation, hplan⟩ hseen
  | pool request =>
      refine supervise_invariant h (fun _ _ _ => refresher_of_error)
        (fun _ _ _ => refresher_of_ok) (fun _ hseen => hseen.toInv) ?_
      intro before reached invocation hlook hpreflight hseen
      have hplan := ResourcePoolExecutor.preflight_eq_ok.mp hpreflight
      exact hrun before reached invocation hlook ⟨invocation, hplan⟩ hseen

/-- Plans are made on a quiet host in every sequence of requests of which none reaps a killed
process. -/
theorem fresh_of_guarded_run (hinspect : host.Inspects) {start : ω} {executable : String}
    {deadline : ℕ} {outputLimit : UInt64} {requests : List HostRequest} {reached : Processes ω}
    (hguarded : Guarded (step host snapshots) (ReapsNothing host snapshots)
      (.new start (.new executable deadline outputLimit)) requests)
    (hrun : run (step host snapshots) (.new start (.new executable deadline outputLimit)) requests =
      some reached) : Fresh reached.log := by
  have hstep : ∀ state request next, Inv state → ReapsNothing host snapshots state request →
      step host snapshots state request = some next → Inv next := by
    intro state request next h hreaps hstep
    cases hstep
    exact inv_execute hinspect h hreaps
  exact (run_invariant hstep (inv_new start executable deadline outputLimit) hguarded hrun).fresh

/-! ### A process that outlives its deadline -/

/-- Every deadline passes at once. A child is found running until it is asked for the last
time; the host is how often that still is. -/
def lingeringHost : ProcessHost ℕ Unit where
  openOutputs inspections := (.ok (), inspections)
  start _ _ _ inspections := (.ok (), inspections)
  tryWait _ inspections :=
    if inspections ≤ 1 then (.ok (some ⟨none⟩), 0) else (.ok none, inspections - 1)
  kill _ inspections := inspections
  polls _ _ := 0
  output _ _ inspections := (.ok [], inspections)

/-- The instance is running as soon as the child has exited. -/
def lingeringSnapshots : SnapshotRefresher ℕ Unit where
  refreshSnapshot inspections :=
    let snapshot := if inspections = 0 then
        { idleSnapshot with
          generation := ⟨2⟩
          instances := idleSnapshot.instances.map ({ · with state := .active }) }
      else idleSnapshot
    (.ok snapshot, inspections)

/-- The same instance is started twice. -/
def startTwice : List HostRequest :=
  [.lifecycle (.start ⟨⟨1⟩, ⟨1⟩⟩), .lifecycle (.start ⟨⟨1⟩, ⟨1⟩⟩)]

/-- The first start is killed and stays; the second one finds it still there. -/
theorem fresh_of_guarded_run_blocked :
    ∃ reached, run (step lingeringHost lingeringSnapshots) (.new 4 (.new "kerf" 1000 4096))
        startTwice = some reached ∧
      reached.runner.pending = some 0 ∧ Fresh reached.log := by
  have hinspect : lingeringHost.Inspects := by
    intro child inspections
    by_cases hlast : inspections ≤ 1
    · exact ⟨some ⟨none⟩, by simp [lingeringHost, hlast]⟩
    · exact ⟨none, by simp [lingeringHost, hlast]⟩
  have hguarded : Guarded (step lingeringHost lingeringSnapshots)
      (ReapsNothing lingeringHost lingeringSnapshots) (.new 4 (.new "kerf" 1000 4096))
      startTwice := by
    refine ⟨?_, fun next hnext => ⟨?_, fun _ _ => trivial⟩⟩
    · intro before reached child hlook _ hpending
      obtain rfl := (Prod.mk.inj hlook).2
      exact absurd hpending.symm (Option.some_ne_none child)
    · intro before reached child hlook _ hpending
      cases hnext
      obtain rfl := (Prod.mk.inj hlook).2
      rfl
  exact ⟨_, rfl, rfl, fresh_of_guarded_run hinspect hguarded rfl⟩

/-- The first start is killed and stays. The second one is planned while the instance is
not running yet; the runner then finds that the first has gone, and the second is started on a
running instance. -/
theorem killed_process_reaped_late :
    ∃ reached, run (step lingeringHost lingeringSnapshots) (.new 3 (.new "kerf" 1000 4096))
        startTwice = some reached ∧
      reached.log = [.observed, .started 0, .observed, .observed, .ended 0, .started 1, .ended 1,
        .observed] ∧ ¬ Fresh reached.log := by
  refine ⟨_, rfl, rfl, fun hfresh => ?_⟩
  have hspoilt : ¬ SeenQuiet ([.observed, .started 0, .observed, .observed] ++ [.ended 0]) :=
    not_seenQuiet_concat_ended (by decide) (by decide)
  exact hspoilt (hfresh _ 1 [.ended 1, .observed] rfl)

end Processes

end Kernmux.Daemon
