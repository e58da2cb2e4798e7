import Mathlib.Data.List.Basic

/-!
# Kernmux.Library.Freshness

**Acting on what was seen when nothing was going on.** Somebody looks at a
system, starts a task on what was seen, and learns at some time that the task
has ended. The log of these events is `Fresh` when every task was started on an
observation made after every earlier task had been seen to end; then no earlier
task can have changed anything between the observation and the start.

A log grows at its end, and there is one rule for each event. Observations and
ends keep a log fresh; a start does when the log is `SeenQuiet`, which an
observation of a `Quiet` log brings about. What breaks it is a task that is
seen to end only after the observation (`not_seenQuiet_concat_ended`).
-/

namespace Kernmux.Library

/-- What a log records. -/
inductive LogEvent (α : Type*)
  | observed
  | started (task : α)
  | ended (task : α)
  deriving DecidableEq, Repr

variable {α : Type*} {log : List (LogEvent α)} {task : α}

/-- Everything that was started has ended. -/
def Quiet (log : List (LogEvent α)) : Prop :=
  ∀ task, .started task ∈ log → .ended task ∈ log

/-- Everything that was started, but for one task, has ended. -/
def QuietBut (task : α) (log : List (LogEvent α)) : Prop :=
  ∀ other ≠ task, .started other ∈ log → .ended other ∈ log

/-- When the last observation was made, everything that was ever started had ended. -/
def SeenQuiet (log : List (LogEvent α)) : Prop :=
  ∃ seen since, log = seen ++ .observed :: since ∧ .observed ∉ since ∧
    ∀ task, .started task ∈ log → .ended task ∈ seen

/-- Every task was started on such an observation. -/
def Fresh (log : List (LogEvent α)) : Prop :=
  ∀ earlier task later, log = earlier ++ .started task :: later → SeenQuiet earlier

/-! ### How a log grows -/

theorem fresh_nil : Fresh ([] : List (LogEvent α)) := by
  intro earlier task later h
  simp at h

theorem quiet_nil : Quiet ([] : List (LogEvent α)) := by
  intro task h
  simp at h

/-- What is appended to a fresh log has to be looked at only when it is a start. -/
theorem Fresh.concat (h : Fresh log) {event : LogEvent α}
    (hstart : ∀ task, event = .started task → SeenQuiet log) : Fresh (log ++ [event]) := by
  intro earlier task later heq
  rcases List.eq_nil_or_concat later with rfl | ⟨later, last, rfl⟩
  · obtain ⟨rfl, hevent⟩ := List.append_inj' heq rfl
    exact hstart task (List.singleton_inj.mp hevent)
  · rw [List.concat_eq_append, ← List.cons_append, ← List.append_assoc] at heq
    exact h earlier task later (List.append_inj' heq rfl).1

theorem Fresh.observed (h : Fresh log) : Fresh (log ++ [.observed]) :=
  h.concat (by simp)

theorem Fresh.ended (h : Fresh log) : Fresh (log ++ [.ended task]) :=
  h.concat (by simp)

theorem Fresh.started (h : Fresh log) (hseen : SeenQuiet log) : Fresh (log ++ [.started task]) :=
  h.concat fun _ _ => hseen

theorem Quiet.observed (h : Quiet log) : Quiet (log ++ [.observed]) := by
  simpa [Quiet] using h

/-- To look at a quiet system is to see it quiet. -/
theorem Quiet.seenQuiet (h : Quiet log) : SeenQuiet (log ++ [.observed]) :=
  ⟨log, [], rfl, by simp, by simpa [Quiet] using h⟩

theorem Quiet.started (h : Quiet log) : QuietBut task (log ++ [.started task]) := by
  intro other hne hstarted
  have hold : .started other ∈ log := by simpa [hne] using hstarted
  exact List.mem_append_left _ (h other hold)

theorem QuietBut.observed (h : QuietBut task log) : QuietBut task (log ++ [.observed]) := by
  simpa [QuietBut] using h

theorem QuietBut.ended (h : QuietBut task log) : Quiet (log ++ [.ended task]) := by
  intro other hstarted
  by_cases heq : other = task
  · subst heq
    simp
  · have hold : .started other ∈ log := by simpa using hstarted
    exact List.mem_append_left _ (h other heq hold)

/-- An observation is spoilt by a task that is seen to end only after it. -/
theorem not_seenQuiet_concat_ended (hstarted : .started task ∈ log) (hrunning : .ended task ∉ log) :
    ¬ SeenQuiet (log ++ [.ended task]) := by
  rintro ⟨seen, since, heq, -, hquiet⟩
  have hended := hquiet task (List.mem_append_left _ hstarted)
  rcases List.eq_nil_or_concat since with rfl | ⟨since, last, rfl⟩
  · obtain ⟨-, hlast⟩ := List.append_inj' heq rfl
    simp at hlast
  · rw [List.concat_eq_append, ← List.cons_append, ← List.append_assoc] at heq
    obtain ⟨rfl, -⟩ := List.append_inj' heq rfl
    exact hrunning (List.mem_append_left _ hended)

end Kernmux.Library
