import WiFiNINA.Lib.Transition
import WiFiNINA.SpiDrv

/-!
# Waiting for the slave

The busy pin changes while the driver runs: the interrupt of its falling edge gives the
semaphore `slaveReadyDetected`, which the driver takes only where it finds the pin busy.
Here the pin, the interrupt and the task that exchanges frames take steps in any order.
-/

namespace WiFiNINA
namespace SlaveReady

/-- Where the task is in `SpiDrv_waitForSlaveSelect` and behind it. -/
inductive Place
  /-- Between the exchanges. -/
  | idle
  /-- In `SpiDrv_begin`, behind `xSemaphoreCreateBinary`. -/
  | beginning
  /-- At the `if` of `SpiDrv_waitForSlaveReadyTimeout(portMAX_DELAY)`. -/
  | pollReady
  /-- In its `xSemaphoreTake`. -/
  | takeReady
  /-- Back in `SpiDrv_waitForSlaveReady`, in front of the loop. -/
  | ready
  /-- In the loop that should not happen. -/
  | spinning
  /-- In `SpiDrv_spiSlaveSelect`, in front of the write to the override. -/
  | selecting
  /-- At the `if` of `SpiDrv_waitForSlaveReadyTimeout(pdMS_TO_TICKS(5))`. -/
  | pollSelect
  /-- In its `xSemaphoreTake`. -/
  | takeSelect
  /-- The slave is selected, up to `SpiDrv_spiSlaveDeselect`. -/
  | selected
  deriving DecidableEq

/-- The task is inside `SpiDrv_waitForSlaveReady`. -/
def Place.Waiting : Place → Prop
  | pollReady | takeReady | ready | spinning => True
  | idle | beginning | selecting | pollSelect | takeSelect | selected => False

instance : DecidablePred Place.Waiting
  | .pollReady | .takeReady | .ready | .spinning => isTrue trivial
  | .idle | .beginning | .selecting | .pollSelect | .takeSelect | .selected => isFalse not_false

structure State where
  /-- The level of `ESPBUSY`. -/
  busy : Bool
  /-- An edge was detected and its interrupt is still to come. -/
  pending : Bool
  /-- `slaveReadyDetected` can be taken. -/
  token : Bool
  initialized : Bool
  place : Place
  deriving DecidableEq

inductive Step
  /-- The module becomes busy. -/
  | rise
  /-- The module becomes ready. -/
  | fall
  /-- `ESP_BUSY_IRQ_Interrupt_InterruptCallback` -/
  | interrupt
  /-- The next step of the task. -/
  | task
  /-- `xSemaphoreTake` returns after its timeout. -/
  | timeout
  /-- `SpiDrv_end` -/
  | close
  deriving DecidableEq

/-- A step of the task.  Taking the semaphore consumes its token. -/
def State.advance (s : State) : State :=
  match s.place with
  | .idle =>
      if s.initialized then { s with place := .pollReady }
      else { s with token := false, place := .beginning }
  | .beginning => { s with initialized := true, place := .pollReady }
  | .pollReady => { s with place := if s.busy then .takeReady else .ready }
  | .takeReady => { s with token := false, place := .ready }
  | .ready | .spinning => { s with place := if s.busy then .spinning else .selecting }
  | .selecting => { s with place := .pollSelect }
  | .pollSelect => { s with place := if s.busy then .takeSelect else .selected }
  | .takeSelect => { s with token := false, place := .selected }
  | .selected => { s with place := .idle }

/-- The pin, the interrupt and the task.  The pin does not rise while the task is inside
`SpiDrv_waitForSlaveReady`, and the task is blocked where it takes a semaphore without a
token. -/
def handshake : System State Step where
  enabled s
    | .rise => s.busy = false ∧ ¬ s.place.Waiting
    | .fall => s.busy = true
    | .interrupt => s.pending = true
    | .task => s.place = .takeReady ∨ s.place = .takeSelect → s.token = true
    | .timeout => s.place = .takeSelect
    | .close => s.place = .idle
  next s
    | .rise => { s with busy := true }
    | .fall => { s with busy := false, pending := true }
    | .interrupt => { s with pending := false, token := true }
    | .task => s.advance
    | .timeout => { s with place := .selected }
    | .close => { s with initialized := false }

instance (s : State) : (a : Step) → Decidable (handshake.enabled s a)
  | .rise => inferInstanceAs (Decidable (s.busy = false ∧ ¬ s.place.Waiting))
  | .fall => inferInstanceAs (Decidable (s.busy = true))
  | .interrupt => inferInstanceAs (Decidable (s.pending = true))
  | .task => inferInstanceAs
      (Decidable (s.place = .takeReady ∨ s.place = .takeSelect → s.token = true))
  | .timeout => inferInstanceAs (Decidable (s.place = .takeSelect))
  | .close => inferInstanceAs (Decidable (s.place = .idle))

/-- Before the first exchange. -/
def boot (busy : Bool) : State := ⟨busy, false, false, false, .idle⟩

/-- What a step does to the hardware and to the scheduler. -/
def State.emits (s : State) : Step → List Event
  | .task =>
      match s.place with
      | .idle => if s.initialized then [] else [.xSemaphoreCreateBinary .slaveReadyDetected]
      | .beginning => [.resetWrite true, .resetWrite false, .resetWrite true]
      | .takeReady | .takeSelect => [.xSemaphoreTake .slaveReadyDetected]
      | .selecting => [.csOverrideWrite true]
      | .pollReady | .ready | .spinning | .pollSelect | .selected => []
  | .timeout => [.xSemaphoreTake .slaveReadyDetected]
  | .rise | .fall | .interrupt | .close => []

/-- The state in which the driver's next exchange finds the pin low. -/
def before (b : Bus) : State := ⟨false, false, false, b.initialized, .idle⟩

/-- `SpiDrv_begin`, if it has not run yet. -/
def beginEvents (initialized : Bool) : List Event :=
  if initialized then []
  else [.xSemaphoreCreateBinary .slaveReadyDetected, .resetWrite true, .resetWrite false,
    .resetWrite true]

/-- `SpiDrv_waitForSlaveReadyTimeout`, by what it reads of the pin. -/
def takeEvents (busy : Bool) : List Event :=
  if busy then [.xSemaphoreTake .slaveReadyDetected] else []

/-- `SpiDrv_waitForSlaveSelect`, which reads `r` before it waits for the slave and `r'` once it
has selected it. -/
def selectEvents (initialized r r' : Bool) : List Event :=
  beginEvents initialized ++ (takeEvents r ++ Event.csOverrideWrite true :: takeEvents r')

theorem log_waitForSlaveSelect (b : Bus) :
    ∃ r r', (SpiDrv.waitForSlaveSelect.state b).log =
      b.log ++ selectEvents b.initialized r r' := by
  have hready : ∀ c : Bus, (SpiDrv.waitForSlaveReadyTimeout.state c).log =
      c.log ++ takeEvents (c.espBusy.reading 0) := by
    intro c
    cases h : c.espBusy.reading 0 <;>
      simp [SpiDrv.waitForSlaveReadyTimeout, Bus.espBusyRead, takeEvents, h]
  have hbegin : (SpiDrv.beginOnce.state b).log = b.log ++ beginEvents b.initialized := by
    cases h : b.initialized <;> simp [SpiDrv.beginOnce, SpiDrv.begin, beginEvents, h]
  simp only [SpiDrv.waitForSlaveSelect, SpiDrv.waitForSlaveReady, SpiDrv.spiSlaveSelect,
    Prog.state_bind, Bus.state_espBusySpin, Bus.state_emit, hready, hbegin, List.append_assoc]
  exact ⟨_, _, rfl⟩

/-- A run up to the transfer in which the pin reads `r` and `r'`. -/
def selectRun (initialized r r' : Bool) : List Step :=
  let enter : List Step := if initialized then [.task] else [.task, .task]
  let awaitReady : List Step :=
    if r then [.task, .fall, .interrupt, .task, .task] else [.task, .task]
  let awaitSelect : List Step := if r' then [.rise, .task, .timeout] else [.task]
  (if r then [.rise] else []) ++ (enter ++ (awaitReady ++ .task :: awaitSelect))

theorem run_selectRun (initialized r r' : Bool) :
    let s : State := ⟨false, false, false, initialized, .idle⟩
    handshake.Run s (selectRun initialized r r') ∧
      (handshake.exec s (selectRun initialized r r')).place = .selected ∧
      handshake.collect State.emits s (selectRun initialized r r') =
        selectEvents initialized r r' := by
  cases initialized <;> cases r <;> cases r' <;> decide

/-- **The driver is the task**: what its handshake does to the hardware is what the task does
in some run up to the transfer. -/
theorem emits_waitForSlaveSelect (b : Bus) :
    ∃ as, handshake.Run (before b) as ∧ (handshake.exec (before b) as).place = .selected ∧
      (SpiDrv.waitForSlaveSelect.state b).log =
        b.log ++ handshake.collect State.emits (before b) as := by
  obtain ⟨r, r', hlog⟩ := log_waitForSlaveSelect b
  obtain ⟨hrun, hplace, hemits⟩ := run_selectRun b.initialized r r'
  exact ⟨_, hrun, hplace, by rw [hlog, before, hemits]⟩

/-! ## Waiting -/

/-- The wait without a limit has ended only with the pin low, and the loop behind it is not
entered. -/
structure Waits (s : State) : Prop where
  low : s.place = .ready → s.busy = false
  quiet : s.place ≠ .spinning

/-- A step that does not begin to wait for the slave while a token or an interrupt of an earlier
edge is left. -/
def Clean (s : State) : Step → Prop
  | .task => s.place = .pollReady → s.busy = true → s.token = false ∧ s.pending = false
  | .rise | .fall | .interrupt | .timeout | .close => True

instance (s : State) : (a : Step) → Decidable (Clean s a)
  | .task => inferInstanceAs
      (Decidable (s.place = .pollReady → s.busy = true → s.token = false ∧ s.pending = false))
  | .rise | .fall | .interrupt | .timeout | .close => isTrue trivial

/-- What holds while the task waits: whoever has given it a token has seen the pin fall. -/
structure Awaiting (s : State) : Prop extends Waits s where
  fallen : s.place = .takeReady → s.token = true ∨ s.pending = true → s.busy = false

theorem awaiting_of_low {s : State} (hlow : s.busy = false) (hplace : s.place ≠ .spinning) :
    Awaiting s :=
  ⟨⟨fun _ => hlow, hplace⟩, fun _ _ => hlow⟩

theorem awaiting_of_not_waiting {s : State} (h : ¬ s.place.Waiting) : Awaiting s := by
  refine ⟨⟨fun hplace => ?_, fun hplace => ?_⟩, fun hplace => ?_⟩ <;>
    exact absurd (by rw [hplace]; trivial) h

/-- What the task does to the invariant. -/
theorem Awaiting.advance {s : State} (h : Awaiting s) (henabled : handshake.enabled s .task)
    (hclean : Clean s .task) : Awaiting s.advance := by
  cases hplace : s.place with
  | pollReady =>
      cases hbusy : s.busy with
      | true =>
          obtain ⟨htoken, hpending⟩ := hclean hplace hbusy
          refine ⟨⟨?_, ?_⟩, ?_⟩ <;> simp [State.advance, hplace, hbusy, htoken, hpending]
      | false => apply awaiting_of_low <;> simp [State.advance, hplace, hbusy]
  | takeReady =>
      -- the token taken is that of an edge in this wait
      have hlow : s.busy = false := h.fallen hplace (.inl (henabled (.inl hplace)))
      apply awaiting_of_low <;> simp [State.advance, hplace, hlow]
  | ready =>
      have hlow : s.busy = false := h.low hplace
      apply awaiting_of_low <;> simp [State.advance, hplace, hlow]
  | spinning => exact absurd hplace h.quiet
  | idle =>
      cases hinit : s.initialized with
      | true => refine ⟨⟨?_, ?_⟩, ?_⟩ <;> simp [State.advance, hplace, hinit]
      | false => refine ⟨⟨?_, ?_⟩, ?_⟩ <;> simp [State.advance, hplace, hinit]
  | pollSelect =>
      apply awaiting_of_not_waiting
      cases hbusy : s.busy <;> simp [State.advance, hplace, hbusy, Place.Waiting]
  | beginning => refine ⟨⟨?_, ?_⟩, ?_⟩ <;> simp [State.advance, hplace]
  | selecting => exact awaiting_of_not_waiting (by simp [State.advance, hplace, Place.Waiting])
  | takeSelect => exact awaiting_of_not_waiting (by simp [State.advance, hplace, Place.Waiting])
  | selected => exact awaiting_of_not_waiting (by simp [State.advance, hplace, Place.Waiting])

theorem Awaiting.next {s : State} {a : Step} (h : Awaiting s) (henabled : handshake.enabled s a)
    (hclean : Clean s a) : Awaiting (handshake.next s a) := by
  cases a with
  | task => exact h.advance henabled hclean
  | rise =>
      -- the pin does not rise on a waiting task
      exact awaiting_of_not_waiting henabled.2
  | fall => exact ⟨⟨fun _ => rfl, h.quiet⟩, fun _ _ => rfl⟩
  | interrupt => exact ⟨⟨h.low, h.quiet⟩, fun hplace _ => h.fallen hplace (.inr henabled)⟩
  | timeout => exact awaiting_of_not_waiting not_false
  | close => exact ⟨⟨h.low, h.quiet⟩, h.fallen⟩

/-- A state in which the task is about to wait for an edge while the token of an earlier one is
left is followed by one in which it has stopped waiting though the pin is still busy. -/
theorem not_waits_of_stale {s : State} (hplace : s.place = .pollReady) (hbusy : s.busy = true)
    (hstale : s.token = true ∨ s.pending = true) :
    ∃ as, handshake.Run s as ∧ ¬ Waits (handshake.exec s as) := by
  obtain ⟨busy, pending, token, initialized, place⟩ := s
  simp only at hplace hbusy hstale
  subst hplace hbusy
  cases token with
  | true =>
      refine ⟨[.task, .task], by cases pending <;> cases initialized <;> decide, fun h => ?_⟩
      exact Bool.noConfusion (h.low rfl)
  | false =>
      obtain rfl : pending = true := by simpa using hstale
      refine ⟨[.task, .interrupt, .task], by cases initialized <;> decide, fun h => ?_⟩
      exact Bool.noConfusion (h.low rfl)

/-- **Waiting for the slave really waits** in every run that begins no wait with a token left:
where the wait without a limit has ended the pin is low. -/
theorem waits_exec (busy : Bool) (as : List Step)
    (hrun : (handshake.restrict Clean).Run (boot busy) as) :
    Waits (handshake.exec (boot busy) as) := by
  have hboot : Awaiting (boot busy) := awaiting_of_not_waiting not_false
  have h := System.invariant (S := handshake.restrict Clean)
    (fun s a hs henabled => hs.next henabled.1 henabled.2) hboot hrun
  exact h.toWaits

/-- Two exchanges that find the module busy, the second one up to the end of its wait. -/
def waitingRun : List Step :=
  selectRun false true false ++ [.task, .rise, .task, .task, .fall, .interrupt, .task]

theorem waits_exec_waitingRun :
    (handshake.exec (boot false) waitingRun).place = .ready ∧
      Waits (handshake.exec (boot false) waitingRun) :=
  ⟨rfl, waits_exec false waitingRun (by decide)⟩

/-- The module becomes busy and ready again between the polls, and is busy when the next
exchange begins. -/
def staleRun : List Step :=
  [.task, .task, .task, .task, .rise, .fall, .interrupt, .task, .task, .task, .rise, .task, .task,
    .task]

/-- The token of the edge that nobody waited for ends the next wait at once. -/
theorem staleRun_not_waits :
    handshake.Run (boot false) staleRun ∧ ¬ Waits (handshake.exec (boot false) staleRun) := by
  refine ⟨by decide, fun h => ?_⟩
  exact absurd (h.low rfl) (by decide)

end SlaveReady
end WiFiNINA
