import WiFiNINA.Lib.Trace
import WiFiNINA.SpiDrv.Decode
import WiFiNINA.SpiDrv.SlaveReady
import WiFiNINA.WiFi

/-!
# The life of the driver

The driver is initialised by `WiFi_init`, or by the first exchange behind a reset or behind
`WiFi_end`.  Here these are called in any order, and the rest of the world does what it likes in
between.

Every transfer finds the driver initialised and the slave selected, and nothing is left selected.
Of the two semaphores the driver takes only one is created, though: nobody creates the one that it
takes behind every transfer.
-/

namespace WiFiNINA
namespace Lifecycle

open SpiDrv SlaveReady

/-- What the application and the upper drivers do with the SPI driver. -/
inductive Use
  | init
  | end'
  | sendCmd (cmd numParam : UInt8) (params : List TParam)
  | sendBuffer (cmd numParam : UInt8) (params : List TDataParam)
  | receiveResponseCmd (cmd : UInt8) (maxSize : UInt16) (numParamRead : UInt8)
      (params : List TParam) (maxNumParams : UInt8)
  | receiveResponseBuffer (cmd : UInt8) (maxSize : UInt16) (numParamRead : UInt8)
      (params : List TDataParam) (maxNumParams : UInt8)

def Use.run : Use → Prog Bus Unit
  | init => WiFi.init
  | end' => WiFi.end'
  | sendCmd cmd numParam params => SpiDrv.sendCmd cmd numParam params
  | sendBuffer cmd numParam params => SpiDrv.sendBuffer cmd numParam params
  | receiveResponseCmd cmd maxSize numParamRead params maxNumParams =>
      (SpiDrv.receiveResponseCmd cmd maxSize numParamRead params maxNumParams).ignore
  | receiveResponseBuffer cmd maxSize numParamRead params maxNumParams =>
      (SpiDrv.receiveResponseBuffer cmd maxSize numParamRead params maxNumParams).ignore

section Parts
variable {L : Type} [LengthCode L UInt8]

/-- An encoder up to the call of `SPIM_WIFI_PutArray`, and how many bytes it transmits. -/
def sendHead (cmd numParam : UInt8) (params : List (Param L)) : Prog Bus ℕ := do
  let j ← buildFrame cmd numParam params
  Bus.clearTxBuffer
  Bus.clearRxBuffer
  waitForSlaveSelect
  pure j

/-- A decoder up to the call of `SPIM_WIFI_PutArray`, and how many bytes it transmits. -/
def receiveHead (maxSize : UInt16) : Prog Bus ℕ := do
  let n := if maxSize > spiMaxRxBuffer then spiMaxRxBuffer else maxSize
  Bus.clearTxBuffer
  Bus.clearRxBuffer
  waitForSlaveSelect
  let _ ← putBytes 0 (List.replicate n.toNat 0)
  pure n.toNat

/-- The transfer, from the call of `SPIM_WIFI_PutArray` on. -/
def transfer (n : ℕ) : Prog Bus Unit := do
  Bus.putArray n
  Bus.emit (.xSemaphoreTake .spiTxCompleted)
  spiSlaveDeselect

theorem send_eq (cmd numParam : UInt8) (params : List (Param L)) :
    send cmd numParam params = sendHead cmd numParam params >>= transfer := rfl

theorem receiveTransfer_eq (maxSize : UInt16) :
    receiveTransfer maxSize = receiveHead maxSize >>= transfer := rfl

end Parts

/-- The part of a call in front of its transfer, if it has one. -/
def Use.head : Use → Option (Prog Bus ℕ)
  | init | end' => none
  | sendCmd cmd numParam params => some (sendHead cmd numParam params)
  | sendBuffer cmd numParam params => some (sendHead cmd numParam params)
  | receiveResponseCmd _ maxSize _ _ _ => some (receiveHead maxSize)
  | receiveResponseBuffer _ maxSize _ _ _ => some (receiveHead maxSize)

/-- The part behind its transfer. -/
def Use.tail : Use → Prog Bus Unit
  | init | end' | sendCmd .. | sendBuffer .. => pure ()
  | receiveResponseCmd cmd _ numParamRead params maxNumParams =>
      (decodeReply cmd numParamRead params maxNumParams).ignore
  | receiveResponseBuffer cmd _ numParamRead params maxNumParams =>
      (decodeReply cmd numParamRead params maxNumParams).ignore

theorem Use.state_of_head {u : Use} {p : Prog Bus ℕ} (h : u.head = some p) (b : Bus) :
    u.run.state b = u.tail.state ((transfer (p.val b)).state (p.state b)) := by
  cases u with
  | init => cases h
  | end' => cases h
  | sendCmd cmd numParam params =>
      obtain rfl := Option.some.inj h
      rw [run, SpiDrv.sendCmd, send_eq, Prog.state_bind, tail, Prog.state_pure]
  | sendBuffer cmd numParam params =>
      obtain rfl := Option.some.inj h
      rw [run, SpiDrv.sendBuffer, send_eq, Prog.state_bind, tail, Prog.state_pure]
  | receiveResponseCmd cmd maxSize numParamRead params maxNumParams =>
      obtain rfl := Option.some.inj h
      rw [run, SpiDrv.receiveResponseCmd, Prog.state_ignore, receiveResponse, receiveTransfer_eq,
        Prog.state_bind, Prog.state_bind, tail, Prog.state_ignore]
  | receiveResponseBuffer cmd maxSize numParamRead params maxNumParams =>
      obtain rfl := Option.some.inj h
      rw [run, SpiDrv.receiveResponseBuffer, Prog.state_ignore, receiveResponse,
        receiveTransfer_eq, Prog.state_bind, Prog.state_bind, tail, Prog.state_ignore]

/-- Nothing was done to the hardware, and the driver is initialised as before. -/
def KeepsLog (b b' : Bus) : Prop := b'.log = b.log ∧ b'.initialized = b.initialized

section KeepsLog
variable {α β L : Type} [LengthCode L UInt8]

theorem keepsLog_pure (a : α) : Prog.Guarantees KeepsLog (pure a : Prog Bus α) :=
  Prog.Guarantees.pure (fun _ => ⟨rfl, rfl⟩) a

theorem keepsLog_bind {p : Prog Bus α} {f : α → Prog Bus β} (hp : Prog.Guarantees KeepsLog p)
    (hf : ∀ a, Prog.Guarantees KeepsLog (f a)) : Prog.Guarantees KeepsLog (p >>= f) :=
  Prog.Guarantees.bind (fun h h' => ⟨h'.1.trans h.1, h'.2.trans h.2⟩) hp hf

theorem keepsLog_putBytes (j : ℕ) (cs : List UInt8) : Prog.Guarantees KeepsLog (putBytes j cs) :=
  fun _ => ⟨rfl, rfl⟩

theorem keepsLog_putParams (n : ℕ) (params : List (Param L)) (j : ℕ) :
    Prog.Guarantees KeepsLog (putParams n params j) := by
  induction n generalizing params j with
  | zero => exact keepsLog_pure j
  | succ n ih =>
      cases params with
      | nil => exact keepsLog_pure j
      | cons param params =>
          refine keepsLog_bind (keepsLog_putBytes _ _) fun j => ?_
          refine keepsLog_bind (fun _ => ⟨rfl, rfl⟩) fun cs => ?_
          exact keepsLog_bind (keepsLog_putBytes _ _) fun j => ih params j

theorem keepsLog_putPadding (j : ℕ) : Prog.Guarantees KeepsLog (putPadding j) := by
  intro b
  rw [(run_putPadding j b).2]
  exact ⟨rfl, rfl⟩

theorem keepsLog_buildFrame (cmd numParam : UInt8) (params : List (Param L)) :
    Prog.Guarantees KeepsLog (buildFrame cmd numParam params) := by
  refine keepsLog_bind (keepsLog_putBytes _ _) fun j => ?_
  refine keepsLog_bind (keepsLog_putParams _ _ _) fun j => ?_
  exact keepsLog_bind (keepsLog_putPadding _) fun j => keepsLog_putBytes _ _

theorem keepsLog_readChar : Prog.Guarantees KeepsLog readChar := by
  intro b
  rw [state_readChar]
  exact ⟨rfl, rfl⟩

theorem keepsLog_readAndCheckChar (c : UInt8) :
    Prog.Guarantees KeepsLog (readAndCheckChar c) :=
  keepsLog_bind keepsLog_readChar fun _ => keepsLog_pure _

theorem keepsLog_waitSpiChar (c : UInt8) : Prog.Guarantees KeepsLog (waitSpiChar c) := by
  intro b
  rw [waitSpiChar, (run_waitSpiCharFrom c timeoutChar b).2]
  exact ⟨rfl, rfl⟩

theorem keepsLog_receiveParam (param : Param L) :
    Prog.Guarantees KeepsLog (receiveParam param) := by
  refine keepsLog_bind (fun b => ?_) fun cs => keepsLog_bind (fun b => ?_) fun buf => ?_
  · rw [(run_readChars _ b).2]
    exact ⟨rfl, rfl⟩
  · rw [(run_copyChars _ _ b).2]
    exact ⟨rfl, rfl⟩
  · exact keepsLog_bind (fun _ => ⟨rfl, rfl⟩) fun _ => keepsLog_pure _

theorem keepsLog_receiveParams (n : ℕ) (params : List (Param L)) :
    Prog.Guarantees KeepsLog (receiveParams n params) := by
  induction n generalizing params with
  | zero => exact keepsLog_pure params
  | succ n ih =>
      cases params with
      | nil => exact keepsLog_pure []
      | cons param params =>
          refine keepsLog_bind (keepsLog_receiveParam param) fun param => ?_
          exact keepsLog_bind (ih params) fun params => keepsLog_pure _

theorem keepsLog_decodeReply (cmd numParamRead : UInt8) (params : List (Param L))
    (maxNumParams : UInt8) :
    Prog.Guarantees KeepsLog (decodeReply cmd numParamRead params maxNumParams) := by
  refine keepsLog_bind (keepsLog_waitSpiChar _) fun found => ?_
  refine Prog.Guarantees.ite _ (keepsLog_pure _) ?_
  refine keepsLog_bind (keepsLog_readAndCheckChar _) fun same => ?_
  refine Prog.Guarantees.ite _ (keepsLog_pure _) ?_
  refine keepsLog_bind keepsLog_readChar fun numParam => ?_
  refine Prog.Guarantees.ite _ (keepsLog_pure _) ?_
  refine keepsLog_bind (keepsLog_receiveParams _ _) fun params => ?_
  exact keepsLog_bind (keepsLog_readAndCheckChar _) fun last => keepsLog_pure _

theorem keepsLog_tail (u : Use) : Prog.Guarantees KeepsLog u.tail := by
  cases u with
  | init => exact keepsLog_pure ()
  | end' => exact keepsLog_pure ()
  | sendCmd cmd numParam params => exact keepsLog_pure ()
  | sendBuffer cmd numParam params => exact keepsLog_pure ()
  | receiveResponseCmd cmd maxSize numParamRead params maxNumParams =>
      exact keepsLog_decodeReply cmd numParamRead params maxNumParams
  | receiveResponseBuffer cmd maxSize numParamRead params maxNumParams =>
      exact keepsLog_decodeReply cmd numParamRead params maxNumParams

end KeepsLog

/-- The level last written to the chip-select override. -/
def override (log : List Event) : Bool :=
  log.foldl (fun level e => match e with | .csOverrideWrite new => new | _ => level) false

theorem override_append_selectEvents (log : List Event) (initialized r r' : Bool) :
    override (log ++ selectEvents initialized r r') = true := by
  rw [override, List.foldl_append]
  cases initialized <;> cases r <;> cases r' <;> rfl

/-- What the part in front of a transfer leaves behind. -/
structure Prepares (b b' : Bus) : Prop where
  log : ∃ r r', b'.log = b.log ++ selectEvents b.initialized r r'
  initialized : b'.initialized = true

theorem prepares_waitForSlaveSelect {b c : Bus} (h : KeepsLog b c) :
    Prepares b (waitForSlaveSelect.state c) := by
  obtain ⟨r, r', hlog⟩ := log_waitForSlaveSelect c
  obtain ⟨log, busy, hstate, -⟩ := state_waitForSlaveSelect c
  exact ⟨⟨r, r', by rw [hlog, h.1, h.2]⟩, by rw [hstate]⟩

theorem prepares_sendHead {L : Type} [LengthCode L UInt8] (cmd numParam : UInt8)
    (params : List (Param L)) (b : Bus) :
    Prepares b ((sendHead cmd numParam params).state b) := by
  have hkept := keepsLog_buildFrame cmd numParam params b
  have hcleared : KeepsLog b { (buildFrame cmd numParam params).state b with rx := [] } := hkept
  exact prepares_waitForSlaveSelect hcleared

theorem prepares_receiveHead (maxSize : UInt16) (b : Bus) :
    Prepares b ((receiveHead maxSize).state b) := by
  have hcleared : KeepsLog b { b with rx := [] } := ⟨rfl, rfl⟩
  obtain ⟨hlog, hinit⟩ := prepares_waitForSlaveSelect hcleared
  exact ⟨hlog, hinit⟩

theorem prepares_head {u : Use} {p : Prog Bus ℕ} (h : u.head = some p) (b : Bus) :
    Prepares b (p.state b) := by
  cases u with
  | init => cases h
  | end' => cases h
  | sendCmd cmd numParam params =>
      obtain rfl := Option.some.inj h
      exact prepares_sendHead cmd numParam params b
  | sendBuffer cmd numParam params =>
      obtain rfl := Option.some.inj h
      exact prepares_sendHead cmd numParam params b
  | receiveResponseCmd cmd maxSize numParamRead params maxNumParams =>
      obtain rfl := Option.some.inj h
      exact prepares_receiveHead maxSize b
  | receiveResponseBuffer cmd maxSize numParamRead params maxNumParams =>
      obtain rfl := Option.some.inj h
      exact prepares_receiveHead maxSize b

/-- What a transfer adds to the log. -/
def transferEvents (bytes : List UInt8) : List Event :=
  [.putArray bytes, .xSemaphoreTake .spiTxCompleted, .csOverrideWrite false]

/-- **A call with a transfer**: what it does to the hardware. -/
theorem log_run_of_head {u : Use} {p : Prog Bus ℕ} (h : u.head = some p) (b : Bus) :
    ∃ r r', (u.run.state b).log = b.log ++ (selectEvents b.initialized r r' ++
        transferEvents ((p.state b).txBuffer.loadList (txAt 0) (p.val b))) ∧
      (u.run.state b).initialized = true := by
  obtain ⟨⟨r, r', hlog⟩, hinit⟩ := prepares_head h b
  obtain ⟨hkept, hkept'⟩ := keepsLog_tail u ((transfer (p.val b)).state (p.state b))
  refine ⟨r, r', ?_, ?_⟩
  · rw [Use.state_of_head h, hkept]
    simp only [transfer, Prog.state_bind, Bus.state_putArray, Bus.state_emit, spiSlaveDeselect,
      hlog, List.append_assoc]
    rfl
  · rw [Use.state_of_head h, hkept']
    exact hinit

/-- **A call without a transfer**: `WiFi_init` or `WiFi_end`. -/
theorem log_run_of_no_head {u : Use} (h : u.head = none) (b : Bus) :
    ((u.run.state b).log = b.log ++ beginEvents false ∧ (u.run.state b).initialized = true) ∨
      ((u.run.state b).log = b.log ++ [.resetWrite false, .csOverrideWrite false] ∧
        (u.run.state b).initialized = false) := by
  cases u with
  | init =>
      refine .inl ⟨?_, rfl⟩
      simp [Use.run, WiFi.init, WiFiDrv.wifiDriverInit, SpiDrv.begin, beginEvents]
  | end' =>
      refine .inr ⟨?_, rfl⟩
      simp [Use.run, WiFi.end', WiFiDrv.wifiDriverDeinit, SpiDrv.end']
  | sendCmd cmd numParam params => cases h
  | sendBuffer cmd numParam params => cases h
  | receiveResponseCmd cmd maxSize numParamRead params maxNumParams => cases h
  | receiveResponseBuffer cmd maxSize numParamRead params maxNumParams => cases h

/-- What is asked of a call about its transfer. -/
structure Transfers (u : Use) (b : Bus) : Prop where
  /-- `SPIM_WIFI_PutArray` is called behind the head of the call, and nowhere else. -/
  called : (u.run.state b).transmitted = b.transmitted ++
    u.head.toList.map fun p => (p.state b).txBuffer.loadList (txAt 0) (p.val b)
  /-- The driver is initialised there, and the chip-select override is asserted. -/
  ready : ∀ p ∈ u.head, (p.state b).initialized = true ∧ override (p.state b).log = true
  /-- The override is released when the call returns. -/
  released : u.head ≠ none → override (u.run.state b).log = false

theorem bytes_selectEvents (initialized r r' : Bool) :
    (selectEvents initialized r r').filterMap Event.bytes? = [] := by
  cases initialized <;> cases r <;> cases r' <;> rfl

/-- **Every call** finds the driver initialised and the slave selected when it transmits, from any
state whatsoever. -/
theorem transfers_run (u : Use) (b : Bus) : Transfers u b := by
  cases h : u.head with
  | none =>
      refine ⟨?_, fun p hp => ?_, fun hne => absurd h hne⟩
      · rw [h]
        rcases log_run_of_no_head h b with ⟨hlog, -⟩ | ⟨hlog, -⟩
        · rw [Bus.transmitted, hlog, List.filterMap_append]
          rfl
        · rw [Bus.transmitted, hlog, List.filterMap_append]
          rfl
      · rw [h] at hp
        cases hp
  | some p =>
      obtain ⟨r, r', hlog, -⟩ := log_run_of_head h b
      refine ⟨?_, fun q hq => ?_, fun _ => ?_⟩
      · rw [h, Bus.transmitted, hlog, List.filterMap_append, List.filterMap_append,
          bytes_selectEvents]
        rfl
      · obtain ⟨⟨r, r', hlog⟩, hinit⟩ := prepares_head hq b
        exact ⟨hinit, by rw [hlog, override_append_selectEvents]⟩
      · rw [hlog, override, List.foldl_append, List.foldl_append]
        rfl

/-! ## Runs -/

/-- A call, and the world in which it is made: the memory and the buffers, what the module will
shift out and how it will drive its pin. -/
structure Step where
  use : Use
  world : Bus

/-- The driver's own state, in the world of the step. -/
def Step.entry (a : Step) (b : Bus) : Bus :=
  { a.world with initialized := b.initialized, log := b.log }

/-- Calls in any order. -/
def system : System Bus Step where
  enabled _ _ := True
  next b a := a.use.run.state (a.entry b)

/-- Nothing has been done yet. -/
def reset : Bus := Bus.fresh fun _ => []

/-- Every semaphore `s` that was taken had been created. -/
def CreatedFirst (s : Semaphore) (as : List Step) : Prop :=
  Before (.xSemaphoreCreateBinary s) (.xSemaphoreTake s) (system.exec reset as).log

/-- What is asked of a run. -/
structure Sound (as : List Step) : Prop where
  transfers : ∀ pre a post, as = pre ++ a :: post →
    Transfers a.use (a.entry (system.exec reset pre))
  created : ∀ s, CreatedFirst s as

/-- What every run keeps: the semaphore of the busy pin is there once the driver is initialised,
and the other one never is. -/
structure Inv (b : Bus) : Prop where
  begun : b.initialized = true → Event.xSemaphoreCreateBinary .slaveReadyDetected ∈ b.log
  ready : Before (.xSemaphoreCreateBinary .slaveReadyDetected)
    (.xSemaphoreTake .slaveReadyDetected) b.log
  uncreated : Event.xSemaphoreCreateBinary .spiTxCompleted ∉ b.log

theorem inv_reset : Inv reset :=
  ⟨fun h => Bool.noConfusion h, before_of_notMem List.not_mem_nil, List.not_mem_nil⟩

/-- Initialising the driver creates its semaphore before anything else. -/
theorem before_selectEvents_false (r r' : Bool) (bytes : List UInt8) :
    Before (.xSemaphoreCreateBinary .slaveReadyDetected) (.xSemaphoreTake .slaveReadyDetected)
      (selectEvents false r r' ++ transferEvents bytes) :=
  before_cons.mpr ⟨Event.noConfusion, .inl rfl⟩

theorem Inv.run_of_head {b : Bus} (h : Inv b) {u : Use} {p : Prog Bus ℕ} (hp : u.head = some p) :
    Inv (u.run.state b) := by
  obtain ⟨r, r', hlog, -⟩ := log_run_of_head hp b
  have huncreated : ∀ bytes, Event.xSemaphoreCreateBinary .spiTxCompleted ∉
      selectEvents b.initialized r r' ++ transferEvents bytes := by
    intro bytes
    cases b.initialized <;> cases r <;> cases r' <;>
      simp [selectEvents, beginEvents, takeEvents, transferEvents]
  refine ⟨fun _ => ?_, ?_, ?_⟩
  all_goals rw [hlog]
  · cases hinit : b.initialized with
    | true => exact List.mem_append_left _ (h.begun hinit)
    | false => exact List.mem_append_right _ (List.mem_cons_self)
  · cases hinit : b.initialized with
    | true => exact h.ready.append_of_mem (h.begun hinit) _
    | false => exact before_append.mpr ⟨h.ready, .inr (before_selectEvents_false r r' _)⟩
  · rw [List.mem_append]
    exact not_or.mpr ⟨h.uncreated, huncreated _⟩

theorem Inv.run_of_no_head {b : Bus} (h : Inv b) {u : Use} (hu : u.head = none) :
    Inv (u.run.state b) := by
  rcases log_run_of_no_head hu b with ⟨hlog, -⟩ | ⟨hlog, hinit⟩
  · refine ⟨fun _ => ?_, ?_, ?_⟩
    all_goals rw [hlog]
    · exact List.mem_append_right _ List.mem_cons_self
    · exact before_append.mpr ⟨h.ready, .inr (before_cons.mpr ⟨Event.noConfusion, .inl rfl⟩)⟩
    · rw [List.mem_append]
      exact not_or.mpr ⟨h.uncreated, by simp [beginEvents]⟩
  · refine ⟨fun htrue => absurd (hinit.symm.trans htrue) Bool.false_ne_true, ?_, ?_⟩
    all_goals rw [hlog]
    · exact before_append.mpr ⟨h.ready, .inr (before_of_notMem (by simp))⟩
    · rw [List.mem_append]
      exact not_or.mpr ⟨h.uncreated, by simp⟩

/-- **The step lemma.** -/
theorem Inv.next {b : Bus} (h : Inv b) (a : Step) : Inv (system.next b a) := by
  have hentry : Inv (a.entry b) := ⟨h.begun, h.ready, h.uncreated⟩
  cases hhead : a.use.head with
  | none => exact hentry.run_of_no_head hhead
  | some p => exact hentry.run_of_head hhead

theorem run_system (as : List Step) : system.Run reset as :=
  System.run_of_enabled (fun _ _ => trivial) reset as

theorem inv_exec (as : List Step) : Inv (system.exec reset as) :=
  System.invariant (fun _ a hb _ => hb.next a) inv_reset (run_system as)

/-- The log only grows. -/
theorem log_prefix_exec (b : Bus) (as : List Step) : b.log <+: (system.exec b as).log := by
  refine System.invariant (S := system) (I := fun c => b.log <+: c.log) ?_ List.prefix_rfl
    (System.run_of_enabled (fun _ _ => trivial) b as)
  intro c a hc _
  have hstep : c.log <+: (a.use.run.state (a.entry c)).log := by
    cases hhead : a.use.head with
    | none =>
        rcases log_run_of_no_head hhead (a.entry c) with ⟨hlog, -⟩ | ⟨hlog, -⟩
        · rw [hlog]
          exact List.prefix_append _ _
        · rw [hlog]
          exact List.prefix_append _ _
    | some p =>
        obtain ⟨r, r', hlog, -⟩ := log_run_of_head hhead (a.entry c)
        rw [hlog]
        exact List.prefix_append _ _
  exact hc.trans hstep

/-- A call with a transfer takes the semaphore that nobody creates. -/
theorem take_mem_of_head {as : List Step} {a : Step} (ha : a ∈ as) (h : a.use.head ≠ none) :
    Event.xSemaphoreTake .spiTxCompleted ∈ (system.exec reset as).log := by
  obtain ⟨pre, post, rfl⟩ := List.append_of_mem ha
  obtain ⟨p, hp⟩ := Option.ne_none_iff_exists'.mp h
  obtain ⟨r, r', hlog, -⟩ := log_run_of_head hp (a.entry (system.exec reset pre))
  have hprefix := log_prefix_exec (a.use.run.state (a.entry (system.exec reset pre))) post
  rw [System.exec_append, System.exec_cons]
  refine hprefix.subset ?_
  rw [hlog]
  refine List.mem_append_right _ (List.mem_append_right _ ?_)
  exact List.mem_cons_of_mem _ List.mem_cons_self

/-- Calls without a transfer take no semaphore. -/
theorem take_notMem_of_no_head {as : List Step} (h : ∀ a ∈ as, a.use.head = none) :
    Event.xSemaphoreTake .spiTxCompleted ∉ (system.exec reset as).log := by
  have hrun := System.run_restrict_of_forall (run_system as) h
  refine System.invariant (S := system.restrict fun _ a => a.use.head = none)
    (I := fun c => Event.xSemaphoreTake .spiTxCompleted ∉ c.log) ?_ List.not_mem_nil hrun
  intro c a hc henabled
  rcases log_run_of_no_head henabled.2 (a.entry c) with ⟨hlog, -⟩ | ⟨hlog, -⟩
  all_goals
    change _ ∉ (a.use.run.state (a.entry c)).log
    rw [hlog, List.mem_append]
  · exact not_or.mpr ⟨hc, by simp [beginEvents]⟩
  · exact not_or.mpr ⟨hc, by simp⟩

/-- The semaphore of the transfers is never created, so it must not be taken either. -/
theorem createdFirst_spiTxCompleted (as : List Step) :
    CreatedFirst .spiTxCompleted as ↔ ∀ a ∈ as, a.use.head = none := by
  constructor
  · intro h a ha
    by_contra hhead
    exact (inv_exec as).uncreated (h.mem (take_mem_of_head ha hhead))
  · intro h
    exact before_of_notMem (take_notMem_of_no_head h)

/-- **The life of the driver**: in every run the transfers are as they should be and the semaphore
of the busy pin is created before it is taken; the run as a whole is sound exactly if it makes no
transfer. -/
theorem lifecycle_sound_iff (as : List Step) :
    (∀ pre a post, as = pre ++ a :: post → Transfers a.use (a.entry (system.exec reset pre))) ∧
      CreatedFirst .slaveReadyDetected as ∧ (Sound as ↔ ∀ a ∈ as, a.use.head = none) := by
  have htransfers : ∀ pre a post, as = pre ++ a :: post →
      Transfers a.use (a.entry (system.exec reset pre)) := fun _ _ _ _ => transfers_run _ _
  refine ⟨htransfers, (inv_exec as).ready, ?_, ?_⟩
  · intro h
    exact (createdFirst_spiTxCompleted as).mp (h.created .spiTxCompleted)
  · intro h
    refine ⟨htransfers, fun s => ?_⟩
    cases s with
    | slaveReadyDetected => exact (inv_exec as).ready
    | spiTxCompleted => exact (createdFirst_spiTxCompleted as).mpr h

/-- The first request behind a reset waits for a semaphore that nobody has created. -/
theorem not_sound_first_request :
    ¬ Sound [⟨.sendCmd getSocketCmd 0 [], reset⟩] := by
  intro h
  have hnone := (createdFirst_spiTxCompleted _).mp (h.created .spiTxCompleted) _
    List.mem_cons_self
  cases hnone

end Lifecycle
end WiFiNINA
