import WiFiNINA.Exchanging.Runs
import WiFiNINA.Lifecycle
import WiFiNINA.SpiDrv.Interrupts

/-!
# What the module hears

The functions of the library do a transfer at once, and the hardware does not: an array is shifted
out byte by byte, between interrupts.  Still the module that listens from the selection of the
slave to its end receives exactly the exchanges that the functions make, every one whole, however
the steps of the task, of the interrupts, of the pin and of the SPI block are interleaved.
-/

namespace WiFiNINA

open LengthCode SpiDrv SlaveReady Interrupts Lifecycle

/-- The module while it listens. -/
structure Listener where
  /-- What has been shifted out since the slave was selected, if it is. -/
  current : Option (List UInt8)
  received : List (List UInt8)

namespace Listener

/-- What follows the end of a selection has been received; a reset ends it without. -/
def hear (l : Listener) : Signal → Listener
  | .reset _ => ⟨none, l.received⟩
  | .select true => ⟨some [], l.received⟩
  | .select false => ⟨none, l.received ++ l.current.toList⟩
  | .byte c => ⟨l.current.map (· ++ [c]), l.received⟩

def listen (l : Listener) (signals : List Signal) : Listener := signals.foldl hear l

theorem listen_append (l : Listener) (xs ys : List Signal) :
    l.listen (xs ++ ys) = (l.listen xs).listen ys := List.foldl_append

theorem listen_bytes (cs bytes : List UInt8) (received : List (List UInt8)) :
    listen ⟨some cs, received⟩ (bytes.map .byte) = ⟨some (cs ++ bytes), received⟩ := by
  induction bytes generalizing cs with
  | nil => rw [List.append_nil]; rfl
  | cons c bytes ih =>
      rw [List.append_cons]
      exact ih (cs ++ [c])

theorem listen_selectEvents (initialized r r' : Bool) (received : List (List UInt8)) :
    listen ⟨none, received⟩ ((selectEvents initialized r r').flatMap Event.signals) =
      ⟨some [], received⟩ := by
  cases initialized <;> cases r <;> cases r' <;> rfl

theorem listen_transferEvents (bytes : List UInt8) (received : List (List UInt8)) :
    listen ⟨some [], received⟩ ((transferEvents bytes).flatMap Event.signals) =
      ⟨none, received ++ [bytes]⟩ := by
  rw [transferEvents, List.flatMap_cons, listen_append]
  exact congrArg (listen · _) (listen_bytes [] bytes received)

end Listener

/-- A task that rests can bring these events about and rest again, and what a listener receives of
them are the arrays. -/
structure Plays (initialized initialized' : Bool) (es : List Event) : Prop where
  steps : ∃ as, transferring.Run (resting initialized) as ∧
    transferring.exec (resting initialized) as = resting initialized' ∧
    transferring.collect Interrupts.State.emits (resting initialized) as = es
  heard : ∀ received, Listener.listen ⟨none, received⟩ (es.flatMap Event.signals) =
    ⟨none, received ++ es.filterMap Event.bytes?⟩

/-- From `b` to `b'` the driver has brought such events about. -/
def Drives (b b' : Bus) : Prop :=
  ∃ es, b'.log = b.log ++ es ∧ Plays b.initialized b'.initialized es

section Plays
variable {i i' i'' : Bool} {es es' : List Event} {b b' b'' : Bus}

theorem plays_nil (i : Bool) : Plays i i [] := by
  refine ⟨⟨[], trivial, rfl, rfl⟩, fun received => ?_⟩
  exact congrArg (Listener.mk none) (List.append_nil received).symm

theorem Plays.append (h : Plays i i' es) (h' : Plays i' i'' es') : Plays i i'' (es ++ es') where
  steps := by
    obtain ⟨as, hrun, hexec, hemits⟩ := h.steps
    obtain ⟨as', hrun', hexec', hemits'⟩ := h'.steps
    refine ⟨as ++ as', (System.run_append _).mpr ⟨hrun, ?_⟩, ?_, ?_⟩
    · rw [hexec]
      exact hrun'
    · rw [System.exec_append, hexec, hexec']
    · rw [System.collect_append, hexec, hemits, hemits']
  heard received := by
    rw [List.flatMap_append, Listener.listen_append, h.heard, h'.heard, List.filterMap_append,
      List.append_assoc]

theorem plays_begin (i : Bool) : Plays i true (beginEvents false) := by
  refine ⟨⟨[.begin], ⟨⟨rfl, rfl⟩, trivial⟩, rfl, rfl⟩, fun received => ?_⟩
  exact congrArg (Listener.mk none) (List.append_nil received).symm

theorem plays_end (i : Bool) : Plays i false [.resetWrite false, .csOverrideWrite false] := by
  refine ⟨⟨[.handshake .close], ⟨⟨rfl, .inr ⟨SlaveReady.Place.noConfusion, rfl⟩⟩, trivial⟩, rfl,
    rfl⟩, fun received => rfl⟩

theorem plays_transfer (i r r' : Bool) {bytes : List UInt8} (hne : bytes ≠ []) :
    Plays i true (selectEvents i r r' ++ transferEvents bytes) where
  steps := by
    obtain ⟨hrun, hexec, hemits⟩ := run_handshakeSteps i r r'
    obtain ⟨hrun', hexec', hemits'⟩ := run_transferSteps hne
    refine ⟨_ ++ transferSteps bytes, (System.run_append _).mpr ⟨hrun, ?_⟩, ?_, ?_⟩
    · rw [hexec]
      exact hrun'
    · rw [System.exec_append, hexec, hexec']
    · rw [System.collect_append, hexec, hemits, hemits', transferEvents]
  heard received := by
    rw [List.flatMap_append, Listener.listen_append, Listener.listen_selectEvents,
      Listener.listen_transferEvents, List.filterMap_append, bytes_selectEvents]
    rfl

theorem drives_of_keepsLog (h : KeepsLog b b') : Drives b b' :=
  ⟨[], by rw [h.1, List.append_nil], h.2 ▸ plays_nil _⟩

theorem Drives.trans (h : Drives b b') (h' : Drives b' b'') : Drives b b'' := by
  obtain ⟨es, hlog, hplays⟩ := h
  obtain ⟨es', hlog', hplays'⟩ := h'
  exact ⟨es ++ es', by rw [hlog', hlog, List.append_assoc], hplays.append hplays'⟩

theorem drives_bind {α β : Type} {p : Prog Bus α} {f : α → Prog Bus β}
    (hp : Prog.Guarantees Drives p) (hf : ∀ a, Prog.Guarantees Drives (f a)) :
    Prog.Guarantees Drives (p >>= f) := hp.bind (fun h h' => h.trans h') hf

theorem addsUp_drives : AddsUp fun _ => Drives where
  refl _ := drives_of_keepsLog ⟨rfl, rfl⟩
  trans := Drives.trans
  mono h _ := h

end Plays

section Operations
variable {C : Set UInt8} {W : Set (Ptr Obj)} {α : Type} {n : ℕ} {L : Type} [LengthCode L UInt8]

/-- A transfer behind its preparation. -/
theorem drives_transfer {p : Prog Bus ℕ} {b : Bus} (h : Prepares b (p.state b))
    (hne : p.val b ≠ 0) : Drives b ((p >>= transfer).state b) := by
  obtain ⟨⟨r, r', hlog⟩, hinit⟩ := h
  refine ⟨selectEvents b.initialized r r' ++
    transferEvents ((p.state b).txBuffer.loadList (txAt 0) (p.val b)), ?_, ?_⟩
  · simp only [transfer, Prog.state_bind, Bus.state_putArray, Bus.state_emit, spiSlaveDeselect,
      hlog, List.append_assoc]
    rfl
  · have hinit' : ((p >>= transfer).state b).initialized = true := hinit
    rw [hinit']
    refine plays_transfer _ r r' fun hnil => hne ?_
    rw [← Memory.length_loadList (p.state b).txBuffer (txAt 0) (p.val b), hnil, List.length_nil]

/-- A request has an end byte at least. -/
theorem val_sendHead_ne_zero (cmd numParam : UInt8) (params : List (Param L)) (b : Bus) :
    (sendHead cmd numParam params).val b ≠ 0 := by
  simp only [sendHead, buildFrame, putBytes, Prog.val_bind, Prog.val_pure, List.length_singleton]
  exact Nat.succ_ne_zero _

theorem drives_send (cmd numParam : UInt8) (params : List (Param L)) :
    Prog.Guarantees Drives (send cmd numParam params) := by
  intro b
  rw [send_eq]
  exact drives_transfer (prepares_sendHead cmd numParam params b) (val_sendHead_ne_zero _ _ _ b)

theorem drives_receiveResponse (cmd : UInt8) {maxSize : UInt16} (numParamRead : UInt8)
    (params : List (Param L)) (maxNumParams : UInt8) (hwindow : 16 ≤ maxSize.toNat) :
    Prog.Guarantees Drives (receiveResponse cmd maxSize numParamRead params maxNumParams) := by
  intro b
  rw [receiveResponse, receiveTransfer_eq, Prog.state_bind]
  have hval : (receiveHead maxSize).val b ≠ 0 := by
    change (if maxSize > spiMaxRxBuffer then spiMaxRxBuffer else maxSize).toNat ≠ 0
    split
    · decide
    · omega
  refine (drives_transfer (prepares_receiveHead maxSize b) hval).trans (drives_of_keepsLog ?_)
  exact keepsLog_decodeReply cmd numParamRead params maxNumParams _

theorem drives_inMemory {p : Prog Bus α} (h : Composed Always (MemoryOp W) n p) :
    Prog.Guarantees Drives p := by
  intro b
  obtain ⟨m, hstate, -⟩ := inMemory_of_composed h b
  exact drives_of_keepsLog (by rw [hstate]; exact ⟨rfl, rfl⟩)

theorem drives_elementary {p : Prog Bus α} (h : Elementary C W n p) :
    Prog.Guarantees Drives p := by
  cases h with
  | memory h => exact drives_inMemory (.basic h)
  | begin =>
      intro b
      exact ⟨beginEvents false, by simp [SpiDrv.begin, beginEvents], plays_begin _⟩
  | end' =>
      intro b
      exact ⟨_, by simp [SpiDrv.end'], plays_end _⟩
  | exchange _ _ _ _ hwindow _ hmid numParamRead =>
      exact drives_bind (drives_send _ _ _) fun _ => drives_bind (drives_inMemory hmid) fun _ =>
        drives_receiveResponse _ _ _ _ hwindow

/-- **What is composed of exchanges** drives the hardware as a task among interrupts. -/
theorem Exchanging.drives {p : Prog Bus α} (h : Exchanging C W n p) :
    Prog.Guarantees Drives p :=
  fun b => Composed.guarantees addsUp_drives (fun _ _ _ => trivial)
    (fun hb c _ => drives_elementary hb c) h b trivial

end Operations

theorem addsUp_driverDrives : AddsUp fun _ (w w' : World) => Drives w.bus w'.bus where
  refl w := addsUp_drives.refl w.bus
  trans := Drives.trans
  mono h _ := h

theorem drives_libraryOp {C : Set UInt8} {α : Type} {n : ℕ} {p : Prog World α}
    (h : LibraryOp C n p) (w : World) : Drives w.bus (p.state w).bus := by
  cases h with
  | bus h => exact h.drives w.bus
  | aside h =>
      rw [h.bus_state]
      exact addsUp_drives.refl w.bus

theorem drives_exec (w : World) (cs : List ApiCall) : Drives w.bus (api.exec w cs).bus := by
  induction cs generalizing w with
  | nil => exact addsUp_drives.refl w.bus
  | cons c cs ih =>
      have hcall : Drives w.bus (c.run.state w).bus :=
        c.composed.guarantees addsUp_driverDrives (fun _ _ _ => trivial)
          (fun h w _ => drives_libraryOp h w) w trivial
      exact hcall.trans (ih (c.run.state w))

/-- **What the module hears.**  Whatever is called and whatever the module answers, a run of the
library makes exchanges that the task can make among interrupts, and of every run among interrupts
that does the same to the hardware the module hears these exchanges, each transfer whole, and
nothing else. -/
theorem exchanges_heard (w : World) (cs : List ApiCall) :
    ∃ (es : List Exchange) (log : List Event),
      (es.length ≤ (cs.map ApiCall.budget).sum ∧
        ∀ e ∈ es, (∃ c ∈ cs, e.cmd ∈ c.commands) ∧ e.Valid) ∧
      (api.exec w cs).bus.log = w.bus.log ++ log ∧
      (∃ as, transferring.Run (resting w.bus.initialized) as ∧
        transferring.exec (resting w.bus.initialized) as =
          resting (api.exec w cs).bus.initialized ∧
        transferring.collect Interrupts.State.emits (resting w.bus.initialized) as = log) ∧
      ∀ as, transferring.Run (resting w.bus.initialized) as →
        transferring.collect Interrupts.State.emits (resting w.bus.initialized) as = log →
        (transferring.exec (resting w.bus.initialized) as).place ≠ .taking →
        Listener.listen ⟨none, []⟩
            (transferring.collect Interrupts.State.shows (resting w.bus.initialized) as) =
          ⟨none, es.flatMap Exchange.wire⟩ := by
  obtain ⟨es, hlen, hes, hperformed⟩ := (driverAdvances_exec w cs).exchanges
  obtain ⟨log, hlog, hplays⟩ := drives_exec w cs
  have hwire : log.filterMap Event.bytes? = es.flatMap Exchange.wire := by
    have htransmitted := hperformed.transmitted
    rw [Bus.transmitted, Bus.transmitted, hlog, List.filterMap_append] at htransmitted
    exact List.append_cancel_left htransmitted
  refine ⟨es, log, ⟨hlen, hes⟩, hlog, hplays.steps, fun as hrun hemits hplace => ?_⟩
  have hinv := inv_resting w.bus.initialized
  have hshown := shown_exec hinv hrun
  rw [hemits, State.unseen, State.unseen, (hinv.exec hrun).tx_eq_nil hplace, List.map_nil,
    List.append_nil] at hshown
  rw [← hshown, ← hwire]
  exact hplays.heard []

end WiFiNINA
