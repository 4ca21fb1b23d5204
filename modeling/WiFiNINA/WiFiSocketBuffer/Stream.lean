import WiFiNINA.WiFiSocketBuffer.Queue

/-!
# The received stream

The module delivers payloads to the fetches for a socket, and the application reads
bytes.  The library keeps the account of its own blocks (`Fifo.conservation`), but a
block is not a payload: whatever the length of what was received, the window is set to
all 255 bytes of the block.
-/

namespace WiFiNINA

open LengthCode SpiDrv ServerDrv World WiFiSocketBuffer

/-- The longest payload whose reply fits the receive buffer. -/
def maxPayload : ℕ := 249

/-- A well-formed reply arrives whole. -/
theorem fetch_replyFrame {b : Bus} {payload rest : List UInt8}
    (hlen : payload.length ≤ maxPayload)
    (hslave : b.slave 1 = replyFrame UInt16 getDatabufTcpCmd [payload] ++ rest) :
    fetch b = [payload] := by
  rw [maxPayload] at hlen
  obtain ⟨rest', -, hpayloads⟩ := answered_replyFrame wifiSocketBufferSize
    [(⟨wifiSocketBufferSize, nullPtr⟩ : TDataParam)] 1 b hslave le_rfl le_rfl
    (by
      rw [length_replyFrame, show window wifiSocketBufferSize = 255 by decide]
      simp
      omega)
  have hcap : payload.length < toNat wifiSocketBufferSize := by
    rw [show toNat wifiSocketBufferSize = 255 by decide]
    omega
  rw [← payloads_answered nullPtr, hpayloads]
  have hfits : List.Forall₂ (fun (x : List UInt8) cap => x.length < toNat cap) [payload]
      [wifiSocketBufferSize] := .cons hcap .nil
  have hfields := takeFields_fields 0 hfits (by
    simp only [List.mem_singleton, forall_eq]
    exact hcap.trans (by decide)) (endCmd :: rest')
  exact congrArg Prod.fst hfields

/-- What a fetch adds to the queue: nothing for an empty payload, and otherwise 255
bytes. -/
theorem length_offered {w : World} {s : ℕ} {payload : List UInt8}
    (hfetch : fetch w.bus = [payload]) :
    (offered w s).length = if payload = [] then 0 else 255 := by
  have hval := val_getDataBuf (UInt8.ofNat s) (block w s) (sized_fetching w)
  rw [fetch_fetching, hfetch, fetchedLength] at hval
  rw [offered, hval]
  cases payload with
  | nil => simp
  | cons c cs =>
      have hne : ((c :: cs).length : ℤ) ≠ 0 := by
        rw [List.length_cons]
        omega
      rw [if_neg hne, if_neg (by simp), Memory.length_loadList]

/-- A call, and what the module has ready for socket `s` by then. -/
structure Delivery extends Action where
  payload : List UInt8
  /-- What follows the reply. -/
  rest : List UInt8

/-- The calls of an application that does not give up the buffer of `s`, in front of a
module that answers well. -/
def deliveries (s : ℕ) : System World Delivery where
  enabled w d := calls.enabled w d.toAction ∧ d.call.Keeps s ∧ (d.call.reader = some s →
    d.payload.length ≤ maxPayload ∧
      d.bus.slave 1 = replyFrame UInt16 getDatabufTcpCmd [d.payload] ++ d.rest)
  next w d := calls.next w d.toAction

/-- The payload that a call fetches for `s`, if it fetches one. -/
def fetchedBy (s : ℕ) (w : World) (d : Delivery) : List (List UInt8) :=
  if d.call.reader = some s ∧ queue w s = [] then [d.payload] else []

/-- The payloads fetched for `s` by a run. -/
def fetched (s : ℕ) (w : World) (ds : List Delivery) : List (List UInt8) :=
  (deliveries s).collect (fetchedBy s) w ds

/-- The bytes of `s` returned by a run. -/
def handedOut (s : ℕ) (w : World) (ds : List Delivery) : List UInt8 :=
  (deliveries s).collect (fun w d => d.call.returned s (w.before d.toAction)) w ds

/-- **Fidelity** of a run from `w`: what was returned and what is still buffered is what
was fetched, and a last call of `WiFiSocketBuffer_available` announced no more than the
payload bytes not yet read. -/
structure Faithful (s : ℕ) (w : World) (ds : List Delivery) : Prop where
  bytes : handedOut s w ds ++ queue ((deliveries s).exec w ds) s = (fetched s w ds).flatten
  announced : ∀ ds' d, ds = ds' ++ [d] → d.call = .available s →
    d.call.run.val (((deliveries s).exec w ds').before d.toAction) ≤
      ((fetched s w ds).flatten.length : ℤ) - (handedOut s w ds).length

section Runs
variable {w : World} {s : ℕ} {ds : List Delivery}

/-- The operation of a call on the queues. -/
def Delivery.op (w : World) (d : Delivery) : Fifo.Op ℕ UInt8 := d.call.op (w.before d.toAction)

theorem deliveries_ready (w : World) (d : Delivery) (h : Ready w)
    (hd : (deliveries s).enabled w d) : Ready ((deliveries s).next w d) :=
  ready_next w d.toAction h hd.1

theorem deliveries_queues (w : World) (d : Delivery) (h : Ready w)
    (hd : (deliveries s).enabled w d) :
    queues ((deliveries s).next w d) = Fifo.bank.next (queues w) (d.op w) :=
  queues_next w d.toAction h hd.1

/-- What a call adds to the queue of `s`, against what it fetched. -/
theorem length_added (hs : s < wifiMaxSockNum) (w : World) (d : Delivery) (_ : Ready w)
    (hd : (deliveries s).enabled w d) :
    (Fifo.added s (queues w) (d.op w)).length =
      255 * (fetchedBy s w d).countP (· ≠ []) := by
  obtain ⟨⟨hvalid, hheap⟩, hkeeps, hreply⟩ := hd
  rw [fetchedBy]
  by_cases hreader : d.call.reader = some s
  · obtain ⟨hlen, hslave⟩ := hreply hreader
    have hoffered := length_offered (w := w.before d.toAction) (s := s)
      (fetch_replyFrame hlen hslave)
    rw [Delivery.op, Call.op_of_reader hreader, Fifo.added, queues_of_lt _ hs]
    by_cases hq : queue w s = []
    · by_cases hp : d.payload = []
      · simp [hq, hreader, hoffered, hp]
      · simp [hq, hreader, hoffered, hp]
    · simp [hq]
  · rw [if_neg (fun h => hreader h.1), Delivery.op]
    cases hc : d.call with
    | available t | peek t | read t data length | readChar sock =>
        rw [hc] at hreader
        simp only [Call.op, Fifo.added]
        rw [if_neg (fun h => hreader (congrArg some h.1))]
        rfl
    | close t | deinit => rfl

theorem fetchedBy_le (w : World) (d : Delivery) (_ : Ready w)
    (hd : (deliveries s).enabled w d) : ∀ p ∈ fetchedBy s w d, p.length ≤ maxPayload := by
  rw [fetchedBy]
  split
  · next h => simpa using (hd.2.2 h.1).1
  · simp

/-- Bounded payloads are together at most as long as the bound for each that is not empty. -/
theorem length_flatten_le {ps : List (List UInt8)} (h : ∀ p ∈ ps, p.length ≤ maxPayload) :
    ps.flatten.length ≤ maxPayload * ps.countP (· ≠ []) := by
  induction ps with
  | nil => simp
  | cons p ps ih =>
      obtain ⟨hp, hps⟩ := List.forall_mem_cons.mp h
      have hrest := ih hps
      cases p with
      | nil =>
          rw [List.countP_cons_of_neg (by simp)]
          simpa using hrest
      | cons c cs =>
          rw [List.countP_cons_of_pos (by simp), List.flatten_cons, List.length_append,
            Nat.mul_succ]
          omega

/-- What was added to the queue of `s` by a run is what it handed out and what is left. -/
theorem added_eq (h : Ready w) (hs : s < wifiMaxSockNum) (hq : queue w s = [])
    (hrun : (deliveries s).Run w ds) :
    (deliveries s).collect (fun w d => Fifo.added s (queues w) (d.op w)) w ds =
      handedOut s w ds ++ queue ((deliveries s).exec w ds) s := by
  have hout : handedOut s w ds = Fifo.bank.collect (Fifo.taken s) (queues w)
      ((deliveries s).actions (fun w d => d.op w) w ds) := by
    refine System.collect_simulation deliveries_ready deliveries_queues ?_ h hrun
    intro v d hv hd
    rw [← queues_before hv hd.1.2]
    exact Call.returned_eq (hv.before d.toAction) hd.1.1 hs
  have hin : (deliveries s).collect (fun w d => Fifo.added s (queues w) (d.op w)) w ds =
      Fifo.bank.collect (Fifo.added s) (queues w)
        ((deliveries s).actions (fun w d => d.op w) w ds) :=
    System.collect_simulation deliveries_ready deliveries_queues (fun _ _ _ _ => rfl) h hrun
  have hleft := System.exec_simulation deliveries_ready deliveries_queues h hrun
  have hops : ∀ op ∈ (deliveries s).actions (fun w d => d.op w) w ds, Fifo.Keeps s op := by
    refine System.forall_actions fun d hd v => Call.keeps_op ?_ (v.before d.toAction)
    exact System.forall_of_run (S := deliveries s) (P := fun d => d.call.Keeps s)
      (fun _ _ he => he.2.1) hrun d hd
  have hconserved := Fifo.conservation (Q := queues w) hops
  rw [queues_of_lt _ hs, hq, List.nil_append] at hconserved
  rw [hin, hconserved, hout, ← hleft, queues_of_lt _ hs]

/-- Every block counts 255 bytes, whatever was received. -/
theorem length_handedOut (h : Ready w) (hs : s < wifiMaxSockNum) (hq : queue w s = [])
    (hrun : (deliveries s).Run w ds) :
    (handedOut s w ds ++ queue ((deliveries s).exec w ds) s).length =
      255 * (fetched s w ds).countP (· ≠ []) := by
  rw [← added_eq h hs hq hrun]
  refine System.collect_rel (R := fun x y => x.length = 255 * y.countP (· ≠ [])) rfl ?_
    deliveries_ready (length_added hs) h hrun
  intro x y x' y' hx hy
  rw [List.length_append, List.countP_append, hx, hy, Nat.mul_add]

theorem fetched_le (h : Ready w) (hrun : (deliveries s).Run w ds) :
    ∀ p ∈ fetched s w ds, p.length ≤ maxPayload :=
  System.forall_collect deliveries_ready fetchedBy_le h hrun

/-- What `WiFiSocketBuffer_available` announces is what it leaves in the queue. -/
theorem announced_eq (h : Ready w) {d : Delivery} (hd : (deliveries s).enabled w d)
    (hc : d.call = .available s) :
    d.call.run.val (w.before d.toAction) = (queue ((deliveries s).next w d) s).length := by
  have hvalid : (Call.available s).Valid := hc ▸ hd.1.1
  have hnext : (deliveries s).next w d = (Call.available s).run.state (w.before d.toAction) := by
    rw [← hc]
    rfl
  rw [hnext, hc, val_available_queue (h.before d.toAction) hvalid, queue_available]

theorem faithful_iff (h : Ready w) (hs : s < wifiMaxSockNum) (hq : queue w s = [])
    (hrun : (deliveries s).Run w ds) :
    Faithful s w ds ↔ ∀ p ∈ fetched s w ds, p = [] := by
  have hlength := length_handedOut h hs hq hrun
  have hbound := length_flatten_le (fetched_le h hrun)
  rw [maxPayload] at hbound
  have hcount : (fetched s w ds).countP (· ≠ []) = 0 ↔ ∀ p ∈ fetched s w ds, p = [] := by
    simp
  constructor
  · intro hfaithful
    rw [hfaithful.bytes] at hlength
    exact hcount.mp (by omega)
  · intro hempty
    have hzero := hcount.mpr hempty
    rw [hzero, Nat.mul_zero, List.length_eq_zero_iff, List.append_eq_nil_iff] at hlength
    obtain ⟨hout, hleft⟩ := hlength
    have hflatten : (fetched s w ds).flatten = [] := List.flatten_eq_nil_iff.mpr hempty
    refine ⟨by rw [hout, hleft, hflatten]; rfl, ?_⟩
    rintro ds' d rfl hc
    obtain ⟨hrun', hd, -⟩ := (deliveries s).run_append.mp hrun
    have hready := System.invariant deliveries_ready h hrun'
    rw [System.exec_append] at hleft
    rw [announced_eq hready hd hc, hflatten, hout]
    exact (congrArg (fun q : List UInt8 => (q.length : ℤ)) hleft).le

end Runs

/-- **When the stream is faithful.**  In every run from the initialisation, the bytes
returned and buffered for a socket are those of the payloads fetched for it exactly if
no payload had any. -/
theorem stream_faithful_iff (w : World) (s : ℕ) (ds : List Delivery) (hs : s < wifiMaxSockNum)
    (hlive : w.heap.live = []) (hfrees : w.heap.badFrees = []) (hm : Affluent w)
    (hrun : (deliveries s).Run (init.state w) ds) :
    Faithful s (init.state w) ds ↔ ∀ p ∈ fetched s (init.state w) ds, p = [] :=
  faithful_iff (ready_init hlive hfrees hm) hs
    (queue_of_length (by simp [init, hs, Entry.empty])) hrun

/-- Polling socket 0 while the module has the given payload for it. -/
def pollOnce (payload : List UInt8) : Delivery where
  call := .available 0
  bus := { World.boot.bus with
    slave := fun _ => replyFrame UInt16 getDatabufTcpCmd [payload] }
  payload := payload
  rest := []

theorem run_pollOnce (payload : List UInt8) (h : payload.length ≤ maxPayload) :
    (deliveries 0).Run (init.state World.boot) [pollOnce payload] :=
  ⟨⟨⟨show 0 < wifiMaxSockNum by decide, fun _ _ => rfl⟩, trivial,
    fun _ => ⟨h, (List.append_nil _).symm⟩⟩, trivial⟩

theorem fetched_pollOnce (payload : List UInt8) :
    fetched 0 (init.state World.boot) [pollOnce payload] = [payload] := rfl

/-- One byte is received, and 255 are announced. -/
theorem oneByte_not_faithful :
    (deliveries 0).Run (init.state World.boot) [pollOnce [65]] ∧
      ¬ Faithful 0 (init.state World.boot) [pollOnce [65]] := by
  have hrun := run_pollOnce [65] (by decide)
  refine ⟨hrun, ?_⟩
  intro h
  have hempty := (faithful_iff (ready_init rfl rfl fun _ => rfl) (by decide) rfl hrun).mp h
  simp [fetched_pollOnce] at hempty

/-- While the module has nothing, polling is faithful. -/
theorem stream_faithful_iff_boot : Faithful 0 (init.state World.boot) [pollOnce []] :=
  (stream_faithful_iff World.boot 0 [pollOnce []] (by decide) rfl rfl (fun _ => rfl)
    (run_pollOnce [] (by decide))).mpr (by simp [fetched_pollOnce])

end WiFiNINA
