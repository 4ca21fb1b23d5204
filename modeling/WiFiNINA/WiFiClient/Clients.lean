import WiFiNINA.FixedWidth
import WiFiNINA.WiFiSocketBuffer.Calls

/-!
# Applications of WiFiClient.c

An application gets handles from the functions that connect, and passes them on to the
functions that work on a connection, in any order.  As for the socket buffers, anything may
have happened to the driver before each call.
-/

namespace WiFiNINA

open SpiDrv ServerDrv World WiFiSocketBuffer

namespace WiFiClient

/-- The functions that return a handle. -/
inductive Connect
  | connect (ip : UInt32) (port : UInt16)
  | connectSSL (ip : UInt32) (port : UInt16)
  | connectHostname (host : Ptr Obj) (port : UInt16)
  | connectSSLHostname (host : Ptr Obj) (port : UInt16)

/-- What a connecting function returns, if it does within `fuel` rounds of its loop. -/
def Connect.run (fuel : ℕ) : Connect → Prog World (Option ℤ)
  | connect ip port => WiFiClient.connect fuel ip port
  | connectSSL ip port => WiFiClient.connectSSL fuel ip port
  | connectHostname host port => WiFiClient.connectHostname fuel host port
  | connectSSLHostname host port => WiFiClient.connectSSLHostname fuel host port

/-- The functions that take a handle. -/
inductive Operation
  | available
  | readChar
  | read (buf : Ptr Obj) (size : UInt32)
  | peek
  | write (buf : Ptr Obj) (size : UInt32)
  | writeChar (ch : UInt8)
  | flush
  | connected
  | status
  | stop
  | remoteIP
  | remotePort

def Operation.run (sock : UInt8) : Operation → Prog World ℤ
  | available => WiFiClient.available sock
  | readChar => WiFiClient.readChar sock
  | read buf size => WiFiClient.read sock buf size
  | peek => WiFiClient.peek sock
  | write buf size => WiFiClient.write sock buf size
  | writeChar ch => WiFiClient.writeChar sock ch
  | flush => do
      WiFiClient.flush sock
      pure 0
  | connected => WiFiClient.connected sock
  | status => WiFiClient.status sock
  | stop => do
      WiFiClient.stop sock
      pure 0
  | remoteIP => do
      let ip ← WiFiClient.remoteIP sock
      pure ip
  | remotePort => do
      let port ← WiFiClient.remotePort sock
      pure port

end WiFiClient

open WiFiClient

/-- A call of an application. -/
inductive ClientCall
  | connect (c : Connect) (fuel : ℕ)
  | operate (handle : ℤ) (op : Operation)

/-- A call, and what became of the driver before it. -/
structure Use where
  call : ClientCall
  bus : Bus

/-- The state of an application: the library, and the handles obtained so far. -/
structure Application where
  world : World
  handles : List ℤ

/-- An application before its first call. -/
def Application.start (w : World) : Application := ⟨init.state w, []⟩

/-- The state in which a call is made. -/
abbrev Application.before (a : Application) (u : Use) : World := { a.world with bus := u.bus }

/-- The applications of `WiFiClient.c`: a call that connects must return, and the other
calls are made on handles that were returned.  A handle is passed on as a `uint8`. -/
def clients : System Application Use where
  enabled a u := SameHeap a.world.bus u.bus ∧
    match u.call with
    | .connect c fuel => ((c.run fuel).val (a.before u)).isSome
    | .operate handle _ => handle ∈ a.handles
  next a u :=
    match u.call with
    | .connect c fuel =>
        { world := (c.run fuel).state (a.before u)
          handles := ((c.run fuel).val (a.before u)).toList ++ a.handles }
    | .operate handle op => { a with world := (op.run (toByte handle)).state (a.before u) }

section Steps
variable {a : Application} {u : Use}

theorem clients_next_connect {c : Connect} {fuel : ℕ} (hu : u.call = .connect c fuel) :
    clients.next a u =
      { world := (c.run fuel).state (a.before u)
        handles := ((c.run fuel).val (a.before u)).toList ++ a.handles } := by
  simp only [clients, hu]

theorem clients_next_operate {handle : ℤ} {op : Operation} (hu : u.call = .operate handle op) :
    clients.next a u =
      { a with world := (op.run (toByte handle)).state (a.before u) } := by
  simp only [clients, hu]

/-- A call in front of a module that shifts out these bytes, with nothing in between. -/
def Application.use (a : Application) (slave : ℕ → List UInt8) (call : ClientCall) : Use :=
  ⟨call, { a.world.bus with slave := slave }⟩

theorem enabled_connect {slave : ℕ → List UInt8} {c : Connect} {fuel : ℕ} {s : ℤ}
    (h : (c.run fuel).val (a.before (a.use slave (.connect c fuel))) = some s) :
    clients.enabled a (a.use slave (.connect c fuel)) :=
  ⟨fun _ _ => rfl, Option.isSome_iff_exists.mpr ⟨s, h⟩⟩

theorem enabled_operate {slave : ℕ → List UInt8} {handle : ℤ} {op : Operation}
    (h : handle ∈ a.handles) : clients.enabled a (a.use slave (.operate handle op)) :=
  ⟨fun _ _ => rfl, h⟩

end Steps

/-- The block of an entry is not an automatic variable of the library. -/
def Entry.Apart (e : Entry) : Prop := ∀ var size, e.data.obj ≠ .auto var size

theorem Entry.Apart.congr {e e' : Entry} (h : e.Apart) (hdata : e'.data = e.data) : e'.Apart := by
  intro var size
  rw [hdata]
  exact h var size

theorem Entry.apart_empty : Entry.empty.Apart := fun _ _ => Obj.noConfusion

/-- From `w` to `w'` only entry `i` of `_buffers` was accessed, and its block was not made a
variable. -/
structure Touches (i : ℕ) (w w' : World) : Prop where
  indexed : ∃ n, w'.indexed = List.replicate n i ++ w.indexed
  buffers : ∀ t ≠ i, w'.buffers t = w.buffers t
  apart : (w.buffers i).Apart → (w'.buffers i).Apart

section Touches
variable {i : ℕ} {α β : Type} {w w' w'' : World}

theorem Touches.refl (w : World) : Touches i w w := ⟨⟨0, rfl⟩, fun _ _ => rfl, id⟩

theorem Touches.trans (h : Touches i w w') (h' : Touches i w' w'') : Touches i w w'' := by
  obtain ⟨n, hn⟩ := h.indexed
  obtain ⟨n', hn'⟩ := h'.indexed
  refine ⟨⟨n' + n, ?_⟩, ?_, fun ha => h'.apart (h.apart ha)⟩
  · rw [hn', hn, ← List.append_assoc, List.replicate_append_replicate]
  · intro t ht
    rw [h'.buffers t ht, h.buffers t ht]

theorem touches_pure (a : α) : Prog.Guarantees (Touches i) (pure a : Prog World α) :=
  Prog.Guarantees.pure Touches.refl a

theorem touches_bind {p : Prog World α} {f : α → Prog World β}
    (hp : Prog.Guarantees (Touches i) p) (hf : ∀ a, Prog.Guarantees (Touches i) (f a)) :
    Prog.Guarantees (Touches i) (p >>= f) :=
  Prog.Guarantees.bind (R := Touches i) Touches.trans hp hf

theorem touches_ite (c : Prop) [Decidable c] {p q : Prog World α}
    (hp : Prog.Guarantees (Touches i) p) (hq : Prog.Guarantees (Touches i) q) :
    Prog.Guarantees (Touches i) (if c then p else q) :=
  Prog.Guarantees.ite c hp hq

theorem touches_onBus (p : Prog Bus α) : Prog.Guarantees (Touches i) (onBus p) :=
  fun _ => ⟨⟨0, rfl⟩, fun _ _ => rfl, id⟩

theorem touches_free (p : Ptr Obj) : Prog.Guarantees (Touches i) (free p) :=
  fun _ => ⟨⟨0, rfl⟩, fun _ _ => rfl, id⟩

theorem touches_tickCount : Prog.Guarantees (Touches i) tickCount :=
  fun _ => ⟨⟨0, rfl⟩, fun _ _ => rfl, id⟩

theorem touches_pdMsToTicks (ms : UInt32) : Prog.Guarantees (Touches i) (pdMsToTicks ms) :=
  fun w => Touches.refl w

theorem touches_entry : Prog.Guarantees (Touches i) (entry i) :=
  fun _ => ⟨⟨1, rfl⟩, fun _ _ => rfl, id⟩

theorem touches_setEntry {e : Entry} (he : (w.buffers i).Apart → e.Apart) :
    Touches i w ((setEntry i e).state w) := by
  refine ⟨⟨1, rfl⟩, fun t ht => Function.update_of_ne ht _ _, fun ha => ?_⟩
  simpa using he ha

theorem touches_then {p : Prog World α} {f : α → Prog World β}
    (hp : Touches i w (p.state w))
    (hf : Touches i (p.state w) ((f (p.val w)).state (p.state w))) :
    Touches i w ((p >>= f).state w) :=
  hp.trans hf

/-- Looking at the entry: what follows may rely on what was seen. -/
theorem touches_entry_bind {f : Entry → Prog World α}
    (hf : ∀ w, Touches i w ((f (w.buffers i)).state w)) :
    Prog.Guarantees (Touches i) (entry i >>= f) :=
  fun w => (touches_entry w).trans (hf { w with indexed := i :: w.indexed })

/-- Whether an allocation succeeds or not, it is not made in a variable. -/
theorem obj_malloc (size : ℕ) (w : World) (var : Var) (n : ℕ) :
    ((malloc size).val w).obj ≠ .auto var n := by
  rw [malloc, Prog.val_mk]
  split <;> exact Obj.noConfusion

theorem buffers_malloc (size : ℕ) (w : World) :
    ((malloc size).state w).buffers = w.buffers ∧
      ((malloc size).state w).indexed = w.indexed := by
  rw [malloc, Prog.state_mk]
  split <;> exact ⟨rfl, rfl⟩

theorem touches_malloc (size : ℕ) : Prog.Guarantees (Touches i) (malloc size) := by
  intro w
  obtain ⟨hbuffers, hindexed⟩ := buffers_malloc size w
  refine ⟨⟨0, hindexed⟩, fun t _ => congrFun hbuffers t, fun ha => ?_⟩
  rwa [hbuffers]

end Touches

namespace WiFiSocketBuffer

theorem touches_allocate (socket : ℕ) : Prog.Guarantees (Touches socket) (allocate socket) := by
  refine touches_entry_bind fun w => ?_
  rw [Prog.state_ite]
  split
  · refine (touches_malloc _ w).trans (touches_setEntry fun _ => ?_)
    exact obj_malloc _ w
  · exact Touches.refl w

theorem touches_refill (socket : ℕ) : Prog.Guarantees (Touches socket) (refill socket) := by
  refine touches_entry_bind fun w => ?_
  rw [Prog.state_ite]
  split
  · refine touches_then (touches_allocate socket w) (touches_then (touches_onBus _ _) ?_)
    refine touches_entry_bind (fun v => touches_then (touches_onBus _ v) ?_) _
    rw [Prog.state_ite]
    split
    · exact touches_then (touches_onBus _ _) (touches_setEntry id)
    · exact Touches.refl _
  · exact Touches.refl w

theorem touches_available (socket : ℕ) : Prog.Guarantees (Touches socket) (available socket) :=
  touches_bind (touches_refill socket) fun _ => touches_bind touches_entry fun _ => touches_pure _

/-- Every call that reads begins with `WiFiSocketBuffer_available`. -/
theorem peek_available (socket : ℕ) :
    ∃ f, peek socket = available socket >>= f ∧
      ∀ avail, Prog.Guarantees (Touches socket) (f avail) := by
  refine ⟨_, rfl, fun avail => touches_ite _ (touches_pure _) ?_⟩
  exact touches_bind touches_entry fun e => touches_bind (touches_onBus _) fun bytes =>
    touches_pure _

theorem read_available (socket : ℕ) (data : Ptr Obj) (length : UInt32) :
    ∃ f, read socket data length = available socket >>= f ∧
      ∀ avail, Prog.Guarantees (Touches socket) (f avail) := by
  refine ⟨_, rfl, fun avail => touches_ite _ (touches_pure _) ?_⟩
  refine touches_entry_bind fun w => touches_then (touches_onBus _ w) ?_
  refine touches_then (touches_onBus _ _) (touches_then (touches_setEntry fun ha => ?_) ?_)
  · exact ha.congr rfl
  · rw [Prog.state_pure]
    exact Touches.refl _

theorem touches_peek (socket : ℕ) : Prog.Guarantees (Touches socket) (peek socket) := by
  obtain ⟨f, hpeek, hf⟩ := peek_available socket
  rw [hpeek]
  exact touches_bind (touches_available socket) hf

theorem touches_read (socket : ℕ) (data : Ptr Obj) (length : UInt32) :
    Prog.Guarantees (Touches socket) (read socket data length) := by
  obtain ⟨f, hread, hf⟩ := read_available socket data length
  rw [hread]
  exact touches_bind (touches_available socket) hf

theorem touches_close (socket : ℕ) : Prog.Guarantees (Touches socket) (close socket) := by
  refine touches_bind touches_entry fun e => touches_ite _ ?_ (touches_pure ())
  exact touches_bind (touches_free _) fun _ w => touches_setEntry fun _ => Entry.apart_empty

end WiFiSocketBuffer

/-! ## The client -/

namespace WiFiClient

section Operations
variable (sock : UInt8)

theorem touches_available : Prog.Guarantees (Touches sock.toNat) (available sock) :=
  touches_ite _ (touches_pure _) (WiFiSocketBuffer.touches_available sock.toNat)

theorem touches_readChar : Prog.Guarantees (Touches sock.toNat) (readChar sock) := by
  refine touches_bind (touches_available sock) fun avail => touches_ite _ (touches_pure _) ?_
  exact touches_bind (touches_read _ _ _) fun n => touches_bind (touches_onBus _) fun ch =>
    touches_pure _

theorem touches_write (buf : Ptr Obj) (size : UInt32) :
    Prog.Guarantees (Touches sock.toNat) (write sock buf size) := by
  refine touches_ite _ (touches_pure _) (touches_bind (touches_onBus _) fun written => ?_)
  refine touches_ite _ (touches_pure _) (touches_bind (touches_onBus _) fun sent => ?_)
  exact touches_ite _ (touches_pure _) (touches_pure _)

theorem touches_status : Prog.Guarantees (Touches sock.toNat) (status sock) :=
  touches_ite _ (touches_pure _) (touches_onBus _)

theorem touches_connected : Prog.Guarantees (Touches sock.toNat) (connected sock) := by
  refine touches_ite _ (touches_pure _) (touches_bind (touches_available sock) fun avail => ?_)
  refine touches_ite _ (touches_pure _) (touches_bind (touches_status sock) fun s => ?_)
  exact touches_ite _ (touches_bind (touches_close _) fun _ => touches_pure _) (touches_pure _)

theorem touches_awaitClosed (polls : ℕ) :
    Prog.Guarantees (Touches sock.toNat) (awaitClosed sock polls) := by
  induction polls with
  | zero => exact touches_pure ()
  | succ polls ih =>
      exact touches_bind (touches_status sock) fun s => touches_ite _ ih (touches_pure ())

theorem touches_stop : Prog.Guarantees (Touches sock.toNat) (stop sock) :=
  touches_ite _ (touches_pure ()) (touches_bind (touches_onBus _) fun _ =>
    touches_bind (touches_awaitClosed sock 50) fun _ => touches_close _)

/-- **Every operation works on the entry of its own socket.** -/
theorem touches_operation (op : Operation) :
    Prog.Guarantees (Touches sock.toNat) (op.run sock) := by
  cases op with
  | available => exact touches_available sock
  | readChar => exact touches_readChar sock
  | read buf size => exact touches_read sock.toNat buf size
  | peek => exact touches_peek sock.toNat
  | write buf size => exact touches_write sock buf size
  | writeChar ch => exact touches_bind (touches_onBus _) fun p => touches_write sock p 1
  | flush => exact touches_bind (touches_pure ()) fun _ => touches_pure 0
  | connected => exact touches_connected sock
  | status => exact touches_status sock
  | stop => exact touches_bind (touches_stop sock) fun _ => touches_pure 0
  | remoteIP | remotePort =>
      refine touches_bind (touches_bind (touches_onBus _) fun ip => ?_) fun x => touches_pure _
      exact touches_bind (touches_onBus _) fun port => touches_bind (touches_onBus _) fun _ =>
        touches_bind (touches_onBus _) fun bytes => touches_pure _

theorem touches_awaitConnection (start : UInt32) (fuel : ℕ) :
    Prog.Guarantees (Touches sock.toNat) (awaitConnection sock start fuel) := by
  induction fuel with
  | zero => exact touches_pure false
  | succ fuel ih =>
      refine touches_bind (touches_connected sock) fun up => touches_ite _ (touches_pure true) ?_
      exact touches_bind touches_tickCount fun now => touches_bind (touches_pdMsToTicks _)
        fun timeout => touches_ite _ ih (touches_pure true)

theorem touches_connectCommon (fuel : ℕ) :
    Prog.Guarantees (Touches sock.toNat) (connectCommon fuel sock) := by
  refine touches_bind touches_tickCount fun start =>
    touches_bind (touches_awaitConnection sock start fuel) fun ended => ?_
  exact touches_ite _ (touches_bind (touches_connected sock) fun up => touches_pure _)
    (touches_pure none)

end Operations

/-- The exchanges of a connecting function before it waits. -/
def Connect.requested : Connect → Prog Bus Unit
  | connect ip port => do
      let _ ← getSocket
      (startClient ip port 0 tcpMode).ignore
  | connectSSL ip port => do
      let _ ← getSocket
      (startClient ip port 0 tlsMode).ignore
  | connectHostname host _ => (WiFi.hostByName host ⟨.auto .remoteAddr 4, 0⟩).ignore
  | connectSSLHostname host port => do
      let _ ← getSocket
      let len ← Bus.strlen host
      (startClientHostname host (UInt8.ofNat len) 0 port 0 tlsMode).ignore

/-- The functions that come to wait. -/
def Connect.Waits : Connect → Prop
  | connect _ _ | connectSSL _ _ | connectSSLHostname _ _ => True
  | connectHostname _ _ => False

section Connecting
variable (fuel : ℕ) (w : World)

/-- The number that `ServerDrv_getSocket` returns is taken for a socket. -/
theorem toByte_getSocket (b : Bus) : toByte (getSocket.val b) = 0 := by
  rw [val_getSocket]
  rfl

theorem zero_ne_noSocketAvail : (0 : UInt8) ≠ noSocketAvail := by decide

theorem run_connectProtocol (protMode : UInt8) (ip : UInt32) (port : UInt16) :
    (connectProtocol protMode fuel ip port).run w =
      (connectCommon fuel 0).run { w with
        bus := (startClient ip port 0 protMode).state (getSocket.state w.bus) } := by
  rw [connectProtocol, Prog.run_bind, val_onBus, toByte_getSocket, if_neg zero_ne_noSocketAvail,
    Prog.run_bind, state_onBus, state_onBus]

/-- **Waiting** for a connection begins with socket zero. -/
theorem run_of_waits {c : Connect} (hc : c.Waits) :
    (c.run fuel).run w =
      (connectCommon fuel 0).run { w with bus := c.requested.state w.bus } := by
  cases c with
  | connect ip port =>
      rw [Connect.run, WiFiClient.connect, run_connectProtocol, Connect.requested,
        Prog.state_bind, Prog.state_ignore]
  | connectSSL ip port =>
      rw [Connect.run, WiFiClient.connectSSL, run_connectProtocol, Connect.requested,
        Prog.state_bind, Prog.state_ignore]
  | connectHostname host port => exact absurd hc id
  | connectSSLHostname host port =>
      rw [Connect.run, connectSSLHostname, Prog.run_bind, val_onBus, toByte_getSocket,
        if_neg zero_ne_noSocketAvail, Prog.run_bind, Prog.run_bind, val_onBus, state_onBus,
        state_onBus, state_onBus, Connect.requested, Prog.state_bind, Prog.state_bind,
        Prog.state_ignore]

/-- So no name is ever resolved. -/
theorem val_hostByName (host result : Ptr Obj) (b : Bus) :
    (WiFi.hostByName host result).val b = 0 := by
  rw [WiFi.hostByName, WiFiDrv.getHostByName, Prog.val_bind, WiFiDrv.val_reqHostByName,
    if_neg (by simp)]
  rfl

theorem run_of_not_waits {c : Connect} (hc : ¬ c.Waits) :
    (c.run fuel).run w = (some 0, { w with bus := c.requested.state w.bus }) := by
  cases c with
  | connectHostname host port =>
      rw [Connect.run, connectHostname, Prog.run_bind, val_onBus, val_hostByName, if_neg (by simp)]
      rfl
  | connect | connectSSL | connectSSLHostname => exact absurd trivial hc

/-- **Connecting works on the entry of socket zero.** -/
theorem touches_connect (c : Connect) : Prog.Guarantees (Touches 0) (c.run fuel) := by
  intro w
  have hbus (b : Bus) : Touches 0 w { w with bus := b } := ⟨⟨0, rfl⟩, fun _ _ => rfl, id⟩
  rw [Prog.state]
  by_cases hc : c.Waits
  · rw [run_of_waits fuel w hc]
    exact (hbus _).trans (touches_connectCommon 0 fuel _)
  · rw [run_of_not_waits fuel w hc]
    exact hbus _

theorem val_connectCommon_cases {sock : UInt8} {s : ℤ}
    (hs : (connectCommon fuel sock).val w = some s) : s = sock.toNat ∨ s = noSocketAvail.toNat := by
  simp only [connectCommon, Prog.val_bind, Prog.val_ite, Prog.val_pure] at hs
  grind

/-- A handle is socket zero or none. -/
theorem val_connect_cases {c : Connect} {s : ℤ} (hs : (c.run fuel).val w = some s) :
    s = 0 ∨ s = noSocketAvail.toNat := by
  rw [Prog.val] at hs
  by_cases hc : c.Waits
  · rw [run_of_waits fuel w hc] at hs
    exact val_connectCommon_cases fuel _ hs
  · rw [run_of_not_waits fuel w hc] at hs
    exact .inl (Option.some.inj hs).symm

end Connecting

end WiFiClient

/-! ## Runs -/

section Runs
variable {a : Application} {u : Use} {us : List Use}

/-- The handles there can be. -/
def Application.Handles (a : Application) : Prop :=
  ∀ s ∈ a.handles, s = 0 ∨ s = noSocketAvail.toNat

theorem handles_next (h : a.Handles) : (clients.next a u).Handles := by
  cases hu : u.call with
  | connect c fuel =>
      rw [clients_next_connect hu]
      intro s hs
      rw [List.mem_append, Option.mem_toList] at hs
      exact hs.elim (fun hs => val_connect_cases fuel _ hs) (h s)
  | operate handle op =>
      rw [clients_next_operate hu]
      exact h

/-- The sockets there are have blocks apart from the variables of the library. -/
def Application.Apart (a : Application) : Prop :=
  ∀ t < wifiMaxSockNum, (a.world.buffers t).Apart

theorem Touches.apart_of {i t : ℕ} {w w' : World} (h : Touches i w w')
    (ht : (w.buffers t).Apart) : (w'.buffers t).Apart := by
  by_cases hti : t = i
  · subst hti
    exact h.apart ht
  · rw [h.buffers t hti]
    exact ht

theorem apart_next (h : a.Apart) : (clients.next a u).Apart := by
  intro t ht
  cases hu : u.call with
  | connect c fuel =>
      rw [clients_next_connect hu]
      exact (touches_connect fuel c (a.before u)).apart_of (h t ht)
  | operate handle op =>
      rw [clients_next_operate hu]
      exact (touches_operation (toByte handle) op (a.before u)).apart_of (h t ht)

theorem handles_exec (h : a.Handles) (hrun : clients.Run a us) :
    (clients.exec a us).Handles :=
  System.invariant (fun _ _ hs _ => handles_next hs) h hrun

theorem apart_exec (h : a.Apart) (hrun : clients.Run a us) : (clients.exec a us).Apart :=
  System.invariant (fun _ _ hs _ => apart_next hs) h hrun

theorem handles_start (w : World) : (Application.start w).Handles := by
  simp [Application.start, Application.Handles]

theorem apart_start (w : World) : (Application.start w).Apart := by
  intro t ht
  simp only [Application.start, init, Prog.state_modify, if_pos ht]
  exact Entry.apart_empty

end Runs

end WiFiNINA
