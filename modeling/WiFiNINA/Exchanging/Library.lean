import WiFiNINA.Exchanging.Buffers

/-!
# The whole library exchanges

What an application may expect of the library depends on how it is used: which sockets are
named, which memory is lent to the library, and how much is read at once.  Every function that a
usage permits is composed of exchanges that stay inside the memory, and of the functions of the
socket buffers on the sockets.  It is shown here once, for all functions of the library and any
usage.
-/

namespace WiFiNINA

open World WiFiClient

/-- How an application uses the library. -/
structure Usage where
  /-- The sockets that are named. -/
  sockets : Set ℕ
  /-- The commands that may be sent. -/
  commands : Set UInt8
  /-- The memory that may be stored to. -/
  memory : Set (Ptr Obj)
  /-- Every read is shorter. -/
  limit : ℕ
  /-- Whether the buffers are initialised again. -/
  restart : Prop

namespace Usage
variable (u : Usage)

/-- The handle of a call that looks whether there is a socket. -/
def Handle (sock : UInt8) : Prop := sock = noSocketAvail ∨ sock.toNat ∈ u.sockets

def PermitsOperation (sock : UInt8) : Operation → Prop
  | .available | .connected | .stop => u.Handle sock
  | .readChar => u.Handle sock ∧ 1 < u.limit
  | .read buf size => sock.toNat ∈ u.sockets ∧ span buf size.toNat ⊆ u.memory ∧ size.toNat < u.limit
  | .peek => sock.toNat ∈ u.sockets
  -- the polls of `ServerDrv_checkDataSent`
  | .write _ _ | .writeChar _ => span (DriverCall.varAt .response 1) 256 ⊆ u.memory
  | .flush | .status | .remoteIP | .remotePort => True

def PermitsCall : Call → Prop
  | .available socket | .peek socket | .close socket => socket ∈ u.sockets
  | .read socket data length =>
      socket ∈ u.sockets ∧ span data length.toNat ⊆ u.memory ∧ length.toNat < u.limit
  | .readChar sock => u.Handle sock ∧ 1 < u.limit
  | .deinit => ∀ s < wifiMaxSockNum, s ∈ u.sockets

/-- The calls that belong to a usage. -/
def Permits : ApiCall → Prop
  | .wifi c => c.writable ⊆ u.memory
  | .driver c => c.writable ⊆ u.memory
  -- the socket that `ServerDrv_getSocket` returns
  | .connect _ _ => 0 ∈ u.sockets
  | .operate sock op => u.PermitsOperation sock op
  | .initBuffers => u.restart
  | .buffer c => u.PermitsCall c

end Usage

/-- Neither the driver nor the heap nor a buffer is changed, nor is the driver looked at. -/
structure Idle {α : Type} (p : Prog World α) : Prop where
  aside : Aside p
  heap : ∀ w, (p.state w).heap = w.heap
  buffers : ∀ w, (p.state w).buffers = w.buffers

/-- What the functions of the library do within a usage. -/
inductive UsageOp (u : Usage) : ⦃α : Type⦄ → ℕ → Prog World α → Prop
  | bus {α : Type} {n : ℕ} {p : Prog Bus α} (h : Exchanging u.commands u.memory n p) :
      UsageOp u n (onBus p)
  | idle {α : Type} {p : Prog World α} (h : Idle p) : UsageOp u 0 p
  | init (h : u.restart) : UsageOp u 0 WiFiSocketBuffer.init
  | refill {s : ℕ} (hfetch : getDatabufTcpCmd ∈ u.commands) (hs : s ∈ u.sockets) :
      UsageOp u 1 (WiFiSocketBuffer.refill s)
  | read {s : ℕ} (hfetch : getDatabufTcpCmd ∈ u.commands) (hs : s ∈ u.sockets)
      {data : Ptr Obj} {length : UInt32}
      (hdata : span data length.toNat ⊆ u.memory) (hlength : length.toNat < u.limit) :
      UsageOp u 1 (WiFiSocketBuffer.read s data length)
  | close {s : ℕ} (hs : s ∈ u.sockets) : UsageOp u 0 (WiFiSocketBuffer.close s)

/-- Composed of at most `n` exchanges within a usage. -/
abbrev Abides (u : Usage) {α : Type} (n : ℕ) (p : Prog World α) : Prop :=
  Composed (fun _ : World => True) (UsageOp u) n p

section Rules
variable {u : Usage} {α β : Type} {n : ℕ}

theorem idle_entry (socket : ℕ) : Idle (entry socket) :=
  ⟨aside_entry socket, fun _ => rfl, fun _ => rfl⟩

theorem idle_tickCount : Idle tickCount := ⟨aside_tickCount, fun _ => rfl, fun _ => rfl⟩

theorem idle_pdMsToTicks (ms : UInt32) : Idle (pdMsToTicks ms) :=
  ⟨aside_pdMsToTicks ms, fun _ => rfl, fun _ => rfl⟩

theorem abides_bus {p : Prog Bus α} (h : Exchanging u.commands u.memory n p) :
    Abides u n (onBus p) := .basic (.bus h)

/-- Looking at an entry. -/
theorem abides_entry {socket : ℕ} {f : Entry → Prog World β} (hf : ∀ e, Abides u n (f e)) :
    Abides u n (entry socket >>= f) :=
  Composed.before (.basic (.idle (idle_entry socket))) fun w _ => hf (w.buffers socket)

/-- Bytes that were loaded decide how to go on. -/
theorem abides_load {p : Ptr Obj} {k : ℕ} {f : List UInt8 → Prog World β}
    (hf : ∀ bytes, Abides u n (f bytes)) : Abides u n (onBus (Bus.loadList p k) >>= f) :=
  (abides_bus (exchanging_loadList p k)).before fun w _ => hf (w.bus.mem.loadList p k)

theorem abides_var (hown : OwnMemory ⊆ u.memory) {var : Var} {init : List UInt8}
    {f : Ptr Obj → Prog World β} (hf : Abides u n (f ⟨.auto var init.length, 0⟩)) :
    Abides u n (onBus (Bus.auto var init) >>= f) :=
  (abides_bus (exchanging_auto hown (f := fun p => pure p) (.pure _))).before fun _ _ => hf

end Rules

section Buffers
variable {u : Usage} {s : ℕ} (hfetch : getDatabufTcpCmd ∈ u.commands) (hs : s ∈ u.sockets)
include hfetch hs

theorem abides_available : Abides u 1 (WiFiSocketBuffer.available s) :=
  Composed.after (.basic (.refill hfetch hs)) fun _ _ => abides_entry fun _ => .pure _

theorem abides_peek : Abides u 1 (WiFiSocketBuffer.peek s) :=
  (abides_available hfetch hs).after fun _ _ => .ite_pure _ _
    (abides_entry fun _ => abides_load fun _ => .pure _)

end Buffers

theorem abides_closeFrom {u : Usage} (n i : ℕ) (h : ∀ s, i ≤ s → s < i + n → s ∈ u.sockets) :
    Abides u 0 (WiFiSocketBuffer.closeFrom n i) := by
  induction n generalizing i with
  | zero => exact .pure ()
  | succ n ih =>
      refine Composed.before (.basic (.close (h i le_rfl (by omega)))) fun _ _ => ih (i + 1) ?_
      exact fun s hle hlt => h s (by omega) (by omega)

/-! ## The connections -/

section Clients
variable {u : Usage} {sock : UInt8}

theorem Usage.Handle.socket (h : u.Handle sock) (hsock : sock ≠ noSocketAvail) :
    sock.toNat ∈ u.sockets := h.resolve_left hsock

theorem abides_clientAvailable (hfetch : getDatabufTcpCmd ∈ u.commands) (h : u.Handle sock) :
    Abides u 1 (WiFiClient.available sock) := by
  rw [WiFiClient.available]
  split
  · exact (Composed.pure _).mono (Nat.zero_le 1)
  · next hsock => exact abides_available hfetch (h.socket hsock)

theorem abides_status (hown : OwnMemory ⊆ u.memory) (hstatus : getClientStateTcpCmd ∈ u.commands)
    (sock : UInt8) :
    Abides u 1 (WiFiClient.status sock) :=
  .ite_pure _ _ (abides_bus (exchanging_getClientState hown hstatus sock))

theorem abides_readChar (hown : OwnMemory ⊆ u.memory) (hfetch : getDatabufTcpCmd ∈ u.commands)
    (h : u.Handle sock) (hlimit : 1 < u.limit) :
    Abides u 2 (WiFiClient.readChar sock) := by
  by_cases hsock : sock = noSocketAvail
  · rw [WiFiClient.readChar, WiFiClient.available, if_pos hsock]
    refine Composed.before (.pure 0) fun _ _ => ?_
    rw [Prog.val_pure, if_pos rfl]
    exact (Composed.pure _).mono (Nat.zero_le 2)
  · refine Composed.bind (m := 1) (n := 1) (abides_clientAvailable hfetch h) fun _ _ =>
      .ite_pure _ _ (Composed.after (.basic (.read hfetch (h.socket hsock) ?_ hlimit)) fun _ _ =>
        abides_load fun _ => .pure _)
    exact fun a ha => hown (mem_ownMemory_of_auto (n := 1) le_rfl ha)

theorem abides_write (hown : OwnMemory ⊆ u.memory) (hsend : sendDataTcpCmd ∈ u.commands)
    (hpoll : dataSentTcpCmd ∈ u.commands)
    (hresponse : span (DriverCall.varAt .response 1) 256 ⊆ u.memory) (sock : UInt8)
    (buf : Ptr Obj) (size : UInt32) : Abides u 26 (WiFiClient.write sock buf size) := by
  refine .ite_pure _ _ (Composed.bind (m := 1) (n := 25) (abides_bus
    (exchanging_sendData hown hsend _ _ _)) fun _ _ => .ite_pure _ _ ?_)
  exact Composed.after (abides_bus (exchanging_checkDataSent hown (fun a ha => hresponse ha)
    hpoll sock)) fun _ _ => .ite_pure _ _ (.pure _)

theorem abides_connected (hown : OwnMemory ⊆ u.memory) (hfetch : getDatabufTcpCmd ∈ u.commands)
    (hstatus : getClientStateTcpCmd ∈ u.commands) (h : u.Handle sock) :
    Abides u 2 (WiFiClient.connected sock) := by
  rw [WiFiClient.connected]
  split
  · exact (Composed.pure _).mono (Nat.zero_le 2)
  · next hsock =>
      refine Composed.bind (m := 1) (n := 1) (abides_clientAvailable hfetch h) fun _ _ =>
        .ite_pure _ _ ((abides_status hown hstatus sock).after fun _ _ => ?_)
      split
      · exact Composed.before (.basic (.close (h.socket hsock))) fun _ _ => .pure _
      · exact .pure _

theorem abides_awaitClosed (hown : OwnMemory ⊆ u.memory)
    (hstatus : getClientStateTcpCmd ∈ u.commands) (sock : UInt8) (polls : ℕ) :
    Abides u polls (WiFiClient.awaitClosed sock polls) := by
  induction polls with
  | zero => exact .pure ()
  | succ polls ih =>
      have hpoll := abides_status hown hstatus sock
      refine (Composed.bind (m := 1) (n := polls) hpoll fun _ _ => ?_).mono (by omega)
      split
      · exact ih
      · exact (Composed.pure ()).mono (Nat.zero_le polls)

theorem abides_stop (hown : OwnMemory ⊆ u.memory) (hstop : stopClientTcpCmd ∈ u.commands)
    (hstatus : getClientStateTcpCmd ∈ u.commands) (h : u.Handle sock) :
    Abides u 51 (WiFiClient.stop sock) := by
  rw [WiFiClient.stop]
  split
  · exact (Composed.pure _).mono (Nat.zero_le 51)
  · next hsock =>
      refine Composed.bind (m := 1) (n := 50) (abides_bus
        (exchanging_stopClient hown hstop sock)) fun _ _ => ?_
      exact (abides_awaitClosed hown hstatus sock 50).after fun _ _ =>
        .basic (.close (h.socket hsock))

theorem abides_awaitConnection (hown : OwnMemory ⊆ u.memory)
    (hfetch : getDatabufTcpCmd ∈ u.commands) (hstatus : getClientStateTcpCmd ∈ u.commands)
    (h : u.Handle sock) (start : UInt32) (fuel : ℕ) :
    Abides u (2 * fuel) (WiFiClient.awaitConnection sock start fuel) := by
  induction fuel with
  | zero => exact .pure false
  | succ fuel ih =>
      rw [Nat.mul_succ, Nat.add_comm]
      refine (abides_connected hown hfetch hstatus h).bind fun _ _ => .ite_pure _ true ?_
      refine Composed.before (.basic (.idle idle_tickCount)) fun _ _ =>
        Composed.before (.basic (.idle (idle_pdMsToTicks 10000))) fun _ _ => ?_
      split
      · exact ih
      · exact (Composed.pure true).mono (Nat.zero_le _)

theorem abides_connectCommon (hown : OwnMemory ⊆ u.memory)
    (hfetch : getDatabufTcpCmd ∈ u.commands) (hstatus : getClientStateTcpCmd ∈ u.commands)
    (h : u.Handle sock) (fuel : ℕ) :
    Abides u (2 * fuel + 2) (WiFiClient.connectCommon fuel sock) := by
  refine Composed.before (.basic (.idle idle_tickCount)) fun _ _ =>
    (abides_awaitConnection hown hfetch hstatus h _ fuel).bind fun _ _ => ?_
  split
  · exact (abides_connected hown hfetch hstatus h).after fun _ _ => .pure _
  · exact (Composed.pure none).mono (Nat.zero_le 2)

/-- What is sent to open a connection. -/
def openCommands : Set UInt8 :=
  {getSocketCmd, startClientTcpCmd, getDatabufTcpCmd, getClientStateTcpCmd}

theorem openCommands_control : openCommands ⊆ controlCommands := by
  intro cmd hcmd
  rcases hcmd with rfl | rfl | rfl | rfl
  · exact mem_controlCommands rfl
  · exact mem_controlCommands rfl
  · exact mem_controlCommands rfl
  · exact mem_controlCommands rfl

/-- A socket is asked for, which is always socket zero, and a connection on it. -/
theorem abides_open (hown : OwnMemory ⊆ u.memory) (hopen : openCommands ⊆ u.commands)
    (hzero : 0 ∈ u.sockets) (fuel : ℕ)
    (request : UInt8 → Prog World ℤ) (hrequest : ∀ sock, Abides u 1 (request sock)) :
    Abides u (2 * fuel + 4) (onBus ServerDrv.getSocket >>= fun got =>
      if toByte got = noSocketAvail then pure (some ((toByte got).toNat : ℤ))
      else request (toByte got) >>= fun _ => WiFiClient.connectCommon fuel (toByte got)) := by
  refine (Composed.bind (m := 1) (n := 2 * fuel + 3) (abides_bus
    (exchanging_getSocket hown (hopen (.inl rfl)))) fun w _ => ?_).mono (by omega)
  have hsock : toByte ((onBus ServerDrv.getSocket).val w) = 0 := toByte_getSocket w.bus
  rw [hsock]
  have hhandle : u.Handle 0 := .inr hzero
  refine .ite_pure _ _ ?_
  have hwait := abides_connectCommon hown (hopen (.inr (.inr (.inl rfl))))
    (hopen (.inr (.inr (.inr rfl)))) hhandle fuel
  exact ((hrequest 0).bind fun _ _ => hwait).mono (by omega)

theorem abides_connectProtocol (hown : OwnMemory ⊆ u.memory)
    (hopen : openCommands ⊆ u.commands) (hzero : 0 ∈ u.sockets) (protMode : UInt8) (fuel : ℕ)
    (ip : UInt32) (port : UInt16) :
    Abides u (2 * fuel + 4) (WiFiClient.connectProtocol protMode fuel ip port) :=
  abides_open hown hopen hzero fuel
    (fun sock => onBus (ServerDrv.startClient ip port sock protMode)) fun sock => abides_bus
      (exchanging_startClient hown (hopen (.inr (.inl rfl))) ip port sock protMode)

theorem abides_connectHostname (hown : OwnMemory ⊆ u.memory)
    (hopen : openCommands ⊆ u.commands) (hreq : reqHostByNameCmd ∈ u.commands)
    (hget : getHostByNameCmd ∈ u.commands) (hzero : 0 ∈ u.sockets) (fuel : ℕ)
    (host : Ptr Obj) (port : UInt16) :
    Abides u (2 * fuel + 6) (WiFiClient.connectHostname fuel host port) := by
  refine (Composed.bind (m := 2) (n := 2 * fuel + 4) (abides_bus
    (exchanging_hostByName hown hreq hget host ?_)) fun _ _ => ?_).mono (by omega)
  · exact fun a ha => hown (mem_ownMemory_of_auto (n := 4) le_rfl ha)
  · split
    · exact abides_load fun _ => abides_connectProtocol hown hopen hzero _ fuel _ port
    · exact (Composed.pure _).mono (Nat.zero_le _)

theorem abides_connectSSLHostname (hown : OwnMemory ⊆ u.memory)
    (hopen : openCommands ⊆ u.commands) (hzero : 0 ∈ u.sockets) (fuel : ℕ) (host : Ptr Obj)
    (port : UInt16) :
    Abides u (2 * fuel + 4) (WiFiClient.connectSSLHostname fuel host port) := by
  have hconnect := abides_open hown hopen hzero fuel
    (fun sock => onBus (Bus.strlen host) >>= fun len => onBus
      (ServerDrv.startClientHostname host (UInt8.ofNat len) 0 port sock tlsMode))
    fun sock => (abides_bus (exchanging_strlen host)).before fun _ _ => abides_bus
        (exchanging_startClientHostname hown (hopen (.inr (.inl rfl))) host _ 0 port _ _)
  simp only [Prog.bind_bind] at hconnect
  exact hconnect

theorem abides_remoteData (hown : OwnMemory ⊆ u.memory) (hcmd : getRemoteDataCmd ∈ u.commands)
    (sock : UInt8) {α : Type} (place : Ptr Obj → Ptr Obj → Ptr Obj) (k : ℕ) (f : List UInt8 → α) :
    Abides u 1 (onBus (Bus.auto .ipAddr (le32 0)) >>= fun ip =>
      onBus (Bus.auto .port (le16 0)) >>= fun port =>
        onBus (WiFiDrv.getRemoteData sock ip port) >>= fun _ =>
          onBus (Bus.loadList (place ip port) k) >>= fun bytes => pure (f bytes)) := by
  refine abides_var hown (abides_var hown (Composed.after (abides_bus (exchanging_getRemoteData
    hown hcmd sock ?_ ?_)) fun _ _ => abides_load fun _ => .pure _))
  · exact fun a ha => hown (mem_ownMemory_of_auto (n := 4) le_rfl ha)
  · exact fun a ha => hown (mem_ownMemory_of_auto (n := 2) le_rfl ha)

end Clients

/-! ## Every function -/

/-- The commands an operation sends. -/
def WiFiClient.Operation.commands : Operation → Set UInt8
  | available | readChar | read _ _ | peek => {getDatabufTcpCmd}
  | write _ _ | writeChar _ => {sendDataTcpCmd, dataSentTcpCmd}
  | flush => ∅
  | connected => {getDatabufTcpCmd, getClientStateTcpCmd}
  | status => {getClientStateTcpCmd}
  | stop => {stopClientTcpCmd, getClientStateTcpCmd}
  | remoteIP | remotePort => {getRemoteDataCmd}

/-- The commands a connecting function sends. -/
def WiFiClient.Connect.commands : Connect → Set UInt8
  | connectHostname _ _ => {reqHostByNameCmd, getHostByNameCmd} ∪ openCommands
  | connect _ _ | connectSSL _ _ | connectSSLHostname _ _ => openCommands

/-- The commands a call on a socket buffer sends. -/
def Call.commands : Call → Set UInt8
  | .available _ | .peek _ | .read _ _ _ | .readChar _ => {getDatabufTcpCmd}
  | .close _ | .deinit => ∅

/-- How many exchanges an operation makes at most. -/
def WiFiClient.Operation.budget : Operation → ℕ
  | available | read _ _ | peek | status | remoteIP | remotePort => 1
  | readChar | connected => 2
  | write _ _ | writeChar _ => 26
  | flush => 0
  | stop => 51

/-- How many exchanges a connecting function makes at most. -/
def WiFiClient.Connect.budget (fuel : ℕ) : Connect → ℕ
  | connectHostname _ _ => 2 * fuel + 6
  | connect _ _ | connectSSL _ _ | connectSSLHostname _ _ => 2 * fuel + 4

/-- How many exchanges a call on a socket buffer makes at most. -/
def Call.budget : Call → ℕ
  | .available _ | .peek _ | .read _ _ _ => 1
  | .readChar _ => 2
  | .close _ | .deinit => 0

namespace ApiCall

/-- The commands a function sends. -/
def commands : ApiCall → Set UInt8
  | wifi c => c.commands
  | driver c => c.commands
  | connect c _ => c.commands
  | operate _ op => op.commands
  | initBuffers => ∅
  | buffer c => c.commands

/-- How many exchanges a function makes at most. -/
def budget : ApiCall → ℕ
  | wifi c => c.budget
  | driver c => c.budget
  | connect c fuel => c.budget fuel
  | operate _ op => op.budget
  | initBuffers => 0
  | buffer c => c.budget

end ApiCall

section Functions
variable {u : Usage} (hown : OwnMemory ⊆ u.memory)
include hown

theorem WiFiClient.Operation.abides {sock : UInt8} {op : Operation}
    (hC : op.commands ⊆ u.commands) (h : u.PermitsOperation sock op) :
    Abides u op.budget (op.run sock) := by
  cases op with
  | available => exact abides_clientAvailable (hC rfl) h
  | readChar => exact abides_readChar hown (hC rfl) h.1 h.2
  | read buf size => exact .basic (.read (hC rfl) h.1 h.2.1 h.2.2)
  | peek => exact abides_peek (hC rfl) h
  | write buf size => exact abides_write hown (hC (.inl rfl)) (hC (.inr rfl)) h sock buf size
  | writeChar ch =>
      exact abides_var hown (abides_write hown (hC (.inl rfl)) (hC (.inr rfl)) h sock _ 1)
  | flush => exact Composed.before (.pure ()) fun _ _ => .pure 0
  | connected => exact abides_connected hown (hC (.inl rfl)) (hC (.inr rfl)) h
  | status => exact abides_status hown (hC rfl) sock
  | stop => exact (abides_stop hown (hC (.inl rfl)) (hC (.inr rfl)) h).map _
  | remoteIP => exact (abides_remoteData hown (hC rfl) sock (fun ip _ => ip) 4 ofLe).map _
  | remotePort => exact (abides_remoteData hown (hC rfl) sock (fun _ port => port) 2 ofLe).map _

theorem WiFiClient.Connect.abides {c : Connect} (hC : c.commands ⊆ u.commands)
    (hzero : 0 ∈ u.sockets) (fuel : ℕ) : Abides u (c.budget fuel) (c.run fuel) := by
  cases c with
  | connect ip port => exact abides_connectProtocol hown hC hzero tcpMode fuel ip port
  | connectSSL ip port => exact abides_connectProtocol hown hC hzero tlsMode fuel ip port
  | connectHostname host port =>
      exact abides_connectHostname hown (fun _ hcmd => hC (.inr hcmd)) (hC (.inl (.inl rfl)))
        (hC (.inl (.inr rfl))) hzero fuel host port
  | connectSSLHostname host port => exact abides_connectSSLHostname hown hC hzero fuel host port

theorem Call.abides {c : Call} (hC : c.commands ⊆ u.commands) (h : u.PermitsCall c) :
    Abides u c.budget c.run := by
  cases c with
  | available socket => exact abides_available (hC rfl) h
  | peek socket => exact abides_peek (hC rfl) h
  | read socket data length => exact .basic (.read (hC rfl) h.1 h.2.1 h.2.2)
  | readChar sock => exact abides_readChar hown (hC rfl) h.1 h.2
  | close socket => exact (Composed.basic (.close h)).map _
  | deinit => exact (abides_closeFrom _ _ fun s _ hlt => h s (by omega)).map _

/-- **Every function of the library** is composed of operations within the usage. -/
theorem ApiCall.abides {c : ApiCall} (hC : c.commands ⊆ u.commands) (h : u.Permits c) :
    Abides u c.budget c.run := by
  cases c with
  | wifi c => exact abides_bus (c.exchanging hC hown h)
  | driver c => exact abides_bus (c.exchanging hC hown h)
  | connect c fuel => exact (Connect.abides hown hC h fuel).map _
  | operate sock op => exact (Operation.abides hown hC h).map _
  | initBuffers => exact (Composed.basic (.init h)).map _
  | buffer c => exact (Call.abides hown hC h).map _

end Functions

namespace ApiCall

/-- The function sends data. -/
def Writes : ApiCall → Prop
  | driver c => c.Writes
  | operate _ (.write _ _) | operate _ (.writeChar _) => True
  | _ => False

theorem commands_control {c : ApiCall} (h : ¬ c.Writes) : c.commands ⊆ controlCommands := by
  intro cmd hcmd
  cases c with
  | wifi c => exact c.commands_control hcmd
  | driver c => exact DriverCall.commands_control h hcmd
  | connect c fuel =>
      cases c with
      | connectHostname =>
          rcases hcmd with (rfl | rfl) | hcmd
          · exact mem_controlCommands rfl
          · exact mem_controlCommands rfl
          · exact openCommands_control hcmd
      | connect | connectSSL | connectSSLHostname => exact openCommands_control hcmd
  | operate sock op =>
      cases op with
      | flush => exact hcmd.elim
      | write | writeChar => exact absurd trivial h
      | connected | stop =>
          rcases hcmd with rfl | rfl
          · exact mem_controlCommands rfl
          · exact mem_controlCommands rfl
      | available | readChar | read | peek | status | remoteIP | remotePort =>
          obtain rfl := Set.mem_singleton_iff.mp hcmd
          exact mem_controlCommands rfl
  | initBuffers => exact hcmd.elim
  | buffer c =>
      cases c with
      | close | deinit => exact hcmd.elim
      | available | peek | read | readChar =>
          obtain rfl := Set.mem_singleton_iff.mp hcmd
          exact mem_controlCommands rfl

theorem commands_plain (c : ApiCall) : c.commands ⊆ plainCommands := by
  have hdata : sendDataTcpCmd.toNat < 128 := by decide
  have hpoll : dataSentTcpCmd.toNat < 128 := by decide
  intro cmd hcmd
  by_cases h : c.Writes
  · cases c with
    | driver c =>
        cases c with
        | sendData => exact Set.mem_singleton_iff.mp hcmd ▸ hdata
        | _ => exact h.elim
    | operate sock op =>
        cases op with
        | write | writeChar =>
            rcases hcmd with rfl | rfl
            · exact hdata
            · exact hpoll
        | _ => exact h.elim
    | _ => exact h.elim
  · exact (commands_control h hcmd).1

end ApiCall

/-- Everything is permitted, with these commands. -/
def Usage.any (C : Set UInt8) : Usage := ⟨Set.univ, C, Set.univ, 2 ^ 32, True⟩

theorem Usage.any_permits (C : Set UInt8) (c : ApiCall) : (Usage.any C).Permits c := by
  have hmem : ∀ W : Set (Ptr Obj), W ⊆ (Usage.any C).memory := fun _ _ _ => trivial
  cases c with
  | wifi | driver => exact hmem _
  | connect | initBuffers => trivial
  | operate sock op =>
      cases op with
      | available | connected | stop => exact .inr trivial
      | readChar => exact ⟨.inr trivial, show 1 < 2 ^ 32 by decide⟩
      | read buf size => exact ⟨trivial, hmem _, size.toNat_lt⟩
      | write | writeChar => exact hmem _
      | peek | flush | status | remoteIP | remotePort => trivial
  | buffer c =>
      cases c with
      | available | peek | close => trivial
      | read socket data length => exact ⟨trivial, hmem _, length.toNat_lt⟩
      | readChar => exact ⟨.inr trivial, show 1 < 2 ^ 32 by decide⟩
      | deinit => exact fun _ _ => trivial

theorem ofLibrary_usageOp {u : Usage} {α : Type} {n : ℕ} {p : Prog World α} (h : UsageOp u n p) :
    OfLibrary u.commands n p := by
  cases h with
  | bus h => exact ofLibrary_bus (h.mono_memory fun _ _ => trivial)
  | idle h => exact ofLibrary_aside h.aside
  | init => exact ofLibrary_aside aside_init
  | refill hfetch => exact ofLibrary_refill hfetch _
  | read hfetch => exact ofLibrary_read hfetch _ _ _
  | close => exact ofLibrary_close _

/-- **Every function of the library** is composed of exchanges and of what is aside from
them. -/
theorem ApiCall.composed (c : ApiCall) : OfLibrary c.commands c.budget c.run :=
  (ApiCall.abides (u := Usage.any c.commands) (fun _ _ => trivial) (fun _ => id)
    (Usage.any_permits _ c)).refine ofLibrary_usageOp

end WiFiNINA
