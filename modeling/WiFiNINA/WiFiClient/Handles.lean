import WiFiNINA.WiFiClient.Connect

/-!
# Using handles

A failed connect returns `NO_SOCKET_AVAIL`, and most operations return at once if they are
passed it.  `WiFiClient_read` and `WiFiClient_peek` do not, and take it for an index.
-/

namespace WiFiNINA

open SpiDrv ServerDrv World WiFiSocketBuffer WiFiClient

/-- The operations that do not look at the handle. -/
def WiFiClient.Operation.Unguarded : Operation → Prop
  | .read _ _ | .peek => True
  | .available | .readChar | .write _ _ | .writeChar _ | .flush | .connected | .status | .stop
  | .remoteIP | .remotePort => False

/-- A read or a peek on the handle that a failed connect returns. -/
def Use.Unguarded (u : Use) : Prop :=
  match u.call with
  | .connect _ _ => False
  | .operate handle op => toByte handle = noSocketAvail ∧ op.Unguarded

/-- Every index is one of `_buffers`. -/
def InBuffers (is : List ℕ) : Prop := ∀ i ∈ is, i < wifiMaxSockNum

/-- Before `w'` every access since `w` was inside `_buffers` exactly if `p`. -/
def SafeIff (p : Prop) (w w' : World) : Prop :=
  ∃ new, w'.indexed = new ++ w.indexed ∧ (InBuffers new ↔ p)

section Operations
variable {w : World} {s : ℕ} {α : Type}

/-- A program that begins with `WiFiSocketBuffer_available` accesses the entry. -/
theorem indexed_available {f : ℤ → Prog World α}
    (hf : ∀ avail, Prog.Guarantees (Touches s) (f avail)) :
    ∃ n, ((WiFiSocketBuffer.available s >>= f).state w).indexed =
      List.replicate (n + 1) s ++ w.indexed := by
  obtain ⟨m, hm⟩ := (touches_refill s w).indexed
  obtain ⟨n, hn⟩ := (hf ((WiFiSocketBuffer.available s).val w)
    ((WiFiSocketBuffer.available s).state w)).indexed
  refine ⟨n + m, ?_⟩
  rw [Prog.state_bind, hn, state_available, Nat.add_right_comm,
    ← List.replicate_append_replicate, List.replicate_succ', List.append_assoc, List.append_assoc]
  exact congrArg (fun is => List.replicate n s ++ s :: is) hm

theorem inBuffers_replicate {n : ℕ} (hs : s < wifiMaxSockNum) :
    InBuffers (List.replicate n s) := by
  intro i hi
  rw [List.eq_of_mem_replicate hi]
  exact hs

theorem not_inBuffers_replicate {n : ℕ} (hs : ¬ s < wifiMaxSockNum) :
    ¬ InBuffers (List.replicate (n + 1) s) :=
  fun h => hs (h s (List.mem_replicate.mpr ⟨Nat.succ_ne_zero n, rfl⟩))

theorem noSocketAvail_out : ¬ noSocketAvail.toNat < wifiMaxSockNum := by decide

/-- The other operations do nothing to `_buffers` on the handle of a failed connect. -/
theorem indexed_guarded {op : Operation} (hop : ¬ op.Unguarded) (w : World) :
    ((op.run noSocketAvail).state w).indexed = w.indexed := by
  cases op with
  | read buf size => exact absurd trivial hop
  | peek => exact absurd trivial hop
  | available | connected | status => rfl
  | stop | flush => rfl
  | readChar => rfl
  | write buf size | writeChar ch => simp [Operation.run, write, writeChar]
  | remoteIP | remotePort => rfl

/-- **Which operations stay inside `_buffers`**, on the handles there can be. -/
theorem safe_operation_iff {sock : UInt8} (hsock : sock = 0 ∨ sock = noSocketAvail)
    (op : Operation) (w : World) :
    SafeIff (¬ (sock = noSocketAvail ∧ op.Unguarded)) w ((op.run sock).state w) := by
  rcases hsock with rfl | rfl
  · obtain ⟨n, hn⟩ := (touches_operation 0 op w).indexed
    exact ⟨_, hn, iff_of_true (inBuffers_replicate (by decide))
      fun h => zero_ne_noSocketAvail h.1⟩
  · by_cases hop : op.Unguarded
    · have hunsafe {n : ℕ} (hn : ((op.run noSocketAvail).state w).indexed =
          List.replicate (n + 1) noSocketAvail.toNat ++ w.indexed) :
          SafeIff (¬ (noSocketAvail = noSocketAvail ∧ op.Unguarded)) w
            ((op.run noSocketAvail).state w) :=
        ⟨_, hn, iff_of_false (not_inBuffers_replicate noSocketAvail_out) fun h => h ⟨rfl, hop⟩⟩
      cases op with
      | read buf size =>
          obtain ⟨f, hread, hf⟩ := read_available noSocketAvail.toNat buf size
          obtain ⟨n, hn⟩ := indexed_available (w := w) hf
          exact hunsafe (hread ▸ hn)
      | peek =>
          obtain ⟨f, hpeek, hf⟩ := peek_available noSocketAvail.toNat
          obtain ⟨n, hn⟩ := indexed_available (w := w) hf
          exact hunsafe (hpeek ▸ hn)
      | available | readChar | write | writeChar | flush | connected | status | stop | remoteIP
      | remotePort => exact absurd hop id
    · exact ⟨[], indexed_guarded hop w, iff_of_true (fun i hi => absurd hi List.not_mem_nil)
        fun h => hop h.2⟩

/-- Connecting stays inside. -/
theorem safe_connect (c : Connect) (fuel : ℕ) (w : World) :
    SafeIff True w ((c.run fuel).state w) := by
  obtain ⟨n, hn⟩ := (touches_connect fuel c w).indexed
  exact ⟨_, hn, iff_true_intro (inBuffers_replicate (by decide))⟩

end Operations

section Runs
variable {a : Application} {u : Use} {us : List Use}

theorem toByte_handle {s : ℤ} (h : s = 0 ∨ s = noSocketAvail.toNat) :
    toByte s = 0 ∨ toByte s = noSocketAvail :=
  h.imp (fun h => by rw [h]; rfl) fun h => by rw [h]; rfl

/-- **One call.** -/
theorem safe_next_iff (h : a.Handles) (hu : clients.enabled a u) :
    SafeIff (¬ u.Unguarded) a.world (clients.next a u).world := by
  cases hcall : u.call with
  | connect c fuel =>
      have hguarded : ¬ u.Unguarded := by
        rw [Use.Unguarded, hcall]
        exact not_false
      rw [clients_next_connect hcall, eq_true hguarded]
      exact safe_connect c fuel (a.before u)
  | operate handle op =>
      have hhandle : handle ∈ a.handles := by
        have henabled := hu.2
        rwa [hcall] at henabled
      rw [clients_next_operate hcall, Use.Unguarded, hcall]
      exact safe_operation_iff (toByte_handle (h handle hhandle)) op (a.before u)

/-- **A run.** -/
theorem safe_exec_iff (h : a.Handles) (hrun : clients.Run a us) :
    InBuffers (clients.exec a us).world.indexed ↔
      InBuffers a.world.indexed ∧ ∀ u ∈ us, ¬ u.Unguarded := by
  induction us generalizing a with
  | nil => simp
  | cons u us ih =>
      obtain ⟨new, hindexed, hnew⟩ := safe_next_iff h hrun.1
      rw [System.exec_cons, ih (handles_next h) hrun.2, hindexed, List.forall_mem_cons, ← hnew,
        and_comm (a := InBuffers new), ← and_assoc]
      simp only [InBuffers, List.forall_mem_append]
      tauto

end Runs

/-- **When handles are safe to use**: every access to `_buffers` in a run of an application
is at an index below `WIFI_MAX_SOCK_NUM` exactly if it neither reads nor peeks on the handle
of a failed connect. -/
theorem handles_safe_iff (w : World) (us : List Use) (hindexed : w.indexed = [])
    (hrun : clients.Run (.start w) us) :
    (∀ i ∈ (clients.exec (.start w) us).world.indexed, i < wifiMaxSockNum) ↔
      ∀ u ∈ us, ¬ u.Unguarded := by
  have hstart : InBuffers (Application.start w).world.indexed := by
    intro i hi
    rw [show (Application.start w).world.indexed = w.indexed from rfl, hindexed] at hi
    exact absurd hi List.not_mem_nil
  exact (safe_exec_iff (handles_start w) hrun).trans (and_iff_right hstart)

/-- A module that has no data, reports the state of every connection, and lets ten seconds
pass. -/
def refusing : World where
  bus := Bus.fresh fun k =>
    if k % 4 = 1 then replyFrame UInt16 getDatabufTcpCmd [[]]
    else replyFrame UInt8 getClientStateTcpCmd [[]]
  heap := World.boot.heap
  buffers := World.boot.buffers
  indexed := []
  ticks k := if k = 0 then 0 else 10000
  tickRate := 1000

/-- A first connect. -/
def connecting : Use := ⟨.connect (.connect 0 80) 1, refusing.bus⟩

theorem val_connecting :
    ((Connect.connect 0 80).run 1).val (init.state refusing) = some (noSocketAvail.toNat : ℤ) := by
  have hrefused : Refused (init.state refusing) 0 :=
    ⟨fun i hi => absurd hi (Nat.not_lt_zero i), by decide, by decide, by decide⟩
  exact val_of_refused trivial rfl (apart_start refusing 0 (by decide)) Nat.zero_lt_one hrefused

theorem run_connecting : clients.Run (.start refusing) [connecting] := by
  refine ⟨⟨fun _ _ => rfl, ?_⟩, trivial⟩
  exact Option.isSome_iff_exists.mpr ⟨_, val_connecting⟩

/-- A peek on the handle that it returned. -/
def peeking : Use :=
  ⟨.operate noSocketAvail.toNat .peek, (clients.next (.start refusing) connecting).world.bus⟩

/-- The failure of the connect is taken for an index. -/
theorem peeking_unsafe :
    clients.Run (.start refusing) [connecting, peeking] ∧
      ¬ ∀ i ∈ (clients.exec (.start refusing) [connecting, peeking]).world.indexed,
        i < wifiMaxSockNum := by
  have hhandle : (noSocketAvail.toNat : ℤ) ∈
      (clients.next (.start refusing) connecting).handles :=
    List.mem_append_left _ (Option.mem_toList.mpr val_connecting)
  have hrun : clients.Run (.start refusing) [connecting, peeking] :=
    ⟨run_connecting.1, ⟨fun _ _ => rfl, hhandle⟩, trivial⟩
  refine ⟨hrun, fun hsafe => ?_⟩
  have hguarded := ((safe_exec_iff (handles_start refusing) hrun).mp hsafe).2 peeking (by simp)
  exact hguarded ⟨rfl, trivial⟩

/-- The same module, silent from now on. -/
def silent (_ : ℕ) : List UInt8 := []

/-- A check on that handle, which is guarded. -/
def asking : Use :=
  (clients.next (.start refusing) connecting).use silent
    (.operate noSocketAvail.toNat .connected)

/-- A connect that finds a connection. -/
def connectingAgain : Use :=
  (clients.exec (.start refusing) [connecting, asking]).use silent (.connect (.connect 0 80) 1)

/-- A read from the socket that it returned. -/
def reading : Use :=
  (clients.exec (.start refusing) [connecting, asking, connectingAgain]).use silent
    (.operate 0 (.read ⟨.user 0, 0⟩ 10))

theorem val_connectingAgain :
    ((Connect.connect 0 80).run 1).val
      ((clients.exec (.start refusing) [connecting, asking]).before connectingAgain) =
        some 0 := by
  decide +kernel

theorem mem_handles_reading :
    (0 : ℤ) ∈ (clients.exec (.start refusing) [connecting, asking, connectingAgain]).handles := by
  decide +kernel

theorem run_reading :
    clients.Run (.start refusing) [connecting, asking, connectingAgain, reading] :=
  ⟨run_connecting.1,
    enabled_operate (List.mem_append_left _ (Option.mem_toList.mpr val_connecting)),
    enabled_connect val_connectingAgain, enabled_operate mem_handles_reading, trivial⟩

/-- A handle that is none is checked, and another one is read from. -/
theorem handles_safe_iff_reading :
    InBuffers (clients.exec (.start refusing)
      [connecting, asking, connectingAgain, reading]).world.indexed := by
  refine (handles_safe_iff refusing _ rfl run_reading).mpr ?_
  simp only [List.forall_mem_cons]
  refine ⟨not_false, fun h => h.2, not_false, fun h => absurd h.1 (by decide), ?_⟩
  exact fun u hu => absurd hu List.not_mem_nil

end WiFiNINA
