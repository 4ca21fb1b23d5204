import WiFiNINA.WiFiClient.Handles
import WiFiNINA.WiFiClient.Windows

/-!
# Connecting again

The buffer of a socket survives its connection.  A function that connects looks at it first,
so what an earlier connection left is taken for a sign of the new one, and is what the
application reads next.  If nothing is left, the bytes of the new connection are those that
were fetched for it, as far as each fetch fills the block: the window is always the whole
block.
-/

namespace WiFiNINA

open LengthCode SpiDrv ServerDrv World WiFiSocketBuffer

/-- From `b` to `b'` only automatic variables were stored to. -/
def Local (b b' : Bus) : Prop := ∃ new, b'.mem.log = new ++ b.mem.log ∧ ∀ a ∈ new, a.InVar

section Local
variable {b b' b'' : Bus}

theorem Local.trans (h : Local b b') (h' : Local b' b'') : Local b b'' := by
  obtain ⟨new, hlog, hnew⟩ := h
  obtain ⟨new', hlog', hnew'⟩ := h'
  refine ⟨new' ++ new, by rw [hlog', hlog, List.append_assoc], ?_⟩
  exact List.forall_mem_append.mpr ⟨hnew', hnew⟩

/-- A function whose out parameters are variables. -/
theorem Contained.local {objects : List (Ptr Obj × ℕ)} (h : Contained [] objects b b')
    (hobjects : ∀ o ∈ objects, ∀ a ∈ o.1.region o.2, a.InVar) : Local b b' := by
  obtain ⟨ns, hwithin, pre, post, hlog, hpre, hpost⟩ := h
  refine ⟨post ++ storedAt objects ns ++ pre, hlog, ?_⟩
  rw [List.forall_mem_append, List.forall_mem_append]
  refine ⟨⟨?_, ?_⟩, ?_⟩
  · intro a ha
    exact (hpost a ha).resolve_right List.not_mem_nil
  · intro a ha
    obtain ⟨o, ho, hmem⟩ := mem_storedAt hwithin ha
    exact hobjects o ho a hmem
  · intro a ha
    exact (hpre a ha).resolve_right List.not_mem_nil

/-- A driver call that has one variable as its only out parameter. -/
theorem local_run {c : DriverCall} {var : Var} {n : ℕ} (hc : c.Regular)
    (hassigned : c.assigned = []) (b : Bus) (houts : c.outs b.mem = [(⟨.auto var n, 0⟩, n)])
    (hvar : var ≠ .dataPtr) : Local b (c.run.state b) := by
  have hcontained := DriverCall.contained_outs c hc b
  rw [hassigned, houts] at hcontained
  refine hcontained.local fun o ho a ha => ?_
  obtain rfl := List.mem_singleton.mp ho
  exact inVar_of_mem_region hvar ha

theorem local_getSocket (b : Bus) : Local b (getSocket.state b) := by
  have h := local_run (c := .getSocket) trivial rfl b rfl (by decide)
  rwa [DriverCall.run, Prog.state_ignore] at h

theorem local_startClient (ip : UInt32) (port : UInt16) (sock protMode : UInt8) (b : Bus) :
    Local b ((startClient ip port sock protMode).state b) := by
  have h := local_run (c := .startClient ip port sock protMode) trivial rfl b rfl (by decide)
  rwa [DriverCall.run, Prog.state_ignore] at h

theorem local_startClientHostname (host : Ptr Obj) (hostLen : UInt8) (ip : UInt32)
    (port : UInt16) (sock protMode : UInt8) (b : Bus) :
    Local b ((startClientHostname host hostLen ip port sock protMode).state b) := by
  have h := local_run (c := .startClientHostname host hostLen ip port sock protMode) trivial rfl
    b rfl (by decide)
  rwa [DriverCall.run, Prog.state_ignore] at h

theorem local_getClientState (sock : UInt8) (b : Bus) :
    Local b ((getClientState sock).state b) := by
  have h := local_run (c := .getClientState sock) trivial rfl b rfl (by decide)
  rwa [DriverCall.run, Prog.state_ignore] at h

/-- The exchanges before the waiting fetch nothing. -/
theorem local_requested {c : WiFiClient.Connect} (hc : c.Waits) (b : Bus) :
    Local b (c.requested.state b) := by
  cases c with
  | connect ip port | connectSSL ip port =>
      rw [WiFiClient.Connect.requested, Prog.state_bind, Prog.state_ignore]
      exact (local_getSocket b).trans (local_startClient ip port 0 _ _)
  | connectHostname host port => exact absurd hc id
  | connectSSLHostname host port =>
      rw [WiFiClient.Connect.requested, Prog.state_bind, Prog.state_bind, Prog.state_ignore,
        Bus.state_strlen]
      exact (local_getSocket b).trans (local_startClientHostname host _ 0 port 0 tlsMode _)

end Local

namespace WiFiClient

section Connect
variable {w : World} {sock : UInt8} {start : UInt32} {fuel : ℕ}

/-- A check stores what its refill does, and to variables. -/
theorem log_connected (hsock : sock ≠ noSocketAvail) (w : World) :
    ∃ new, ((connected sock).state w).bus.mem.log =
      new ++ (refillState w sock.toNat).bus.mem.log := by
  rw [(connected_after_refill hsock w).1]
  split
  · obtain ⟨new, hlog, -⟩ := local_getClientState sock (refillState w sock.toNat).bus
    exact ⟨new, hlog⟩
  · exact ⟨[], rfl⟩

/-- **A check** with an empty buffer and a fetch that is whole. -/
theorem storedSince_connected (hsock : sock ≠ noSocketAvail)
    (hzero : (w.buffers sock.toNat).length = 0) (h : (w.buffers sock.toNat).Apart)
    (hwhole : Whole w.bus 0) :
    StoredSince sock.toNat w.bus.mem ((connected sock).state w) := by
  obtain ⟨new, hlog⟩ := log_connected hsock w
  exact (storedSince_refill hzero h hwhole).after hlog (connected_after_refill hsock w).2.window

/-- Check number `k` of a waiting is made, and begins with a fetch. -/
structure FetchesAt (w : World) (start : UInt32) (k : ℕ) : Prop where
  vacant : ∀ i < k, Vacant w.bus (2 * i)
  before : ∀ i, i + 1 < k → Fails w.bus i ∧ InTime w start i

/-- The checks of the next round are those after the first. -/
theorem FetchesAt.succ {w' : World} {k : ℕ} (h : FetchesAt w' start k)
    (hslave : w'.bus.slave = fun k => w.bus.slave (k + 2 * 2))
    (hticks : w'.ticks = fun k => w.ticks (k + 1)) (hrate : w'.tickRate = w.tickRate)
    (hfirst : Fails w.bus 0 ∧ InTime w start 0) : FetchesAt w start (k + 1) := by
  constructor
  · intro i hi
    cases i with
    | zero => exact hfirst.1.1
    | succ i =>
        have hshift : Vacant w'.bus (2 * i) ↔ Vacant w.bus (2 * i + 2) :=
          vacant_of_slave hslave (2 * i)
        exact hshift.mp (h.vacant i (Nat.lt_of_succ_lt_succ hi))
  · intro i hi
    cases i with
    | zero => exact hfirst
    | succ i =>
        have hshift : Fails w'.bus i ↔ Fails w.bus (i + 1) := fails_of_slave hslave i
        obtain ⟨hfails, hin⟩ := h.before i (Nat.lt_of_succ_lt_succ hi)
        refine ⟨hshift.mp hfails, ?_⟩
        rw [InTime, hticks, hrate] at hin
        exact hin

/-- **The waiting**, if all its fetches are whole. -/
theorem storedSince_await (hsock : sock ≠ noSocketAvail)
    (hzero : (w.buffers sock.toNat).length = 0) (h : (w.buffers sock.toNat).Apart)
    (hwhole : ∀ k, FetchesAt w start k → Whole w.bus (2 * k)) :
    StoredSince sock.toNat w.bus.mem ((awaitConnection sock start fuel).state w) := by
  induction fuel generalizing w with
  | zero => exact storedSince_of_zero hzero
  | succ fuel ih =>
      obtain ⟨hup, hchecks⟩ := checks_of_zero hsock hzero h
      have hfirst := storedSince_connected hsock hzero h
        (hwhole 0 ⟨fun i hi => absurd hi (Nat.not_lt_zero i), fun i hi => absurd hi (by omega)⟩)
      have htime : InTime ((connected sock).state w) start 0 ↔ InTime w start 0 := by
        rw [InTime, InTime, hchecks.ticks, hchecks.tickRate]
      rw [Prog.state, run_await_succ, hup]
      by_cases hfails : Fails w.bus 0
      · by_cases hin : InTime w start 0
        · simp only [if_pos hfails, htime.mpr hin, ne_eq, not_true_eq_false, if_false, if_true]
          obtain ⟨hslave, hticks, hlen⟩ := hchecks.next hfails.1
          obtain ⟨new, hlog, -⟩ := hfirst
          refine StoredSince.before hlog (ih hlen hchecks.apart fun k hk => ?_)
          have hnext := hwhole (k + 1)
            (hk.succ hslave hticks hchecks.tickRate ⟨hfails, hin⟩)
          exact (whole_of_slave hslave (2 * k)).mpr hnext
        · simp only [if_pos hfails, mt htime.mp hin, ne_eq, not_true_eq_false, if_false]
          exact hfirst
      · simp only [if_neg hfails, ne_eq, one_ne_zero, not_false_eq_true, if_true]
        exact hfirst

/-- **Waiting for a connection** and the last check, if all their fetches are whole. -/
theorem storedSince_connectCommon (fuel : ℕ) (hsock : sock ≠ noSocketAvail)
    (hzero : (w.buffers sock.toNat).length = 0) (h : (w.buffers sock.toNat).Apart)
    (hwhole : ∀ k, FetchesAt (tickCount.state w) (w.ticks 0) k → Whole w.bus (2 * k)) :
    StoredSince sock.toNat w.bus.mem ((connectCommon fuel sock).state w) := by
  have hawait : StoredSince sock.toNat w.bus.mem
      ((awaitConnection sock (w.ticks 0) fuel).state (tickCount.state w)) :=
    storedSince_await (w := tickCount.state w) hsock hzero h hwhole
  rw [state_connectCommon]
  split
  · next hended =>
      obtain ⟨n, -, hends, hawaits⟩ := ends_of_await (w := tickCount.state w) hsock hzero h hended
      by_cases hvacant : Vacant (tickCount.state w).bus (2 * n)
      · -- the last check fetches once more
        have hlast : FetchesAt (tickCount.state w) (w.ticks 0) (n + 1) := by
          constructor
          · intro i hi
            rcases Nat.lt_succ_iff_lt_or_eq.mp hi with hlt | rfl
            · exact (hends.before i hlt).1.1
            · exact hvacant
          · intro i hi
            exact hends.before i (Nat.lt_of_succ_lt_succ hi)
        have hagain : Whole _ 0 ↔ Whole w.bus (0 + 2 * (n + 1)) :=
          whole_of_slave (hawaits.slave hvacant) 0
        rw [Nat.zero_add] at hagain
        obtain ⟨new, hlog, -⟩ := hawait
        exact StoredSince.before hlog (storedSince_connected hsock
          (hawaits.length.trans (if_pos hvacant)) hawaits.apart
          (hagain.mpr (hwhole (n + 1) hlast)))
      · have hne : (((awaitConnection sock (w.ticks 0) fuel).state
            (tickCount.state w)).buffers sock.toNat).length ≠ 0 := by
          rw [hawaits.length, if_neg hvacant]
          decide
        obtain ⟨-, indexed, hstate⟩ := connected_of_ne hsock hne
        rw [hstate]
        exact hawait
  · exact hawait

end Connect

/-- Check number `k` of a call that connects is made, if its buffer stays empty.  The replies
and the readings of the clock are counted from the beginning of the call. -/
structure Fetches (w : World) (k : ℕ) : Prop where
  vacant : ∀ i < k, Vacant w.bus (2 * (i + 1))
  before : ∀ i, i + 1 < k → Fails w.bus (i + 1) ∧ InTime w (w.ticks 0) (i + 1)

section Connecting
variable {w : World} {c : Connect} {fuel : ℕ}

theorem fetches_requested (hc : c.Waits) {k : ℕ}
    (h : FetchesAt (tickCount.state { w with bus := c.requested.state w.bus }) (w.ticks 0) k) :
    Fetches w k := by
  have hslave := slave_requested hc w.bus
  constructor
  · intro i hi
    have hvacant : Vacant (c.requested.state w.bus) (2 * i) ↔ Vacant w.bus (2 * (i + 1)) :=
      vacant_of_slave hslave (2 * i)
    exact hvacant.mp (h.vacant i hi)
  · intro i hi
    exact ⟨(fails_requested hc w.bus i).mp (h.before i hi).1, (h.before i hi).2⟩

/-- **Connecting** with an empty buffer, if all fetches are whole. -/
theorem storedSince_connect (hc : c.Waits) (hzero : (w.buffers 0).length = 0)
    (h : (w.buffers 0).Apart) (hwhole : ∀ k, Fetches w k → Whole w.bus (2 * (k + 1))) :
    StoredSince 0 w.bus.mem ((c.run fuel).state w) := by
  obtain ⟨new, hlog, -⟩ := local_requested hc w.bus
  have hslave := slave_requested hc w.bus
  have hwait := storedSince_connectCommon fuel
    (w := { w with bus := c.requested.state w.bus }) zero_ne_noSocketAvail hzero h fun k hk =>
      (whole_of_slave hslave (2 * k)).mpr (hwhole k (fetches_requested hc hk))
  rw [Prog.state, run_of_waits fuel w hc]
  exact StoredSince.before hlog hwait

/-- Connecting with data in the buffer is over at once. -/
theorem state_connect_of_ne (fuel : ℕ) (hc : c.Waits) (hne : (w.buffers 0).length ≠ 0) :
    ∃ indexed ticks, (c.run fuel).state w =
      { w with bus := c.requested.state w.bus, indexed := indexed, ticks := ticks } := by
  rw [Prog.state, run_of_waits fuel w hc]
  change ∃ indexed ticks, (connectCommon fuel 0).state
    { w with bus := c.requested.state w.bus } = _
  rw [state_connectCommon]
  cases fuel with
  | zero => exact ⟨_, _, rfl⟩
  | succ fuel =>
      obtain ⟨indexed, hawait⟩ := await_of_ne fuel (w.ticks 0)
        (w := tickCount.state { w with bus := c.requested.state w.bus })
        zero_ne_noSocketAvail hne
      rw [hawait]
      split
      · obtain ⟨-, indexed', hstate⟩ := connected_of_ne
          (w := { tickCount.state { w with bus := c.requested.state w.bus } with
            indexed := indexed }) zero_ne_noSocketAvail hne
        exact ⟨indexed', _, hstate⟩
      · exact ⟨indexed, _, rfl⟩

theorem bounded_await {sock : UInt8} (fuel : ℕ) (start : UInt32) (hsock : sock ≠ noSocketAvail)
    (h : (w.buffers sock.toNat).Bounded) :
    (((awaitConnection sock start fuel).state w).buffers sock.toNat).Bounded := by
  induction fuel generalizing w with
  | zero => exact h
  | succ fuel ih =>
      have hnext := bounded_connected hsock h
      rw [Prog.state, run_await_succ]
      split
      · exact hnext
      · split
        · exact ih hnext
        · exact hnext

theorem bounded_connect (h : (w.buffers 0).Bounded) :
    (((c.run fuel).state w).buffers 0).Bounded := by
  rw [Prog.state]
  by_cases hc : c.Waits
  · have hawait := bounded_await fuel (w.ticks 0)
      (w := tickCount.state { w with bus := c.requested.state w.bus }) zero_ne_noSocketAvail h
    rw [run_of_waits fuel w hc]
    change (((connectCommon fuel 0).state { w with bus := c.requested.state w.bus }).buffers
      0).Bounded
    rw [state_connectCommon]
    split
    · exact bounded_connected zero_ne_noSocketAvail hawait
    · exact hawait
  · rw [run_of_not_waits fuel w hc]
    exact h

theorem state_close_cases (s : ℕ) (w : World) :
    ∃ heap buffers indexed, (close s).state w =
      { w with heap := heap, buffers := buffers, indexed := indexed } := by
  by_cases hnull : (w.buffers s).data = nullPtr
  · exact ⟨_, _, _, state_close_of_null hnull⟩
  · exact ⟨_, _, _, state_close_of_ne hnull⟩

/-- **An empty buffer** has no part in the result: it is the same without the buffer. -/
theorem val_connect_close (hc : c.Waits) (hzero : (w.buffers 0).length = 0)
    (h : (w.buffers 0).Apart) {s : ℤ} (hs : (c.run fuel).val w = some s) :
    (c.run fuel).val ((close 0).state w) = some s := by
  have hlen := length_close hzero
  have hclosed := (touches_close 0 w).apart h
  obtain ⟨heap, buffers, indexed, hstate⟩ := state_close_cases 0 w
  rw [hstate] at hlen hclosed ⊢
  have hrefused (n : ℕ) : Refused w n ↔
      Refused { w with heap := heap, buffers := buffers, indexed := indexed } n := by
    constructor
    · intro h
      exact ⟨h.before, h.vacant, h.last, h.again⟩
    · intro h
      exact ⟨h.before, h.vacant, h.last, h.again⟩
  -- the waiting ends, as it does with the buffer
  have hended := hs
  rw [Prog.val, run_of_waits fuel w hc] at hended
  change (connectCommon fuel 0).val { w with bus := c.requested.state w.bus } = some s at hended
  rw [val_connectCommon] at hended
  obtain ⟨n, hn, hends, -⟩ := ends_of_await
    (w := tickCount.state { w with bus := c.requested.state w.bus }) zero_ne_noSocketAvail
    hzero h (Option.ite_none_right_eq_some.mp hended).1
  obtain ⟨s', hs'⟩ := exists_val_of_ends
    (w := { w with heap := heap, buffers := buffers, indexed := indexed })
    hc hlen hclosed hn ⟨hends.before, hends.last⟩
  have hnone : s = noSocketAvail.toNat ↔ s' = noSocketAvail.toNat := by
    rw [val_waits_iff hc h hs, val_waits_iff hc hclosed hs', and_iff_right hzero,
      and_iff_right hlen, exists_congr hrefused]
  rw [hs']
  rcases val_connect_cases fuel _ hs with rfl | rfl
  · rw [(val_connect_cases fuel _ hs').resolve_right (mt hnone.mpr (by decide))]
  · rw [hnone.mp rfl]

end Connecting

end WiFiClient

/-! ## Runs -/

open WiFiClient

/-- The addresses to which a call fetches for socket `s`: all to which it stores while it
connects, or to which its refill does. -/
def Use.fetched (s : ℕ) (a : Application) (u : Use) : List (Ptr Obj) :=
  match u.call with
  | .connect c fuel => ((c.run fuel).state (a.before u)).bus.mem.since u.bus.mem
  | .operate handle op =>
      if (toByte handle).toNat = s then (op.base s (a.before u)).bus.mem.since u.bus.mem else []

/-- The addresses to which a run fetches for socket `s`. -/
def fetchedFor (s : ℕ) (a : Application) (us : List Use) : List (Ptr Obj) :=
  clients.collect (Use.fetched s) a us

/-- The fetches of a call are whole.  There is none while the buffer is not empty, and an
operation on `NO_SOCKET_AVAIL` has no socket to fetch for.  A length to read must be one that
an `int` holds, if there is anything to read. -/
def Use.Clean (a : Application) (u : Use) : Prop :=
  match u.call with
  | .connect c _ => c.Waits → (a.world.buffers 0).length = 0 →
      ∀ k, Fetches (a.before u) k → Whole u.bus (2 * (k + 1))
  | .operate handle op => toByte handle ≠ noSocketAvail →
      op.Sized (toByte handle).toNat (a.before u) ∧
      (op.refills → (a.world.buffers (toByte handle).toNat).length = 0 → Whole u.bus 0)

/-- A call connects and returns the socket `s` that it obtained. -/
def Obtains (a : Application) (u : Use) (s : ℕ) : Prop :=
  ∃ c fuel, u.call = .connect c fuel ∧ c.Waits ∧
    (c.run fuel).val (a.before u) = some (s : ℤ) ∧ s ≠ noSocketAvail.toNat

/-- The bytes that a call returns from socket `s` come from among the addresses `ps`. -/
def Use.ReturnsFrom (s : ℕ) (ps : List (Ptr Obj)) (a : Application) (v : Use) : Prop :=
  ∀ handle op, v.call = .operate handle op → (toByte handle).toNat = s →
    ∃ qs : List (Ptr Obj), op.returned (toByte handle) (a.before v) =
      qs.map (op.base s (a.before v)).bus.mem.load ∧ ∀ q ∈ qs, q ∈ ps

/-- After the call `u`, which connects to socket `s`, and the calls `us`: what is readable was
fetched since, what was returned had been fetched since, and without the buffer the result
of `u` would have been the same. -/
structure Unmixed (a : Application) (u : Use) (us : List Use) (s : ℕ) : Prop where
  readable : ∀ p ∈ windowOf (clients.exec a (u :: us)).world s, p ∈ fetchedFor s a (u :: us)
  returned : ∀ before v after, us = before ++ v :: after →
    v.ReturnsFrom s (fetchedFor s a (u :: before ++ [v])) (clients.exec a (u :: before))
  result : ∀ c fuel, u.call = .connect c fuel →
    (c.run fuel).val ((close s).state (a.before u)) = (c.run fuel).val (a.before u)

section Runs
variable {a : Application} {u : Use} {us : List Use} {w : World} {op : Operation}

theorem fetched_connect {s : ℕ} {c : Connect} {fuel : ℕ} (hu : u.call = .connect c fuel) :
    u.fetched s a = ((c.run fuel).state (a.before u)).bus.mem.since u.bus.mem := by
  simp only [Use.fetched, hu]

theorem fetched_operate {s : ℕ} {handle : ℤ} (hu : u.call = .operate handle op) :
    u.fetched s a = if (toByte handle).toNat = s then
      (op.base s (a.before u)).bus.mem.since u.bus.mem else [] := by
  simp only [Use.fetched, hu]

/-- The window that an operation finds. -/
theorem windowOf_base {s : ℕ} (h : (w.buffers s).Apart)
    (hwhole : op.refills → (w.buffers s).length = 0 → Whole w.bus 0) :
    ∀ p ∈ windowOf (op.base s w) s,
      p ∈ windowOf w s ∨ p ∈ (op.base s w).bus.mem.since w.bus.mem := by
  intro p hp
  rw [Operation.base] at hp ⊢
  split at hp
  · next hrefills =>
      rw [if_pos hrefills]
      by_cases hzero : (w.buffers s).length = 0
      · exact .inr ((storedSince_refill hzero h (hwhole hrefills hzero)).mem_since hp)
      · rw [refillState, state_refill_of_ne hzero] at hp
        exact .inl hp
  · exact .inl hp

/-- **A call** adds to the window of socket zero what it fetches. -/
theorem fetched_next (hhandles : a.Handles) (hu : clients.enabled a u) (hclean : u.Clean a)
    (h : (a.world.buffers 0).Bounded) :
    (∀ p ∈ windowOf (clients.next a u).world 0, p ∈ windowOf a.world 0 ∨ p ∈ u.fetched 0 a) ∧
      ((clients.next a u).world.buffers 0).Bounded := by
  cases hcall : u.call with
  | connect c fuel =>
      simp only [Use.Clean, hcall] at hclean
      rw [clients_next_connect hcall, fetched_connect hcall]
      refine ⟨?_, bounded_connect (w := a.before u) h⟩
      intro p hp
      by_cases hc : c.Waits
      · by_cases hzero : (a.world.buffers 0).length = 0
        · exact .inr ((storedSince_connect (w := a.before u) hc hzero h.apart
            (hclean hc hzero)).mem_since hp)
        · obtain ⟨indexed, ticks, hstate⟩ := state_connect_of_ne (w := a.before u)
            fuel hc hzero
          rw [hstate] at hp
          exact .inl hp
      · rw [Prog.state, run_of_not_waits fuel _ hc] at hp
        exact .inl hp
  | operate handle op =>
      have hhandle : handle ∈ a.handles := by
        have henabled := hu.2
        rwa [hcall] at henabled
      simp only [Use.Clean, hcall] at hclean
      rw [clients_next_operate hcall, fetched_operate hcall]
      rcases toByte_handle (hhandles handle hhandle) with hbyte | hbyte
      · -- the window of the socket after the refill
        rw [hbyte] at hclean ⊢
        obtain ⟨hsized, hwhole⟩ := hclean zero_ne_noSocketAvail
        have hshrinks := shrinks_operation (w := a.before u) zero_ne_noSocketAvail hsized h
        refine ⟨?_, hshrinks.bounded (bounded_base h)⟩
        intro p hp
        exact windowOf_base (w := a.before u) h.apart hwhole p (hshrinks.window p hp)
      · -- another index of the array
        rw [hbyte]
        have htouches := touches_operation noSocketAvail op (a.before u)
        have hsame : (((op.run noSocketAvail).state (a.before u)).buffers 0) =
            a.world.buffers 0 := htouches.buffers 0 (by decide)
        constructor
        · intro p hp
          rw [windowOf_congr hsame] at hp
          exact .inl hp
        · rwa [hsame]

/-- **A run** adds what its calls fetch. -/
theorem fetched_exec (hhandles : a.Handles) (h : (a.world.buffers 0).Bounded)
    (hrun : (clients.restrict Use.Clean).Run a us) :
    (∀ p ∈ windowOf (clients.exec a us).world 0,
        p ∈ windowOf a.world 0 ∨ p ∈ fetchedFor 0 a us) ∧
      (clients.exec a us).Handles ∧ ((clients.exec a us).world.buffers 0).Bounded := by
  induction us generalizing a with
  | nil => exact ⟨fun p hp => .inl hp, hhandles, h⟩
  | cons u us ih =>
      obtain ⟨⟨hu, hclean⟩, hrest⟩ := hrun
      obtain ⟨hwindow, hbounded⟩ := fetched_next hhandles hu hclean h
      obtain ⟨hlater, hkept⟩ := ih (handles_next hhandles) hbounded hrest
      refine ⟨?_, hkept⟩
      intro p hp
      rw [fetchedFor, System.collect_cons, List.mem_append]
      rcases hlater p hp with hp | hp
      · exact (hwindow p hp).imp_right .inl
      · exact .inr (.inr hp)

theorem fetchedFor_concat (s : ℕ) (a : Application) (us : List Use) (v : Use) :
    fetchedFor s a (us ++ [v]) = fetchedFor s a us ++ v.fetched s (clients.exec a us) := by
  rw [fetchedFor, System.collect_append]
  simp [fetchedFor]

/-- What a call returns was in the window, or is fetched by it. -/
theorem returnsFrom_of_window (ps : List (Ptr Obj)) (h : (a.world.buffers 0).Bounded)
    (hclean : u.Clean a) (hps : ∀ p ∈ windowOf a.world 0, p ∈ ps) :
    u.ReturnsFrom 0 (ps ++ u.fetched 0 a) a := by
  intro handle op hcall hzero
  have hbyte : toByte handle = 0 := UInt8.toNat_inj.mp hzero
  simp only [Use.Clean, hcall, hbyte] at hclean
  obtain ⟨hsized, hwhole⟩ := hclean zero_ne_noSocketAvail
  rw [hbyte, fetched_operate hcall, if_pos hzero]
  refine ⟨_, returned_operation (w := a.before u) zero_ne_noSocketAvail hsized h, ?_⟩
  intro q hq
  have hwindow := windowOf_base (w := a.before u) h.apart hwhole q (List.mem_of_mem_take hq)
  exact List.mem_append.mpr (hwindow.imp_left (hps q))

/-- From an empty buffer on, the window holds what was fetched. -/
theorem fetched_of_empty (hhandles : a.Handles) (happart : (a.world.buffers 0).Apart)
    (hempty : (a.world.buffers 0).length = 0) (hrun : (clients.restrict Use.Clean).Run a us) :
    ∀ p ∈ windowOf (clients.exec a us).world 0, p ∈ fetchedFor 0 a us := by
  intro p hp
  have hfetched := (fetched_exec hhandles (happart.bounded hempty) hrun).1 p hp
  rw [windowOf_of_zero hempty] at hfetched
  exact hfetched.resolve_left List.not_mem_nil

theorem unmixed_of_clean {s : ℕ} (hhandles : a.Handles) (happart : (a.world.buffers 0).Apart)
    (hobtains : Obtains a u s) (hempty : (a.world.buffers s).length = 0)
    (hrun : (clients.restrict Use.Clean).Run a (u :: us)) : Unmixed a u us s := by
  obtain ⟨c, fuel, hcall, hc, hval, hs⟩ := hobtains
  obtain rfl : s = 0 := by
    have hcases := val_connect_cases fuel _ hval
    omega
  refine ⟨fetched_of_empty hhandles happart hempty hrun, ?_, ?_⟩
  · rintro before v after rfl
    rw [← List.cons_append, System.run_append] at hrun
    obtain ⟨hbefore, ⟨-, hclean⟩, -⟩ := hrun
    obtain ⟨-, -, hbounded⟩ := fetched_exec hhandles (happart.bounded hempty) hbefore
    have hearlier := fetched_of_empty hhandles happart hempty hbefore
    rw [fetchedFor_concat]
    exact returnsFrom_of_window _ hbounded hclean hearlier
  · intro c' fuel' hcall'
    rw [hcall] at hcall'
    obtain ⟨rfl, rfl⟩ := ClientCall.connect.inj hcall'
    rw [hval]
    exact val_connect_close (w := a.before u) hc hempty happart hval

end Runs

/-- **Successive connections on one socket do not mix**, in every run of an application, if
nothing is buffered for the socket when the later one begins, and every fetch in it and after
it is whole. -/
theorem connections_unmixed (w : World) (as us : List Use) (u : Use) (s : ℕ)
    (hrun : clients.Run (.start w) as) (hobtains : Obtains (clients.exec (.start w) as) u s)
    (hempty : ((clients.exec (.start w) as).world.buffers s).length = 0)
    (hclean : (clients.restrict Use.Clean).Run (clients.exec (.start w) as) (u :: us)) :
    Unmixed (clients.exec (.start w) as) u us s :=
  unmixed_of_clean (handles_exec (handles_start w) hrun)
    (apart_exec (apart_start w) hrun 0 (by decide)) hobtains hempty hclean

/-! ## Data that nobody read -/

namespace WiFiClient

section Unread
variable {w : World} {c : Connect} {fuel : ℕ} {sock : UInt8}

theorem val_connectCommon_data (fuel : ℕ) (hsock : sock ≠ noSocketAvail)
    (hne : (w.buffers sock.toNat).length ≠ 0) :
    (connectCommon (fuel + 1) sock).val w = some (sock.toNat : ℤ) := by
  have hne' : ((tickCount.state w).buffers sock.toNat).length ≠ 0 := hne
  have hended : (awaitConnection sock (w.ticks 0) (fuel + 1)).val (tickCount.state w) = true := by
    rw [Prog.val, run_await_succ, (connected_of_ne hsock hne').1, if_pos one_ne_zero]
  obtain ⟨s, hs⟩ : ∃ s, (connectCommon (fuel + 1) sock).val w = some s := by
    rw [val_connectCommon, if_pos hended]
    exact ⟨_, rfl⟩
  rw [hs, val_connectCommon_of_ne hsock hne hs]

/-- Connecting with data in the buffer finds a connection. -/
theorem val_connect_of_ne (fuel : ℕ) (hc : c.Waits) (hne : (w.buffers 0).length ≠ 0) :
    (c.run (fuel + 1)).val w = some 0 := by
  rw [Prog.val, run_of_waits _ w hc]
  exact val_connectCommon_data fuel zero_ne_noSocketAvail hne

/-- A first fetch that brings something is taken for a connection, and left in the buffer. -/
theorem connectCommon_of_not_vacant (fuel : ℕ) (hsock : sock ≠ noSocketAvail)
    (hzero : (w.buffers sock.toNat).length = 0) (h : (w.buffers sock.toNat).Apart)
    (hfetch : ¬ Vacant w.bus 0) :
    (connectCommon (fuel + 1) sock).val w = some (sock.toNat : ℤ) ∧
      ((connectCommon (fuel + 1) sock).state w).buffers =
        ((connected sock).state (tickCount.state w)).buffers := by
  obtain ⟨hup, hchecks⟩ := checks_of_zero (w := tickCount.state w) hsock hzero h
  have hvacant : ¬ Vacant (tickCount.state w).bus 0 := hfetch
  have hfails : ¬ Fails (tickCount.state w).bus 0 := fun hfails => hvacant hfails.1
  have hne : (((connected sock).state (tickCount.state w)).buffers sock.toNat).length ≠ 0 := by
    rw [hchecks.length, if_neg hvacant]
    decide
  have hrun : (awaitConnection sock (w.ticks 0) (fuel + 1)).run (tickCount.state w) =
      (true, (connected sock).state (tickCount.state w)) := by
    rw [run_await_succ, hup, if_neg hfails, if_pos one_ne_zero]
  obtain ⟨hlast, indexed, hstate⟩ := connected_of_ne hsock hne
  have hended : (awaitConnection sock (w.ticks 0) (fuel + 1)).val (tickCount.state w) = true :=
    congrArg Prod.fst hrun
  have hawait : (awaitConnection sock (w.ticks 0) (fuel + 1)).state (tickCount.state w) =
      (connected sock).state (tickCount.state w) := congrArg Prod.snd hrun
  rw [val_connectCommon, state_connectCommon, if_pos hended, if_pos hended, hawait, hlast,
    if_neg one_ne_zero, hstate]
  exact ⟨rfl, rfl⟩

/-- What is left is not in a variable. -/
theorem exists_mem_windowOf (hsock : sock ≠ noSocketAvail)
    (hzero : (w.buffers sock.toNat).length = 0) (h : (w.buffers sock.toNat).Apart)
    (hfetch : ¬ Vacant w.bus 0) :
    ∃ p ∈ windowOf ((connected sock).state w) sock.toNat, ¬ p.InVar := by
  have hrefill := refills_place hzero h
  have hlength := (checks_of_zero hsock hzero h).2.length
  rw [if_neg hfetch] at hlength
  have hmem : (((connected sock).state w).buffers sock.toNat).head ∈
      windowOf ((connected sock).state w) sock.toNat := by
    rw [windowOf, hlength]
    exact Ptr.mem_region.mpr ⟨0, by decide, rfl⟩
  refine ⟨_, hmem, ?_⟩
  rintro ⟨var, size, -, hobj, -⟩
  have hblock := (connected_after_refill hsock w).2.window _ hmem
  rw [windowOf, hrefill.head hfetch] at hblock
  exact hrefill.apart var size ((Ptr.obj_of_mem_region hblock).symm.trans hobj)

/-- Connecting with an empty buffer and a first fetch that brings something. -/
theorem connect_of_not_vacant (fuel : ℕ) (hc : c.Waits) (hzero : (w.buffers 0).length = 0)
    (h : (w.buffers 0).Apart) (hfetch : ¬ Vacant w.bus 2) :
    (c.run (fuel + 1)).val w = some 0 ∧
      ∃ p ∈ windowOf ((c.run (fuel + 1)).state w) 0, ¬ p.InVar := by
  have hvacant : Vacant (c.requested.state w.bus) 0 ↔ Vacant w.bus (0 + 2) :=
    vacant_of_slave (slave_requested hc w.bus) 0
  obtain ⟨hval, hbuffers⟩ := connectCommon_of_not_vacant fuel
    (w := { w with bus := c.requested.state w.bus }) zero_ne_noSocketAvail hzero h
    (mt hvacant.mp hfetch)
  obtain ⟨p, hp, hvar⟩ := exists_mem_windowOf
    (w := tickCount.state { w with bus := c.requested.state w.bus }) zero_ne_noSocketAvail
    hzero h (mt hvacant.mp hfetch)
  rw [Prog.val, Prog.state, run_of_waits _ w hc]
  refine ⟨hval, p, ?_, hvar⟩
  change p ∈ windowOf ((connectCommon (fuel + 1) 0).state
    { w with bus := c.requested.state w.bus }) 0
  rw [windowOf_congr (congrFun hbuffers 0)]
  exact hp

end Unread

end WiFiClient

theorem length_ne_zero_of_mem {w : World} {s : ℕ} {p : Ptr Obj} (h : p ∈ windowOf w s) :
    (w.buffers s).length ≠ 0 := by
  intro hzero
  rw [windowOf_of_zero hzero] at h
  exact List.not_mem_nil h

/-- What is in the buffer when the call begins is readable afterwards, and was not fetched
since. -/
theorem not_unmixed_of_mem {a : Application} {u : Use} {c : Connect} {fuel : ℕ}
    (hcall : u.call = .connect c fuel) (hc : c.Waits) {p : Ptr Obj}
    (hp : p ∈ windowOf a.world 0) (hvar : ¬ p.InVar) : ¬ Unmixed a u [] 0 := by
  intro h
  have hnext := clients_next_connect (a := a) hcall
  obtain ⟨indexed, ticks, hstate⟩ := state_connect_of_ne (w := a.before u) fuel hc
    (length_ne_zero_of_mem hp)
  obtain ⟨new, hlog, hlocal⟩ := local_requested hc u.bus
  have hreadable : p ∈ windowOf (clients.exec a [u]).world 0 := by
    rw [System.exec_cons, System.exec_nil, hnext, hstate]
    exact hp
  have hfetched := h.readable p hreadable
  rw [fetchedFor, System.collect_cons, System.collect_nil, List.append_nil,
    fetched_connect hcall, hstate, Memory.since_of_log hlog] at hfetched
  exact hvar (hlocal p hfetched)

/-- A module that answers everything with two bytes of data. -/
def greeting : World where
  bus := Bus.fresh fun _ => replyFrame UInt16 getDatabufTcpCmd [[104, 105]]
  heap := World.boot.heap
  buffers := World.boot.buffers
  indexed := []
  ticks _ := 0
  tickRate := 1000

/-- A first connect. -/
def greeted : Use := ⟨.connect (.connect 0 80) 1, greeting.bus⟩

/-- A second one. -/
def greetedAgain (a : Application) : Use := ⟨.connect (.connect 0 80) 1, a.world.bus⟩

theorem obtains_greetedAgain {a : Application} (hne : (a.world.buffers 0).length ≠ 0) :
    Obtains a (greetedAgain a) 0 :=
  ⟨.connect 0 80, 1, rfl, trivial, val_connect_of_ne (w := a.world) 0 trivial hne, by decide⟩

/-- What the first connection received is readable in the second, and decides that there is
one: nothing has been fetched for it. -/
theorem greeted_not_unmixed :
    clients.Run (.start greeting) [greeted] ∧
      Obtains (clients.exec (.start greeting) [greeted])
        (greetedAgain (clients.exec (.start greeting) [greeted])) 0 ∧
      ¬ Unmixed (clients.exec (.start greeting) [greeted])
        (greetedAgain (clients.exec (.start greeting) [greeted])) [] 0 := by
  have hwaits : (Connect.connect 0 80).Waits := trivial
  have hcall : greeted.call = .connect (.connect 0 80) 1 := rfl
  obtain ⟨hval, p, hp, hvar⟩ := connect_of_not_vacant 0
    (w := (Application.start greeting).before greeted)
    hwaits rfl (apart_start greeting 0 (by decide)) (by decide)
  have hnext := clients_next_connect (a := .start greeting) hcall
  have hworld : p ∈ windowOf (clients.exec (.start greeting) [greeted]).world 0 := by
    rw [System.exec_cons, System.exec_nil, hnext]
    exact hp
  refine ⟨⟨⟨fun _ _ => rfl, Option.isSome_iff_exists.mpr ⟨_, hval⟩⟩, trivial⟩, ?_, ?_⟩
  · exact obtains_greetedAgain (length_ne_zero_of_mem hworld)
  · exact not_unmixed_of_mem rfl hwaits hworld hvar

/-- A module that answers everything with 254 bytes of data. -/
def talking (_ : ℕ) : List UInt8 :=
  replyFrame UInt16 getDatabufTcpCmd [List.replicate 254 97]

/-- A module that has no data, and whose answers to anything else are rejected. -/
def listening (k : ℕ) : List UInt8 :=
  if k % 4 = 1 then replyFrame UInt16 getDatabufTcpCmd [[]] else []

theorem vacant_listening {b : Bus} (h : b.slave = listening) (n : ℕ) : Vacant b (2 * n) := by
  have hslave : b.slave (2 * (2 * n) + 1) = replyFrame UInt16 getDatabufTcpCmd [[]] := by
    rw [h]
    exact if_pos (by omega)
  rw [Vacant, replyAt, hslave]
  decide

theorem fills_talking {b : Bus} (h : b.slave = talking) : Fills b 0 := by
  rw [Fills, replyAt, h]
  decide +kernel

namespace Application

/-- A connect. -/
def connects (a : Application) (slave : ℕ → List UInt8) : Use :=
  a.use slave (.connect (.connect 0 80) 1)

/-- A read of so many bytes from socket zero. -/
def reads (a : Application) (size : UInt32) : Use :=
  a.use talking (.operate 0 (.read ⟨.user 0, 0⟩ size))

section Uses
variable {a : Application} {slave : ℕ → List UInt8} {size : UInt32}

theorem clean_connects : (a.connects listening).Clean a :=
  fun _ _ k _ => .inl (vacant_listening rfl (k + 1))

theorem clean_reads (h : size.toNat < 2 ^ 31) : (a.reads size).Clean a :=
  fun _ => ⟨.inl h, fun _ _ => .inr (fills_talking rfl)⟩

end Uses

end Application

/-- A first connection receives 254 bytes. -/
def firstUse : Use := (Application.start World.boot).connects talking

/-- They are read. -/
def drained : Use := (clients.next (.start World.boot) firstUse).reads 255

/-- Another connection, when the module has no data. -/
def secondUse : Use := (clients.exec (.start World.boot) [firstUse, drained]).connects listening

/-- Then there is data, and some of it is read. -/
def rereads : Use :=
  (clients.next (clients.exec (.start World.boot) [firstUse, drained]) secondUse).reads 10

theorem val_firstUse :
    ((Connect.connect 0 80).run 1).val ((Application.start World.boot).before firstUse) =
      some 0 := by
  decide +kernel

theorem val_secondUse :
    ((Connect.connect 0 80).run 1).val
      ((clients.exec (.start World.boot) [firstUse, drained]).before secondUse) = some 0 := by
  decide +kernel

theorem mem_handles_firstUse :
    (0 : ℤ) ∈ (clients.next (.start World.boot) firstUse).handles := by
  decide +kernel

theorem mem_handles_secondUse :
    (0 : ℤ) ∈ (clients.next (clients.exec (.start World.boot) [firstUse, drained])
      secondUse).handles := by
  decide +kernel

theorem length_drained :
    ((clients.exec (.start World.boot) [firstUse, drained]).world.buffers 0).length = 0 := by
  decide +kernel

/-- A connection after one that received 254 bytes, all of which were read. -/
theorem connections_unmixed_secondUse :
    Unmixed (clients.exec (.start World.boot) [firstUse, drained]) secondUse [rereads] 0 :=
  connections_unmixed World.boot [firstUse, drained] [rereads] secondUse 0
    ⟨enabled_connect val_firstUse, enabled_operate mem_handles_firstUse,
      trivial⟩
    ⟨_, _, rfl, trivial, val_secondUse, by decide⟩ length_drained
    ⟨⟨enabled_connect val_secondUse, Application.clean_connects⟩,
      ⟨enabled_operate mem_handles_secondUse, Application.clean_reads (by decide)⟩,
      trivial⟩

end WiFiNINA
