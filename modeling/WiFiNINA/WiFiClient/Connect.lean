import WiFiNINA.WiFiClient.Connected

/-!
# What connecting returns

A connecting function checks the connection until a check succeeds or ten seconds have
passed, and then once more.  The result is decided by that last check, and by whether a name
was to be resolved: the number of the socket is always read as zero.
-/

namespace WiFiNINA

open LengthCode SpiDrv ServerDrv World WiFiSocketBuffer

namespace WiFiClient

/-- Reading number `k` of the clock is less than ten seconds after `start`. -/
def InTime (w : World) (start : UInt32) (k : ℕ) : Prop :=
  w.ticks k - start < 10000 * w.tickRate / 1000

instance (w : World) (start : UInt32) (k : ℕ) : Decidable (InTime w start k) :=
  inferInstanceAs (Decidable (_ < _))

/-- Check number `n` is the one with which the waiting ends: the earlier ones fail in time,
and this one does not. -/
structure Ends (w : World) (start : UInt32) (n : ℕ) : Prop where
  before : ∀ i < n, Fails w.bus i ∧ InTime w start i
  last : ¬ (Fails w.bus n ∧ InTime w start n)

section Await
variable {w w' : World} {start : UInt32} {n fuel : ℕ} {sock : UInt8}

theorem Ends.unique {m : ℕ} (h : Ends w start n) (h' : Ends w start m) : n = m := by
  rcases Nat.lt_trichotomy n m with hlt | heq | hlt
  · exact absurd (h'.before n hlt) h.last
  · exact heq
  · exact absurd (h.before m hlt) h'.last

/-- A check later, everything is one check nearer. -/
theorem ends_succ (hslave : w'.bus.slave = fun k => w.bus.slave (k + 2 * 2))
    (hticks : w'.ticks = fun k => w.ticks (k + 1)) (hrate : w'.tickRate = w.tickRate)
    (hfirst : Fails w.bus 0 ∧ InTime w start 0) : Ends w start (n + 1) ↔ Ends w' start n := by
  have hfails (k : ℕ) : Fails w'.bus k ↔ Fails w.bus (k + 1) := fails_of_slave hslave k
  have htime (k : ℕ) : InTime w' start k ↔ InTime w start (k + 1) := by
    rw [InTime, InTime, hticks, hrate]
  constructor
  · intro h
    constructor
    · intro i hi
      rw [hfails, htime]
      exact h.before (i + 1) (Nat.succ_lt_succ hi)
    · rw [hfails, htime]
      exact h.last
  · intro h
    constructor
    · intro i hi
      cases i with
      | zero => exact hfirst
      | succ i =>
          rw [← hfails, ← htime]
          exact h.before i (Nat.lt_of_succ_lt_succ hi)
    · rw [← hfails, ← htime]
      exact h.last

theorem ends_zero (h : ¬ (Fails w.bus 0 ∧ InTime w start 0)) : Ends w start 0 :=
  ⟨fun i hi => absurd hi (Nat.not_lt_zero i), h⟩

/-- A round of the loop. -/
theorem run_await_succ (sock : UInt8) (start : UInt32) (fuel : ℕ) (w : World) :
    (awaitConnection sock start (fuel + 1)).run w =
      if (connected sock).val w ≠ 0 then (true, (connected sock).state w)
      else if InTime ((connected sock).state w) start 0 then
        (awaitConnection sock start fuel).run (tickCount.state ((connected sock).state w))
      else (true, tickCount.state ((connected sock).state w)) := by
  rw [awaitConnection, Prog.run_bind]
  split
  · rfl
  · rw [Prog.run_bind, Prog.run_bind]
    change (if InTime _ _ _ then _ else _ : Prog World Bool).run _ = _
    split <;> rfl

/-- What the waiting leaves that ended with check number `n`. -/
structure Awaits (s : ℕ) (n : ℕ) (w w' : World) : Prop where
  apart : (w'.buffers s).Apart
  length : (w'.buffers s).length = if Vacant w.bus (2 * n) then 0 else 255
  slave : Vacant w.bus (2 * n) → w'.bus.slave = fun k => w.bus.slave (k + 2 * (2 * (n + 1)))

theorem Checks.awaits {s : ℕ} (h : Checks s w w') : Awaits s 0 w w' :=
  ⟨h.apart, h.length, h.slave⟩

theorem Awaits.tick {s : ℕ} (h : Awaits s n w w') : Awaits s n w (tickCount.state w') :=
  ⟨h.apart, h.length, h.slave⟩

/-- A check before the waiting. -/
theorem Awaits.succ {s : ℕ} {w'' : World}
    (hslave : w'.bus.slave = fun k => w.bus.slave (k + 2 * 2)) (h : Awaits s n w' w'') :
    Awaits s (n + 1) w w'' := by
  have hvacant : Vacant w'.bus (2 * n) ↔ Vacant w.bus (2 * (n + 1)) :=
    vacant_of_slave hslave (2 * n)
  refine ⟨h.apart, ?_, fun hv => ?_⟩
  · rw [h.length, if_congr hvacant rfl rfl]
  · rw [h.slave (hvacant.mpr hv), hslave]
    exact funext fun k => congrArg w.bus.slave (by omega)

/-- Where the next round begins. -/
theorem Checks.next {s : ℕ} (h : Checks s w w') (hvacant : Vacant w.bus 0) :
    (tickCount.state w').bus.slave = (fun k => w.bus.slave (k + 2 * 2)) ∧
      (tickCount.state w').ticks = (fun k => w.ticks (k + 1)) ∧
      ((tickCount.state w').buffers s).length = 0 := by
  refine ⟨h.slave hvacant, ?_, ?_⟩
  · rw [tickCount, Prog.state_mk, h.ticks]
  · exact h.length.trans (if_pos hvacant)

/-- **The waiting** ends with the first check that does not fail in time. -/
theorem ends_of_await (hsock : sock ≠ noSocketAvail) (hzero : (w.buffers sock.toNat).length = 0)
    (h : (w.buffers sock.toNat).Apart)
    (hval : (awaitConnection sock start fuel).val w = true) :
    ∃ n < fuel, Ends w start n ∧
      Awaits sock.toNat n w ((awaitConnection sock start fuel).state w) := by
  induction fuel generalizing w with
  | zero => exact absurd hval (by simp [awaitConnection])
  | succ fuel ih =>
      obtain ⟨hup, hchecks⟩ := checks_of_zero hsock hzero h
      have htime : InTime ((connected sock).state w) start 0 ↔ InTime w start 0 := by
        rw [InTime, InTime, hchecks.ticks, hchecks.tickRate]
      rw [Prog.val, run_await_succ, hup] at hval
      rw [Prog.state, run_await_succ, hup]
      by_cases hfails : Fails w.bus 0
      · by_cases hin : InTime w start 0
        · simp only [if_pos hfails, htime.mpr hin, ne_eq, not_true_eq_false, if_false, if_true]
            at hval ⊢
          obtain ⟨hslave, hticks, hlen⟩ := hchecks.next hfails.1
          obtain ⟨n, hn, hends, hawaits⟩ := ih (w := tickCount.state ((connected sock).state w))
            hlen hchecks.apart hval
          exact ⟨n + 1, Nat.succ_lt_succ hn,
            (ends_succ hslave hticks hchecks.tickRate ⟨hfails, hin⟩).mpr hends,
            hawaits.succ hslave⟩
        · simp only [if_pos hfails, mt htime.mp hin, ne_eq, not_true_eq_false, if_false] at hval ⊢
          exact ⟨0, Nat.succ_pos fuel, ends_zero fun h => hin h.2, hchecks.awaits.tick⟩
      · simp only [if_neg hfails, ne_eq, one_ne_zero, not_false_eq_true, if_true] at hval ⊢
        exact ⟨0, Nat.succ_pos fuel, ends_zero fun h => hfails h.1, hchecks.awaits⟩

/-- The loop comes to its end if it is given the rounds. -/
theorem await_of_ends (hsock : sock ≠ noSocketAvail) (hzero : (w.buffers sock.toNat).length = 0)
    (h : (w.buffers sock.toNat).Apart) (hn : n < fuel) (hends : Ends w start n) :
    (awaitConnection sock start fuel).val w = true := by
  induction fuel generalizing w n with
  | zero => exact absurd hn (Nat.not_lt_zero n)
  | succ fuel ih =>
      obtain ⟨hup, hchecks⟩ := checks_of_zero hsock hzero h
      have htime : InTime ((connected sock).state w) start 0 ↔ InTime w start 0 := by
        rw [InTime, InTime, hchecks.ticks, hchecks.tickRate]
      rw [Prog.val, run_await_succ, hup]
      by_cases hfirst : Fails w.bus 0 ∧ InTime w start 0
      · cases n with
        | zero => exact absurd hfirst hends.last
        | succ n =>
            obtain ⟨hslave, hticks, hlen⟩ := hchecks.next hfirst.1.1
            simp only [if_pos hfirst.1, htime.mpr hfirst.2, ne_eq, not_true_eq_false, if_false,
              if_true]
            exact ih hlen hchecks.apart (Nat.lt_of_succ_lt_succ hn)
              ((ends_succ hslave hticks hchecks.tickRate hfirst).mp hends)
      · rw [not_and] at hfirst
        by_cases hfails : Fails w.bus 0
        · simp [hfails, htime, hfirst hfails]
        · simp [hfails]

end Await

/-! ## The result -/

/-- The replies and the readings of the clock after which the last check fails.  They are
counted from the beginning of the call, where two exchanges come before the first check, and
one reading before the waiting; `n` checks fail before the one with which the waiting ends. -/
structure Refused (w : World) (n : ℕ) : Prop where
  before : ∀ i < n, Fails w.bus (i + 1) ∧ InTime w (w.ticks 0) (i + 1)
  vacant : Vacant w.bus (2 * (n + 1))
  last : ¬ (StateAccepted w.bus (2 * (n + 1) + 1) ∧ InTime w (w.ticks 0) (n + 1))
  again : Fails w.bus (n + 2)

section Result
variable {w : World} {fuel : ℕ} {c : Connect} {sock : UInt8}

theorem slave_getSocket (b : Bus) : (getSocket.state b).slave = fun k => b.slave (k + 2) := by
  simp only [getSocket, Prog.state_bind, Prog.state_pure, Bus.state_loadList]
  rw [slave_exchange_of_le le_rfl le_rfl]
  rfl

theorem slave_startClient (ip : UInt32) (port : UInt16) (sock protMode : UInt8) (b : Bus) :
    ((startClient ip port sock protMode).state b).slave = fun k => b.slave (k + 2) := by
  simp only [startClient, Prog.state_bind]
  rw [slave_requestByte le_rfl]
  rfl

theorem slave_startClientHostname (host : Ptr Obj) (hostLen : UInt8) (ip : UInt32)
    (port : UInt16) (sock protMode : UInt8) (b : Bus) :
    ((startClientHostname host hostLen ip port sock protMode).state b).slave =
      fun k => b.slave (k + 2) := by
  simp only [startClientHostname, Prog.state_bind]
  refine (slave_requestByte ?_ _).trans rfl
  simp

/-- Two exchanges come before the waiting. -/
theorem slave_requested (hc : c.Waits) (b : Bus) :
    (c.requested.state b).slave = fun k => b.slave (k + 2 * 2) := by
  cases c with
  | connect ip port | connectSSL ip port =>
      rw [Connect.requested, Prog.state_bind, Prog.state_ignore, slave_startClient,
        slave_getSocket]
  | connectHostname host port => exact absurd hc id
  | connectSSLHostname host port =>
      rw [Connect.requested, Prog.state_bind, Prog.state_bind, Prog.state_ignore,
        slave_startClientHostname, Bus.state_strlen, slave_getSocket]

/-- The requests stand where a check before the first one would. -/
theorem fails_requested (hc : c.Waits) (b : Bus) (k : ℕ) :
    Fails (c.requested.state b) k ↔ Fails b (k + 1) :=
  fails_of_slave (slave_requested hc b) k

theorem val_connectCommon (w : World) :
    (connectCommon fuel sock).val w =
      if (awaitConnection sock (w.ticks 0) fuel).val (tickCount.state w) = true then
        some (if (connected sock).val
          ((awaitConnection sock (w.ticks 0) fuel).state (tickCount.state w)) = 0 then
            (noSocketAvail.toNat : ℤ) else sock.toNat)
      else none := by
  rw [connectCommon, Prog.val_bind, Prog.val_bind, Prog.val_ite]
  rfl

theorem state_connectCommon (w : World) :
    (connectCommon fuel sock).state w =
      if (awaitConnection sock (w.ticks 0) fuel).val (tickCount.state w) = true then
        (connected sock).state
          ((awaitConnection sock (w.ticks 0) fuel).state (tickCount.state w))
      else (awaitConnection sock (w.ticks 0) fuel).state (tickCount.state w) := by
  rw [connectCommon, Prog.state_bind, Prog.state_bind, Prog.state_ite]
  rfl

/-- The last check with the empty buffer that a waiting left, or with what it found. -/
theorem val_last_check {w w' : World} {n : ℕ} (hsock : sock ≠ noSocketAvail)
    (h : Awaits sock.toNat n w w') :
    (connected sock).val w' = 0 ↔ Vacant w.bus (2 * n) ∧ Fails w.bus (n + 1) := by
  by_cases hvacant : Vacant w.bus (2 * n)
  · have hfails : Fails w'.bus 0 ↔ Fails w.bus (0 + (n + 1)) := fails_of_slave (h.slave hvacant) 0
    rw [Nat.zero_add] at hfails
    rw [(checks_of_zero hsock (h.length.trans (if_pos hvacant)) h.apart).1, ← hfails,
      and_iff_right hvacant]
    simp
  · have hne : (w'.buffers sock.toNat).length ≠ 0 := by
      rw [h.length, if_neg hvacant]
      decide
    simp [(connected_of_ne hsock hne).1, hvacant]

/-- With data in the buffer the waiting is over at once. -/
theorem await_of_ne (fuel : ℕ) (start : UInt32) (hsock : sock ≠ noSocketAvail)
    (hne : (w.buffers sock.toNat).length ≠ 0) :
    ∃ indexed, (awaitConnection sock start (fuel + 1)).state w = { w with indexed := indexed } := by
  obtain ⟨hup, indexed, hstate⟩ := connected_of_ne hsock hne
  refine ⟨indexed, ?_⟩
  rw [Prog.state, run_await_succ, hup, if_pos one_ne_zero, hstate]

theorem val_connectCommon_of_ne (hsock : sock ≠ noSocketAvail)
    (hne : (w.buffers sock.toNat).length ≠ 0) {s : ℤ}
    (hs : (connectCommon fuel sock).val w = some s) : s = sock.toNat := by
  rw [val_connectCommon] at hs
  obtain ⟨hended, hs⟩ := Option.ite_none_right_eq_some.mp hs
  cases fuel with
  | zero => exact absurd hended (by simp [awaitConnection])
  | succ fuel =>
      have hne' : ((tickCount.state w).buffers sock.toNat).length ≠ 0 := hne
      obtain ⟨indexed, hstate⟩ := await_of_ne fuel (w.ticks 0) hsock hne'
      have hagain := (connected_of_ne (w := { tickCount.state w with indexed := indexed }) hsock
        hne').1
      rw [hstate, hagain, if_neg one_ne_zero] at hs
      exact (Option.some.inj hs).symm

theorem ends_requested {w : World} {b : Bus} (hslave : b.slave = fun k => w.bus.slave (k + 2 * 2))
    (n : ℕ) :
    Ends (tickCount.state { w with bus := b }) (w.ticks 0) n ∧ Vacant b (2 * n) ∧
      Fails b (n + 1) ↔ Refused w n := by
  have hfails (k : ℕ) : Fails b k ↔ Fails w.bus (k + 1) := fails_of_slave hslave k
  have hvacant (k : ℕ) : Vacant b (2 * k) ↔ Vacant w.bus (2 * (k + 1)) :=
    vacant_of_slave hslave (2 * k)
  have htime (k : ℕ) : InTime (tickCount.state { w with bus := b }) (w.ticks 0) k ↔
      InTime w (w.ticks 0) (k + 1) := Iff.rfl
  constructor
  · rintro ⟨hends, hempty, hagain⟩
    refine ⟨?_, (hvacant n).mp hempty, ?_, (hfails (n + 1)).mp hagain⟩
    · intro i hi
      rw [← hfails, ← htime]
      exact hends.before i hi
    · rintro ⟨haccepted, hin⟩
      exact hends.last ⟨(hfails n).mpr ⟨(hvacant n).mp hempty, haccepted⟩, (htime n).mpr hin⟩
  · intro h
    refine ⟨⟨?_, ?_⟩, (hvacant n).mpr h.vacant, (hfails (n + 1)).mpr h.again⟩
    · intro i hi
      exact ⟨(hfails i).mpr (h.before i hi).1, (htime i).mpr (h.before i hi).2⟩
    · rintro ⟨hfailed, hin⟩
      exact h.last ⟨((hfails n).mp hfailed).2, (htime n).mp hin⟩

/-- **When `NO_SOCKET_AVAIL` is returned** by the functions that come to wait. -/
theorem val_waits_iff (hc : c.Waits) (h : (w.buffers 0).Apart) {s : ℤ}
    (hs : (c.run fuel).val w = some s) :
    s = noSocketAvail.toNat ↔ (w.buffers 0).length = 0 ∧ ∃ n, Refused w n := by
  rw [Prog.val, run_of_waits fuel w hc] at hs
  change (connectCommon fuel 0).val { w with bus := c.requested.state w.bus } = some s at hs
  by_cases hzero : (w.buffers 0).length = 0
  · have hslave := slave_requested hc w.bus
    rw [val_connectCommon] at hs
    obtain ⟨hended, hs⟩ := Option.ite_none_right_eq_some.mp hs
    obtain ⟨n, -, hends, hawaits⟩ := ends_of_await
      (w := tickCount.state { w with bus := c.requested.state w.bus }) zero_ne_noSocketAvail
      hzero h hended
    have hlast := val_last_check zero_ne_noSocketAvail hawaits
    rw [← Option.some.inj hs, and_iff_right hzero]
    split
    · next hdown =>
        have hrefused := (ends_requested hslave n).mp ⟨hends, hlast.mp hdown⟩
        exact ⟨fun _ => ⟨n, hrefused⟩, fun _ => rfl⟩
    · next hup =>
        refine ⟨fun heq => absurd heq (by decide), ?_⟩
        rintro ⟨m, hm⟩
        obtain ⟨hends', hagain⟩ := (ends_requested hslave m).mpr hm
        obtain rfl := hends.unique hends'
        exact absurd (hlast.mpr hagain) hup
  · have hsocket := val_connectCommon_of_ne
      (w := { w with bus := c.requested.state w.bus }) zero_ne_noSocketAvail hzero hs
    rw [hsocket]
    constructor
    · intro heq
      exact absurd heq (by decide)
    · intro hrefused
      exact absurd hrefused.1 hzero

/-- A function that is given the rounds returns. -/
theorem exists_val_of_ends (hc : c.Waits) (hzero : (w.buffers 0).length = 0)
    (h : (w.buffers 0).Apart) {n : ℕ} (hn : n < fuel)
    (hends : Ends (tickCount.state { w with bus := c.requested.state w.bus }) (w.ticks 0) n) :
    ∃ s, (c.run fuel).val w = some s := by
  have hended := await_of_ends (w := tickCount.state { w with bus := c.requested.state w.bus })
    zero_ne_noSocketAvail hzero h hn hends
  rw [Prog.val, run_of_waits fuel w hc]
  change ∃ s, (connectCommon fuel 0).val { w with bus := c.requested.state w.bus } = some s
  rw [val_connectCommon, if_pos hended]
  exact ⟨_, rfl⟩

theorem val_of_refused (hc : c.Waits) (hzero : (w.buffers 0).length = 0)
    (h : (w.buffers 0).Apart) {n : ℕ} (hn : n < fuel) (hrefused : Refused w n) :
    (c.run fuel).val w = some (noSocketAvail.toNat : ℤ) := by
  obtain ⟨hends, -⟩ := (ends_requested (slave_requested hc w.bus) n).mpr hrefused
  obtain ⟨s, hs⟩ := exists_val_of_ends hc hzero h hn hends
  rw [hs, (val_waits_iff hc h hs).mpr ⟨hzero, n, hrefused⟩]

end Result

/-- A reply to `GET_SOCKET_CMD` is accepted, and its parameter as sent begins with the
byte `s`. -/
def Reports (reply : List UInt8) (s : ℤ) : Prop :=
  (parseReply getSocketCmd 1 [(1 : UInt8)] reply).ret = 1 ∧
    firstLength UInt8 reply ≠ 0 ∧ (((firstField reply).drop 1).headD 0).toNat = s

/-- The last check that a connecting function makes. -/
def Connect.lastCheck (c : Connect) (fuel : ℕ) : Prog World ℤ := do
  onBus c.requested
  let start ← tickCount
  let _ ← awaitConnection 0 start fuel
  connected 0

/-- A result other than `NO_SOCKET_AVAIL` is a socket that the function got as far as asking
for, that the module reported in an accepted reply, and whose connection was up at last. -/
def Unambiguous (c : Connect) (fuel : ℕ) (w : World) (s : ℤ) : Prop :=
  s ≠ noSocketAvail.toNat →
    c.Waits ∧ Reports (reply 20 w.bus) s ∧ (c.lastCheck fuel).val w = 1

/-- The byte where an accepted reply has its socket number is its end byte. -/
theorem not_reports_zero (s : List UInt8) : ¬ Reports s 0 := by
  rintro ⟨haccepted, -, hzero⟩
  have hclip : toNat (clip 1 (firstLength UInt8 s)) = 0 := by
    have hone : toNat (1 : UInt8) = 1 := by decide
    rw [toNat_clip _ (by decide), hone, Nat.sub_self, Nat.min_zero]
  have hend := ((ret_single getSocketCmd (1 : UInt8) s).mp haccepted).2
  rw [hclip, Nat.add_zero, width_uint8] at hend
  rw [hend] at hzero
  exact absurd hzero (by decide)

theorem unambiguous_iff {c : Connect} {fuel : ℕ} {w : World} {s : ℤ}
    (h : (w.buffers 0).Apart) (hs : (c.run fuel).val w = some s) :
    Unambiguous c fuel w s ↔ c.Waits ∧ (w.buffers 0).length = 0 ∧ ∃ n, Refused w n := by
  have hnone : Unambiguous c fuel w s ↔ s = noSocketAvail.toNat := by
    rcases val_connect_cases fuel w hs with rfl | rfl
    · constructor
      · intro hunambiguous
        exact absurd (hunambiguous (by decide)).2.1 (not_reports_zero _)
      · intro heq
        exact absurd heq (by decide)
    · exact ⟨fun _ => rfl, fun _ hne => absurd rfl hne⟩
  rw [hnone]
  by_cases hc : c.Waits
  · rw [val_waits_iff hc h hs, and_iff_right hc]
  · rw [Prog.val, run_of_not_waits fuel w hc] at hs
    obtain rfl := Option.some.inj hs
    exact ⟨fun heq => absurd heq (by decide), fun hrefused => absurd hrefused.1 hc⟩

end WiFiClient

open WiFiClient

/-- **When the result of connecting is unambiguous**, in every state that an application can
reach: exactly if the function comes to wait, has nothing buffered for socket zero, and is
refused. -/
theorem connect_unambiguous_iff (w : World) (us : List Use) (c : Connect) (fuel : ℕ) (b : Bus)
    (s : ℤ) (hrun : clients.Run (.start w) us)
    (hs : (c.run fuel).val ((clients.exec (.start w) us).before ⟨.connect c fuel, b⟩) = some s) :
    Unambiguous c fuel ((clients.exec (.start w) us).before ⟨.connect c fuel, b⟩) s ↔
      c.Waits ∧ (((clients.exec (.start w) us).world.buffers 0).length = 0 ∧
        ∃ n, Refused ((clients.exec (.start w) us).before ⟨.connect c fuel, b⟩) n) :=
  unambiguous_iff (apart_exec (apart_start w) hrun 0 (by decide)) hs

/-- Where no check fails, the first one ends the waiting, and socket zero is returned. -/
theorem val_of_not_fails {c : Connect} {w : World} (hwaits : c.Waits)
    (hzero : (w.buffers 0).length = 0) (happart : (w.buffers 0).Apart)
    (h : ∀ k, ¬ Fails w.bus k) : (c.run 1).val w = some 0 := by
  have hfails : ¬ Fails (c.requested.state w.bus) 0 :=
    fun hfail => h 1 ((fails_requested hwaits _ 0).mp hfail)
  obtain ⟨s, hs⟩ := exists_val_of_ends hwaits hzero happart Nat.zero_lt_one
    (ends_zero (not_and_of_not_left _ hfails))
  have hnone : ¬ s = noSocketAvail.toNat := by
    rw [val_waits_iff hwaits happart hs]
    rintro ⟨-, n, hrefused⟩
    exact h _ hrefused.again
  rw [hs, (val_connect_cases 1 _ hs).resolve_right hnone]

/-- A check in front of a module that does not answer takes that for data. -/
theorem not_fails_boot (k : ℕ) : ¬ Fails (init.state World.boot).bus k := by
  rintro ⟨⟨⟨-, hcmd⟩, -⟩, -⟩
  rw [show replyAt wifiSocketBufferSize (init.state World.boot).bus (2 * k) = [] from
    List.take_nil, List.drop_nil] at hcmd
  exact absurd hcmd (by decide)

/-- No socket number is received, and zero is returned. -/
theorem val_connect_boot :
    ((Connect.connect 0 80).run 1).val (init.state World.boot) = some 0 :=
  val_of_not_fails trivial rfl (apart_start World.boot 0 (by decide)) not_fails_boot

/-- So a failure is taken for a socket. -/
theorem connect_boot_ambiguous :
    ((Connect.connect 0 80).run 1).val (init.state World.boot) = some 0 ∧
      ¬ Unambiguous (.connect 0 80) 1 (init.state World.boot) 0 := by
  have happart : ((init.state World.boot).buffers 0).Apart := apart_start World.boot 0 (by decide)
  refine ⟨val_connect_boot, ?_⟩
  rw [unambiguous_iff happart val_connect_boot]
  rintro ⟨-, -, n, hrefused⟩
  exact not_fails_boot _ hrefused.again

/-- Connecting as the first call. -/
theorem connect_unambiguous_iff_boot :
    Unambiguous (.connect 0 80) 1 (init.state World.boot) 0 ↔
      (Connect.connect 0 80).Waits ∧ (((init.state World.boot).buffers 0).length = 0 ∧
        ∃ n, Refused (init.state World.boot) n) :=
  connect_unambiguous_iff World.boot [] (.connect 0 80) 1 World.boot.bus 0 trivial val_connect_boot

end WiFiNINA
