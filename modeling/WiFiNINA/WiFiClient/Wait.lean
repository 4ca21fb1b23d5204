import WiFiNINA.Lib.Poll
import WiFiNINA.WiFiClient

/-!
# Waiting for a connection on a clock that wraps

`WiFiClient_connectCommon` waits until the connection is up or ten seconds have passed on a tick
counter of 32 bits.  It compares the difference of two readings, and that is the true time as
long as less than 2^32 ticks have passed; the loop never looks at a later reading.
-/

namespace WiFiNINA

open World

/-- The clock still has the same readings to come. -/
def KeepsClock (w w' : World) : Prop := w'.ticks = w.ticks ∧ w'.tickRate = w.tickRate

section Clock
variable {α β : Type}

theorem keepsClock_pure (a : α) : Prog.Guarantees KeepsClock (pure a : Prog World α) :=
  Prog.Guarantees.pure (fun _ => ⟨rfl, rfl⟩) a

theorem keepsClock_bind {p : Prog World α} {f : α → Prog World β}
    (hp : Prog.Guarantees KeepsClock p) (hf : ∀ a, Prog.Guarantees KeepsClock (f a)) :
    Prog.Guarantees KeepsClock (p >>= f) :=
  Prog.Guarantees.bind (fun h h' => ⟨h'.1.trans h.1, h'.2.trans h.2⟩) hp hf

theorem keepsClock_onBus (p : Prog Bus α) : Prog.Guarantees KeepsClock (onBus p) :=
  fun _ => ⟨rfl, rfl⟩

theorem keepsClock_entry (socket : ℕ) : Prog.Guarantees KeepsClock (entry socket) :=
  fun _ => ⟨rfl, rfl⟩

theorem keepsClock_setEntry (socket : ℕ) (e : Entry) :
    Prog.Guarantees KeepsClock (setEntry socket e) :=
  fun _ => ⟨rfl, rfl⟩

theorem keepsClock_free (p : Ptr Obj) : Prog.Guarantees KeepsClock (free p) :=
  fun _ => ⟨rfl, rfl⟩

theorem keepsClock_malloc (size : ℕ) : Prog.Guarantees KeepsClock (malloc size) := by
  intro w
  rw [malloc, Prog.state_mk]
  split <;> exact ⟨rfl, rfl⟩

end Clock

namespace WiFiSocketBuffer

theorem keepsClock_allocate (socket : ℕ) : Prog.Guarantees KeepsClock (allocate socket) := by
  refine keepsClock_bind (keepsClock_entry socket) fun e => ?_
  refine Prog.Guarantees.ite _ ?_ (keepsClock_pure ())
  exact keepsClock_bind (keepsClock_malloc _) fun p => keepsClock_setEntry socket _

theorem keepsClock_refill (socket : ℕ) : Prog.Guarantees KeepsClock (refill socket) := by
  refine keepsClock_bind (keepsClock_entry socket) fun e => ?_
  refine Prog.Guarantees.ite _ ?_ (keepsClock_pure ())
  refine keepsClock_bind (keepsClock_allocate socket) fun _ => ?_
  refine keepsClock_bind (keepsClock_onBus _) fun size => ?_
  refine keepsClock_bind (keepsClock_entry socket) fun e => ?_
  refine keepsClock_bind (keepsClock_onBus _) fun got => ?_
  refine Prog.Guarantees.ite _ ?_ (keepsClock_pure ())
  exact keepsClock_bind (keepsClock_onBus _) fun bytes => keepsClock_setEntry socket _

theorem keepsClock_close (socket : ℕ) : Prog.Guarantees KeepsClock (close socket) := by
  refine keepsClock_bind (keepsClock_entry socket) fun e => ?_
  refine Prog.Guarantees.ite _ ?_ (keepsClock_pure ())
  exact keepsClock_bind (keepsClock_free _) fun _ => keepsClock_setEntry socket _

end WiFiSocketBuffer

namespace WiFiClient

theorem keepsClock_available (sock : UInt8) : Prog.Guarantees KeepsClock (available sock) := by
  refine Prog.Guarantees.ite _ (keepsClock_pure 0) ?_
  refine keepsClock_bind (WiFiSocketBuffer.keepsClock_refill _) fun _ => ?_
  exact keepsClock_bind (keepsClock_entry _) fun e => keepsClock_pure _

/-- The check of the source does not read the clock. -/
theorem keepsClock_connected (sock : UInt8) : Prog.Guarantees KeepsClock (connected sock) := by
  refine Prog.Guarantees.ite _ (keepsClock_pure 0) ?_
  refine keepsClock_bind (keepsClock_available sock) fun avail => ?_
  refine Prog.Guarantees.ite _ (keepsClock_pure 1) ?_
  refine keepsClock_bind ?_ fun s => ?_
  · exact Prog.Guarantees.ite _ (keepsClock_pure _) (keepsClock_onBus _)
  · refine Prog.Guarantees.ite _ ?_ (keepsClock_pure 1)
    exact keepsClock_bind (WiFiSocketBuffer.keepsClock_close _) fun _ => keepsClock_pure 0

/-- The waiting loop of `WiFiClient_connectCommon` over any check of the connection, for at most
`fuel` rounds: whether it has ended by then. -/
def awaitConnectionWith (check : Prog World ℤ) (start : UInt32) : ℕ → Prog World Bool
  | 0 => pure false
  | fuel + 1 => do
      let up ← check
      if up ≠ 0 then pure true else do
        let now ← tickCount
        let timeout ← pdMsToTicks 10000
        if now - start < timeout then awaitConnectionWith check start fuel else pure true

/-- `WiFiClient_connectCommon` over any check of the connection, if its loop ends within `fuel`
rounds. -/
def connectCommonWith (check : Prog World ℤ) (fuel : ℕ) (sock : UInt8) :
    Prog World (Option ℤ) := do
  let start ← tickCount
  let ended ← awaitConnectionWith check start fuel
  if ended then do
    let up ← check
    pure (some (if up = 0 then noSocketAvail.toNat else sock.toNat))
  else pure none

theorem awaitConnection_eq (sock : UInt8) (start : UInt32) (fuel : ℕ) :
    awaitConnection sock start fuel = awaitConnectionWith (connected sock) start fuel := by
  induction fuel with
  | zero => rfl
  | succ fuel ih => rw [awaitConnection, awaitConnectionWith, ih]

theorem connectCommon_eq (fuel : ℕ) (sock : UInt8) :
    connectCommon fuel sock = connectCommonWith (connected sock) fuel sock := by
  simp only [connectCommon, connectCommonWith, awaitConnection_eq]

/-- A round of the loop: whether the loop ends with it. -/
def round (check : Prog World ℤ) (start : UInt32) : Prog World Bool := do
  let up ← check
  if up ≠ 0 then pure true else do
    let now ← tickCount
    let timeout ← pdMsToTicks 10000
    pure (!decide (now - start < timeout))

/-- Behind a check that fails, the clock is read and there is time left. -/
def Early (check : Prog World ℤ) (start : UInt32) (w : World) : Prop :=
  tickCount.val (check.state w) - start <
    (pdMsToTicks 10000).val (tickCount.state (check.state w))

instance (check : Prog World ℤ) (start : UInt32) (w : World) : Decidable (Early check start w) :=
  inferInstanceAs (Decidable (_ < _))

theorem run_round (check : Prog World ℤ) (start : UInt32) (w : World) :
    (round check start).run w =
      if check.val w ≠ 0 then (true, check.state w)
      else (!decide (Early check start w), tickCount.state (check.state w)) := by
  change (if check.val w ≠ 0 then pure true else _ : Prog World Bool).run (check.state w) = _
  split <;> rfl

/-- A round of the loop, and what is left of it. -/
theorem run_awaitConnectionWith_succ (check : Prog World ℤ) (start : UInt32) (fuel : ℕ)
    (w : World) :
    (awaitConnectionWith check start (fuel + 1)).run w =
      if (round check start).val w then (true, (round check start).state w)
      else (awaitConnectionWith check start fuel).run ((round check start).state w) := by
  rw [Prog.val, Prog.state, run_round]
  change (if check.val w ≠ 0 then pure true else _ : Prog World Bool).run (check.state w) = _
  by_cases hup : check.val w ≠ 0
  · rw [if_pos hup, if_pos hup]
    rfl
  · rw [if_neg hup, if_neg hup]
    change (if Early check start w then awaitConnectionWith check start fuel
      else pure true : Prog World Bool).run (tickCount.state (check.state w)) = _
    by_cases hearly : Early check start w
    · rw [if_pos hearly, decide_eq_true hearly]
      rfl
    · rw [if_neg hearly, decide_eq_false hearly]
      rfl

/-- The loop of the source is the polling loop over its rounds. -/
theorem run_awaitConnectionWith (check : Prog World ℤ) (start : UInt32) (fuel : ℕ) (w : World) :
    (awaitConnectionWith check start (fuel + 1)).run w =
      (Prog.poll (round check start) id fuel).run w := by
  induction fuel generalizing w with
  | zero =>
      rw [run_awaitConnectionWith_succ]
      split
      · next h => exact Prod.ext h.symm rfl
      · next h => exact Prod.ext (Bool.eq_false_of_not_eq_true h).symm rfl
  | succ fuel ih =>
      rw [run_awaitConnectionWith_succ, Prog.run_poll_succ, ih]
      have hfirst : (round check start).answers w 0 = (round check start).val w := rfl
      rw [hfirst]
      split
      · next h => rw [id, if_pos h, h]
      · next h => rw [id, if_neg h]

/-! ## The true time -/

/-- `pdMS_TO_TICKS(10000)` -/
def timeoutTicks (w : World) : ℕ := ((pdMsToTicks 10000).val w).toNat

/-- The readings of the clock are those of a true time, modulo 2^32.  Reading number zero is that
of the start, and the others are those of the loop condition. -/
structure TrueTime (w : World) (time : ℕ → ℕ) : Prop where
  reading : ∀ k, w.ticks k = UInt32.ofNat (time k)
  first : time 0 ≤ time 1 ∧ time 1 < time 0 + 2 ^ 32
  later : ∀ k, time (k + 1) + 1 ≤ time (k + 2) ∧
    time (k + 2) < time (k + 1) + (2 ^ 32 - timeoutTicks w)

/-- The true time from the start to the reading that belongs to check number `n`. -/
def elapsed (time : ℕ → ℕ) (n : ℕ) : ℕ := time (n + 1) - time 0

/-- The world in which check number `n` is made, if the loop gets to it. -/
def beforeCheck (check : Prog World ℤ) (w : World) (n : ℕ) : World :=
  (fun v => tickCount.state (check.state v))^[n] (tickCount.state w)

/-- Check number `n` finds a connection, or its time is over. -/
def Over (check : Prog World ℤ) (w : World) (time : ℕ → ℕ) (n : ℕ) : Prop :=
  check.val (beforeCheck check w n) ≠ 0 ∨ timeoutTicks w ≤ elapsed time n

instance (check : Prog World ℤ) (w : World) (time : ℕ → ℕ) (n : ℕ) :
    Decidable (Over check w time n) :=
  inferInstanceAs (Decidable (_ ∨ _))

/-- The world behind the loop, if it ends with check number `n`. -/
def afterCheck (check : Prog World ℤ) (w : World) (n : ℕ) : World :=
  if check.val (beforeCheck check w n) ≠ 0 then check.state (beforeCheck check w n)
  else beforeCheck check w (n + 1)

/-- What is returned, by what the last check finds. -/
def reported (up : ℤ) (sock : UInt8) : ℤ := if up = 0 then noSocketAvail.toNat else sock.toNat

section TrueTime
variable {check : Prog World ℤ} {w : World} {time : ℕ → ℕ} {n : ℕ}

/-- The readings that are left before check number `n`. -/
theorem clock_beforeCheck (hcheck : Prog.Guarantees KeepsClock check) (w : World) (n : ℕ) :
    (beforeCheck check w n).ticks = (fun k => w.ticks (k + (n + 1))) ∧
      (beforeCheck check w n).tickRate = w.tickRate := by
  induction n with
  | zero => exact ⟨rfl, rfl⟩
  | succ n ih =>
      obtain ⟨hticks, hrate⟩ := hcheck (beforeCheck check w n)
      have hstep : beforeCheck check w (n + 1) =
          tickCount.state (check.state (beforeCheck check w n)) :=
        Function.iterate_succ_apply' _ n _
      rw [hstep]
      refine ⟨?_, hrate.trans ih.2⟩
      change (fun k => (check.state (beforeCheck check w n)).ticks (k + 1)) = _
      rw [hticks, ih.1]
      exact funext fun k => congrArg w.ticks (by omega)

/-- At least one tick passes from check to check. -/
theorem TrueTime.add_le (h : TrueTime w time) (n : ℕ) : time 1 + n ≤ time (n + 1) := by
  induction n with
  | zero => exact le_rfl
  | succ n ih =>
      have hlater : time (n + 1) + 1 ≤ time (n + 1 + 1) := (h.later n).1
      omega

/-- The difference of two readings that are less than 2^32 ticks apart is the true time between
them. -/
theorem toNat_sub_ofNat {t t' : ℕ} (hle : t ≤ t') (hlt : t' < t + 2 ^ 32) :
    (UInt32.ofNat t' - UInt32.ofNat t).toNat = t' - t := by
  rw [UInt32.toNat_sub, UInt32.toNat_ofNat', UInt32.toNat_ofNat']
  omega

/-- **The comparison is exact** at the first check whose time is over, and before it. -/
theorem TrueTime.lt_iff (h : TrueTime w time) (hn : ∀ i < n, elapsed time i < timeoutTicks w) :
    w.ticks (n + 1) - w.ticks 0 < (pdMsToTicks 10000).val w ↔
      elapsed time n < timeoutTicks w := by
  have hle : time 0 ≤ time (n + 1) := by
    have hfirst := h.first.1
    have hadd := h.add_le n
    omega
  have hlt : time (n + 1) < time 0 + 2 ^ 32 := by
    cases n with
    | zero => exact h.first.2
    | succ n =>
        -- the last reading was in time, and not much has passed since
        have hbefore : elapsed time n < timeoutTicks w := hn n (Nat.lt_succ_self n)
        have hlater : time (n + 1 + 1) < time (n + 1) + (2 ^ 32 - timeoutTicks w) :=
          (h.later n).2
        rw [elapsed] at hbefore
        have hadd := h.add_le n
        have hfirst := h.first.1
        have hbound : timeoutTicks w < 2 ^ 32 := UInt32.toNat_lt _
        omega
  rw [UInt32.lt_iff_toNat_lt, h.reading, h.reading, toNat_sub_ofNat hle hlt, elapsed,
    timeoutTicks]

/-- The rounds up to the last one, in the words of the true time. -/
theorem run_round_beforeCheck (hcheck : Prog.Guarantees KeepsClock check) (h : TrueTime w time)
    (hn : ∀ i < n, ¬ Over check w time i) :
    (round check (w.ticks 0)).run (beforeCheck check w n) =
      (decide (Over check w time n), afterCheck check w n) := by
  have hearlier : ∀ i < n, elapsed time i < timeoutTicks w :=
    fun i hi => Nat.lt_of_not_le fun hle => hn i hi (.inr hle)
  obtain ⟨hticks, hrate⟩ := hcheck (beforeCheck check w n)
  obtain ⟨hticks', hrate'⟩ := clock_beforeCheck hcheck w n
  have hearly : Early check (w.ticks 0) (beforeCheck check w n) ↔
      elapsed time n < timeoutTicks w := by
    have hreading : tickCount.val (check.state (beforeCheck check w n)) = w.ticks (n + 1) := by
      change (check.state (beforeCheck check w n)).ticks 0 = _
      rw [hticks, hticks']
      exact congrArg w.ticks (Nat.zero_add (n + 1))
    have htimeout : (pdMsToTicks 10000).val
        (tickCount.state (check.state (beforeCheck check w n))) = (pdMsToTicks 10000).val w := by
      change 10000 * (check.state (beforeCheck check w n)).tickRate / 1000 = _
      rw [hrate, hrate']
      rfl
    rw [Early, hreading, htimeout]
    exact h.lt_iff hearlier
  have hstep : beforeCheck check w (n + 1) =
      tickCount.state (check.state (beforeCheck check w n)) :=
    Function.iterate_succ_apply' _ n _
  rw [run_round, afterCheck]
  by_cases hup : check.val (beforeCheck check w n) ≠ 0
  · have hover : Over check w time n := .inl hup
    rw [if_pos hup, if_pos hup, decide_eq_true hover]
  · have hover : Over check w time n ↔ ¬ Early check (w.ticks 0) (beforeCheck check w n) := by
      rw [hearly, Nat.not_lt, Over, or_iff_right hup]
    rw [if_neg hup, if_neg hup, hstep, decide_eq_decide.mpr hover, decide_not]

/-- The rounds before the last one go through the worlds before the checks. -/
theorem iterate_round (hcheck : Prog.Guarantees KeepsClock check) (h : TrueTime w time)
    (hn : ∀ i < n, ¬ Over check w time i) :
    (round check (w.ticks 0)).state^[n] (tickCount.state w) = beforeCheck check w n := by
  induction n with
  | zero => rfl
  | succ n ih =>
      have hlast : ¬ Over check w time n := hn n (Nat.lt_succ_self n)
      have hbefore : ∀ i < n, ¬ Over check w time i := fun i hi => hn i (Nat.lt_succ_of_lt hi)
      rw [Function.iterate_succ_apply', ih hbefore, Prog.state,
        run_round_beforeCheck hcheck h hbefore, afterCheck, if_neg fun hup => hlast (.inl hup)]

theorem answers_round (hcheck : Prog.Guarantees KeepsClock check) (h : TrueTime w time)
    (hn : ∀ i < n, ¬ Over check w time i) :
    (round check (w.ticks 0)).answers (tickCount.state w) n = decide (Over check w time n) := by
  rw [Prog.answers, iterate_round hcheck h hn, Prog.val, run_round_beforeCheck hcheck h hn]

/-- **The loop ends** with the first check that is over, and not before it. -/
theorem run_await_of_over (hcheck : Prog.Guarantees KeepsClock check) (h : TrueTime w time)
    (hn : ∀ i < n, ¬ Over check w time i) (hover : Over check w time n) (fuel : ℕ) :
    (awaitConnectionWith check (w.ticks 0) fuel).run (tickCount.state w) =
      if n < fuel then (true, afterCheck check w n) else (false, beforeCheck check w fuel) := by
  cases fuel with
  | zero => rfl
  | succ fuel =>
      rw [run_awaitConnectionWith]
      have hanswer : ∀ i ≤ n, (round check (w.ticks 0)).answers (tickCount.state w) i =
          decide (Over check w time i) :=
        fun i hi => answers_round hcheck h fun j hj => hn j (Nat.lt_of_lt_of_le hj hi)
      by_cases hlt : n < fuel + 1
      · have hsettles : Settles (fun ended => id ended = true)
            ((round check (w.ticks 0)).answers (tickCount.state w)) fuel n := by
          refine ⟨Nat.le_of_lt_succ hlt, fun i hi => ?_, fun _ => ?_⟩
          · rw [id, hanswer i hi.le, decide_eq_true_iff]
            exact hn i hi
          · rw [id, hanswer n le_rfl, decide_eq_true_iff]
            exact hover
        rw [if_pos hlt, Prog.run_poll hsettles, hanswer n le_rfl, decide_eq_true hover,
          Function.iterate_succ_apply', iterate_round hcheck h hn, Prog.state,
          run_round_beforeCheck hcheck h hn]
      · -- the fuel is used up by rounds that do not end the loop
        have hle : fuel + 1 ≤ n := Nat.le_of_not_lt hlt
        have hbefore : ∀ i < fuel + 1, ¬ Over check w time i :=
          fun i hi => hn i (Nat.lt_of_lt_of_le hi hle)
        have hsettles : Settles (fun ended => id ended = true)
            ((round check (w.ticks 0)).answers (tickCount.state w)) fuel fuel := by
          refine ⟨le_rfl, fun i hi => ?_, fun hfuel => absurd hfuel (lt_irrefl fuel)⟩
          rw [id, hanswer i (by omega), decide_eq_true_iff]
          exact hbefore i (by omega)
        rw [if_neg hlt, Prog.run_poll hsettles, hanswer fuel (by omega),
          decide_eq_false (hbefore fuel (Nat.lt_succ_self fuel)), iterate_round hcheck h hbefore]

/-- There is an end: the time is over at the latest when as many checks have failed as there are
ticks in ten seconds. -/
theorem exists_over (check : Prog World ℤ) (h : TrueTime w time) :
    ∃ n ≤ timeoutTicks w, (∀ i < n, ¬ Over check w time i) ∧ Over check w time n := by
  obtain ⟨n, hn⟩ := exists_settles (Over check w time) id (timeoutTicks w)
  refine ⟨n, hn.le, hn.before, ?_⟩
  rcases Nat.lt_or_eq_of_le hn.le with hlt | heq
  · exact hn.last hlt
  · have hadd := h.add_le n
    have hfirst := h.first.1
    refine .inr ?_
    rw [elapsed]
    omega

/-- **Waiting for a connection** ends at the first check that finds one or comes when the true
time is over, whether or not the clock wraps; what the next check finds decides the result. -/
theorem connectCommon_waits (hcheck : Prog.Guarantees KeepsClock check) (h : TrueTime w time)
    (sock : UInt8) :
    ∃ n ≤ timeoutTicks w, (∀ i < n, ¬ Over check w time i) ∧ Over check w time n ∧
      ∀ fuel, (connectCommonWith check fuel sock).val w =
        if n < fuel then some (reported (check.val (afterCheck check w n)) sock) else none := by
  obtain ⟨n, hle, hn, hover⟩ := exists_over check h
  refine ⟨n, hle, hn, hover, fun fuel => ?_⟩
  have hrun := run_await_of_over hcheck h hn hover fuel
  have hval : (connectCommonWith check fuel sock).val w =
      if ((awaitConnectionWith check (w.ticks 0) fuel).run (tickCount.state w)).1 then
        some (reported (check.val ((awaitConnectionWith check (w.ticks 0) fuel).run
          (tickCount.state w)).2) sock)
      else none := by
    rw [connectCommonWith, Prog.val_bind, Prog.val_bind, Prog.val_ite]
    rfl
  rw [hval, hrun]
  by_cases hlt : n < fuel
  · rw [if_pos hlt, if_pos hlt, if_pos rfl]
  · rw [if_neg hlt, if_neg hlt]
    rfl

end TrueTime

/-- A world in which the clock is about to wrap, and a hundred ticks pass between readings. -/
def wrapping : World := { World.boot with ticks := fun k => UInt32.ofNat (2 ^ 32 - 1 + 100 * k) }

/-- The wait for socket zero while the clock wraps. -/
theorem connectCommon_waits_wrapping :
    ∃ n ≤ timeoutTicks wrapping,
      (∀ i < n, ¬ Over (connected 0) wrapping (fun k => 2 ^ 32 - 1 + 100 * k) i) ∧
      Over (connected 0) wrapping (fun k => 2 ^ 32 - 1 + 100 * k) n ∧
      ∀ fuel, (connectCommonWith (connected 0) fuel 0).val wrapping =
        if n < fuel then
          some (reported ((connected 0).val (afterCheck (connected 0) wrapping n)) 0)
        else none := by
  refine connectCommon_waits (keepsClock_connected 0) ⟨fun _ => rfl, by decide, fun k => ?_⟩ 0
  have htimeout : timeoutTicks wrapping = 10000 := by decide
  rw [htimeout]
  omega

end WiFiClient

end WiFiNINA
