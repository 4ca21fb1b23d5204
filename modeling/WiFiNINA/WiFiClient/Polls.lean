import WiFiNINA.Lib.Poll
import WiFiNINA.WiFiSocketBuffer.Spec
import WiFiNINA.WiFiClient

/-!
# Loops that wait for an answer

Joining a network, opening an access point and stopping a connection each poll a query for a
bounded number of times.  What they do depends only on what the query answers, so the loops are
taken over any query, with the source's functions as one case.
-/

namespace WiFiNINA

open World

namespace WiFi

variable {σ : Type}

/-- `WiFi_begin_common` over any query. -/
def beginCommonWith (query : Prog σ ℤ) : Prog σ ℤ :=
  pollWhile pending query (wlMaxAttemptConnection - 1)

/-- `WiFi_beginAP_common` over any query. -/
def beginAPCommonWith (query : Prog σ ℤ) : Prog σ ℤ :=
  pollWhile pendingAP query (wlMaxAttemptConnection - 1)

theorem pollStatus_eq (attempts : ℕ) :
    pollStatus attempts = pollWhile pending WiFiDrv.getConnectionStatus attempts := by
  induction attempts with
  | zero => exact bind_congr (x := WiFiDrv.getConnectionStatus) fun _ => rfl
  | succ attempts ih =>
      refine bind_congr (x := WiFiDrv.getConnectionStatus) fun status => ?_
      rw [ih]

theorem beginCommon_eq : beginCommon = beginCommonWith WiFiDrv.getConnectionStatus := by
  rw [beginCommon, beginCommonWith, pollStatus_eq]

theorem beginAPCommon_eq : beginAPCommon = beginAPCommonWith WiFiDrv.getConnectionStatus := rfl

/-- The loop of the source is the polling loop. -/
theorem run_pollWhile (again : UInt8 → Bool) (query : Prog σ ℤ) (attempts : ℕ) (s : σ) :
    (pollWhile again query attempts).run s =
      (((toByte ((Prog.poll query (fun a => !again (toByte a)) attempts).val s)).toNat : ℤ),
        (Prog.poll query (fun a => !again (toByte a)) attempts).state s) := by
  induction attempts generalizing s with
  | zero => rfl
  | succ attempts ih =>
      change (if again (toByte (query.val s)) then pollWhile again query attempts
        else pure (toByte (query.val s)).toNat : Prog σ ℤ).run (query.state s) =
        (((toByte ((Prog.poll query (fun a => !again (toByte a)) (attempts + 1)).run s).1).toNat :
          ℤ), ((Prog.poll query (fun a => !again (toByte a)) (attempts + 1)).run s).2)
      rw [Prog.run_poll_succ]
      have hfirst : query.answers s 0 = query.val s := rfl
      rw [hfirst]
      cases h : again (toByte (query.val s)) with
      | true => exact ih (query.state s)
      | false => rfl

end WiFi

namespace WiFiClient

/-- The waiting loop of `WiFiClient_stop` over any query. -/
def awaitClosedWith (query : Prog World ℤ) : ℕ → Prog World Unit
  | 0 => pure ()
  | polls + 1 => do
      let s ← query
      if s ≠ tcpClosed.toNat then awaitClosedWith query polls else pure ()

/-- `WiFiClient_stop` over any query. -/
def stopWith (query : Prog World ℤ) (sock : UInt8) : Prog World Unit :=
  if sock = noSocketAvail then pure () else do
    let _ ← onBus (ServerDrv.stopClient sock)
    awaitClosedWith query 50
    WiFiSocketBuffer.close sock.toNat

theorem awaitClosed_eq (sock : UInt8) (polls : ℕ) :
    awaitClosed sock polls = awaitClosedWith (status sock) polls := by
  induction polls with
  | zero => rfl
  | succ polls ih => rw [awaitClosed, awaitClosedWith, ih]

theorem stop_eq (sock : UInt8) : stop sock = stopWith (status sock) sock := by
  rw [stop, stopWith, awaitClosed_eq]

/-- The loop of the source is the polling loop, whose last answer it does not look at. -/
theorem state_awaitClosedWith (query : Prog World ℤ) (polls : ℕ) (w : World) :
    (awaitClosedWith query (polls + 1)).state w =
      (Prog.poll query (fun s => s == tcpClosed.toNat) polls).state w := by
  induction polls generalizing w with
  | zero =>
      change (if query.val w ≠ tcpClosed.toNat then pure ()
        else pure () : Prog World Unit).state (query.state w) = query.state w
      split <;> rfl
  | succ polls ih =>
      change (if query.val w ≠ tcpClosed.toNat then awaitClosedWith query (polls + 1)
        else pure () : Prog World Unit).state (query.state w) =
        ((Prog.poll query (fun s => s == tcpClosed.toNat) (polls + 1)).run w).2
      rw [Prog.run_poll_succ]
      have hfirst : query.answers w 0 = query.val w := rfl
      rw [hfirst]
      by_cases h : query.val w = tcpClosed.toNat
      · rw [if_neg (not_not.mpr h), if_pos (beq_iff_eq.mpr h)]
        rfl
      · rw [if_pos h, if_neg (mt beq_iff_eq.mp h)]
        exact ih (query.state w)

end WiFiClient

/-- A loop that polls while `again` holds of the status has returned the status that settles it,
and has polled exactly up to it. -/
structure Settled {σ : Type} (again : UInt8 → Bool) (query : Prog σ ℤ) (p : Prog σ ℤ) (s : σ)
    (n : ℕ) : Prop where
  settles : Settles (fun status => ¬ again (toByte status) = true) (query.answers s)
    (wlMaxAttemptConnection - 1) n
  returned : p.val s = (toByte (query.answers s n)).toNat
  state : p.state s = query.state^[n + 1] s

theorem exists_settled {σ : Type} (again : UInt8 → Bool) (query : Prog σ ℤ) (s : σ) :
    ∃ n, Settled again query (WiFi.pollWhile again query (wlMaxAttemptConnection - 1)) s n := by
  obtain ⟨n, hn⟩ := exists_settles (fun status => ¬ again (toByte status) = true)
    (query.answers s) (wlMaxAttemptConnection - 1)
  have hpoll : Settles (fun status => (!again (toByte status)) = true) (query.answers s)
      (wlMaxAttemptConnection - 1) n :=
    hn.congr fun i _ => by simp
  have hrun := WiFi.run_pollWhile again query (wlMaxAttemptConnection - 1) s
  rw [Prog.val_poll hpoll, Prog.state_poll hpoll] at hrun
  exact ⟨n, hn, congrArg Prod.fst hrun, congrArg Prod.snd hrun⟩

/-- A connection is stopped: the request, and polls up to the first answer `CLOSED` but no more
than fifty; then the buffer is released. -/
structure Stopped (query : Prog World ℤ) (sock : UInt8) (w : World) (n : ℕ) : Prop where
  settles : Settles (· = (tcpClosed.toNat : ℤ))
    (query.answers ((onBus (ServerDrv.stopClient sock)).state w)) 49 n
  state : (WiFiClient.stopWith query sock).state w =
    (WiFiSocketBuffer.close sock.toNat).state
      (query.state^[n + 1] ((onBus (ServerDrv.stopClient sock)).state w))
  data : (((WiFiClient.stopWith query sock).state w).buffers sock.toNat).data = nullPtr
  freed : ((WiFiClient.stopWith query sock).state w).heap =
    (query.state^[n + 1] ((onBus (ServerDrv.stopClient sock)).state w)).heap.free
      ((query.state^[n + 1] ((onBus (ServerDrv.stopClient sock)).state w)).buffers
        sock.toNat).data

/-- Closing releases the buffer, if there is one. -/
theorem close_released (s : ℕ) (w : World) :
    (((WiFiSocketBuffer.close s).state w).buffers s).data = nullPtr ∧
      ((WiFiSocketBuffer.close s).state w).heap = w.heap.free (w.buffers s).data := by
  by_cases hnull : (w.buffers s).data = nullPtr
  · rw [WiFiSocketBuffer.state_close_of_null hnull]
    exact ⟨hnull, by rw [hnull, Heap.free, if_pos rfl]⟩
  · rw [WiFiSocketBuffer.state_close_of_ne hnull]
    exact ⟨by dsimp only; rw [Function.update_self, Entry.empty], rfl⟩

theorem exists_stopped (query : Prog World ℤ) {sock : UInt8} (hsock : sock ≠ noSocketAvail)
    (w : World) : ∃ n, Stopped query sock w n := by
  obtain ⟨v, hv⟩ : ∃ v, v = (onBus (ServerDrv.stopClient sock)).state w := ⟨_, rfl⟩
  obtain ⟨n, hn⟩ := exists_settles (· = (tcpClosed.toNat : ℤ)) (query.answers v) 49
  have hpoll : Settles (fun s => (s == (tcpClosed.toNat : ℤ)) = true) (query.answers v) 49 n :=
    hn.congr fun i _ => beq_iff_eq.symm
  have hstate : (WiFiClient.stopWith query sock).state w =
      (WiFiSocketBuffer.close sock.toNat).state (query.state^[n + 1] v) := by
    rw [WiFiClient.stopWith, if_neg hsock, Prog.state_bind, Prog.state_bind,
      WiFiClient.state_awaitClosedWith, ← hv, Prog.state_poll hpoll]
  obtain ⟨hdata, hheap⟩ := close_released sock.toNat (query.state^[n + 1] v)
  exact ⟨n, hv ▸ hn, hv ▸ hstate, by rw [hstate, hdata], by rw [hstate, hheap, hv]⟩

/-- A status that settles `WiFi_begin_common` settles `WiFi_beginAP_common`. -/
theorem pendingAP_le (status : UInt8) (h : ¬ WiFi.pending status = true) :
    ¬ WiFi.pendingAP status = true := by
  simp only [WiFi.pending, WiFi.pendingAP, Bool.or_eq_true, not_or] at h ⊢
  exact ⟨h.1.1, h.2⟩

theorem pendingAP_iff {status : UInt8} (h : status ≠ wlNoSsidAvail) :
    WiFi.pendingAP status = true ↔ WiFi.pending status = true := by
  simp [WiFi.pending, WiFi.pendingAP, h]

/-- **The polling loops** are bounded and return the first decisive answer, whatever the query
answers. -/
theorem polls_bounded {σ : Type} (query : Prog σ ℤ) (s : σ) (closing : Prog World ℤ) (sock : UInt8)
    (hsock : sock.toNat < wifiMaxSockNum) (w : World) :
    (∃ n m, Settled WiFi.pending query (WiFi.beginCommonWith query) s n ∧
      Settled WiFi.pendingAP query (WiFi.beginAPCommonWith query) s m ∧ m ≤ n ∧
      ((∀ i < wlMaxAttemptConnection, toByte (query.answers s i) ≠ wlNoSsidAvail) →
        m = n ∧ (WiFi.beginAPCommonWith query).run s = (WiFi.beginCommonWith query).run s)) ∧
      ∃ n, Stopped closing sock w n := by
  constructor
  · obtain ⟨n, hn⟩ : ∃ n, Settled WiFi.pending query (WiFi.beginCommonWith query) s n :=
      exists_settled WiFi.pending query s
    obtain ⟨m, hm⟩ : ∃ m, Settled WiFi.pendingAP query (WiFi.beginAPCommonWith query) s m :=
      exists_settled WiFi.pendingAP query s
    refine ⟨n, m, hn, hm, ?_, ?_⟩
    · exact hn.settles.mono hm.settles fun _ => pendingAP_le _
    · intro hnone
      have hsame : m = n := by
        refine (hm.settles.congr fun i hi => ?_).unique hn.settles
        exact not_congr (pendingAP_iff (hnone i (Nat.lt_succ_of_le hi)))
      have hval : (WiFi.beginAPCommonWith query).val s = (WiFi.beginCommonWith query).val s := by
        rw [hm.returned, hn.returned, hsame]
      have hstate : (WiFi.beginAPCommonWith query).state s =
          (WiFi.beginCommonWith query).state s := by
        rw [hm.state, hn.state, hsame]
      exact ⟨hsame, Prod.ext hval hstate⟩
  · refine exists_stopped closing ?_ w
    intro h
    rw [h] at hsock
    exact absurd hsock (by decide)

/-- Statuses that count upwards, and socket three in front of a module that never answers. -/
theorem polls_bounded_counting :
    let counting : Prog ℕ ℤ := ⟨fun n => (n, n + 1)⟩
    (∃ n m, Settled WiFi.pending counting (WiFi.beginCommonWith counting) 0 n ∧
      Settled WiFi.pendingAP counting (WiFi.beginAPCommonWith counting) 0 m ∧ m ≤ n ∧
      ((∀ i < wlMaxAttemptConnection, toByte (counting.answers 0 i) ≠ wlNoSsidAvail) →
        m = n ∧
          (WiFi.beginAPCommonWith counting).run 0 = (WiFi.beginCommonWith counting).run 0)) ∧
      ∃ n, Stopped (WiFiClient.status 3) 3 World.boot n :=
  polls_bounded _ 0 (WiFiClient.status 3) 3 (by decide) World.boot

end WiFiNINA
