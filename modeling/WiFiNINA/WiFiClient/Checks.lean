import WiFiNINA.WiFiClient.Connected
import WiFiNINA.WiFiSocketBuffer.Queue

/-!
# Checks between reads

`WiFiClient_connected` is a question, but it fetches, allocates and frees.  It frees only the
buffer that its own fetch has left empty, so that checks may stand anywhere between the calls
that read.

The blocks are followed through reads of any length.  What is in them is followed while the
lengths are those that an `int` holds.
-/

namespace WiFiNINA

open LengthCode SpiDrv ServerDrv World WiFiSocketBuffer

/-- A call on the socket buffers, or a check of a connection. -/
inductive Request
  | call (c : Call)
  | connected (sock : UInt8)

namespace Request

def run : Request → Prog World ℤ
  | call c => c.run
  | connected sock => WiFiClient.connected sock

/-- The socket must exist, and an application does not read into the blocks of the library. -/
def Allowed : Request → Prop
  | call (.available socket) | call (.peek socket) | call (.close socket) =>
      socket < wifiMaxSockNum
  | call (.read socket data _) => socket < wifiMaxSockNum ∧ ¬ data.obj.IsHeap
  | call (.readChar sock) | connected sock => sock.toNat < wifiMaxSockNum
  | call .deinit => True

/-- A length to read is one that an `int` holds. -/
def Sized : Request → Prop
  | call (.read _ _ length) => length.toNat < 2 ^ 31
  | call (.available _) | call (.peek _) | call (.readChar _) | call (.close _) | call .deinit
  | connected _ => True

def IsCheck : Request → Prop
  | call _ => False
  | connected _ => True

/-- The socket of a request that begins with a refill. -/
def reader : Request → Option ℕ
  | call c => c.reader
  | connected sock => some sock.toNat

/-- A request that does not give up the buffer of `s` by itself. -/
def Keeps (s : ℕ) : Request → Prop
  | call c => c.Keeps s
  | connected _ => True

/-- What a request fetches for socket `s`. -/
def brought (s : ℕ) (w : World) (r : Request) : List UInt8 :=
  if r.reader = some s ∧ (w.buffers s).length = 0 then offered w s else []

/-- The bytes of socket `s` that a request hands to its caller. -/
def returned (s : ℕ) (w : World) : Request → List UInt8
  | call c => c.returned s w
  | connected _ => []

end Request

/-- A request, and what became of the driver before it. -/
structure Visit where
  request : Request
  bus : Bus

/-- The requests of an application. -/
def requests : System World Visit where
  enabled w v := v.request.Allowed ∧ SameHeap w.bus v.bus
  next w v := v.request.run.state { w with bus := v.bus }

/-- What the requests of a run fetch for socket `s`. -/
def broughtFor (s : ℕ) (w : World) (vs : List Visit) : List UInt8 :=
  requests.collect (fun w v => v.request.brought s { w with bus := v.bus }) w vs

/-- What the requests of a run return from socket `s`. -/
def returnedFrom (s : ℕ) (w : World) (vs : List Visit) : List UInt8 :=
  requests.collect (fun w v => v.request.returned s { w with bus := v.bus }) w vs

section Blocks
variable {w : World} {s : ℕ} {sock : UInt8} {r : Request}

theorem Held.readChar (h : Held w) (hs : sock.toNat < wifiMaxSockNum) :
    Held ((WiFiClient.readChar sock).state w) := by
  have havailable := h.available hs
  rw [WiFiClient.readChar, WiFiClient.available_eq (ne_noSocketAvail hs), Prog.state_bind,
    Prog.state_ite]
  split
  · exact havailable
  · exact (havailable.read hs _ _).congr rfl rfl

theorem Held.asked (h : Held w) (hs : sock.toNat < wifiMaxSockNum) :
    Held (WiFiClient.asked sock w) :=
  (h.refill hs).congr rfl rfl

/-- A check keeps what a change of the driver and closing keep, from its refill on. -/
theorem connected_of_refill {I : World → Prop} (hsock : sock ≠ noSocketAvail)
    (hcongr : ∀ {w w' : World}, I w → w'.heap = w.heap → w'.buffers = w.buffers → I w')
    (hclose : ∀ w, I w → I ((close sock.toNat).state w)) (h : I (refillState w sock.toNat)) :
    I ((WiFiClient.connected sock).state w) := by
  by_cases hzero : ((refillState w sock.toNat).buffers sock.toNat).length = 0
  · rw [(WiFiClient.connected_of_no_data hsock hzero).2]
    have hasked : I (WiFiClient.asked sock w) := hcongr h rfl rfl
    split
    · exact hclose _ hasked
    · exact hasked
  · rw [(WiFiClient.connected_of_data hsock hzero).2]
    exact hcongr h rfl rfl

theorem Held.connected (h : Held w) (hs : sock.toNat < wifiMaxSockNum) :
    Held ((WiFiClient.connected sock).state w) :=
  connected_of_refill (I := Held) (ne_noSocketAvail hs) Held.congr (fun _ hw => hw.close hs)
    (h.refill hs)

theorem Ready.connected (h : Ready w) (hs : sock.toNat < wifiMaxSockNum) :
    Ready ((WiFiClient.connected sock).state w) :=
  connected_of_refill (I := Ready) (ne_noSocketAvail hs) Ready.congr (fun _ hw => hw.close hs)
    (h.refill hs)

/-- **Every request** keeps the ownership of the blocks. -/
theorem Request.held (h : Held w) (hr : r.Allowed) : Held (r.run.state w) := by
  cases r with
  | connected sock => exact h.connected hr
  | call c =>
      rw [Request.run]
      cases c with
      | available socket => exact h.available hr
      | peek socket =>
          obtain ⟨indexed, hstate⟩ := state_peek w socket
          rw [Call.run, hstate]
          exact (h.refill hr).congr rfl rfl
      | read socket data length => exact h.read hr.1 data length
      | readChar sock => exact h.readChar hr
      | close socket =>
          rw [Call.state_close]
          exact h.close hr
      | deinit =>
          rw [Call.state_deinit]
          exact h.deinit.1

theorem held_next (w : World) (v : Visit) (h : Held w) (hv : requests.enabled w v) :
    Held (requests.next w v) :=
  Request.held (h.congr rfl rfl) hv.1

theorem held_exec {vs : List Visit} (h : Held w) (hrun : requests.Run w vs) :
    Held (requests.exec w vs) :=
  System.invariant held_next h hrun

end Blocks

namespace WiFiClient

/-- A check frees the block that its refill has left to the socket. -/
def Releases (sock : UInt8) (w : World) : Prop :=
  ((refillState w sock.toNat).buffers sock.toNat).data.obj ∈
      (refillState w sock.toNat).heap.live ∧
    ((refillState w sock.toNat).buffers sock.toNat).data.obj ∉
      ((connected sock).state w).heap.live

/-- What a check keeps. -/
structure Careful (sock : UInt8) (w : World) : Prop where
  /-- Data in the buffer is enough: there is no exchange, and nothing changes. -/
  buffered : (w.buffers sock.toNat).length ≠ 0 →
    (connected sock).val w = 1 ∧ ((connected sock).state w).bus = w.bus ∧
      ((connected sock).state w).buffers = w.buffers ∧
      ((connected sock).state w).heap = w.heap
  /-- What a fetch brings stays in the buffer, beginning with the payload. -/
  fetched : (w.buffers sock.toNat).length = 0 → offered w sock.toNat ≠ [] →
    (connected sock).val w = 1 ∧
      ((connected sock).state w).buffers sock.toNat =
        ⟨block w sock.toNat, block w sock.toNat, 255⟩ ∧
      queue ((connected sock).state w) sock.toNat = offered w sock.toNat ∧
      ∀ x ∈ fetch w.bus, x <+: queue ((connected sock).state w) sock.toNat
  /-- The buffer is released only if it is empty after the fetch, -/
  released : Releases sock w → ((refillState w sock.toNat).buffers sock.toNat).length = 0
  /-- and exactly if the check is negative. -/
  negative : (connected sock).val w = 0 ↔ Releases sock w
  /-- The other sockets keep theirs. -/
  others : ∀ t < wifiMaxSockNum, t ≠ sock.toNat →
    ((connected sock).state w).buffers t = w.buffers t ∧
      queue ((connected sock).state w) t = queue w t

section Careful
variable {w : World} {s t : ℕ} {sock : UInt8}

/-- Asking for the state of a connection leaves the blocks alone. -/
theorem sameHeap_getClientState (sock : UInt8) (b : Bus) :
    SameHeap b ((getClientState sock).state b) := by
  intro p hp
  simp only [getClientState, requestByte, Prog.state_bind, Prog.state_pure, Bus.state_loadList,
    Bus.val_auto, Bus.state_auto]
  rw [mem_exchange_single _ _ _ _ _ _ _ rfl]
  split
  · rw [Memory.load_storeList_of_obj_ne _ (hp.ne_auto _ _),
      Memory.load_storeList_of_obj_ne _ (hp.ne_auto _ _),
      Memory.load_storeList_of_obj_ne _ (hp.ne_auto _ _)]
  · rw [Memory.load_storeList_of_obj_ne _ (hp.ne_auto _ _),
      Memory.load_storeList_of_obj_ne _ (hp.ne_auto _ _)]

theorem queue_asked (h : Held w) (hs : sock.toNat < wifiMaxSockNum) (ht : t < wifiMaxSockNum) :
    queue (asked sock w) t = queue (refillState w sock.toNat) t :=
  queue_of_sameHeap ((h.refill hs).placed t ht) (sameHeap_getClientState sock _)

/-- **A check** does to the queues what its refill does: a buffer that is closed is empty. -/
theorem queue_connected (h : Held w) (hs : sock.toNat < wifiMaxSockNum)
    (ht : t < wifiMaxSockNum) :
    queue ((connected sock).state w) t = queue (refillState w sock.toNat) t := by
  have hsock := ne_noSocketAvail hs
  by_cases hzero : ((refillState w sock.toNat).buffers sock.toNat).length = 0
  · rw [(connected_of_no_data hsock hzero).2]
    split
    · rw [queue_close (h.asked hs) hs]
      split
      · next hts => rw [hts, queue_of_length hzero]
      · exact queue_asked h hs ht
    · exact queue_asked h hs ht
  · rw [(connected_of_data hsock hzero).2]
    rfl

/-- What a fetch offers begins with its payload. -/
theorem prefix_offered {x : List UInt8} (hx : x ∈ fetch w.bus) : x <+: offered w s := by
  rcases fetch_cases w.bus with hfetch | ⟨y, hy, hfetch⟩
  · rw [hfetch] at hx
    exact absurd hx List.not_mem_nil
  · rw [hfetch, List.mem_singleton] at hx
    subst hx
    rw [offered, val_getDataBuf _ _ (sized_fetching w), fetch_fetching, hfetch, fetchedLength]
    split
    · next hlen =>
        have hnil : x = [] := List.length_eq_zero_iff.mp (Int.natCast_eq_zero.mp hlen)
        exact hnil ▸ List.nil_prefix
    · rw [mem_getDataBuf _ _ (sized_fetching w), fetch_fetching, hfetch, storeParams_cons,
        storeParams_nil, Memory.loadList_storeList_of_le, List.append_assoc]
      · exact List.prefix_append _ _
      · rw [List.length_append, List.length_singleton]
        exact hy

/-- The window that a fetch leaves. -/
theorem refilled_of_offered (hne : offered w s ≠ []) :
    refilled w s = ⟨block w s, block w s, 255⟩ := by
  rw [refilled, if_pos]
  intro hlen
  refine hne ?_
  rw [offered, val_getDataBuf _ _ (sized_fetching w), fetch_fetching, hlen]
  rfl

theorem releases_iff (h : Held w) (hs : sock.toNat < wifiMaxSockNum) :
    (connected sock).val w = 0 ↔ Releases sock w := by
  have hsock := ne_noSocketAvail hs
  have hrefill := h.refill hs
  obtain ⟨hdata, hblock⟩ := h.data_refill hs
  have hlive := hrefill.data_live hs (by rwa [hdata])
  by_cases hzero : ((refillState w sock.toNat).buffers sock.toNat).length = 0
  · obtain ⟨hval, hstate⟩ := connected_of_no_data hsock hzero
    rw [Releases, hval, hstate]
    split
    · -- the block is freed, and it was in the heap only once
      have hclosed := (h.asked hs).live_close hs (by rwa [asked, hdata])
      refine iff_of_true rfl ⟨hlive.2, ?_⟩
      rw [hclosed]
      exact fun hmem => (hrefill.owned.nodup.mem_erase_iff.mp hmem).1 rfl
    · exact iff_of_false (by decide) fun hreleases => hreleases.2 hlive.2
  · obtain ⟨hval, hstate⟩ := connected_of_data hsock hzero
    rw [Releases, hval, hstate]
    exact iff_of_false (by decide) fun hreleases => hreleases.2 hlive.2

/-- **A check is careful**, whatever is in the buffers and whatever the module answers. -/
theorem careful_connected (h : Held w) (hs : sock.toNat < wifiMaxSockNum) : Careful sock w where
  buffered hne := by
    obtain ⟨hval, indexed, hstate⟩ := connected_of_ne (ne_noSocketAvail hs) hne
    rw [hval, hstate]
    exact ⟨rfl, rfl, rfl, rfl⟩
  fetched hzero hne := by
    have hqueue := queue_connected h hs hs
    rw [queue_refill_held h hs, if_pos hzero] at hqueue
    have hentry : (refillState w sock.toNat).buffers sock.toNat =
        ⟨block w sock.toNat, block w sock.toNat, 255⟩ := by
      obtain ⟨hne', -⟩ | ⟨-, indexed, hstate⟩ := h.refill_cases hs
      · exact absurd hzero hne'
      · rw [hstate, ← refilled_of_offered hne]
        exact Function.update_self _ _ _
    have hlen : ((refillState w sock.toNat).buffers sock.toNat).length ≠ 0 := by
      rw [hentry]
      exact (by decide : (255 : ℤ) ≠ 0)
    obtain ⟨hval, hstate⟩ := connected_of_data (ne_noSocketAvail hs) hlen
    refine ⟨hval, ?_, hqueue, ?_⟩
    · rw [hstate]
      exact hentry
    · rw [hqueue]
      intro x hx
      exact prefix_offered hx
  released hreleases := by
    by_contra hne
    have hval := (releases_iff h hs).mpr hreleases
    rw [(connected_of_data (ne_noSocketAvail hs) hne).1] at hval
    exact one_ne_zero hval
  negative := releases_iff h hs
  others t ht hts := by
    refine ⟨(touches_connected sock w).buffers t hts, ?_⟩
    rw [queue_connected h hs ht, queue_refill_of_ne h hs ht hts]

end Careful

end WiFiClient

/-! ## Runs -/

section Runs
variable {w : World} {s : ℕ} {r : Request} {v : Visit} {vs : List Visit}

theorem Request.brought_of_reader {t : ℕ} (hr : r.reader = some t) :
    r.brought s w = if t = s ∧ (w.buffers s).length = 0 then offered w s else [] := by
  rw [Request.brought, hr]
  exact if_congr (and_congr_left' Option.some_inj) rfl rfl

/-- A check adds to a queue what it fetches. -/
theorem queue_check {sock : UInt8} (h : Held w) (hsock : sock.toNat < wifiMaxSockNum)
    (hs : s < wifiMaxSockNum) :
    queue w s ++ (Request.connected sock).brought s w =
      queue ((WiFiClient.connected sock).state w) s := by
  rw [Request.brought_of_reader rfl, WiFiClient.queue_connected h hsock hs]
  by_cases hsame : sock.toNat = s
  · subst hsame
    rw [queue_refill_held h hsock]
    by_cases hzero : (w.buffers sock.toNat).length = 0
    · rw [if_pos ⟨rfl, hzero⟩, if_pos hzero, queue_of_length hzero, List.nil_append]
    · rw [if_neg (not_and_of_not_right _ hzero), if_neg hzero, List.append_nil]
  · rw [if_neg (not_and_of_not_left _ hsame), List.append_nil,
      queue_refill_of_ne h hsock hs (Ne.symm hsame)]

/-- A call hands out the bytes that it takes from the queue. -/
theorem queue_call {c : Call} (h : Ready w) (hc : c.Valid) (hkeeps : c.Keeps s)
    (hs : s < wifiMaxSockNum) :
    queue w s ++ (Request.call c).brought s w = c.returned s w ++ queue (c.run.state w) s := by
  have hadded : (Request.call c).brought s w = Fifo.added s (queues w) (c.op w) := by
    cases hreader : c.reader with
    | some t =>
        rw [Request.brought_of_reader (r := .call c) hreader, Call.op_of_reader hreader, Fifo.added,
          queues_of_lt w hs]
        by_cases hts : t = s
        · rw [hts]
          exact if_congr (and_congr_right' (queue_eq_nil h.owned hs).symm) rfl rfl
        · rw [if_neg (not_and_of_not_left _ hts), if_neg (not_and_of_not_left _ hts)]
    | none =>
        rw [Request.brought, if_neg]
        · cases c with
          | close t | deinit => rfl
          | available | peek | read | readChar => simp [Call.reader] at hreader
        · exact fun hsome => absurd (hreader.symm.trans hsome.1) (by simp)
  have happly := Fifo.conservation_apply (Q := queues w) (Call.keeps_op hkeeps w)
  rw [← queues_run h hc, ← Call.returned_eq h hc hs, queues_of_lt w hs,
    queues_of_lt _ hs] at happly
  rw [hadded, happly]

/-- Whatever became of the driver before it. -/
theorem queue_before {b : Bus} (h : Held w) (hs : s < wifiMaxSockNum) (hb : SameHeap w.bus b) :
    queue { w with bus := b } s = queue w s :=
  queue_of_sameHeap (h.placed s hs) hb

theorem valid_of_sized {c : Call} (hc : (Request.call c).Allowed)
    (hsized : (Request.call c).Sized) : c.Valid := by
  cases c with
  | read socket data length => exact ⟨hc.1, hc.2, hsized⟩
  | available | peek | readChar | close | deinit => exact hc

/-- **Any number of checks** adds to a queue what they fetch. -/
theorem queue_checks (h : Held w) (hs : s < wifiMaxSockNum) (hrun : requests.Run w vs)
    (hchecks : ∀ v ∈ vs, v.request.IsCheck) :
    queue (requests.exec w vs) s = queue w s ++ broughtFor s w vs := by
  have hrestrict := System.run_restrict_of_forall hrun hchecks
  have hstep : ∀ w v, Held w → (requests.restrict fun _ v => v.request.IsCheck).enabled w v →
      queue w s ++ v.request.brought s { w with bus := v.bus } =
        v.request.returned s { w with bus := v.bus } ++ queue (requests.next w v) s := by
    rintro w ⟨_ | sock, b⟩ hw ⟨⟨hv, hb⟩, hcheck⟩
    · exact absurd hcheck id
    · have hbefore : Held { w with bus := b } := hw.congr rfl rfl
      have hstep := queue_check hbefore hv hs
      rwa [queue_before hw hs hb] at hstep
  have hnone : (requests.restrict fun _ v => v.request.IsCheck).collect
      (fun w v => v.request.returned s { w with bus := v.bus }) w vs = [] := by
    refine System.collect_eq_nil ?_ hrestrict
    rintro w ⟨_ | sock, b⟩ ⟨-, hcheck⟩
    · exact absurd hcheck id
    · rfl
  have hbalance := System.collect_balance
    (S := requests.restrict fun _ v => v.request.IsCheck)
    (fun w v hw hv => held_next w v hw hv.1) hstep h hrestrict
  rw [hnone, System.collect_restrict] at hbalance
  exact hbalance.symm

theorem ready_visit (w : World) (v : Visit) (h : Ready w)
    (hv : (requests.restrict fun _ v => v.request.Sized).enabled w v) :
    Ready (requests.next w v) := by
  obtain ⟨request, b⟩ := v
  obtain ⟨⟨hallowed, -⟩, hsized⟩ := hv
  have hbefore : Ready { w with bus := b } := h.congr rfl rfl
  cases request with
  | call c => exact Call.ready hbefore (valid_of_sized hallowed hsized)
  | connected sock => exact hbefore.connected hallowed

/-- **Checks between reads**: what was in a queue and what was fetched is what was returned and
what is left, in this order. -/
theorem queue_requests (h : Ready w) (hs : s < wifiMaxSockNum) (hrun : requests.Run w vs)
    (hsized : ∀ v ∈ vs, v.request.Sized ∧ v.request.Keeps s) :
    queue w s ++ broughtFor s w vs = returnedFrom s w vs ++ queue (requests.exec w vs) s := by
  have hrestrict := System.run_restrict_of_forall hrun hsized
  have hstep : ∀ w v, Ready w →
      (requests.restrict fun _ v => v.request.Sized ∧ v.request.Keeps s).enabled w v →
      queue w s ++ v.request.brought s { w with bus := v.bus } =
        v.request.returned s { w with bus := v.bus } ++ queue (requests.next w v) s := by
    rintro w ⟨c | sock, b⟩ hw ⟨⟨hv, hb⟩, hsized, hkeeps⟩
    · have hstep := queue_call (w := { w with bus := b }) (hw.congr rfl rfl)
        (valid_of_sized hv hsized) hkeeps hs
      rwa [queue_before hw.held hs hb] at hstep
    · have hbefore : Held { w with bus := b } := hw.held.congr rfl rfl
      have hstep := queue_check hbefore hv hs
      rwa [queue_before hw.held hs hb] at hstep
  have hbalance := System.collect_balance
    (S := requests.restrict fun _ v => v.request.Sized ∧ v.request.Keeps s)
    (fun w v hw hv => ready_visit w v hw ⟨hv.1, hv.2.1⟩) hstep h hrestrict
  rwa [System.collect_restrict, System.collect_restrict] at hbalance

end Runs

/-- **Checking a connection never drops data.**  After every run, whatever was read, a check
keeps what is in the buffer and what its own fetch brings, and releases only an empty buffer;
any number of checks adds to a queue what they fetch, and between reads it is all returned or
still there; every block has one owner, and none is left in the end. -/
theorem checks_keep_data (w : World) (vs : List Visit) (hlive : w.heap.live = [])
    (hfrees : w.heap.badFrees = []) (hm : Affluent w)
    (hrun : requests.Run (init.state w) vs) :
    (∀ (sock : UInt8) (b : Bus), sock.toNat < wifiMaxSockNum →
        SameHeap (requests.exec (init.state w) vs).bus b →
        WiFiClient.Careful sock { requests.exec (init.state w) vs with bus := b }) ∧
      (∀ s < wifiMaxSockNum, ∀ us, requests.Run (requests.exec (init.state w) vs) us →
        (∀ u ∈ us, u.request.IsCheck) →
        queue (requests.exec (requests.exec (init.state w) vs) us) s =
          queue (requests.exec (init.state w) vs) s ++
            broughtFor s (requests.exec (init.state w) vs) us) ∧
      ((∀ v ∈ vs, v.request.Sized) → ∀ s < wifiMaxSockNum, ∀ us,
        requests.Run (requests.exec (init.state w) vs) us →
        (∀ u ∈ us, u.request.Sized ∧ u.request.Keeps s) →
        queue (requests.exec (init.state w) vs) s ++
            broughtFor s (requests.exec (init.state w) vs) us =
          returnedFrom s (requests.exec (init.state w) vs) us ++
            queue (requests.exec (requests.exec (init.state w) vs) us) s) ∧
      Held (requests.exec (init.state w) vs) ∧
      (deinit.state (requests.exec (init.state w) vs)).heap.live = [] := by
  have hinit := ready_init hlive hfrees hm
  have h := held_exec hinit.held hrun
  refine ⟨?_, ?_, ?_, h, h.live_deinit⟩
  · intro sock b hs hb
    exact WiFiClient.careful_connected (h.congr rfl rfl) hs
  · intro s hs us hus hchecks
    exact queue_checks h hs hus hchecks
  · intro hsized s hs us hus hkeeps
    have hready := System.invariant ready_visit hinit
      (System.run_restrict_of_forall hrun hsized)
    exact queue_requests hready hs hus hkeeps

/-- Requests one after another, with nothing in between. -/
def visits (w : World) (rs : List Request) : List Visit :=
  requests.drive (fun w r => ⟨r, w.bus⟩) w rs

theorem run_visits {rs : List Request} (h : ∀ r ∈ rs, r.Allowed) (w : World) :
    requests.Run w (visits w rs) := by
  refine System.run_drive ?_ w
  intro r hr w
  exact ⟨h r hr, fun _ _ => rfl⟩

theorem forall_visits {P : Request → Prop} {rs : List Request} (h : ∀ r ∈ rs, P r) (w : World) :
    ∀ v ∈ visits w rs, P v.request :=
  System.forall_drive (P := fun v : Visit => P v.request) (fun r hr _ => h r hr) w

/-- A check that fetches, a read, closing, and another fetch. -/
def opening : List Request :=
  [.connected 3, .call (.readChar 3), .call (.close 3), .call (.available 3)]

/-- The state that they lead to. -/
def opened : World := requests.exec (init.state chatting) (visits (init.state chatting) opening)

/-- Checks between reads. -/
def between : List Request :=
  [.connected 3, .call (.readChar 3), .connected 3, .call (.read 3 ⟨.user 0, 0⟩ 255),
    .connected 3]

theorem allowed_opening : ∀ r ∈ opening, r.Allowed ∧ r.Sized := by
  simp [opening, Request.Allowed, Request.Sized, wifiMaxSockNum]

theorem allowed_between : ∀ r ∈ between, r.Allowed := by
  simp [between, Request.Allowed, Obj.IsHeap, wifiMaxSockNum]

theorem sized_between : ∀ r ∈ between, r.Sized ∧ r.Keeps 3 := by
  simp [between, Request.Sized, Request.Keeps, Call.Keeps]

/-- What the checks fetch between the reads is returned, or is left. -/
theorem checks_keep_data_between :
    queue opened 3 ++ broughtFor 3 opened (visits opened between) =
      returnedFrom 3 opened (visits opened between) ++
        queue (requests.exec opened (visits opened between)) 3 :=
  (checks_keep_data chatting (visits (init.state chatting) opening) rfl rfl (fun _ => rfl)
    (run_visits (fun r hr => (allowed_opening r hr).1) _)).2.2.1
    (forall_visits (fun r hr => (allowed_opening r hr).2) _) 3 (by decide) _
    (run_visits allowed_between _) (forall_visits sized_between _)

end WiFiNINA
