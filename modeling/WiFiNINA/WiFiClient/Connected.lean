import WiFiNINA.DriverCalls
import WiFiNINA.SpiDrv.Single
import WiFiNINA.WiFiClient.Clients

/-!
# What a check of the connection finds

`WiFiClient_connected` first asks for data, and for the state of the connection only if
there is none.  Its answer is determined by the replies: it is negative exactly if the fetch
brings an empty payload and the reply with the state is accepted.  A fetch whose reply is
rejected counts as data, and a state whose reply is rejected as that of a connection.

Nothing is assumed about allocation here.
-/

namespace WiFiNINA

open LengthCode SpiDrv ServerDrv World WiFiSocketBuffer

/-- Exchange number `k` from `b` on brings an empty payload for a socket buffer. -/
def Vacant (b : Bus) (k : ℕ) : Prop :=
  Brings getDatabufTcpCmd (replyAt wifiSocketBufferSize b k) ∧
    firstLength UInt16 (replyAt wifiSocketBufferSize b k) = 0

/-- Exchange number `k` from `b` on brings an answer to `GET_CLIENT_STATE_TCP_CMD` that is
accepted. -/
def StateAccepted (b : Bus) (k : ℕ) : Prop :=
  (parseReply getClientStateTcpCmd 1 [(1 : UInt8)] (replyAt 16 b k)).ret = 1

instance (b : Bus) (k : ℕ) : Decidable (Vacant b k) := inferInstanceAs (Decidable (_ ∧ _))

instance (b : Bus) (k : ℕ) : Decidable (StateAccepted b k) :=
  inferInstanceAs (Decidable (_ = _))

/-- The check that consists of exchanges `2 * k` and `2 * k + 1` finds no connection. -/
def Fails (b : Bus) (k : ℕ) : Prop := Vacant b (2 * k) ∧ StateAccepted b (2 * k + 1)

instance (b : Bus) (k : ℕ) : Decidable (Fails b k) := inferInstanceAs (Decidable (_ ∧ _))

section Replies
variable {b b' : Bus} {n : ℕ}

/-- The replies after `n` exchanges. -/
theorem replyAt_of_slave (h : b'.slave = fun k => b.slave (k + 2 * n)) (maxSize : UInt16)
    (k : ℕ) : replyAt maxSize b' k = replyAt maxSize b (k + n) := by
  have hk : 2 * k + 1 + 2 * n = 2 * (k + n) + 1 := by omega
  simp only [replyAt, h, hk]

theorem vacant_of_slave (h : b'.slave = fun k => b.slave (k + 2 * n)) (k : ℕ) :
    Vacant b' k ↔ Vacant b (k + n) := by
  rw [Vacant, Vacant, replyAt_of_slave h]

theorem stateAccepted_of_slave (h : b'.slave = fun k => b.slave (k + 2 * n)) (k : ℕ) :
    StateAccepted b' k ↔ StateAccepted b (k + n) := by
  rw [StateAccepted, StateAccepted, replyAt_of_slave h]

theorem fails_of_slave (h : b'.slave = fun k => b.slave (k + 2 * (2 * n))) (k : ℕ) :
    Fails b' k ↔ Fails b (k + n) := by
  have hk : 2 * k + 1 + 2 * n = 2 * (k + n) + 1 := by omega
  rw [Fails, Fails, vacant_of_slave h, stateAccepted_of_slave h, hk, Nat.mul_add]

theorem toNat_clip_size (len : UInt16) :
    toNat (clip wifiSocketBufferSize len) = min (toNat len) 254 := by
  have hsize : toNat wifiSocketBufferSize = 255 := by decide
  rw [toNat_clip len (by decide), hsize]

theorem clip_size_eq_zero (len : UInt16) : clip wifiSocketBufferSize len = 0 ↔ len = 0 := by
  have hmin := toNat_clip_size len
  rw [toNat_uint16, toNat_uint16] at hmin
  rw [← UInt16.toNat_inj, ← UInt16.toNat_inj, hmin, UInt16.toNat_zero]
  omega

/-- A fetch is taken for empty only if it brings an empty payload. -/
theorem fetchedLength_eq_zero (b : Bus) : fetchedLength (fetch b) = 0 ↔ Vacant b 0 := by
  have hfetch : fetch b = if Brings getDatabufTcpCmd (reply wifiSocketBufferSize b) then
      [firstParam wifiSocketBufferSize (reply wifiSocketBufferSize b)] else [] :=
    payloads_single getDatabufTcpCmd wifiSocketBufferSize (reply wifiSocketBufferSize b)
  rw [hfetch, Vacant]
  split
  · next h =>
      rw [fetchedLength, length_firstParam, toNat_uint16, and_iff_right h,
        ← clip_size_eq_zero, ← UInt16.toNat_inj, UInt16.toNat_zero]
  · next h => simp [fetchedLength, h]

end Replies

/-- What refilling an empty buffer amounts to: a fetch to `p`. -/
structure Refills (s : ℕ) (p : Ptr Obj) (w w' : World) : Prop where
  apart : ∀ var size, p.obj ≠ .auto var size
  bus : w'.bus = (getDataBuf (UInt8.ofNat s) p sizeVar).state (fetching w)
  data : (w'.buffers s).data = p
  head : ¬ Vacant w.bus 0 → (w'.buffers s).head = p
  length : (w'.buffers s).length = if Vacant w.bus 0 then 0 else 255
  ticks : w'.ticks = w.ticks
  tickRate : w'.tickRate = w.tickRate

namespace WiFiSocketBuffer

variable {w : World} {s : ℕ}

/-- An allocation changes the heap only. -/
theorem state_malloc_cases (size : ℕ) (w : World) :
    ∃ heap, (malloc size).state w = { w with heap := heap } := by
  rw [malloc, Prog.state_mk]
  split <;> exact ⟨_, rfl⟩

/-- Where a fetch for an empty buffer goes, whether or not there is memory for a block. -/
def place (w : World) (s : ℕ) : Ptr Obj :=
  if (w.buffers s).data = nullPtr then
    if w.heap.mallocs 0 then ⟨.heap w.heap.next 255, 0⟩ else nullPtr
  else (w.buffers s).data

theorem obj_place (h : (w.buffers s).Apart) (var : Var) (size : ℕ) :
    (place w s).obj ≠ .auto var size := by
  rw [place]
  split
  · split <;> exact Obj.noConfusion
  · exact h var size

theorem state_allocate_cases (hzero : (w.buffers s).length = 0) :
    ∃ head heap indexed, (allocate s).state w =
      { w with
        heap := heap
        buffers := Function.update w.buffers s ⟨place w s, head, 0⟩
        indexed := indexed } := by
  by_cases hnull : (w.buffers s).data = nullPtr
  · obtain ⟨v, hv⟩ : ∃ v : World, v = { w with indexed := s :: w.indexed } := ⟨_, rfl⟩
    obtain ⟨heap, hheap⟩ := state_malloc_cases wifiSocketBufferSize.toNat v
    have hplace : (malloc wifiSocketBufferSize.toNat).val v = place w s := by
      rw [place, if_pos hnull, malloc, Prog.val_mk, hv]
      split <;> rfl
    refine ⟨place w s, heap, s :: s :: w.indexed, ?_⟩
    simp only [allocate, Prog.state_bind, val_entry, state_entry, hnull, if_true, ← hv, hheap,
      state_setEntry, hplace]
    rw [hv]
  · refine ⟨(w.buffers s).head, w.heap, s :: w.indexed, ?_⟩
    have hsame : (⟨(w.buffers s).data, (w.buffers s).head, 0⟩ : Entry) = w.buffers s := by
      rw [← hzero]
    simp [allocate, hnull, place, hsame]

/-- **Refilling an empty buffer** is one fetch, whether or not there is memory for it. -/
theorem refills_place (hzero : (w.buffers s).length = 0) (h : (w.buffers s).Apart) :
    Refills s (place w s) w (refillState w s) := by
  obtain ⟨head, heap, indexed, hstate⟩ :=
    state_allocate_cases (w := { w with indexed := s :: w.indexed }) hzero
  have hp := obj_place h
  have hplace : place { w with indexed := s :: w.indexed } s = place w s := rfl
  rw [hplace] at hstate
  generalize place w s = p at hstate hp ⊢
  have hval := val_getDataBuf (UInt8.ofNat s) p (sized_fetching w)
  -- the local keeps its value through the fetch
  have hsize : ((getDataBuf (UInt8.ofNat s) p sizeVar).state (fetching w)).mem.loadList
      sizeVar 2 = le16 wifiSocketBufferSize := by
    rw [mem_getDataBuf _ _ (sized_fetching w),
      loadList_storeParams_of_obj_ne _ _ _ (by simpa [sizeVar] using (hp .size 2).symm)]
    exact (sized_fetching w).loadList_sock _
  have h255 : ofLe (le16 wifiSocketBufferSize) = 255 := by decide
  rw [fetch_fetching] at hval
  by_cases hvacant : Vacant w.bus 0
  · have hlen := (fetchedLength_eq_zero w.bus).mpr hvacant
    have hrefill : refillState w s = { w with
        bus := (getDataBuf (UInt8.ofNat s) p sizeVar).state (fetching w)
        heap := heap
        buffers := Function.update w.buffers s ⟨p, head, 0⟩
        indexed := s :: indexed } := by
      simp only [refillState, refill, Prog.state_bind, val_entry, state_entry, hzero, if_true,
        hstate, state_onBus, val_onBus, val_auto_size, state_auto_size, Function.update_self]
      simp [hval, hlen]
    rw [hrefill]
    exact ⟨hp, by dsimp only, by simp, absurd hvacant, by simp [hvacant], by dsimp only,
      by dsimp only⟩
  · have hlen := mt (fetchedLength_eq_zero w.bus).mp hvacant
    have hrefill : refillState w s = { w with
        bus := (getDataBuf (UInt8.ofNat s) p sizeVar).state (fetching w)
        heap := heap
        buffers := Function.update w.buffers s ⟨p, p, 255⟩
        indexed := s :: s :: indexed } := by
      simp only [refillState, refill, Prog.state_bind, val_entry, state_entry, hzero, if_true,
        hstate, state_onBus, val_onBus, val_auto_size, state_auto_size, Function.update_self]
      simp [hval, hlen, hsize, h255]
    rw [hrefill]
    exact ⟨hp, by dsimp only, by simp, fun _ => by simp, by simp [hvacant], by dsimp only,
      by dsimp only⟩

end WiFiSocketBuffer

namespace ServerDrv

/-- An exchange takes two transfers, also where more parameters are listed than announced. -/
theorem slave_exchange_of_le {L : Type} [LengthCode L UInt8] {cmd numParam maxNumParams : UInt8}
    {inParams : List (Param L)} {maxSize : UInt16} {outParams : List TParam}
    (hn : numParam.toNat ≤ inParams.length) (hmax : maxNumParams.toNat ≤ outParams.length)
    (b : Bus) :
    ((exchange cmd numParam inParams maxSize outParams maxNumParams).state b).slave =
      fun k => b.slave (k + 2) :=
  (run_transfers hn hmax (quiet_uninit [] .paramsRead 1) cmd cmd maxSize
    (fun x => x.headD 0) b).2.1

theorem slave_requestByte {cmd numParam : UInt8} {inParams : List TParam}
    (hn : numParam.toNat ≤ inParams.length) (b : Bus) :
    ((requestByte cmd numParam inParams).state b).slave = fun k => b.slave (k + 2) := by
  simp only [requestByte, Prog.state_bind, Prog.state_pure, Bus.state_loadList]
  rw [slave_exchange_of_le hn le_rfl]
  rfl

theorem slave_getClientState (sock : UInt8) (b : Bus) :
    ((getClientState sock).state b).slave = fun k => b.slave (k + 2) := by
  rw [getClientState, Prog.state_bind, slave_requestByte le_rfl]
  rfl

theorem slave_fetch (sock : UInt8) (p : Ptr Obj) (w : World) :
    ((getDataBuf sock p sizeVar).state (fetching w)).slave = fun k => w.bus.slave (k + 2) := by
  rw [state_getDataBuf _ _ (sized_fetching w), slave_exchange _ _ _ _ _ _ _ rfl le_rfl]
  rfl

theorem ret_ne_one (cmd : UInt8) (s : List UInt8) :
    (parseReply cmd 1 [(1 : UInt8)] s).ret = 0 ↔ ¬ (parseReply cmd 1 [(1 : UInt8)] s).ret = 1 := by
  rw [(parseReply_single cmd (1 : UInt8) s).2]
  split
  · rw [truth_eq_zero, truth_eq_one, Bool.not_eq_true]
  · simp

/-- The state of a connection reads as `CLOSED` if there is an answer. -/
theorem val_getClientState (sock : UInt8) (b : Bus) :
    (getClientState sock).val b = if StateAccepted b 0 then 0 else wlFailure := by
  simp only [getClientState, Prog.val_bind, Bus.val_auto, Bus.state_auto]
  rw [val_requestByte rfl, answered_mem]
  have hret := ret_ne_one getClientStateTcpCmd (replyAt 16 b 0)
  by_cases h : StateAccepted b 0
  · rw [if_pos h, if_neg]
    exact fun hzero => hret.mp hzero h
  · rw [if_neg h, if_pos]
    exact hret.mpr h

end ServerDrv

namespace WiFiClient

variable {w : World} {sock : UInt8}

/-- Data in the buffer is enough. -/
theorem connected_of_ne (hsock : sock ≠ noSocketAvail)
    (hne : (w.buffers sock.toNat).length ≠ 0) :
    (connected sock).val w = 1 ∧
      ∃ indexed, (connected sock).state w = { w with indexed := indexed } := by
  have hrefill := state_refill_of_ne hne
  refine ⟨?_, sock.toNat :: sock.toNat :: w.indexed, ?_⟩
  · simp [connected, hsock, available_eq hsock, val_available, hrefill, hne]
  · simp [connected, hsock, available_eq hsock, val_available, state_available, hrefill, hne]

/-- What a check with an empty buffer leaves behind. -/
structure Checks (s : ℕ) (w w' : World) : Prop where
  apart : (w'.buffers s).Apart
  length : (w'.buffers s).length = if Vacant w.bus 0 then 0 else 255
  slave : Vacant w.bus 0 → w'.bus.slave = fun k => w.bus.slave (k + 2 * 2)
  ticks : w'.ticks = w.ticks
  tickRate : w'.tickRate = w.tickRate

/-- Closing empties a buffer that is empty or has a block. -/
theorem length_close {s : ℕ} (hzero : (w.buffers s).length = 0) :
    (((close s).state w).buffers s).length = 0 := by
  by_cases hnull : (w.buffers s).data = nullPtr
  · rw [state_close_of_null hnull]
    exact hzero
  · rw [state_close_of_ne hnull]
    simp [Entry.empty]

theorem close_frame (s : ℕ) (w : World) :
    ((close s).state w).bus = w.bus ∧ ((close s).state w).ticks = w.ticks ∧
      ((close s).state w).tickRate = w.tickRate := by
  by_cases hnull : (w.buffers s).data = nullPtr
  · rw [state_close_of_null hnull]
    exact ⟨rfl, rfl, rfl⟩
  · rw [state_close_of_ne hnull]
    exact ⟨rfl, rfl, rfl⟩

/-- The state of a check that has found no data and asked for the state of the connection. -/
def asked (sock : UInt8) (w : World) : World :=
  { refillState w sock.toNat with
    bus := (getClientState sock).state (refillState w sock.toNat).bus
    indexed := sock.toNat :: (refillState w sock.toNat).indexed }

/-- A check that finds data does nothing else. -/
theorem connected_of_data (hsock : sock ≠ noSocketAvail)
    (hne : ((refillState w sock.toNat).buffers sock.toNat).length ≠ 0) :
    (connected sock).val w = 1 ∧
      (connected sock).state w = { refillState w sock.toNat with
        indexed := sock.toNat :: (refillState w sock.toNat).indexed } := by
  simp [connected, hsock, available_eq hsock, val_available, state_available, hne]

/-- A check that finds no data asks for the state of the connection, and closes the buffer if
that is down. -/
theorem connected_of_no_data (hsock : sock ≠ noSocketAvail)
    (hzero : ((refillState w sock.toNat).buffers sock.toNat).length = 0) :
    (connected sock).val w =
        (if down (toByte ((getClientState sock).val (refillState w sock.toNat).bus)) then 0
        else 1) ∧
      (connected sock).state w =
        if down (toByte ((getClientState sock).val (refillState w sock.toNat).bus)) then
          (close sock.toNat).state (asked sock w)
        else asked sock w := by
  by_cases hdown : down (toByte ((getClientState sock).val (refillState w sock.toNat).bus))
  all_goals
    simp only [connected, if_neg hsock, Prog.val_bind, Prog.state_bind, available_eq hsock,
      val_available, state_available, ne_eq, hzero, not_true_eq_false, if_false, status, val_onBus,
      state_onBus, hdown, Bool.false_eq_true, if_true, Prog.val_pure, Prog.state_pure]
    exact ⟨trivial, rfl⟩

/-- **A check with an empty buffer** is negative exactly if both replies say so. -/
theorem checks_of_zero (hsock : sock ≠ noSocketAvail)
    (hzero : (w.buffers sock.toNat).length = 0) (h : (w.buffers sock.toNat).Apart) :
    (connected sock).val w = (if Fails w.bus 0 then 0 else 1) ∧
      Checks sock.toNat w ((connected sock).state w) := by
  have hrefill := refills_place hzero h
  have happart : ((refillState w sock.toNat).buffers sock.toNat).Apart := by
    intro var size
    rw [hrefill.data]
    exact hrefill.apart var size
  have hslave : (refillState w sock.toNat).bus.slave = fun k => w.bus.slave (k + 2 * 1) := by
    rw [hrefill.bus, slave_fetch]
  by_cases hvacant : Vacant w.bus 0
  · have hlen : ((refillState w sock.toNat).buffers sock.toNat).length = 0 := by
      rw [hrefill.length, if_pos hvacant]
    have hstate := stateAccepted_of_slave hslave 0
    have hfour : (asked sock w).bus.slave = fun k => w.bus.slave (k + 2 * 2) := by
      rw [asked, slave_getClientState, hslave]
    obtain ⟨hval, hleft⟩ := connected_of_no_data hsock hlen
    rw [hval, hleft, val_getClientState]
    by_cases haccepted : StateAccepted w.bus 1
    · have hfails : Fails w.bus 0 := ⟨hvacant, haccepted⟩
      have hdown : down (toByte 0) = true := by decide
      rw [if_pos (hstate.mpr haccepted), if_pos hdown, if_pos hdown, if_pos hfails]
      obtain ⟨hbus, hticks, htickRate⟩ := close_frame sock.toNat (asked sock w)
      refine ⟨rfl, (touches_close sock.toNat _).apart happart, ?_, fun _ => ?_,
        hticks.trans hrefill.ticks, htickRate.trans hrefill.tickRate⟩
      · rw [if_pos hvacant]
        exact length_close hlen
      · rw [hbus]
        exact hfour
    · have hfails : ¬ Fails w.bus 0 := fun hfails => haccepted hfails.2
      have hup : ¬ down (toByte wlFailure) = true := by decide
      rw [if_neg (mt hstate.mp haccepted), if_neg hup, if_neg hup, if_neg hfails]
      exact ⟨rfl, happart, hrefill.length, fun _ => hfour, hrefill.ticks, hrefill.tickRate⟩
  · have hlen : ((refillState w sock.toNat).buffers sock.toNat).length ≠ 0 := by
      rw [hrefill.length, if_neg hvacant]
      decide
    have hfails : ¬ Fails w.bus 0 := fun hfails => hvacant hfails.1
    obtain ⟨hval, hleft⟩ := connected_of_data hsock hlen
    rw [hval, hleft, if_neg hfails]
    exact ⟨rfl, happart, hrefill.length, fun hv => absurd hv hvacant, hrefill.ticks,
      hrefill.tickRate⟩

end WiFiClient

end WiFiNINA
