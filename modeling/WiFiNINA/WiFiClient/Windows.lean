import WiFiNINA.DriverCalls.Destinations
import WiFiNINA.WiFiClient.Connect
import WiFiNINA.WiFiSocketBuffer.Queue

/-!
# Where the bytes of a window come from

The window of a socket is a range of addresses in its block.  A fetch makes it the whole
block, and the other calls only shrink it or take it away.  So its bytes are those of the
last fetch, if that filled the block.
-/

namespace WiFiNINA

open LengthCode SpiDrv ServerDrv World WiFiSocketBuffer

/-- The addresses of the window of a socket. -/
def windowOf (w : World) (s : ℕ) : List (Ptr Obj) :=
  (w.buffers s).head.region (w.buffers s).length.toNat

theorem windowOf_of_zero {w : World} {s : ℕ} (h : (w.buffers s).length = 0) :
    windowOf w s = [] := by
  rw [windowOf, h]
  rfl

theorem windowOf_congr {w w' : World} {s : ℕ} (h : w'.buffers s = w.buffers s) :
    windowOf w' s = windowOf w s := by
  rw [windowOf, windowOf, h]

/-- Exchange number `k` from `b` on brings a payload that fills a block together with the
zero behind it. -/
def Fills (b : Bus) (k : ℕ) : Prop :=
  Brings getDatabufTcpCmd (replyAt wifiSocketBufferSize b k) ∧
    254 ≤ (firstLength UInt16 (replyAt wifiSocketBufferSize b k)).toNat

/-- Exchange number `k` from `b` on brings nothing for a socket buffer, or fills it. -/
def Whole (b : Bus) (k : ℕ) : Prop := Vacant b k ∨ Fills b k

theorem whole_of_slave {b b' : Bus} {n : ℕ} (h : b'.slave = fun k => b.slave (k + 2 * n))
    (k : ℕ) : Whole b' k ↔ Whole b (k + n) := by
  rw [Whole, Whole, vacant_of_slave h, Fills, Fills, replyAt_of_slave h]

/-- Since the memory was `m`, everything in the window of `s` was stored. -/
def StoredSince (s : ℕ) (m : Memory Obj UInt8) (w : World) : Prop :=
  ∃ new, w.bus.mem.log = new ++ m.log ∧ ∀ p ∈ windowOf w s, p ∈ new

section StoredSince
variable {s : ℕ} {m m' : Memory Obj UInt8} {w w' : World}

theorem StoredSince.mem_since (h : StoredSince s m w) {p : Ptr Obj} (hp : p ∈ windowOf w s) :
    p ∈ w.bus.mem.since m := by
  obtain ⟨new, hlog, hnew⟩ := h
  rw [Memory.since_of_log hlog]
  exact hnew p hp

/-- What was stored later was stored since. -/
theorem StoredSince.before {new : List (Ptr Obj)} (hlog : m'.log = new ++ m.log)
    (h : StoredSince s m' w) : StoredSince s m w := by
  obtain ⟨new', hlog', hnew'⟩ := h
  refine ⟨new' ++ new, by rw [hlog', hlog, List.append_assoc], ?_⟩
  intro p hp
  exact List.mem_append_left _ (hnew' p hp)

/-- Going on without a fetch. -/
theorem StoredSince.after {new : List (Ptr Obj)} (h : StoredSince s m w)
    (hlog : w'.bus.mem.log = new ++ w.bus.mem.log)
    (hwindow : ∀ p ∈ windowOf w' s, p ∈ windowOf w s) : StoredSince s m w' := by
  obtain ⟨new', hlog', hnew'⟩ := h
  refine ⟨new ++ new', by rw [hlog, hlog', List.append_assoc], ?_⟩
  intro p hp
  exact List.mem_append_right _ (hnew' p (hwindow p hp))

theorem storedSince_of_zero (h : (w.buffers s).length = 0) : StoredSince s w.bus.mem w := by
  refine ⟨[], rfl, ?_⟩
  rw [windowOf_of_zero h]
  intro p hp
  exact absurd hp List.not_mem_nil

/-- A payload that fills a block is stored in all of it. -/
theorem replyStores_of_fills {b : Bus} (h : Fills b 0) (p : Ptr Obj) :
    replyStores getDatabufTcpCmd wifiSocketBufferSize p (reply wifiSocketBufferSize b) =
      (p.region 255).reverse := by
  have hmin := toNat_clip_size (firstLength UInt16 (reply wifiSocketBufferSize b))
  have hlen : 254 ≤ toNat (firstLength UInt16 (reply wifiSocketBufferSize b)) := h.2
  rw [replyStores, if_pos h.1, hmin, Nat.min_eq_right hlen]

/-- Where a fetch stores. -/
theorem stores_fetch (sock : UInt8) (p : Ptr Obj) (w : World) :
    ∃ pre post, ((getDataBuf sock p sizeVar).state (fetching w)).mem.log =
      post ++ replyStores getDatabufTcpCmd wifiSocketBufferSize p
        (reply wifiSocketBufferSize w.bus) ++ pre ++ w.bus.mem.log := by
  have hstores := @DriverCall.stores_getDataBuf sock p sizeVar (sized_fetching w).obj (fetching w)
  obtain ⟨pre, post, hlog, -, -⟩ := hstores
  rw [(sized_fetching w).size, ofNat_ofLe_size, DriverCall.run, Prog.state_ignore] at hlog
  refine ⟨pre ++ (sizeVar.region 2).reverse, post, ?_⟩
  have hfetching : (fetching w).mem.log = (sizeVar.region 2).reverse ++ w.bus.mem.log :=
    Memory.log_storeList _ _ _
  rw [hfetching, ← List.append_assoc] at hlog
  rw [← List.append_assoc]
  exact hlog

/-- **Refilling** from a reply that is whole. -/
theorem storedSince_refill (hzero : (w.buffers s).length = 0) (h : (w.buffers s).Apart)
    (hwhole : Whole w.bus 0) : StoredSince s w.bus.mem (refillState w s) := by
  have hrefill := refills_place hzero h
  generalize place w s = p at hrefill
  obtain ⟨pre, post, hlog⟩ := stores_fetch (UInt8.ofNat s) p w
  refine ⟨post ++ replyStores getDatabufTcpCmd wifiSocketBufferSize p
    (reply wifiSocketBufferSize w.bus) ++ pre, ?_, ?_⟩
  · rw [hrefill.bus]
    exact hlog
  · by_cases hvacant : Vacant w.bus 0
    · rw [windowOf_of_zero (hrefill.length.trans (if_pos hvacant))]
      intro q hq
      exact absurd hq List.not_mem_nil
    · have hfills := hwhole.resolve_left hvacant
      rw [windowOf, hrefill.head hvacant, hrefill.length, if_neg hvacant,
        replyStores_of_fills hfills]
      intro q hq
      refine List.mem_append_left _ (List.mem_append_right _ (List.mem_reverse.mpr hq))

end StoredSince

/-- An entry whose block is not a variable of the library, with a window that fits a block. -/
structure Entry.Bounded (e : Entry) : Prop where
  apart : e.Apart
  pos : 0 ≤ e.length
  le : e.length ≤ 255

theorem Entry.Apart.bounded {e : Entry} (h : e.Apart) (hzero : e.length = 0) : e.Bounded :=
  ⟨h, hzero.ge, by rw [hzero]; decide⟩

section Bounded
variable {w w' : World} {s n : ℕ} {e : Entry}

theorem Entry.Bounded.advance (h : e.Bounded) (hn : (n : ℤ) ≤ e.length) :
    (e.advance n).Bounded := by
  have hle := h.le
  refine ⟨h.apart, ?_, ?_⟩ <;> simp only [Entry.advance] <;> omega

theorem bounded_refill (h : (w.buffers s).Bounded) :
    ((refillState w s).buffers s).Bounded := by
  by_cases hzero : (w.buffers s).length = 0
  · have hrefill := refills_place hzero h.apart
    refine ⟨?_, ?_, ?_⟩
    · intro var size
      rw [hrefill.data]
      exact hrefill.apart var size
    · rw [hrefill.length]
      split <;> decide
    · rw [hrefill.length]
      split <;> decide
  · rw [refillState, state_refill_of_ne hzero]
    exact h

/-- There is nothing to read if the buffer is empty and so is the payload that is fetched. -/
theorem length_refill_eq_zero (h : (w.buffers s).Apart) :
    ((refillState w s).buffers s).length = 0 ↔ (w.buffers s).length = 0 ∧ Vacant w.bus 0 := by
  by_cases hzero : (w.buffers s).length = 0
  · rw [(refills_place hzero h).length, and_iff_right hzero]
    split
    · next hvacant => exact iff_of_true rfl hvacant
    · next hvacant => exact iff_of_false (by decide) hvacant
  · rw [refillState, state_refill_of_ne hzero]
    exact iff_of_false hzero fun h => hzero h.1

theorem bounded_close (h : (w.buffers s).Bounded) :
    (((close s).state w).buffers s).Bounded := by
  by_cases hnull : (w.buffers s).data = nullPtr
  · rw [state_close_of_null hnull]
    exact h
  · rw [state_close_of_ne hnull]
    simpa using Entry.apart_empty.bounded rfl

/-- What a read leaves of a window. -/
theorem windowOf_read (data : Ptr Obj) :
    ∀ p ∈ windowOf (readState w s data n) s, p ∈ windowOf w s := by
  intro p hp
  simp only [windowOf, readState, Function.update_self, Entry.advance] at hp
  obtain ⟨i, hi, rfl⟩ := Ptr.mem_region.mp hp
  rw [Ptr.add_add]
  exact Ptr.mem_region.mpr ⟨n + i, by omega, rfl⟩

theorem bounded_read (data : Ptr Obj) (h : (w.buffers s).Bounded)
    (hn : (n : ℤ) ≤ (w.buffers s).length) :
    ((readState w s data n).buffers s).Bounded := by
  simpa [readState] using h.advance hn

/-- Closing takes a window away, or leaves it. -/
theorem windowOf_close (s : ℕ) (w : World) :
    ∀ p ∈ windowOf ((close s).state w) s, p ∈ windowOf w s := by
  intro p hp
  by_cases hnull : (w.buffers s).data = nullPtr
  · rw [state_close_of_null hnull] at hp
    exact hp
  · rw [state_close_of_ne hnull, windowOf_of_zero (by simp [Entry.empty])] at hp
    exact absurd hp List.not_mem_nil

/-- From `w` to `w'` a part of the window is left. -/
structure Shrinks (s : ℕ) (w w' : World) : Prop where
  window : ∀ p ∈ windowOf w' s, p ∈ windowOf w s
  bounded : (w.buffers s).Bounded → (w'.buffers s).Bounded

theorem Shrinks.trans {w'' : World} (h : Shrinks s w w') (h' : Shrinks s w' w'') :
    Shrinks s w w'' :=
  ⟨fun p hp => h.window p (h'.window p hp), fun hb => h'.bounded (h.bounded hb)⟩

theorem shrinks_of_buffers (h : w'.buffers = w.buffers) : Shrinks s w w' := by
  constructor
  · intro p hp
    rwa [windowOf_congr (congrFun h s)] at hp
  · intro hb
    rwa [h]

theorem shrinks_read (data : Ptr Obj) (hn : (n : ℤ) ≤ (w.buffers s).length) :
    Shrinks s w (readState w s data n) :=
  ⟨windowOf_read data, fun h => bounded_read data h hn⟩

theorem shrinks_close (s : ℕ) (w : World) : Shrinks s w ((close s).state w) :=
  ⟨windowOf_close s w, bounded_close⟩

end Bounded

/-! ## Operations -/

namespace WiFiClient

/-- The operations that begin with a refill. -/
def Operation.refills : Operation → Bool
  | available | readChar | read _ _ | peek | connected => true
  | write _ _ | writeChar _ | flush | status | stop | remoteIP | remotePort => false

/-- The state in which an operation finds the window. -/
def Operation.base (op : Operation) (s : ℕ) (w : World) : World :=
  if op.refills then refillState w s else w

/-- A length to read is one that an `int` holds, or there is nothing to read: the buffer is
empty and the reply to the fetch brings an empty payload. -/
def Operation.Sized (s : ℕ) (w : World) : Operation → Prop
  | read _ size => size.toNat < 2 ^ 31 ∨ ((w.buffers s).length = 0 ∧ Vacant w.bus 0)
  | available | readChar | peek | write _ _ | writeChar _ | flush | connected | status | stop
  | remoteIP | remotePort => True

/-- How many bytes of the window an operation returns at most. -/
def Operation.limit : Operation → ℕ
  | read _ size => size.toNat
  | readChar | peek => 1
  | available | write _ _ | writeChar _ | flush | connected | status | stop | remoteIP
  | remotePort => 0

/-- The addresses of the bytes that an operation returns. -/
def Operation.source (op : Operation) (s : ℕ) (w : World) : List (Ptr Obj) :=
  (windowOf (op.base s w) s).take op.limit

/-- The bytes that an operation returns. -/
def Operation.returned (sock : UInt8) (w : World) (op : Operation) : List UInt8 :=
  match op with
  | read buf _ => ((op.run sock).state w).bus.mem.loadList buf ((op.run sock).val w).toNat
  | readChar | peek => if (op.run sock).val w = -1 then [] else [toByte ((op.run sock).val w)]
  | available | write _ _ | writeChar _ | flush | connected | status | stop | remoteIP
  | remotePort => []

section Operations
variable {w : World} {sock : UInt8} {op : Operation}

theorem buffers_status (sock : UInt8) (w : World) :
    ((status sock).state w).buffers = w.buffers := by
  rw [status, Prog.state_ite]
  split <;> rfl

theorem buffers_awaitClosed (sock : UInt8) (polls : ℕ) (w : World) :
    ((awaitClosed sock polls).state w).buffers = w.buffers := by
  induction polls generalizing w with
  | zero => rfl
  | succ polls ih =>
      rw [awaitClosed, Prog.state_bind, Prog.state_ite]
      split
      · rw [ih, buffers_status]
      · exact buffers_status sock w

theorem buffers_write (buf : Ptr Obj) (size : UInt32) (w : World) :
    ((write sock buf size).state w).buffers = w.buffers := by
  rw [write, Prog.state_ite]
  split
  · rfl
  · rw [Prog.state_bind, Prog.state_ite, state_onBus]
    split
    · rfl
    · rw [Prog.state_bind, Prog.state_ite, state_onBus, Prog.state_pure, Prog.state_pure, ite_self]

/-- A check goes on from a refill: it may ask for the state, and close the buffer. -/
theorem connected_after_refill (hsock : sock ≠ noSocketAvail) (w : World) :
    ((connected sock).state w).bus =
        (if ((refillState w sock.toNat).buffers sock.toNat).length = 0 then
          (getClientState sock).state (refillState w sock.toNat).bus
        else (refillState w sock.toNat).bus) ∧
      Shrinks sock.toNat (refillState w sock.toNat) ((connected sock).state w) := by
  by_cases hlen : ((refillState w sock.toNat).buffers sock.toNat).length = 0
  · rw [(connected_of_no_data hsock hlen).2, if_pos hlen]
    split
    · refine ⟨by rw [(close_frame _ _).1, asked], Shrinks.trans ?_ (shrinks_close sock.toNat _)⟩
      exact shrinks_of_buffers (by rw [asked])
    · exact ⟨by rw [asked], shrinks_of_buffers (by rw [asked])⟩
  · rw [(connected_of_data hsock hlen).2, if_neg hlen]
    exact ⟨by dsimp only, shrinks_of_buffers (by dsimp only)⟩

theorem bounded_connected (hsock : sock ≠ noSocketAvail)
    (h : (w.buffers sock.toNat).Bounded) :
    (((connected sock).state w).buffers sock.toNat).Bounded :=
  (connected_after_refill hsock w).2.bounded (bounded_refill h)

/-- Reading one byte takes it from the window. -/
theorem shrinks_readChar (hsock : sock ≠ noSocketAvail) (h : (w.buffers sock.toNat).Bounded) :
    Shrinks sock.toNat (refillState w sock.toNat) ((readChar sock).state w) := by
  have hrefill := bounded_refill h
  by_cases hzero : ((refillState w sock.toNat).buffers sock.toNat).length = 0
  · rw [(readChar_of_zero hsock hzero).2]
    exact shrinks_of_buffers rfl
  · have hpos := lt_of_le_of_ne hrefill.pos (Ne.symm hzero)
    obtain ⟨-, indexed, hstate⟩ := readChar_of_pos hsock hpos hrefill.le
    have hone : ((1 : ℕ) : ℤ) ≤
        ((refillState w sock.toNat).buffers sock.toNat).length := by omega
    rw [hstate]
    exact (shrinks_read chVar hone).trans (shrinks_of_buffers rfl)

theorem shrinks_stop (hsock : sock ≠ noSocketAvail) (w : World) :
    Shrinks sock.toNat w ((stop sock).state w) := by
  rw [stop, if_neg hsock, Prog.state_bind, Prog.state_bind]
  refine Shrinks.trans (shrinks_of_buffers ?_) (shrinks_close sock.toNat _)
  exact buffers_awaitClosed sock 50 _

theorem bounded_base {s : ℕ} (h : (w.buffers s).Bounded) :
    ((op.base s w).buffers s).Bounded := by
  rw [Operation.base]
  split
  · exact bounded_refill h
  · exact h

/-- **The operations** add nothing to a window but by a refill. -/
theorem shrinks_operation (hsock : sock ≠ noSocketAvail) (hsized : op.Sized sock.toNat w)
    (h : (w.buffers sock.toNat).Bounded) :
    Shrinks sock.toNat (op.base sock.toNat w) ((op.run sock).state w) := by
  have hrefill := bounded_refill h
  cases op with
  | available =>
      rw [Operation.run, available_eq hsock, state_available]
      exact shrinks_of_buffers rfl
  | readChar => exact shrinks_readChar hsock h
  | read buf size =>
      rw [Operation.run, WiFiClient.read]
      rcases hsized with hlength | hnone
      · obtain ⟨indexed, hstate⟩ := state_read buf size hrefill.pos hrefill.le hlength
        rw [hstate]
        exact (shrinks_read buf (Entry.taken_le size hrefill.pos)).trans (shrinks_of_buffers rfl)
      · rw [state_read_of_zero buf size ((length_refill_eq_zero h.apart).mpr hnone)]
        exact shrinks_of_buffers rfl
  | peek =>
      obtain ⟨indexed, hstate⟩ := state_peek w sock.toNat
      rw [Operation.run, WiFiClient.peek, hstate]
      exact shrinks_of_buffers rfl
  | connected => exact (connected_after_refill hsock w).2
  | write buf size => exact shrinks_of_buffers (buffers_write buf size w)
  | writeChar ch =>
      rw [Operation.run, writeChar, Prog.state_bind]
      exact shrinks_of_buffers (buffers_write _ _ _)
  | status => exact shrinks_of_buffers (buffers_status sock w)
  | stop =>
      rw [Operation.run, Prog.state_bind]
      exact shrinks_stop hsock w
  | flush | remoteIP | remotePort => exact shrinks_of_buffers rfl

/-- **What an operation returns** are the first bytes of the window. -/
theorem returned_operation (hsock : sock ≠ noSocketAvail) (hsized : op.Sized sock.toNat w)
    (h : (w.buffers sock.toNat).Bounded) :
    op.returned sock w =
      (op.source sock.toNat w).map (op.base sock.toNat w).bus.mem.load := by
  have hrefill := bounded_refill h
  rw [Operation.source, List.map_take]
  cases op with
  | readChar =>
      rw [Operation.returned, Operation.run, val_readChar_refreshed hsock hrefill.pos hrefill.le]
      exact take_one_of_firstByte _
  | read buf size =>
      rcases hsized with hlength | hnone
      · exact loadList_read_refreshed hrefill.pos hrefill.le hlength
      · have hzero := (length_refill_eq_zero h.apart).mpr hnone
        have hwindow : windowOf ((Operation.read buf size).base sock.toNat w) sock.toNat = [] :=
          windowOf_of_zero hzero
        rw [hwindow, Operation.returned, Operation.run, WiFiClient.read,
          val_read_of_zero buf size hzero, List.map_nil, List.take_nil]
        rfl
  | peek =>
      rw [Operation.returned, Operation.run, WiFiClient.peek, val_peek_refreshed hrefill.pos]
      exact take_one_of_firstByte _
  | available | write | writeChar | flush | connected | status | stop | remoteIP | remotePort =>
      rw [Operation.limit, List.take_zero, Operation.returned]

end Operations

end WiFiClient
end WiFiNINA
