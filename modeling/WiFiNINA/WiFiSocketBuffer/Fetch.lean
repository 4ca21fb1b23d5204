import WiFiNINA.SpiDrv.Exchange
import WiFiNINA.WiFiSocketBuffer

/-!
# What a fetch does

A fetch asks for 255 bytes, receives at most one parameter of at most 254, and stores
it with a zero behind it at the start of the block.  The local `size` that tells the
driver how much to ask for keeps its value.
-/

namespace WiFiNINA

open LengthCode SpiDrv

namespace ServerDrv

/-- The parameters received by a fetch from `b`: at most one. -/
def fetch (b : Bus) : List (List UInt8) :=
  (parseReply getDatabufTcpCmd 1 [wifiSocketBufferSize]
    ((b.slave 1).take (window wifiSocketBufferSize))).payloads

theorem payloads_answered (data : Ptr Obj) (b : Bus) :
    (answered getDatabufTcpCmd wifiSocketBufferSize
      [(⟨wifiSocketBufferSize, data⟩ : TDataParam)] 1 b).payloads = fetch b := rfl

theorem fetch_cases (b : Bus) : fetch b = [] ∨ ∃ x, x.length < 255 ∧ fetch b = [x] := by
  have hpos : 0 < toNat wifiSocketBufferSize := by decide
  exact parseReply_singleton getDatabufTcpCmd 1 _ hpos

/-- What `outParams[0].dataLen` is after a fetch: without a parameter it is still the
size asked for. -/
def fetchedLength : List (List UInt8) → ℕ
  | [] => 255
  | x :: _ => x.length

/-- The pointers of a call whose size argument holds the size of a socket buffer. -/
structure Sized (b : Bus) (dataLen : Ptr Obj) : Prop where
  size : b.mem.loadList dataLen 2 = le16 wifiSocketBufferSize
  obj : dataLen.obj ≠ .auto .sock 1

section GetDataBuf
variable (sock : UInt8) (data : Ptr Obj) {dataLen : Ptr Obj} {b : Bus}

theorem Sized.loadList_sock (h : Sized b dataLen) :
    (b.mem.storeList ⟨.auto .sock 1, 0⟩ [sock]).loadList dataLen 2 =
      le16 wifiSocketBufferSize := by
  rw [Memory.loadList_storeList_of_obj_ne _ _ h.obj, h.size]

theorem ofNat_ofLe_size :
    UInt16.ofNat (ofLe (le16 wifiSocketBufferSize)) = wifiSocketBufferSize := by decide

/-- A fetch is an exchange, once its socket number is in its place. -/
theorem state_getDataBuf (h : Sized b dataLen) :
    (getDataBuf sock data dataLen).state b =
      (exchange getDatabufTcpCmd 2 [(⟨1, ⟨.auto .sock 1, 0⟩⟩ : TDataParam), ⟨2, dataLen⟩]
        wifiSocketBufferSize [(⟨wifiSocketBufferSize, data⟩ : TDataParam)] 1).state
        { b with mem := b.mem.storeList ⟨.auto .sock 1, 0⟩ [sock] } := by
  simp only [getDataBuf, Prog.state_bind, Prog.state_pure, Bus.val_auto, Bus.state_auto,
    Bus.val_loadList, Bus.state_loadList, List.length_singleton, h.loadList_sock,
    ofNat_ofLe_size]

theorem val_getDataBuf (h : Sized b dataLen) :
    (getDataBuf sock data dataLen).val b = fetchedLength (fetch b) := by
  simp only [getDataBuf, Prog.val_bind, Prog.val_pure, Bus.val_auto, Bus.state_auto,
    Bus.val_loadList, Bus.state_loadList, List.length_singleton, h.loadList_sock,
    ofNat_ofLe_size, Reply.lenAt]
  rw [params_exchange _ _ _ _ _ _ _ rfl le_rfl, answered_mem, payloads_answered]
  rcases fetch_cases b with hxs | ⟨x, hx, hxs⟩
  · rw [hxs]
    rfl
  · have hlen : (ofNat x.length : UInt16).toNat = x.length :=
      UInt16.toNat_ofNat_of_lt' (by rw [UInt16.size]; omega)
    simp [hxs, fetchedLength, hlen]

theorem mem_getDataBuf (h : Sized b dataLen) :
    ((getDataBuf sock data dataLen).state b).mem =
      storeParams (b.mem.storeList ⟨.auto .sock 1, 0⟩ [sock])
        [(⟨wifiSocketBufferSize, data⟩ : TDataParam)] (fetch b) := by
  rw [state_getDataBuf sock data h, mem_exchange _ _ _ _ _ _ _ rfl le_rfl, answered_mem,
    payloads_answered]

/-- A fetch stores its socket number, and otherwise only where the data goes. -/
theorem log_getDataBuf (h : Sized b dataLen) :
    ∃ new, ((getDataBuf sock data dataLen).state b).mem.log = new ++ b.mem.log ∧
      ∀ a ∈ new, a ∈ (⟨.auto .sock 1, 0⟩ : Ptr Obj).region 1 ∨ a ∈ data.region 255 := by
  rw [mem_getDataBuf _ _ h]
  obtain ⟨new, hlog, hnew⟩ := log_storeParams (b.mem.storeList ⟨.auto .sock 1, 0⟩ [sock])
    [(⟨wifiSocketBufferSize, data⟩ : TDataParam)] (fetch b)
  refine ⟨new ++ ((⟨.auto .sock 1, 0⟩ : Ptr Obj).region 1).reverse, ?_, ?_⟩
  · rw [hlog, Memory.log_storeList, List.append_assoc]
    rfl
  · intro a ha
    rcases List.mem_append.mp ha with ha | ha
    · obtain ⟨px, hpx, hmem⟩ := hnew a ha
      rcases fetch_cases b with hxs | ⟨x, hx, hxs⟩
      · simp [hxs] at hpx
      · rw [hxs, List.zip_cons_cons, List.zip_nil_right, List.mem_singleton] at hpx
        subst hpx
        exact .inr (Ptr.region_subset hx hmem)
    · exact .inl (List.mem_reverse.mp ha)

/-- A fetch leaves the objects that it has no business with alone. -/
theorem load_getDataBuf (h : Sized b dataLen) {p : Ptr Obj} (hsock : p.obj ≠ .auto .sock 1)
    (hdata : p.obj ≠ data.obj) :
    ((getDataBuf sock data dataLen).state b).mem.load p = b.mem.load p := by
  rw [mem_getDataBuf _ _ h, load_storeParams_of_forall_notMem, Memory.load_storeList_of_obj_ne]
  · exact hsock
  · intro px hpx hmem
    rw [List.mem_singleton.mp (List.of_mem_zip (a := px.1) (b := px.2) hpx).1] at hmem
    exact hdata (Ptr.obj_of_mem_region hmem)

/-- The frame that asks for the data of a socket. -/
def fetchFrame (sock : UInt8) : List UInt8 :=
  frame UInt16 getDatabufTcpCmd [[sock], le16 wifiSocketBufferSize]

theorem transmitted_getDataBuf (h : Sized b dataLen) :
    ((getDataBuf sock data dataLen).state b).transmitted =
      b.transmitted ++ [fetchFrame sock, List.replicate 255 0] := by
  have hsock := (b.mem).loadList_storeList ⟨.auto .sock 1, 0⟩ [sock]
  rw [List.length_singleton] at hsock
  have hwindow : window wifiSocketBufferSize = 255 := by decide
  rw [state_getDataBuf sock data h, transmitted_exchange _ _ _ _ _ _ _ rfl le_rfl]
  simp only [List.map_cons, List.map_nil, Param.bytes, toNat_uint16, hwindow,
    UInt16.reduceToNat, h.loadList_sock, hsock]
  rfl

end GetDataBuf

end ServerDrv
namespace WiFiSocketBuffer

open ServerDrv World

/-- The address of the local `size`. -/
def sizeVar : Ptr Obj := ⟨.auto .size 2, 0⟩

/-- The block a fetch for a socket goes to: its own, or a new one. -/
def block (w : World) (s : ℕ) : Ptr Obj :=
  if (w.buffers s).data = nullPtr then ⟨.heap w.heap.next 255, 0⟩ else (w.buffers s).data

/-- The heap after a fetch for a socket. -/
def allocated (w : World) (s : ℕ) : Heap :=
  if (w.buffers s).data = nullPtr then
    { w.heap with
      live := .heap w.heap.next 255 :: w.heap.live
      next := w.heap.next + 1
      mallocs := fun k => w.heap.mallocs (k + 1) }
  else w.heap

/-- The entry of a socket after a fetch: the whole block if anything was fetched, and
otherwise an empty window. -/
def refilled (w : World) (s : ℕ) : Entry :=
  if fetchedLength (fetch w.bus) ≠ 0 then ⟨block w s, block w s, 255⟩
  else ⟨block w s, if (w.buffers s).data = nullPtr then block w s else (w.buffers s).head, 0⟩

/-- The driver when the fetch begins. -/
def fetching (w : World) : Bus :=
  { w.bus with mem := w.bus.mem.storeList sizeVar (le16 wifiSocketBufferSize) }

theorem val_auto_size (w : World) :
    (Bus.auto .size (le16 wifiSocketBufferSize)).val w.bus = sizeVar := rfl
theorem state_auto_size (w : World) :
    (Bus.auto .size (le16 wifiSocketBufferSize)).state w.bus = fetching w := rfl

theorem sized_fetching (w : World) : Sized (fetching w) sizeVar where
  size := Memory.loadList_storeList _ _ _
  obj := by decide

theorem fetch_fetching (w : World) : fetch (fetching w) = fetch w.bus := rfl

section Refill
variable {w : World} {s : ℕ}

theorem state_allocate (hm : w.heap.mallocs 0 = true) (hzero : (w.buffers s).length = 0) :
    ∃ indexed, (allocate s).state w =
      { w with
        heap := allocated w s
        buffers := Function.update w.buffers s ⟨block w s,
          if (w.buffers s).data = nullPtr then block w s else (w.buffers s).head, 0⟩
        indexed := indexed } := by
  by_cases hnull : (w.buffers s).data = nullPtr
  · refine ⟨s :: s :: w.indexed, ?_⟩
    simp only [allocate, Prog.state_bind, val_entry, state_entry, hnull, if_true,
      allocated, block]
    rw [val_malloc, state_malloc] <;> first | exact hm | rfl
  · refine ⟨s :: w.indexed, ?_⟩
    have hsame : (⟨(w.buffers s).data, (w.buffers s).head, 0⟩ : Entry) = w.buffers s := by
      rw [← hzero]
    simp [allocate, hnull, allocated, block, hsame]

/-- Refilling a buffer that is not empty changes nothing. -/
theorem state_refill_of_ne (h : (w.buffers s).length ≠ 0) :
    (refill s).state w = { w with indexed := s :: w.indexed } := by
  simp [refill, h]

/-- **Refilling an empty buffer** is one fetch into its block. -/
theorem state_refill_of_zero (hm : w.heap.mallocs 0 = true) (hzero : (w.buffers s).length = 0)
    (hblock : (block w s).obj ≠ .auto .size 2) :
    ∃ indexed, (refill s).state w =
      { w with
        bus := (getDataBuf (UInt8.ofNat s) (block w s) sizeVar).state (fetching w)
        heap := allocated w s
        buffers := Function.update w.buffers s (refilled w s)
        indexed := indexed } := by
  obtain ⟨indexed, hstate⟩ : ∃ indexed, (allocate s).state { w with indexed := s :: w.indexed } =
      { w with
        heap := allocated w s
        buffers := Function.update w.buffers s ⟨block w s,
          if (w.buffers s).data = nullPtr then block w s else (w.buffers s).head, 0⟩
        indexed := indexed } :=
    state_allocate (w := { w with indexed := s :: w.indexed }) hm hzero
  have hval := val_getDataBuf (UInt8.ofNat s) (block w s) (sized_fetching w)
  -- the local keeps its value through the fetch
  have hsize : ((getDataBuf (UInt8.ofNat s) (block w s) sizeVar).state
      (fetching w)).mem.loadList sizeVar 2 = le16 wifiSocketBufferSize := by
    rw [mem_getDataBuf _ _ (sized_fetching w), loadList_storeParams_of_obj_ne _ _ _
      (by simpa [sizeVar] using hblock.symm)]
    exact (sized_fetching w).loadList_sock _
  have hgot : fetch (fetching w) = fetch w.bus := rfl
  simp only [refill, Prog.state_bind, val_entry, state_entry, hzero, if_true, hstate,
    state_onBus, val_onBus, val_auto_size, state_auto_size, Function.update_self]
  by_cases hlen : fetchedLength (fetch w.bus) = 0
  · exact ⟨s :: indexed, by simp [hval, hgot, hlen, refilled]⟩
  · have h255 : ofLe (le16 wifiSocketBufferSize) = 255 := by decide
    exact ⟨s :: s :: indexed, by simp [hval, hgot, hlen, refilled, hsize, h255]⟩

end Refill

end WiFiSocketBuffer
end WiFiNINA
