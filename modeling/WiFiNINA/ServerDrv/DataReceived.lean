import WiFiNINA.ServerDrv
import WiFiNINA.SpiDrv.Single

/-!
# Receiving data

`ServerDrv_getDataBuf` asks for as many bytes as its buffer has room for.  The decoder keeps
one byte of this room for a zero, and of the reply no more than 255 bytes are received, five
of which stand before the data.  So at the top of the range data is lost.
-/

namespace WiFiNINA

open LengthCode SpiDrv

namespace ServerDrv

/-- The call returns the length of the data `x` and leaves `x` at the start of the buffer. -/
def Delivers (x : List UInt8) (sock : UInt8) (data dataLen : Ptr Obj) (b : Bus) : Prop :=
  (getDataBuf sock data dataLen).val b = x.length ∧
    ((getDataBuf sock data dataLen).state b).mem.loadList data x.length = x

section GetDataBuf
variable (sock : UInt8) (data : Ptr Obj) {dataLen : Ptr Obj} {d : UInt16} {b : Bus}

/-- The size of the buffer is still there once the socket number is in its place. -/
theorem ofLe_size (hsize : b.mem.loadList dataLen 2 = le16 d) (hobj : dataLen.obj ≠ .auto .sock 1) :
    UInt16.ofNat (ofLe ((b.mem.storeList ⟨.auto .sock 1, 0⟩ [sock]).loadList dataLen 2)) = d := by
  rw [Memory.loadList_storeList_of_obj_ne _ _ hobj, hsize, ofLe_le16, UInt16.ofNat_toNat]

theorem val_getDataBuf_single (hsize : b.mem.loadList dataLen 2 = le16 d)
    (hobj : dataLen.obj ≠ .auto .sock 1) :
    (getDataBuf sock data dataLen).val b =
      if Brings getDatabufTcpCmd (reply wifiSocketBufferSize b) then
        toNat (clip d (firstLength UInt16 (reply wifiSocketBufferSize b))) else toNat d := by
  simp only [getDataBuf, Prog.val_bind, Prog.val_pure, Bus.val_auto, Bus.state_auto,
    Bus.val_loadList, Bus.state_loadList, List.length_singleton, ofLe_size sock hsize hobj]
  rw [lenAt_exchange_single _ _ _ _ _ _ _ rfl, reply_mem]

theorem mem_getDataBuf_single (hsize : b.mem.loadList dataLen 2 = le16 d)
    (hobj : dataLen.obj ≠ .auto .sock 1) :
    ((getDataBuf sock data dataLen).state b).mem =
      if Brings getDatabufTcpCmd (reply wifiSocketBufferSize b) then
        (b.mem.storeList ⟨.auto .sock 1, 0⟩ [sock]).storeList data
          (firstParam d (reply wifiSocketBufferSize b) ++ [0])
      else b.mem.storeList ⟨.auto .sock 1, 0⟩ [sock] := by
  simp only [getDataBuf, Prog.state_bind, Prog.state_pure, Bus.val_auto, Bus.state_auto,
    Bus.val_loadList, Bus.state_loadList, List.length_singleton, ofLe_size sock hsize hobj]
  rw [mem_exchange_single _ _ _ _ _ _ _ rfl, reply_mem]

end GetDataBuf

/-- What is received of a reply with one parameter: 250 bytes of it and of what follows. -/
theorem reply_data {x rest : List UInt8} {b : Bus}
    (hslave : b.slave 1 = replyFrame UInt16 getDatabufTcpCmd [x] ++ rest) :
    reply wifiSocketBufferSize b = startCmd :: (getDatabufTcpCmd ||| replyFlag) :: 1 ::
      (encode (UInt16.ofNat x.length) ++ (x ++ endCmd :: rest).take 250) := by
  have hframe : replyFrame UInt16 getDatabufTcpCmd [x] ++ rest = startCmd ::
      (getDatabufTcpCmd ||| replyFlag) :: 1 ::
        (encode (UInt16.ofNat x.length) ++ (x ++ endCmd :: rest)) := by
    simp [replyFrame, field]
    rfl
  have hwindow : window wifiSocketBufferSize = 255 := by decide
  rw [reply, replyAt, Nat.mul_zero, Nat.zero_add, hslave, hframe, hwindow, List.take_succ_cons,
    List.take_succ_cons, List.take_succ_cons, List.take_append, length_encode]
  rfl

/-- **When a call delivers what it asked for**: the data is shorter than what was asked for, and
all of it that is not received is zero. -/
theorem delivers_iff (sock : UInt8) (data : Ptr Obj) {dataLen : Ptr Obj} {d : UInt16}
    {x rest : List UInt8} {b : Bus} (hsize : b.mem.loadList dataLen 2 = le16 d)
    (hobj : dataLen.obj ≠ .auto .sock 1) (hd : 1 ≤ d.toNat ∧ d.toNat ≤ 255)
    (hx : 1 ≤ x.length ∧ x.length ≤ d.toNat)
    (hslave : b.slave 1 = replyFrame UInt16 getDatabufTcpCmd [x] ++ rest) :
    Delivers x sock data dataLen b ↔ x.length < d.toNat ∧ ∀ c ∈ x.drop 250, c = 0 := by
  have hreply := reply_data hslave
  have hbrings : Brings getDatabufTcpCmd (reply wifiSocketBufferSize b) := by
    rw [hreply]
    exact brings_cons _ (by decide)
  have hlength : (UInt16.ofNat x.length).toNat = x.length :=
    UInt16.toNat_ofNat_of_lt' (by rw [UInt16.size]; omega)
  have hclip : toNat (clip d (UInt16.ofNat x.length)) = min x.length (d.toNat - 1) := by
    rw [toNat_clip _ hd.1, toNat_uint16, toNat_uint16, hlength]
  rw [Delivers, val_getDataBuf_single sock data hsize hobj,
    mem_getDataBuf_single sock data hsize hobj, if_pos hbrings, if_pos hbrings, hreply,
    firstLength_cons, firstParam_cons, hclip, Int.ofNat_inj]
  have hcut : min x.length (d.toNat - 1) = x.length ↔ x.length < d.toNat := by omega
  rw [hcut]
  refine and_congr_right fun hlt => ?_
  rw [hcut.mpr hlt]
  have hstored := (b.mem.storeList ⟨.auto .sock 1, 0⟩ [sock]).loadList_storeList_append data
    (padTake 0 x.length ((x ++ endCmd :: rest).take 250)) [0]
  rw [length_padTake] at hstored
  rw [hstored, padTake_take_eq_iff]

/-- A byte for a buffer of two. -/
theorem delivers_one :
    Delivers [7] 0 ⟨.user 0, 0⟩ ⟨.user 1, 0⟩
      { Bus.fresh fun _ => replyFrame UInt16 getDatabufTcpCmd [[7]] ++ [] with
        mem := (Bus.fresh fun _ => []).mem.storeList ⟨.user 1, 0⟩ (le16 2) } :=
  (delivers_iff 0 ⟨.user 0, 0⟩ (Memory.loadList_storeList _ _ (le16 2)) (by decide) (by decide)
    (by decide) rfl).mpr ⟨by decide, by simp⟩

/-- A byte for a buffer of one. -/
theorem not_delivers_one :
    ¬ Delivers [7] 0 ⟨.user 0, 0⟩ ⟨.user 1, 0⟩
      { Bus.fresh fun _ => replyFrame UInt16 getDatabufTcpCmd [[7]] ++ [] with
        mem := (Bus.fresh fun _ => []).mem.storeList ⟨.user 1, 0⟩ (le16 1) } := by
  rintro ⟨hval, -⟩
  rw [val_getDataBuf_single 0 _ (Memory.loadList_storeList _ _ (le16 1)) (by decide)] at hval
  revert hval
  decide

end ServerDrv
end WiFiNINA
