import WiFiNINA.SpiDrv.Exchange
import WiFiNINA.SpiDrv.Replies
import WiFiNINA.WiFiDrv

/-!
# Replies as wide as their destinations

The decoders keep the last byte of every destination for a zero, so a parameter
as long as its capacity never arrives whole: its last byte stays in the stream and
is taken for the next length, or for the end byte.  Almost every function of the
drivers declares exactly the width it expects.  This module says what each of them
returns instead.
-/

namespace WiFiNINA

open LengthCode

namespace SpiDrv

/-- The parameters `xs` of a reply have arrived: accepted, counted, and each with its own
length and bytes. -/
structure ArrivedWhole (xs : List (List UInt8)) (r : Reply UInt8) (b' : Bus) : Prop where
  accepted : r.ret = 1
  count : r.numParamRead.toNat = xs.length
  params : ∀ i, (hi : i < xs.length) → ∃ p, r.params[i]? = some p ∧
    p.len.toNat = xs[i].length ∧ p.bytes b'.mem = xs[i]

/-- Every one of the parameters `xs` is as long as the capacity declared for it. -/
def FullWidth (outs : List TParam) (xs : List (List UInt8)) : Prop :=
  List.Forall₂ (fun x p => x.length = p.len.toNat ∧ 1 ≤ x.length) xs (outs.take xs.length)

/-- **A reply of full width never arrives whole**: its first parameter is reported one byte
short. -/
theorem not_arrivedWhole {cmd : UInt8} {maxSize : UInt16} {numParamRead : UInt8}
    {outs : List TParam} {maxNumParams : UInt8} {xs : List (List UInt8)} {rest : List UInt8}
    {b : Bus} (hpos : 1 ≤ xs.length) (hcount : xs.length ≤ maxNumParams.toNat)
    (hmax : maxNumParams.toNat ≤ outs.length) (hfull : FullWidth outs xs)
    (hwindow : (replyFrame UInt8 cmd xs).length ≤ window maxSize)
    (hslave : b.slave 0 = replyFrame UInt8 cmd xs ++ rest) :
    ¬ ArrivedWhole xs ((receiveResponseCmd cmd maxSize numParamRead outs maxNumParams).val b)
      ((receiveResponseCmd cmd maxSize numParamRead outs maxNumParams).state b) := by
  intro h
  obtain ⟨x, xs, rfl⟩ := List.exists_cons_of_length_pos hpos
  obtain ⟨q, outs, rfl⟩ : ∃ q qs, outs = q :: qs :=
    List.exists_cons_of_length_pos (by omega)
  obtain ⟨⟨hx, hxpos⟩, -⟩ : (x.length = q.len.toNat ∧ 1 ≤ x.length) ∧ _ := by
    simpa [FullWidth] using hfull
  obtain ⟨init, c, rfl⟩ := List.eq_nil_or_concat' x |>.resolve_left (by rintro rfl; simp at hxpos)
  obtain ⟨p, hp, hlen, -⟩ := h.params 0 (by simp)
  obtain ⟨rest', hreceived⟩ := take_window rest hwindow
  have hpayloads : ∃ ys, (parsed cmd maxSize (q :: outs) maxNumParams b).payloads =
      init :: ys := by
    rw [parsed, received, hslave, hreceived, parseReply_replyFrame _ hpos hcount]
    simp only [List.map_cons, List.length_cons, List.take_succ_cons, fields_cons,
      List.append_assoc]
    rw [takeFields_full _ _ _ (by simpa using hx)]
    exact ⟨_, rfl⟩
  obtain ⟨ys, hys⟩ := hpayloads
  have hval := val_receiveResponse cmd maxSize numParamRead (q :: outs) maxNumParams b hmax
  have hparams : ((receiveResponseCmd cmd maxSize numParamRead (q :: outs) maxNumParams).val
      b).params[0]? = some { q with len := ofNat init.length } := by
    rw [receiveResponseCmd, hval, hys]
    rfl
  rw [hparams] at hp
  obtain rfl := Option.some.inj hp
  -- the length reported is that of the parameter without its last byte
  have hlt := q.len.toNat_lt
  have hshort : (ofNat init.length : UInt8).toNat = init.length := by
    simp only [List.length_append, List.length_singleton] at hx
    exact UInt8.toNat_ofNat_of_lt' (by rw [UInt8.size]; omega)
  simp [hshort] at hlen

/-- A one-byte length and the bytes it announces. -/
theorem field_uint8 (x : List UInt8) : field UInt8 x = UInt8.ofNat x.length :: x := rfl

theorem takeFields_byte (cap c : UInt8) (caps s : List UInt8) :
    takeFields 0 (cap :: caps) (c :: s) =
      (padTake 0 (clip cap c).toNat s :: (takeFields 0 caps (s.drop (clip cap c).toNat)).1,
        1 + (clip cap c).toNat + (takeFields 0 caps (s.drop (clip cap c).toNat)).2) := by
  have hlen : readLength 0 cap (c :: s) = clip cap c := rfl
  rw [takeFields_cons, hlen, width_uint8, toNat_uint8, Nat.add_comm 1, List.drop_succ_cons,
    List.drop_succ_cons, List.drop_zero]

section Byte
variable {L : Type} [LengthCode L UInt8] {cmd numParam : UInt8} {inParams : List (Param L)}
  {maxSize : UInt16} {data : Ptr Obj} {b : Bus}

/-- A destination of one byte gets at most the zero behind an empty parameter. -/
theorem loadList_exchange_byte (hn : inParams.length = numParam.toNat)
    (hzero : b.mem.load data = 0) :
    ((exchange cmd numParam inParams maxSize [(⟨1, data⟩ : TParam)] 1).state b).mem.loadList
      data 1 = [0] := by
  rw [mem_exchange _ _ _ _ _ _ _ hn le_rfl]
  have hone : (0 : ℕ) < toNat (1 : UInt8) := by decide
  rcases parseReply_singleton cmd 1 ((b.slave 1).take (window maxSize)) hone with
    hxs | ⟨x, hx, hxs⟩
  · simp [answered, hxs, Memory.loadList_succ, hzero]
  · obtain rfl : x = [] := List.length_eq_zero_iff.mp (Nat.lt_one_iff.mp hx)
    simp [answered, hxs, Memory.loadList_succ]

end Byte

end SpiDrv

namespace WiFiDrv

open SpiDrv

/-- A request to resolve a name counts as refused, whatever the module answers. -/
theorem val_reqHostByName (host : Ptr Obj) (b : Bus) :
    (reqHostByName host).val b = 0 := by
  simp only [reqHostByName, Prog.val_bind, Prog.val_pure, Bus.val_auto, Bus.state_auto,
    Bus.val_loadList, Bus.state_strlen, List.length_singleton]
  rw [loadList_exchange_byte rfl (by simp)]
  exact ite_self 0

end WiFiDrv

namespace ServerDrv

open SpiDrv

/-- **A byte reply reads as zero**, if it is accepted at all. -/
theorem val_requestByte {cmd numParam : UInt8} {inParams : List TParam} {b : Bus}
    (hn : inParams.length = numParam.toNat) :
    (requestByte cmd numParam inParams).val b =
      if (answered cmd 16 [(⟨1, ⟨.auto .data 1, 0⟩⟩ : TParam)] 1 b).ret = 0 then wlFailure
      else 0 := by
  simp only [requestByte, Prog.val_bind, Prog.val_pure, Bus.val_auto, Bus.state_auto,
    Bus.val_loadList, List.length_singleton]
  rw [ret_exchange _ _ _ _ _ _ _ hn le_rfl, loadList_exchange_byte hn (by simp)]
  rfl

/-- `ServerDrv_getSocket` reports socket zero whatever the module answers. -/
theorem val_getSocket (b : Bus) : getSocket.val b = 0 := by
  simp only [getSocket, Prog.val_bind, Prog.val_pure, Bus.val_auto, Bus.state_auto,
    Bus.val_loadList, List.length_singleton]
  rw [loadList_exchange_byte rfl (by simp)]
  rfl

/-- `ServerDrv_sendData` reports nothing sent whatever the module answers. -/
theorem val_sendData (sock : UInt8) (data : Ptr Obj) (len : UInt16) (b : Bus) :
    (sendData sock data len).val b = 0 := by
  simp only [sendData, Prog.val_bind, Prog.val_pure, Bus.val_auto, Bus.state_auto,
    Bus.val_loadList, List.length_singleton]
  rw [loadList_exchange_byte rfl]
  · rfl
  · rw [Memory.load_storeList_of_obj_ne _ (by simp)]
    simp

/-- `ServerDrv_getClientState` never returns the state it was sent. -/
theorem val_getClientState_ne {sock v : UInt8} {rest : List UInt8} {b : Bus}
    (hslave : b.slave 1 = replyFrame UInt8 getClientStateTcpCmd [[v]] ++ rest) :
    (getClientState sock).val b ≠ v.toNat := by
  obtain ⟨rest', hret, -⟩ := answered_replyFrame 16 [⟨1, ⟨.auto .data 1, 0⟩⟩] 1 b hslave (by simp)
    (by simp) (by simp [window])
  have hclip : (clip 1 1 : UInt8).toNat = 0 := by decide
  -- the byte sent is where the end byte is looked for
  have hend : (answered getClientStateTcpCmd 16 [(⟨1, ⟨.auto .data 1, 0⟩⟩ : TParam)] 1 b).ret =
      truth (v == endCmd) := by
    rw [hret]
    simp [field_uint8, takeFields_byte, hclip]
  simp only [getClientState, Prog.val_bind, Bus.val_auto, Bus.state_auto]
  rw [val_requestByte rfl, answered_mem]
  simp only [hend, truth_eq_zero, beq_eq_false_iff_ne]
  split
  · rw [wlFailure]
    omega
  · next h =>
      rw [not_not.mp h]
      decide

/-- `ServerDrv_availData` returns the low byte of what it was sent. -/
theorem val_availData {sock lo hi : UInt8} {rest : List UInt8} {b : Bus}
    (hslave : b.slave 1 = replyFrame UInt8 availDataTcpCmd [[lo, hi]] ++ rest) :
    (availData sock).val b = lo.toNat := by
  obtain ⟨rest', -, hpayloads⟩ := answered_replyFrame 20 [⟨2, ⟨.auto .data 2, 0⟩⟩] 1 b hslave
    (by simp) (by simp) (by simp [window])
  have hclip : (clip 2 2 : UInt8).toNat = 1 := by decide
  simp only [availData, Prog.val_bind, Prog.val_pure, Bus.val_auto, Bus.state_auto,
    Bus.val_loadList, length_le16]
  rw [mem_exchange _ _ _ _ _ _ _ rfl le_rfl, answered_mem, answered_mem, hpayloads]
  simp [field_uint8, takeFields_byte, hclip, padTake_succ, storeParams, Memory.loadList_succ,
    Memory.load_store, ofLe, Ptr.add]

end ServerDrv
namespace WiFiDrv

open SpiDrv

/-- `WiFiDrv_getRemoteData` cuts the address to three bytes and takes its last one for the
length of the port: it stores what it was sent only by coincidence. -/
theorem getRemoteData_iff {sock i₀ i₁ i₂ i₃ p₀ p₁ : UInt8} {ip port : Ptr Obj}
    {rest : List UInt8} {b : Bus} (hobj : ip.obj ≠ port.obj) (hport : port.obj ≠ .auto .sock 1)
    (hslave : b.slave 1 =
      replyFrame UInt8 getRemoteDataCmd [[i₀, i₁, i₂, i₃], [p₀, p₁]] ++ rest) :
    (((getRemoteData sock ip port).state b).mem.loadList ip 4 = [i₀, i₁, i₂, i₃] ∧
      ((getRemoteData sock ip port).state b).mem.loadList port 2 = [p₀, p₁]) ↔
    i₃ = 0 ∧ p₀ = 0 ∧ p₁ = b.mem.load (port.add 1) := by
  obtain ⟨rest', -, hpayloads⟩ := answered_replyFrame 24 [⟨4, ip⟩, ⟨2, port⟩] 2 b hslave (by simp)
    (by simp) (by simp [window])
  have hfour : (clip 4 4 : UInt8).toNat = 3 := by decide
  have hzero : (clip 2 0 : UInt8).toNat = 0 := by decide
  simp [field_uint8, takeFields_byte, hfour, padTake_succ] at hpayloads
  have hsep : Separated [(⟨4, ip⟩ : TParam), ⟨2, port⟩] := separated_of_nodup (by simp [hobj])
  simp only [getRemoteData, Prog.state_bind, Prog.state_pure, Bus.val_auto, Bus.state_auto]
  by_cases hi : i₃ = 0
  · subst hi
    rw [mem_exchange _ _ _ _ _ _ _ rfl le_rfl, answered_mem, hpayloads, hzero]
    simp [storeParams, Memory.loadList_succ, Memory.load_store, Ptr.ext_iff, hobj, hobj.symm,
      hport, eq_comm]
  · have hip := loadList_exchange getRemoteDataCmd 1
      [(⟨1, ⟨.auto .sock [sock].length, 0⟩⟩ : TParam)] 24 [⟨4, ip⟩, ⟨2, port⟩] 2
      { b with mem := b.mem.storeList ⟨.auto .sock [sock].length, 0⟩ [sock] } rfl le_rfl hsep
      (by simp) (p := ⟨4, ip⟩) (x := [i₀, i₁, i₂]) (by simp [hpayloads])
    rw [show ([i₀, i₁, i₂].length + 1) = 4 from rfl] at hip
    rw [hip]
    simp [eq_comm, hi]

/-- `WiFiDrv_getNetworkData` cuts the address in the same way, takes its last byte for the
length of the mask, and then the rest of the reply out of step. -/
theorem getNetworkData_iff {i₀ i₁ i₂ i₃ m₀ m₁ m₂ m₃ g₀ g₁ g₂ g₃ : UInt8}
    {ip mask gwip : Ptr Obj} {rest : List UInt8} {b : Bus} (hmask : ip.obj ≠ mask.obj)
    (hgwip : ip.obj ≠ gwip.obj) (hobj : mask.obj ≠ gwip.obj)
    (hdummy : mask.obj ≠ .auto .dummy 1)
    (hslave : b.slave 1 = replyFrame UInt8 getIpaddrCmd
      [[i₀, i₁, i₂, i₃], [m₀, m₁, m₂, m₃], [g₀, g₁, g₂, g₃]] ++ rest) :
    (((getNetworkData ip mask gwip).state b).mem.loadList ip 4 = [i₀, i₁, i₂, i₃] ∧
      ((getNetworkData ip mask gwip).state b).mem.loadList mask 4 = [m₀, m₁, m₂, m₃] ∧
      ((getNetworkData ip mask gwip).state b).mem.loadList gwip 4 = [g₀, g₁, g₂, g₃]) ↔
    i₃ = 0 ∧ m₀ = 0 ∧ [m₁, m₂, m₃] = b.mem.loadList (mask.add 1) 3 ∧
      [g₀, g₁, g₂, g₃] = [m₀, m₁, m₂, 0] := by
  obtain ⟨rest', -, hpayloads⟩ := answered_replyFrame 24 [⟨4, ip⟩, ⟨4, mask⟩, ⟨4, gwip⟩] 3 b hslave
    (by simp) (by simp) (by simp [window])
  have hfour : (clip 4 4 : UInt8).toNat = 3 := by decide
  have hzero : (clip 4 0 : UInt8).toNat = 0 := by decide
  have hsep : Separated [(⟨4, ip⟩ : TParam), ⟨4, mask⟩, ⟨4, gwip⟩] :=
    separated_of_nodup (by simp [hmask, hgwip, hobj])
  simp only [getNetworkData, Prog.state_bind, Prog.state_pure, Bus.val_auto, Bus.state_auto]
  by_cases hi : i₃ = 0
  · subst hi
    simp [field_uint8, takeFields_byte, hfour, hzero, padTake_succ] at hpayloads
    rw [mem_exchange _ _ _ _ _ _ _ rfl le_rfl, answered_mem, hpayloads]
    simp [storeParams, Memory.loadList_succ, Memory.load_store, Ptr.ext_iff, hobj, hobj.symm,
      hmask, hmask.symm, hgwip, hgwip.symm, hdummy, eq_comm, and_assoc]
  · simp [field_uint8, takeFields_byte, hfour, padTake_succ] at hpayloads
    have hip := loadList_exchange getIpaddrCmd 1
      [(⟨1, ⟨.auto .dummy [dummyData].length, 0⟩⟩ : TParam)] 24
      [⟨4, ip⟩, ⟨4, mask⟩, ⟨4, gwip⟩] 3
      { b with mem := b.mem.storeList ⟨.auto .dummy [dummyData].length, 0⟩ [dummyData] } rfl
      le_rfl hsep (by simp) (p := ⟨4, ip⟩) (x := [i₀, i₁, i₂]) (by simp [hpayloads])
    rw [show ([i₀, i₁, i₂].length + 1) = 4 from rfl] at hip
    rw [hip]
    simp [eq_comm, hi]

end WiFiDrv
open SpiDrv ServerDrv WiFiDrv

/-- **Fixed-width replies never arrive whole**, and this is what the functions that wait
for them make of what was sent. -/
theorem fixedWidth_replies (b : Bus) (rest : List UInt8) :
    (∀ (cmd : UInt8) (maxSize : UInt16) (numParamRead : UInt8) (outs : List TParam)
        (maxNumParams : UInt8) (xs : List (List UInt8)),
      1 ≤ xs.length → xs.length ≤ maxNumParams.toNat → maxNumParams.toNat ≤ outs.length →
      FullWidth outs xs → (replyFrame UInt8 cmd xs).length ≤ window maxSize →
      b.slave 0 = replyFrame UInt8 cmd xs ++ rest →
      ¬ ArrivedWhole xs ((receiveResponseCmd cmd maxSize numParamRead outs maxNumParams).val b)
        ((receiveResponseCmd cmd maxSize numParamRead outs maxNumParams).state b)) ∧
    (∀ v : UInt8,
      b.slave 1 = replyFrame UInt8 getSocketCmd [[v]] ++ rest →
      (getSocket.val b = v.toNat ↔ v = 0)) ∧
    (∀ sock v : UInt8,
      b.slave 1 = replyFrame UInt8 getClientStateTcpCmd [[v]] ++ rest →
      (getClientState sock).val b ≠ v.toNat) ∧
    (∀ sock lo hi : UInt8,
      b.slave 1 = replyFrame UInt8 availDataTcpCmd [[lo, hi]] ++ rest →
      ((availData sock).val b = ofLe [lo, hi] ↔ hi = 0)) ∧
    (∀ (sock i₀ i₁ i₂ i₃ p₀ p₁ : UInt8) (ip port : Ptr Obj),
      ip.obj ≠ port.obj → port.obj ≠ .auto .sock 1 →
      b.slave 1 = replyFrame UInt8 getRemoteDataCmd [[i₀, i₁, i₂, i₃], [p₀, p₁]] ++ rest →
      ((((getRemoteData sock ip port).state b).mem.loadList ip 4 = [i₀, i₁, i₂, i₃] ∧
        ((getRemoteData sock ip port).state b).mem.loadList port 2 = [p₀, p₁]) ↔
      i₃ = 0 ∧ p₀ = 0 ∧ p₁ = b.mem.load (port.add 1))) ∧
    ∀ (i₀ i₁ i₂ i₃ m₀ m₁ m₂ m₃ g₀ g₁ g₂ g₃ : UInt8) (ip mask gwip : Ptr Obj),
      ip.obj ≠ mask.obj → ip.obj ≠ gwip.obj → mask.obj ≠ gwip.obj →
      mask.obj ≠ .auto .dummy 1 →
      b.slave 1 = replyFrame UInt8 getIpaddrCmd
        [[i₀, i₁, i₂, i₃], [m₀, m₁, m₂, m₃], [g₀, g₁, g₂, g₃]] ++ rest →
      ((((getNetworkData ip mask gwip).state b).mem.loadList ip 4 = [i₀, i₁, i₂, i₃] ∧
        ((getNetworkData ip mask gwip).state b).mem.loadList mask 4 = [m₀, m₁, m₂, m₃] ∧
        ((getNetworkData ip mask gwip).state b).mem.loadList gwip 4 = [g₀, g₁, g₂, g₃]) ↔
      i₃ = 0 ∧ m₀ = 0 ∧ [m₁, m₂, m₃] = b.mem.loadList (mask.add 1) 3 ∧
        [g₀, g₁, g₂, g₃] = [m₀, m₁, m₂, 0]) := by
  refine ⟨?_, ?_, ?_, ?_, ?_, ?_⟩
  · intro cmd maxSize numParamRead outs maxNumParams xs
    exact not_arrivedWhole
  · intro v _
    rw [val_getSocket, ← UInt8.toNat_inj, UInt8.toNat_zero]
    omega
  · intro sock v
    exact val_getClientState_ne
  · intro sock lo hi hslave
    rw [val_availData hslave, ← UInt8.toNat_inj, UInt8.toNat_zero]
    simp only [ofLe]
    omega
  · intro sock i₀ i₁ i₂ i₃ p₀ p₁ ip port
    exact getRemoteData_iff
  · intro i₀ i₁ i₂ i₃ m₀ m₁ m₂ m₃ g₀ g₁ g₂ g₃ ip mask gwip
    exact getNetworkData_iff

/-- A hardware address. -/
def macAddressReply : Bus :=
  Bus.fresh fun _ => replyFrame UInt8 getMacaddrCmd [[1, 2, 3, 4, 5, 6]] ++ []

/-- A number of bytes below 256, the high byte of which is zero. -/
def fiveBytesReply : Bus :=
  Bus.fresh fun _ => replyFrame UInt8 availDataTcpCmd [[5, 0]] ++ []

theorem fixedWidth_replies_macAddress :
    ¬ ArrivedWhole [[1, 2, 3, 4, 5, 6]]
        ((receiveResponseCmd getMacaddrCmd 24 0 [⟨6, ⟨.user 0, 0⟩⟩] 1).val macAddressReply)
        ((receiveResponseCmd getMacaddrCmd 24 0 [⟨6, ⟨.user 0, 0⟩⟩] 1).state macAddressReply) ∧
      (availData 3).val fiveBytesReply = ofLe [5, 0] :=
  ⟨(fixedWidth_replies macAddressReply []).1 getMacaddrCmd 24 0 [⟨6, ⟨.user 0, 0⟩⟩] 1 _
      (by decide) (by decide) (by decide) (.cons (by decide) .nil) (by decide) rfl,
    ((fixedWidth_replies fiveBytesReply []).2.2.2.1 3 5 0 rfl).mpr rfl⟩

/-- The reply that assigns socket five. -/
theorem socketFive_not_arrivedWhole :
    ¬ ArrivedWhole [[5]]
      ((receiveResponseCmd getSocketCmd 20 0 [⟨1, ⟨.user 0, 0⟩⟩] 1).val
        (Bus.fresh fun _ => replyFrame UInt8 getSocketCmd [[5]]))
      ((receiveResponseCmd getSocketCmd 20 0 [⟨1, ⟨.user 0, 0⟩⟩] 1).state
        (Bus.fresh fun _ => replyFrame UInt8 getSocketCmd [[5]])) := by
  intro h
  exact absurd h.accepted (by decide)

end WiFiNINA
