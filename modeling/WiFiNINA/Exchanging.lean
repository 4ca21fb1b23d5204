import Mathlib.Data.Set.Insert
import WiFiNINA.Api
import WiFiNINA.Lib.Composed

/-!
# Functions that exchange

The functions above `spi_drv.c` touch the hardware only in exchanges: a request goes out, and
the reply to it is fetched before anything else is sent.  Between their exchanges they load and
store.  `Exchanging C W n p` says that `p` is composed in this way, that its requests carry
commands of `C`, that it stores to addresses of `W` only, and that it makes at most `n`
exchanges.  It is shown here once for every function of the two drivers.

## Main definitions

* `requestFrame`, `Framed` — the frame of a request, in the framing that belongs to its
  command.
* `MemoryOp`, `Elementary` — the operations of which the functions are composed.
* `OwnMemory` — the variables of the library.
* `DriverCall.commands`, `DriverCall.writable`, `DriverCall.budget` — what a function sends,
  where it stores, and how many exchanges it makes at most.

## Main statements

* `DriverCall.exchanging` — every function of the drivers is composed of exchanges.
-/

namespace WiFiNINA

open LengthCode SpiDrv

/-- The commands whose requests have lengths of sixteen bits. -/
def longCommand (cmd : UInt8) : Bool :=
  cmd == getDatabufTcpCmd || cmd == insertDatabufCmd || cmd == sendDataTcpCmd

/-- The frame of a request with these parameters. -/
def requestFrame (cmd : UInt8) (xs : List (List UInt8)) : List UInt8 :=
  if longCommand cmd then frame UInt16 cmd xs else frame UInt8 cmd xs

/-- How long a parameter can be. -/
def lengthBound (cmd : UInt8) : ℕ := if longCommand cmd then 2 ^ 16 else 2 ^ 8

/-- `L` is the type of the lengths in requests for `cmd`. -/
structure Framed (L : Type) [LengthCode L UInt8] (cmd : UInt8) : Prop where
  frame_eq : ∀ xs, frame L cmd xs = requestFrame cmd xs
  bound_eq : bound L = lengthBound cmd

theorem framed_of_short {cmd : UInt8} (h : longCommand cmd = false) : Framed UInt8 cmd :=
  ⟨fun _ => by rw [requestFrame, h]; rfl, by rw [lengthBound, h]; rfl⟩

theorem framed_of_long {cmd : UInt8} (h : longCommand cmd = true) : Framed UInt16 cmd :=
  ⟨fun _ => by rw [requestFrame, h]; rfl, by rw [lengthBound, h]; rfl⟩

/-- No condition on the driver. -/
abbrev Always (_ : Bus) : Prop := True

/-- Loading, and storing to addresses of `W`. -/
inductive MemoryOp (W : Set (Ptr Obj)) : ⦃α : Type⦄ → ℕ → Prog Bus α → Prop
  | load (p : Ptr Obj) (n : ℕ) : MemoryOp W 0 (Bus.loadList p n)
  | store {p : Ptr Obj} {cs : List UInt8} (h : ∀ a ∈ p.region cs.length, a ∈ W) :
      MemoryOp W 0 (Bus.storeList p cs)

/-- What the functions of the library do, with exchanges as the only operations that cost. -/
inductive Elementary (C : Set UInt8) (W : Set (Ptr Obj)) : ⦃α : Type⦄ → ℕ → Prog Bus α → Prop
  | memory {α : Type} {n : ℕ} {p : Prog Bus α} (h : MemoryOp W n p) : Elementary C W n p
  | begin : Elementary C W 0 SpiDrv.begin
  | end' : Elementary C W 0 SpiDrv.end'
  | exchange {L L' β : Type} [LengthCode L UInt8] [LengthCode L' UInt8]
      {cmd cmd' numParam maxNumParams : UInt8} {inParams : List (Param L)} {maxSize : UInt16}
      {params : List (Param L')} {mid : Prog Bus β} (hcmd : cmd ∈ C)
      (hframe : Framed L cmd)
      (hn : numParam.toNat ≤ inParams.length) (hmax : maxNumParams.toNat ≤ params.length)
      (hwindow : 16 ≤ maxSize.toNat)
      (houts : ∀ p ∈ params, ∀ a ∈ p.data.region (reach p.len), a ∈ W)
      (hmid : Composed Always (MemoryOp W) 0 mid) (numParamRead : β → UInt8) :
      Elementary C W 1 (send cmd numParam inParams >>= fun _ => mid >>= fun x =>
        receiveResponse cmd' maxSize (numParamRead x) params maxNumParams)

/-- Composed of at most `n` exchanges, with requests for the commands `C` and stores to the
addresses `W`. -/
abbrev Exchanging (C : Set UInt8) (W : Set (Ptr Obj)) {α : Type} (n : ℕ) (p : Prog Bus α) : Prop :=
  Composed Always (Elementary C W) n p

/-- More may be stored to. -/
theorem Exchanging.mono_memory {C : Set UInt8} {W W' : Set (Ptr Obj)} {α : Type} {n : ℕ}
    {p : Prog Bus α} (h : Exchanging C W n p) (hW : W ⊆ W') : Exchanging C W' n p := by
  have hmemory : ∀ {β : Type} {k : ℕ} {q : Prog Bus β}, MemoryOp W k q → MemoryOp W' k q := by
    intro β k q hq
    cases hq with
    | load p n => exact .load p n
    | store h => exact .store fun a ha => hW (h a ha)
  refine Composed.refine (fun hb => .basic ?_) h
  cases hb with
  | memory h => exact .memory (hmemory h)
  | begin => exact .begin
  | end' => exact .end'
  | exchange hcmd hframe hn hmax hwindow houts hmid numParamRead =>
      exact .exchange hcmd hframe hn hmax hwindow (fun p hp a ha => hW (houts p hp a ha))
        (hmid.refine fun hb => .basic (hmemory hb)) numParamRead

/-- The variables of the library, automatic and static, up to their ends. -/
def OwnMemory : Set (Ptr Obj) :=
  {a | (∃ var size, a.obj = .auto var size ∧ a.off < size) ∨
    ∃ var, a.obj = .global var ∧ a.off < var.size}

theorem mem_ownMemory_of_auto {var : Var} {size off n : ℕ} (h : off + n ≤ size) {a : Ptr Obj}
    (ha : a ∈ (⟨.auto var size, off⟩ : Ptr Obj).region n) : a ∈ OwnMemory := by
  obtain ⟨i, hi, rfl⟩ := Ptr.mem_region.mp ha
  refine .inl ⟨var, size, rfl, ?_⟩
  simp only [Ptr.off_add]
  omega

theorem mem_ownMemory_of_global {var : Global} {off n : ℕ} (h : off + n ≤ var.size) {a : Ptr Obj}
    (ha : a ∈ (var.ptr.add off).region n) : a ∈ OwnMemory := by
  obtain ⟨i, hi, rfl⟩ := Ptr.mem_region.mp ha
  refine .inr ⟨var, rfl, ?_⟩
  simp only [Ptr.off_add, Global.ptr]
  omega

/-! ## Rules -/

section Rules
variable {C : Set UInt8} {W : Set (Ptr Obj)} {α β : Type} {n : ℕ}

theorem exchanging_loadList (p : Ptr Obj) (k : ℕ) : Exchanging C W 0 (Bus.loadList p k) :=
  .basic (.memory (.load p k))

/-- What most functions end with. -/
theorem exchanging_load (p : Ptr Obj) (k : ℕ) (f : List UInt8 → α) :
    Exchanging C W 0 (Bus.loadList p k >>= fun bytes => pure (f bytes)) :=
  (exchanging_loadList p k).before fun _ _ => .pure _

/-- Bytes that were loaded are stored elsewhere. -/
theorem exchanging_copy {p q : Ptr Obj} {k : ℕ} (h : ∀ a ∈ q.region k, a ∈ W) {f : Prog Bus α}
    (hf : Exchanging C W n f) :
    Exchanging C W n (Bus.loadList p k >>= fun bytes => Bus.storeList q bytes >>= fun _ => f) := by
  refine (exchanging_loadList p k).before fun b _ => .before (.basic (.memory (.store ?_)))
    fun _ _ => hf
  rwa [Bus.val_loadList, Memory.length_loadList]

theorem exchanging_strlen (p : Ptr Obj) : Exchanging C W 0 (Bus.strlen p) := by
  have hfrom : ∀ (k : ℕ) (q : Ptr Obj), Exchanging C W 0 (Bus.strlenFrom k q) := by
    intro k
    induction k with
    | zero => exact fun q => .pure 0
    | succ k ih =>
        refine fun q => (exchanging_loadList q 1).before fun b _ => .ite_pure _ 0 ?_
        exact (ih (q.add 1)).before fun _ _ => .pure _
  rw [Bus.strlen]
  exact hfrom _ p

/-- A variable is set up. -/
theorem exchanging_auto (hW : OwnMemory ⊆ W) {var : Var} {init : List UInt8}
    {f : Ptr Obj → Prog Bus β} (hf : Exchanging C W n (f ⟨.auto var init.length, 0⟩)) :
    Exchanging C W n (Bus.auto var init >>= f) := by
  have hset : Exchanging C W 0 (Bus.storeList ⟨.auto var init.length, 0⟩ init) :=
    .basic (.memory (.store fun a ha =>
      hW (mem_ownMemory_of_auto (Nat.le_of_eq (Nat.zero_add _)) ha)))
  exact hset.before (f := fun _ => f ⟨.auto var init.length, 0⟩) fun _ _ => hf

section Exchange
variable {L L' : Type} [LengthCode L UInt8] [LengthCode L' UInt8]
  {cmd cmd' numParam maxNumParams : UInt8} {inParams : List (Param L)} {maxSize : UInt16}
  {params : List (Param L')}

/-- A request and a reply that may be awaited under another command, between which a function
works on its own. -/
theorem exchanging_transfers {γ : Type} {mid : Prog Bus γ} (hcmd : cmd ∈ C)
    (hframe : Framed L cmd)
    (hn : numParam.toNat ≤ inParams.length) (hmax : maxNumParams.toNat ≤ params.length)
    (hwindow : 16 ≤ maxSize.toNat)
    (houts : ∀ p ∈ params, ∀ a ∈ p.data.region (reach p.len), a ∈ W)
    (hmid : Composed Always (MemoryOp W) 0 mid) {f : Reply L' → Prog Bus β}
    (hf : ∀ r, Exchanging C W n (f r)) :
    Exchanging C W (1 + n) (send cmd numParam inParams >>= fun _ => mid >>= fun _ =>
      Bus.uninit .paramsRead 1 >>= fun x =>
        receiveResponse cmd' maxSize (x.headD 0) params maxNumParams >>= f) := by
  have hread : Composed Always (MemoryOp W) 0 (mid >>= fun _ => Bus.uninit .paramsRead 1) :=
    hmid.before fun _ _ => .basic (.load _ 1)
  have hboth : Exchanging C W 1 (send cmd numParam inParams >>= fun _ =>
      (mid >>= fun _ => Bus.uninit .paramsRead 1) >>= fun x =>
        receiveResponse cmd' maxSize (x.headD 0) params maxNumParams) :=
    .basic (.exchange hcmd hframe hn hmax hwindow houts hread fun x => x.headD 0)
  simpa only [Prog.bind_bind] using hboth.bind fun _ _ => hf _

/-- A request and a reply, which may be awaited under another command. -/
theorem exchanging_awaited (hcmd : cmd ∈ C) (hframe : Framed L cmd)
    (hn : numParam.toNat ≤ inParams.length) (hmax : maxNumParams.toNat ≤ params.length)
    (hwindow : 16 ≤ maxSize.toNat)
    (houts : ∀ p ∈ params, ∀ a ∈ p.data.region (reach p.len), a ∈ W) :
    Exchanging C W 1 (send cmd numParam inParams >>= fun _ =>
      Bus.uninit .paramsRead 1 >>= fun x =>
        receiveResponse cmd' maxSize (x.headD 0) params maxNumParams) :=
  .basic (.exchange hcmd hframe hn hmax hwindow houts (.basic (.load _ 1)) fun x => x.headD 0)

/-- An exchange. -/
theorem exchanging_exchange (hcmd : cmd ∈ C)
    (hframe : Framed L cmd)
    (hn : numParam.toNat ≤ inParams.length) (hmax : maxNumParams.toNat ≤ params.length)
    (hwindow : 16 ≤ maxSize.toNat)
    (houts : ∀ p ∈ params, ∀ a ∈ p.data.region (reach p.len), a ∈ W) :
    Exchanging C W 1 (exchange cmd numParam inParams maxSize params maxNumParams) :=
  exchanging_awaited hcmd hframe hn hmax hwindow houts

/-- An exchange with one destination. -/
theorem exchanging_single {cap : L'} {dest : Ptr Obj} (hcmd : cmd ∈ C)
    (hframe : Framed L cmd)
    (hn : numParam.toNat ≤ inParams.length) (hwindow : 16 ≤ maxSize.toNat)
    (hdest : ∀ a ∈ dest.region (reach cap), a ∈ W) :
    Exchanging C W 1 (exchange cmd numParam inParams maxSize [(⟨cap, dest⟩ : Param L')] 1) :=
  exchanging_exchange hcmd hframe hn le_rfl hwindow (List.forall_mem_singleton.mpr hdest)

theorem subset_of_auto (hW : OwnMemory ⊆ W) {var : Var} {size off k : ℕ} (h : off + k ≤ size) :
    ∀ a ∈ (⟨.auto var size, off⟩ : Ptr Obj).region k, a ∈ W :=
  fun _ ha => hW (mem_ownMemory_of_auto h ha)

/-- An exchange whose destination is a variable with room for it. -/
theorem exchanging_own {cap : L'} {var : Var} {size : ℕ} (hW : OwnMemory ⊆ W) (hcmd : cmd ∈ C)
    (hframe : Framed L cmd) (hn : numParam.toNat ≤ inParams.length)
    (hwindow : 16 ≤ maxSize.toNat) (hcap : reach cap ≤ size) :
    Exchanging C W 1
      (exchange cmd numParam inParams maxSize [(⟨cap, ⟨.auto var size, 0⟩⟩ : Param L')] 1) :=
  exchanging_single hcmd hframe hn hwindow
    (subset_of_auto hW ((Nat.zero_add _).trans_le hcap))

theorem subset_of_global (hW : OwnMemory ⊆ W) (var : Global) (off : ℕ) {k : ℕ}
    (h : off + k ≤ var.size) : ∀ a ∈ (var.ptr.add off).region k, a ∈ W :=
  fun _ ha => hW (mem_ownMemory_of_global h ha)

end Exchange
end Rules

section Families
variable {C : Set UInt8} {W : Set (Ptr Obj)} {cmd numParam : UInt8} {inParams : List TParam}
  {maxSize : UInt16}

theorem exchanging_requestByte (hW : OwnMemory ⊆ W) (hcmd : cmd ∈ C)
    (hshort : longCommand cmd = false) (hn : numParam.toNat ≤ inParams.length) :
    Exchanging C W 1 (ServerDrv.requestByte cmd numParam inParams) := by
  refine exchanging_auto hW (.after ?_ fun _ _ => exchanging_load _ _ _)
  exact exchanging_own hW hcmd (framed_of_short hshort) hn (by decide) (by decide)

theorem exchanging_requestData {capacity : UInt8} (hW : OwnMemory ⊆ W) (hcmd : cmd ∈ C)
    (hshort : longCommand cmd = false) (hn : numParam.toNat ≤ inParams.length)
    (hwindow : 16 ≤ maxSize.toNat)
    (hdata : ∀ a ∈ (DriverCall.varAt .data 1).region (reach capacity), a ∈ W) :
    Exchanging C W 1 (WiFiDrv.requestData cmd numParam inParams maxSize capacity) := by
  refine exchanging_auto hW (.after ?_ fun _ _ => exchanging_load _ _ _)
  exact exchanging_single hcmd (framed_of_short hshort) hn hwindow hdata

theorem exchanging_requestVar {capacity : UInt8} {var : Var} {init : List UInt8}
    (hW : OwnMemory ⊆ W) (hcmd : cmd ∈ C) (hshort : longCommand cmd = false)
    (hn : numParam.toNat ≤ inParams.length) (hwindow : 16 ≤ maxSize.toNat)
    (hdata : ∀ a ∈ (DriverCall.varAt var init.length).region (reach capacity), a ∈ W) :
    Exchanging C W 1
      (WiFiDrv.requestVar cmd numParam inParams maxSize capacity var init) := by
  refine exchanging_auto hW (.after ?_ fun _ _ => exchanging_loadList _ _)
  exact exchanging_single hcmd (framed_of_short hshort) hn hwindow hdata

theorem exchanging_requestAt {capacity : ℕ} {place : Ptr Obj} (hcmd : cmd ∈ C)
    (hshort : longCommand cmd = false) (hn : numParam.toNat ≤ inParams.length)
    (hwindow : 16 ≤ maxSize.toNat)
    (hplace : ∀ a ∈ place.region (reach (UInt8.ofNat capacity)), a ∈ W) :
    Exchanging C W 1 (WiFiDrv.requestAt cmd numParam inParams maxSize capacity place) :=
  .after (exchanging_single hcmd (framed_of_short hshort) hn hwindow hplace)
    fun _ _ => .pure _

theorem exchanging_requestPin {var : Var} (pin arg : UInt8) (hW : OwnMemory ⊆ W) (hcmd : cmd ∈ C)
    (hshort : longCommand cmd = false) :
    Exchanging C W 1 (WiFiDrv.requestPin cmd pin var arg) :=
  exchanging_auto hW (exchanging_auto hW
    (exchanging_requestData hW hcmd hshort le_rfl (by decide) (subset_of_auto hW (by decide))))

end Families

/-! ## server_drv.c -/

section ServerDrv
variable {C : Set UInt8} {W : Set (Ptr Obj)}

theorem exchanging_getSocket (hW : OwnMemory ⊆ W) (hcmd : getSocketCmd ∈ C) :
    Exchanging C W 1 ServerDrv.getSocket := by
  refine exchanging_auto hW (.after ?_ fun _ _ => exchanging_load _ _ _)
  exact exchanging_own hW hcmd (framed_of_short rfl) le_rfl (by decide) (by decide)

theorem exchanging_startClient (hW : OwnMemory ⊆ W) (hcmd : startClientTcpCmd ∈ C)
    (ipAddress : UInt32) (port : UInt16) (sock protMode : UInt8) :
    Exchanging C W 1 (ServerDrv.startClient ipAddress port sock protMode) :=
  exchanging_auto hW (exchanging_auto hW (exchanging_auto hW (exchanging_auto hW
    (exchanging_requestByte hW hcmd rfl le_rfl))))

theorem exchanging_startClientHostname (hW : OwnMemory ⊆ W) (hcmd : startClientTcpCmd ∈ C)
    (host : Ptr Obj) (hostLen : UInt8) (ipAddress : UInt32) (port : UInt16)
    (sock protMode : UInt8) :
    Exchanging C W 1
      (ServerDrv.startClientHostname host hostLen ipAddress port sock protMode) :=
  exchanging_auto hW (exchanging_auto hW (exchanging_auto hW (exchanging_auto hW
    (exchanging_requestByte hW hcmd rfl le_rfl))))

theorem exchanging_stopClient (hW : OwnMemory ⊆ W) (hcmd : stopClientTcpCmd ∈ C) (sock : UInt8) :
    Exchanging C W 1 (ServerDrv.stopClient sock) :=
  exchanging_auto hW (exchanging_requestByte hW hcmd rfl le_rfl)

theorem exchanging_getClientState (hW : OwnMemory ⊆ W) (hcmd : getClientStateTcpCmd ∈ C)
    (sock : UInt8) : Exchanging C W 1 (ServerDrv.getClientState sock) :=
  exchanging_auto hW (exchanging_requestByte hW hcmd rfl le_rfl)

/-- The buffer and its size are the caller's. -/
theorem exchanging_getDataBuf (hW : OwnMemory ⊆ W) (hcmd : getDatabufTcpCmd ∈ C) (sock : UInt8)
    {data : Ptr Obj} (dataLen : Ptr Obj) (hdata : ∀ k, ∀ a ∈ data.region k, a ∈ W) :
    Exchanging C W 1 (ServerDrv.getDataBuf sock data dataLen) := by
  refine exchanging_auto hW ((exchanging_loadList dataLen 2).before fun b _ => ?_)
  refine .after ?_ fun _ _ => .pure _
  exact exchanging_single hcmd (framed_of_long rfl) le_rfl (by decide) (hdata _)

theorem exchanging_sendData (hW : OwnMemory ⊆ W) (hcmd : sendDataTcpCmd ∈ C) (sock : UInt8)
    (data : Ptr Obj) (len : UInt16) : Exchanging C W 1 (ServerDrv.sendData sock data len) := by
  refine exchanging_auto hW (exchanging_auto hW (.after ?_ fun _ _ => exchanging_load _ _ _))
  exact exchanging_own hW hcmd (framed_of_long rfl) le_rfl (by decide) (by decide)

theorem data_of_mem_setLens {L : Type} [LengthCode L UInt8] {params : List (Param L)}
    {xs : List (List UInt8)} {p : Param L} (hp : p ∈ setLens params xs) :
    ∃ q ∈ params, p.data = q.data := by
  induction params generalizing xs with
  | nil => exact ⟨p, hp, rfl⟩
  | cons q params ih =>
      cases xs with
      | nil => exact ⟨p, hp, rfl⟩
      | cons x xs =>
          rcases List.mem_cons.mp hp with rfl | hp
          · exact ⟨q, List.mem_cons_self, rfl⟩
          · obtain ⟨r, hr, hdata⟩ := ih hp
            exact ⟨r, List.mem_cons_of_mem q hr, hdata⟩

/-- The polls of `ServerDrv_checkDataSent`, with the parameter array that is not renewed. -/
theorem exchanging_pollDataSent (hcmd : dataSentTcpCmd ∈ C) (sock : Ptr Obj) {response : Ptr Obj}
    (hresponse : ∀ a ∈ response.region 256, a ∈ W) (left : ℕ) {outParams : List TParam}
    (hlen : 1 ≤ outParams.length) (hdata : ∀ p ∈ outParams, p.data = response) :
    Exchanging C W left (ServerDrv.pollDataSent sock response left outParams) := by
  induction left generalizing outParams with
  | zero => exact .pure 0
  | succ left ih =>
      have houts : ∀ p ∈ outParams, ∀ a ∈ p.data.region (reach p.len), a ∈ W := by
        intro p hp a ha
        rw [hdata p hp] at ha
        exact hresponse a (Ptr.region_subset (reach_le p.len) ha)
      have hexchange : Exchanging C W 1
          (exchange dataSentTcpCmd 1 [(⟨1, sock⟩ : TParam)] 20 outParams 1) :=
        exchanging_exchange hcmd (framed_of_short rfl) le_rfl hlen (by decide) houts
      rw [ServerDrv.pollDataSent_step, Nat.add_comm]
      refine hexchange.bind fun b _ => (exchanging_loadList response 1).before fun _ _ =>
        .ite_pure _ 1 ?_
      have hparams := params_exchange dataSentTcpCmd 1 [(⟨1, sock⟩ : TParam)] 20 outParams 1 b
        rfl hlen
      rw [hparams]
      refine ih (by rwa [length_setLens]) fun p hp => ?_
      obtain ⟨q, hq, hsame⟩ := data_of_mem_setLens hp
      rw [hsame, hdata q hq]

theorem exchanging_checkDataSent (hW : OwnMemory ⊆ W)
    (hresponse : ∀ a ∈ (DriverCall.varAt .response 1).region 256, a ∈ W)
    (hcmd : dataSentTcpCmd ∈ C) (sock : UInt8) :
    Exchanging C W 25 (ServerDrv.checkDataSent sock) := by
  refine exchanging_auto hW (exchanging_auto hW ?_)
  exact exchanging_pollDataSent hcmd _ hresponse 25 le_rfl (List.forall_mem_singleton.mpr rfl)

theorem exchanging_startServer (hW : OwnMemory ⊆ W) (hcmd : startServerTcpCmd ∈ C)
    (port : UInt16) (sock protMode : UInt8) :
    Exchanging C W 1 (ServerDrv.startServer port sock protMode) :=
  exchanging_auto hW (exchanging_auto hW (exchanging_auto hW
    (exchanging_requestByte hW hcmd rfl le_rfl)))

theorem exchanging_startServerIpAddress (hW : OwnMemory ⊆ W) (hcmd : startServerTcpCmd ∈ C)
    (ipAddress : UInt32) (port : UInt16) (sock protMode : UInt8) :
    Exchanging C W 1 (ServerDrv.startServerIpAddress ipAddress port sock protMode) :=
  exchanging_auto hW (exchanging_auto hW (exchanging_auto hW (exchanging_auto hW
    (exchanging_requestByte hW hcmd rfl le_rfl))))

theorem exchanging_getServerState (hW : OwnMemory ⊆ W) (hcmd : getStateTcpCmd ∈ C)
    (sock : UInt8) : Exchanging C W 1 (ServerDrv.getServerState sock) :=
  exchanging_auto hW (exchanging_requestByte hW hcmd rfl le_rfl)

theorem exchanging_availData (hW : OwnMemory ⊆ W) (hcmd : availDataTcpCmd ∈ C) (sock : UInt8) :
    Exchanging C W 1 (ServerDrv.availData sock) := by
  refine exchanging_auto hW (exchanging_auto hW (.after ?_ fun _ _ => exchanging_load _ _ _))
  exact exchanging_own hW hcmd (framed_of_short rfl) le_rfl (by decide) (by decide)

/-- The reply goes to the parameter `data` and to what lies behind it. -/
theorem exchanging_getData (hW : OwnMemory ⊆ W)
    (hdata : ∀ a ∈ (DriverCall.varAt .dataPtr 4).region 255, a ∈ W) (hcmd : getDataTcpCmd ∈ C)
    (sock : UInt8) (data : Ptr Obj) (peek : UInt8) :
    Exchanging C W 1 (ServerDrv.getData sock data peek) := by
  refine exchanging_auto hW (exchanging_auto hW (.after ?_ fun _ _ => .pure _))
  exact exchanging_single hcmd (framed_of_short rfl) (show 1 ≤ 2 by decide) (by decide) hdata

theorem exchanging_insertDataBuf (hW : OwnMemory ⊆ W) (hcmd : insertDatabufCmd ∈ C)
    (sock : UInt8) (data : Ptr Obj) (len : UInt16) :
    Exchanging C W 1 (ServerDrv.insertDataBuf sock data len) := by
  refine exchanging_auto hW (exchanging_auto hW (.after ?_ fun _ _ => exchanging_load _ _ _))
  exact exchanging_own hW hcmd (framed_of_long rfl) le_rfl (by decide) (by decide)

theorem exchanging_sendUdpData (hW : OwnMemory ⊆ W) (hcmd : sendDataUdpCmd ∈ C)
    (sock : UInt8) : Exchanging C W 1 (ServerDrv.sendUdpData sock) := by
  refine exchanging_auto hW (exchanging_auto hW (.after ?_ fun _ _ => exchanging_load _ _ _))
  exact exchanging_own hW hcmd (framed_of_short rfl) le_rfl (by decide) (by decide)

end ServerDrv

/-! ## wifi_drv.c -/

section WiFiDrv
variable {C : Set UInt8} {W : Set (Ptr Obj)}

/-- The three destinations are the caller's. -/
theorem exchanging_getNetworkData (hW : OwnMemory ⊆ W) (hcmd : getIpaddrCmd ∈ C)
    {ip mask gwip : Ptr Obj} (hip : ∀ a ∈ ip.region 4, a ∈ W) (hmask : ∀ a ∈ mask.region 4, a ∈ W)
    (hgwip : ∀ a ∈ gwip.region 4, a ∈ W) :
    Exchanging C W 1 (WiFiDrv.getNetworkData ip mask gwip) := by
  refine exchanging_auto hW (.after ?_ fun _ _ => .pure _)
  refine exchanging_exchange hcmd (framed_of_short rfl) le_rfl le_rfl (by decide) ?_
  exact List.forall_mem_cons.mpr ⟨hip, List.forall_mem_cons.mpr ⟨hmask,
    List.forall_mem_singleton.mpr hgwip⟩⟩

theorem exchanging_getRemoteData (hW : OwnMemory ⊆ W) (hcmd : getRemoteDataCmd ∈ C)
    (sock : UInt8) {ip port : Ptr Obj} (hip : ∀ a ∈ ip.region 4, a ∈ W)
    (hport : ∀ a ∈ port.region 2, a ∈ W) :
    Exchanging C W 1 (WiFiDrv.getRemoteData sock ip port) := by
  refine exchanging_auto hW (.after ?_ fun _ _ => .pure _)
  refine exchanging_exchange hcmd (framed_of_short rfl) le_rfl le_rfl (by decide) ?_
  exact List.forall_mem_cons.mpr ⟨hip, List.forall_mem_singleton.mpr hport⟩

theorem exchanging_wifiSetNetwork (hW : OwnMemory ⊆ W) (hcmd : setNetCmd ∈ C) (ssid : Ptr Obj)
    (ssidLen : UInt8) : Exchanging C W 1 (WiFiDrv.wifiSetNetwork ssid ssidLen) := by
  refine exchanging_auto hW (.after ?_ fun _ _ => exchanging_load _ _ _)
  exact exchanging_own hW hcmd (framed_of_short rfl) le_rfl (by decide) (by decide)

theorem exchanging_wifiSetPassphrase (hW : OwnMemory ⊆ W) (hcmd : setPassphraseCmd ∈ C)
    (ssid : Ptr Obj) (ssidLen : UInt8) (passphrase : Ptr Obj) (len : UInt8) :
    Exchanging C W 1 (WiFiDrv.wifiSetPassphrase ssid ssidLen passphrase len) :=
  exchanging_requestByte hW hcmd rfl le_rfl

theorem exchanging_wifiSetKey (hW : OwnMemory ⊆ W) (hcmd : setKeyCmd ∈ C) (ssid : Ptr Obj)
    (ssidLen keyIdx : UInt8) (key : Ptr Obj) (len : UInt8) :
    Exchanging C W 1 (WiFiDrv.wifiSetKey ssid ssidLen keyIdx key len) :=
  exchanging_auto hW (exchanging_requestByte hW hcmd rfl le_rfl)

theorem exchanging_config (hW : OwnMemory ⊆ W) (hcmd : setIpConfigCmd ∈ C) (validParams : UInt8)
    (localIp gateway subnet : UInt32) :
    Exchanging C W 1 (WiFiDrv.config validParams localIp gateway subnet) :=
  exchanging_auto hW (exchanging_auto hW (exchanging_auto hW (exchanging_auto hW
    (exchanging_requestByte hW hcmd rfl le_rfl))))

theorem exchanging_setDNS (hW : OwnMemory ⊆ W) (hcmd : setDnsConfigCmd ∈ C) (validParams : UInt8)
    (dnsServer1 dnsServer2 : UInt32) :
    Exchanging C W 1 (WiFiDrv.setDNS validParams dnsServer1 dnsServer2) :=
  exchanging_auto hW (exchanging_auto hW (exchanging_auto hW
    (exchanging_requestByte hW hcmd rfl le_rfl)))

theorem exchanging_setHostname (hW : OwnMemory ⊆ W) (hcmd : setHostnameCmd ∈ C)
    (hostname : Ptr Obj) : Exchanging C W 1 (WiFiDrv.setHostname hostname) :=
  (exchanging_strlen hostname).before fun _ _ => exchanging_requestByte hW hcmd rfl le_rfl

theorem exchanging_disconnect (hW : OwnMemory ⊆ W) (hcmd : disconnectCmd ∈ C) :
    Exchanging C W 1 WiFiDrv.disconnect :=
  exchanging_auto hW (.after (exchanging_requestVar hW hcmd rfl le_rfl (by decide)
    (subset_of_auto hW (by decide))) fun _ _ =>
    .pure _)

theorem exchanging_getConnectionStatus (hW : OwnMemory ⊆ W) (hcmd : getConnStatusCmd ∈ C) :
    Exchanging C W 1 WiFiDrv.getConnectionStatus := by
  refine exchanging_auto hW (.after ?_ fun _ _ => exchanging_load _ _ _)
  exact exchanging_own hW hcmd (framed_of_short rfl) le_rfl (by decide) (by decide)

theorem exchanging_getMacAddress (hW : OwnMemory ⊆ W) (hcmd : getMacaddrCmd ∈ C) :
    Exchanging C W 1 WiFiDrv.getMacAddress :=
  exchanging_auto hW
    (exchanging_requestAt hcmd rfl le_rfl (by decide) (subset_of_global hW _ 0 le_rfl))

theorem exchanging_refreshNetworkData (hW : OwnMemory ⊆ W) (hcmd : getIpaddrCmd ∈ C)
    (var : Global) {dest : Ptr Obj} (hdest : ∀ a ∈ dest.region 4, a ∈ W) :
    Exchanging C W 1 (WiFiDrv.refreshNetworkData var dest) := by
  have hquery := exchanging_getNetworkData hW hcmd
    (subset_of_global hW .localIp 0 le_rfl)
    (subset_of_global hW .subnetMask 0 le_rfl)
    (subset_of_global hW .gatewayIp 0 le_rfl)
  exact .after hquery fun _ _ => exchanging_copy hdest (.pure _)

theorem exchanging_getCurrentSSID (hW : OwnMemory ⊆ W) (hcmd : getCurrSsidCmd ∈ C) :
    Exchanging C W 1 WiFiDrv.getCurrentSSID := by
  refine exchanging_auto hW (exchanging_transfers hcmd (framed_of_short rfl) le_rfl le_rfl
    (by decide) (List.forall_mem_singleton.mpr ?_) ?_ fun _ => .pure _)
  · exact subset_of_global hW _ 0 le_rfl
  · refine .basic (.store ?_)
    rw [List.length_replicate]
    exact subset_of_global hW _ 0 le_rfl

theorem exchanging_getCurrentBSSID (hW : OwnMemory ⊆ W) (hcmd : getCurrBssidCmd ∈ C) :
    Exchanging C W 1 WiFiDrv.getCurrentBSSID :=
  exchanging_auto hW
    (exchanging_requestAt hcmd rfl le_rfl (by decide) (subset_of_global hW _ 0 le_rfl))

theorem exchanging_getCurrentRSSI (hW : OwnMemory ⊆ W) (hcmd : getCurrRssiCmd ∈ C) :
    Exchanging C W 1 WiFiDrv.getCurrentRSSI := by
  refine exchanging_auto hW (.after ?_ fun _ _ => exchanging_load _ _ _)
  exact exchanging_own hW hcmd (framed_of_short rfl) le_rfl (by decide) (by decide)

theorem exchanging_getCurrentEncryptionType (hW : OwnMemory ⊆ W) (hcmd : getCurrEnctCmd ∈ C) :
    Exchanging C W 1 WiFiDrv.getCurrentEncryptionType :=
  exchanging_auto hW (.after (exchanging_requestVar hW hcmd rfl le_rfl (by decide)
    (subset_of_auto hW (by decide))) fun _ _ =>
    .pure _)

theorem exchanging_startScanNetworks (hW : OwnMemory ⊆ W) (hcmd : startScanNetworks ∈ C) :
    Exchanging C W 1 WiFiDrv.startScanNetworks := by
  refine exchanging_auto hW (.after ?_ fun _ _ => exchanging_load _ _ _)
  exact exchanging_own hW hcmd (framed_of_short rfl) le_rfl (by decide) (by decide)

/-- The rows of the list are parts of it. -/
theorem mem_of_scanParams (hW : OwnMemory ⊆ W) :
    ∀ p ∈ WiFiDrv.scanParams, ∀ a ∈ p.data.region (reach p.len), a ∈ W := by
  intro p hp
  obtain ⟨i, hi, rfl⟩ := List.mem_map.mp hp
  refine subset_of_global hW _ _ ?_
  have hrow : i < wlNetworksListMaxnum := List.mem_range.mp hi
  have hreach : reach (UInt8.ofNat wlSsidMaxLength) = wlSsidMaxLength := rfl
  rw [hreach]
  simp only [Global.size, wlNetworksListMaxnum, wlSsidMaxLength] at hrow ⊢
  omega

theorem exchanging_getScanNetworks (hW : OwnMemory ⊆ W) (hcmd : scanNetworks ∈ C) :
    Exchanging C W 1 WiFiDrv.getScanNetworks := by
  refine exchanging_transfers hcmd (framed_of_short rfl) le_rfl ?_ (by decide)
    (mem_of_scanParams hW) (.basic (.store ?_)) fun _ => .pure _
  · simp [WiFiDrv.scanParams, wlNetworksListMaxnum]
  · rw [List.length_replicate]
    exact subset_of_global hW _ 0 (Nat.le_of_eq (Nat.zero_add _))

theorem exchanging_getEncTypeNetworks (hW : OwnMemory ⊆ W) (hcmd : getIdxEnctCmd ∈ C)
    (networkItem : UInt8) : Exchanging C W 1 (WiFiDrv.getEncTypeNetworks networkItem) := by
  refine exchanging_auto hW (.ite_pure _ _ (.after ?_ fun _ _ => .pure _))
  exact exchanging_requestVar hW hcmd rfl le_rfl (by decide) (subset_of_auto hW (by decide))

theorem exchanging_getBSSIDNetworks (hW : OwnMemory ⊆ W) (hcmd : getIdxBssid ∈ C)
    (networkItem : UInt8) {bssid : Ptr Obj} (hbssid : ∀ a ∈ bssid.region 6, a ∈ W) :
    Exchanging C W 1 (WiFiDrv.getBSSIDNetworks networkItem bssid) :=
  exchanging_auto hW (.ite_pure _ _ (exchanging_requestAt hcmd rfl le_rfl (by decide) hbssid))

theorem exchanging_getChannelNetworks (hW : OwnMemory ⊆ W) (hcmd : getIdxChannelCmd ∈ C)
    (networkItem : UInt8) : Exchanging C W 1 (WiFiDrv.getChannelNetworks networkItem) := by
  refine exchanging_auto hW (.ite_pure _ _ (.after ?_ fun _ _ => .pure _))
  exact exchanging_requestVar hW hcmd rfl le_rfl (by decide) (subset_of_auto hW (by decide))

theorem exchanging_getRSSINetworks (hW : OwnMemory ⊆ W) (hcmd : getIdxRssiCmd ∈ C)
    (networkItem : UInt8) : Exchanging C W 1 (WiFiDrv.getRSSINetworks networkItem) := by
  refine exchanging_auto hW (exchanging_auto hW (.ite_pure _ _ ?_))
  have hexchange : ∀ rssi item : Ptr Obj, (∀ a ∈ rssi.region 4, a ∈ W) →
      Exchanging C W 1 (sendCmd getIdxRssiCmd 1 [⟨1, item⟩] >>= fun _ =>
        Bus.uninit .paramsRead 1 >>= fun x =>
          receiveResponseCmd getIdxChannelCmd 20 (x.headD 0) [⟨4, rssi⟩] 1) :=
    fun rssi item hrssi => exchanging_awaited hcmd (framed_of_short rfl) le_rfl le_rfl
      (by decide) (List.forall_mem_singleton.mpr hrssi)
  simpa only [Prog.bind_bind] using
    (hexchange _ _ (subset_of_auto hW (by decide))).after fun _ _ => exchanging_load _ _ _

theorem exchanging_reqHostByName (hW : OwnMemory ⊆ W) (hcmd : reqHostByNameCmd ∈ C)
    (aHostname : Ptr Obj) : Exchanging C W 1 (WiFiDrv.reqHostByName aHostname) := by
  refine exchanging_auto hW ((exchanging_strlen aHostname).before fun _ _ => .after ?_ fun _ _ =>
    exchanging_load _ _ _)
  exact exchanging_own hW hcmd (framed_of_short rfl) le_rfl (by decide) (by decide)

theorem exchanging_getHostByNameResults (hW : OwnMemory ⊆ W) (hcmd : getHostByNameCmd ∈ C)
    {aResult : Ptr Obj} (hresult : ∀ a ∈ aResult.region 4, a ∈ W) :
    Exchanging C W 1 (WiFiDrv.getHostByNameResults aResult) := by
  refine .after (exchanging_own hW hcmd (framed_of_short rfl) le_rfl (by decide) (by decide))
    fun _ _ => (exchanging_loadList _ 4).before fun b _ => .ite_pure _ 0 ?_
  refine .before (.basic (.memory (.store ?_))) fun _ _ => .pure _
  rwa [Bus.val_loadList, Memory.length_loadList]

theorem exchanging_getHostByName (hW : OwnMemory ⊆ W) (hcmd : reqHostByNameCmd ∈ C)
    (hcmd' : getHostByNameCmd ∈ C) (aHostname : Ptr Obj) {aResult : Ptr Obj}
    (hresult : ∀ a ∈ aResult.region 4, a ∈ W) :
    Exchanging C W 2 (WiFiDrv.getHostByName aHostname aResult) := by
  refine Composed.bind (m := 1) (n := 1) (exchanging_reqHostByName hW hcmd aHostname)
    fun b _ => ?_
  exact Composed.ite _ (exchanging_getHostByNameResults hW hcmd' hresult) (.pure 0)

theorem exchanging_getFwVersion (hW : OwnMemory ⊆ W) (hcmd : getFwVersionCmd ∈ C) :
    Exchanging C W 1 WiFiDrv.getFwVersion :=
  exchanging_requestAt hcmd rfl le_rfl (by decide) (subset_of_global hW _ 0 le_rfl)

theorem exchanging_getTime (hW : OwnMemory ⊆ W) (hcmd : getTimeCmd ∈ C) :
    Exchanging C W 1 WiFiDrv.getTime :=
  .after (exchanging_requestVar hW hcmd rfl le_rfl (by decide)
    (subset_of_auto hW (by decide))) fun _ _ => .pure _

theorem exchanging_setPowerMode (hW : OwnMemory ⊆ W)
    (hdata : ∀ a ∈ (DriverCall.varAt .data 1).region 4, a ∈ W) (hcmd : setPowerModeCmd ∈ C)
    (mode : UInt8) : Exchanging C W 1 (WiFiDrv.setPowerMode mode) := by
  refine exchanging_auto hW (exchanging_auto hW (.after ?_ fun _ _ => .pure _))
  exact exchanging_single hcmd (framed_of_short rfl) le_rfl (by decide) hdata

theorem exchanging_wifiSetApNetwork (hW : OwnMemory ⊆ W)
    (hdata : ∀ a ∈ (DriverCall.varAt .data 1).region 4, a ∈ W) (hcmd : setApNetCmd ∈ C)
    (ssid : Ptr Obj) (ssidLen channel : UInt8) :
    Exchanging C W 1 (WiFiDrv.wifiSetApNetwork ssid ssidLen channel) := by
  refine exchanging_auto hW (exchanging_auto hW (.after ?_ fun _ _ => exchanging_load _ _ _))
  exact exchanging_single hcmd (framed_of_short rfl) le_rfl (by decide) hdata

theorem exchanging_wifiSetApPassphrase (hW : OwnMemory ⊆ W)
    (hdata : ∀ a ∈ (DriverCall.varAt .data 1).region 4, a ∈ W) (hcmd : setApPassphraseCmd ∈ C)
    (ssid : Ptr Obj) (ssidLen : UInt8) (passphrase : Ptr Obj) (len channel : UInt8) :
    Exchanging C W 1 (WiFiDrv.wifiSetApPassphrase ssid ssidLen passphrase len channel) :=
  exchanging_auto hW (exchanging_requestData hW hcmd rfl le_rfl (by decide) hdata)

theorem exchanging_debug (hW : OwnMemory ⊆ W)
    (hdata : ∀ a ∈ (DriverCall.varAt .data 1).region 2, a ∈ W) (hcmd : setDebugCmd ∈ C)
    (on : UInt8) : Exchanging C W 1 (WiFiDrv.debug on) :=
  exchanging_auto hW (.after (exchanging_requestVar hW hcmd rfl le_rfl (by decide) hdata)
    fun _ _ => .pure _)

theorem exchanging_ping (hW : OwnMemory ⊆ W) (hcmd : pingCmd ∈ C) (ipAddress : UInt32)
    (ttl : UInt8) : Exchanging C W 1 (WiFiDrv.ping ipAddress ttl) := by
  refine exchanging_auto hW (exchanging_auto hW (.after ?_ fun _ _ => exchanging_load _ _ _))
  exact exchanging_own hW hcmd (framed_of_short rfl) le_rfl (by decide) (by decide)

theorem exchanging_getTemperature (hW : OwnMemory ⊆ W) (hcmd : getTemperatureCmd ∈ C) :
    Exchanging C W 1 WiFiDrv.getTemperature :=
  .after (exchanging_requestVar hW hcmd rfl le_rfl (by decide)
    (subset_of_auto hW (by decide))) fun _ _ => .pure _

end WiFiDrv

/-! ## Every function -/

/-- The object a pointer points into, up to any length. -/
def wholeObject (p : Ptr Obj) : Set (Ptr Obj) := {a | a.obj = p.obj}

/-- The first `n` bytes from `p` on. -/
def span (p : Ptr Obj) (n : ℕ) : Set (Ptr Obj) := {a | a ∈ p.region n}

namespace DriverCall

/-- The commands a function sends. -/
def commands : DriverCall → Set UInt8
  | getNetworkData _ _ _ | getIpAddress _ | getSubnetMask _ | getGatewayIP _ => {getIpaddrCmd}
  | getRemoteData _ _ _ => {getRemoteDataCmd}
  | wifiDriverInit | wifiDriverDeinit | getSSIDNetworks _ => ∅
  | wifiSetNetwork _ _ => {setNetCmd}
  | wifiSetPassphrase _ _ _ _ => {setPassphraseCmd}
  | wifiSetKey _ _ _ _ _ => {setKeyCmd}
  | config _ _ _ _ => {setIpConfigCmd}
  | setDNS _ _ _ => {setDnsConfigCmd}
  | setHostname _ => {setHostnameCmd}
  | disconnect => {disconnectCmd}
  | getConnectionStatus => {getConnStatusCmd}
  | getMacAddress => {getMacaddrCmd}
  | getCurrentSSID => {getCurrSsidCmd}
  | getCurrentBSSID => {getCurrBssidCmd}
  | getCurrentRSSI => {getCurrRssiCmd}
  | getCurrentEncryptionType => {getCurrEnctCmd}
  | startScanNetworks => {WiFiNINA.startScanNetworks}
  | getScanNetworks => {scanNetworks}
  | getEncTypeNetworks _ => {getIdxEnctCmd}
  | getBSSIDNetworks _ _ => {getIdxBssid}
  | getChannelNetworks _ => {getIdxChannelCmd}
  | getRSSINetworks _ => {getIdxRssiCmd}
  | reqHostByName _ => {reqHostByNameCmd}
  | getHostByNameResults _ => {getHostByNameCmd}
  | getHostByName _ _ => {reqHostByNameCmd, getHostByNameCmd}
  | getFwVersion => {getFwVersionCmd}
  | getTime => {getTimeCmd}
  | setPowerMode _ => {setPowerModeCmd}
  | wifiSetApNetwork _ _ _ => {setApNetCmd}
  | wifiSetApPassphrase _ _ _ _ _ => {setApPassphraseCmd}
  | ping _ _ => {pingCmd}
  | debug _ => {setDebugCmd}
  | getTemperature => {getTemperatureCmd}
  | pinMode _ _ => {setPinMode}
  | digitalWrite _ _ => {setDigitalWrite}
  | analogWrite _ _ => {setAnalogWrite}
  | startServer _ _ _ | startServerIpAddress _ _ _ _ => {startServerTcpCmd}
  | startClient _ _ _ _ | startClientHostname _ _ _ _ _ _ => {startClientTcpCmd}
  | stopClient _ => {stopClientTcpCmd}
  | getServerState _ => {getStateTcpCmd}
  | getClientState _ => {getClientStateTcpCmd}
  | availData _ => {availDataTcpCmd}
  | getData _ _ _ => {getDataTcpCmd}
  | getDataBuf _ _ _ => {getDatabufTcpCmd}
  | insertDataBuf _ _ _ => {insertDatabufCmd}
  | sendUdpData _ => {sendDataUdpCmd}
  | sendData _ _ _ => {sendDataTcpCmd}
  | checkDataSent _ => {dataSentTcpCmd}
  | getSocket => {getSocketCmd}

/-- Where a function stores outside the variables of the library: in the memory its caller
lends it, and behind a variable for which it declares a larger capacity.  The capacity of the
buffer of `ServerDrv_getDataBuf` is read from memory, and that of the last polls of
`ServerDrv_checkDataSent` wraps. -/
def writable : DriverCall → Set (Ptr Obj)
  | getNetworkData ip mask gwip => span ip 4 ∪ span mask 4 ∪ span gwip 4
  | getRemoteData _ ip port => span ip 4 ∪ span port 2
  | getIpAddress ip | getSubnetMask ip | getGatewayIP ip => span ip 4
  | getBSSIDNetworks _ bssid => span bssid 6
  | getHostByNameResults aResult | getHostByName _ aResult => span aResult 4
  | getDataBuf _ data _ => wholeObject data
  | setPowerMode _ | wifiSetApNetwork _ _ _ | wifiSetApPassphrase _ _ _ _ _ =>
      span (varAt .data 1) 4
  | debug _ => span (varAt .data 1) 2
  | getData _ _ _ => span (varAt .dataPtr 4) 255
  | checkDataSent _ => span (varAt .response 1) 256
  | _ => ∅

/-- How many exchanges a function makes at most. -/
def budget : DriverCall → ℕ
  | wifiDriverInit | wifiDriverDeinit | getSSIDNetworks _ => 0
  | getHostByName _ _ => 2
  | checkDataSent _ => 25
  | _ => 1

/-- **Every function of the drivers** is composed of exchanges. -/
theorem exchanging (c : DriverCall) {C : Set UInt8} {W : Set (Ptr Obj)} (hC : c.commands ⊆ C)
    (hW : OwnMemory ⊆ W) (hwritable : c.writable ⊆ W) : Exchanging C W c.budget c.answer := by
  cases c with
  | getNetworkData ip mask gwip =>
      exact (exchanging_getNetworkData hW (hC rfl) (fun a ha => hwritable (.inl (.inl ha)))
        (fun a ha => hwritable (.inl (.inr ha))) fun a ha => hwritable (.inr ha)).map _
  | getRemoteData sock ip port =>
      exact (exchanging_getRemoteData hW (hC rfl) sock (fun a ha => hwritable (.inl ha))
        fun a ha => hwritable (.inr ha)).map _
  | wifiDriverInit => exact (Composed.basic .begin).map _
  | wifiDriverDeinit => exact (Composed.basic .end').map _
  | wifiSetNetwork ssid ssidLen =>
      exact (exchanging_wifiSetNetwork hW (hC rfl) ssid ssidLen).map _
  | wifiSetPassphrase ssid ssidLen passphrase len =>
      exact (exchanging_wifiSetPassphrase hW (hC rfl) ssid ssidLen passphrase len).map _
  | wifiSetKey ssid ssidLen keyIdx key len =>
      exact (exchanging_wifiSetKey hW (hC rfl) ssid ssidLen keyIdx key len).map _
  | config validParams localIp gateway subnet =>
      exact (exchanging_config hW (hC rfl) validParams localIp gateway subnet).map _
  | setDNS validParams dnsServer1 dnsServer2 =>
      exact (exchanging_setDNS hW (hC rfl) validParams dnsServer1 dnsServer2).map _
  | setHostname hostname => exact (exchanging_setHostname hW (hC rfl) hostname).map _
  | disconnect => exact (exchanging_disconnect hW (hC rfl)).map _
  | getConnectionStatus => exact (exchanging_getConnectionStatus hW (hC rfl)).map _
  | getMacAddress => exact (exchanging_getMacAddress hW (hC rfl)).map _
  | getIpAddress ip =>
      exact (exchanging_refreshNetworkData hW (hC rfl) .localIp fun a ha => hwritable ha).map _
  | getSubnetMask mask =>
      exact (exchanging_refreshNetworkData hW (hC rfl) .subnetMask fun a ha => hwritable ha).map _
  | getGatewayIP ip =>
      exact (exchanging_refreshNetworkData hW (hC rfl) .gatewayIp fun a ha => hwritable ha).map _
  | getCurrentSSID => exact (exchanging_getCurrentSSID hW (hC rfl)).map _
  | getCurrentBSSID => exact (exchanging_getCurrentBSSID hW (hC rfl)).map _
  | getCurrentRSSI => exact (exchanging_getCurrentRSSI hW (hC rfl)).map _
  | getCurrentEncryptionType => exact (exchanging_getCurrentEncryptionType hW (hC rfl)).map _
  | startScanNetworks => exact (exchanging_startScanNetworks hW (hC rfl)).map _
  | getScanNetworks => exact (exchanging_getScanNetworks hW (hC rfl)).map _
  | getSSIDNetworks networkItem => exact (Composed.pure _).map _
  | getEncTypeNetworks networkItem =>
      exact (exchanging_getEncTypeNetworks hW (hC rfl) networkItem).map _
  | getBSSIDNetworks networkItem bssid =>
      exact (exchanging_getBSSIDNetworks hW (hC rfl) networkItem fun a ha => hwritable ha).map _
  | getChannelNetworks networkItem =>
      exact (exchanging_getChannelNetworks hW (hC rfl) networkItem).map _
  | getRSSINetworks networkItem =>
      exact (exchanging_getRSSINetworks hW (hC rfl) networkItem).map _
  | reqHostByName aHostname => exact (exchanging_reqHostByName hW (hC rfl) aHostname).map _
  | getHostByNameResults aResult =>
      exact (exchanging_getHostByNameResults hW (hC rfl) fun a ha => hwritable ha).map _
  | getHostByName aHostname aResult =>
      exact (exchanging_getHostByName hW (hC (.inl rfl)) (hC (.inr rfl)) aHostname
        fun a ha => hwritable ha).map _
  | getFwVersion => exact (exchanging_getFwVersion hW (hC rfl)).map _
  | getTime => exact (exchanging_getTime hW (hC rfl)).map _
  | setPowerMode mode =>
      exact (exchanging_setPowerMode hW (fun a ha => hwritable ha) (hC rfl) mode).map _
  | wifiSetApNetwork ssid ssidLen channel =>
      exact (exchanging_wifiSetApNetwork hW (fun a ha => hwritable ha) (hC rfl)
        ssid ssidLen channel).map _
  | wifiSetApPassphrase ssid ssidLen passphrase len channel =>
      exact (exchanging_wifiSetApPassphrase hW (fun a ha => hwritable ha) (hC rfl)
        ssid ssidLen passphrase len channel).map _
  | ping ipAddress ttl => exact (exchanging_ping hW (hC rfl) ipAddress ttl).map _
  | debug on => exact (exchanging_debug hW (fun a ha => hwritable ha) (hC rfl) on).map _
  | getTemperature => exact (exchanging_getTemperature hW (hC rfl)).map _
  | pinMode pin mode => exact (exchanging_requestPin pin mode hW (hC rfl) rfl).map _
  | digitalWrite pin value => exact (exchanging_requestPin pin value hW (hC rfl) rfl).map _
  | analogWrite pin value => exact (exchanging_requestPin pin value hW (hC rfl) rfl).map _
  | startServer port sock protMode =>
      exact (exchanging_startServer hW (hC rfl) port sock protMode).map _
  | startServerIpAddress ipAddress port sock protMode =>
      exact (exchanging_startServerIpAddress hW (hC rfl) ipAddress port sock protMode).map _
  | startClient ipAddress port sock protMode =>
      exact (exchanging_startClient hW (hC rfl) ipAddress port sock protMode).map _
  | startClientHostname host hostLen ipAddress port sock protMode =>
      exact (exchanging_startClientHostname hW (hC rfl) host hostLen ipAddress port sock
        protMode).map _
  | stopClient sock => exact (exchanging_stopClient hW (hC rfl) sock).map _
  | getServerState sock => exact (exchanging_getServerState hW (hC rfl) sock).map _
  | getClientState sock => exact (exchanging_getClientState hW (hC rfl) sock).map _
  | availData sock => exact (exchanging_availData hW (hC rfl) sock).map _
  | getData sock data peek =>
      exact (exchanging_getData hW (fun a ha => hwritable ha) (hC rfl) sock data peek).map _
  | getDataBuf sock data dataLen =>
      exact (exchanging_getDataBuf hW (hC rfl) sock dataLen fun k a ha =>
        hwritable (Ptr.obj_of_mem_region ha)).map _
  | insertDataBuf sock data len =>
      exact (exchanging_insertDataBuf hW (hC rfl) sock data len).map _
  | sendUdpData sock => exact (exchanging_sendUdpData hW (hC rfl) sock).map _
  | sendData sock data len => exact (exchanging_sendData hW (hC rfl) sock data len).map _
  | checkDataSent sock =>
      exact (exchanging_checkDataSent hW (fun a ha => hwritable ha) (hC rfl) sock).map _
  | getSocket => exact (exchanging_getSocket hW (hC rfl)).map _

end DriverCall

end WiFiNINA
