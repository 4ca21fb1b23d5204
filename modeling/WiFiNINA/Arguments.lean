import WiFiNINA.FixedWidth
import WiFiNINA.WiFi
import WiFiNINA.WiFiClient

/-!
# Requests with arguments of any length

Buffers and strings reach the frame through lengths of 16 or 8 bits, and nothing
checks that the frame fits `txBuffer`.  For each caller there is a longest argument
up to which its request carries all of it; beyond, either the length is cut or the
frame runs over the end of the buffer.
-/

namespace WiFiNINA

open LengthCode SpiDrv World

def Obj.IsAuto : Obj → Prop
  | .auto _ _ => True
  | .null | .heap _ _ | .user _ | .global _ => False

/-- At `p` there is the string `str` of the application. -/
structure IsString (m : Memory Obj UInt8) (p : Ptr Obj) (str : List UInt8) : Prop where
  bytes : m.loadList p (str.length + 1) = str ++ [0]
  nonzero : 0 ∉ str
  addressable : str.length < 2 ^ 32
  foreign : ¬ p.obj.IsAuto

section Strings
variable {m : Memory Obj UInt8} {p : Ptr Obj} {str : List UInt8} {b : Bus}

/-- What the library stores in its own variables is not in the application's objects. -/
theorem loadList_storeList_auto (hp : ¬ p.obj.IsAuto) {var : Var} {size off : ℕ}
    {cs : List UInt8} (n : ℕ) :
    (m.storeList ⟨.auto var size, off⟩ cs).loadList p n = m.loadList p n := by
  refine Memory.loadList_storeList_of_obj_ne m n fun hobj => hp ?_
  rw [hobj]
  trivial

/-- The variables of the library do not overlap. -/
theorem loadList_storeList_var {m : Memory Obj UInt8} {var var' : Var} {size size' off off' n : ℕ}
    {cs : List UInt8} (h : var' ≠ var) :
    (m.storeList ⟨.auto var size, off⟩ cs).loadList ⟨.auto var' size', off'⟩ n =
      m.loadList ⟨.auto var' size', off'⟩ n :=
  Memory.loadList_storeList_of_obj_ne m n fun hobj => h (Obj.auto.inj hobj).1

theorem loadList_var {m : Memory Obj UInt8} {q : Ptr Obj} {cs : List UInt8} {n : ℕ}
    (h : cs.length = n) : (m.storeList q cs).loadList q n = cs := by
  rw [← h, Memory.loadList_storeList]

/-! A variable holds what it was initialised with. -/

@[simp] theorem loadList_byte {m : Memory Obj UInt8} {q : Ptr Obj} (x : UInt8) :
    (m.storeList q [x]).loadList q 1 = [x] := loadList_var rfl
@[simp] theorem loadList_half {m : Memory Obj UInt8} {q : Ptr Obj} (x : UInt16) :
    (m.storeList q (le16 x)).loadList q 2 = le16 x := loadList_var rfl
@[simp] theorem loadList_word {m : Memory Obj UInt8} {q : Ptr Obj} (x : UInt32) :
    (m.storeList q (le32 x)).loadList q 4 = le32 x := loadList_var rfl

theorem IsString.storeList_auto (h : IsString m p str) {var : Var} {size off : ℕ}
    {cs : List UInt8} : IsString (m.storeList ⟨.auto var size, off⟩ cs) p str where
  bytes := by rw [loadList_storeList_auto h.foreign, h.bytes]
  nonzero := h.nonzero
  addressable := h.addressable
  foreign := h.foreign

/-- The string without its end. -/
theorem IsString.loadList (h : IsString m p str) : m.loadList p str.length = str := by
  have htake := congrArg (List.take str.length) h.bytes
  rwa [Memory.take_loadList _ _ (Nat.le_succ _), List.take_left] at htake

theorem val_strlenFrom {n : ℕ} (hbytes : b.mem.loadList p (str.length + 1) = str ++ [0])
    (hnonzero : 0 ∉ str) (hn : str.length < n) : (Bus.strlenFrom n p).val b = str.length := by
  induction str generalizing p n with
  | nil =>
      obtain ⟨n, rfl⟩ := Nat.exists_eq_succ_of_ne_zero (Nat.ne_of_gt hn)
      have hzero : b.mem.loadList p 1 = [0] := hbytes
      simp [Bus.strlenFrom, hzero]
  | cons c str ih =>
      obtain ⟨n, rfl⟩ := Nat.exists_eq_succ_of_ne_zero (Nat.ne_of_gt (Nat.zero_lt_of_lt hn))
      rw [List.mem_cons, not_or] at hnonzero
      rw [List.length_cons, Memory.loadList_succ, List.cons_append, List.cons.injEq] at hbytes
      have hfirst : b.mem.loadList p 1 = [c] := by
        rw [Memory.loadList_succ, hbytes.1]
        rfl
      have hrest := ih hbytes.2 hnonzero.2 (Nat.lt_of_succ_lt_succ hn)
      simp [Bus.strlenFrom, hfirst, Ne.symm hnonzero.1, hrest]

theorem val_strlen (h : IsString b.mem p str) : (Bus.strlen p).val b = str.length :=
  val_strlenFrom h.bytes h.nonzero h.addressable

/-- A string that is not too long is what its length byte and its pointer select. -/
theorem IsString.bytes_param (h : IsString m p str) (hlen : str.length < 256) :
    (⟨UInt8.ofNat str.length, p⟩ : TParam).bytes m = str := by
  rw [Param.bytes, toNat_uint8, UInt8.toNat_ofNat_of_lt' hlen, h.loadList]

end Strings

/-- From `b` to `b'` either nothing was transmitted, or transfer number `k` was the request
`f` and all that was written to `txBuffer` was inside it. -/
def Conveys (b : Bus) (k : ℕ) (f : List UInt8) (b' : Bus) : Prop :=
  b'.transmitted = b.transmitted ∨
    ((b'.transmitted.drop b.transmitted.length)[k]? = some f ∧
      ∀ a ∈ b'.txBuffer.since b.txBuffer, a.off < spiMaxTxBuffer)

section Conveys
variable {L L' : Type} [LengthCode L UInt8] [LengthCode L' UInt8] {cmd numParam : UInt8}
  {inParams : List (Param L)} {maxSize : UInt16} {outParams : List (Param L')}
  {maxNumParams : UInt8} {xs : List (List UInt8)} {b b₀ b' : Bus} {k : ℕ}

variable (cmd numParam inParams maxSize outParams maxNumParams)

/-- A frame that does not fit is written over the end of `txBuffer`. -/
theorem log_exchange (hn : inParams.length = numParam.toNat)
    (hmax : maxNumParams.toNat ≤ outParams.length)
    (hfits : ¬ Fits L (inParams.map fun p => p.bytes b.mem)) :
    ∃ new, ((exchange cmd numParam inParams maxSize outParams maxNumParams).state b).txBuffer.log =
      new ++ b.txBuffer.log ∧ txAt 255 ∈ new := by
  rw [fits_iff_length L cmd, spiMaxTxBuffer] at hfits
  simp only [exchange, Prog.state_bind, Bus.state_uninit]
  rw [txBuffer_receiveResponse _ _ _ _ _ _ hmax, Memory.log_storeList,
    txBuffer_send _ _ _ _ hn, Memory.log_storeList, ← List.append_assoc]
  refine ⟨_, rfl, List.mem_append_right _ (List.mem_reverse.mpr ?_)⟩
  exact Ptr.mem_region.mpr ⟨255, by omega, by simp⟩

/-- **An exchange conveys its arguments exactly if their frame fits.** -/
theorem conveys_iff (hpre : Continues b b₀)
    (hk : b₀.transmitted.length = b.transmitted.length + k)
    (hn : inParams.length = numParam.toNat) (hmax : maxNumParams.toNat ≤ outParams.length)
    (hxs : Fits L xs → (inParams.map fun p => p.bytes b₀.mem) = xs)
    (hrest : Continues
      ((exchange cmd numParam inParams maxSize outParams maxNumParams).state b₀) b') :
    Conveys b k (frame L cmd xs) b' ↔ Fits L xs := by
  obtain ⟨front, hfront⟩ := hpre.transmitted
  obtain ⟨tail, htail⟩ := hrest.transmitted
  rw [transmitted_exchange _ _ _ _ _ _ _ hn hmax, ← hfront] at htail
  have hlen : front.length = k := by
    rw [← hfront, List.length_append] at hk
    omega
  -- the transfer number `k` is the frame of what the parameters select
  have hget : (b'.transmitted.drop b.transmitted.length)[k]? =
      some (frame L cmd (inParams.map fun p => p.bytes b₀.mem)) := by
    rw [← htail, List.append_assoc, List.append_assoc, List.drop_left,
      List.getElem?_append_right (by omega), hlen, Nat.sub_self]
    rfl
  refine ⟨?_, fun hfits => .inr ⟨by rw [hget, hxs hfits], ?_⟩⟩
  · rintro (hnone | ⟨hreq, hoff⟩)
    · have hlength := congrArg List.length (htail.trans hnone)
      simp only [List.length_append, List.length_cons] at hlength
      omega
    · have hsame := Option.some.inj (hget.symm.trans hreq)
      rw [fits_iff_length L cmd, ← hsame, ← fits_iff_length]
      by_contra hfits
      obtain ⟨new, hlog, hmem⟩ := log_exchange cmd numParam inParams maxSize outParams
        maxNumParams hn hmax hfits
      obtain ⟨new₀, hlog₀, -⟩ := hpre.txBuffer
      obtain ⟨new', hlog', -⟩ := hrest.txBuffer
      have hall : b'.txBuffer.log = (new' ++ (new ++ new₀)) ++ b.txBuffer.log := by
        rw [hlog', hlog, hlog₀, List.append_assoc, List.append_assoc]
      have hbad := hoff (txAt 255) (by
        rw [Memory.since_of_log hall]
        exact List.mem_append_right _ (List.mem_append_left _ hmem))
      exact absurd hbad (by decide)
  · have hsize : 3 + paramsSize inParams ≤ 251 := by
      rw [← fieldsSize_bytes inParams b₀.mem, hxs hfits]
      exact (fits_iff L xs).mp hfits
    exact ((hpre.trans (continues_exchange hn hmax hsize b₀)).trans hrest).off_lt

end Conveys

section Onward
variable {α β : Type}

theorem continues_auto (var : Var) (init : List UInt8) :
    Prog.Guarantees Continues (Bus.auto var init) :=
  continues_of_mem fun _ => ⟨_, rfl⟩

theorem continues_loadList (p : Ptr Obj) (n : ℕ) :
    Prog.Guarantees Continues (Bus.loadList p n) :=
  continues_of_mem fun _ => ⟨_, rfl⟩

theorem continues_pure (a : α) : Prog.Guarantees Continues (pure a : Prog Bus α) :=
  Prog.Guarantees.pure Continues.refl a

theorem continues_requestByte {cmd numParam : UInt8} {inParams : List TParam}
    (hn : inParams.length = numParam.toNat) (hfits : 3 + paramsSize inParams ≤ 251) :
    Prog.Guarantees Continues (ServerDrv.requestByte cmd numParam inParams) :=
  continues_bind (continues_auto _ _) fun _ =>
    continues_bind (continues_exchange hn le_rfl hfits) fun _ =>
      continues_bind (continues_loadList _ _) fun _ => continues_pure _

theorem continues_getClientState (sock : UInt8) :
    Prog.Guarantees Continues (ServerDrv.getClientState sock) :=
  continues_bind (continues_auto _ _) fun _ =>
    continues_requestByte rfl (by simp [paramsSize])

theorem continues_getDataBuf (sock : UInt8) (data dataLen : Ptr Obj) :
    Prog.Guarantees Continues (ServerDrv.getDataBuf sock data dataLen) :=
  continues_bind (continues_auto _ _) fun _ => continues_bind (continues_loadList _ _) fun _ =>
    continues_bind (continues_exchange rfl le_rfl (by simp [paramsSize])) fun _ =>
      continues_pure _

/-- The polls hand on a parameter array of the same length. -/
theorem continues_pollDataSent (sock response : Ptr Obj) {left : ℕ} {outParams : List TParam}
    (hlen : 1 ≤ outParams.length) :
    Prog.Guarantees Continues (ServerDrv.pollDataSent sock response left outParams) := by
  induction left generalizing outParams with
  | zero => exact continues_pure _
  | succ left ih =>
      intro b
      rw [ServerDrv.pollDataSent_step, Prog.state_bind, Prog.state_bind, Bus.state_loadList,
        Prog.state_ite, Prog.state_pure]
      have hpoll : Prog.Guarantees Continues
          (exchange dataSentTcpCmd 1 [(⟨1, sock⟩ : TParam)] 20 outParams 1) :=
        continues_exchange rfl hlen (by simp [paramsSize])
      split
      · exact hpoll b
      · refine (hpoll b).trans (ih ?_ _)
        rw [params_exchange dataSentTcpCmd 1 [(⟨1, sock⟩ : TParam)] 20 outParams 1 b rfl hlen,
          length_setLens]
        exact hlen

theorem continues_checkDataSent (sock : UInt8) :
    Prog.Guarantees Continues (ServerDrv.checkDataSent sock) :=
  continues_bind (continues_auto _ _) fun _ => continues_bind (continues_auto _ _) fun _ =>
    continues_pollDataSent _ _ le_rfl

theorem continues_getConnectionStatus :
    Prog.Guarantees Continues WiFiDrv.getConnectionStatus :=
  continues_bind (continues_auto _ _) fun _ =>
    continues_bind (continues_exchange rfl le_rfl (by simp [paramsSize])) fun _ =>
      continues_bind (continues_loadList _ _) fun _ => continues_pure _

theorem continues_pollStatus (attempts : ℕ) :
    Prog.Guarantees Continues (WiFi.pollStatus attempts) := by
  induction attempts with
  | zero => exact continues_bind continues_getConnectionStatus fun _ => continues_pure _
  | succ attempts ih =>
      exact continues_bind continues_getConnectionStatus fun _ =>
        Prog.Guarantees.ite _ ih (continues_pure _)

theorem continues_getHostByNameResults (aResult : Ptr Obj) :
    Prog.Guarantees Continues (WiFiDrv.getHostByNameResults aResult) :=
  continues_bind (continues_exchange rfl le_rfl (by simp [paramsSize])) fun _ =>
    continues_bind (continues_loadList _ _) fun _ =>
      Prog.Guarantees.ite _ (continues_pure _)
        (continues_bind (continues_of_mem fun _ => ⟨_, rfl⟩) fun _ => continues_pure _)

/-- The driver of `w` went on to that of `w'`. -/
def Onward (w w' : World) : Prop := Continues w.bus w'.bus

/-- What is left of a call goes on from where the driver is. -/
theorem continues_of_onward {p : Prog World α} (h : Prog.Guarantees Onward p) (w : World)
    (b : Bus) : Continues b (p.state { w with bus := b }).bus :=
  h { w with bus := b }

theorem onward_bind {p : Prog World α} {f : α → Prog World β}
    (hp : Prog.Guarantees Onward p) (hf : ∀ a, Prog.Guarantees Onward (f a)) :
    Prog.Guarantees Onward (p >>= f) :=
  Prog.Guarantees.bind (R := Onward) Continues.trans hp hf

theorem onward_of_bus {p : Prog World α} (h : ∀ w, (p.state w).bus = w.bus) :
    Prog.Guarantees Onward p := by
  intro w
  rw [Onward, h]
  exact Continues.refl _

theorem onward_pure (a : α) : Prog.Guarantees Onward (pure a : Prog World α) :=
  onward_of_bus fun _ => rfl

theorem onward_onBus {p : Prog Bus α} (h : Prog.Guarantees Continues p) :
    Prog.Guarantees Onward (onBus p) :=
  fun w => h w.bus

theorem onward_malloc (size : ℕ) : Prog.Guarantees Onward (malloc size) := by
  refine onward_of_bus ?_
  intro w
  simp only [malloc, Prog.state_mk]
  split <;> rfl

theorem onward_entry (s : ℕ) : Prog.Guarantees Onward (entry s) := onward_of_bus fun _ => rfl
theorem onward_setEntry (s : ℕ) (e : Entry) : Prog.Guarantees Onward (setEntry s e) :=
  onward_of_bus fun _ => rfl

theorem onward_allocate (s : ℕ) : Prog.Guarantees Onward (WiFiSocketBuffer.allocate s) :=
  onward_bind (onward_entry s) fun _ => Prog.Guarantees.ite _
    (onward_bind (onward_malloc _) fun _ => onward_setEntry _ _) (onward_pure _)

theorem onward_refill (s : ℕ) : Prog.Guarantees Onward (WiFiSocketBuffer.refill s) :=
  onward_bind (onward_entry s) fun _ => Prog.Guarantees.ite _
    (onward_bind (onward_allocate s) fun _ =>
      onward_bind (onward_onBus (continues_auto _ _)) fun _ =>
      onward_bind (onward_entry s) fun _ =>
      onward_bind (onward_onBus (continues_getDataBuf _ _ _)) fun _ => Prog.Guarantees.ite _
        (onward_bind (onward_onBus (continues_loadList _ _)) fun _ => onward_setEntry _ _)
        (onward_pure _))
    (onward_pure _)

theorem onward_close (s : ℕ) : Prog.Guarantees Onward (WiFiSocketBuffer.close s) :=
  onward_bind (onward_entry s) fun _ => Prog.Guarantees.ite _
    (onward_bind (onward_of_bus fun _ => rfl) fun _ => onward_setEntry _ _) (onward_pure _)

theorem onward_available (sock : UInt8) : Prog.Guarantees Onward (WiFiClient.available sock) :=
  Prog.Guarantees.ite _ (onward_pure _) (onward_bind (onward_refill _) fun _ =>
    onward_bind (onward_entry _) fun _ => onward_pure _)

theorem onward_connected (sock : UInt8) : Prog.Guarantees Onward (WiFiClient.connected sock) :=
  Prog.Guarantees.ite _ (onward_pure _) (onward_bind (onward_available sock) fun _ =>
    Prog.Guarantees.ite _ (onward_pure _)
      (onward_bind (Prog.Guarantees.ite _ (onward_pure _)
          (onward_onBus (continues_getClientState sock))) fun _ =>
        Prog.Guarantees.ite _ (onward_bind (onward_close _) fun _ => onward_pure _)
          (onward_pure _)))

theorem onward_awaitConnection (sock : UInt8) (start : UInt32) (fuel : ℕ) :
    Prog.Guarantees Onward (WiFiClient.awaitConnection sock start fuel) := by
  induction fuel with
  | zero => exact onward_pure _
  | succ fuel ih =>
      exact onward_bind (onward_connected sock) fun _ => Prog.Guarantees.ite _ (onward_pure _)
        (onward_bind (onward_of_bus fun _ => rfl) fun _ =>
          onward_bind (onward_of_bus fun _ => rfl) fun _ =>
            Prog.Guarantees.ite _ ih (onward_pure _))

theorem onward_connectCommon (fuel : ℕ) (sock : UInt8) :
    Prog.Guarantees Onward (WiFiClient.connectCommon fuel sock) :=
  onward_bind (onward_of_bus fun _ => rfl) fun _ =>
    onward_bind (onward_awaitConnection sock _ fuel) fun _ => Prog.Guarantees.ite _
      (onward_bind (onward_connected sock) fun _ => onward_pure _) (onward_pure _)

end Onward

/-! ## The callers -/

section Fits
variable {xs ys : List UInt8}

theorem fits_string : Fits UInt8 [xs] ↔ xs.length ≤ 247 := by
  simp [fits_iff]
  omega

theorem fits_strings : Fits UInt8 [xs, ys] ↔ xs.length + ys.length ≤ 246 := by
  simp [fits_iff]
  omega

theorem fits_buffer {sock : UInt8} : Fits UInt16 [[sock], xs] ↔ xs.length ≤ 243 := by
  simp [fits_iff]
  omega

theorem fits_startClient (ipAddress : UInt32) (port : UInt16) (sock protMode : UInt8) :
    Fits UInt8 [xs, le32 ipAddress, le16 port, [sock], [protMode]] ↔ xs.length ≤ 235 := by
  simp [fits_iff]
  omega

end Fits

section Callers
variable {b b₀ b' : Bus} {w : World} {p : Ptr Obj} {str : List UInt8} {k : ℕ}

/-- `ServerDrv.requestByte`, whatever follows it. -/
theorem conveys_requestByte {cmd numParam : UInt8} {inParams : List TParam}
    {xs : List (List UInt8)} (hpre : Continues b b₀)
    (hk : b₀.transmitted.length = b.transmitted.length + k)
    (hn : inParams.length = numParam.toNat)
    (hxs : Fits UInt8 xs → (inParams.map fun p =>
      p.bytes (b₀.mem.storeList ⟨.auto .data 1, 0⟩ [0])) = xs)
    (hrest : Continues ((ServerDrv.requestByte cmd numParam inParams).state b₀) b') :
    Conveys b k (frame UInt8 cmd xs) b' ↔ Fits UInt8 xs := by
  simp only [ServerDrv.requestByte, Prog.state_bind, Prog.state_pure, Bus.state_loadList]
    at hrest
  exact conveys_iff cmd numParam inParams 16 [(⟨1, ⟨.auto .data 1, 0⟩⟩ : TParam)] 1
    (hpre.trans (continues_auto .data [0] b₀)) hk hn le_rfl hxs hrest

theorem conveys_setHostname (hstr : IsString b.mem p str) :
    Conveys b 0 (frame UInt8 setHostnameCmd [str]) ((WiFi.setHostname p).state b) ↔
      str.length ≤ 247 := by
  rw [← fits_string]
  have hlen := val_strlen hstr
  simp only [WiFi.setHostname, WiFiDrv.setHostname, Prog.state_bind, Bus.state_strlen,
    Prog.state_pure, hlen]
  refine conveys_requestByte (Continues.refl b) rfl rfl (fun hfits => ?_) (Continues.refl _)
  have hle := fits_string.mp hfits
  simp only [List.map_cons, List.map_nil, hstr.storeList_auto.bytes_param (by omega)]

theorem conveys_hostByName {aResult : Ptr Obj} (hstr : IsString b.mem p str) :
    Conveys b 0 (frame UInt8 reqHostByNameCmd [str]) ((WiFi.hostByName p aResult).state b) ↔
      str.length ≤ 247 := by
  rw [← fits_string]
  have hlen := val_strlen (b := { b with mem := b.mem.storeList ⟨.auto .data 1, 0⟩ [0] })
    hstr.storeList_auto
  simp only [WiFi.hostByName, WiFiDrv.getHostByName, WiFiDrv.reqHostByName, Prog.state_bind,
    Bus.state_auto, Bus.val_auto, Bus.state_strlen, Prog.state_pure, Bus.state_loadList,
    List.length_singleton, hlen]
  refine conveys_iff _ 1 [(⟨UInt8.ofNat str.length, p⟩ : TParam)] 20
    [(⟨1, ⟨.auto .data 1, 0⟩⟩ : TParam)] 1 (continues_auto .data [0] b) rfl rfl le_rfl
    (fun hfits => ?_)
    (Prog.Guarantees.ite _ (continues_getHostByNameResults _) (continues_pure _) _)
  have hle := fits_string.mp hfits
  simp only [List.map_cons, List.map_nil, Bus.state_auto]
  rw [hstr.storeList_auto.bytes_param (by omega)]

theorem conveys_beginOpen (hstr : IsString b.mem p str) :
    Conveys b 0 (frame UInt8 setNetCmd [str]) ((WiFi.beginOpen p).state b) ↔
      str.length ≤ 247 := by
  rw [← fits_string]
  have hlen := val_strlen hstr
  simp only [WiFi.beginOpen, WiFiDrv.wifiSetNetwork, Prog.state_bind, Bus.state_strlen,
    Bus.state_auto, Bus.val_auto, Bus.state_loadList, Prog.state_pure, hlen]
  refine conveys_iff _ 1 [(⟨UInt8.ofNat str.length, p⟩ : TParam)] 16
    [(⟨1, ⟨.auto .data 1, 0⟩⟩ : TParam)] 1 (continues_auto .data [0] b) rfl rfl le_rfl
    (fun hfits => ?_) (Prog.Guarantees.ite _ (continues_pure _) (continues_pollStatus _) _)
  have hle := fits_string.mp hfits
  simp only [List.map_cons, List.map_nil, Bus.state_auto]
  rw [hstr.storeList_auto.bytes_param (by omega)]

theorem conveys_beginPassphrase {q : Ptr Obj} {pass : List UInt8} (hstr : IsString b.mem p str)
    (hpass : IsString b.mem q pass) :
    Conveys b 0 (frame UInt8 setPassphraseCmd [str, pass])
        ((WiFi.beginPassphrase p q).state b) ↔
      str.length + pass.length ≤ 246 := by
  rw [← fits_strings]
  have hlen := val_strlen hstr
  have hlen' := val_strlen hpass
  simp only [WiFi.beginPassphrase, WiFiDrv.wifiSetPassphrase, Prog.state_bind, Bus.state_strlen,
    hlen, hlen']
  refine conveys_requestByte (Continues.refl b) rfl rfl (fun hfits => ?_)
    (Prog.Guarantees.ite _ (continues_pure _) (continues_pollStatus _) _)
  have hle := fits_strings.mp hfits
  simp only [List.map_cons, List.map_nil, hstr.storeList_auto.bytes_param (by omega),
    hpass.storeList_auto.bytes_param (by omega)]

/-- `ServerDrv_sendData`, whatever follows it. -/
theorem conveys_sendData {sock : UInt8} {buf : Ptr Obj} {size : UInt32} (hbuf : ¬ buf.obj.IsAuto)
    (hrest : Continues ((ServerDrv.sendData sock buf size.toUInt16).state b) b') :
    Conveys b 0 (frame UInt16 sendDataTcpCmd [[sock], b.mem.loadList buf size.toNat]) b' ↔
      size.toNat ≤ 243 := by
  have hfits : Fits UInt16 [[sock], b.mem.loadList buf size.toNat] ↔ size.toNat ≤ 243 := by
    rw [fits_buffer, Memory.length_loadList]
  rw [← hfits]
  simp only [ServerDrv.sendData, Prog.state_bind, Prog.state_pure, Bus.state_loadList] at hrest
  refine conveys_iff _ 2
    [(⟨1, ⟨.auto .sock 1, 0⟩⟩ : TDataParam), ⟨size.toUInt16, buf⟩] 20
    [(⟨1, ⟨.auto .response 1, 0⟩⟩ : TParam)] 1
    ((continues_auto .response [0] b).trans (continues_auto .sock [sock] _)) rfl rfl le_rfl
    (fun hle => ?_) hrest
  have hcut : size.toUInt16.toNat = size.toNat := by
    have := hfits.mp hle
    rw [UInt32.toNat_toUInt16]
    omega
  simp only [List.map_cons, List.map_nil, Param.bytes, Bus.state_auto, List.length_singleton,
    toNat_uint16, hcut, loadList_storeList_auto hbuf, UInt16.reduceToNat]
  rw [loadList_byte]

theorem conveys_write (sock : UInt8) (buf : Ptr Obj) (size : UInt32)
    (hsock : sock ≠ noSocketAvail) (hsize : size ≠ 0) (hbuf : ¬ buf.obj.IsAuto) :
    Conveys w.bus 0
        (frame UInt16 sendDataTcpCmd [[sock], w.bus.mem.loadList buf size.toNat])
        ((WiFiClient.write sock buf size).state w).bus ↔
      size.toNat ≤ 243 := by
  have htail : ∀ written : ℤ, Prog.Guarantees Onward
      (if written = 0 then pure 0 else do
        let sent ← onBus (ServerDrv.checkDataSent sock)
        if sent = 0 then pure 0 else pure written) := fun _ =>
    Prog.Guarantees.ite _ (onward_pure 0)
      (onward_bind (onward_onBus (continues_checkDataSent sock)) fun _ =>
        Prog.Guarantees.ite _ (onward_pure 0) (onward_pure _))
  refine conveys_sendData hbuf ?_
  rw [WiFiClient.write, if_neg (not_or.mpr ⟨hsock, hsize⟩), Prog.state_bind, state_onBus]
  exact continues_of_onward (htail _) w _

/-! ### A connection by name -/

theorem transmitted_getSocket (b : Bus) :
    (ServerDrv.getSocket.state b).transmitted.length = b.transmitted.length + 2 := by
  simp only [ServerDrv.getSocket, Prog.state_bind, Prog.state_pure, Bus.val_auto, Bus.state_auto,
    Bus.state_loadList]
  rw [transmitted_exchange _ _ _ _ _ _ _ rfl le_rfl, List.length_append]
  rfl

theorem continues_getSocket : Prog.Guarantees Continues ServerDrv.getSocket :=
  continues_bind (continues_auto _ _) fun _ =>
    continues_bind (continues_exchange rfl le_rfl (by simp [paramsSize])) fun _ =>
      continues_bind (continues_loadList _ _) fun _ => continues_pure _

theorem IsString.getSocket (h : IsString b.mem p str) :
    IsString (ServerDrv.getSocket.state b).mem p str where
  bytes := by
    simp only [ServerDrv.getSocket, Prog.state_bind, Prog.state_pure, Bus.val_auto,
      Bus.state_auto, Bus.state_loadList]
    rw [mem_exchange _ _ _ _ _ _ _ rfl le_rfl, loadList_storeParams_of_obj_ne,
      loadList_storeList_auto h.foreign, h.bytes]
    intro q hq hobj
    rw [List.mem_singleton.mp hq] at hobj
    exact h.foreign (by rw [hobj]; trivial)
  nonzero := h.nonzero
  addressable := h.addressable
  foreign := h.foreign

/-- `ServerDrv_startClientHostname`, whatever follows it. -/
theorem conveys_startClientHostname {ipAddress : UInt32} {port : UInt16} {sock protMode : UInt8}
    (hpre : Continues b b₀) (hk : b₀.transmitted.length = b.transmitted.length + k)
    (hstr : IsString b₀.mem p str)
    (hrest : Continues ((ServerDrv.startClientHostname p (UInt8.ofNat str.length) ipAddress port
      sock protMode).state b₀) b') :
    Conveys b k (frame UInt8 startClientTcpCmd
        [str, le32 ipAddress, le16 port, [sock], [protMode]]) b' ↔
      str.length ≤ 235 := by
  rw [← fits_startClient ipAddress port sock protMode]
  simp only [ServerDrv.startClientHostname, Prog.state_bind, Bus.val_auto, Bus.state_auto,
    length_le32, length_le16, List.length_singleton] at hrest
  refine conveys_requestByte (hpre.trans (Continues.mem b₀ _)) ?_ ?_ (fun hfits => ?_) hrest
  · exact hk
  · rfl
  · have hle := (fits_startClient _ _ _ _).mp hfits
    have hname : (UInt8.ofNat str.length).toNat = str.length :=
      UInt8.toNat_ofNat_of_lt' (by rw [UInt8.size]; omega)
    simp only [List.map_cons, List.map_nil, Param.bytes, toNat_uint8, UInt8.reduceToNat, hname,
      loadList_storeList_auto hstr.foreign, hstr.loadList]
    simp (disch := decide) only [loadList_storeList_var]
    rw [loadList_word, loadList_half, loadList_byte, loadList_byte]

theorem conveys_connectSSLHostname {fuel : ℕ} {port : UInt16} (hstr : IsString w.bus.mem p str) :
    Conveys w.bus 2
        (frame UInt8 startClientTcpCmd [str, le32 0, le16 port, [0], [tlsMode]])
        ((WiFiClient.connectSSLHostname fuel p port).state w).bus ↔
      str.length ≤ 235 := by
  have hsock : toByte (ServerDrv.getSocket.val w.bus) = 0 := by
    rw [ServerDrv.val_getSocket]
    rfl
  have hne : (0 : UInt8) ≠ noSocketAvail := by decide
  have hlen := val_strlen hstr.getSocket
  refine conveys_startClientHostname (continues_getSocket w.bus) (transmitted_getSocket w.bus)
    hstr.getSocket ?_
  simp only [WiFiClient.connectSSLHostname, Prog.state_bind, val_onBus, state_onBus, hsock, hne,
    if_false, hlen, Bus.state_strlen]
  exact continues_of_onward (onward_connectCommon fuel 0) w _

end Callers

/-- **Which arguments are conveyed**: those whose whole frame fits `txBuffer`.  Beyond that
the length is cut or the frame overruns the buffer. -/
theorem arguments_conveyed (w : World) :
    (∀ (sock : UInt8) (buf : Ptr Obj) (size : UInt32), sock ≠ noSocketAvail → size ≠ 0 →
      ¬ buf.obj.IsAuto →
      (Conveys w.bus 0
          (frame UInt16 sendDataTcpCmd [[sock], w.bus.mem.loadList buf size.toNat])
          ((WiFiClient.write sock buf size).state w).bus ↔ size.toNat ≤ 243)) ∧
    (∀ (p aResult : Ptr Obj) (str : List UInt8), IsString w.bus.mem p str →
      (Conveys w.bus 0 (frame UInt8 reqHostByNameCmd [str])
          ((WiFi.hostByName p aResult).state w.bus) ↔ str.length ≤ 247)) ∧
    (∀ (p : Ptr Obj) (str : List UInt8), IsString w.bus.mem p str →
      (Conveys w.bus 0 (frame UInt8 setHostnameCmd [str])
          ((WiFi.setHostname p).state w.bus) ↔ str.length ≤ 247)) ∧
    (∀ (p : Ptr Obj) (str : List UInt8), IsString w.bus.mem p str →
      (Conveys w.bus 0 (frame UInt8 setNetCmd [str])
          ((WiFi.beginOpen p).state w.bus) ↔ str.length ≤ 247)) ∧
    (∀ (p q : Ptr Obj) (str pass : List UInt8), IsString w.bus.mem p str →
      IsString w.bus.mem q pass →
      (Conveys w.bus 0 (frame UInt8 setPassphraseCmd [str, pass])
          ((WiFi.beginPassphrase p q).state w.bus) ↔ str.length + pass.length ≤ 246)) ∧
    ∀ (fuel : ℕ) (p : Ptr Obj) (port : UInt16) (str : List UInt8), IsString w.bus.mem p str →
      (Conveys w.bus 2
          (frame UInt8 startClientTcpCmd [str, le32 0, le16 port, [0], [tlsMode]])
          ((WiFiClient.connectSSLHostname fuel p port).state w).bus ↔ str.length ≤ 235) :=
  ⟨fun sock buf size hsock hsize hbuf => conveys_write sock buf size hsock hsize hbuf,
    fun _ _ _ hstr => conveys_hostByName hstr, fun _ _ hstr => conveys_setHostname hstr,
    fun _ _ hstr => conveys_beginOpen hstr,
    fun _ _ _ _ hstr hpass => conveys_beginPassphrase hstr hpass,
    fun _ _ _ _ hstr => conveys_connectSSLHostname hstr⟩

/-- As much data as `txBuffer` has room for. -/
theorem arguments_conveyed_boot :
    Conveys World.boot.bus 0
      (frame UInt16 sendDataTcpCmd [[0], World.boot.bus.mem.loadList ⟨.user 0, 0⟩ 243])
      ((WiFiClient.write 0 ⟨.user 0, 0⟩ 243).state World.boot).bus :=
  ((arguments_conveyed World.boot).1 0 ⟨.user 0, 0⟩ 243 (by decide) (by decide) id).mpr
    (by decide)

/-- One byte more. -/
theorem write_244_not_conveyed :
    ¬ Conveys World.boot.bus 0
      (frame UInt16 sendDataTcpCmd [[0], World.boot.bus.mem.loadList ⟨.user 0, 0⟩ 244])
      ((WiFiClient.write 0 ⟨.user 0, 0⟩ 244).state World.boot).bus := by
  intro h
  exact absurd ((conveys_write 0 ⟨.user 0, 0⟩ 244 (by decide) (by decide) id).mp h) (by decide)

end WiFiNINA
