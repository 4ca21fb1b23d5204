import WiFiNINA.DriverCalls
import WiFiNINA.SpiDrv.Single

/-!
# The objects that replies are stored in

The decoder stores no more than the capacity it is told.  Whether the bytes stay inside the
object meant for them is therefore a matter of each caller, who writes down a pointer and a
capacity.
-/

namespace WiFiNINA

open LengthCode SpiDrv

/-- The addresses to which a decoder stores parameters of the given numbers of bytes, latest
first. -/
def storedAt : List (Ptr Obj × ℕ) → List ℕ → List (Ptr Obj)
  | out :: outs, n :: ns => storedAt outs ns ++ (out.1.region n).reverse
  | _, _ => []

@[simp] theorem storedAt_nil (outs : List (Ptr Obj × ℕ)) : storedAt outs [] = [] := by
  cases outs <;> rfl

@[simp] theorem storedAt_cons (out : Ptr Obj × ℕ) (outs : List (Ptr Obj × ℕ)) (n : ℕ)
    (ns : List ℕ) :
    storedAt (out :: outs) (n :: ns) = storedAt outs ns ++ (out.1.region n).reverse := rfl

/-- The parameters are no longer than their objects. -/
def Within (objects : List (Ptr Obj × ℕ)) (ns : List ℕ) : Prop :=
  List.Forall₂ (fun n out => n ≤ out.2) ns (objects.take ns.length)

/-- From `b` to `b'` a function stored to `stored`, and before and after that to its automatic
variables and to `assigned`. -/
def Stores (assigned stored : List (Ptr Obj)) (b b' : Bus) : Prop :=
  ∃ pre post, b'.mem.log = post ++ stored ++ pre ++ b.mem.log ∧
    (∀ a ∈ pre, a.InVar ∨ a ∈ assigned) ∧ ∀ a ∈ post, a.InVar ∨ a ∈ assigned

/-- What the decoder stored for each parameter is inside the object meant for it. -/
def Contained (assigned : List (Ptr Obj)) (objects : List (Ptr Obj × ℕ)) (b b' : Bus) : Prop :=
  ∃ ns, Within objects ns ∧ Stores assigned (storedAt objects ns) b b'

theorem mem_storedAt {objects : List (Ptr Obj × ℕ)} {ns : List ℕ} (h : Within objects ns)
    {a : Ptr Obj} (ha : a ∈ storedAt objects ns) : ∃ o ∈ objects, a ∈ o.1.region o.2 := by
  induction objects generalizing ns with
  | nil => simp [storedAt] at ha
  | cons o objects ih =>
      cases ns with
      | nil => simp at ha
      | cons n ns =>
          rw [Within, List.length_cons, List.take_succ_cons, List.forall₂_cons] at h
          rw [storedAt_cons, List.mem_append, List.mem_reverse] at ha
          cases ha with
          | inl hrest =>
              obtain ⟨o', ho', hmem⟩ := ih h.2 hrest
              exact ⟨o', List.mem_cons_of_mem o ho', hmem⟩
          | inr hfirst => exact ⟨o, List.mem_cons_self, Ptr.region_subset h.1 hfirst⟩

section Stores
variable {assigned stored : List (Ptr Obj)} {objects : List (Ptr Obj × ℕ)} {b c d : Bus}

theorem Stores.of_quiet (h : Quiet assigned b c) : Stores assigned [] b c := by
  obtain ⟨new, hlog, hnew⟩ := h.stores
  exact ⟨new, [], by simp [hlog], hnew, by simp⟩

theorem Stores.before (h : Quiet assigned b c) (h' : Stores assigned stored c d) :
    Stores assigned stored b d := by
  obtain ⟨new, hlog, hnew⟩ := h.stores
  obtain ⟨pre, post, hlog', hpre, hpost⟩ := h'
  refine ⟨pre ++ new, post, by simp [hlog', hlog], ?_, hpost⟩
  exact List.forall_mem_append.mpr ⟨hpre, hnew⟩

theorem Stores.after (h : Stores assigned stored b c) (h' : Quiet assigned c d) :
    Stores assigned stored b d := by
  obtain ⟨pre, post, hlog, hpre, hpost⟩ := h
  obtain ⟨new, hlog', hnew⟩ := h'.stores
  refine ⟨pre, new ++ post, by simp [hlog', hlog], hpre, ?_⟩
  exact List.forall_mem_append.mpr ⟨hnew, hpost⟩

theorem Stores.mem_since (h : Stores assigned stored b c) {a : Ptr Obj} (ha : a ∈ stored) :
    a ∈ c.mem.since b.mem := by
  obtain ⟨pre, post, hlog, -, -⟩ := h
  rw [Memory.since_of_log hlog]
  simp [ha]

/-- Where a function may store that keeps the reply inside its objects. -/
theorem Contained.mem_objects (h : Contained assigned objects b c) {a : Ptr Obj}
    (ha : a ∈ c.mem.since b.mem) :
    a.InVar ∨ a ∈ assigned ∨ ∃ o ∈ objects, a ∈ o.1.region o.2 := by
  obtain ⟨ns, hwithin, pre, post, hlog, hpre, hpost⟩ := h
  rw [Memory.since_of_log hlog, List.mem_append, List.mem_append] at ha
  rcases ha with (ha | ha) | ha
  · exact (hpost a ha).imp_right .inl
  · exact .inr (.inr (mem_storedAt hwithin ha))
  · exact (hpre a ha).imp_right .inl

end Stores

section Exchange
variable {L L' β : Type} [LengthCode L UInt8] [LengthCode L' UInt8]

omit [LengthCode L UInt8] in
theorem log_storeParams_storedAt (m : Memory Obj UInt8) (params : List (Param L))
    (xs : List (List UInt8)) (size : Param L → ℕ) :
    (storeParams m params xs).log =
      storedAt (params.map fun p => (p.data, size p)) (xs.map fun x => x.length + 1) ++ m.log := by
  induction params generalizing m xs with
  | nil => cases xs <;> rfl
  | cons p params ih =>
      cases xs with
      | nil => rfl
      | cons x xs =>
          rw [storeParams_cons, ih, Memory.log_storeList]
          simp

variable {numParam maxNumParams : UInt8} {inParams : List (Param L)}
  {outParams : List (Param L')} {assigned : List (Ptr Obj)} {mid : Prog Bus β}

/-- A request stores nothing, and the decoder stores the parameters it parses. -/
theorem stores_transfers (hn : numParam.toNat ≤ inParams.length)
    (hmax : maxNumParams.toNat ≤ outParams.length) (hmid : Prog.Guarantees (Quiet assigned) mid)
    (cmd cmd' : UInt8) (maxSize : UInt16) (numParamRead : β → UInt8) (b : Bus) :
    Stores assigned
      (storedAt (outParams.map fun p => (p.data, toNat p.len))
        ((answered cmd' maxSize outParams maxNumParams b).payloads.map fun x => x.length + 1)) b
      ((send cmd numParam inParams >>= fun _ => mid >>= fun x =>
        receiveResponse cmd' maxSize (numParamRead x) outParams maxNumParams).state b) := by
  obtain ⟨-, -, -, m, new, hlog, hnew, hmem⟩ := run_transfers hn hmax hmid cmd cmd' maxSize
    numParamRead b
  refine ⟨new, [], ?_, hnew, by simp⟩
  rw [hmem, log_storeParams_storedAt _ _ _ fun p => toNat p.len, hlog]
  simp

theorem within_payloads (hcaps : ∀ p ∈ outParams, 0 < toNat p.len) (cmd : UInt8)
    (maxSize : UInt16) (b : Bus) :
    Within (outParams.map fun p => (p.data, toNat p.len))
      ((answered cmd maxSize outParams maxNumParams b).payloads.map fun x => x.length + 1) := by
  rw [Within, List.length_map, ← List.map_take, List.forall₂_map_left_iff,
    List.forall₂_map_right_iff]
  exact parseReply_params_lt cmd maxNumParams _ hcaps

end Exchange

/-- **No function stores more than the capacities it declares.** -/
theorem Shaped.contained {rel : UInt8 → UInt8 → Prop} {assigned : List (Ptr Obj)}
    {outs : List (Ptr Obj × ℕ)} {α : Type} {p : Prog Bus α} (h : Shaped rel assigned outs p) :
    Prog.Guarantees (Contained assigned outs) p := by
  induction h with
  | quiet hp =>
      intro b
      exact ⟨[], .nil, by simpa using Stores.of_quiet (hp b)⟩
  | before hp hf ih =>
      intro b
      obtain ⟨ns, hwithin, hstores⟩ := ih b _
      exact ⟨ns, hwithin, hstores.before (hp b)⟩
  | after hp hf ih =>
      intro b
      obtain ⟨ns, hwithin, hstores⟩ := ih b
      exact ⟨ns, hwithin, hstores.after (hf _ _)⟩
  | exchange hrel hn hmax hwindow hcaps houts hmid numParamRead =>
      intro b
      subst houts
      exact ⟨_, within_payloads hcaps _ _ b, stores_transfers hn hmax hmid _ _ _ numParamRead b⟩

/-- The addresses to which a reply is stored that brings a parameter for one destination. -/
def replyStores {L : Type} [LengthCode L UInt8] (cmd : UInt8) (cap : L) (dest : Ptr Obj)
    (s : List UInt8) : List (Ptr Obj) :=
  if Brings cmd s then (dest.region (toNat (clip cap (firstLength L s)) + 1)).reverse else []

/-- The program has the reply of one exchange stored at `dest`. -/
def StoresReply {L α : Type} [LengthCode L UInt8] (assigned : List (Ptr Obj)) (cmd : UInt8)
    (cap : L) (maxSize : UInt16) (dest : Ptr Obj) (p : Prog Bus α) : Prop :=
  ∀ b, Stores assigned (replyStores cmd cap dest (reply maxSize b)) b (p.state b)

section Single
variable {L L' α β : Type} [LengthCode L UInt8] [LengthCode L' UInt8] {cmd numParam : UInt8}
  {inParams : List (Param L)} {cap : L'} {maxSize : UInt16} {dest : Ptr Obj}
  {assigned : List (Ptr Obj)}

theorem storesReply_exchange (hn : numParam.toNat ≤ inParams.length) :
    StoresReply assigned cmd cap maxSize dest
      (exchange cmd numParam inParams maxSize [(⟨cap, dest⟩ : Param L')] 1) := by
  intro b
  have hmax : UInt8.toNat 1 ≤ [(⟨cap, dest⟩ : Param L')].length := le_rfl
  have h := stores_transfers hn hmax (quiet_uninit assigned .paramsRead 1) cmd cmd maxSize
    (fun x => x.headD 0) b
  rw [payloads_answered_single] at h
  rw [exchange, replyStores]
  split at h
  · next hb => simpa [if_pos hb] using h
  · next hb => simpa [if_neg hb] using h

theorem storesReply_auto {var : Var} {init : List UInt8} {f : Ptr Obj → Prog Bus β}
    (hvar : var ≠ .dataPtr)
    (hf : StoresReply assigned cmd cap maxSize dest (f ⟨.auto var init.length, 0⟩)) :
    StoresReply assigned cmd cap maxSize dest (Bus.auto var init >>= f) := by
  intro b
  exact (hf ((Bus.auto var init).state b)).before (quiet_auto init hvar b)

theorem storesReply_after {p : Prog Bus α} {f : α → Prog Bus β}
    (hp : StoresReply assigned cmd cap maxSize dest p)
    (hf : ∀ a, Prog.Guarantees (Quiet assigned) (f a)) :
    StoresReply assigned cmd cap maxSize dest (p >>= f) := by
  intro b
  exact (hp b).after (hf _ _)

theorem storesReply_ignore {p : Prog Bus α} (hp : StoresReply assigned cmd cap maxSize dest p) :
    StoresReply assigned cmd cap maxSize dest p.ignore :=
  hp

end Single

/-! ## The driver functions -/

namespace DriverCall

/-- The functions that make at most one exchange. -/
def SingleExchange : DriverCall → Prop
  | checkDataSent _ | getHostByName _ _ => False
  | _ => True

/-- What the caller's pointers do not point to: the pointer variable that `ServerDrv_getData`
gets its argument in, and the variables of `ServerDrv_getDataBuf`. -/
def Valid : DriverCall → Prop
  | getData _ data _ => data.obj ≠ .auto .dataPtr 4
  | getDataBuf _ data dataLen =>
      (∀ var size, data.obj ≠ .auto var size) ∧ dataLen.obj ≠ .auto .sock 1
  | _ => True

/-- The objects that the out parameters of a call are meant for, with their sizes: the variable
that the function has for it, or the buffer of the caller. -/
def objects (m : Memory Obj UInt8) : DriverCall → List (Ptr Obj × ℕ)
  | setPowerMode _ | wifiSetApNetwork _ _ _ | wifiSetApPassphrase _ _ _ _ _ | debug _ =>
      [(varAt .data 1, 1)]
  | getData _ data _ => [(data, 255)]
  | c => c.outs m

/-- The calls whose reply goes beyond its object: a parameter that is not empty where the
variable is smaller than the capacity, any parameter where the pointer variable itself is the
destination, and any parameter for a buffer of no bytes. -/
def Overruns (b : Bus) : DriverCall → Prop
  | setPowerMode _ =>
      Brings setPowerModeCmd (reply 20 b) ∧ firstLength UInt8 (reply 20 b) ≠ 0
  | wifiSetApNetwork _ _ _ =>
      Brings setApNetCmd (reply 20 b) ∧ firstLength UInt8 (reply 20 b) ≠ 0
  | wifiSetApPassphrase _ _ _ _ _ =>
      Brings setApPassphraseCmd (reply 20 b) ∧ firstLength UInt8 (reply 20 b) ≠ 0
  | debug _ => Brings setDebugCmd (reply 24 b) ∧ firstLength UInt8 (reply 24 b) ≠ 0
  | getData _ _ _ => Brings getDataTcpCmd (reply wifiSocketBufferSize b)
  | getDataBuf _ _ dataLen =>
      Brings getDatabufTcpCmd (reply wifiSocketBufferSize b) ∧ ofLe (b.mem.loadList dataLen 2) = 0
  | _ => False

end DriverCall

/-- A byte whose address is taken for more: only an empty parameter fits. -/
theorem contained_byte_iff {α : Type} {cmd cap : UInt8} {maxSize : UInt16} {p : Prog Bus α}
    (hcap : 2 ≤ cap.toNat)
    (hp : StoresReply [] cmd cap maxSize (DriverCall.varAt .data 1) p) (b : Bus) :
    Contained [] [(DriverCall.varAt .data 1, 1)] b (p.state b) ↔
      ¬ (Brings cmd (reply maxSize b) ∧ firstLength UInt8 (reply maxSize b) ≠ 0) := by
  have hpos : 0 < toNat cap := by
    rw [toNat_uint8]
    omega
  have hclip : (clip cap (firstLength UInt8 (reply maxSize b))).toNat =
      min (firstLength UInt8 (reply maxSize b)).toNat (cap.toNat - 1) := toNat_clip _ hpos
  have hstores := hp b
  constructor
  · rintro hcontained ⟨hbrings, hlen⟩
    have hpos : 0 < (firstLength UInt8 (reply maxSize b)).toNat := by
      rw [Nat.pos_iff_ne_zero, ne_eq, ← UInt8.toNat_zero, UInt8.toNat_inj]
      exact hlen
    -- the second byte
    have hmem : (DriverCall.varAt .data 1).add 1 ∈
        replyStores cmd cap (DriverCall.varAt .data 1) (reply maxSize b) := by
      rw [replyStores, if_pos hbrings, List.mem_reverse, Ptr.mem_region]
      refine ⟨1, ?_, rfl⟩
      rw [toNat_uint8, hclip]
      omega
    rcases hcontained.mem_objects (hstores.mem_since hmem) with hvar | hassigned | hobject
    · obtain ⟨var, size, -, hobj, hoff⟩ := hvar
      cases hobj
      exact absurd hoff (by decide)
    · simp at hassigned
    · obtain ⟨o, ho, hmem'⟩ := hobject
      obtain rfl := List.mem_singleton.mp ho
      exact absurd hmem' (by decide)
  · intro hfits
    by_cases hbrings : Brings cmd (reply maxSize b)
    · have hzero : firstLength UInt8 (reply maxSize b) = 0 := by
        by_contra hlen
        exact hfits ⟨hbrings, hlen⟩
      refine ⟨[1], by simp [Within], ?_⟩
      rw [replyStores, if_pos hbrings, toNat_uint8, hclip, hzero] at hstores
      simpa using hstores
    · refine ⟨[], .nil, ?_⟩
      rw [replyStores, if_neg hbrings] at hstores
      simpa using hstores

/-- A destination outside the object. -/
theorem contained_foreign_iff {α : Type} {cmd cap : UInt8} {maxSize : UInt16} {dest data : Ptr Obj}
    {n : ℕ} {p : Prog Bus α} (hdest : ¬ dest.InVar) (hdata : data.obj ≠ dest.obj)
    (hp : StoresReply [] cmd cap maxSize dest p) (b : Bus) :
    Contained [] [(data, n)] b (p.state b) ↔ ¬ Brings cmd (reply maxSize b) := by
  have hstores := hp b
  constructor
  · intro hcontained hbrings
    have hmem : dest ∈ replyStores cmd cap dest (reply maxSize b) := by
      rw [replyStores, if_pos hbrings, List.mem_reverse, Ptr.mem_region]
      exact ⟨0, Nat.succ_pos _, rfl⟩
    rcases hcontained.mem_objects (hstores.mem_since hmem) with hvar | hassigned | hobject
    · exact hdest hvar
    · simp at hassigned
    · obtain ⟨o, ho, hmem'⟩ := hobject
      obtain rfl := List.mem_singleton.mp ho
      exact hdata (Ptr.obj_of_mem_region hmem').symm
  · intro hbrings
    refine ⟨[], .nil, ?_⟩
    rw [replyStores, if_neg hbrings] at hstores
    simpa using hstores

/-- A buffer whose size is its capacity: only a capacity of zero is too little. -/
theorem contained_buffer_iff {cmd : UInt8} {n : ℕ} (hn : n < 65536) {data : Ptr Obj}
    {maxSize : UInt16} (hdata : ¬ data.InVar) {b b' : Bus}
    (hstores : Stores [] (replyStores cmd (UInt16.ofNat n) data (reply maxSize b)) b b') :
    Contained [] [(data, n)] b b' ↔ ¬ (Brings cmd (reply maxSize b) ∧ n = 0) := by
  have hcap : (UInt16.ofNat n).toNat = n := UInt16.toNat_ofNat_of_lt' hn
  constructor
  · rintro hcontained ⟨hbrings, rfl⟩
    have hmem : data ∈ replyStores cmd (UInt16.ofNat 0) data (reply maxSize b) := by
      rw [replyStores, if_pos hbrings, List.mem_reverse, Ptr.mem_region]
      exact ⟨0, Nat.succ_pos _, rfl⟩
    rcases hcontained.mem_objects (hstores.mem_since hmem) with hvar | hassigned | hobject
    · exact hdata hvar
    · simp at hassigned
    · obtain ⟨o, ho, hmem'⟩ := hobject
      obtain rfl := List.mem_singleton.mp ho
      simp at hmem'
  · intro hfits
    by_cases hbrings : Brings cmd (reply maxSize b)
    · have hpos : 0 < n := Nat.pos_of_ne_zero fun hzero => hfits ⟨hbrings, hzero⟩
      have hlt : toNat (clip (UInt16.ofNat n) (firstLength UInt16 (reply maxSize b))) < n := by
        rw [toNat_clip _ (by simpa [hcap] using hpos), toNat_uint16 (UInt16.ofNat n), hcap]
        omega
      refine ⟨[toNat (clip (UInt16.ofNat n) (firstLength UInt16 (reply maxSize b))) + 1],
        by simpa [Within, Nat.succ_le_iff] using hlt, ?_⟩
      rw [replyStores, if_pos hbrings] at hstores
      simpa using hstores
    · refine ⟨[], .nil, ?_⟩
      rw [replyStores, if_neg hbrings] at hstores
      simpa using hstores

namespace DriverCall

theorem storesReply_setPowerMode (mode : UInt8) :
    StoresReply [] setPowerModeCmd (4 : UInt8) 20 (varAt .data 1) (setPowerMode mode).run := by
  refine storesReply_ignore (storesReply_auto (by decide) (storesReply_auto (by decide) ?_))
  exact storesReply_after (storesReply_exchange le_rfl) fun reply => quiet_pure _

theorem storesReply_wifiSetApNetwork (ssid : Ptr Obj) (ssidLen channel : UInt8) :
    StoresReply [] setApNetCmd (4 : UInt8) 20 (varAt .data 1)
      (wifiSetApNetwork ssid ssidLen channel).run := by
  refine storesReply_ignore (storesReply_auto (by decide) (storesReply_auto (by decide) ?_))
  exact storesReply_after (storesReply_exchange le_rfl) fun reply => quiet_load _ _

theorem storesReply_wifiSetApPassphrase (ssid : Ptr Obj) (ssidLen : UInt8) (passphrase : Ptr Obj)
    (len channel : UInt8) :
    StoresReply [] setApPassphraseCmd (4 : UInt8) 20 (varAt .data 1)
      (wifiSetApPassphrase ssid ssidLen passphrase len channel).run := by
  refine storesReply_ignore (storesReply_auto (by decide) (storesReply_auto (by decide) ?_))
  exact storesReply_after (storesReply_exchange le_rfl) fun reply => quiet_load _ _

theorem storesReply_debug (on : UInt8) :
    StoresReply [] setDebugCmd (2 : UInt8) 24 (varAt .data 1) (debug on).run := by
  refine storesReply_ignore (storesReply_auto (by decide) (storesReply_after ?_ fun bytes =>
    quiet_pure _))
  refine storesReply_auto (by decide) ?_
  exact storesReply_after (storesReply_exchange le_rfl) fun reply => quiet_loadList _ _

theorem storesReply_getData (sock : UInt8) (data : Ptr Obj) (peek : UInt8) :
    StoresReply [] getDataTcpCmd (255 : UInt8) wifiSocketBufferSize (varAt .dataPtr 4)
      (getData sock data peek).run := by
  refine storesReply_ignore (storesReply_auto (by decide) (storesReply_auto (by decide) ?_))
  have hannounced : UInt8.toNat 1 ≤ 2 := by decide
  exact storesReply_after (storesReply_exchange hannounced) fun reply => quiet_pure _

/-- The capacity is what the caller left in `*dataLen`. -/
theorem stores_getDataBuf (sock : UInt8) {data dataLen : Ptr Obj}
    (hlen : dataLen.obj ≠ .auto .sock 1) (b : Bus) :
    Stores [] (replyStores getDatabufTcpCmd (UInt16.ofNat (ofLe (b.mem.loadList dataLen 2))) data
      (reply wifiSocketBufferSize b)) b ((getDataBuf sock data dataLen).run.state b) := by
  have hload : ((Bus.auto .sock [sock]).state b).mem.loadList dataLen 2 =
      b.mem.loadList dataLen 2 :=
    Memory.loadList_storeList_of_obj_ne b.mem 2 hlen
  have hsize : UInt8.toNat 2 ≤ [(⟨1, varAt .sock 1⟩ : TDataParam), ⟨2, dataLen⟩].length := le_rfl
  have hreply : StoresReply [] getDatabufTcpCmd (UInt16.ofNat (ofLe (b.mem.loadList dataLen 2)))
      wifiSocketBufferSize data (exchange getDatabufTcpCmd 2
        [(⟨1, varAt .sock 1⟩ : TDataParam), ⟨2, dataLen⟩] wifiSocketBufferSize
        [(⟨UInt16.ofNat (ofLe (b.mem.loadList dataLen 2)), data⟩ : TDataParam)] 1) :=
    storesReply_exchange hsize
  have h := (hreply ((Bus.auto .sock [sock]).state b)).before (quiet_auto [sock] (by decide) b)
  rw [DriverCall.run, Prog.state_ignore, ServerDrv.getDataBuf, Prog.state_bind, Prog.state_bind,
    Prog.state_bind, Prog.state_pure]
  rw [← hload] at h ⊢
  exact h

theorem not_inVar_dataPtr (size off : ℕ) : ¬ (⟨.auto .dataPtr size, off⟩ : Ptr Obj).InVar := by
  rintro ⟨var, size', hvar, hobj, -⟩
  cases hobj
  exact hvar rfl

theorem contained_outs (c : DriverCall) (hc : c.Regular) (b : Bus) :
    Contained c.assigned (c.outs b.mem) b (c.run.state b) :=
  (c.shaped hc b.mem).contained b

/-- **Which calls keep the reply inside the objects it is meant for.** -/
theorem contained_iff (c : DriverCall) (hsingle : c.SingleExchange) (hvalid : c.Valid) (b : Bus) :
    Contained c.assigned (c.objects b.mem) b (c.run.state b) ↔ ¬ c.Overruns b := by
  cases c with
  | setPowerMode mode => exact contained_byte_iff (by decide) (storesReply_setPowerMode mode) b
  | wifiSetApNetwork ssid ssidLen channel =>
      exact contained_byte_iff (by decide) (storesReply_wifiSetApNetwork ssid ssidLen channel) b
  | wifiSetApPassphrase ssid ssidLen passphrase len channel =>
      exact contained_byte_iff (by decide)
        (storesReply_wifiSetApPassphrase ssid ssidLen passphrase len channel) b
  | debug on => exact contained_byte_iff (by decide) (storesReply_debug on) b
  | getData sock data peek =>
      exact contained_foreign_iff (not_inVar_dataPtr 4 0) hvalid
        (storesReply_getData sock data peek) b
  | getDataBuf sock data dataLen =>
      have hdata : ¬ data.InVar := fun ⟨var, size, _, hobj, _⟩ => hvalid.1 var size hobj
      have hsize := ofLe_lt (b.mem.loadList dataLen 2)
      rw [Memory.length_loadList] at hsize
      exact contained_buffer_iff hsize hdata (stores_getDataBuf sock hvalid.2 b)
  | checkDataSent sock => exact hsingle.elim
  | getHostByName aHostname aResult => exact hsingle.elim
  | _ =>
      refine iff_of_true (contained_outs _ ?_ b) not_false
      trivial

/-- A call of `ServerDrv_getDataBuf` with buffers of the application. -/
def userRead : DriverCall := getDataBuf 0 ⟨.user 0, 0⟩ ⟨.user 1, 0⟩

/-- There is room for ten bytes, and twelve are received. -/
def tenBytes : Bus :=
  let b := Bus.fresh fun _ => replyFrame UInt16 getDatabufTcpCmd [List.replicate 12 0x61]
  { b with mem := b.mem.storeList ⟨.user 1, 0⟩ (le16 10) }

theorem contained_userRead :
    Contained userRead.assigned (userRead.objects tenBytes.mem) tenBytes
      (userRead.run.state tenBytes) :=
  (contained_iff userRead trivial
    ⟨fun _ _ hobj => Obj.noConfusion hobj, fun hobj => Obj.noConfusion hobj⟩ tenBytes).mpr
    fun hoverruns => absurd hoverruns.2 (by decide)

/-- A module that acknowledges the power mode. -/
def powerModeAck : Bus := Bus.fresh fun _ => replyFrame UInt8 setPowerModeCmd [[wifiSpiAck]]

/-- The zero behind the one byte of the acknowledgement goes behind the variable. -/
theorem powerModeAck_overruns :
    ¬ Contained (setPowerMode 1).assigned ((setPowerMode 1).objects powerModeAck.mem) powerModeAck
      ((setPowerMode 1).run.state powerModeAck) := by
  intro h
  have hfits := (contained_byte_iff (by decide) (storesReply_setPowerMode 1) powerModeAck).mp h
  exact hfits (by decide)

end DriverCall

end WiFiNINA
