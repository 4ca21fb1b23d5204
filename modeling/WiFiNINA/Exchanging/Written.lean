import WiFiNINA.DriverCalls.Inputs
import WiFiNINA.Exchanging.Session

/-!
# What is written is what is sent

`WiFiClient_write` hands a buffer on to a request of its own, and no other function of the library
sends data for a socket.  So a module that reads the requests of a run finds in them, for each
socket, what was handed on for it, byte by byte and in order, whatever else has been called between
the writes and whatever it has answered to them.  That is all that was written, as long as every
size fits the 16 bits to which it is cut.
-/

namespace WiFiNINA

open LengthCode SpiDrv World WiFiClient

/-- The data for the socket `s`, in order. -/
def streamTo (s : UInt8) (es : List Exchange) : List UInt8 :=
  es.flatMap fun e =>
    if e.cmd = sendDataTcpCmd ∧ e.args.head? = some [s] then e.args.tail.flatten else []

section StreamTo
variable {s sock : UInt8} {es : List Exchange}

theorem streamTo_append (s : UInt8) (es es' : List Exchange) :
    streamTo s (es ++ es') = streamTo s es ++ streamTo s es' := List.flatMap_append

theorem streamTo_eq_nil (h : ∀ e ∈ es, e.cmd ≠ sendDataTcpCmd) : streamTo s es = [] :=
  List.flatMap_eq_nil_iff.mpr fun e he => if_neg fun hdata => h e he hdata.1

/-- The request of `ServerDrv_sendData`. -/
def dataExchange (sock : UInt8) (data : List UInt8) : Exchange :=
  ⟨sendDataTcpCmd, [[sock], data], window 20⟩

theorem streamTo_dataExchange (data : List UInt8) :
    streamTo s [dataExchange sock data] = if sock = s then data else [] := by
  simp [streamTo, dataExchange]

theorem dataExchange_valid {data : List UInt8} (h : data.length < 2 ^ 16) :
    (dataExchange sock data).Valid where
  count := by simp [dataExchange]
  args := by
    have hbound : lengthBound sendDataTcpCmd = 2 ^ 16 := rfl
    rw [dataExchange, hbound]
    exact List.forall_mem_cons.mpr ⟨show 1 < 2 ^ 16 by decide,
      List.forall_mem_singleton.mpr h⟩
  window := show 16 ≤ window 20 ∧ window 20 ≤ 255 by decide

end StreamTo

namespace ApiCall

/-- The bytes that a call is given for the socket `s`. -/
def written (s : UInt8) (w : World) : ApiCall → List UInt8
  | operate sock (.write buf size) =>
      if sock = s ∧ sock ≠ noSocketAvail then w.bus.mem.loadList buf size.toNat else []
  | operate sock (.writeChar ch) => if sock = s ∧ sock ≠ noSocketAvail then [ch] else []
  | driver (.sendData sock data len) => if sock = s then w.bus.mem.loadList data len.toNat else []
  | _ => []

/-- The bytes that it hands on: `WiFiClient_write` cuts its size to 16 bits. -/
def handedOn (s : UInt8) (w : World) : ApiCall → List UInt8
  | operate sock (.write buf size) =>
      if sock = s ∧ sock ≠ noSocketAvail then w.bus.mem.loadList buf size.toUInt16.toNat else []
  | c => c.written s w

/-- The size of a write is one that 16 bits hold. -/
def Short : ApiCall → Prop
  | operate _ (.write _ size) => size.toNat < 2 ^ 16
  | _ => True

theorem handedOn_of_short {c : ApiCall} (h : c.Short) (s : UInt8) (w : World) :
    c.handedOn s w = c.written s w := by
  cases c with
  | wifi | driver | connect | initBuffers | buffer => rfl
  | operate sock op =>
      cases op with
      | write buf size =>
          have hsize : size.toUInt16.toNat = size.toNat := Nat.mod_eq_of_lt h
          rw [handedOn, written, hsize]
      | _ => rfl

/-- What a call writes is not in a variable that only comes to be in the call. -/
def WritesOwn : ApiCall → Prop
  | operate _ (.write buf _) => buf.OfCaller
  | driver (.sendData _ data _) => data.OfCaller
  | _ => True

theorem handedOn_eq_nil {c : ApiCall} (h : ¬ c.Writes) (s : UInt8) (w : World) :
    c.handedOn s w = [] := by
  cases c with
  | wifi | connect | initBuffers | buffer => rfl
  | driver c =>
      cases c with
      | sendData => exact absurd trivial h
      | _ => rfl
  | operate sock op =>
      cases op with
      | write | writeChar => exact absurd trivial h
      | _ => rfl

end ApiCall

/-- From `w` to `w'` valid exchanges were made, which send `data s` to each socket `s`. -/
def Sends (data : UInt8 → List UInt8) (w w' : World) : Prop :=
  ∃ es : List Exchange, (∀ e ∈ es, e.cmd ∈ plainCommands ∧ e.Valid) ∧
    Performed es w.bus w'.bus ∧ ∀ s, streamTo s es = data s

section Sends
variable {w w' w'' : World} {data : List UInt8} {sock : UInt8} {b : Bus}

theorem Sends.trans {first second : UInt8 → List UInt8} (h : Sends first w w')
    (h' : Sends second w' w'') : Sends (fun s => first s ++ second s) w w'' := by
  obtain ⟨es, hes, hperformed, hstream⟩ := h
  obtain ⟨es', hes', hperformed', hstream'⟩ := h'
  refine ⟨es ++ es', List.forall_mem_append.mpr ⟨hes, hes'⟩, hperformed.append hperformed',
    fun s => ?_⟩
  rw [streamTo_append, hstream, hstream']

theorem sends_nothing (h : Performed [] w.bus w'.bus) : Sends (fun _ => []) w w' :=
  ⟨[], List.forall_mem_nil _, h, fun _ => rfl⟩

theorem performed_refl (b : Bus) : Performed [] b b := performed_nil rfl rfl rfl

/-- `ServerDrv_sendData` makes one exchange. -/
theorem performed_sendData {p : Ptr Obj} (h : p.OfCaller) (sock : UInt8) (len : UInt16) (b : Bus) :
    Performed [dataExchange sock (b.mem.loadList p len.toNat)] b
      ((ServerDrv.sendData sock p len).state b) := by
  obtain ⟨m, hm⟩ : ∃ m, m = (b.mem.storeList ⟨.auto .response 1, 0⟩ [0]).storeList
      ⟨.auto .sock 1, 0⟩ [sock] := ⟨_, rfl⟩
  have hsock : m.loadList ⟨.auto .sock 1, 0⟩ 1 = [sock] := by
    rw [hm]
    exact Memory.loadList_storeList _ _ [sock]
  have hdata : m.loadList p len.toNat = b.mem.loadList p len.toNat := by
    rw [hm, h.loadList (by simp), h.loadList (by simp)]
  have hargs : [m.loadList ⟨.auto .sock 1, 0⟩ 1, m.loadList p len.toNat] =
      [[sock], b.mem.loadList p len.toNat] := by
    rw [hsock, hdata]
  have hexchange : Performed [dataExchange sock (b.mem.loadList p len.toNat)] { b with mem := m }
      ((exchange sendDataTcpCmd 2 [(⟨1, ⟨.auto .sock 1, 0⟩⟩ : TDataParam), ⟨len, p⟩] 20
        [(⟨1, ⟨.auto .response 1, 0⟩⟩ : TParam)] 1).state { b with mem := m }) :=
    performed_request (framed_of_long rfl) rfl le_rfl hargs
  rw [hm] at hexchange
  exact ⟨hexchange.transmitted, hexchange.slave, hexchange.txBuffer⟩

theorem sends_data {p : Ptr Obj} (h : p.OfCaller) (sock : UInt8) (len : UInt16)
    (hbus : w'.bus = (ServerDrv.sendData sock p len).state w.bus) :
    Sends (fun s => if sock = s then w.bus.mem.loadList p len.toNat else []) w w' := by
  refine ⟨_, List.forall_mem_singleton.mpr ⟨?_, dataExchange_valid ?_⟩,
    hbus ▸ performed_sendData h sock len w.bus, fun s => streamTo_dataExchange _⟩
  · exact show sendDataTcpCmd.toNat < 128 by decide
  · rw [Memory.length_loadList]
    exact len.toNat_lt

/-- A write is a single request: since it seems to fail, nobody asks whether the data has been
sent. -/
theorem state_write {sock : UInt8} (hsock : sock ≠ noSocketAvail) {size : UInt32} (hsize : size ≠ 0)
    (buf : Ptr Obj) (w : World) :
    ((WiFiClient.write sock buf size).state w).bus =
      (ServerDrv.sendData sock buf size.toUInt16).state w.bus := by
  rw [WiFiClient.write, if_neg (not_or.mpr ⟨hsock, hsize⟩), Prog.state_bind, val_onBus,
    ServerDrv.val_sendData, if_pos rfl]
  rfl

theorem sends_write {buf : Ptr Obj} (h : buf.OfCaller) (sock : UInt8) (size : UInt32) (w : World) :
    Sends (fun s => if sock = s ∧ sock ≠ noSocketAvail then
      w.bus.mem.loadList buf size.toUInt16.toNat else []) w
      ((WiFiClient.write sock buf size).state w) := by
  by_cases hsock : sock = noSocketAvail
  · rw [WiFiClient.write, if_pos (.inl hsock)]
    simp only [hsock, ne_eq, not_true_eq_false, and_false, if_false]
    exact sends_nothing (performed_refl _)
  · simp only [ne_eq, hsock, not_false_eq_true, and_true]
    by_cases hsize : size = 0
    · rw [WiFiClient.write, if_pos (.inr hsize), hsize]
      have hempty : UInt16.toNat (UInt32.toUInt16 0) = 0 := rfl
      simp only [hempty, Memory.loadList_zero, ite_self]
      exact sends_nothing (performed_refl _)
    · exact sends_data h sock size.toUInt16 (state_write hsock hsize buf w)

/-- The byte stands in a variable of `WiFiClient_writeChar`. -/
theorem sends_writeChar (sock ch : UInt8) (w : World) :
    Sends (fun s => if sock = s ∧ sock ≠ noSocketAvail then [ch] else []) w
      ((WiFiClient.writeChar sock ch).state w) := by
  have hch : Ptr.OfCaller ⟨.auto .ch 1, 0⟩ := by
    intro var size hobj
    obtain ⟨rfl, -⟩ := Obj.auto.inj hobj
    exact .inr (.inl rfl)
  have hload : ((onBus (Bus.auto .ch [ch])).state w).bus.mem.loadList ⟨.auto .ch 1, 0⟩
      (UInt32.toUInt16 1).toNat = [ch] := Memory.loadList_storeList _ _ [ch]
  have hwrite := sends_write hch sock 1 ((onBus (Bus.auto .ch [ch])).state w)
  simp only [hload] at hwrite
  have hvar : Sends (fun _ => []) w ((onBus (Bus.auto .ch [ch])).state w) :=
    sends_nothing (performed_nil rfl rfl rfl)
  exact hvar.trans hwrite

theorem ApiCall.sends {c : ApiCall} (h : c.WritesOwn) (w : World) :
    Sends (fun s => c.handedOn s w) w (c.run.state w) := by
  by_cases hwrites : c.Writes
  · cases c with
    | driver c =>
        cases c with
        | sendData sock data len => exact sends_data h sock len rfl
        | _ => exact hwrites.elim
    | operate sock op =>
        cases op with
        | write buf size => exact sends_write h sock size w
        | writeChar ch => exact sends_writeChar sock ch w
        | _ => exact hwrites.elim
    | _ => exact hwrites.elim
  · obtain ⟨es, -, hes, hperformed⟩ := (c.advances w).exchanges
    refine ⟨es, fun e he => ⟨c.commands_plain (hes e he).1, (hes e he).2⟩, hperformed,
      fun s => ?_⟩
    have hnothing : c.handedOn s w = [] := ApiCall.handedOn_eq_nil hwrites s w
    rw [streamTo_eq_nil fun e he => (ApiCall.commands_control hwrites (hes e he).1).2]
    exact hnothing.symm

theorem sends_exec (w : World) {cs : List ApiCall} (hcs : ∀ c ∈ cs, c.WritesOwn) :
    Sends (fun s => api.collect (fun w c => c.handedOn s w) w cs) w (api.exec w cs) := by
  induction cs generalizing w with
  | nil => exact sends_nothing (performed_refl _)
  | cons c cs ih =>
      obtain ⟨hc, hcs⟩ := List.forall_mem_cons.mp hcs
      exact (ApiCall.sends hc w).trans (ih (c.run.state w) hcs)

end Sends

/-- Every request that is cut short was one of more than 65535 bytes. -/
theorem collect_handedOn (w : World) {cs : List ApiCall} (hcs : ∀ c ∈ cs, c.Short) (s : UInt8) :
    api.collect (fun w c => c.handedOn s w) w cs = api.collect (fun w c => c.written s w) w cs := by
  induction cs generalizing w with
  | nil => rfl
  | cons c cs ih =>
      obtain ⟨hc, hcs⟩ := List.forall_mem_cons.mp hcs
      rw [System.collect_cons, System.collect_cons, ApiCall.handedOn_of_short hc, ih _ hcs]

/-- **What is written is what is sent**, as long as every size fits 16 bits.  In every run, whatever
the module answers, the requests that it can read off the transfers carry for each socket the
bytes handed on for it, in order, and no others; `txBuffer` is overrun by the requests that do not
fit it, and by no others. -/
theorem written_sent (w : World) {cs : List ApiCall} (hcs : ∀ c ∈ cs, c.WritesOwn) :
    ∃ es, Performed es w.bus (api.exec w cs).bus ∧
      readSession (es.flatMap Exchange.wire) = some es ∧
        (∀ s, streamTo s es = api.collect (fun w c => c.handedOn s w) w cs) ∧
          ((∀ c ∈ cs, c.Short) →
            ∀ s, streamTo s es = api.collect (fun w c => c.written s w) w cs) := by
  obtain ⟨es, hes, hperformed, hstream⟩ := sends_exec w hcs
  refine ⟨es, hperformed, readSession_eq_some.mpr ⟨hes, rfl⟩, hstream, fun hshort s => ?_⟩
  exact (hstream s).trans (collect_handedOn w hshort s)

/-- Two sockets are written to by turns, with a question in between. -/
def turns : List ApiCall :=
  [.operate 1 (.writeChar 0x61), .wifi .rssi, .operate 2 (.write ⟨.user 0, 0⟩ 3),
    .operate 1 (.writeChar 0x62)]

theorem short_turns : ∀ c ∈ turns, c.WritesOwn ∧ c.Short := by
  intro c hc
  simp only [turns, List.mem_cons, List.not_mem_nil, or_false] at hc
  rcases hc with rfl | rfl | rfl | rfl
  · exact ⟨trivial, trivial⟩
  · exact ⟨trivial, trivial⟩
  · exact ⟨fun var size hobj => Obj.noConfusion hobj, show 3 < 2 ^ 16 by decide⟩
  · exact ⟨trivial, trivial⟩

theorem written_sent_turns :
    ∃ es, Performed es World.boot.bus (api.exec World.boot turns).bus ∧
      readSession (es.flatMap Exchange.wire) = some es ∧
        ∀ s, streamTo s es = api.collect (fun w c => c.written s w) World.boot turns := by
  obtain ⟨es, hperformed, hread, -, hstream⟩ :=
    written_sent World.boot fun c hc => (short_turns c hc).1
  exact ⟨es, hperformed, hread, hstream fun c hc => (short_turns c hc).2⟩

end WiFiNINA
