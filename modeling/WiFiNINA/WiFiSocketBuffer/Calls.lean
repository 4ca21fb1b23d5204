import WiFiNINA.Lib.Transition
import WiFiNINA.WiFiSocketBuffer.Blocks

/-!
# Calls of an application

An application calls the functions that work on the socket buffers, in any order and
for any sockets.  Before each call anything may have happened to the driver: other
exchanges, other replies to come, other contents of the application's memory.  Only
the blocks of the heap are nobody else's business.
-/

namespace WiFiNINA

open SpiDrv ServerDrv World WiFiSocketBuffer

/-- An address inside an automatic variable of the library. -/
def Ptr.IsLocal (p : Ptr Obj) : Prop := ∃ var size, p.obj = .auto var size ∧ p.off < size

theorem Ptr.isLocal_of_mem_region {var : Var} {size n : ℕ} {p : Ptr Obj} (hn : n ≤ size)
    (h : p ∈ (⟨.auto var size, 0⟩ : Ptr Obj).region n) : p.IsLocal := by
  obtain ⟨i, hi, rfl⟩ := Ptr.mem_region.mp h
  exact ⟨var, size, rfl, by simp only [Ptr.off_add]; omega⟩

/-- The functions of `WiFiSocketBuffer.c` that take a socket, `WiFiSocketBuffer_deinit` and
`WiFiClient_readChar`. -/
inductive Call
  | available (socket : ℕ)
  | peek (socket : ℕ)
  | read (socket : ℕ) (data : Ptr Obj) (length : UInt32)
  | readChar (sock : UInt8)
  | close (socket : ℕ)
  | deinit

namespace Call

def run : Call → Prog World ℤ
  | available socket => WiFiSocketBuffer.available socket
  | peek socket => WiFiSocketBuffer.peek socket
  | read socket data length => WiFiSocketBuffer.read socket data length
  | readChar sock => WiFiClient.readChar sock
  | close socket => do
      WiFiSocketBuffer.close socket
      pure 0
  | deinit => do
      WiFiSocketBuffer.deinit
      pure 0

/-- The socket must exist, a length must be one that an `int` holds, and an application
does not read into the blocks of the library. -/
def Valid : Call → Prop
  | available socket | peek socket | close socket => socket < wifiMaxSockNum
  | read socket data length =>
      socket < wifiMaxSockNum ∧ ¬ data.obj.IsHeap ∧ length.toNat < 2 ^ 31
  | readChar sock => sock.toNat < wifiMaxSockNum
  | deinit => True

/-- The socket of a call that begins with a refill. -/
def reader : Call → Option ℕ
  | available socket | peek socket | read socket _ _ => some socket
  | readChar sock => some sock.toNat
  | close _ | deinit => none

/-- Where a call copies bytes of the window to. -/
def dest : Call → Ptr Obj
  | read _ data _ => data
  | readChar _ => WiFiClient.chVar
  | available _ | peek _ | close _ | deinit => nullPtr

/-- How many bytes of the window a call removes at most. -/
def limit : Call → UInt32
  | read _ _ length => length
  | readChar _ => 1
  | available _ | peek _ | close _ | deinit => 0

end Call

theorem Call.state_close (socket : ℕ) (w : World) :
    (Call.close socket).run.state w = (WiFiSocketBuffer.close socket).state w := by
  simp only [Call.run, Prog.state_bind, Prog.state_pure]

theorem Call.state_deinit (w : World) :
    Call.deinit.run.state w = WiFiSocketBuffer.deinit.state w := by
  simp only [Call.run, Prog.state_bind, Prog.state_pure]

/-- A call, and what became of the driver before it. -/
structure Action where
  call : Call
  bus : Bus

/-- The blocks of the heap have the same contents. -/
def SameHeap (b b' : Bus) : Prop := ∀ p : Ptr Obj, p.obj.IsHeap → b'.mem.load p = b.mem.load p

/-- The state in which an action makes its call. -/
abbrev World.before (w : World) (a : Action) : World := { w with bus := a.bus }

/-- The calls of an application. -/
def calls : System World Action where
  enabled w a := a.call.Valid ∧ SameHeap w.bus a.bus
  next w a := a.call.run.state (w.before a)

/-- What an application relies on: the library owns its blocks, and its allocations
succeed. -/
structure Ready (w : World) : Prop where
  owned : Owned w
  affluent : Affluent w

section Read
variable {w : World} {c : Call} {s : ℕ}

theorem Call.lt_of_reader (hc : c.Valid) (hs : c.reader = some s) : s < wifiMaxSockNum := by
  cases c with
  | available | peek =>
      obtain rfl := Option.some.inj hs
      exact hc
  | read socket data length =>
      obtain rfl := Option.some.inj hs
      exact hc.1
  | readChar sock =>
      obtain rfl := Option.some.inj hs
      exact hc
  | close | deinit => exact absurd hs (by simp [Call.reader])

theorem ne_noSocketAvail {sock : UInt8} (h : sock.toNat < wifiMaxSockNum) :
    sock ≠ noSocketAvail := by
  rintro rfl
  exact absurd h (by decide)

theorem Ready.refill (h : Ready w) (hs : s < wifiMaxSockNum) : Ready (refillState w s) :=
  ⟨h.owned.refill h.affluent hs, h.affluent.refill (h.owned.obj_block hs)⟩

/-- **A call that reads** refills the buffer of its socket and removes at most as many
bytes as its limit allows. -/
theorem Call.state_run (h : Ready w) (hc : c.Valid) (hs : c.reader = some s) :
    ∃ indexed, c.run.state w =
      { readState (refillState w s) s c.dest (((refillState w s).buffers s).taken c.limit) with
        indexed := indexed } := by
  have hlt := Call.lt_of_reader hc hs
  obtain ⟨hpos, hle⟩ := (h.refill hlt).owned.length_le hlt
  cases c with
  | available socket =>
      obtain rfl := Option.some.inj hs
      rw [Call.limit, Entry.taken_zero, readState_zero]
      exact ⟨_, state_available w socket⟩
  | peek socket =>
      obtain rfl := Option.some.inj hs
      rw [Call.limit, Entry.taken_zero, readState_zero]
      exact state_peek w socket
  | read socket data length =>
      obtain rfl := Option.some.inj hs
      exact state_read data length hpos hle hc.2.2
  | readChar sock =>
      obtain rfl := Option.some.inj hs
      have hsock := ne_noSocketAvail hlt
      by_cases hzero : ((refillState w sock.toNat).buffers sock.toNat).length = 0
      · rw [Call.limit, Entry.taken_of_zero 1 hzero, readState_zero]
        exact ⟨_, (WiFiClient.readChar_of_zero hsock hzero).2⟩
      · have hlt : 0 < ((refillState w sock.toNat).buffers sock.toNat).length := by omega
        rw [Call.limit, Entry.taken_one hlt]
        exact (WiFiClient.readChar_of_pos hsock hlt hle).2
  | close | deinit => exact absurd hs (by simp [Call.reader])

end Read

section Close
variable {w : World} {s : ℕ}

theorem Ready.close (h : Ready w) (hs : s < wifiMaxSockNum) : Ready ((close s).state w) :=
  ⟨h.owned.close hs, h.affluent.close s⟩

theorem Ready.held (h : Ready w) : Held w := h.owned.held h.affluent

theorem Ready.deinit (h : Ready w) :
    Ready (WiFiSocketBuffer.deinit.state w) ∧ (WiFiSocketBuffer.deinit.state w).bus = w.bus ∧
      ∀ t < wifiMaxSockNum, (WiFiSocketBuffer.deinit.state w).buffers t = .empty :=
  deinit_of_close (I := Ready) (fun _ hw _ hs => hw.close hs) (fun _ hw => hw.held.eq_empty) h

end Close

section Runs
variable {w : World} {c : Call} {s : ℕ}

theorem Ready.congr {w' : World} (h : Ready w) (hheap : w'.heap = w.heap)
    (hbuffers : w'.buffers = w.buffers) : Ready w' := by
  refine ⟨h.owned.congr hheap hbuffers, ?_⟩
  intro k
  rw [hheap]
  exact h.affluent k

theorem Ready.before (h : Ready w) (a : Action) : Ready (w.before a) := h.congr rfl rfl

theorem Call.ready (h : Ready w) (hc : c.Valid) : Ready (c.run.state w) := by
  cases hs : c.reader with
  | some s =>
      have hlt := Call.lt_of_reader hc hs
      obtain ⟨indexed, hstate⟩ := Call.state_run h hc hs
      have hrefill := h.refill hlt
      have hread := hrefill.owned.read hlt c.dest
        (Entry.taken_le c.limit (hrefill.owned.length_le hlt).1)
      rw [hstate]
      exact ⟨hread.congr rfl rfl, hrefill.affluent⟩
  | none =>
      cases c with
      | close socket =>
          rw [Call.state_close]
          exact h.close hc
      | deinit =>
          rw [Call.state_deinit]
          exact h.deinit.1
      | available | peek | read | readChar => simp [Call.reader] at hs

theorem ready_exec {as : List Action} (h : Ready w) (hrun : calls.Run w as) :
    Ready (calls.exec w as) :=
  System.invariant (I := Ready) (S := calls) (fun _ a hw ha =>
    Call.ready (hw.before a) ha.1) h hrun

/-- The library before its first call. -/
theorem owned_init (hlive : w.heap.live = []) (hfrees : w.heap.badFrees = []) :
    Owned (init.state w) := by
  have hempty : ∀ s < wifiMaxSockNum, (init.state w).buffers s = .empty := by
    intro s hs
    simp [init, hs]
  have hheap : (init.state w).heap.live = [] := hlive
  refine ⟨fun s hs => .null (hempty s hs), ?_, ?_, ?_, ?_, hfrees⟩
  · rw [hheap]
    simp
  · intro s hs t ht hne
    rw [hempty s hs] at hne
    exact absurd rfl hne
  · rw [hheap]
    simp
  · rw [hheap]
    exact List.nodup_nil

theorem ready_init (hlive : w.heap.live = []) (hfrees : w.heap.badFrees = [])
    (hm : Affluent w) : Ready (init.state w) := ⟨owned_init hlive hfrees, hm⟩

end Runs

section Stores
variable {w : World} {c : Call} {s : ℕ}

theorem log_refill (h : Ready w) (hs : s < wifiMaxSockNum) :
    ∃ new, (refillState w s).bus.mem.log = new ++ w.bus.mem.log ∧
      ∀ a ∈ new, a.IsLocal ∨ a ∈ (block w s).region 255 := by
  obtain ⟨-, hstate⟩ | ⟨-, indexed, hstate⟩ := h.held.refill_cases hs
  · exact ⟨[], by rw [hstate]; rfl, by simp⟩
  · obtain ⟨new, hlog, hnew⟩ := log_getDataBuf (UInt8.ofNat s) (block w s) (sized_fetching w)
    refine ⟨new ++ (sizeVar.region 2).reverse, ?_, ?_⟩
    · rw [hstate, hlog, fetching, Memory.log_storeList, List.append_assoc]
      rfl
    · intro a ha
      rcases List.mem_append.mp ha with ha | ha
      · exact (hnew a ha).imp_left (Ptr.isLocal_of_mem_region le_rfl)
      · exact .inl (Ptr.isLocal_of_mem_region le_rfl (List.mem_reverse.mp ha))

/-- Where a call may store: in variables of its own, in the block of its socket, and where
the bytes it reads go. -/
def Call.MayStore (c : Call) (w' : World) (a : Ptr Obj) : Prop :=
  a.IsLocal ∨ (∃ s, c.reader = some s ∧ (w'.buffers s).data ≠ nullPtr ∧
    a ∈ (w'.buffers s).data.region 255) ∨ a ∈ c.dest.region c.limit.toNat

theorem Call.stores (h : Ready w) (hc : c.Valid) :
    ∀ a ∈ (c.run.state w).bus.mem.since w.bus.mem, c.MayStore (c.run.state w) a := by
  cases hs : c.reader with
  | some s =>
      have hlt := Call.lt_of_reader hc hs
      obtain ⟨indexed, hstate⟩ := Call.state_run h hc hs
      obtain ⟨hdata, hne⟩ := h.held.data_refill hlt
      obtain ⟨new, hlog, hnew⟩ := log_refill h hlt
      have hblock : ((c.run.state w).buffers s).data = block w s := by
        rw [hstate]
        simp [readState, Entry.advance, hdata]
      have hall : (c.run.state w).bus.mem.log =
          ((c.dest.region (((refillState w s).buffers s).taken c.limit)).reverse ++ new) ++
            w.bus.mem.log := by
        rw [hstate, List.append_assoc, ← hlog]
        simp [readState, Memory.log_storeList]
      rw [Memory.since_of_log hall]
      intro a ha
      rcases List.mem_append.mp ha with ha | ha
      · refine .inr (.inr (Ptr.region_subset ?_ (List.mem_reverse.mp ha)))
        exact Nat.min_le_right _ _
      · rcases hnew a ha with hlocal | hmem
        · exact .inl hlocal
        · exact .inr (.inl ⟨s, hs, by rwa [hblock], by rwa [hblock]⟩)
  | none =>
      have hbus : (c.run.state w).bus = w.bus := by
        cases c with
        | close socket => rw [Call.state_close, bus_close]
        | deinit => rw [Call.state_deinit, h.deinit.2.1]
        | available | peek | read | readChar => simp [Call.reader] at hs
      simp [hbus]

end Stores

/-- **Ownership of the buffers**: from the initialisation on, every live block belongs to
exactly one socket, whose window lies inside it; what a call stores stays inside the
block of its socket; and nothing is left after `WiFiSocketBuffer_deinit`. -/
theorem buffers_owned (w : World) (as : List Action) (hlive : w.heap.live = [])
    (hfrees : w.heap.badFrees = []) (hm : Affluent w) (hrun : calls.Run (init.state w) as) :
    Owned (calls.exec (init.state w) as) ∧
      (∀ a, calls.enabled (calls.exec (init.state w) as) a →
        ∀ p ∈ (calls.next (calls.exec (init.state w) as) a).bus.mem.since a.bus.mem,
          a.call.MayStore (calls.next (calls.exec (init.state w) as) a) p) ∧
      (deinit.state (calls.exec (init.state w) as)).heap.live = [] := by
  have h := ready_exec (ready_init hlive hfrees hm) hrun
  refine ⟨h.owned, fun a ha => ?_, h.held.live_deinit⟩
  exact Call.stores (h.before a) ha.1

/-- A module that answers everything with two bytes of data. -/
def chatting : World := World.bootWith fun _ => replyFrame UInt16 getDatabufTcpCmd [[104, 105]]

/-- Calls one after another, with nothing in between. -/
def inSequence (w : World) (cs : List Call) : List Action :=
  calls.drive (fun w c => ⟨c, w.bus⟩) w cs

theorem run_inSequence {cs : List Call} (h : ∀ c ∈ cs, c.Valid) (w : World) :
    calls.Run w (inSequence w cs) := by
  refine System.run_drive ?_ w
  intro c hc w
  exact ⟨h c hc, fun _ _ => rfl⟩

theorem forall_inSequence {P : Call → Prop} {cs : List Call} (h : ∀ c ∈ cs, P c) (w : World) :
    ∀ a ∈ inSequence w cs, P a.call :=
  System.forall_drive (P := fun a : Action => P a.call) (fun c hc _ => h c hc) w

/-- Two sockets, of which one is read, closed and filled again. -/
def refilling : List Call :=
  [.available 3, .readChar 3, .available 7, .read 3 ⟨.user 0, 0⟩ 9, .close 3, .peek 3]

theorem valid_refilling : ∀ c ∈ refilling, c.Valid := by
  simp [refilling, Call.Valid, Obj.IsHeap, wifiMaxSockNum]

/-- Two blocks are owned in the end, and freed. -/
theorem buffers_owned_refilling :
    Owned (calls.exec (init.state chatting) (inSequence (init.state chatting) refilling)) ∧
      (calls.exec (init.state chatting)
        (inSequence (init.state chatting) refilling)).heap.live.length = 2 ∧
      (deinit.state (calls.exec (init.state chatting)
        (inSequence (init.state chatting) refilling))).heap.live = [] := by
  obtain ⟨howned, -, hlive⟩ := buffers_owned chatting
    (inSequence (init.state chatting) refilling) rfl rfl (fun _ => rfl)
    (run_inSequence valid_refilling _)
  exact ⟨howned, by decide +kernel, hlive⟩

end WiFiNINA
