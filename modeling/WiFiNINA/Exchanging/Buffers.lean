import WiFiNINA.Exchanging.WiFi

/-!
# The socket buffers exchange

Above the drivers there are the socket buffers, the heap and the clock, which have nothing to do
with the hardware.  So the functions of `WiFiSocketBuffer.c` are composed of exchanges and of
operations that neither look at the driver nor change it.
-/

namespace WiFiNINA

open World

/-- `p` neither looks at the driver nor changes it. -/
def Aside {α : Type} (p : Prog World α) : Prop :=
  ∀ w b, p.run { w with bus := b } = (p.val w, { p.state w with bus := b })

/-- Programs of the drivers that send commands of `C`, at the price of their exchanges, and what
is aside from them. -/
inductive LibraryOp (C : Set UInt8) : ⦃α : Type⦄ → ℕ → Prog World α → Prop
  | bus {α : Type} {n : ℕ} {p : Prog Bus α} (h : Exchanging C Set.univ n p) :
      LibraryOp C n (onBus p)
  | aside {α : Type} {p : Prog World α} (h : Aside p) : LibraryOp C 0 p

/-- Composed of at most `n` exchanges with commands of `C`, and of what is aside from them. -/
abbrev OfLibrary (C : Set UInt8) {α : Type} (n : ℕ) (p : Prog World α) : Prop :=
  Composed (fun _ : World => True) (LibraryOp C) n p

section Aside
variable {α : Type}

theorem Aside.bus_state {p : Prog World α} (h : Aside p) (w : World) :
    (p.state w).bus = w.bus := by
  have hstate : p.state w = { p.state w with bus := w.bus } := congrArg Prod.snd (h w w.bus)
  rw [hstate]

theorem aside_entry (socket : ℕ) : Aside (entry socket) := fun _ _ => rfl
theorem aside_setEntry (socket : ℕ) (e : Entry) : Aside (setEntry socket e) := fun _ _ => rfl
theorem aside_free (p : Ptr Obj) : Aside (free p) := fun _ _ => rfl
theorem aside_tickCount : Aside tickCount := fun _ _ => rfl
theorem aside_pdMsToTicks (ms : UInt32) : Aside (pdMsToTicks ms) := fun _ _ => rfl
theorem aside_init : Aside WiFiSocketBuffer.init := fun _ _ => rfl

theorem aside_malloc (size : ℕ) : Aside (malloc size) := by
  intro w b
  simp only [malloc, Prog.val_mk, Prog.state_mk]
  split <;> rfl

end Aside

section Buffers
variable {C : Set UInt8} {α β : Type} {n : ℕ}

theorem ofLibrary_bus {p : Prog Bus α} (h : Exchanging C Set.univ n p) :
    OfLibrary C n (onBus p) := .basic (.bus h)

theorem ofLibrary_aside {p : Prog World α} (h : Aside p) : OfLibrary C 0 p := .basic (.aside h)

/-- Looking at an entry. -/
theorem ofLibrary_entry {socket : ℕ} {f : Entry → Prog World β}
    (hf : ∀ e, OfLibrary C n (f e)) : OfLibrary C n (entry socket >>= f) :=
  (ofLibrary_aside (aside_entry socket)).before fun w _ => hf (w.buffers socket)

/-- Bytes that were loaded decide how to go on. -/
theorem ofLibrary_load {p : Ptr Obj} {k : ℕ} {f : List UInt8 → Prog World β}
    (hf : ∀ bytes, OfLibrary C n (f bytes)) :
    OfLibrary C n (onBus (Bus.loadList p k) >>= f) :=
  (ofLibrary_bus (exchanging_loadList p k)).before fun w _ => hf (w.bus.mem.loadList p k)

theorem ofLibrary_var {var : Var} {init : List UInt8} {f : Ptr Obj → Prog World β}
    (hf : OfLibrary C n (f ⟨.auto var init.length, 0⟩)) :
    OfLibrary C n (onBus (Bus.auto var init) >>= f) := by
  have hauto : Exchanging C Set.univ 0 (Bus.auto var init) :=
    exchanging_auto (f := fun p => pure p) (fun _ _ => trivial) (.pure _)
  exact (ofLibrary_bus hauto).before fun _ _ => hf

theorem ofLibrary_allocate (socket : ℕ) : OfLibrary C 0 (WiFiSocketBuffer.allocate socket) := by
  refine ofLibrary_entry fun e => ?_
  split
  · exact (ofLibrary_aside (aside_malloc _)).before fun _ _ =>
      ofLibrary_aside (aside_setEntry socket _)
  · exact .pure ()

theorem ofLibrary_refill (hfetch : getDatabufTcpCmd ∈ C) (socket : ℕ) :
    OfLibrary C 1 (WiFiSocketBuffer.refill socket) := by
  refine ofLibrary_entry fun e => ?_
  split
  · refine (ofLibrary_allocate socket).before fun _ _ => ofLibrary_var (ofLibrary_entry fun e => ?_)
    refine Composed.after (ofLibrary_bus (exchanging_getDataBuf (fun _ _ => trivial)
      hfetch _ _ fun _ _ _ => trivial)) fun _ _ => ?_
    split
    · exact ofLibrary_load fun _ => ofLibrary_aside (aside_setEntry socket _)
    · exact .pure ()
  · exact (Composed.pure ()).mono (Nat.zero_le 1)

theorem ofLibrary_available (hfetch : getDatabufTcpCmd ∈ C) (socket : ℕ) :
    OfLibrary C 1 (WiFiSocketBuffer.available socket) :=
  (ofLibrary_refill hfetch socket).after fun _ _ => ofLibrary_entry fun _ => .pure _

theorem ofLibrary_read (hfetch : getDatabufTcpCmd ∈ C) (socket : ℕ) (data : Ptr Obj)
    (length : UInt32) :
    OfLibrary C 1 (WiFiSocketBuffer.read socket data length) := by
  refine (ofLibrary_available hfetch socket).after fun _ _ => .ite_pure _ _
    (ofLibrary_entry fun e => ofLibrary_load fun bytes => ?_)
  have hstore : Exchanging C Set.univ 0 (Bus.storeList data bytes) :=
    .basic (.memory (.store fun _ _ => trivial))
  exact (ofLibrary_bus hstore).before fun _ _ =>
    (ofLibrary_aside (aside_setEntry socket _)).before fun _ _ => .pure _

theorem ofLibrary_close (socket : ℕ) : OfLibrary C 0 (WiFiSocketBuffer.close socket) := by
  refine ofLibrary_entry fun e => ?_
  split
  · exact (ofLibrary_aside (aside_free _)).before fun _ _ =>
      ofLibrary_aside (aside_setEntry socket _)
  · exact .pure ()

end Buffers

end WiFiNINA
