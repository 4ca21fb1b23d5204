import WiFiNINA.Exchanging.Isolation
import WiFiNINA.Exchanging.Library

/-!
# Runs of the whole library

What holds of exchanges holds of every sequence of calls, whatever the module answers, whether
or not blocks can be allocated, and whatever the clock says: the library and the module stay in
lock step, and the state that the driver keeps for itself cannot be told from outside.
-/

namespace WiFiNINA

variable {C : Set UInt8} {α : Type} {n : ℕ}

/-- The drivers' side advances by at most `n` exchanges with commands of `C`. -/
def DriverAdvances (C : Set UInt8) (n : ℕ) (w w' : World) : Prop :=
  Advances C Set.univ n w.bus w'.bus

theorem addsUp_driverAdvances : AddsUp (DriverAdvances C) where
  refl w := addsUp_advances.refl w.bus
  trans := Advances.trans
  mono := addsUp_advances.mono

theorem driverAdvances_libraryOp {p : Prog World α} (h : LibraryOp C n p) :
    Prog.Guarantees (DriverAdvances C n) p := by
  intro w
  cases h with
  | bus h => exact h.advances w.bus
  | aside h =>
      rw [DriverAdvances, h.bus_state]
      exact addsUp_advances.refl w.bus

theorem ApiCall.advances (c : ApiCall) :
    Prog.Guarantees (DriverAdvances c.commands c.budget) c.run := fun w =>
  c.composed.guarantees addsUp_driverAdvances (fun _ _ _ => trivial)
    (fun h w _ => driverAdvances_libraryOp h w) w trivial

/-- The commands that the calls of a run send. -/
def runCommands (cs : List ApiCall) : Set UInt8 := {cmd | ∃ c ∈ cs, cmd ∈ c.commands}

theorem driverAdvances_exec (w : World) (cs : List ApiCall) :
    DriverAdvances (runCommands cs) (cs.map ApiCall.budget).sum w (api.exec w cs) := by
  induction cs generalizing w with
  | nil => exact addsUp_driverAdvances.refl w
  | cons c cs ih =>
      have hcall : DriverAdvances (runCommands (c :: cs)) c.budget w (c.run.state w) :=
        (c.advances w).mono (fun cmd hcmd => ⟨c, List.mem_cons_self, hcmd⟩) (fun _ => id) le_rfl
      have hrest : DriverAdvances (runCommands (c :: cs)) (cs.map ApiCall.budget).sum
          (c.run.state w) (api.exec (c.run.state w) cs) :=
        (ih (c.run.state w)).mono
          (fun cmd ⟨d, hd, hcmd⟩ => ⟨d, List.mem_cons_of_mem c hd, hcmd⟩) (fun _ => id) le_rfl
      rw [List.map_cons, List.sum_cons]
      exact hcall.trans hrest

/-- **Lock step.**  Whatever the calls and whatever the module answers, what a run transmits is
a list of whole exchanges, a request and the fetch of its reply.  They carry commands of the
functions called, and are at most as many as these have to make; two answers of the module are
used up by each of them, and `txBuffer` is overrun only by a request that does not fit it. -/
theorem lock_step (w : World) (cs : List ApiCall) :
    ∃ es : List Exchange, es.length ≤ (cs.map ApiCall.budget).sum ∧
      (∀ e ∈ es, (∃ c ∈ cs, e.cmd ∈ c.commands) ∧ e.Valid) ∧
      Performed es w.bus (api.exec w cs).bus :=
  (driverAdvances_exec w cs).exchanges

/-- Worlds that agree, but for what the driver keeps for itself, and in which the same has been
transmitted and stored since `v₀` and `w₀`. -/
structure Twin (v₀ w₀ v w : World) : Prop where
  bus : Alike 1 v₀.bus w₀.bus v.bus w.bus
  rest : w = { v with bus := w.bus }

section Twin
variable {v₀ w₀ v w : World}

theorem twin_libraryOp {p : Prog World α} (h : LibraryOp C n p) :
    Prog.Respects (Twin v₀ w₀) p := by
  intro v w hvw
  obtain ⟨hbus, hrest⟩ := hvw
  cases h with
  | bus h =>
      obtain ⟨hval, hstate⟩ := h.respects v.bus w.bus hbus
      refine ⟨hval, hstate, ?_⟩
      rw [World.state_onBus, World.state_onBus, hrest]
  | aside h =>
      have hv := h v v.bus
      have hw := h v w.bus
      rw [← hrest] at hw
      refine ⟨(congrArg Prod.fst hw).symm, ?_, ?_⟩
      · rw [h.bus_state, h.bus_state]
        exact hbus
      · rw [h.bus_state w]
        exact congrArg Prod.snd hw

theorem ApiCall.respects (c : ApiCall) : Prog.Respects (Twin v₀ w₀) c.run :=
  c.composed.respects (fun _ => trivial) twin_libraryOp

theorem twin_exec (h : Twin v₀ w₀ v w) (cs : List ApiCall) :
    results v cs = results w cs ∧ Twin v₀ w₀ (api.exec v cs) (api.exec w cs) := by
  induction cs generalizing v w with
  | nil => exact ⟨rfl, h⟩
  | cons c cs ih =>
      obtain ⟨hval, hstate⟩ := c.respects v w h
      obtain ⟨hresults, hexec⟩ := ih hstate
      refine ⟨?_, hexec⟩
      rw [results, results, System.collect_cons, System.collect_cons, hval]
      exact congrArg (_ :: ·) hresults

end Twin

/-- **Isolation.**  From two worlds that agree on the contents of the memory, on the first 255
bytes of every reply to come and on everything that is not the driver's, every sequence of calls
returns the same, transmits the same and stores the same, and leads to two such worlds.  What is
left in the buffers of the driver, whether it is initialised, how long the module stays busy and
what it shifts out during requests have no part in it. -/
theorem isolation {v w : World} (hload : ∀ a, v.bus.mem.load a = w.bus.mem.load a)
    (hreplies : ∀ k, (v.bus.slave (2 * k + 1)).take 255 = (w.bus.slave (2 * k + 1)).take 255)
    (hrest : w = { v with bus := w.bus }) (cs : List ApiCall) :
    results v cs = results w cs ∧ Twin v w (api.exec v cs) (api.exec w cs) :=
  twin_exec ⟨⟨hload, hreplies, ⟨[], by simp⟩, [], rfl, rfl⟩, hrest⟩ cs

/-- A driver before its first call, and one with leftovers in its buffers in front of a module
that is busy and noisy. -/
theorem isolation_leftovers :
    let v := World.boot
    let w := { v with
      bus := { v.bus with
        initialized := true
        rx := [startCmd, 0xA0]
        txBuffer := v.bus.txBuffer.storeList (txAt 0) [7, 7]
        espBusy := ⟨fun k => decide (k < 3), fun k => ⟨3, by simp⟩⟩
        slave := fun k => if k % 2 = 0 then [startCmd] else [] } }
    results v [.wifi .status, .buffer (.available 3)] =
        results w [.wifi .status, .buffer (.available 3)] ∧
      Twin v w (api.exec v [.wifi .status, .buffer (.available 3)])
        (api.exec w [.wifi .status, .buffer (.available 3)]) := by
  intro v w
  have hreplies : ∀ k, (v.bus.slave (2 * k + 1)).take 255 = (w.bus.slave (2 * k + 1)).take 255 := by
    intro k
    have hodd : (2 * k + 1) % 2 ≠ 0 := by omega
    simp only [v, w, World.boot, Bus.fresh, if_neg hodd]
  exact isolation (v := v) (w := w) (fun a => rfl) hreplies rfl _

end WiFiNINA
