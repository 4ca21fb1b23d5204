import WiFiNINA.SpiDrv

/-!
# The encoders write frames

`frame` is the request as it stands on the wire, as a function of the command and
the parameter bytes.  The encoders refine it: whatever the driver's history, they
store exactly the frame at the start of `txBuffer`, one byte after the other, and
hand exactly those bytes to the SPI block.
-/

namespace WiFiNINA

open LengthCode

/-- The zeros between the last parameter and the end byte, for parameters that take
`n` bytes in all. -/
def padding (n : ℕ) : ℕ := 3 - (3 + n) % 4

/-- The request frame of a command with the given parameter bytes. -/
def frame (L : Type) [LengthCode L UInt8] (cmd : UInt8) (xs : List (List UInt8)) : List UInt8 :=
  [startCmd, cmd &&& ~~~replyFlag, UInt8.ofNat xs.length] ++ fields L xs ++
    List.replicate (padding (fieldsSize L xs)) 0 ++ [endCmd]

/-- The frame stays inside `txBuffer`. -/
def Fits (L : Type) [LengthCode L UInt8] (xs : List (List UInt8)) : Prop :=
  3 + fieldsSize L xs + padding (fieldsSize L xs) + 1 ≤ spiMaxTxBuffer

/-- The bytes a parameter points to. -/
def Param.bytes {L : Type} [LengthCode L UInt8] (p : Param L) (m : Memory Obj UInt8) :
    List UInt8 :=
  m.loadList p.data (toNat p.len)

section Frame
variable (L : Type) [LengthCode L UInt8]

@[simp] theorem length_frame (cmd : UInt8) (xs : List (List UInt8)) :
    (frame L cmd xs).length = 3 + fieldsSize L xs + padding (fieldsSize L xs) + 1 := by
  simp [frame]
  omega

theorem fits_iff_length (cmd : UInt8) (xs : List (List UInt8)) :
    Fits L xs ↔ (frame L cmd xs).length ≤ spiMaxTxBuffer := by
  rw [length_frame, Fits]

/-- The padding rounds up, so the last usable start of it is index 251. -/
theorem fits_iff (xs : List (List UInt8)) : Fits L xs ↔ 3 + fieldsSize L xs ≤ 251 := by
  unfold Fits padding spiMaxTxBuffer
  omega

@[simp] theorem length_bytes (p : Param L) (m : Memory Obj UInt8) :
    (p.bytes m).length = toNat p.len := by
  simp [Param.bytes]

variable {L} in
theorem bytes_length_lt (params : List (Param L)) (m : Memory Obj UInt8) :
    ∀ x ∈ params.map fun p => p.bytes m, x.length < bound L := by
  intro x hx
  obtain ⟨p, _, rfl⟩ := List.mem_map.mp hx
  rw [length_bytes]
  exact toNat_lt p.len

end Frame

namespace SpiDrv

variable {L : Type} [LengthCode L UInt8]

/-- Selecting the slave transmits nothing, and touches the log, the busy readings and
the initialisation flag only. -/
theorem state_waitForSlaveSelect (b : Bus) :
    ∃ log busy, waitForSlaveSelect.state b =
      { b with initialized := true, espBusy := busy, log := b.log ++ log } ∧
      log.filterMap Event.bytes? = [] := by
  have hready : ∀ c : Bus, ∃ log busy, waitForSlaveReadyTimeout.state c =
      { c with espBusy := busy, log := c.log ++ log } ∧ log.filterMap Event.bytes? = [] := by
    intro c
    cases hbusy : c.espBusy.reading 0
    · exact ⟨[], _, by simp [waitForSlaveReadyTimeout, Bus.espBusyRead, hbusy]; rfl, rfl⟩
    · exact ⟨[.xSemaphoreTake .slaveReadyDetected], _,
        by simp [waitForSlaveReadyTimeout, Bus.espBusyRead, hbusy]; rfl, rfl⟩
  have hbegin : ∃ log, beginOnce.state b =
      { b with initialized := true, log := b.log ++ log } ∧
      log.filterMap Event.bytes? = [] := by
    cases hinit : b.initialized
    · exact ⟨_, by simp [beginOnce, hinit, begin, List.append_assoc]; rfl, by simp⟩
    · refine ⟨[], ?_, rfl⟩
      obtain ⟨⟩ := b
      simp_all [beginOnce]
  obtain ⟨l₀, h₀, e₀⟩ := hbegin
  obtain ⟨l₁, busy₁, h₁, e₁⟩ := hready { b with initialized := true, log := b.log ++ l₀ }
  obtain ⟨l₂, busy₂, h₂, e₂⟩ := hready
    { b with
      initialized := true, espBusy := busy₁.skip busy₁.untilReleased
      log := b.log ++ l₀ ++ l₁ ++ [.csOverrideWrite true] }
  refine ⟨l₀ ++ l₁ ++ [.csOverrideWrite true] ++ l₂, busy₂, ?_, by
    rw [List.filterMap_append, List.filterMap_append, List.filterMap_append, e₀, e₁, e₂]
    rfl⟩
  simp only [waitForSlaveSelect, waitForSlaveReady, spiSlaveSelect, Prog.state_bind, h₀, h₁,
    Bus.state_espBusySpin, Bus.state_emit, h₂]
  simp [List.append_assoc]

@[simp] theorem val_putBytes (j : ℕ) (cs : List UInt8) (b : Bus) :
    (putBytes j cs).val b = j + cs.length := rfl
@[simp] theorem state_putBytes (j : ℕ) (cs : List UInt8) (b : Bus) :
    (putBytes j cs).state b = { b with txBuffer := b.txBuffer.storeList (txAt j) cs } := rfl

/-- Stores that follow each other through the cursor are one store. -/
theorem storeList_txAt_append (m : Memory Unit UInt8) {j k : ℕ} (xs ys : List UInt8)
    (h : k = j + xs.length) :
    (m.storeList (txAt j) xs).storeList (txAt k) ys = m.storeList (txAt j) (xs ++ ys) := by
  subst h
  rw [Memory.storeList_append]
  rfl

theorem run_putParams (params : List (Param L)) (j : ℕ) (b : Bus) :
    (putParams params.length params j).val b =
        j + fieldsSize L (params.map fun p => p.bytes b.mem) ∧
      (putParams params.length params j).state b =
        { b with
          txBuffer := b.txBuffer.storeList (txAt j)
            (fields L (params.map fun p => p.bytes b.mem)) } := by
  induction params generalizing j b with
  | nil => exact ⟨rfl, rfl⟩
  | cons p params ih =>
      have hfield : encode p.len ++ p.bytes b.mem = field L (p.bytes b.mem) := by
        simp [field]
      simp only [List.length_cons, putParams, Prog.val_bind, Prog.state_bind, val_putBytes,
        state_putBytes, Bus.val_loadList, Bus.state_loadList]
      rw [(ih _ _).1, (ih _ _).2]
      constructor
      · simp [Param.bytes]
        omega
      · rw [storeList_txAt_append _ _ _ rfl,
          storeList_txAt_append _ _ _ (by simp [Nat.add_assoc]), List.map_cons, fields_cons,
          ← hfield]
        rfl

theorem run_putPadding (j : ℕ) (b : Bus) :
    (putPadding j).val b = j + (3 - j % 4) ∧
      (putPadding j).state b =
        { b with
          txBuffer := b.txBuffer.storeList (txAt j) (List.replicate (3 - j % 4) 0) } := by
  have hand : ∀ k : ℕ, k &&& 3 = k % 4 := fun k => Nat.and_two_pow_sub_one_eq_mod k 2
  -- the induction is on the number of zeros still missing
  induction hn : 3 - j % 4 generalizing j b with
  | zero =>
      rw [putPadding, if_neg (by rw [hand]; omega)]
      exact ⟨rfl, rfl⟩
  | succ n ih =>
      rw [putPadding, if_pos (by rw [hand]; omega)]
      obtain ⟨hval, hstate⟩ := ih (j + 1)
        { b with txBuffer := b.txBuffer.storeList (txAt j) [0] } (by omega)
      simp only [Prog.val_bind, Prog.state_bind, state_putBytes]
      rw [hval, hstate]
      constructor
      · omega
      · simp [List.replicate_succ]

/-- **The frame construction.** From any state, exactly the frame is stored, at
consecutive indices from 0 on, and the cursor ends behind it. -/
theorem run_buildFrame (cmd numParam : UInt8) (params : List (Param L)) (b : Bus)
    (hn : params.length = numParam.toNat) :
    (buildFrame cmd numParam params).val b =
        (frame L cmd (params.map fun p => p.bytes b.mem)).length ∧
      (buildFrame cmd numParam params).state b =
        { b with
          txBuffer := b.txBuffer.storeList (txAt 0)
            (frame L cmd (params.map fun p => p.bytes b.mem)) } := by
  have hcount : UInt8.ofNat params.length = numParam := by rw [hn, UInt8.ofNat_toNat]
  simp only [buildFrame, Prog.val_bind, Prog.state_bind, val_putBytes, state_putBytes, ← hn,
    run_putParams, run_putPadding, List.length_cons, List.length_nil, Nat.zero_add]
  constructor
  · simp [padding]
  · rw [storeList_txAt_append _ _ _ (by simp), storeList_txAt_append _ _ _ (by simp),
      storeList_txAt_append _ _ _ (by simp)]
    simp only [frame, padding, hcount, List.length_map, List.append_assoc]

variable (cmd numParam : UInt8) (params : List (Param L)) (b : Bus)

/-- What a call of an encoder does to the driver, up to the handshake. -/
theorem state_send (hn : params.length = numParam.toNat) :
    ∃ log busy, (send cmd numParam params).state b =
      { b with
        initialized := true
        espBusy := busy
        txBuffer := b.txBuffer.storeList (txAt 0)
          (frame L cmd (params.map fun p => p.bytes b.mem))
        rx := (b.slave 0).take (frame L cmd (params.map fun p => p.bytes b.mem)).length
        slave := fun k => b.slave (k + 1)
        log := b.log ++ log } ∧
      log.filterMap Event.bytes? = [frame L cmd (params.map fun p => p.bytes b.mem)] := by
  obtain ⟨hval, hstate⟩ := run_buildFrame cmd numParam params b hn
  obtain ⟨l, busy, hsel, hl⟩ := state_waitForSlaveSelect
    { b with
      txBuffer := b.txBuffer.storeList (txAt 0)
        (frame L cmd (params.map fun p => p.bytes b.mem))
      rx := [] }
  refine ⟨l ++ [.putArray (frame L cmd (params.map fun p => p.bytes b.mem)),
    .xSemaphoreTake .spiTxCompleted, .csOverrideWrite false], busy, ?_, by
    simp [hl]⟩
  simp only [send, Prog.state_bind, hval, hstate, Bus.state_clearTxBuffer,
    Bus.state_clearRxBuffer, hsel, Bus.state_putArray, Bus.state_emit, spiSlaveDeselect,
    Memory.loadList_storeList]
  simp [List.append_assoc]

theorem transmitted_send (hn : params.length = numParam.toNat) :
    ((send cmd numParam params).state b).transmitted =
      b.transmitted ++ [frame L cmd (params.map fun p => p.bytes b.mem)] := by
  obtain ⟨log, busy, h, hlog⟩ := state_send cmd numParam params b hn
  rw [h]
  simp [Bus.transmitted, hlog]

theorem txBuffer_send (hn : params.length = numParam.toNat) :
    ((send cmd numParam params).state b).txBuffer =
      b.txBuffer.storeList (txAt 0) (frame L cmd (params.map fun p => p.bytes b.mem)) := by
  obtain ⟨log, busy, h, -⟩ := state_send cmd numParam params b hn
  rw [h]

theorem mem_send (hn : params.length = numParam.toNat) :
    ((send cmd numParam params).state b).mem = b.mem := by
  obtain ⟨log, busy, h, -⟩ := state_send cmd numParam params b hn
  rw [h]

theorem slave_send (hn : params.length = numParam.toNat) :
    ((send cmd numParam params).state b).slave = fun k => b.slave (k + 1) := by
  obtain ⟨log, busy, h, -⟩ := state_send cmd numParam params b hn
  rw [h]

theorem reads_send (hn : params.length = numParam.toNat) :
    ((send cmd numParam params).state b).reads = b.reads := by
  obtain ⟨log, busy, h, -⟩ := state_send cmd numParam params b hn
  rw [h]

theorem putParams_take (n : ℕ) (params : List (Param L)) (j : ℕ) :
    putParams n (params.take n) j = putParams n params j := by
  induction n generalizing params j with
  | zero => rfl
  | succ n ih =>
      cases params with
      | nil => rfl
      | cons p params => simp only [List.take_succ_cons, putParams, ih]

/-- Only the announced parameters are sent. -/
theorem send_take : send cmd numParam (params.take numParam.toNat) = send cmd numParam params := by
  simp only [send, buildFrame, putParams_take]

end SpiDrv
end WiFiNINA
