import WiFiNINA.SpiDrv.SlaveReady

/-!
# A transfer, byte by byte

`SPIM_WIFI_PutArray` only hands an array to the SPI block, which shifts its bytes out one by one
while the task waits for `spiTxCompleted`.  The interrupt of the SPI block, whose callbacks give
the semaphore, comes for other reasons too.  Here the task, the two interrupts, the pin and the
SPI block take steps in any order.  The library does not create `spiTxCompleted`; here somebody
else has.

## Main definitions

* `Signal`, `Event.signals` — what the module can tell of what the driver does.
* `Interrupts.transferring` — the system, with the handshake of `SlaveReady` in it.
* `Interrupts.State.emits`, `Interrupts.State.shows` — what its steps do to the hardware, and what
  of it can be told when.
* `Interrupts.Due` — something is under way that will give the semaphore.

## Main statements

* `Interrupts.Inv.next` — the step lemma.
* `Interrupts.shown_exec` — the module cannot tell how the steps are interleaved.
* `Interrupts.ends_iff_due` — when the task goes on behind a transfer.
-/

namespace WiFiNINA

/-- What the module can tell of what the driver does. -/
inductive Signal
  | reset (level : Bool)
  | select (level : Bool)
  | byte (c : UInt8)
  deriving DecidableEq

/-- What it can tell if every array is transferred at once. -/
def Event.signals : Event → List Signal
  | .resetWrite level => [.reset level]
  | .csOverrideWrite level => [.select level]
  | .putArray bytes => bytes.map .byte
  | .xSemaphoreCreateBinary _ | .xSemaphoreTake _ => []

namespace Interrupts

/-- Where the task is once the slave is selected. -/
inductive Place
  /-- Not in a transfer. -/
  | outside
  /-- Behind `SPIM_WIFI_PutArray`, up to `xSemaphoreTake(spiTxCompleted, portMAX_DELAY)`. -/
  | taking
  /-- In front of `SpiDrv_spiSlaveDeselect`. -/
  | taken
  deriving DecidableEq

structure State where
  handshake : SlaveReady.State
  /-- What the SPI block has still to shift out. -/
  tx : List UInt8
  /-- `SPIM_WIFI_INT_ON_SPI_DONE` is set in `SPIM_WIFI_STATUS`. -/
  done : Bool
  /-- `spiTxCompleted` can be taken. -/
  token : Bool
  /-- `spiTxPreempted` -/
  preempted : Bool
  /-- The interrupt of the SPI block is served. -/
  serving : Bool
  place : Place
  deriving DecidableEq

inductive Step
  /-- `SpiDrv_begin`, called by `WiFi_init`. -/
  | begin
  /-- A step of the handshake. -/
  | handshake (a : SlaveReady.Step)
  /-- `SPIM_WIFI_PutArray` -/
  | putArray (bytes : List UInt8)
  /-- The SPI block shifts a byte out. -/
  | shift
  /-- `SPIM_WIFI_TX_ISR_EntryCallback`; `woken` if a task of a higher priority waits for the
  semaphore. -/
  | entry (woken : Bool)
  /-- `SPIM_WIFI_TX_ISR_ExitCallback` -/
  | exit
  /-- `xSemaphoreTake(spiTxCompleted, portMAX_DELAY)` returns. -/
  | take
  /-- `SpiDrv_spiSlaveDeselect` -/
  | deselect
  deriving DecidableEq

/-- The steps that the task does not take. -/
def External : SlaveReady.Step → Prop
  | .rise | .fall | .interrupt => True
  | .task | .timeout | .close => False

instance : DecidablePred External
  | .rise | .fall | .interrupt => isTrue trivial
  | .task | .timeout | .close => isFalse not_false

/-- The task, the interrupts, the pin and the SPI block.  The task does not go on while an interrupt
is served; the status register is cleared where it is read, and says that the SPI block is done
once the last byte has left. -/
def transferring : System State Step where
  enabled s
    | .begin => s.handshake.place = .idle ∧ s.serving = false
    | .handshake a => SlaveReady.handshake.enabled s.handshake a ∧
        (External a ∨ s.handshake.place ≠ .selected ∧ s.serving = false)
    | .putArray _ => s.handshake.place = .selected ∧ s.place = .outside ∧ s.serving = false
    | .shift => s.tx ≠ []
    | .entry _ => s.serving = false
    | .exit => s.serving = true
    | .take => s.place = .taking ∧ s.token = true ∧ s.serving = false
    | .deselect => s.place = .taken ∧ s.serving = false
  next s
    | .begin => { s with handshake := { s.handshake with token := false, initialized := true } }
    | .handshake a => { s with handshake := SlaveReady.handshake.next s.handshake a }
    | .putArray bytes => { s with tx := s.tx ++ bytes, place := .taking }
    | .shift => { s with tx := s.tx.tail, done := s.done || s.tx.tail.isEmpty }
    | .entry woken =>
        { s with
          done := false, token := s.token || s.done, preempted := s.done && woken, serving := true }
    | .exit => { s with serving := false }
    | .take => { s with token := false, place := .taken }
    | .deselect =>
        { s with handshake := SlaveReady.handshake.next s.handshake .task, place := .outside }

instance (s : State) : (a : Step) → Decidable (transferring.enabled s a)
  | .begin => inferInstanceAs (Decidable (s.handshake.place = .idle ∧ s.serving = false))
  | .handshake a => inferInstanceAs (Decidable (SlaveReady.handshake.enabled s.handshake a ∧
      (External a ∨ s.handshake.place ≠ .selected ∧ s.serving = false)))
  | .putArray _ => inferInstanceAs
      (Decidable (s.handshake.place = .selected ∧ s.place = .outside ∧ s.serving = false))
  | .shift => inferInstanceAs (Decidable (s.tx ≠ []))
  | .entry _ => inferInstanceAs (Decidable (s.serving = false))
  | .exit => inferInstanceAs (Decidable (s.serving = true))
  | .take => inferInstanceAs
      (Decidable (s.place = .taking ∧ s.token = true ∧ s.serving = false))
  | .deselect => inferInstanceAs (Decidable (s.place = .taken ∧ s.serving = false))

/-- Between the calls of the driver, with the pin low and nothing under way. -/
def resting (initialized : Bool) : State where
  handshake := ⟨false, false, false, initialized, .idle⟩
  tx := []
  done := false
  token := false
  preempted := false
  serving := false
  place := .outside

/-- What a step does to the hardware and to the scheduler. -/
def State.emits (s : State) : Step → List Event
  | .begin => SlaveReady.beginEvents false
  | .handshake .close => [.resetWrite false, .csOverrideWrite false]
  | .handshake a => s.handshake.emits a
  | .putArray bytes => [.putArray bytes]
  | .take => [.xSemaphoreTake .spiTxCompleted]
  | .deselect => [.csOverrideWrite false]
  | .shift | .entry _ | .exit => []

/-- What the module can tell of a step: an array is seen when its bytes are shifted out, and not
when it is handed on. -/
def State.shows (s : State) : Step → List Signal
  | .putArray _ => []
  | .shift => (s.tx.take 1).map .byte
  | a => (s.emits a).flatMap Event.signals

/-- What the module is still going to see. -/
def State.unseen (s : State) : List Signal := s.tx.map .byte

/-- What every step keeps. -/
structure Inv (s : State) : Prop where
  /-- Only in a transfer bytes are left, or is their end to be noticed. -/
  taking : s.tx ≠ [] ∨ s.done = true ∨ s.token = true → s.place = .taking
  /-- The SPI block is done once, -/
  done : s.done = true → s.tx = [] ∧ s.token = false
  /-- and the semaphore is given behind the last byte. -/
  token : s.token = true → s.tx = []
  selected : s.place ≠ .outside → s.handshake.place = .selected
  /-- The scheduler is only called for a token. -/
  preempted : s.serving = true → s.preempted = true → s.token = true

theorem inv_resting (initialized : Bool) : Inv (resting initialized) where
  taking h := by simp [resting] at h
  done h := by cases h
  token h := by cases h
  selected h := absurd rfl h
  preempted h := by cases h

section Inv
variable {s : State}

theorem Inv.tx_eq_nil (h : Inv s) (hplace : s.place ≠ .taking) : s.tx = [] := by
  by_contra hne
  exact hplace (h.taking (.inl hne))

/-- Where the slave is not selected no transfer is under way. -/
theorem Inv.tx_of_not_selected (h : Inv s) (hplace : s.handshake.place ≠ .selected) :
    s.tx = [] := by
  refine h.tx_eq_nil fun htaking => hplace (h.selected ?_)
  rw [htaking]
  decide

/-- A step of the handshake that is enabled in a transfer leaves the task where it is. -/
theorem selected_of_external {s : SlaveReady.State} {a : SlaveReady.Step} (ha : External a)
    (hplace : s.place = .selected) : (SlaveReady.handshake.next s a).place = .selected := by
  cases a with
  | rise | fall | interrupt => exact hplace
  | task | timeout | close => exact ha.elim

theorem Inv.next_handshake (h : Inv s) {a : SlaveReady.Step}
    (ha : transferring.enabled s (.handshake a)) :
    Inv (transferring.next s (.handshake a)) where
  taking := h.taking
  done := h.done
  token := h.token
  preempted := h.preempted
  selected hplace := by
    rcases ha.2 with hexternal | ⟨hne, -⟩
    · exact selected_of_external hexternal (h.selected hplace)
    · exact absurd (h.selected hplace) hne

theorem Inv.next_putArray (h : Inv s) {bytes : List UInt8}
    (ha : transferring.enabled s (.putArray bytes)) :
    Inv (transferring.next s (.putArray bytes)) where
  taking _ := rfl
  done hdone := absurd (ha.2.1.symm.trans (h.taking (.inr (.inl hdone)))) (by decide)
  token htoken := absurd (ha.2.1.symm.trans (h.taking (.inr (.inr htoken)))) (by decide)
  selected _ := ha.1
  preempted := h.preempted

theorem Inv.next_shift (h : Inv s) (ha : transferring.enabled s .shift) :
    Inv (transferring.next s .shift) where
  taking _ := h.taking (.inl ha)
  done hdone := by
    have htoken : s.token = false := by
      by_contra hne
      exact ha (h.token (by simpa using hne))
    refine ⟨?_, htoken⟩
    rcases Bool.or_eq_true_iff.mp hdone with hbefore | hlast
    · exact absurd (h.done hbefore).1 ha
    · exact List.isEmpty_iff.mp hlast
  token htoken := absurd (h.token htoken) ha
  selected := h.selected
  preempted := h.preempted

theorem Inv.next_entry (h : Inv s) (woken : Bool) : Inv (transferring.next s (.entry woken)) where
  taking hdue := by
    rcases hdue with htx | hdone | htoken
    · exact h.taking (.inl htx)
    · cases hdone
    · exact h.taking (.inr (Bool.or_eq_true_iff.mp htoken).symm)
  done hdone := by cases hdone
  token htoken := by
    rcases Bool.or_eq_true_iff.mp htoken with hbefore | hdone
    · exact h.token hbefore
    · exact (h.done hdone).1
  selected := h.selected
  preempted _ hpreempted :=
    Bool.or_eq_true_iff.mpr (.inr (Bool.and_eq_true_iff.mp hpreempted).1)

theorem Inv.next_take (h : Inv s) (ha : transferring.enabled s .take) :
    Inv (transferring.next s .take) where
  taking hdue := by
    rcases hdue with htx | hdone | htoken
    · exact absurd (h.token ha.2.1) htx
    · exact absurd ha.2.1 (by rw [(h.done hdone).2]; decide)
    · cases htoken
  done hdone := ⟨(h.done hdone).1, rfl⟩
  token htoken := by cases htoken
  selected _ := h.selected (by rw [ha.1]; decide)
  preempted hserving := absurd (ha.2.2.symm.trans hserving) (by decide)

theorem Inv.next_deselect (h : Inv s) (ha : transferring.enabled s .deselect) :
    Inv (transferring.next s .deselect) where
  taking hdue := absurd (ha.1.symm.trans (h.taking hdue)) (by decide)
  done := h.done
  token := h.token
  selected hplace := absurd rfl hplace
  preempted := h.preempted

/-- **The step lemma.** -/
theorem Inv.next (h : Inv s) {a : Step} (ha : transferring.enabled s a) :
    Inv (transferring.next s a) := by
  cases a with
  | begin => exact ⟨h.taking, h.done, h.token, h.selected, h.preempted⟩
  | handshake a => exact h.next_handshake ha
  | putArray bytes => exact h.next_putArray ha
  | shift => exact h.next_shift ha
  | entry woken => exact h.next_entry woken
  | exit => exact ⟨h.taking, h.done, h.token, h.selected, fun hserving => by cases hserving⟩
  | take => exact h.next_take ha
  | deselect => exact h.next_deselect ha

theorem Inv.exec (h : Inv s) {as : List Step} (hrun : transferring.Run s as) :
    Inv (transferring.exec s as) :=
  System.invariant (fun _ _ hs ha => hs.next ha) h hrun

end Inv

/-! ## What the module can tell -/

section Shown
variable {s : State}

/-- A step that hands on no array, and shifts no byte out, is seen as it is taken. -/
theorem shown_of_tx_eq_nil {a : Step} (htx : s.tx = []) (htx' : (transferring.next s a).tx = [])
    (hshows : s.shows a = (s.emits a).flatMap Event.signals) :
    s.unseen ++ (s.emits a).flatMap Event.signals =
      s.shows a ++ (transferring.next s a).unseen := by
  rw [State.unseen, State.unseen, htx, htx', hshows, List.map_nil, List.nil_append, List.append_nil]

/-- One step: what is handed on, and what is shifted out. -/
theorem Inv.shown (h : Inv s) {a : Step} (ha : transferring.enabled s a) :
    s.unseen ++ (s.emits a).flatMap Event.signals =
      s.shows a ++ (transferring.next s a).unseen := by
  cases a with
  | begin =>
      have htx := h.tx_of_not_selected (by rw [ha.1]; decide)
      exact shown_of_tx_eq_nil htx htx rfl
  | handshake a =>
      rcases ha.2 with hexternal | ⟨hne, -⟩
      · cases a with
        | rise | fall | interrupt => exact List.append_nil _
        | task | timeout | close => exact hexternal.elim
      · have htx := h.tx_of_not_selected hne
        exact shown_of_tx_eq_nil htx htx rfl
  | putArray bytes =>
      have htx := h.tx_eq_nil (by rw [ha.2.1]; decide)
      change s.tx.map _ ++ (bytes.map _ ++ []) = (s.tx ++ bytes).map _
      rw [List.append_nil, List.map_append]
  | shift =>
      obtain ⟨c, cs, htx⟩ := List.exists_cons_of_ne_nil ha
      change s.tx.map _ ++ [] = (s.tx.take 1).map _ ++ s.tx.tail.map _
      rw [htx]
      exact List.append_nil _
  | entry woken => exact List.append_nil _
  | exit => exact List.append_nil _
  | take =>
      have htx := h.token ha.2.1
      exact shown_of_tx_eq_nil htx htx rfl
  | deselect =>
      have htx := h.tx_eq_nil (by rw [ha.1]; decide)
      exact shown_of_tx_eq_nil htx htx rfl

/-- **The module cannot tell** how the steps are interleaved: it sees, in order, what the driver
does to the hardware, but for the bytes still to be shifted out. -/
theorem shown_exec (h : Inv s) {as : List Step} (hrun : transferring.Run s as) :
    s.unseen ++ (transferring.collect State.emits s as).flatMap Event.signals =
      transferring.collect State.shows s as ++ (transferring.exec s as).unseen := by
  rw [System.collect_flatMap]
  exact System.collect_balance (fun _ _ hs ha => hs.next ha) (fun _ _ hs ha => hs.shown ha) h
    hrun

end Shown

/-! ## The end of a transfer -/

section Due
variable {s : State}

/-- Something is under way that will give the semaphore, or has given it. -/
def Due (s : State) : Prop := s.tx ≠ [] ∨ s.done = true ∨ s.token = true

/-- The task waits, and nothing is under way. -/
structure Starved (s : State) : Prop where
  taking : s.place = .taking
  tx : s.tx = []
  done : s.done = false
  token : s.token = false

theorem starved_of_not_due (hplace : s.place = .taking) (h : ¬ Due s) : Starved s := by
  obtain ⟨htx, hrest⟩ := not_or.mp h
  obtain ⟨hdone, htoken⟩ := not_or.mp hrest
  exact ⟨hplace, not_not.mp htx, by simpa using hdone, by simpa using htoken⟩

/-- Nobody gives the semaphore to a task that waits for nothing. -/
theorem Starved.next (h : Starved s) {a : Step} (ha : transferring.enabled s a) :
    Starved (transferring.next s a) := by
  cases a with
  | begin | handshake | exit => exact ⟨h.taking, h.tx, h.done, h.token⟩
  | entry woken =>
      refine ⟨h.taking, h.tx, rfl, ?_⟩
      change (s.token || s.done) = false
      rw [h.token, h.done]
      rfl
  | putArray bytes => exact absurd (h.taking.symm.trans ha.2.1) (by decide)
  | shift => exact absurd h.tx ha
  | take => exact absurd (h.token.symm.trans ha.2.1) (by decide)
  | deselect => exact absurd (h.taking.symm.trans ha.1) (by decide)

/-- The last `n` bytes are shifted out. -/
theorem run_shifts (htx : s.tx ≠ []) :
    let as := List.replicate s.tx.length Step.shift
    transferring.Run s as ∧ transferring.exec s as = { s with tx := [], done := true } ∧
      transferring.collect State.emits s as = [] := by
  obtain ⟨handshake, tx, done, token, preempted, serving, place⟩ := s
  induction tx generalizing done with
  | nil => exact absurd rfl htx
  | cons c cs ih =>
      cases cs with
      | nil =>
          refine ⟨⟨htx, trivial⟩, ?_, rfl⟩
          change State.mk _ [] (done || true) _ _ _ _ = _
          rw [Bool.or_true]
      | cons d ds =>
          obtain ⟨hrun, hexec, hemits⟩ := ih (done || false) (List.cons_ne_nil d ds)
          exact ⟨⟨htx, hrun⟩, hexec, hemits⟩

/-- The task can go on to the end of the transfer. -/
def Ends (s : State) : Prop :=
  ∃ as, transferring.Run s as ∧ (transferring.exec s as).place = .taken

theorem Ends.of_run (as : List Step) (hrun : transferring.Run s as)
    (h : Ends (transferring.exec s as)) : Ends s := by
  obtain ⟨as', hrun', hplace⟩ := h
  exact ⟨as ++ as', (System.run_append _).mpr ⟨hrun, hrun'⟩, by rwa [System.exec_append]⟩

theorem ends_of_token (hplace : s.place = .taking) (htoken : s.token = true) : Ends s := by
  cases hserving : s.serving with
  | true => exact ⟨[.exit, .take], ⟨hserving, ⟨hplace, htoken, rfl⟩, trivial⟩, rfl⟩
  | false => exact ⟨[.take], ⟨⟨hplace, htoken, hserving⟩, trivial⟩, rfl⟩

theorem ends_of_done (hplace : s.place = .taking) (hdone : s.done = true) : Ends s := by
  have hgiven : (s.token || s.done) = true := by rw [hdone, Bool.or_true]
  cases hserving : s.serving with
  | true =>
      refine .of_run [.exit, .entry false] ⟨hserving, rfl, trivial⟩ ?_
      exact ends_of_token hplace hgiven
  | false =>
      refine .of_run [.entry false] ⟨hserving, trivial⟩ ?_
      exact ends_of_token hplace hgiven

theorem ends_of_due (hplace : s.place = .taking) (hdue : Due s) : Ends s := by
  rcases hdue with htx | hdone | htoken
  · obtain ⟨hrun, hexec, -⟩ := run_shifts htx
    refine .of_run _ hrun (ends_of_done ?_ ?_)
    · rw [hexec]
      exact hplace
    · rw [hexec]
  · exact ends_of_done hplace hdone
  · exact ends_of_token hplace htoken

/-- A task that waits for the end of a transfer goes on if and only if something is under way. -/
theorem ends_iff_due (hplace : s.place = .taking) : Ends s ↔ Due s := by
  refine ⟨?_, ends_of_due hplace⟩
  rintro ⟨as, hrun, htaken⟩
  by_contra hdue
  have hstarved : Starved (transferring.exec s as) :=
    System.invariant (fun _ _ hs ha => hs.next ha) (starved_of_not_due hplace hdue) hrun
  exact absurd (htaken.symm.trans hstarved.taking) (by decide)

/-- The array that was transferred last. -/
def lastArray (log : List Event) : Option (List UInt8) := (log.filterMap Event.bytes?).getLast?

/-- While the task waits something is under way, unless the last array was empty. -/
def Fed (s : State) (log : List Event) : Prop :=
  s.place = .taking → (Due s ↔ lastArray log ≠ some [])

theorem lastArray_append {log es : List Event} (h : es.filterMap Event.bytes? = []) :
    lastArray (log ++ es) = lastArray log := by
  rw [lastArray, lastArray, List.filterMap_append, h, List.append_nil]

theorem bytes_emits_handshake (s : State) (a : SlaveReady.Step) :
    (s.emits (.handshake a)).filterMap Event.bytes? = [] := by
  cases a with
  | rise | fall | interrupt | timeout | close => rfl
  | task =>
      change (s.handshake.emits .task).filterMap Event.bytes? = []
      cases hplace : s.handshake.place with
      | idle =>
          cases hinit : s.handshake.initialized <;>
            simp [SlaveReady.State.emits, hplace, hinit]
      | _ => simp [SlaveReady.State.emits, hplace]

/-- What is under way stays so until the task takes the semaphore. -/
theorem due_next {a : Step} (h : Due s) (ha : a ≠ .take) : Due (transferring.next s a) := by
  cases a with
  | begin | handshake | exit | deselect => exact h
  | take => exact absurd rfl ha
  | putArray bytes =>
      rcases h with htx | hrest
      · exact .inl (List.append_ne_nil_of_left_ne_nil htx bytes)
      · exact .inr hrest
  | shift =>
      by_cases htail : s.tx.tail = []
      · refine .inr (.inl ?_)
        change (s.done || s.tx.tail.isEmpty) = true
        rw [htail, List.isEmpty_nil, Bool.or_true]
      · exact .inl htail
  | entry woken =>
      rcases h with htx | hdone | htoken
      · exact .inl htx
      · exact .inr (.inr (Bool.or_eq_true_iff.mpr (.inr hdone)))
      · exact .inr (.inr (Bool.or_eq_true_iff.mpr (.inl htoken)))

/-- A step that transfers nothing and leaves the task waiting. -/
theorem Fed.stays {log : List Event} (h : Fed s log) {a : Step}
    (ha : transferring.enabled s a) (hbytes : (s.emits a).filterMap Event.bytes? = [])
    (hplace : (transferring.next s a).place = .taking → s.place = .taking ∧ a ≠ .take) :
    Fed (transferring.next s a) (log ++ s.emits a) := by
  intro htaking
  obtain ⟨hbefore, hne⟩ := hplace htaking
  rw [lastArray_append hbytes, ← h hbefore]
  refine ⟨fun hdue => ?_, fun hdue => due_next hdue hne⟩
  by_contra hnot
  have hstarved := (starved_of_not_due hbefore hnot).next ha
  rcases hdue with htx | hdone | htoken
  · exact htx hstarved.tx
  · exact absurd (hdone.symm.trans hstarved.done) (by decide)
  · exact absurd (htoken.symm.trans hstarved.token) (by decide)

theorem Fed.next {log : List Event} (hinv : Inv s) (h : Fed s log) {a : Step}
    (ha : transferring.enabled s a) : Fed (transferring.next s a) (log ++ s.emits a) := by
  cases a with
  | putArray bytes =>
      intro _
      have hidle : ¬ Due s := fun hdue => absurd (ha.2.1.symm.trans (hinv.taking hdue)) (by decide)
      obtain ⟨htx, hrest⟩ := not_or.mp hidle
      have hlast : lastArray (log ++ s.emits (.putArray bytes)) = some bytes := by
        rw [lastArray, List.filterMap_append]
        exact List.getLast?_concat
      rw [hlast]
      change s.tx ++ bytes ≠ [] ∨ (s.done = true ∨ s.token = true) ↔ _
      rw [or_iff_left hrest, not_not.mp htx, List.nil_append, Ne, Ne, Option.some.injEq]
  | begin => exact h.stays ha rfl fun hplace => ⟨hplace, Step.noConfusion⟩
  | handshake a =>
      exact h.stays ha (bytes_emits_handshake s a) fun hplace => ⟨hplace, Step.noConfusion⟩
  | shift => exact h.stays ha rfl fun hplace => ⟨hplace, Step.noConfusion⟩
  | entry woken => exact h.stays ha rfl fun hplace => ⟨hplace, Step.noConfusion⟩
  | exit => exact h.stays ha rfl fun hplace => ⟨hplace, Step.noConfusion⟩
  | take => exact h.stays ha rfl fun hplace => Place.noConfusion hplace
  | deselect => exact h.stays ha rfl fun hplace => Place.noConfusion hplace

theorem Fed.exec {log : List Event} (hinv : Inv s) (h : Fed s log) {as : List Step}
    (hrun : transferring.Run s as) :
    Fed (transferring.exec s as) (log ++ transferring.collect State.emits s as) := by
  induction as generalizing s log with
  | nil =>
      rw [System.collect_nil, List.append_nil]
      exact h
  | cons a as ih =>
      rw [System.collect_cons, ← List.append_assoc]
      exact ih (hinv.next hrun.1) (h.next hinv hrun.1) hrun.2

end Due

/-! ## The driver as the task -/

/-- The handshake, in which the pin reads `r` and `r'` and every edge is waited for. -/
def handshakeSteps (initialized r r' : Bool) : List SlaveReady.Step :=
  let enter : List SlaveReady.Step := if initialized then [.task] else [.task, .task]
  let awaitReady : List SlaveReady.Step :=
    if r then [.task, .fall, .interrupt, .task, .task] else [.task, .task]
  let awaitSelect : List SlaveReady.Step :=
    if r' then [.rise, .task, .fall, .interrupt, .task] else [.task]
  (if r then [.rise] else []) ++ (enter ++ (awaitReady ++ .task :: awaitSelect))

/-- The slave is selected, and nothing is under way. -/
def selected : State := { resting true with handshake := ⟨false, false, false, true, .selected⟩ }

theorem run_handshakeSteps (initialized r r' : Bool) :
    let as := (handshakeSteps initialized r r').map Step.handshake
    transferring.Run (resting initialized) as ∧
      transferring.exec (resting initialized) as = selected ∧
      transferring.collect State.emits (resting initialized) as =
        SlaveReady.selectEvents initialized r r' := by
  cases initialized <;> cases r <;> cases r' <;> decide

/-- All bytes have been shifted out when the first interrupt comes. -/
def transferSteps (bytes : List UInt8) : List Step :=
  .putArray bytes :: (List.replicate bytes.length .shift ++ [.entry false, .exit, .take, .deselect])

theorem run_transferSteps {bytes : List UInt8} (hne : bytes ≠ []) :
    transferring.Run selected (transferSteps bytes) ∧
      transferring.exec selected (transferSteps bytes) = resting true ∧
      transferring.collect State.emits selected (transferSteps bytes) =
        [.putArray bytes, .xSemaphoreTake .spiTxCompleted, .csOverrideWrite false] := by
  obtain ⟨s, hs⟩ : ∃ s : State, s = { selected with tx := bytes, place := .taking } := ⟨_, rfl⟩
  have htx : s.tx = bytes := by rw [hs]
  have hnext : transferring.next selected (.putArray bytes) = s := by
    rw [hs]
    rfl
  obtain ⟨hrun, hexec, hemits⟩ := run_shifts (s := s) (htx ▸ hne)
  rw [htx] at hrun hexec hemits
  have hstate : transferring.exec s (List.replicate bytes.length .shift) =
      { selected with tx := [], done := true, place := .taking } := by
    rw [hexec, hs]
  refine ⟨⟨⟨rfl, rfl, rfl⟩, ?_⟩, ?_, ?_⟩
  · rw [hnext]
    refine (System.run_append _).mpr ⟨hrun, ?_⟩
    rw [hstate]
    decide
  · rw [transferSteps, System.exec_cons, hnext, System.exec_append, hstate]
    rfl
  · rw [transferSteps, System.collect_cons, hnext, System.collect_append, hemits, hstate]
    rfl

/-- **A transfer is one**, however the task, the interrupts, the pin and the SPI block take their
steps.  The module sees, in order, what the driver does to the hardware, but for the bytes that are
still to be shifted out, of which there are some only while the task waits for `spiTxCompleted`;
nothing is left of a transfer for the next one, and the task can go on unless it has transferred
nothing. -/
theorem transfer_whole (initialized : Bool) (as : List Step)
    (hrun : transferring.Run (resting initialized) as) :
    let s := transferring.exec (resting initialized) as
    let log := transferring.collect State.emits (resting initialized) as
    log.flatMap Event.signals =
        transferring.collect State.shows (resting initialized) as ++ s.tx.map .byte ∧
      (s.place ≠ .taking → s.tx = [] ∧ s.done = false ∧ s.token = false) ∧
      (s.place = .taking → ((∃ as', transferring.Run s as' ∧
        (transferring.exec s as').place = .taken) ↔ lastArray log ≠ some [])) := by
  intro s log
  have hinv := (inv_resting initialized).exec hrun
  refine ⟨shown_exec (inv_resting initialized) hrun, fun hplace => ?_, fun hplace => ?_⟩
  · have hnot := not_or.mp (mt hinv.taking hplace)
    obtain ⟨hdone, htoken⟩ := not_or.mp hnot.2
    exact ⟨not_not.mp hnot.1, by simpa using hdone, by simpa using htoken⟩
  · have hfed : Fed s ([] ++ log) :=
      Fed.exec (inv_resting initialized) (fun h => Place.noConfusion h) hrun
    exact (ends_iff_due hplace).trans (hfed hplace)

/-- An interrupt for another reason comes between the two bytes. -/
theorem transfer_whole_interrupted :
    let as : List Step := [.handshake .task, .handshake .task, .handshake .task, .handshake .task,
      .handshake .task, .putArray [startCmd, endCmd], .shift, .entry false, .exit, .shift]
    (transferring.collect State.emits (resting true) as).flatMap Event.signals =
      transferring.collect State.shows (resting true) as ++
        (transferring.exec (resting true) as).tx.map .byte := by
  intro as
  exact (transfer_whole true as (by decide)).1

end Interrupts
end WiFiNINA
