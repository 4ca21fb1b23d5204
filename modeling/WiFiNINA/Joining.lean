import WiFiNINA.RejectedReplies
import WiFiNINA.WiFiClient.Polls

/-!
# Joining a network

Four driver functions ask the module to join a network or to open an access point, and the
functions of `WiFi.c` wait for it unless they return `WL_FAILURE`.  One of the four compares the
byte of the reply with `WIFI_SPI_ACK`; the others return the byte as it is, so only a reply that
is rejected makes them fail.
-/

namespace WiFiNINA

open LengthCode SpiDrv

/-- The driver functions that ask the module to join a network. -/
inductive Join
  | wifiSetNetwork (ssid : Ptr Obj) (ssidLen : UInt8)
  | wifiSetPassphrase (ssid : Ptr Obj) (ssidLen : UInt8) (passphrase : Ptr Obj) (len : UInt8)
  | wifiSetKey (ssid : Ptr Obj) (ssidLen keyIdx : UInt8) (key : Ptr Obj) (len : UInt8)
  | wifiSetApPassphrase (ssid : Ptr Obj) (ssidLen : UInt8) (passphrase : Ptr Obj)
      (len channel : UInt8)

namespace Join

def run : Join → Prog Bus ℤ
  | wifiSetNetwork ssid ssidLen => WiFiDrv.wifiSetNetwork ssid ssidLen
  | wifiSetPassphrase ssid ssidLen passphrase len =>
      WiFiDrv.wifiSetPassphrase ssid ssidLen passphrase len
  | wifiSetKey ssid ssidLen keyIdx key len => WiFiDrv.wifiSetKey ssid ssidLen keyIdx key len
  | wifiSetApPassphrase ssid ssidLen passphrase len channel =>
      WiFiDrv.wifiSetApPassphrase ssid ssidLen passphrase len channel

def cmd : Join → UInt8
  | wifiSetNetwork .. => setNetCmd
  | wifiSetPassphrase .. => setPassphraseCmd
  | wifiSetKey .. => setKeyCmd
  | wifiSetApPassphrase .. => setApPassphraseCmd

def maxSize : Join → UInt16
  | wifiSetNetwork .. | wifiSetPassphrase .. | wifiSetKey .. => 16
  | wifiSetApPassphrase .. => 20

/-- The capacity that is declared for the byte of the reply. -/
def capacity : Join → UInt8
  | wifiSetNetwork .. | wifiSetPassphrase .. | wifiSetKey .. => 1
  | wifiSetApPassphrase .. => 4

/-- The function that compares the byte of the reply with `WIFI_SPI_ACK`. -/
def Compares : Join → Prop
  | wifiSetNetwork .. => True
  | wifiSetPassphrase .. | wifiSetKey .. | wifiSetApPassphrase .. => False

instance : DecidablePred Compares
  | wifiSetNetwork .. => isTrue trivial
  | wifiSetPassphrase .. | wifiSetKey .. | wifiSetApPassphrase .. => isFalse not_false

variable (j : Join) (b : Bus)

/-- The decoder rejects the reply. -/
def Rejected : Prop := Unaccepted j.cmd j.maxSize j.capacity b

/-- The byte that the reply brings, if it brings any. -/
def byte : UInt8 := (firstParam j.capacity (reply j.maxSize b)).headD 0

/-- The reply is accepted and its byte is `WIFI_SPI_ACK`. -/
def Acknowledged : Prop := ¬ j.Rejected b ∧ j.byte b = wifiSpiAck

instance : Decidable (j.Rejected b) := inferInstanceAs (Decidable (Unaccepted _ _ _ _))

instance : Decidable (j.Acknowledged b) := inferInstanceAs (Decidable (_ ∧ _))

end Join

/-- The first byte of a variable in which a parameter was stored. -/
theorem take_one_filled {cmd cap : UInt8} {s : List UInt8} (old : List UInt8)
    (h : Brings cmd s) : (filled cmd cap s old).take 1 = [(firstParam cap s).headD 0] := by
  rw [filled_of_brings _ h]
  cases firstParam cap s <;> rfl

theorem brings_of_not_unaccepted {cmd cap : UInt8} {maxSize : UInt16} {b : Bus}
    (h : ¬ Unaccepted cmd maxSize cap b) : Brings cmd (reply maxSize b) := by
  by_contra hbrings
  exact h (unaccepted_of_not_brings cap hbrings)

section Byte
variable {cmd numParam capacity : UInt8} {inParams : List TParam} {maxSize : UInt16} {b : Bus}

/-- What an accepted reply leaves in the first byte of its destination. -/
theorem loadList_exchange_first (hn : inParams.length = numParam.toNat) (hpos : 0 < capacity.toNat)
    (dest : Ptr Obj) (m : Memory Obj UInt8) (h : ¬ Unaccepted cmd maxSize capacity b) :
    ((exchange cmd numParam inParams maxSize [(⟨capacity, dest⟩ : TParam)] 1).state
      { b with mem := m }).mem.loadList dest 1 =
        [(firstParam capacity (reply maxSize b)).headD 0] := by
  rw [← Memory.take_loadList _ _ (le_max_right capacity.toNat 1),
    loadList_exchange_single _ _ _ _ _ _ _ hn hpos (le_max_left capacity.toNat 1), reply_mem,
    take_one_filled _ (brings_of_not_unaccepted h)]

/-- The functions that return the byte of an accepted reply, with a window and a capacity of
their own. -/
theorem val_requestData (hn : inParams.length = numParam.toNat) (hpos : 0 < capacity.toNat) :
    (WiFiDrv.requestData cmd numParam inParams maxSize capacity).val b =
      if Unaccepted cmd maxSize capacity b then wlFailure
      else ((firstParam capacity (reply maxSize b)).headD 0).toNat := by
  simp only [WiFiDrv.requestData, Prog.val_bind, Prog.val_pure, Bus.val_auto, Bus.state_auto,
    Bus.val_loadList, List.length_singleton]
  rw [ret_exchange _ _ _ _ _ _ _ hn le_rfl, answered_mem]
  change (if Unaccepted cmd maxSize capacity b then _ else _) = _
  by_cases h : Unaccepted cmd maxSize capacity b
  · rw [if_pos h, if_pos h]
  · rw [if_neg h, if_neg h, loadList_exchange_first hn hpos _ _ h]
    simp [ofLe]

end Byte

/-- The functions that return the byte of an accepted reply are those of the server driver, with
the window and the capacity that these have in common. -/
theorem requestByte_eq (cmd numParam : UInt8) (inParams : List TParam) :
    ServerDrv.requestByte cmd numParam inParams =
      WiFiDrv.requestData cmd numParam inParams 16 1 := rfl

namespace Join

/-- **What the driver functions return**: `WL_FAILURE` for a rejected reply; for another one the
byte, which one of them compares with `WIFI_SPI_ACK`. -/
theorem val_run (j : Join) (b : Bus) :
    j.run.val b =
      if j.Rejected b then wlFailure
      else if j.Compares then if j.byte b = wifiSpiAck then wlSuccess else wlFailure
      else (j.byte b).toNat := by
  cases j with
  | wifiSetNetwork ssid ssidLen =>
      simp only [run, WiFiDrv.wifiSetNetwork, Prog.val_bind, Prog.val_pure, Bus.val_auto,
        Bus.state_auto, List.length_singleton]
      rw [ret_exchange _ _ _ _ _ _ _ rfl le_rfl, answered_mem]
      change (if Unaccepted setNetCmd 16 (1 : UInt8) b then _ else _) =
        if Unaccepted setNetCmd 16 (1 : UInt8) b then _ else _
      by_cases h : Unaccepted setNetCmd 16 (1 : UInt8) b
      · rw [if_pos h, if_pos h]
      · have hn : [(⟨ssidLen, ssid⟩ : TParam)].length = UInt8.toNat 1 := rfl
        have hbytes := loadList_exchange_first hn (by decide) ⟨.auto .data 1, 0⟩
          (b.mem.storeList ⟨.auto .data 1, 0⟩ [0]) h
        rw [if_neg h, if_neg h, if_pos (show Compares (wifiSetNetwork ssid ssidLen) from trivial)]
        refine if_congr ?_ rfl rfl
        rw [Bus.val_loadList, hbytes, List.cons.injEq, and_iff_left rfl]
        exact Iff.rfl
  | wifiSetPassphrase ssid ssidLen passphrase len =>
      rw [run, WiFiDrv.wifiSetPassphrase, requestByte_eq, val_requestData rfl (by decide)]
      rfl
  | wifiSetKey ssid ssidLen keyIdx key len =>
      simp only [run, WiFiDrv.wifiSetKey, Prog.val_bind, Bus.val_auto, Bus.state_auto]
      rw [requestByte_eq, val_requestData rfl (by decide)]
      rfl
  | wifiSetApPassphrase ssid ssidLen passphrase len channel =>
      simp only [run, WiFiDrv.wifiSetApPassphrase, Prog.val_bind, Bus.val_auto, Bus.state_auto]
      rw [val_requestData rfl (by decide)]
      rfl

variable {j : Join} {b : Bus}

theorem val_of_rejected (h : j.Rejected b) : j.run.val b = wlFailure := by
  rw [val_run, if_pos h]

theorem val_of_acknowledged (h : j.Acknowledged b) : j.run.val b = wlSuccess := by
  rw [val_run, if_neg h.1]
  split
  · rw [if_pos h.2]
  · rw [h.2]
    rfl

theorem val_of_compares (hj : j.Compares) (h : ¬ j.Acknowledged b) :
    j.run.val b = wlFailure := by
  rw [val_run, if_pos hj]
  split
  · rfl
  · next haccepted => rw [if_neg fun hack => h ⟨haccepted, hack⟩]

/-- The byte of an accepted reply is returned as it is. -/
theorem val_of_accepted (hj : ¬ j.Compares) (h : ¬ j.Rejected b) :
    j.run.val b = (j.byte b).toNat := by
  rw [val_run, if_neg h, if_neg hj]

/-- The reply is one after which the function returns what it should: a function that compares
the byte needs no more, and the others a reply that is rejected or acknowledges. -/
def Clear (j : Join) (b : Bus) : Prop := j.Compares ∨ j.Rejected b ∨ j.Acknowledged b

instance (j : Join) (b : Bus) : Decidable (j.Clear b) := inferInstanceAs (Decidable (_ ∨ _ ∨ _))

/-- The result is one of the two documented ones, and is `WL_SUCCESS` only after an
acknowledgement. -/
structure Sound (j : Join) (b : Bus) : Prop where
  documented : j.run.val b = wlSuccess ∨ j.run.val b = wlFailure
  success : j.run.val b = wlSuccess → j.Acknowledged b

theorem wlFailure_ne_wlSuccess : wlFailure ≠ wlSuccess := by decide

/-- Without an acknowledgement, a clear reply makes the function fail. -/
theorem val_of_clear (hclear : j.Clear b) (h : ¬ j.Acknowledged b) : j.run.val b = wlFailure := by
  rcases hclear with hj | hrejected | hack
  · exact val_of_compares hj h
  · exact val_of_rejected hrejected
  · exact absurd hack h

/-- After another reply the byte that is returned is not `WL_FAILURE`. -/
theorem val_of_not_clear (h : ¬ j.Clear b) :
    j.run.val b ≠ wlFailure ∧ j.run.val b ≠ wlSuccess := by
  obtain ⟨hj, hrejected, hack⟩ : ¬ j.Compares ∧ ¬ j.Rejected b ∧ ¬ j.Acknowledged b := by
    simpa [Clear] using h
  have hbyte : j.byte b ≠ wifiSpiAck := fun hbyte => hack ⟨hrejected, hbyte⟩
  rw [val_of_accepted hj hrejected]
  constructor
  · rw [wlFailure]
    omega
  · intro hone
    exact hbyte (UInt8.toNat_inj.mp (Int.ofNat.inj hone))

theorem sound_iff (j : Join) (b : Bus) : j.Sound b ↔ j.Clear b := by
  constructor
  · intro h
    by_contra hclear
    obtain ⟨hfailure, hsuccess⟩ := val_of_not_clear hclear
    exact h.documented.elim hsuccess hfailure
  · intro hclear
    by_cases hack : j.Acknowledged b
    · exact ⟨.inl (val_of_acknowledged hack), fun _ => hack⟩
    · have hval := val_of_clear hclear hack
      exact ⟨.inr hval, fun hsuccess => absurd (hval.symm.trans hsuccess) wlFailure_ne_wlSuccess⟩

end Join

/-! ## The functions that wait -/

/-- The functions of `WiFi.c` that send a request and wait for what becomes of it. -/
inductive Begin
  | beginOpen (ssid : Ptr Obj)
  | beginPassphrase (ssid passphrase : Ptr Obj)
  | beginWEP (ssid : Ptr Obj) (keyIdx : UInt8) (key : Ptr Obj)
  | beginAP (ssid passphrase : Ptr Obj) (channel : UInt8)

namespace Begin

def run : Begin → Prog Bus ℤ
  | beginOpen ssid => WiFi.beginOpen ssid
  | beginPassphrase ssid passphrase => WiFi.beginPassphrase ssid passphrase
  | beginWEP ssid keyIdx key => WiFi.beginWEP ssid keyIdx key
  | beginAP ssid passphrase channel => WiFi.beginAPSsidPassphraseChannel ssid passphrase channel

/-- The status returned if the request fails. -/
def failure : Begin → ℤ
  | beginOpen .. | beginPassphrase .. | beginWEP .. => wlConnectFailed
  | beginAP .. => wlApFailed

/-- The request, with the lengths of the strings. -/
def request (b : Bus) : Begin → Join
  | beginOpen ssid => .wifiSetNetwork ssid (UInt8.ofNat ((Bus.strlen ssid).val b))
  | beginPassphrase ssid passphrase =>
      .wifiSetPassphrase ssid (UInt8.ofNat ((Bus.strlen ssid).val b)) passphrase
        (UInt8.ofNat ((Bus.strlen passphrase).val b))
  | beginWEP ssid keyIdx key =>
      .wifiSetKey ssid (UInt8.ofNat ((Bus.strlen ssid).val b)) keyIdx key
        (UInt8.ofNat ((Bus.strlen key).val b))
  | beginAP ssid passphrase channel =>
      .wifiSetApPassphrase ssid (UInt8.ofNat ((Bus.strlen ssid).val b)) passphrase
        (UInt8.ofNat ((Bus.strlen passphrase).val b)) channel

/-- The loop that polls the connection status. -/
def wait : Begin → Prog Bus ℤ
  | beginOpen .. | beginPassphrase .. | beginWEP .. => WiFi.beginCommon
  | beginAP .. => WiFi.beginAPCommon

/-- The request comes first, and the loop is entered unless it fails. -/
theorem run_eq (c : Begin) (b : Bus) :
    c.run.run b =
      if (c.request b).run.val b = wlFailure then (c.failure, (c.request b).run.state b)
      else c.wait.run ((c.request b).run.state b) := by
  have hbranch : ∀ (p : Prog Bus ℤ) (result failure : ℤ) (s : Bus),
      (if result = wlFailure then pure failure else p : Prog Bus ℤ).run s =
        if result = wlFailure then (failure, s) else p.run s := by
    intro p result failure s
    split <;> rfl
  cases c with
  | beginOpen ssid =>
      rw [run, WiFi.beginOpen, Prog.run_bind, Prog.run_bind, Bus.state_strlen, hbranch, request,
        Join.run, failure, wait]
  | beginPassphrase ssid passphrase =>
      rw [run, WiFi.beginPassphrase, Prog.run_bind, Prog.run_bind, Prog.run_bind,
        Bus.state_strlen, Bus.state_strlen, hbranch, request, Join.run, failure, wait]
  | beginWEP ssid keyIdx key =>
      rw [run, WiFi.beginWEP, Prog.run_bind, Prog.run_bind, Prog.run_bind, Bus.state_strlen,
        Bus.state_strlen, hbranch, request, Join.run, failure, wait]
  | beginAP ssid passphrase channel =>
      rw [run, WiFi.beginAPSsidPassphraseChannel, Prog.run_bind, Prog.run_bind, Prog.run_bind,
        Bus.state_strlen, Bus.state_strlen, hbranch, request, Join.run, failure, wait]

end Begin

namespace WiFi

/-- A poll is an exchange. -/
theorem length_transmitted_getConnectionStatus (b : Bus) :
    (WiFiDrv.getConnectionStatus.state b).transmitted.length = b.transmitted.length + 2 := by
  unfold WiFiDrv.getConnectionStatus
  simp only [Prog.state_bind, Prog.state_pure, Bus.state_loadList, Bus.state_auto]
  rw [transmitted_exchange _ _ _ _ _ _ _ rfl le_rfl, List.length_append]
  rfl

/-- Polling transmits something. -/
theorem transmitted_lt_pollWhile (again : UInt8 → Bool) (attempts : ℕ) (b : Bus) :
    b.transmitted.length <
      ((pollWhile again WiFiDrv.getConnectionStatus attempts).state b).transmitted.length := by
  have hpoll := length_transmitted_getConnectionStatus
  induction attempts generalizing b with
  | zero =>
      rw [pollWhile, Prog.state_bind, Prog.state_pure, hpoll]
      omega
  | succ attempts ih =>
      rw [pollWhile, Prog.state_bind, Prog.state_ite, Prog.state_pure]
      split
      · have hrest := ih (WiFiDrv.getConnectionStatus.state b)
        rw [hpoll] at hrest
        omega
      · rw [hpoll]
        omega

end WiFi

namespace Begin

variable {c : Begin} {b : Bus}

theorem transmitted_lt_wait (c : Begin) (b : Bus) :
    b.transmitted.length < (c.wait.state b).transmitted.length := by
  have hcommon : b.transmitted.length < (WiFi.beginCommon.state b).transmitted.length := by
    rw [WiFi.beginCommon_eq]
    exact WiFi.transmitted_lt_pollWhile WiFi.pending _ b
  cases c with
  | beginOpen ssid => exact hcommon
  | beginPassphrase ssid passphrase => exact hcommon
  | beginWEP ssid keyIdx key => exact hcommon
  | beginAP ssid passphrase channel => exact WiFi.transmitted_lt_pollWhile WiFi.pendingAP _ b

/-- Without an acknowledgement the failure is reported, and nothing is done behind the request. -/
structure Sound (c : Begin) (b : Bus) : Prop where
  failed : ¬ (c.request b).Acknowledged b → c.run.val b = c.failure
  stopped : ¬ (c.request b).Acknowledged b → c.run.state b = (c.request b).run.state b

theorem sound_iff (c : Begin) (b : Bus) : c.Sound b ↔ (c.request b).Clear b := by
  have hrun := c.run_eq b
  constructor
  · intro h
    by_contra hclear
    have hack : ¬ (c.request b).Acknowledged b := fun hack => hclear (.inr (.inr hack))
    -- the loop has been entered, and has polled
    rw [if_neg (Join.val_of_not_clear hclear).1] at hrun
    have hstate : c.wait.state ((c.request b).run.state b) = (c.request b).run.state b :=
      (congrArg Prod.snd hrun).symm.trans (h.stopped hack)
    have hlt := c.transmitted_lt_wait ((c.request b).run.state b)
    rw [hstate] at hlt
    exact lt_irrefl _ hlt
  · intro hclear
    have hboth : ¬ (c.request b).Acknowledged b →
        c.run.run b = (c.failure, (c.request b).run.state b) := by
      intro hack
      rw [hrun, if_pos (Join.val_of_clear hclear hack)]
    exact ⟨fun hack => congrArg Prod.fst (hboth hack), fun hack => by rw [Prog.state, hboth hack]⟩

end Begin

/-- **Joining proceeds only after an acknowledged request** if the function compares the byte of
the reply, or the reply is rejected, or it acknowledges; and not otherwise. -/
theorem joining_acknowledged_iff (b : Bus) :
    (∀ j : Join, j.Sound b ↔ j.Compares ∨ j.Rejected b ∨ j.Acknowledged b) ∧
      ∀ c : Begin, c.Sound b ↔ (c.request b).Compares ∨ (c.request b).Rejected b ∨
        (c.request b).Acknowledged b :=
  ⟨fun j => j.sound_iff b, fun c => c.sound_iff b⟩

/-- What the module shifts out if it refuses to open an access point. -/
def refusal : List UInt8 := [startCmd, setApPassphraseCmd ||| replyFlag, 1, 1, 0, endCmd]

/-- The refusal is accepted, and its byte is zero. -/
theorem not_clear_refusal (ssid passphrase : Ptr Obj) (ssidLen len channel : UInt8) :
    ¬ (Join.wifiSetApPassphrase ssid ssidLen passphrase len channel).Clear
      (Bus.fresh fun _ => refusal) := by
  have haccepted : ¬ Unaccepted setApPassphraseCmd 20 (4 : UInt8) (Bus.fresh fun _ => refusal) := by
    decide
  have hbyte : (firstParam (4 : UInt8) (reply 20 (Bus.fresh fun _ => refusal))).headD 0 ≠
      wifiSpiAck := by
    decide
  rintro (hcompares | hrejected | hack)
  · exact hcompares
  · exact haccepted hrejected
  · exact hbyte hack.2

/-- After a refusal the status is polled all the same, and an empty acknowledgement of a
passphrase is neither a success nor a failure. -/
theorem not_sound_refusal :
    ¬ (Begin.beginAP ⟨.user 0, 0⟩ ⟨.user 1, 0⟩ 1).Sound (Bus.fresh fun _ => refusal) ∧
      ¬ (Join.wifiSetPassphrase ⟨.user 0, 0⟩ 1 ⟨.user 1, 0⟩ 1).Sound
        (Bus.fresh fun _ => [startCmd, setPassphraseCmd ||| replyFlag, 1, 0, endCmd]) := by
  rw [Begin.sound_iff, Join.sound_iff]
  exact ⟨not_clear_refusal _ _ _ _ _, by decide⟩

end WiFiNINA
