import WiFiNINA.Api
import WiFiNINA.Joining
import WiFiNINA.ScanNetworks
import WiFiNINA.ServerDrv.DataSent
import WiFiNINA.WiFiClient.Connected

/-!
# What waiting comes to

`WiFi.c` waits for a network, for an access point and for the end of a scan, by asking until it
likes the answer.  The status of the connection is fetched into a variable of one byte, so it
reads as `WL_IDLE_STATUS` if it arrives at all, which is what the loops wait on, and as
`WL_NO_SHIELD` otherwise.  The number of networks arrives as the module sends it.
-/

namespace WiFiNINA

open LengthCode SpiDrv ServerDrv

/-- Exchange number `k` from `b` on brings a connection status. -/
def Answered (b : Bus) (k : ℕ) : Prop := Brings getConnStatusCmd (replyAt 16 b k)

instance (b : Bus) (k : ℕ) : Decidable (Answered b k) := inferInstanceAs (Decidable (Brings _ _))

theorem answered_of_slave {b b' : Bus} {n : ℕ} (h : b'.slave = fun k => b.slave (k + 2 * n))
    (k : ℕ) : Answered b' k ↔ Answered b (k + n) := by
  rw [Answered, Answered, replyAt_of_slave h]

/-- Nothing is left of a parameter for a variable of one byte. -/
theorem firstParam_one (s : List UInt8) : firstParam (1 : UInt8) s = [] := by
  rw [firstParam, clip_one, toNat_uint8, UInt8.toNat_zero, padTake_zero]

/-- A variable of one byte holds a zero once something has been stored in it. -/
theorem filled_byte {cmd c : UInt8} {s : List UInt8} :
    filled cmd (1 : UInt8) s [c] = if Brings cmd s then [0] else [c] := by
  split
  · next h =>
      rw [filled_of_brings _ h, firstParam_one, clip_one]
      rfl
  · next h => exact filled_of_not_brings _ h

namespace WiFiDrv

/-- What the variable of the status holds in the end. -/
theorem val_getConnectionStatus (b : Bus) :
    getConnectionStatus.val b = if Answered b 0 then 0 else -1 := by
  obtain ⟨m, hm⟩ : ∃ m, m = b.mem.storeList ⟨.auto .data 1, 0⟩ [0xFF] := ⟨_, rfl⟩
  have hold : m.loadList ⟨.auto .data 1, 0⟩ 1 = [0xFF] := by
    rw [hm]
    exact Memory.loadList_storeList _ _ [0xFF]
  have hbytes : ((exchange getConnStatusCmd 0 ([] : List TParam) 16
      [(⟨1, ⟨.auto .data 1, 0⟩⟩ : TParam)] 1).state { b with mem := m }).mem.loadList
        ⟨.auto .data 1, 0⟩ 1 = if Answered b 0 then [0] else [0xFF] := by
    have hcap : toNat (1 : UInt8) ≤ 1 := le_rfl
    rw [loadList_exchange_single _ _ _ _ _ _ _ rfl (by decide) hcap, reply_mem, hold]
    exact filled_byte
  unfold getConnectionStatus
  simp only [Prog.val_bind, Prog.val_pure, Bus.val_auto, Bus.state_auto, Bus.val_loadList,
    List.length_singleton]
  rw [← hm, hbytes]
  split
  · decide
  · decide

theorem slave_getConnectionStatus (b : Bus) :
    (getConnectionStatus.state b).slave = fun k => b.slave (k + 2 * 1) := by
  unfold getConnectionStatus
  simp only [Prog.state_bind, Prog.state_pure, Bus.state_loadList]
  rw [slave_exchange_of_le le_rfl le_rfl]
  rfl

end WiFiDrv

/-- A query that is one exchange, run again and again. -/
theorem slave_iterate {α : Type} {query : Prog Bus α}
    (h : ∀ b, (query.state b).slave = fun k => b.slave (k + 2 * 1)) (b : Bus) (n : ℕ) :
    (query.state^[n] b).slave = fun k => b.slave (k + 2 * n) := by
  induction n with
  | zero => rfl
  | succ n ih =>
      rw [Function.iterate_succ_apply', h, ih]
      funext k
      exact congrArg b.slave (by omega)

theorem answers_getConnectionStatus (b : Bus) (n : ℕ) :
    WiFiDrv.getConnectionStatus.answers b n = if Answered b n then 0 else -1 := by
  have hslave := slave_iterate WiFiDrv.slave_getConnectionStatus b n
  have hsame : Answered (WiFiDrv.getConnectionStatus.state^[n] b) 0 ↔ Answered b n := by
    rw [answered_of_slave hslave, Nat.zero_add]
  rw [Prog.answers, WiFiDrv.val_getConnectionStatus, if_congr hsame rfl rfl]

/-- The loops that wait while the status is `WL_IDLE_STATUS`, and not for lack of a module. -/
structure WaitsIdle (again : UInt8 → Bool) : Prop where
  idle : again wlIdleStatus = true
  absent : again wlNoShield = false

theorem waitsIdle_pending : WaitsIdle WiFi.pending := ⟨rfl, rfl⟩

theorem waitsIdle_pendingAP : WaitsIdle WiFi.pendingAP := ⟨rfl, rfl⟩

/-- What the waiting returns if the exchanges from number `k` on are its polls. -/
def waited (b : Bus) (k : ℕ) : ℤ :=
  if ∀ i < wlMaxAttemptConnection, Answered b (i + k) then wlIdleStatus.toNat
  else wlNoShield.toNat

/-- **The waiting** ends with the first poll that is not answered, or gives up. -/
theorem val_pollWhile_status {again : UInt8 → Bool} (hagain : WaitsIdle again) (b : Bus) :
    (WiFi.pollWhile again WiFiDrv.getConnectionStatus (wlMaxAttemptConnection - 1)).val b =
      waited b 0 := by
  obtain ⟨n, hn⟩ := exists_settled again WiFiDrv.getConnectionStatus b
  have hpending : ∀ i, again (toByte (WiFiDrv.getConnectionStatus.answers b i)) = true ↔
      Answered b i := by
    intro i
    rw [answers_getConnectionStatus]
    by_cases h : Answered b i
    · rw [if_pos h, iff_true_right h]
      exact hagain.idle
    · rw [if_neg h, iff_false_right h, Bool.not_eq_true]
      exact hagain.absent
  have hbefore : ∀ i < n, Answered b i := by
    intro i hi
    by_contra h
    exact hn.settles.before i hi (mt (hpending i).mp h)
  rw [hn.returned, answers_getConnectionStatus, waited]
  simp only [Nat.add_zero]
  by_cases h : Answered b n
  · -- then it is the last one
    have hlast : ¬ n < wlMaxAttemptConnection - 1 :=
      fun hlt => hn.settles.last hlt ((hpending n).mpr h)
    have hall : ∀ i < wlMaxAttemptConnection, Answered b i := by
      intro i hi
      have hle : i ≤ n := by omega
      rcases Nat.lt_or_eq_of_le hle with hlt | rfl
      · exact hbefore i hlt
      · exact h
    rw [if_pos h, if_pos hall]
    rfl
  · have hle : n < wlMaxAttemptConnection := Nat.lt_succ_of_le hn.settles.le
    rw [if_neg h, if_neg fun hall => h (hall n hle)]
    rfl

theorem waited_of_slave {b b' : Bus} {n : ℕ} (h : b'.slave = fun k => b.slave (k + 2 * n))
    (k : ℕ) : waited b' k = waited b (k + n) := by
  have hsame : ∀ i, Answered b' (i + k) ↔ Answered b (i + (k + n)) := by
    intro i
    rw [answered_of_slave h, Nat.add_assoc]
  rw [waited, waited, if_congr (forall₂_congr fun i _ => hsame i) rfl rfl]

theorem waited_cases (b : Bus) (k : ℕ) :
    waited b k = wlIdleStatus.toNat ∨ waited b k = wlNoShield.toNat := by
  rw [waited]
  split
  · exact .inl rfl
  · exact .inr rfl

/-! ## Joining -/

section Requests
variable {cmd numParam capacity : UInt8} {inParams : List TParam} {maxSize : UInt16}

theorem slave_requestData (hn : numParam.toNat ≤ inParams.length) (b : Bus) :
    ((WiFiDrv.requestData cmd numParam inParams maxSize capacity).state b).slave =
      fun k => b.slave (k + 2 * 1) := by
  simp only [WiFiDrv.requestData, Prog.state_bind, Prog.state_pure, Bus.state_loadList]
  rw [slave_exchange_of_le hn le_rfl]
  rfl

end Requests

theorem Join.slave_run (j : Join) (b : Bus) :
    (j.run.state b).slave = fun k => b.slave (k + 2 * 1) := by
  cases j with
  | wifiSetNetwork ssid ssidLen =>
      simp only [run, WiFiDrv.wifiSetNetwork, Prog.state_bind, Prog.state_pure, Bus.state_loadList]
      rw [slave_exchange_of_le le_rfl le_rfl]
      rfl
  | wifiSetPassphrase ssid ssidLen passphrase len => exact slave_requestByte le_rfl b
  | wifiSetKey ssid ssidLen keyIdx key len =>
      simp only [run, WiFiDrv.wifiSetKey, Prog.state_bind]
      exact slave_requestByte le_rfl _
  | wifiSetApPassphrase ssid ssidLen passphrase len channel =>
      simp only [run, WiFiDrv.wifiSetApPassphrase, Prog.state_bind]
      exact slave_requestData le_rfl _

/-- The byte that is compared with the acknowledgement is always zero. -/
theorem Join.byte_of_compares {j : Join} (h : j.Compares) (b : Bus) : j.byte b = 0 := by
  cases j with
  | wifiSetNetwork ssid ssidLen => exact congrArg (List.headD · 0) (firstParam_one (reply 16 b))
  | wifiSetPassphrase | wifiSetKey | wifiSetApPassphrase => exact absurd h id

namespace Begin

variable {c : Begin} {b : Bus}

/-- The request counts as a failure: its reply is rejected, or compared with an acknowledgement
that it cannot be. -/
def Declined (c : Begin) (b : Bus) : Prop := (c.request b).Compares ∨ (c.request b).Rejected b

instance (c : Begin) (b : Bus) : Decidable (c.Declined b) :=
  inferInstanceAs (Decidable (_ ∨ _))

theorem declined_iff : c.Declined b ↔ (c.request b).run.val b = wlFailure := by
  constructor
  · rintro (hcompares | hrejected)
    · refine Join.val_of_compares hcompares fun hack => ?_
      exact absurd ((Join.byte_of_compares hcompares b).symm.trans hack.2) (by decide)
    · exact Join.val_of_rejected hrejected
  · intro hval
    by_contra h
    obtain ⟨hcompares, hrejected⟩ := not_or.mp h
    rw [Join.val_of_accepted hcompares hrejected, wlFailure] at hval
    omega

theorem val_wait (c : Begin) (b : Bus) : c.wait.val b = waited b 0 := by
  cases c with
  | beginOpen | beginPassphrase | beginWEP =>
      rw [wait, WiFi.beginCommon_eq]
      exact val_pollWhile_status waitsIdle_pending b
  | beginAP => exact val_pollWhile_status waitsIdle_pendingAP b

/-- What the functions return that send a passphrase, a key, or nothing but a name. -/
theorem val_run (c : Begin) (b : Bus) :
    c.run.val b = if c.Declined b then c.failure else waited b 1 := by
  rw [Prog.val, run_eq, if_congr declined_iff rfl rfl]
  split
  · rfl
  · exact (c.val_wait _).trans (waited_of_slave ((c.request b).slave_run b) 0)

end Begin

/-- The request for an access point without a passphrase is acknowledged. -/
def ApAcknowledged (b : Bus) : Prop :=
  ¬ Unaccepted setApNetCmd 20 (4 : UInt8) b ∧
    (firstParam (4 : UInt8) (reply 20 b)).headD 0 = wifiSpiAck

instance (b : Bus) : Decidable (ApAcknowledged b) := inferInstanceAs (Decidable (_ ∧ _))

namespace WiFiDrv

theorem val_wifiSetApNetwork (ssid : Ptr Obj) (ssidLen channel : UInt8) (b : Bus) :
    (wifiSetApNetwork ssid ssidLen channel).val b =
      if ApAcknowledged b then wlSuccess else wlFailure := by
  obtain ⟨m, hm⟩ : ∃ m, m = (b.mem.storeList ⟨.auto .data 1, 0⟩ [0]).storeList
      ⟨.auto .channel 1, 0⟩ [channel] := ⟨_, rfl⟩
  simp only [wifiSetApNetwork, Prog.val_bind, Prog.val_pure, Bus.val_auto, Bus.state_auto,
    List.length_singleton]
  rw [ret_exchange _ _ _ _ _ _ _ rfl le_rfl, answered_mem, answered_mem, ← hm]
  change (if Unaccepted setApNetCmd 20 (4 : UInt8) b then _ else _) = _
  by_cases h : Unaccepted setApNetCmd 20 (4 : UInt8) b
  · rw [if_pos h, if_neg fun hack => hack.1 h]
  · have hn : [(⟨ssidLen, ssid⟩ : TParam), ⟨1, ⟨.auto .channel 1, 0⟩⟩].length = (2 : UInt8).toNat :=
      rfl
    have hbytes := loadList_exchange_first hn (by decide) ⟨.auto .data 1, 0⟩ m h
    rw [if_neg h]
    refine if_congr ?_ rfl rfl
    rw [Bus.val_loadList, hbytes, List.cons.injEq, and_iff_left rfl, ApAcknowledged,
      and_iff_right h]

theorem slave_wifiSetApNetwork (ssid : Ptr Obj) (ssidLen channel : UInt8) (b : Bus) :
    ((wifiSetApNetwork ssid ssidLen channel).state b).slave = fun k => b.slave (k + 2 * 1) := by
  simp only [wifiSetApNetwork, Prog.state_bind, Prog.state_pure, Bus.state_loadList]
  rw [slave_exchange_of_le le_rfl le_rfl]
  rfl

end WiFiDrv

theorem WiFi.val_beginAPSsidChannel (ssid : Ptr Obj) (channel : UInt8) (b : Bus) :
    (beginAPSsidChannel ssid channel).val b =
      if ApAcknowledged b then waited b 1 else wlApFailed := by
  rw [beginAPSsidChannel, Prog.val_bind, Prog.val_bind, Bus.state_strlen,
    WiFiDrv.val_wifiSetApNetwork]
  by_cases h : ApAcknowledged b
  · rw [if_pos h, if_pos h, if_neg (by decide)]
    exact (val_pollWhile_status waitsIdle_pendingAP _).trans
      (waited_of_slave (WiFiDrv.slave_wifiSetApNetwork _ _ _ b) 0)
  · rw [if_neg h, if_neg h, if_pos rfl]
    rfl

namespace WiFiCall

/-- The functions that return a connection status. -/
def ReturnsStatus : WiFiCall → Prop
  | beginOpen _ | beginWEP _ _ _ | beginPassphrase _ _ | beginAPSsid _ | beginAPSsidChannel _ _
  | beginAPSsidPassphrase _ _ | beginAPSsidPassphraseChannel _ _ _ | status => True
  | _ => False

/-- A status of a connection or of an access point that is up. -/
def Up (r : Returned) : Prop :=
  ∃ status ∈ [wlConnected, wlApListening, wlApConnected], r = .number status.toNat

theorem not_up {i : ℤ} (h : i ∈ [(wlIdleStatus.toNat : ℤ), wlNoShield.toNat, wlConnectFailed,
    wlApFailed]) : ¬ Up (.number i) := by
  rintro ⟨status, hstatus, heq⟩
  obtain rfl := Returned.number.inj heq
  simp only [List.mem_cons, List.not_mem_nil, or_false] at hstatus
  rcases hstatus with rfl | rfl | rfl <;> exact absurd h (by decide)

theorem not_up_waited (b : Bus) (k : ℕ) : ¬ Up (.number (waited b k)) := by
  rcases waited_cases b k with h | h
  · exact h ▸ not_up (by simp)
  · exact h ▸ not_up (by simp)

theorem not_up_begin (c : Begin) (b : Bus) : ¬ Up (.number (c.run.val b)) := by
  rw [c.val_run]
  split
  · cases c with
    | beginOpen | beginPassphrase | beginWEP => exact not_up (by simp [Begin.failure])
    | beginAP => exact not_up (by simp [Begin.failure])
  · exact not_up_waited b 1

theorem not_up_ap (ssid : Ptr Obj) (channel : UInt8) (b : Bus) :
    ¬ Up (.number ((WiFi.beginAPSsidChannel ssid channel).val b)) := by
  rw [WiFi.val_beginAPSsidChannel]
  split
  · exact not_up_waited b 1
  · exact not_up (by simp)

theorem not_up_val {c : WiFiCall} (hc : c.ReturnsStatus) (b : Bus) : ¬ Up (c.run.val b) := by
  cases c with
  | beginOpen ssid => exact not_up_begin (.beginOpen ssid) b
  | beginWEP ssid keyIdx key => exact not_up_begin (.beginWEP ssid keyIdx key) b
  | beginPassphrase ssid passphrase => exact not_up_begin (.beginPassphrase ssid passphrase) b
  | beginAPSsid ssid => exact not_up_ap ssid 1 b
  | beginAPSsidChannel ssid channel => exact not_up_ap ssid channel b
  | beginAPSsidPassphrase ssid passphrase => exact not_up_begin (.beginAP ssid passphrase 1) b
  | beginAPSsidPassphraseChannel ssid passphrase channel =>
      exact not_up_begin (.beginAP ssid passphrase channel) b
  | status =>
      change ¬ Up (.number (toByte (WiFiDrv.getConnectionStatus.val b)).toNat)
      rw [WiFiDrv.val_getConnectionStatus]
      split
      · exact not_up (by decide)
      · exact not_up (by decide)
  | _ => exact absurd hc id

end WiFiCall

namespace WiFiDrv

theorem slave_startScanNetworks (b : Bus) :
    (startScanNetworks.state b).slave = fun k => b.slave (k + 2 * 1) := by
  unfold startScanNetworks
  simp only [Prog.state_bind, Prog.state_pure, Bus.state_loadList]
  rw [slave_exchange_of_le le_rfl le_rfl]
  rfl

/-- A scan is started if the reply is accepted: its byte reads as zero, which is no failure. -/
theorem val_startScanNetworks (b : Bus) :
    startScanNetworks.val b =
      if Unaccepted WiFiNINA.startScanNetworks 16 (1 : UInt8) b then wlFailure else wlSuccess := by
  obtain ⟨m, hm⟩ : ∃ m, m = b.mem.storeList ⟨.auto .data 1, 0⟩ [0] := ⟨_, rfl⟩
  have hzero : m.load ⟨.auto .data 1, 0⟩ = 0 := by
    rw [hm]
    simp
  rw [startScanNetworks, Prog.val_bind, Bus.val_auto, Bus.state_auto, Prog.val_bind,
    Prog.val_bind, Prog.val_pure, Bus.val_loadList, List.length_singleton, ← hm,
    ret_exchange _ _ _ _ _ _ _ rfl le_rfl, answered_mem, loadList_exchange_byte rfl hzero]
  exact if_congr Iff.rfl rfl (if_neg (by decide))

theorem slave_getScanNetworks (b : Bus) :
    (getScanNetworks.state b).slave = fun k => b.slave (k + 2 * 1) := by
  have hsend := slave_send (L := UInt8) scanNetworks 0 [] b rfl
  simp only [getScanNetworks, Prog.state_bind, Prog.state_pure, sendCmd, receiveResponseCmd,
    Bus.clear, Bus.state_storeList, Bus.state_uninit]
  rw [slave_receiveResponse _ _ _ _ _ _ maxnum_le_scanParams, hsend]

end WiFiDrv

/-- A reply with no parameters. -/
theorem scanned_empty {b : Bus} {rest : List UInt8}
    (hslave : b.slave 1 = replyFrame UInt8 scanNetworks [] ++ rest) :
    (scanned b).count = some 0 := by
  have hreply : reply wifiSocketBufferSize b = [] ++ startCmd :: (scanNetworks ||| replyFlag) ::
      0 :: (endCmd :: rest).take 252 := by
    rw [reply, replyAt, Nat.mul_zero, Nat.zero_add, hslave]
    simp [replyFrame, window, wifiSocketBufferSize]
  have hnone : limitCount 0 (UInt8.ofNat wlNetworksListMaxnum) = 0 := rfl
  rw [scanned, hreply, parseReply_header _ _ (by simp) (by simp), hnone]
  rfl

/-- Names that all arrive. -/
theorem arrived_eq {xs : List (List UInt8)} (rest : List UInt8)
    (hlen : ∀ x ∈ xs, x.length < wlSsidMaxLength) (hfit : fieldsSize UInt8 xs ≤ 252) :
    arrived xs rest = xs := by
  have hcut : (fields UInt8 xs ++ endCmd :: rest).take 252 =
      fields UInt8 xs ++ (endCmd :: rest).take (252 - fieldsSize UInt8 xs) := by
    rw [List.take_append, List.take_of_length_le (by rw [length_fields]; exact hfit),
      length_fields]
  have hcaps : List.Forall₂ (fun (x : List UInt8) (cap : UInt8) => x.length < toNat cap) xs
      (List.replicate xs.length 32) := by
    rw [List.forall₂_iff_get]
    refine ⟨by simp, fun i hi hcap => ?_⟩
    have hwidth : toNat ((List.replicate xs.length (32 : UInt8))[i]) = wlSsidMaxLength := by
      rw [List.getElem_replicate]
      rfl
    exact (hlen xs[i] (List.getElem_mem hi)).trans_eq hwidth.symm
  have hbound : ∀ x ∈ xs, x.length < bound UInt8 := fun x hx =>
    (hlen x hx).trans_le (by decide)
  rw [arrived, hcut, takeFields_fields _ hcaps hbound]

/-- `WiFi_scanNetworks` from `b` returns the number of the networks `xs`, and
`WiFi_SSID_index` then has each name under its index. -/
structure Reported (xs : List (List UInt8)) (b : Bus) : Prop where
  count : WiFi.scanNetworks.val b = xs.length
  names : ∀ i (hi : i < xs.length),
    let s := WiFi.scanNetworks.state b
    s.mem.loadList ((WiFi.ssidIndex (UInt8.ofNat i)).val s) (xs[i].length + 1) = xs[i] ++ [0]

section Scan
variable {xs : List (List UInt8)} {rest : List UInt8} {b : Bus} {n : ℕ}

/-- What a scan reports that brings all names. -/
theorem reported_getScanNetworks (hpos : 1 ≤ xs.length) (hmax : xs.length ≤ wlNetworksListMaxnum)
    (hlen : ∀ x ∈ xs, x.length < wlSsidMaxLength) (hfit : fieldsSize UInt8 xs ≤ 252)
    (hslave : b.slave 1 = replyFrame UInt8 scanNetworks xs ++ rest) :
    WiFiDrv.getScanNetworks.val b = xs.length ∧
      ∀ i (hi : i < xs.length),
        let s := WiFiDrv.getScanNetworks.state b
        s.mem.loadList ((WiFi.ssidIndex (UInt8.ofNat i)).val s) (xs[i].length + 1) =
          xs[i] ++ [0] := by
  obtain ⟨hcount, hpayloads⟩ := scanned_replyFrame hpos hmax hslave
  rw [arrived_eq rest hlen hfit] at hpayloads
  constructor
  · rw [val_getScanNetworks, hcount, Option.getD_some, toNat_length hmax]
  · intro i hi
    have hname := name_getScanNetworks (b := b) (hi.trans_le hmax)
      (Nat.succ_le_of_lt (hlen xs[i] (List.getElem_mem hi)))
    rw [hpayloads, List.getD_eq_getElem _ _ hi, padTake_of_length_le (Nat.le_succ _),
      Nat.succ_sub le_rfl, Nat.sub_self] at hname
    exact hname

/-- The scan that ends the waiting. -/
theorem ends_scanNetworks (hstart : ¬ Unaccepted startScanNetworks 16 (1 : UInt8) b)
    (hn : Settles (¬ toByte · = 0)
      (WiFiDrv.getScanNetworks.answers (WiFiDrv.startScanNetworks.state b)) 9 n) :
    let s := WiFiDrv.startScanNetworks.state b
    WiFi.scanNetworks.val b =
        Int.bmod (toByte (WiFiDrv.getScanNetworks.answers s n)).toNat (2 ^ 8) ∧
      WiFi.scanNetworks.state b = WiFiDrv.getScanNetworks.state^[n + 1] s := by
  intro s
  have hstarted : WiFiDrv.startScanNetworks.val b ≠ wlFailure := by
    rw [WiFiDrv.val_startScanNetworks, if_neg hstart]
    decide
  have hpoll : Settles (fun a => (!(toByte a == 0)) = true) (WiFiDrv.getScanNetworks.answers s)
      (10 - 1) n := hn.congr fun i _ => by simp
  have hrun := WiFi.run_pollWhile (· == 0) WiFiDrv.getScanNetworks (10 - 1) s
  rw [Prog.val_poll hpoll, Prog.state_poll hpoll] at hrun
  have hval := congrArg Prod.fst hrun
  constructor
  · rw [WiFi.scanNetworks, Prog.val_bind, if_neg hstarted, Prog.val_bind, Prog.val_pure]
    exact congrArg (Int.bmod · (2 ^ 8)) hval
  · rw [WiFi.scanNetworks, Prog.state_bind, if_neg hstarted, Prog.state_bind, Prog.state_pure]
    exact congrArg Prod.snd hrun

end Scan

/-- **Waiting for a scan** ends with all that was found: if it takes no more than ten queries until
the module lists networks, whose names all arrive, then their number is returned and the names
are there, if and only if the start of the scan was accepted. -/
theorem scan_reported {xs : List (List UInt8)} {b : Bus} {n : ℕ} {rest : ℕ → List UInt8}
    (hn : n < 10)
    (hempty : ∀ i < n, b.slave (2 * i + 3) = replyFrame UInt8 scanNetworks [] ++ rest i)
    (hslave : b.slave (2 * n + 3) = replyFrame UInt8 scanNetworks xs ++ rest n)
    (hpos : 1 ≤ xs.length) (hmax : xs.length ≤ wlNetworksListMaxnum)
    (hlen : ∀ x ∈ xs, x.length < wlSsidMaxLength) (hfit : fieldsSize UInt8 xs ≤ 252) :
    Reported xs b ↔ ¬ Unaccepted startScanNetworks 16 (1 : UInt8) b := by
  constructor
  · rintro ⟨hcount, -⟩ hstart
    have hfailed : WiFi.scanNetworks.val b = wlFailure := by
      rw [WiFi.scanNetworks, Prog.val_bind, WiFiDrv.val_startScanNetworks, if_pos hstart,
        if_pos rfl]
      rfl
    rw [hfailed, wlFailure] at hcount
    omega
  · intro hstart
    obtain ⟨s, hs⟩ : ∃ s, s = WiFiDrv.startScanNetworks.state b := ⟨_, rfl⟩
    have hbus : ∀ i k, (WiFiDrv.getScanNetworks.state^[i] s).slave k =
        b.slave (k + 2 * i + 2) := by
      intro i k
      rw [slave_iterate WiFiDrv.slave_getScanNetworks, hs, WiFiDrv.slave_startScanNetworks]
    have hreply : ∀ i, (WiFiDrv.getScanNetworks.state^[i] s).slave 1 = b.slave (2 * i + 3) := by
      intro i
      rw [hbus]
      exact congrArg b.slave (by omega)
    obtain ⟨hval, hnames⟩ := reported_getScanNetworks hpos hmax hlen hfit ((hreply n).trans hslave)
    have hbyte : (toByte xs.length).toNat = xs.length := by
      have hnat : ((xs.length : ℤ) % 2 ^ 8).toNat = xs.length := by
        rw [wlNetworksListMaxnum] at hmax
        omega
      rw [toByte, hnat, toNat_length hmax]
    have hsettles : Settles (¬ toByte · = 0) (WiFiDrv.getScanNetworks.answers s) 9 n := by
      refine ⟨Nat.le_of_lt_succ hn, fun i hi => ?_, fun _ => ?_⟩
      · rw [Prog.answers, val_getScanNetworks, scanned_empty ((hreply i).trans (hempty i hi))]
        exact not_not.mpr rfl
      · intro hzero
        rw [Prog.answers, hval] at hzero
        rw [hzero] at hbyte
        exact Nat.ne_of_gt hpos hbyte.symm
    obtain ⟨hreturned, hstate⟩ := ends_scanNetworks hstart (hs ▸ hsettles)
    rw [← hs, Prog.answers, hval, hbyte] at hreturned
    rw [← hs, Function.iterate_succ_apply'] at hstate
    constructor
    · rw [hreturned]
      rw [wlNetworksListMaxnum] at hmax
      exact Int.bmod_eq_of_le (by omega) (by omega)
    · rw [hstate]
      exact hnames

/-- A scan that finds nothing at first, and then two networks. -/
theorem scan_reported_second :
    Reported [[0x68, 0x6F, 0x6D, 0x65], [0x61]] (Bus.fresh fun k =>
      if k = 1 then [startCmd, startScanNetworks ||| replyFlag, 1, 0, endCmd]
      else if k = 3 then replyFrame UInt8 scanNetworks []
      else replyFrame UInt8 scanNetworks [[0x68, 0x6F, 0x6D, 0x65], [0x61]]) := by
  refine (@scan_reported _ _ 1 (fun _ => []) (by decide) ?_ ?_ (by decide) (by decide)
    (by decide) (by decide)).mpr (by decide)
  · intro i hi
    obtain rfl : i = 0 := Nat.lt_one_iff.mp hi
    rfl
  · rfl

end WiFiNINA
