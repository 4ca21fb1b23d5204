import WiFiNINA.Exchanging.Written

/-!
# What is never asked

Some functions ask a second question if the answer to the first is good: for the address of a
host once the module has taken its name, whether data has gone out once the module has taken it.
The first answer is one byte, which reads as zero.  So in no run of the functions above the drivers
does the second question reach the wire, and those who would have to ask it report a failure.
-/

namespace WiFiNINA

open SpiDrv World WiFiClient

/-- The questions that depend on the answer to another. -/
def secondQuestions : Set UInt8 := {getHostByNameCmd, dataSentTcpCmd}

/-- The other commands. -/
def firstCommands : Set UInt8 := plainCommands \ secondQuestions

theorem mem_firstCommands {cmd : UInt8}
    (h : decide (cmd.toNat < 128 ∧ cmd ≠ getHostByNameCmd ∧ cmd ≠ dataSentTcpCmd) = true) :
    cmd ∈ firstCommands := by
  obtain ⟨hplain, hname, hdata⟩ : cmd.toNat < 128 ∧ cmd ≠ getHostByNameCmd ∧
      cmd ≠ dataSentTcpCmd := of_decide_eq_true h
  exact ⟨hplain, fun hcmd => hcmd.elim hname hdata⟩

namespace ApiCall

/-- The functions above the drivers. -/
def Upper : ApiCall → Prop
  | driver _ => False
  | _ => True

/-- What the functions return that would have to ask a second question. -/
def defeat : ApiCall → Option Returned
  | wifi (.hostByName _ _) | operate _ (.write _ _) | operate _ (.writeChar _)
  | connect (.connectHostname _ _) _ => some (.number 0)
  | wifi (.pingHostname _ _) => some (.number wlPingUnknownHost)
  | _ => none

end ApiCall

theorem WiFiCall.commands_first {c : WiFiCall} (h : (ApiCall.wifi c).defeat = none) :
    c.commands ⊆ firstCommands := by
  intro cmd hcmd
  cases c with
  | init | end' | ssidIndex => exact hcmd.elim
  | hostByName | pingHostname => cases h
  | beginOpen | beginWEP | beginPassphrase | beginAPSsid | beginAPSsidChannel
  | beginAPSsidPassphrase | beginAPSsidPassphraseChannel | configStaticDns
  | configStaticDnsGateway | configStaticDnsGatewaySubnet | scanNetworks | setLEDs =>
      rcases hcmd with rfl | rfl
      · exact mem_firstCommands rfl
      · exact mem_firstCommands rfl
  | _ =>
      obtain rfl := Set.mem_singleton_iff.mp hcmd
      exact mem_firstCommands rfl

theorem openCommands_first : openCommands ⊆ firstCommands := by
  intro cmd hcmd
  rcases hcmd with rfl | rfl | rfl | rfl
  · exact mem_firstCommands rfl
  · exact mem_firstCommands rfl
  · exact mem_firstCommands rfl
  · exact mem_firstCommands rfl

theorem ApiCall.commands_first {c : ApiCall} (hc : c.Upper) (h : c.defeat = none) :
    c.commands ⊆ firstCommands := by
  intro cmd hcmd
  cases c with
  | wifi c => exact c.commands_first h hcmd
  | driver => exact hc.elim
  | connect c fuel =>
      cases c with
      | connectHostname => cases h
      | connect | connectSSL | connectSSLHostname => exact openCommands_first hcmd
  | operate sock op =>
      cases op with
      | flush => exact hcmd.elim
      | write | writeChar => cases h
      | connected | stop =>
          rcases hcmd with rfl | rfl
          · exact mem_firstCommands rfl
          · exact mem_firstCommands rfl
      | available | readChar | read | peek | status | remoteIP | remotePort =>
          obtain rfl := Set.mem_singleton_iff.mp hcmd
          exact mem_firstCommands rfl
  | initBuffers => exact hcmd.elim
  | buffer c =>
      cases c with
      | close | deinit => exact hcmd.elim
      | available | peek | read | readChar =>
          obtain rfl := Set.mem_singleton_iff.mp hcmd
          exact mem_firstCommands rfl

section Defeat
variable {w : World} {b : Bus}

theorem WiFi.state_hostByName (name aResult : Ptr Obj) (b : Bus) :
    (hostByName name aResult).state b = (WiFiDrv.reqHostByName name).state b := by
  rw [hostByName, WiFiDrv.getHostByName, Prog.state_bind, WiFiDrv.val_reqHostByName,
    if_neg (not_not.mpr rfl)]
  rfl

/-- A name is sent, and nothing else. -/
theorem advances_hostByName (name aResult : Ptr Obj) (b : Bus) :
    Advances firstCommands Set.univ 1 b ((WiFi.hostByName name aResult).state b) := by
  rw [WiFi.state_hostByName]
  exact (exchanging_reqHostByName (fun _ _ => trivial) (mem_firstCommands rfl)
    name).advances b

theorem advances_pingHostname (name : Ptr Obj) (ttl : ℤ) (b : Bus) :
    Advances firstCommands Set.univ 1 b ((WiFi.pingHostname name ttl).state b) := by
  rw [WiFi.pingHostname, Prog.state_bind, val_hostByName, if_pos rfl]
  exact advances_hostByName name _ b

theorem advances_connectHostname (host : Ptr Obj) (port : UInt16) (fuel : ℕ) (w : World) :
    DriverAdvances firstCommands 1 w (((Connect.connectHostname host port).run fuel).state w) := by
  have hstate : ((Connect.connectHostname host port).run fuel).state w =
      { w with bus := (WiFi.hostByName host ⟨.auto .remoteAddr 4, 0⟩).state w.bus } := by
    exact congrArg Prod.snd (run_of_not_waits (c := .connectHostname host port) fuel w id)
  rw [hstate]
  exact advances_hostByName host _ w.bus

/-- Data is sent, and nothing else. -/
theorem advances_write (sock : UInt8) (buf : Ptr Obj) (size : UInt32) (w : World) :
    DriverAdvances firstCommands 1 w ((WiFiClient.write sock buf size).state w) := by
  by_cases hidle : sock = noSocketAvail ∨ size = 0
  · rw [WiFiClient.write, if_pos hidle]
    exact addsUp_driverAdvances.mono (addsUp_driverAdvances.refl w) (Nat.zero_le 1)
  · obtain ⟨hsock, hsize⟩ := not_or.mp hidle
    rw [DriverAdvances, state_write hsock hsize]
    exact (exchanging_sendData (fun _ _ => trivial) (mem_firstCommands rfl) sock buf
      size.toUInt16).advances w.bus

theorem val_write (sock : UInt8) (buf : Ptr Obj) (size : UInt32) (w : World) :
    (WiFiClient.write sock buf size).val w = 0 := by
  by_cases hidle : sock = noSocketAvail ∨ size = 0
  · rw [WiFiClient.write, if_pos hidle]
    rfl
  · rw [WiFiClient.write, if_neg hidle, Prog.val_bind, val_onBus, ServerDrv.val_sendData,
      if_pos rfl]
    rfl

theorem ApiCall.asks_first {c : ApiCall} (hc : c.Upper) (w : World) :
    ∃ n, DriverAdvances firstCommands n w (c.run.state w) := by
  by_cases h : c.defeat = none
  · exact ⟨c.budget, (c.advances w).mono (commands_first hc h) (fun _ => id) le_rfl⟩
  · cases c with
    | wifi c =>
        cases c with
        | hostByName name aResult => exact ⟨1, advances_hostByName name aResult w.bus⟩
        | pingHostname name ttl => exact ⟨1, advances_pingHostname name ttl w.bus⟩
        | _ => exact absurd rfl h
    | connect c fuel =>
        cases c with
        | connectHostname host port => exact ⟨1, advances_connectHostname host port fuel w⟩
        | _ => exact absurd rfl h
    | operate sock op =>
        cases op with
        | write buf size => exact ⟨1, advances_write sock buf size w⟩
        | writeChar ch =>
            have hvar : DriverAdvances firstCommands 0 w ((onBus (Bus.auto .ch [ch])).state w) :=
              advances_of_performed (performed_nil rfl rfl rfl)
                (Memory.confined_storeList _ fun _ _ => trivial)
            exact ⟨0 + 1, hvar.trans (advances_write sock ⟨.auto .ch 1, 0⟩ 1 _)⟩
        | _ => exact absurd rfl h
    | driver | initBuffers | buffer => exact absurd rfl h

/-- The failures that are reported. -/
theorem ApiCall.val_defeat {c : ApiCall} {r : Returned} (h : c.defeat = some r) (w : World) :
    c.run.val w = r := by
  cases c with
  | wifi c =>
      cases c with
      | hostByName name aResult =>
          obtain rfl := Option.some.inj h
          exact congrArg Returned.number (val_hostByName name aResult w.bus)
      | pingHostname name ttl =>
          obtain rfl := Option.some.inj h
          refine congrArg Returned.number ?_
          rw [WiFi.pingHostname, Prog.val_bind, val_hostByName, if_pos rfl]
          rfl
      | _ => cases h
  | connect c fuel =>
      cases c with
      | connectHostname host port =>
          obtain rfl := Option.some.inj h
          have hval : ((Connect.connectHostname host port).run fuel).val w = some 0 := by
            exact congrArg Prod.fst (run_of_not_waits (c := .connectHostname host port) fuel w id)
          exact congrArg (fun s : Option ℤ => s.elim Returned.unfinished .number) hval
      | _ => cases h
  | operate sock op =>
      cases op with
      | write buf size =>
          obtain rfl := Option.some.inj h
          exact congrArg Returned.number (val_write sock buf size w)
      | writeChar ch =>
          obtain rfl := Option.some.inj h
          exact congrArg Returned.number (val_write sock _ 1 _)
      | _ => cases h
  | driver | initBuffers | buffer => cases h

end Defeat

theorem asks_first_exec (w : World) {cs : List ApiCall} (hcs : ∀ c ∈ cs, c.Upper) :
    ∃ n, DriverAdvances firstCommands n w (api.exec w cs) := by
  induction cs generalizing w with
  | nil => exact ⟨0, addsUp_driverAdvances.refl w⟩
  | cons c cs ih =>
      obtain ⟨hc, hcs⟩ := List.forall_mem_cons.mp hcs
      obtain ⟨n, hcall⟩ := ApiCall.asks_first hc w
      obtain ⟨n', hrest⟩ := ih (c.run.state w) hcs
      exact ⟨n + n', hcall.trans hrest⟩

theorem defeats_results (w : World) (cs : List ApiCall) :
    List.Forall₂ (fun c r => ∀ r' ∈ c.defeat, r = r') cs (results w cs) := by
  induction cs generalizing w with
  | nil => exact .nil
  | cons c cs ih =>
      rw [results, System.collect_cons]
      exact .cons (fun r' hr' => ApiCall.val_defeat hr' w) (ih (c.run.state w))

/-- **What is never asked.**  In every run of the functions above the drivers, whatever the module
answers, neither the address of a host nor whether data has gone out is ever asked for; and every
call that would have to ask reports its failure. -/
theorem never_asked (w : World) {cs : List ApiCall} (hcs : ∀ c ∈ cs, c.Upper) :
    (∃ es, Performed es w.bus (api.exec w cs).bus ∧
      readSession (es.flatMap Exchange.wire) = some es ∧ ∀ e ∈ es, e.cmd ∉ secondQuestions) ∧
      List.Forall₂ (fun c r => ∀ r' ∈ c.defeat, r = r') cs (results w cs) := by
  obtain ⟨n, hadvances⟩ := asks_first_exec w hcs
  obtain ⟨es, -, hes, hperformed⟩ := hadvances.exchanges
  exact ⟨⟨es, hperformed, readSession_eq_some.mpr ⟨fun e he => ⟨(hes e he).1.1, (hes e he).2⟩, rfl⟩,
    fun e he => (hes e he).1.2⟩, defeats_results w cs⟩

/-- A name is looked up, and something is written. -/
theorem never_asked_lookup :
    let cs : List ApiCall := [.wifi (.hostByName ⟨.user 0, 0⟩ ⟨.user 1, 0⟩),
      .operate 0 (.write ⟨.user 2, 0⟩ 5)]
    (∃ es, Performed es World.boot.bus (api.exec World.boot cs).bus ∧
      readSession (es.flatMap Exchange.wire) = some es ∧ ∀ e ∈ es, e.cmd ∉ secondQuestions) ∧
      List.Forall₂ (fun c r => ∀ r' ∈ c.defeat, r = r') cs (results World.boot cs) :=
  never_asked World.boot (by simp [ApiCall.Upper])

end WiFiNINA
