import Mathlib.Data.Nat.Bitwise
import Mathlib.Data.Nat.Find
import WiFiNINA.Lib.Framing
import WiFiNINA.Lib.Memory
import WiFiNINA.Lib.Prog

/-!
# The SPI side of the driver: constants, memory, hardware

The state `Bus` is what `spi_drv.c` works on: the program memory its pointers
reach, its static `txBuffer` and initialisation flag, the receive buffer of the
SPI block, and the outside world.  The outside world is an oracle: the bytes the
module shifts out during each transfer and the successive readings of the busy
pin are arbitrary sequences, so a statement about every bus is a statement about
every firmware.

Two counters exist for the specification only.  `reads` counts the calls of
`SpiDrv_readChar`, including those that found the receive buffer empty, and
`log` lists what the driver did to the hardware, in order.
-/

namespace WiFiNINA

/-! ## wifi_spi.h, spi_drv.h -/

def replyFlag : UInt8 := (1 : UInt8) <<< 7
def startCmd : UInt8 := 0xE0
def endCmd : UInt8 := 0xEE
def errCmd : UInt8 := 0xEF
def timeoutChar : ℕ := 1000
def noSocketAvail : UInt8 := 255
def wifiSpiAck : UInt8 := 1
def setNetCmd : UInt8 := 0x10
def setPassphraseCmd : UInt8 := 0x11
def setKeyCmd : UInt8 := 0x12
def setIpConfigCmd : UInt8 := 0x14
def setDnsConfigCmd : UInt8 := 0x15
def setHostnameCmd : UInt8 := 0x16
def setPowerModeCmd : UInt8 := 0x17
def setApNetCmd : UInt8 := 0x18
def setApPassphraseCmd : UInt8 := 0x19
def setDebugCmd : UInt8 := 0x1A
def getTemperatureCmd : UInt8 := 0x1B
def getConnStatusCmd : UInt8 := 0x20
def getIpaddrCmd : UInt8 := 0x21
def getMacaddrCmd : UInt8 := 0x22
def getCurrSsidCmd : UInt8 := 0x23
def getCurrBssidCmd : UInt8 := 0x24
def getCurrRssiCmd : UInt8 := 0x25
def getCurrEnctCmd : UInt8 := 0x26
def scanNetworks : UInt8 := 0x27
def startServerTcpCmd : UInt8 := 0x28
def getStateTcpCmd : UInt8 := 0x29
def dataSentTcpCmd : UInt8 := 0x2A
def availDataTcpCmd : UInt8 := 0x2B
def getDataTcpCmd : UInt8 := 0x2C
def startClientTcpCmd : UInt8 := 0x2D
def stopClientTcpCmd : UInt8 := 0x2E
def getClientStateTcpCmd : UInt8 := 0x2F
def disconnectCmd : UInt8 := 0x30
def getIdxRssiCmd : UInt8 := 0x32
def getIdxEnctCmd : UInt8 := 0x33
def reqHostByNameCmd : UInt8 := 0x34
def getHostByNameCmd : UInt8 := 0x35
def startScanNetworks : UInt8 := 0x36
def getFwVersionCmd : UInt8 := 0x37
def sendDataUdpCmd : UInt8 := 0x39
def getRemoteDataCmd : UInt8 := 0x3A
def getTimeCmd : UInt8 := 0x3B
def getIdxBssid : UInt8 := 0x3C
def getIdxChannelCmd : UInt8 := 0x3D
def pingCmd : UInt8 := 0x3E
def getSocketCmd : UInt8 := 0x3F
def sendDataTcpCmd : UInt8 := 0x44
def getDatabufTcpCmd : UInt8 := 0x45
def insertDatabufCmd : UInt8 := 0x46
def setPinMode : UInt8 := 0x50
def setDigitalWrite : UInt8 := 0x51
def setAnalogWrite : UInt8 := 0x52
def dummyData : UInt8 := 0xFF
def spiMaxTxBuffer : ℕ := 255
def spiMaxRxBuffer : UInt16 := 255
def wifiSocketBufferSize : UInt16 := 255

/-- `wl_tcp_state`, as far as the library names its members. -/
def tcpClosed : UInt8 := 0
def tcpListen : UInt8 := 1
def tcpSynSent : UInt8 := 2
def tcpSynRcvd : UInt8 := 3
def tcpFinWait1 : UInt8 := 5
def tcpFinWait2 : UInt8 := 6
def tcpCloseWait : UInt8 := 7
def tcpTimeWait : UInt8 := 10

/-! ## wl_types.h, wl_definitions.h, wifi_drv.h, server_drv.h -/

def tcpMode : UInt8 := 0
def tlsMode : UInt8 := 2
def wifiMaxSockNum : ℕ := 10
def wlMaxAttemptConnection : ℕ := 10
def wlFailure : ℤ := -1
def wlSuccess : ℤ := 1
def wlNoShield : UInt8 := 255
def wlIdleStatus : UInt8 := 0
def wlNoSsidAvail : UInt8 := 1
def wlScanCompleted : UInt8 := 2
def wlConnectFailed : ℤ := 4
def wlApFailed : ℤ := 9
def wlConnected : UInt8 := 3
def wlApListening : UInt8 := 7
def wlApConnected : UInt8 := 8
def wlPingUnknownHost : ℤ := -3
def wlPingError : ℤ := -4
def wlSsidMaxLength : ℕ := 32
def wlMacAddrLength : ℕ := 6
def wlNetworksListMaxnum : ℕ := 10
def wlFwVerLength : ℕ := 6
def encTypeUnknown : ℤ := 255

/-- The automatic variables whose addresses the library takes. -/
inductive Var
  | data
  | dummy
  | response
  | paramsRead
  | ipAddr
  | port
  | sock
  | protMode
  | size
  | ch
  | keyIdx
  | validParams
  | localIp
  | gateway
  | subnet
  | dnsServer1
  | dnsServer2
  | networkItem
  | rssi
  | encType
  | channel
  | mode
  | ttl
  | on
  | pin
  | value
  | peek
  | remoteAddr
  /-- The parameter `data` of `ServerDrv_getData`, which is a pointer itself. -/
  | dataPtr
  deriving DecidableEq

/-- The static variables of `wifi_drv.c`. -/
inductive Global
  | networkSsid
  | ssid
  | bssid
  | mac
  | localIp
  | subnetMask
  | gatewayIp
  | fwVersion
  deriving DecidableEq

/-- `sizeof` of a static variable. -/
def Global.size : Global → ℕ
  | .networkSsid => wlNetworksListMaxnum * wlSsidMaxLength
  | .ssid => wlSsidMaxLength
  | .bssid | .mac => wlMacAddrLength
  | .localIp | .subnetMask | .gatewayIp => 4
  | .fwVersion => wlFwVerLength

/-- What a pointer of the library can point into. -/
inductive Obj
  /-- The object of the null pointer. -/
  | null
  /-- An automatic variable of `size` bytes. -/
  | auto (var : Var) (size : ℕ)
  /-- A heap block of `size` bytes. -/
  | heap (id size : ℕ)
  /-- An object of the application. -/
  | user (id : ℕ)
  /-- A static variable of the library. -/
  | global (var : Global)
  deriving DecidableEq

/-- The null pointer. -/
def nullPtr : Ptr Obj := ⟨.null, 0⟩

/-- The address of a static variable. -/
def Global.ptr (var : Global) : Ptr Obj := ⟨.global var, 0⟩

@[simp] theorem Global.obj_ptr (var : Global) : var.ptr.obj = .global var := rfl

/-- `tParam` and `tDataParam`: a length of the framing's width and a pointer. -/
structure Param (L : Type) where
  len : L
  data : Ptr Obj

/-- `tParam`, with `len` for `paramLen` and `data` for `param`. -/
abbrev TParam := Param UInt8

/-- `tDataParam`, with `len` for `dataLen`. -/
abbrev TDataParam := Param UInt16

/-- The length byte of `SpiDrv_sendCmd` and `SpiDrv_receiveResponseCmd`. -/
instance : LengthCode UInt8 UInt8 where
  width := 1
  bound := 256
  encode len := [len]
  decode cs := cs.headD 0
  toNat := UInt8.toNat
  ofNat := UInt8.ofNat
  pred len := len - 1
  length_encode _ := rfl
  decode_encode _ := rfl
  width_pos := by decide
  bound_pos := by decide
  toNat_ofNat _ := UInt8.toNat_ofNat'
  ofNat_toNat _ := UInt8.ofNat_toNat
  toNat_pred len := by
    have := len.toNat_lt
    rw [UInt8.toNat_sub, show UInt8.toNat 1 = 1 from rfl]
    split <;> omega

theorem toNat_join (a b : UInt8) :
    (((a &&& 0xFF).toUInt16 <<< 8) ||| (b &&& 0xFF).toUInt16).toNat =
      a.toNat * 256 + b.toNat := by
  have hmask : ∀ c : UInt8, (c &&& 0xFF).toNat = c.toNat := by
    intro c
    rw [UInt8.toNat_and]
    exact Nat.and_two_pow_sub_one_of_lt_two_pow c.toNat_lt
  have hb : b.toNat < 2 ^ 8 := b.toNat_lt
  have ha : a.toNat * 2 ^ 8 < 2 ^ 16 := by have := a.toNat_lt; omega
  have hor := Nat.shiftLeft_add_eq_or_of_lt hb a.toNat
  simp only [UInt16.toNat_or, UInt16.toNat_shiftLeft, UInt8.toNat_toUInt16, hmask]
  rw [show (UInt16.toNat 8) % 16 = 8 from rfl, Nat.shiftLeft_eq, Nat.mod_eq_of_lt ha,
    ← Nat.shiftLeft_eq, ← hor, Nat.shiftLeft_eq]

/-- The two big-endian length bytes of `SpiDrv_sendBuffer` and
`SpiDrv_receiveResponseBuffer`. -/
instance : LengthCode UInt16 UInt8 where
  width := 2
  bound := 65536
  encode len := [((len >>> 8) &&& 0xFF).toUInt8, (len &&& 0xFF).toUInt8]
  decode cs := ((cs.headD 0 &&& 0xFF).toUInt16 <<< 8) ||| (cs.getD 1 0 &&& 0xFF).toUInt16
  toNat := UInt16.toNat
  ofNat := UInt16.ofNat
  pred len := len - 1
  length_encode _ := rfl
  decode_encode len := by
    apply UInt16.toNat_inj.mp
    have h := len.toNat_lt
    simp only [List.headD_cons, List.getD_cons_succ, List.getD_cons_zero]
    rw [toNat_join]
    simp [Nat.and_two_pow_sub_one_eq_mod _ 8, Nat.shiftRight_eq_div_pow]
    omega
  width_pos := by decide
  bound_pos := by decide
  toNat_ofNat _ := UInt16.toNat_ofNat'
  ofNat_toNat _ := UInt16.ofNat_toNat
  toNat_pred len := by
    have := len.toNat_lt
    rw [UInt16.toNat_sub, show UInt16.toNat 1 = 1 from rfl]
    split <;> omega

@[simp] theorem toNat_uint8 (len : UInt8) : LengthCode.toNat len = len.toNat := rfl
@[simp] theorem toNat_uint16 (len : UInt16) : LengthCode.toNat len = len.toNat := rfl
@[simp] theorem width_uint8 : LengthCode.width UInt8 = 1 := rfl
@[simp] theorem width_uint16 : LengthCode.width UInt16 = 2 := rfl

/-- `(uint8)` of an `int` -/
def toByte (i : ℤ) : UInt8 := UInt8.ofNat (i % 2 ^ 8).toNat

/-- The bytes of a `uint16`, least significant first. -/
def le16 (x : UInt16) : List UInt8 := [x.toUInt8, (x >>> 8).toUInt8]

/-- The bytes of a `uint32`, least significant first. -/
def le32 (x : UInt32) : List UInt8 :=
  [x.toUInt8, (x >>> 8).toUInt8, (x >>> 16).toUInt8, (x >>> 24).toUInt8]

/-- The integer with the given bytes, least significant first. -/
def ofLe : List UInt8 → ℕ
  | [] => 0
  | c :: cs => c.toNat + 256 * ofLe cs

theorem ofLe_lt (cs : List UInt8) : ofLe cs < 256 ^ cs.length := by
  induction cs with
  | nil => decide
  | cons c cs ih =>
      have hc := c.toNat_lt
      rw [ofLe, List.length_cons, Nat.pow_succ]
      omega

@[simp] theorem length_le16 (x : UInt16) : (le16 x).length = 2 := rfl
@[simp] theorem length_le32 (x : UInt32) : (le32 x).length = 4 := rfl

@[simp] theorem ofLe_le16 (x : UInt16) : ofLe (le16 x) = x.toNat := by
  have h := x.toNat_lt
  simp only [ofLe, le16, UInt16.toNat_toUInt8, UInt16.toNat_shiftRight, UInt16.reduceToNat,
    Nat.reduceMod, Nat.shiftRight_eq_div_pow]
  omega

/-! ## Hardware -/

/-- The semaphores of `spi_drv.c`. -/
inductive Semaphore
  | slaveReadyDetected
  | spiTxCompleted
  deriving DecidableEq

/-- What the driver does to the hardware and to the scheduler. -/
inductive Event
  | xSemaphoreCreateBinary (semaphore : Semaphore)
  | xSemaphoreTake (semaphore : Semaphore)
  | resetWrite (level : Bool)
  | csOverrideWrite (level : Bool)
  | putArray (bytes : List UInt8)
  deriving DecidableEq

/-- The readings of the busy pin to come: the module does not stay busy for ever. -/
structure BusyPin where
  reading : ℕ → Bool
  released : ∀ k, ∃ n, reading (k + n) = false

/-- The pin after `n` readings. -/
def BusyPin.skip (pin : BusyPin) (n : ℕ) : BusyPin where
  reading k := pin.reading (n + k)
  released k := by
    simp only [← Nat.add_assoc]
    exact pin.released (n + k)

/-- The number of readings up to the first that is not busy. -/
def BusyPin.untilReleased (pin : BusyPin) : ℕ := Nat.find (pin.released 0) + 1

/-- The state of the SPI driver and of everything it talks to. -/
structure Bus where
  mem : Memory Obj UInt8
  /-- `SpiDrv_initialized`. -/
  initialized : Bool
  /-- The static `txBuffer`; offset `i` is `txBuffer[i]`. -/
  txBuffer : Memory Unit UInt8
  /-- The receive buffer of the SPI block, oldest byte first. -/
  rx : List UInt8
  /-- The calls of `SpiDrv_readChar` so far. -/
  reads : ℕ
  /-- The bytes the module shifts out during each transfer to come. -/
  slave : ℕ → List UInt8
  espBusy : BusyPin
  log : List Event

/-- The driver before its first call, in front of a module that is never busy and shifts
out the given bytes. -/
def Bus.fresh (slave : ℕ → List UInt8) : Bus where
  mem := ⟨fun _ => 0, []⟩
  initialized := false
  txBuffer := ⟨fun _ => 0, []⟩
  rx := []
  reads := 0
  slave := slave
  espBusy := ⟨fun _ => false, fun _ => ⟨0, rfl⟩⟩
  log := []

/-- The bytes of a transfer. -/
def Event.bytes? : Event → Option (List UInt8)
  | .putArray bytes => some bytes
  | .xSemaphoreCreateBinary _ | .xSemaphoreTake _ | .resetWrite _ | .csOverrideWrite _ => none

@[simp] theorem bytes?_putArray (bytes : List UInt8) :
    (Event.putArray bytes).bytes? = some bytes := rfl
@[simp] theorem bytes?_create (s : Semaphore) :
    (Event.xSemaphoreCreateBinary s).bytes? = none := rfl
@[simp] theorem bytes?_take (s : Semaphore) : (Event.xSemaphoreTake s).bytes? = none := rfl
@[simp] theorem bytes?_reset (level : Bool) : (Event.resetWrite level).bytes? = none := rfl
@[simp] theorem bytes?_csOverride (level : Bool) :
    (Event.csOverrideWrite level).bytes? = none := rfl

/-- Every array handed to the SPI block, in order. -/
def Bus.transmitted (b : Bus) : List (List UInt8) := b.log.filterMap Event.bytes?

/-- `&txBuffer[j]`. -/
def txAt (j : ℕ) : Ptr Unit := ⟨(), j⟩

@[simp] theorem txAt_add (j k : ℕ) : (txAt j).add k = txAt (j + k) := rfl

namespace Bus

def emit (e : Event) : Prog Bus Unit := .modify fun b => { b with log := b.log ++ [e] }

/-- `*p = c` -/
def store (p : Ptr Obj) (c : UInt8) : Prog Bus Unit :=
  .modify fun b => { b with mem := b.mem.store p c }

/-- Store consecutive bytes: an initialised variable, or the target of `memcpy`. -/
def storeList (p : Ptr Obj) (cs : List UInt8) : Prog Bus Unit :=
  .modify fun b => { b with mem := b.mem.storeList p cs }

/-- The `n` bytes from `p` on. -/
def loadList (p : Ptr Obj) (n : ℕ) : Prog Bus (List UInt8) :=
  ⟨fun b => (b.mem.loadList p n, b)⟩

/-- An automatic variable with its initial bytes, least significant first. -/
def auto (var : Var) (init : List UInt8) : Prog Bus (Ptr Obj) := do
  storeList ⟨.auto var init.length, 0⟩ init
  pure ⟨.auto var init.length, 0⟩

/-- The bytes of an automatic variable that has no initial value. -/
def uninit (var : Var) (size : ℕ) : Prog Bus (List UInt8) := loadList ⟨.auto var size, 0⟩ size

/-- The search for the end of a string, over at most `n` bytes. -/
def strlenFrom : ℕ → Ptr Obj → Prog Bus ℕ
  | 0, _ => pure 0
  | n + 1, p => do
      let cs ← loadList p 1
      if cs = [0] then pure 0 else do
        let len ← strlenFrom n (p.add 1)
        pure (len + 1)

/-- `strlen`, and with it `ustrlen`: no object is larger than the address space. -/
def strlen (p : Ptr Obj) : Prog Bus ℕ := strlenFrom (2 ^ 32) p

/-- `ESPBUSY_Read`: the next reading of the busy pin. -/
def espBusyRead : Prog Bus Bool :=
  ⟨fun b => (b.espBusy.reading 0, { b with espBusy := b.espBusy.skip 1 })⟩

/-- `while (ESPBUSY_Read()) {};` -/
def espBusySpin : Prog Bus Unit :=
  .modify fun b => { b with espBusy := b.espBusy.skip b.espBusy.untilReleased }

/-- `SPIM_WIFI_ClearTxBuffer`: nothing is pending, as every transfer is awaited. -/
def clearTxBuffer : Prog Bus Unit := pure ()

/-- `SPIM_WIFI_ClearRxBuffer` -/
def clearRxBuffer : Prog Bus Unit := .modify fun b => { b with rx := [] }

/-- `SPIM_WIFI_PutArray(txBuffer, n)`: while the first `n` bytes of `txBuffer` are
shifted out, at most as many bytes of the module are shifted in. -/
def putArray (n : ℕ) : Prog Bus Unit :=
  .modify fun b =>
    { b with
      log := b.log ++ [.putArray (b.txBuffer.loadList (txAt 0) n)]
      rx := b.rx ++ (b.slave 0).take n
      slave := fun k => b.slave (k + 1) }

@[simp] theorem state_emit (e : Event) (b : Bus) :
    (emit e).state b = { b with log := b.log ++ [e] } := rfl
@[simp] theorem state_store (p : Ptr Obj) (c : UInt8) (b : Bus) :
    (store p c).state b = { b with mem := b.mem.store p c } := rfl
@[simp] theorem state_storeList (p : Ptr Obj) (cs : List UInt8) (b : Bus) :
    (storeList p cs).state b = { b with mem := b.mem.storeList p cs } := rfl
@[simp] theorem val_loadList (p : Ptr Obj) (n : ℕ) (b : Bus) :
    (loadList p n).val b = b.mem.loadList p n := rfl
@[simp] theorem state_loadList (p : Ptr Obj) (n : ℕ) (b : Bus) :
    (loadList p n).state b = b := rfl
@[simp] theorem val_auto (var : Var) (init : List UInt8) (b : Bus) :
    (auto var init).val b = ⟨.auto var init.length, 0⟩ := rfl
@[simp] theorem state_auto (var : Var) (init : List UInt8) (b : Bus) :
    (auto var init).state b =
      { b with mem := b.mem.storeList ⟨.auto var init.length, 0⟩ init } := rfl
@[simp] theorem state_uninit (var : Var) (size : ℕ) (b : Bus) : (uninit var size).state b = b := rfl
@[simp] theorem state_espBusySpin (b : Bus) :
    espBusySpin.state b =
      { b with espBusy := b.espBusy.skip b.espBusy.untilReleased } := rfl
@[simp] theorem state_clearTxBuffer (b : Bus) : clearTxBuffer.state b = b := rfl
@[simp] theorem state_clearRxBuffer (b : Bus) :
    clearRxBuffer.state b = { b with rx := [] } := rfl
@[simp] theorem state_putArray (n : ℕ) (b : Bus) :
    (putArray n).state b =
      { b with
        log := b.log ++ [.putArray (b.txBuffer.loadList (txAt 0) n)]
        rx := b.rx ++ (b.slave 0).take n
        slave := fun k => b.slave (k + 1) } := rfl

theorem state_strlenFrom (n : ℕ) (p : Ptr Obj) (b : Bus) : (strlenFrom n p).state b = b := by
  induction n generalizing p with
  | zero => rfl
  | succ n ih =>
      simp only [strlenFrom, Prog.state_bind, state_loadList, Prog.state_ite, Prog.state_pure, ih,
        ite_self]

@[simp] theorem state_strlen (p : Ptr Obj) (b : Bus) : (strlen p).state b = b :=
  state_strlenFrom _ p b

end Bus
end WiFiNINA
