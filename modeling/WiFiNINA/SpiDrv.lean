import WiFiNINA.Bus

/-!
# spi_drv.c

The command and the buffer functions of `spi_drv.c` differ only in the width of
the length field, so each pair is one definition over the length type; the
source's own names are its two instances.

An encoder walks `txBuffer` with a cursor `j` and hands the first `j` bytes to
the SPI block.  A decoder transmits zeros, so that as many bytes of the reply are
shifted in, and then pulls the reply from the receive buffer; `numParamRead` is an
in/out variable, and the parameter array is returned with the lengths the decoder
left in it.
-/

namespace WiFiNINA

open LengthCode

namespace SpiDrv

/-- The value of a C comparison. -/
def truth (b : Bool) : ℤ := if b then 1 else 0

/-- `SpiDrv_begin`.  The delays between the writes leave no trace. -/
def begin : Prog Bus Unit := do
  Bus.emit (.xSemaphoreCreateBinary .slaveReadyDetected)
  Bus.emit (.resetWrite true)
  Bus.emit (.resetWrite false)
  Bus.emit (.resetWrite true)
  .modify fun b => { b with initialized := true }

/-- `SpiDrv_end` -/
def end' : Prog Bus Unit := do
  Bus.emit (.resetWrite false)
  Bus.emit (.csOverrideWrite false)
  .modify fun b => { b with initialized := false }

/-- `SpiDrv_waitForSlaveReadyTimeout`.  The semaphore is awaited for at most the
timeout; what the call does next is the same in both cases. -/
def waitForSlaveReadyTimeout : Prog Bus Unit := do
  let busy ← Bus.espBusyRead
  if busy then Bus.emit (.xSemaphoreTake .slaveReadyDetected) else pure ()

/-- `SpiDrv_waitForSlaveReady` -/
def waitForSlaveReady : Prog Bus Unit := do
  waitForSlaveReadyTimeout
  -- shouldn't happen
  Bus.espBusySpin

/-- `SpiDrv_spiSlaveSelect` -/
def spiSlaveSelect : Prog Bus Unit := do
  Bus.emit (.csOverrideWrite true)
  waitForSlaveReadyTimeout

/-- `SpiDrv_spiSlaveDeselect` -/
def spiSlaveDeselect : Prog Bus Unit := Bus.emit (.csOverrideWrite false)

/-- `if (!SpiDrv_initialized) SpiDrv_begin();` -/
def beginOnce : Prog Bus Unit := do
  let b ← .read
  if b.initialized then pure () else begin

/-- `SpiDrv_waitForSlaveSelect` -/
def waitForSlaveSelect : Prog Bus Unit := do
  beginOnce
  waitForSlaveReady
  spiSlaveSelect

/-! ## Sending -/

/-- Write consecutive bytes from `txBuffer[j]` on and return the cursor behind them:
`txBuffer[j++] = c` for one byte, `memcpy` for several. -/
def putBytes (j : ℕ) (cs : List UInt8) : Prog Bus ℕ := do
  .modify fun b => { b with txBuffer := b.txBuffer.storeList (txAt j) cs }
  pure (j + cs.length)

/-- The parameter loop of the encoders, with the iterations left. -/
def putParams {L : Type} [LengthCode L UInt8] : ℕ → List (Param L) → ℕ → Prog Bus ℕ
  | 0, _, j => pure j
  | _ + 1, [], j => pure j
  | i + 1, param :: params, j => do
      let j ← putBytes j (encode param.len)
      let cs ← Bus.loadList param.data (toNat param.len)
      let j ← putBytes j cs
      putParams i params j

/-- `while ((j & 3) != 3) txBuffer[j++] = 0;` -/
def putPadding (j : ℕ) : Prog Bus ℕ :=
  if j &&& 3 ≠ 3 then do
    let _ ← putBytes j [0]
    putPadding (j + 1)
  else pure j
termination_by 3 - j % 4
decreasing_by
  have h : j &&& 3 = j % 4 := Nat.and_two_pow_sub_one_eq_mod j 2
  omega

/-- The frame construction shared by the encoders; the result is its length. -/
def buildFrame {L : Type} [LengthCode L UInt8] (cmd numParam : UInt8) (params : List (Param L)) :
    Prog Bus ℕ := do
  let j ← putBytes 0 [startCmd, cmd &&& ~~~replyFlag, numParam]
  let j ← putParams numParam.toNat params j
  let j ← putPadding j
  putBytes j [endCmd]

/-- The body of `SpiDrv_sendCmd` and `SpiDrv_sendBuffer`. -/
def send {L : Type} [LengthCode L UInt8] (cmd numParam : UInt8) (params : List (Param L)) :
    Prog Bus Unit := do
  let j ← buildFrame cmd numParam params
  Bus.clearTxBuffer
  Bus.clearRxBuffer
  waitForSlaveSelect
  Bus.putArray j
  Bus.emit (.xSemaphoreTake .spiTxCompleted)
  spiSlaveDeselect

/-- `SpiDrv_sendCmd` -/
def sendCmd (cmd numParam : UInt8) (params : List TParam) : Prog Bus Unit :=
  send cmd numParam params

/-- `SpiDrv_sendBuffer` -/
def sendBuffer (cmd numParam : UInt8) (params : List TDataParam) : Prog Bus Unit :=
  send cmd numParam params

/-! ## Receiving -/

/-- `SpiDrv_readChar`: an empty receive buffer reads as zero. -/
def readChar : Prog Bus UInt8 :=
  ⟨fun b => match b.rx with
    | [] => (0, { b with reads := b.reads + 1 })
    | c :: rx => (c, { b with rx := rx, reads := b.reads + 1 })⟩

/-- `SpiDrv_readAndCheckChar`; no caller looks at the byte it stores. -/
def readAndCheckChar (checkChar : UInt8) : Prog Bus ℤ := do
  let c ← readChar
  pure (truth (c == checkChar))

/-- The loop of `SpiDrv_waitSpiChar` at a given value of its timeout counter. -/
def waitSpiCharFrom (waitChar : UInt8) : ℕ → Prog Bus ℤ
  | 0 => do
      let c ← readChar
      if c = errCmd then pure (-1) else pure (truth (c == waitChar))
  | timeout + 1 => do
      let c ← readChar
      if c = errCmd then pure (-1)
      else if c = waitChar then pure 1
      else waitSpiCharFrom waitChar timeout

/-- `SpiDrv_waitSpiChar` -/
def waitSpiChar (waitChar : UInt8) : Prog Bus ℤ := waitSpiCharFrom waitChar timeoutChar

/-- The bytes of a length field, in the order received. -/
def readChars : ℕ → Prog Bus (List UInt8)
  | 0 => pure []
  | n + 1 => do
      let c ← readChar
      let cs ← readChars n
      pure (c :: cs)

/-- `for (j = 0; j < len; j++) *buf++ = SpiDrv_readChar();` The result is the final
value of `buf`. -/
def copyChars : ℕ → Ptr Obj → Prog Bus (Ptr Obj)
  | 0, buf => pure buf
  | n + 1, buf => do
      let c ← readChar
      Bus.store buf c
      copyChars n (buf.add 1)

/-- One iteration of the parameter loop of the decoders: the length is clipped to
the capacity less one, and the bytes are followed by a zero. -/
def receiveParam {L : Type} [LengthCode L UInt8] (param : Param L) : Prog Bus (Param L) := do
  let cs ← readChars (width L)
  let len := clip param.len (decode cs)
  let buf ← copyChars (toNat len) param.data
  Bus.store buf 0
  pure { param with len := len }

/-- The parameter loop of the decoders, with the iterations left. -/
def receiveParams {L : Type} [LengthCode L UInt8] :
    ℕ → List (Param L) → Prog Bus (List (Param L))
  | 0, params => pure params
  | _ + 1, [] => pure []
  | i + 1, param :: params => do
      let param ← receiveParam param
      let params ← receiveParams i params
      pure (param :: params)

/-- What a decoder leaves behind: its return value and its out parameters. -/
structure Reply (L : Type) where
  ret : ℤ
  numParamRead : UInt8
  params : List (Param L)

/-- The length of `outParams[i]` after a call. -/
def Reply.lenAt {L : Type} [LengthCode L UInt8] (r : Reply L) (i : ℕ) : ℕ :=
  ((r.params[i]?).map fun p => toNat p.len).getD 0

/-- The transfer at the head of the decoders. -/
def receiveTransfer (maxSize : UInt16) : Prog Bus Unit := do
  let n := if maxSize > spiMaxRxBuffer then spiMaxRxBuffer else maxSize
  Bus.clearTxBuffer
  Bus.clearRxBuffer
  waitForSlaveSelect
  let _ ← putBytes 0 (List.replicate n.toNat 0)
  Bus.putArray n.toNat
  Bus.emit (.xSemaphoreTake .spiTxCompleted)
  spiSlaveDeselect

/-- `if (numParam > maxNumParams) numParam = maxNumParams;` -/
def limitCount (numParam maxNumParams : UInt8) : UInt8 :=
  if numParam > maxNumParams then maxNumParams else numParam

/-- The decoding of the received bytes. -/
def decodeReply {L : Type} [LengthCode L UInt8] (cmd numParamRead : UInt8)
    (params : List (Param L)) (maxNumParams : UInt8) : Prog Bus (Reply L) := do
  let found ← waitSpiChar startCmd
  if found = 0 then pure ⟨0, numParamRead, params⟩ else do
    let same ← readAndCheckChar (cmd ||| replyFlag)
    if same = 0 then pure ⟨0, numParamRead, params⟩ else do
      let numParam ← readChar
      let numParam := limitCount numParam maxNumParams
      if numParam = 0 then pure ⟨0, numParam, params⟩ else do
        let params ← receiveParams numParam.toNat params
        let last ← readAndCheckChar endCmd
        pure ⟨last, numParam, params⟩

/-- The body of `SpiDrv_receiveResponseCmd` and `SpiDrv_receiveResponseBuffer`. -/
def receiveResponse {L : Type} [LengthCode L UInt8] (cmd : UInt8) (maxSize : UInt16)
    (numParamRead : UInt8) (params : List (Param L)) (maxNumParams : UInt8) :
    Prog Bus (Reply L) := do
  receiveTransfer maxSize
  decodeReply cmd numParamRead params maxNumParams

/-- `SpiDrv_receiveResponseCmd` -/
def receiveResponseCmd (cmd : UInt8) (maxSize : UInt16) (numParamRead : UInt8)
    (params : List TParam) (maxNumParams : UInt8) : Prog Bus (Reply UInt8) :=
  receiveResponse cmd maxSize numParamRead params maxNumParams

/-- `SpiDrv_receiveResponseBuffer` -/
def receiveResponseBuffer (cmd : UInt8) (maxSize : UInt16) (numParamRead : UInt8)
    (params : List TDataParam) (maxNumParams : UInt8) : Prog Bus (Reply UInt16) :=
  receiveResponse cmd maxSize numParamRead params maxNumParams

/-- What the functions of the upper drivers have in common: a request, and a reply to the
same command.  Their `paramsRead` is uninitialised. -/
def exchange {L L' : Type} [LengthCode L UInt8] [LengthCode L' UInt8] (cmd numParam : UInt8)
    (inParams : List (Param L)) (maxSize : UInt16) (outParams : List (Param L'))
    (maxNumParams : UInt8) : Prog Bus (Reply L') := do
  send cmd numParam inParams
  let paramsRead ← Bus.uninit .paramsRead 1
  receiveResponse cmd maxSize (paramsRead.headD 0) outParams maxNumParams

end SpiDrv
end WiFiNINA
