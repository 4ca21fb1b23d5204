import WiFiNINA.World

/-!
# WiFiSocketBuffer.c

One receive buffer for each socket: a block that is allocated by the first fetch and
kept until the socket is closed, and the window of it that is still unread.
-/

namespace WiFiNINA

open World

namespace WiFiSocketBuffer

/-- `WiFiSocketBuffer_init` -/
def init : Prog World Unit :=
  .modify fun w =>
    { w with buffers := fun s => if s < wifiMaxSockNum then .empty else w.buffers s }

/-- `WiFiSocketBuffer_close` -/
def close (socket : ℕ) : Prog World Unit := do
  let e ← entry socket
  if e.data ≠ nullPtr then do
    free e.data
    setEntry socket .empty
  else pure ()

/-- The loop of `WiFiSocketBuffer_deinit`: `n` sockets from `i` on. -/
def closeFrom : ℕ → ℕ → Prog World Unit
  | 0, _ => pure ()
  | n + 1, i => do
      close i
      closeFrom n (i + 1)

/-- `WiFiSocketBuffer_deinit` -/
def deinit : Prog World Unit := closeFrom wifiMaxSockNum 0

/-- `if (_buffers[socket].data == NULL) { … }` -/
def allocate (socket : ℕ) : Prog World Unit := do
  let e ← entry socket
  if e.data = nullPtr then do
    let p ← malloc wifiSocketBufferSize.toNat
    setEntry socket ⟨p, p, 0⟩
  else pure ()

/-- `if (_buffers[socket].length == 0) { … }`: the local `size` tells
`ServerDrv_getDataBuf` how much to fetch, and becomes the length of the window. -/
def refill (socket : ℕ) : Prog World Unit := do
  let e ← entry socket
  if e.length = 0 then do
    allocate socket
    let size ← onBus (Bus.auto .size (le16 wifiSocketBufferSize))
    let e ← entry socket
    let got ← onBus (ServerDrv.getDataBuf (UInt8.ofNat socket) e.data size)
    if got ≠ 0 then do
      let bytes ← onBus (Bus.loadList size 2)
      setEntry socket { e with head := e.data, length := ofLe bytes }
    else pure ()
  else pure ()

/-- `WiFiSocketBuffer_available` -/
def available (socket : ℕ) : Prog World ℤ := do
  refill socket
  let e ← entry socket
  pure e.length

/-- `WiFiSocketBuffer_peek` -/
def peek (socket : ℕ) : Prog World ℤ := do
  let avail ← available socket
  if avail = 0 then pure (-1) else do
    let e ← entry socket
    let bytes ← onBus (Bus.loadList e.head 1)
    pure (ofLe bytes)

/-- `if (avail < (int) length) { length = avail; }` -/
def clipLength (avail : ℤ) (length : UInt32) : UInt32 :=
  if avail < toInt length then toSize avail else length

/-- `WiFiSocketBuffer_read` -/
def read (socket : ℕ) (data : Ptr Obj) (length : UInt32) : Prog World ℤ := do
  let avail ← available socket
  if avail = 0 then pure 0 else do
    let length := clipLength avail length
    let e ← entry socket
    let bytes ← onBus (Bus.loadList e.head length.toNat)
    onBus (Bus.storeList data bytes)
    setEntry socket
      { e with
        head := e.head.add length.toNat
        length := toInt (toSize e.length - length) }
    pure (toInt length)

end WiFiSocketBuffer
end WiFiNINA
