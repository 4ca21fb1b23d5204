import WiFiNINA.WiFiClient.Checks
import WiFiNINA.WiFiClient.FailedFetches
import WiFiNINA.WiFiClient.Windows

/-!
# Connected means connected

A check of a connection looks at the length of the window and not at what is in it.  What is in
it was received only as far as the last fetch received bytes: the window is always the whole
block, also after a fetch that was rejected.  So here the addresses of the bytes that a fetch
received are kept beside the run, and a check is right if one of them is in the window, or if
the module was asked for the state of the connection and says that it is up.
-/

namespace WiFiNINA

open LengthCode SpiDrv ServerDrv World WiFiSocketBuffer

/-- The bytes of the payload that a fetch from `b` receives, at most as many as the reply
announces. -/
def payloadBytes (b : Bus) : List UInt8 :=
  if Brings getDatabufTcpCmd (reply wifiSocketBufferSize b) then
    ((firstField (reply wifiSocketBufferSize b)).drop 2).take
      (min (firstLength UInt16 (reply wifiSocketBufferSize b)).toNat 254)
  else []

/-- The addresses of the bytes that were received for socket `s`, after a request from `w`: a
refill puts them at the start of the block, and what was received before is gone then. -/
def Request.receivedAt (s : ℕ) (w : World) (before : List (Ptr Obj)) (r : Request) :
    List (Ptr Obj) :=
  if r.reader = some s ∧ (w.buffers s).length = 0 then
    (place w s).region (payloadBytes w.bus).length
  else before

/-- The addresses of the bytes that were received for socket `s`, after the requests of a run. -/
def receivedAt (s : ℕ) : World → List (Ptr Obj) → List Visit → List (Ptr Obj)
  | _, before, [] => before
  | w, before, v :: vs =>
      receivedAt s (requests.next w v)
        (v.request.receivedAt s { w with bus := v.bus } before) vs

namespace WiFiClient

/-- A byte that was received is in the window of the socket, and not behind a null pointer. -/
def Buffered (s : ℕ) (received : List (Ptr Obj)) (w : World) : Prop :=
  ∃ a ∈ windowOf w s, a ∈ received ∧ a.obj ≠ .null

instance (s : ℕ) (received : List (Ptr Obj)) (w : World) : Decidable (Buffered s received w) :=
  inferInstanceAs (Decidable (∃ a ∈ _, _))

/-- A fetch from `b` receives a byte of data. -/
def BringsByte (b : Bus) : Prop :=
  Brings getDatabufTcpCmd (reply wifiSocketBufferSize b) ∧
    firstLength UInt16 (reply wifiSocketBufferSize b) ≠ 0 ∧
    (firstField (reply wifiSocketBufferSize b)).drop 2 ≠ []

instance (b : Bus) : Decidable (BringsByte b) := inferInstanceAs (Decidable (_ ∧ _))

/-- Exchange number `k` from `b` on brings an accepted answer with the state of a connection
that is up. -/
def ReportsUp (b : Bus) (k : ℕ) : Prop :=
  StateAccepted b k ∧ firstLength UInt8 (replyAt 16 b k) ≠ 0 ∧
    down (((firstField (replyAt 16 b k)).drop 1).headD 0) = false

/-- If the check finds a connection, then a received byte is in the buffer afterwards, or the
buffer was empty, nothing was brought for it, and the module was asked for the state and says
that the connection is up. -/
def SoundlyConnected (sock : UInt8) (received : List (Ptr Obj)) (w : World) : Prop :=
  (connected sock).val w = 1 →
    Buffered sock.toNat ((Request.connected sock).receivedAt sock.toNat w received)
        ((connected sock).state w) ∨
      ((w.buffers sock.toNat).length = 0 ∧ Vacant w.bus 0 ∧ ReportsUp w.bus 1)

section Connected
variable {sock : UInt8} {w : World} {received : List (Ptr Obj)} {b : Bus}

theorem bringsByte_iff : BringsByte b ↔ payloadBytes b ≠ [] := by
  rw [payloadBytes, BringsByte]
  split
  · next hbrings =>
      have hlength : (firstLength UInt16 (reply wifiSocketBufferSize b)).toNat = 0 ↔
          firstLength UInt16 (reply wifiSocketBufferSize b) = 0 := by
        rw [← UInt16.toNat_inj, UInt16.toNat_zero]
      rw [and_iff_right hbrings, ne_eq, ne_eq, ne_eq, List.take_eq_nil_iff, not_or, ← hlength]
      refine and_congr_left' (not_congr ?_)
      omega
  · next hbrings => exact iff_of_false (fun h => hbrings h.1) (not_not.mpr rfl)

theorem BringsByte.not_vacant (h : BringsByte b) : ¬ Vacant b 0 := fun hvacant => h.2.1 hvacant.2

/-- A check with data in the buffer looks no further. -/
theorem soundlyConnected_of_ne (hsock : sock ≠ noSocketAvail)
    (hne : (w.buffers sock.toNat).length ≠ 0) :
    SoundlyConnected sock received w ↔ Buffered sock.toNat received w := by
  obtain ⟨hval, indexed, hstate⟩ := connected_of_ne hsock hne
  rw [SoundlyConnected, hval, hstate, Request.receivedAt, if_neg (not_and_of_not_right _ hne),
    or_iff_left fun h => hne h.1, forall_prop_of_true rfl]
  exact Iff.rfl

/-- What a check with an empty buffer leaves in it, if its fetch receives a byte. -/
theorem windowOf_connected (hsock : sock ≠ noSocketAvail)
    (hzero : (w.buffers sock.toNat).length = 0) (hapart : (w.buffers sock.toNat).Apart)
    (hvacant : ¬ Vacant w.bus 0) :
    windowOf ((connected sock).state w) sock.toNat = (place w sock.toNat).region 255 := by
  have hrefill := refills_place hzero hapart
  have hlength : ((refillState w sock.toNat).buffers sock.toNat).length = 255 := by
    rw [hrefill.length, if_neg hvacant]
  rw [(connected_of_data hsock (by rw [hlength]; decide)).2, windowOf, hlength,
    hrefill.head hvacant]
  rfl

/-- A check with an empty buffer. -/
theorem soundlyConnected_of_zero (hsock : sock ≠ noSocketAvail)
    (hzero : (w.buffers sock.toNat).length = 0) (hapart : (w.buffers sock.toNat).Apart) :
    SoundlyConnected sock received w ↔
      BringsByte w.bus ∧ (place w sock.toNat).obj ≠ .null ∨ Fails w.bus 0 := by
  have hreceived : (Request.connected sock).receivedAt sock.toNat w received =
      (place w sock.toNat).region (payloadBytes w.bus).length := if_pos ⟨rfl, hzero⟩
  rw [SoundlyConnected, hreceived, (checks_of_zero hsock hzero hapart).1]
  by_cases hfails : Fails w.bus 0
  · rw [if_pos hfails]
    exact iff_of_true (fun h => absurd h (by decide)) (.inr hfails)
  · rw [if_neg hfails, forall_prop_of_true rfl, or_iff_left hfails]
    constructor
    · rintro (⟨a, -, harrived, hobj⟩ | ⟨-, hvacant, hup⟩)
      · rw [Ptr.obj_of_mem_region harrived] at hobj
        refine ⟨bringsByte_iff.mpr fun hnone => ?_, hobj⟩
        rw [hnone] at harrived
        exact List.not_mem_nil harrived
      · -- an accepted answer makes the check fail
        exact absurd ⟨hvacant, hup.1⟩ hfails
    · -- the first byte received is the first of the window
      rintro ⟨hbyte, hobj⟩
      have harrived := List.length_pos_iff.mpr (bringsByte_iff.mp hbyte)
      refine .inl ⟨place w sock.toNat, ?_, Ptr.mem_region.mpr ⟨0, harrived, rfl⟩, hobj⟩
      rw [windowOf_connected hsock hzero hapart hbyte.not_vacant]
      exact Ptr.mem_region.mpr ⟨0, by decide, rfl⟩

/-- A block that is not a variable of the library stays so. -/
theorem Request.apart {t : ℕ} (h : (w.buffers t).Apart) (r : Request) :
    ((r.run.state w).buffers t).Apart := by
  have htouches : ∀ {i : ℕ} {w w' : World}, Touches i w w' → (w.buffers t).Apart →
      (w'.buffers t).Apart := by
    intro i w w' htouches h
    by_cases hti : t = i
    · subst hti
      exact htouches.apart h
    · rwa [htouches.buffers t hti]
  cases r with
  | connected sock => exact htouches (touches_connected sock w) h
  | call c =>
      rw [Request.run]
      cases c with
      | available socket => exact htouches (WiFiSocketBuffer.touches_available socket w) h
      | peek socket => exact htouches (touches_peek socket w) h
      | read socket data length => exact htouches (touches_read socket data length w) h
      | readChar sock => exact htouches (touches_readChar sock w) h
      | close socket =>
          rw [Call.state_close]
          exact htouches (touches_close socket w) h
      | deinit =>
          rw [Call.state_deinit]
          exact closeFrom_of_close (I := fun w => (w.buffers t).Apart)
            (fun w hw s _ => htouches (touches_close s w) hw) h (by omega)

theorem apart_requests {t : ℕ} (h : (w.buffers t).Apart) (vs : List Visit) :
    ((requests.exec w vs).buffers t).Apart := by
  induction vs generalizing w with
  | nil => exact h
  | cons v vs ih => exact ih (Request.apart (w := { w with bus := v.bus }) h v.request)

end Connected

/-- **When a check is right**, after any requests for any sockets: if the window still holds a
byte that was received; or it is empty, and the fetch of the check receives a byte and has a
block for it; or it is empty, the fetch brings nothing, and the question for the state is
answered.  In the beginning `before` are the bytes received, after the initialisation none. -/
theorem soundlyConnected_iff {w : World} {sock : UInt8} (hsock : sock.toNat < wifiMaxSockNum)
    (hapart : (w.buffers sock.toNat).Apart) (before : List (Ptr Obj)) (vs : List Visit)
    (b : Bus) :
    SoundlyConnected sock (receivedAt sock.toNat w before vs)
        { requests.exec w vs with bus := b } ↔
      Buffered sock.toNat (receivedAt sock.toNat w before vs) (requests.exec w vs) ∨
        (((requests.exec w vs).buffers sock.toNat).length = 0 ∧
          (BringsByte b ∧ (place (requests.exec w vs) sock.toNat).obj ≠ .null ∨ Fails b 0)) := by
  have hne := ne_noSocketAvail hsock
  by_cases hzero : ((requests.exec w vs).buffers sock.toNat).length = 0
  · have hbuffered :
        ¬ Buffered sock.toNat (receivedAt sock.toNat w before vs) (requests.exec w vs) := by
      rintro ⟨a, ha, -⟩
      rw [windowOf_of_zero hzero] at ha
      exact List.not_mem_nil ha
    rw [or_iff_right hbuffered, and_iff_right hzero]
    exact soundlyConnected_of_zero (w := { requests.exec w vs with bus := b }) hne hzero
      (apart_requests hapart vs)
  · rw [or_iff_left fun h => hzero h.1]
    exact soundlyConnected_of_ne (w := { requests.exec w vs with bus := b }) hne hzero

/-- Two bytes are received, and one of them is read. -/
def oneLeft : List Visit :=
  visits (init.state chatting) [.call (.available 3), .call (.readChar 3)]

/-- The other one is found by a check in front of a silent module. -/
theorem soundlyConnected_oneLeft :
    SoundlyConnected 3 (receivedAt 3 (init.state chatting) [] oneLeft)
      { requests.exec (init.state chatting) oneLeft with bus := World.boot.bus } :=
  (soundlyConnected_iff (by decide) (apart_start chatting 3 (by decide)) [] oneLeft
    World.boot.bus).mpr (.inl (by decide +kernel))

/-- The reply to a fetch is rejected. -/
def refuses : Visit := ⟨.call (.available 3), Bus.fresh fun _ => [startCmd, 0]⟩

/-- An empty payload and no answer about the connection; and, after a fetch whose reply was
rejected, a check that makes no exchange. -/
theorem not_soundlyConnected :
    ¬ SoundlyConnected 3 [] (World.bootWith fun k => if k = 1 then
        [startCmd, getDatabufTcpCmd ||| replyFlag, 1, 0, 0, endCmd] else [startCmd, 0]) ∧
      ¬ SoundlyConnected 3 (receivedAt 3 (init.state World.boot) [] [refuses])
        (requests.exec (init.state World.boot) [refuses]) := by
  have hsock : (3 : UInt8) ≠ noSocketAvail := by decide
  constructor
  · rw [soundlyConnected_of_zero hsock rfl Entry.apart_empty]
    decide
  · rw [soundlyConnected_of_ne hsock (by decide +kernel)]
    decide +kernel

end WiFiClient

end WiFiNINA
