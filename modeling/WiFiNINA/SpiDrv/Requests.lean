import Mathlib.Order.Bounds.Defs
import WiFiNINA.SpiDrv.Exchange

/-!
# Requests on the wire

What the module sees of a request: a well-formed frame from which the command, up
to its reply bit, and every parameter can be recovered.  Nothing is assumed about
the parameter bytes, which may look like any part of a frame.
-/

namespace WiFiNINA

open LengthCode

/-- The form of a request: start byte, command without its reply bit, parameter
count, the parameters behind their lengths, at most three zeros, end byte. -/
structure WellFormedFrame (L : Type) [LengthCode L UInt8] (cmd : UInt8) (xs : List (List UInt8))
    (f : List UInt8) : Prop where
  start : f.head? = some startCmd
  last : f.getLast? = some endCmd
  aligned : 4 ∣ f.length
  layout : ∃ zeros ≤ 3, f = [startCmd, cmd &&& ~~~replyFlag, UInt8.ofNat xs.length] ++
    fields L xs ++ List.replicate zeros 0 ++ [endCmd]

section Frame
variable {L : Type} [LengthCode L UInt8] {cmd cmd' : UInt8} {xs ys : List (List UInt8)}

theorem frame_wellFormed (cmd : UInt8) (xs : List (List UInt8)) :
    WellFormedFrame L cmd xs (frame L cmd xs) where
  start := rfl
  last := by rw [frame, List.getLast?_concat]
  aligned := by
    rw [length_frame, padding]
    omega
  layout := ⟨_, by rw [padding]; omega, rfl⟩

/-- A frame that fits has a parameter count that fits its byte. -/
theorem Fits.length_lt (h : Fits L xs) : xs.length < 256 := by
  have := length_le_fieldsSize_self L xs
  rw [fits_iff] at h
  omega

/-- **Unambiguity.** Equal frames carry the same command, up to the reply bit, and the
same parameters. -/
theorem frame_inj (hx : xs.length < 256) (hy : ys.length < 256)
    (hxs : ∀ x ∈ xs, x.length < bound L) (hys : ∀ y ∈ ys, y.length < bound L)
    (h : frame L cmd xs = frame L cmd' ys) :
    cmd &&& 0x7F = cmd' &&& 0x7F ∧ xs = ys := by
  simp only [frame, List.cons_append, List.nil_append, List.append_assoc, List.cons.injEq,
    true_and] at h
  obtain ⟨hcmd, hcount, hbody⟩ := h
  have hlen : xs.length = ys.length := by
    have hnat := congrArg UInt8.toNat hcount
    rwa [UInt8.toNat_ofNat_of_lt' hx, UInt8.toNat_ofNat_of_lt' hy] at hnat
  exact ⟨hcmd, (fields_append_inj L hlen hxs hys hbody).1⟩

end Frame

namespace SpiDrv

/-- What the module can rely on in an encoder's requests. -/
def FaithfulRequests (L : Type) [LengthCode L UInt8]
    (send : UInt8 → UInt8 → List (Param L) → Prog Bus Unit) : Prop :=
  ∀ (cmd : UInt8) (params : List (Param L)) (b : Bus),
    Fits L (params.map fun p => p.bytes b.mem) →
    ∃ f, ((send cmd (UInt8.ofNat params.length) params).state b).transmitted =
        b.transmitted ++ [f] ∧
      WellFormedFrame L cmd (params.map fun p => p.bytes b.mem) f ∧
      ∀ (cmd' : UInt8) (params' : List (Param L)) (b' : Bus),
        Fits L (params'.map fun p => p.bytes b'.mem) →
        ((send cmd' (UInt8.ofNat params'.length) params').state b').transmitted =
          b'.transmitted ++ [f] →
        cmd &&& 0x7F = cmd' &&& 0x7F ∧ params.map Param.len = params'.map Param.len ∧
          (params.map fun p => p.bytes b.mem) = params'.map fun p => p.bytes b'.mem

variable {L : Type} [LengthCode L UInt8]

theorem faithfulRequests_send : FaithfulRequests L (send (L := L)) := by
  intro cmd params b hfits
  have hcount : ∀ (ps : List (Param L)) (c : Bus), Fits L (ps.map fun p => p.bytes c.mem) →
      ps.length = (UInt8.ofNat ps.length).toNat := by
    intro ps c h
    have hlt := h.length_lt
    rw [List.length_map] at hlt
    rw [UInt8.toNat_ofNat_of_lt' hlt]
  refine ⟨_, transmitted_send _ _ _ _ (hcount params b hfits), frame_wellFormed _ _, ?_⟩
  intro cmd' params' b' hfits' hsame
  rw [transmitted_send _ _ _ _ (hcount params' b' hfits')] at hsame
  have hframe := List.singleton_injective (List.append_cancel_left hsame)
  obtain ⟨hcmd, hbytes⟩ := frame_inj hfits'.length_lt hfits.length_lt
    (bytes_length_lt params' b'.mem) (bytes_length_lt params b.mem) hframe
  refine ⟨hcmd.symm, ?_, hbytes.symm⟩
  have hlens : ∀ (ps : List (Param L)) (c : Bus),
      ps.map Param.len = (ps.map fun p => p.bytes c.mem).map fun x => ofNat x.length := by
    intro ps c
    simp [List.map_map, Function.comp_def]
  rw [hlens params b, hlens params' b', hbytes]

/-- **Requests are well formed and unambiguous** in both framings: from the frame that
goes out one recovers the command, up to its reply bit, and the number, the lengths
and the bytes of the parameters. -/
theorem requests_faithful :
    FaithfulRequests UInt8 sendCmd ∧ FaithfulRequests UInt16 sendBuffer :=
  ⟨faithfulRequests_send, faithfulRequests_send⟩

/-- A text of three bytes and a port. -/
def textAndPort : List TParam := [⟨3, ⟨.user 0, 0⟩⟩, ⟨2, ⟨.user 1, 1⟩⟩]

/-- Memory in which they are `abc` and 80. -/
def abcBus : Bus :=
  let b := Bus.fresh fun _ => []
  { b with mem := (b.mem.storeList ⟨.user 0, 0⟩ [97, 98, 99]).storeList ⟨.user 1, 1⟩ [80, 0] }

theorem fits_textAndPort : Fits UInt8 (textAndPort.map fun p => p.bytes abcBus.mem) := by
  rw [Fits]
  decide

theorem requests_faithful_textAndPort :
    ∃ f, ((sendCmd startClientTcpCmd 2 textAndPort).state abcBus).transmitted = [f] ∧
      WellFormedFrame UInt8 startClientTcpCmd [[97, 98, 99], [80, 0]] f := by
  obtain ⟨f, hf, hwellFormed, -⟩ :=
    requests_faithful.1 startClientTcpCmd textAndPort abcBus fits_textAndPort
  exact ⟨f, hf, hwellFormed⟩

/-! ## What there is room for -/

/-- A call of an encoder from `b` whose announced parameters take `n` bytes: it stays inside
`txBuffer` as long as the end of the parameters does not come to lie behind index 251. -/
structure ExactCapacity (send : UInt8 → UInt8 → List (Param L) → Prog Bus Unit)
    (cmd numParam : UInt8) (params : List (Param L)) (n : ℕ) (b : Bus) : Prop where
  /-- The frame comes to an end, at the first multiple of four behind its end byte. -/
  built : IsLeast {k | 4 ∣ k ∧ 4 + n ≤ k} ((buildFrame cmd numParam params).val b)
  bounded : (∀ a ∈ ((send cmd numParam params).state b).txBuffer.since b.txBuffer,
      a.off < spiMaxTxBuffer) ↔ 3 + n ≤ 251
  handed : 3 + n ≤ 251 → ∃ f,
    ((send cmd numParam params).state b).transmitted = b.transmitted ++ [f] ∧
      IsLeast {k | 4 ∣ k ∧ 4 + n ≤ k} f.length ∧ f.length ≤ 252

/-- The padding rounds up to a multiple of four. -/
theorem isLeast_length_frame (cmd : UInt8) (xs : List (List UInt8)) :
    IsLeast {k | 4 ∣ k ∧ 4 + fieldsSize L xs ≤ k} (frame L cmd xs).length := by
  rw [length_frame, padding]
  constructor
  · constructor <;> omega
  · intro k hk
    obtain ⟨hdvd, hle⟩ := hk
    omega

/-- The indices stored to are those of the frame, from the first to the last. -/
theorem bounded_iff_fits (cmd : UInt8) (xs : List (List UInt8)) (m : Memory Unit UInt8) :
    (∀ a ∈ (m.storeList (txAt 0) (frame L cmd xs)).since m, a.off < spiMaxTxBuffer) ↔
      Fits L xs := by
  have hlen := length_frame L cmd xs
  rw [fits_iff_length L cmd, Memory.since_storeList]
  constructor
  · intro h
    have hlast := h ((txAt 0).add ((frame L cmd xs).length - 1))
      (List.mem_reverse.mpr (Ptr.mem_region.mpr ⟨_, by omega, rfl⟩))
    rw [Ptr.off_add, show (txAt 0).off = 0 from rfl] at hlast
    omega
  · intro h a ha
    exact (off_lt_of_mem_region ha).trans_le h

theorem exactCapacity_send (cmd numParam : UInt8) (params : List (Param L)) (b : Bus)
    (hn : numParam.toNat ≤ params.length) :
    ExactCapacity (send (L := L)) cmd numParam params
      (paramsSize (params.take numParam.toNat)) b := by
  have hlen : (params.take numParam.toNat).length = numParam.toNat := by
    rw [List.length_take, Nat.min_eq_left hn]
  -- what stands behind the announced parameters is not looked at
  have hbuild : buildFrame cmd numParam params =
      buildFrame cmd numParam (params.take numParam.toNat) := by
    simp only [buildFrame, putParams_take]
  obtain ⟨hval, -⟩ := run_buildFrame cmd numParam _ b hlen
  have hleast := isLeast_length_frame (L := L) cmd
    ((params.take numParam.toNat).map fun p => p.bytes b.mem)
  rw [fieldsSize_bytes] at hleast
  refine ⟨by rwa [hbuild, hval], ?_, fun hfits => ?_⟩
  · rw [← send_take, txBuffer_send _ _ _ _ hlen, bounded_iff_fits, fits_iff, fieldsSize_bytes]
  · refine ⟨_, by rw [← send_take, transmitted_send _ _ _ _ hlen], hleast, ?_⟩
    rw [length_frame, fieldsSize_bytes, padding]
    omega

/-- **The exact capacity of the transmit buffer**, in both framings. -/
theorem transmit_capacity :
    (∀ (cmd numParam : UInt8) (params : List TParam) (b : Bus),
      numParam.toNat ≤ params.length →
      ExactCapacity sendCmd cmd numParam params
        ((params.take numParam.toNat).map fun p => 1 + p.len.toNat).sum b) ∧
    ∀ (cmd numParam : UInt8) (params : List TDataParam) (b : Bus),
      numParam.toNat ≤ params.length →
      ExactCapacity sendBuffer cmd numParam params
        ((params.take numParam.toNat).map fun p => 2 + p.len.toNat).sum b :=
  ⟨exactCapacity_send, exactCapacity_send⟩

/-- One byte, in both framings. -/
theorem transmit_capacity_one :
    ExactCapacity sendCmd getClientStateTcpCmd 1 [(⟨1, ⟨.user 0, 0⟩⟩ : TParam)] 2
        (Bus.fresh fun _ => []) ∧
      ExactCapacity sendBuffer getClientStateTcpCmd 1 [(⟨1, ⟨.user 0, 0⟩⟩ : TDataParam)] 3
        (Bus.fresh fun _ => []) :=
  ⟨transmit_capacity.1 _ _ [⟨1, ⟨.user 0, 0⟩⟩] _ le_rfl,
    transmit_capacity.2 _ _ [⟨1, ⟨.user 0, 0⟩⟩] _ le_rfl⟩

end SpiDrv
end WiFiNINA
