import WiFiNINA.SpiDrv.Replies
import WiFiNINA.SpiDrv.Requests

/-!
# Encoder and decoder against each other, and against their own past

The decoders know the layout the encoders write except for the padding, so they
return what was written but accept a frame only if it needed none.  Neither side
keeps anything from one call to the next: what is transmitted, returned and stored
is a function of the call and of the bytes shifted in during it.
-/

namespace WiFiNINA

open LengthCode

/-- A request turned into a reply: the reply bit is set in the command byte. -/
def asReply (f : List UInt8) : List UInt8 := f.modify 1 (· ||| replyFlag)

theorem masked_or_replyFlag (cmd : UInt8) :
    (cmd &&& ~~~replyFlag) ||| replyFlag = cmd ||| replyFlag := by
  apply UInt8.eq_of_toBitVec_eq
  ext i hi
  simp only [UInt8.toBitVec_or, UInt8.toBitVec_and, UInt8.toBitVec_not, BitVec.getElem_or,
    BitVec.getElem_and, BitVec.getElem_not]
  cases cmd.toBitVec[i] <;> cases replyFlag.toBitVec[i] <;> rfl

section Parse
variable {L : Type} [LengthCode L UInt8] {xs : List (List UInt8)}

theorem asReply_frame (L : Type) [LengthCode L UInt8] (cmd : UInt8) (xs : List (List UInt8)) :
    asReply (frame L cmd xs) = startCmd :: (cmd ||| replyFlag) :: UInt8.ofNat xs.length ::
      (fields L xs ++ (List.replicate (padding (fieldsSize L xs)) 0 ++ [endCmd])) := by
  simp [asReply, frame, masked_or_replyFlag]

/-- The padding is empty exactly if the parameters take a multiple of four bytes. -/
theorem padding_eq_zero_iff (n : ℕ) : padding n = 0 ↔ 4 ∣ n := by
  rw [padding]
  omega

/-- The decoders look for the end byte where the encoders start to pad. -/
theorem headD_padding (n : ℕ) (rest : List UInt8) :
    (List.replicate (padding n) 0 ++ endCmd :: rest).headD 0 = endCmd ↔ 4 ∣ n := by
  rw [← padding_eq_zero_iff]
  cases hpad : padding n with
  | zero => simp
  | succ k => simp [List.replicate_succ, endCmd]

/-- Parsing an encoder's frame, preceded by bytes the search skips. -/
theorem parseReply_asReply_frame (cmd maxNumParams : UInt8) (caps : List L)
    {junk : List UInt8} (rest : List UInt8)
    (hjunk : ∀ c ∈ junk, c ≠ startCmd ∧ c ≠ errCmd) (hlen : junk.length ≤ timeoutChar)
    (hcount : xs.length ≤ maxNumParams.toNat)
    (hfit : List.Forall₂ (fun x cap => x.length < toNat cap) xs (caps.take xs.length))
    (hbound : ∀ x ∈ xs, x.length < bound L) :
    (parseReply cmd maxNumParams caps (junk ++ asReply (frame L cmd xs) ++ rest)).count =
        some (UInt8.ofNat xs.length) ∧
      (parseReply cmd maxNumParams caps (junk ++ asReply (frame L cmd xs) ++ rest)).payloads =
        xs ∧
      ((parseReply cmd maxNumParams caps (junk ++ asReply (frame L cmd xs) ++ rest)).ret = 1 ↔
        1 ≤ xs.length ∧ 4 ∣ fieldsSize L xs) := by
  have hbyte : (UInt8.ofNat xs.length).toNat = xs.length :=
    UInt8.toNat_ofNat_of_lt' (hcount.trans_lt maxNumParams.toNat_lt)
  have hzero : UInt8.ofNat xs.length = 0 ↔ xs = [] := by
    rw [← UInt8.toNat_inj, hbyte, UInt8.toNat_zero, List.length_eq_zero_iff]
  rw [asReply_frame, List.append_assoc, List.cons_append, List.cons_append, List.cons_append,
    parseReply_header _ _ hjunk hlen, SpiDrv.limitCount_ofNat hcount]
  by_cases hnil : xs = []
  · subst hnil
    exact ⟨rfl, rfl, by simp⟩
  · have hpos : 1 ≤ xs.length := List.length_pos_iff.mpr hnil
    simp only [hzero, hnil, if_false, hbyte, List.append_assoc,
      takeFields_fields 0 hfit hbound, List.singleton_append]
    have hdrop : ∀ t : List UInt8, (fields L xs ++ t).drop (fieldsSize L xs) = t := by
      intro t
      rw [← length_fields L xs, List.drop_left]
    rw [hdrop, SpiDrv.truth_eq_one, beq_iff_eq, headD_padding]
    exact ⟨trivial, trivial, by simp [hpos]⟩

end Parse

namespace SpiDrv

/-- A call of a decoder from `c`, with result `r` and final state `c'`, has recovered the
parameters `xs` of a frame. -/
structure Recovered {L : Type} [LengthCode L UInt8] (xs : List (List UInt8))
    (outs : List (Param L)) (c : Bus) (r : Reply L) (c' : Bus) : Prop where
  count : r.numParamRead.toNat = xs.length
  /-- The stores are the bytes of each parameter and a zero, in order. -/
  stored : c'.mem = storeParams c.mem outs xs
  params : ∀ i, (hi : i < xs.length) → ∃ p p', outs[i]? = some p ∧ r.params[i]? = some p' ∧
    p'.data = p.data ∧ toNat p'.len = xs[i].length ∧
    (Separated outs → c'.mem.loadList p.data (xs[i].length + 1) = xs[i] ++ [0])
  /-- The remaining parameters are untouched. -/
  rest : r.params.drop xs.length = outs.drop xs.length
  frame : ∀ q, (∀ p ∈ outs.take xs.length, q ∉ p.dest) → c'.mem.load q = c.mem.load q
  /-- The frame is accepted exactly if it has a parameter and needed no padding. -/
  accepted : r.ret = 1 ↔ 1 ≤ xs.length ∧ 4 ∣ (xs.map fun x => width L + x.length).sum
  verdict : r.ret = 0 ∨ r.ret = 1

/-- A decoder inverts an encoder, up to the padding: whatever the module sends before
and behind, it recovers the number, the lengths and the bytes of the parameters, and
accepts the frame exactly if it has parameters and needed no padding. -/
def RoundTrip (L : Type) [LengthCode L UInt8]
    (send : UInt8 → UInt8 → List (Param L) → Prog Bus Unit)
    (receive : UInt8 → UInt16 → UInt8 → List (Param L) → UInt8 → Prog Bus (Reply L)) : Prop :=
  ∀ (cmd : UInt8) (ins : List (Param L)) (b : Bus),
    Fits L (ins.map fun p => p.bytes b.mem) →
    ∃ f, ((send cmd (UInt8.ofNat ins.length) ins).state b).transmitted =
        b.transmitted ++ [f] ∧
      ∀ (maxSize : UInt16) (numParamRead : UInt8) (outs : List (Param L)) (maxNumParams : UInt8)
        (junk rest : List UInt8) (c : Bus),
        ins.length ≤ maxNumParams.toNat → maxNumParams.toNat ≤ outs.length →
        List.Forall₂ (fun p q => toNat p.len < toNat q.len) ins (outs.take ins.length) →
        (∀ x ∈ junk, x ≠ startCmd ∧ x ≠ errCmd) →
        junk.length + f.length ≤ window maxSize →
        c.slave 0 = junk ++ asReply f ++ rest →
        Recovered (ins.map fun p => p.bytes b.mem) outs c
          ((receive cmd maxSize numParamRead outs maxNumParams).val c)
          ((receive cmd maxSize numParamRead outs maxNumParams).state c)

section
variable {L : Type} [LengthCode L UInt8]

theorem roundTrip_receiveResponse :
    RoundTrip L (send (L := L)) (receiveResponse (L := L)) := by
  intro cmd ins b hfits
  have hins : (ins.map fun p => p.bytes b.mem).length = ins.length := List.length_map _
  have hcount : ins.length = (UInt8.ofNat ins.length).toNat := by
    have hlt := hfits.length_lt
    rw [hins] at hlt
    rw [UInt8.toNat_ofNat_of_lt' hlt]
  refine ⟨_, transmitted_send _ _ _ _ hcount, ?_⟩
  intro maxSize numParamRead outs maxNumParams junk rest c hn hmax hcaps hjunk hwindow hslave
  set xs := ins.map fun p => p.bytes b.mem with hxs
  have hfit : List.Forall₂ (fun x (p : Param L) => x.length < toNat p.len) xs
      (outs.take xs.length) := by
    rw [hins, hxs, List.forall₂_map_left_iff]
    simpa using hcaps
  -- the window shows the frame and a part of what follows it
  obtain ⟨rest', hreceived⟩ : ∃ rest', received maxSize c =
      junk ++ asReply (frame L cmd xs) ++ rest' := by
    have hlen : (junk ++ asReply (frame L cmd xs)).length ≤ window maxSize := by
      simpa [asReply] using hwindow
    exact ⟨_, by rw [received, hslave, List.take_append, List.take_of_length_le hlen]⟩
  have hskip : junk.length ≤ timeoutChar := by
    have : window maxSize ≤ 255 := Nat.min_le_right _ _
    rw [timeoutChar]
    omega
  obtain ⟨hnum, hpayloads, hret⟩ := parseReply_asReply_frame cmd maxNumParams
    (outs.map Param.len) rest' hjunk hskip (by rwa [hins])
    (by rw [← List.map_take, List.forall₂_map_right_iff]; exact hfit)
    (bytes_length_lt ins b.mem)
  rw [← hreceived] at hnum hpayloads hret
  have hval := val_receiveResponse cmd maxSize numParamRead outs maxNumParams c hmax
  have hmem := mem_receiveResponse cmd maxSize numParamRead outs maxNumParams c hmax
  simp only [parsed, hnum, hpayloads, Option.getD_some] at hval hmem
  refine ⟨?_, hmem, fun i hi => ?_, ?_, ?_, ?_, ?_⟩
  · rw [hval, hins]
    exact hcount.symm
  · rw [hval, hmem]
    obtain ⟨p, p', hp, hp', hdata, -, hlen, hread⟩ := processed_slice c.mem hfit hi
    exact ⟨p, p', hp, hp', hdata, hlen, fun hsep => hlen ▸ hread hsep⟩
  · rw [hval]
    exact drop_setLens
  · rw [hmem]
    exact fun q => load_storeParams_of_notMem_dest c.mem hfit
  · rw [hval]
    exact hret
  · rw [hval]
    exact parseReply_ret _ _ _ _

end

/-- **Where encoder and decoder agree**, in both framings. -/
theorem frames_roundTrip :
    RoundTrip UInt8 sendCmd receiveResponseCmd ∧
      RoundTrip UInt16 sendBuffer receiveResponseBuffer :=
  ⟨roundTrip_receiveResponse, roundTrip_receiveResponse⟩

/-- A module that sends a request back, among other bytes. -/
def echo : Bus :=
  Bus.fresh fun _ =>
    [7] ++ asReply (frame UInt8 startClientTcpCmd [[97, 98, 99], [80, 0]]) ++ [1]

theorem frames_roundTrip_echo :
    Recovered [[97, 98, 99], [80, 0]] twoBuffers echo
      ((receiveResponseCmd startClientTcpCmd 48 0 twoBuffers 2).val echo)
      ((receiveResponseCmd startClientTcpCmd 48 0 twoBuffers 2).state echo) := by
  obtain ⟨f, hf, hrecovers⟩ :=
    frames_roundTrip.1 startClientTcpCmd textAndPort abcBus fits_textAndPort
  have hsent : ((sendCmd startClientTcpCmd 2 textAndPort).state abcBus).transmitted =
      [frame UInt8 startClientTcpCmd [[97, 98, 99], [80, 0]]] := transmitted_send _ _ _ _ rfl
  obtain rfl : f = frame UInt8 startClientTcpCmd [[97, 98, 99], [80, 0]] :=
    List.head_eq_of_cons_eq (hf.symm.trans hsent)
  exact hrecovers 48 0 twoBuffers 2 [7] [1] echo (by decide) (by decide)
    (.cons (by decide) (.cons (by decide) .nil)) (by decide +kernel) (by decide +kernel) rfl

/-! ## Isolation from history -/

/-- Two runs of one call of an encoder, from any two states that agree on the bytes its
parameters point to, transmit the same bytes, and only bytes the call itself wrote. -/
def IsolatedRequests (L : Type) [LengthCode L UInt8]
    (send : UInt8 → UInt8 → List (Param L) → Prog Bus Unit) : Prop :=
  ∀ (cmd numParam : UInt8) (params : List (Param L)) (b c : Bus),
    params.length = numParam.toNat → (∀ p ∈ params, p.bytes b.mem = p.bytes c.mem) →
    Fits L (params.map fun p => p.bytes b.mem) →
    ∃ f, ((send cmd numParam params).state b).transmitted = b.transmitted ++ [f] ∧
      ((send cmd numParam params).state c).transmitted = c.transmitted ++ [f] ∧
      (∀ i < f.length,
        txAt i ∈ ((send cmd numParam params).state b).txBuffer.since b.txBuffer) ∧
      ∀ i < f.length,
        txAt i ∈ ((send cmd numParam params).state c).txBuffer.since c.txBuffer

/-- Two runs of one call of a decoder transmit zeros only and, when the same bytes are
shifted in during the call, return the same and leave the same bytes wherever the
memories agreed. -/
def IsolatedReplies (L : Type) [LengthCode L UInt8]
    (receive : UInt8 → UInt16 → UInt8 → List (Param L) → UInt8 → Prog Bus (Reply L)) : Prop :=
  ∀ (cmd : UInt8) (maxSize : UInt16) (numParamRead : UInt8) (params : List (Param L))
    (maxNumParams : UInt8) (b c : Bus), maxNumParams.toNat ≤ params.length →
    (∃ n, ((receive cmd maxSize numParamRead params maxNumParams).state b).transmitted =
        b.transmitted ++ [List.replicate n 0] ∧
      ((receive cmd maxSize numParamRead params maxNumParams).state c).transmitted =
        c.transmitted ++ [List.replicate n 0]) ∧
    (received maxSize b = received maxSize c →
      (receive cmd maxSize numParamRead params maxNumParams).val b =
        (receive cmd maxSize numParamRead params maxNumParams).val c ∧
      ∀ q, b.mem.load q = c.mem.load q →
        ((receive cmd maxSize numParamRead params maxNumParams).state b).mem.load q =
          ((receive cmd maxSize numParamRead params maxNumParams).state c).mem.load q)

section Isolation
variable {L : Type} [LengthCode L UInt8]

/-- A call writes every index of `txBuffer` that it transmits. -/
theorem written_send (cmd numParam : UInt8) (params : List (Param L)) (b : Bus)
    (hn : params.length = numParam.toNat) {i : ℕ}
    (hi : i < (frame L cmd (params.map fun p => p.bytes b.mem)).length) :
    txAt i ∈ ((send cmd numParam params).state b).txBuffer.since b.txBuffer := by
  rw [txBuffer_send _ _ _ _ hn, Memory.since_storeList, List.mem_reverse, Ptr.mem_region]
  exact ⟨i, hi, by simp⟩

theorem isolatedRequests_send : IsolatedRequests L (send (L := L)) := by
  intro cmd numParam params b c hn hagree _
  have hbytes : (params.map fun p => p.bytes b.mem) = params.map fun p => p.bytes c.mem :=
    List.map_congr_left hagree
  refine ⟨_, transmitted_send _ _ _ b hn, ?_, fun i hi => written_send _ _ _ b hn hi,
    fun i hi => written_send _ _ _ c hn ?_⟩
  · rw [hbytes]
    exact transmitted_send _ _ _ c hn
  · rwa [← hbytes]

theorem isolatedReplies_receiveResponse :
    IsolatedReplies L (receiveResponse (L := L)) := by
  intro cmd maxSize numParamRead params maxNumParams b c hmax
  refine ⟨⟨window maxSize, transmitted_receiveResponse _ _ _ _ _ _ hmax,
    transmitted_receiveResponse _ _ _ _ _ _ hmax⟩, ?_⟩
  intro hsame
  have hparsed : parsed cmd maxSize params maxNumParams b =
      parsed cmd maxSize params maxNumParams c := by
    rw [parsed, hsame, parsed]
  rw [val_receiveResponse _ _ _ _ _ _ hmax, val_receiveResponse _ _ _ _ _ _ hmax,
    mem_receiveResponse _ _ _ _ _ _ hmax, mem_receiveResponse _ _ _ _ _ _ hmax, hparsed]
  exact ⟨rfl, fun q hq => load_storeParams_congr params _ hq⟩

end Isolation

/-- **Exchanges are isolated from history**, in both framings. -/
theorem exchanges_isolated :
    (IsolatedRequests UInt8 sendCmd ∧ IsolatedRequests UInt16 sendBuffer) ∧
      IsolatedReplies UInt8 receiveResponseCmd ∧
      IsolatedReplies UInt16 receiveResponseBuffer :=
  ⟨⟨isolatedRequests_send, isolatedRequests_send⟩, isolatedReplies_receiveResponse,
    isolatedReplies_receiveResponse⟩

/-- The same reply behind an earlier request, with other bytes in memory. -/
def fullReplyAgain : Bus :=
  { (sendCmd startClientTcpCmd 2 textAndPort).state abcBus with slave := fullReply.slave }

theorem exchanges_isolated_fullReplyAgain :
    (receiveResponseCmd getRemoteDataCmd 48 0 twoBuffers 2).val fullReply =
      (receiveResponseCmd getRemoteDataCmd 48 0 twoBuffers 2).val fullReplyAgain :=
  ((exchanges_isolated.2.1 getRemoteDataCmd 48 0 twoBuffers 2 fullReply fullReplyAgain
    (by decide)).2 rfl).1

end SpiDrv
end WiFiNINA
