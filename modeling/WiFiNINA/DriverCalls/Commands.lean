import WiFiNINA.DriverCalls
import WiFiNINA.SpiDrv.RoundTrip

/-!
# The command that is awaited

A reply is taken for an answer only if its command byte is that of the command awaited.
Every function writes that command a second time, behind the one it sends.
-/

namespace WiFiNINA

open LengthCode SpiDrv

/-- The command byte of a frame. -/
def commandByte (f : List UInt8) : UInt8 := f.getD 1 0

@[simp] theorem commandByte_frame {L : Type} [LengthCode L UInt8] (cmd : UInt8)
    (xs : List (List UInt8)) : commandByte (frame L cmd xs) = cmd &&& ~~~replyFlag := rfl

/-- To every request among the transfers `new` the module shifts out the start byte and the
command byte of the request with the reply bit set, whatever comes then. -/
def Headed (slave : ℕ → List UInt8) (new : List (List UInt8)) : Prop :=
  ∀ k, 2 * k + 1 < new.length → ∃ rest, slave (2 * k + 1) =
    startCmd :: (commandByte (new.getD (2 * k) []) ||| replyFlag) :: rest

/-- From `b` to `b'` there were requests and replies in turn, and if the module answered each
request, the decoder read on behind the command byte of each reply. -/
def Delivers (b b' : Bus) : Prop :=
  ∃ n new, b'.transmitted = b.transmitted ++ new ∧ new.length = 2 * n ∧
    b'.slave = (fun k => b.slave (k + 2 * n)) ∧
    (Headed b.slave new → b.reads + 3 * n ≤ b'.reads)

theorem Headed.append {slave : ℕ → List UInt8} {new new' : List (List UInt8)} {n : ℕ}
    (h : Headed slave (new ++ new')) (hn : new.length = 2 * n) :
    Headed slave new ∧ Headed (fun k => slave (k + 2 * n)) new' := by
  refine ⟨fun k hk => ?_, fun k hk => ?_⟩
  · obtain ⟨rest, hrest⟩ := h k (by rw [List.length_append]; omega)
    rw [List.getD_append _ _ _ _ (by omega)] at hrest
    exact ⟨rest, hrest⟩
  · obtain ⟨rest, hrest⟩ := h (k + n) (by rw [List.length_append]; omega)
    have hle : new.length ≤ 2 * (k + n) := by omega
    rw [List.getD_append_right _ _ _ _ hle, hn, show 2 * (k + n) - 2 * n = 2 * k by omega,
      show 2 * (k + n) + 1 = 2 * k + 1 + 2 * n by omega] at hrest
    exact ⟨rest, hrest⟩

theorem Delivers.of_quiet {assigned : List (Ptr Obj)} {b b' : Bus} (h : Quiet assigned b b') :
    Delivers b b' :=
  ⟨0, [], by simp [h.transmitted], rfl, h.slave, fun _ => h.reads.ge⟩

theorem Delivers.trans {b c d : Bus} (h : Delivers b c) (h' : Delivers c d) : Delivers b d := by
  obtain ⟨n, new, htr, hlen, hslave, hreads⟩ := h
  obtain ⟨n', new', htr', hlen', hslave', hreads'⟩ := h'
  refine ⟨n + n', new ++ new', by rw [htr', htr, List.append_assoc],
    by rw [List.length_append]; omega, ?_, fun hheaded => ?_⟩
  · rw [hslave', hslave]
    funext k
    dsimp only
    congr 1
    omega
  · obtain ⟨hfirst, hsecond⟩ := hheaded.append hlen
    have h₁ := hreads hfirst
    have h₂ := hreads' (by rwa [hslave])
    omega

/-- Every exchange of the program awaits a reply to the command that it sent. -/
inductive Paired : {α : Type} → Prog Bus α → Prop
  | quiet {α : Type} {assigned : List (Ptr Obj)} {p : Prog Bus α}
      (h : Prog.Guarantees (Quiet assigned) p) : Paired p
  | exchange {L L' β : Type} [LengthCode L UInt8] [LengthCode L' UInt8]
      {cmd numParam maxNumParams : UInt8} {inParams : List (Param L)} {maxSize : UInt16}
      {outParams : List (Param L')} {assigned : List (Ptr Obj)} {mid : Prog Bus β}
      (hn : numParam.toNat ≤ inParams.length)
      (hmax : maxNumParams.toNat ≤ outParams.length) (hwindow : 3 ≤ maxSize.toNat)
      (hmid : Prog.Guarantees (Quiet assigned) mid) (numParamRead : β → UInt8) :
      Paired (send cmd numParam inParams >>= fun _ => mid >>= fun x =>
        receiveResponse cmd maxSize (numParamRead x) outParams maxNumParams)
  | bind {α β : Type} {p : Prog Bus α} {f : α → Prog Bus β} (hp : Paired p)
      (hf : ∀ b, Paired (f (p.val b))) : Paired (p >>= f)

/-- A program that stores to its own variables only. -/
theorem Paired.silent {α : Type} {p : Prog Bus α} (h : Prog.Guarantees (Quiet []) p) : Paired p :=
  .quiet h

section Transfers
variable {L L' β : Type} [LengthCode L UInt8] [LengthCode L' UInt8]
  {cmd numParam maxNumParams : UInt8} {inParams : List (Param L)} {maxSize : UInt16}
  {outParams : List (Param L')} {assigned : List (Ptr Obj)} {mid : Prog Bus β}

/-- The bytes of a reply that are read, by its command byte. -/
theorem parseReply_reads_headed {caps : List L'} (c : UInt8) (s : List UInt8) :
    (c = (cmd ||| replyFlag) →
      3 ≤ (parseReply cmd maxNumParams caps (startCmd :: c :: s)).reads) ∧
      (c ≠ (cmd ||| replyFlag) →
        (parseReply cmd maxNumParams caps (startCmd :: c :: s)).reads = 2) := by
  have hseek : ∀ d, seek startCmd timeoutChar (startCmd :: d :: s) = (1, 1) := fun d =>
    @seek_append startCmd [] timeoutChar (d :: s) (by simp) (by simp) (by decide)
  refine ⟨?_, fun hc => ?_⟩
  · rintro rfl
    simp only [parseReply, hseek, List.drop_succ_cons, List.drop_zero, List.headD_cons, ne_eq,
      not_true_eq_false, if_false]
    split
    · contradiction
    split
    · exact le_rfl
    · simp only
      omega
  · simp [parseReply, hseek, hc]

/-- A reply of which at least the head is received. -/
theorem answered_reads {c : UInt8} {rest : List UInt8} {b : Bus} (hwindow : 3 ≤ maxSize.toNat)
    (hslave : b.slave 1 = startCmd :: c :: rest) :
    (c = (cmd ||| replyFlag) →
      3 ≤ (answered cmd maxSize outParams maxNumParams b).reads) ∧
      (c ≠ (cmd ||| replyFlag) →
        (answered cmd maxSize outParams maxNumParams b).reads = 2) := by
  obtain ⟨w, hw⟩ : ∃ w, window maxSize = w + 2 := ⟨window maxSize - 2, by rw [window]; omega⟩
  rw [answered, hslave, hw, List.take_succ_cons, List.take_succ_cons]
  exact parseReply_reads_headed c _

theorem delivers_transfers (hn : numParam.toNat ≤ inParams.length)
    (hmax : maxNumParams.toNat ≤ outParams.length) (hwindow : 3 ≤ maxSize.toNat)
    (hmid : Prog.Guarantees (Quiet assigned) mid) (numParamRead : β → UInt8) :
    Prog.Guarantees Delivers (send cmd numParam inParams >>= fun _ => mid >>= fun x =>
      receiveResponse cmd maxSize (numParamRead x) outParams maxNumParams) := by
  intro b
  obtain ⟨htr, hslave, hreads, -⟩ := run_transfers hn hmax hmid cmd cmd maxSize numParamRead b
  refine ⟨1, _, htr, rfl, hslave, fun hheaded => ?_⟩
  obtain ⟨rest, hrest⟩ := hheaded 0 (by simp)
  rw [hreads]
  have hcmd : commandByte (frame L cmd ((inParams.take numParam.toNat).map fun p =>
      p.bytes b.mem)) ||| replyFlag = (cmd ||| replyFlag) := masked_or_replyFlag cmd
  exact Nat.add_le_add_left ((answered_reads hwindow hrest).1 hcmd) _

end Transfers

/-- **A program that awaits its own commands rejects no answer for its command byte.** -/
theorem Paired.delivers {α : Type} {p : Prog Bus α} (h : Paired p) :
    Prog.Guarantees Delivers p := by
  induction h with
  | quiet h => exact fun b => Delivers.of_quiet (h b)
  | exchange hn hmax hwindow hmid numParamRead =>
      exact delivers_transfers hn hmax hwindow hmid numParamRead
  | bind hp hf ihp ihf => exact fun b => (ihp b).trans (ihf b _)

/-- A function of this shape that names one command. -/
theorem Shaped.paired {assigned : List (Ptr Obj)} {outs : List (Ptr Obj × ℕ)} {α : Type}
    {p : Prog Bus α} (h : Shaped Eq assigned outs p) : Paired p := by
  induction h with
  | quiet h => exact .quiet h
  | before hp hf ih => exact .bind (.quiet hp) ih
  | after hp hf ih => exact .bind ih fun b => .quiet (hf _)
  | exchange hrel hn hmax hwindow hcaps houts hmid numParamRead =>
      subst hrel
      exact .exchange hn hmax hwindow hmid numParamRead

theorem paired_exchange {L L' : Type} [LengthCode L UInt8] [LengthCode L' UInt8]
    {cmd numParam maxNumParams : UInt8} {inParams : List (Param L)} {maxSize : UInt16}
    {outParams : List (Param L')} (hn : numParam.toNat ≤ inParams.length)
    (hmax : maxNumParams.toNat ≤ outParams.length) (hwindow : 3 ≤ maxSize.toNat) :
    Paired (exchange cmd numParam inParams maxSize outParams maxNumParams) := by
  rw [exchange]
  exact .exchange hn hmax hwindow (quiet_uninit [] .paramsRead 1) fun x => x.headD 0

/-- Each poll names the command afresh, whatever the parameter array has become. -/
theorem paired_pollDataSent (sock response : Ptr Obj) (left : ℕ) {outParams : List TParam}
    (hlen : outParams.length = 1) :
    Paired (ServerDrv.pollDataSent sock response left outParams) := by
  induction left generalizing outParams with
  | zero => exact .silent (Prog.Guarantees.pure Quiet.refl 0)
  | succ left ih =>
      rw [ServerDrv.pollDataSent_step]
      refine .bind (paired_exchange le_rfl hlen.ge (by decide)) fun b => ?_
      have hreply := length_params_exchange dataSentTcpCmd 1 [(⟨1, sock⟩ : TParam)] 20 outParams 1 b
        rfl hlen.ge
      refine .bind (.silent (quiet_loadList response 1)) fun b' => ?_
      split
      · exact .silent (quiet_pure 1)
      · exact ih (hreply.trans hlen)

theorem paired_ignore {α : Type} {p : Prog Bus α} (h : Paired p) : Paired p.ignore := by
  have hafter : Paired (p >>= fun _ => pure ()) := .bind h fun _ => .silent (quiet_pure ())
  exact hafter

theorem paired_auto {α : Type} {var : Var} {init : List UInt8} {f : Ptr Obj → Prog Bus α}
    (hvar : var ≠ .dataPtr) (hf : Paired (f ⟨.auto var init.length, 0⟩)) :
    Paired (Bus.auto var init >>= f) :=
  .bind (.silent (quiet_auto init hvar)) fun _ => hf

namespace DriverCall

/-- Every exchange of the call awaits the command it sent, and none of the answers it may get
is rejected for its command byte. -/
structure AwaitsOwn (c : DriverCall) : Prop where
  paired : Paired c.run
  delivers : Prog.Guarantees Delivers c.run

/-- The calls that reach the exchange of `WiFiDrv_getRSSINetworks`. -/
def Mismatched : DriverCall → Prop
  | getRSSINetworks networkItem => networkItem.toNat < wlNetworksListMaxnum
  | _ => False

theorem commands_eq {c : DriverCall} (h : ∀ item, c ≠ getRSSINetworks item) :
    c.Commands = Eq := by
  cases c with
  | getRSSINetworks item => exact absurd rfl (h item)
  | _ => rfl

theorem paired_getRSSINetworks {networkItem : UInt8}
    (h : ¬ (getRSSINetworks networkItem).Mismatched) :
    Paired (getRSSINetworks networkItem).run := by
  have hout : WiFiDrv.outOfList networkItem = true := WiFiDrv.outOfList_iff.mpr h
  refine paired_ignore (paired_auto (by decide) (paired_auto (by decide) ?_))
  rw [if_pos hout]
  exact .silent (quiet_pure 0)

theorem paired (c : DriverCall) (hc : ¬ c.Mismatched) : Paired c.run := by
  by_cases hreg : c.Regular
  · by_cases hrssi : ∃ item, c = getRSSINetworks item
    · obtain ⟨item, rfl⟩ := hrssi
      exact paired_getRSSINetworks hc
    · have h := c.shaped hreg ⟨fun _ => 0, []⟩
      rw [commands_eq fun item hitem => hrssi ⟨item, hitem⟩] at h
      exact h.paired
  cases c with
  | getDataBuf sock data dataLen =>
      refine paired_ignore (paired_auto (by decide) ?_)
      refine .bind (.silent (quiet_loadList dataLen 2)) fun b => ?_
      exact .bind (paired_exchange le_rfl le_rfl (by decide)) fun b' => .silent (quiet_pure _)
  | checkDataSent sock =>
      exact paired_ignore (paired_auto (by decide) (paired_auto (by decide)
        (paired_pollDataSent _ _ 25 rfl)))
  | getHostByName aHostname aResult =>
      have hreq : Shaped Eq [] _ (WiFiDrv.reqHostByName aHostname) := shaped_reqHostByName aHostname
      refine paired_ignore (.bind hreq.paired fun b => ?_)
      split
      · exact (shaped_getHostByNameResults aResult).paired
      · exact .silent (quiet_pure 0)
  | _ => exact absurd trivial hreg

/-- What `WiFiDrv_getRSSINetworks` transmits, and how much it reads of the reply. -/
theorem run_getRSSINetworks {networkItem : UInt8} (h : networkItem.toNat < wlNetworksListMaxnum)
    (b : Bus) :
    ∃ xs, ((getRSSINetworks networkItem).run.state b).transmitted =
        b.transmitted ++ [frame UInt8 getIdxRssiCmd xs, List.replicate 20 0] ∧
      ((getRSSINetworks networkItem).run.state b).reads =
        b.reads + (answered getIdxChannelCmd 20 [(⟨4, varAt .rssi 4⟩ : TParam)] 1 b).reads := by
  have hout : WiFiDrv.outOfList networkItem = false := by simpa [WiFiDrv.outOfList] using h
  have hin : UInt8.toNat 1 ≤ [(⟨1, varAt .networkItem 1⟩ : TParam)].length := le_rfl
  have hout' : UInt8.toNat 1 ≤ [(⟨4, varAt .rssi 4⟩ : TParam)].length := le_rfl
  have hrun : (getRSSINetworks networkItem).run.state b =
      (send getIdxRssiCmd 1 [(⟨1, varAt .networkItem 1⟩ : TParam)] >>= fun _ =>
        Bus.uninit .paramsRead 1 >>= fun x => receiveResponse getIdxChannelCmd 20 (x.headD 0)
          [(⟨4, varAt .rssi 4⟩ : TParam)] 1).state
        ((Bus.auto .rssi (le32 0) >>= fun _ => Bus.auto .networkItem [networkItem]).state b) := by
    simp only [run, WiFiDrv.getRSSINetworks, hout, Prog.state_ignore]
    rfl
  obtain ⟨htr, -, hreads, -⟩ := run_transfers hin hout' (quiet_uninit [] .paramsRead 1)
    getIdxRssiCmd getIdxChannelCmd 20 (fun x => x.headD 0)
    ((Bus.auto .rssi (le32 0) >>= fun _ => Bus.auto .networkItem [networkItem]).state b)
  rw [hrun, htr, hreads]
  exact ⟨_, rfl, rfl⟩

/-- An answer to `GET_IDX_RSSI_CMD`: the signal strength -60. -/
def rssiAnswer : List UInt8 := replyFrame UInt8 getIdxRssiCmd [[0xC4, 0xFF, 0xFF, 0xFF]]

/-- Nothing is read of the answer behind its command byte. -/
theorem reads_rssiAnswer {networkItem : UInt8} (h : networkItem.toNat < wlNetworksListMaxnum) :
    ((getRSSINetworks networkItem).run.state (Bus.fresh fun _ => rssiAnswer)).reads = 2 := by
  obtain ⟨xs, -, hreads⟩ := run_getRSSINetworks h (Bus.fresh fun _ => rssiAnswer)
  have hslave : (Bus.fresh fun _ => rssiAnswer).slave 1 =
      startCmd :: (getIdxRssiCmd ||| replyFlag) :: rssiAnswer.drop 2 := rfl
  rw [hreads, (answered_reads (by decide) hslave).2 (by decide), Bus.fresh]

/-- The exchange of `WiFiDrv_getRSSINetworks` rejects an answer to its request. -/
theorem not_awaitsOwn {c : DriverCall} (hc : c.Mismatched) : ¬ c.AwaitsOwn := by
  intro hown
  cases c with
  | getRSSINetworks networkItem =>
      obtain ⟨xs, htr, -⟩ := run_getRSSINetworks hc (Bus.fresh fun _ => rssiAnswer)
      obtain ⟨n, new, htr', hlen, -, hreads⟩ := hown.delivers (Bus.fresh fun _ => rssiAnswer)
      have hnew : new = [frame UInt8 getIdxRssiCmd xs, List.replicate 20 0] :=
        List.append_cancel_left (htr'.symm.trans htr)
      have hheaded : Headed (fun _ => rssiAnswer) new := by
        intro k hk
        rw [hnew] at hk ⊢
        obtain rfl : k = 0 := by simp at hk; omega
        exact ⟨_, rfl⟩
      have hone : n = 1 := by simp [hnew] at hlen; omega
      have hread := hreads hheaded
      rw [reads_rssiAnswer hc, hone] at hread
      simp [Bus.fresh] at hread
  | _ => exact hc

/-- **Which driver functions await the command they sent.** -/
theorem awaitsOwn_iff (c : DriverCall) : c.AwaitsOwn ↔ ¬ c.Mismatched := by
  constructor
  · intro hown hmis
    exact not_awaitsOwn hmis hown
  · intro hc
    exact ⟨c.paired hc, (c.paired hc).delivers⟩

/-- A well-formed answer to the command that `WiFiDrv_getRSSINetworks` sent is given up at its
second byte. -/
theorem rssiAnswer_rejected :
    ((getRSSINetworks 0).run.state (Bus.fresh fun _ => rssiAnswer)).reads = 2 ∧
      ¬ (getRSSINetworks 0).AwaitsOwn := by
  have hitem : UInt8.toNat 0 < wlNetworksListMaxnum := by decide
  exact ⟨reads_rssiAnswer hitem, not_awaitsOwn hitem⟩

end DriverCall

end WiFiNINA
