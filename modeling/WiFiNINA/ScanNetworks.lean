import WiFiNINA.CachedStrings
import WiFiNINA.FixedWidth

/-!
# The list of networks

The reply to a scan has one parameter for each network found, and all of them together may
take more than the 255 bytes that are received.  What does not arrive reads as zero, the
count has been read before, and nobody looks at the end byte: so names are cut or lost
without a trace.
-/

namespace WiFiNINA

open LengthCode SpiDrv

/-- The bytes of parameters that do not arrive when only `room` bytes of their written form
are received. -/
def lost : ℕ → List (List UInt8) → List UInt8
  | _, [] => []
  | room, x :: xs => x.drop (room - 1) ++ lost (room - 1 - x.length) xs

/-- Bytes that read as the string `x` when zeros follow them. -/
def ReadsAs (y x : List UInt8) : Prop := padTake 0 (x.length + 1) y = x ++ [0]

/-- Nothing was read: the string is there if it is all zeros. -/
theorem readsAs_nil {x : List UInt8} : ReadsAs [] x ↔ ∀ c ∈ x, c = 0 := by
  rw [ReadsAs, padTake_of_length_le (Nat.zero_le _), List.nil_append, List.length_nil,
    Nat.sub_zero, List.replicate_succ', List.append_left_inj, eq_comm, List.eq_replicate_iff,
    and_iff_right rfl]

/-- As many bytes as the string has were read. -/
theorem readsAs_of_length_eq {y x : List UInt8} (h : y.length = x.length) :
    ReadsAs y x ↔ y = x := by
  rw [ReadsAs, padTake_of_length_le (by omega), h, Nat.add_sub_cancel_left]
  exact List.append_left_inj _

/-- **Reading parameters from a stream that was cut**: they come out right if all that is
missing is zeros. -/
theorem names_takeFields {xs : List (List UInt8)} (hxs : ∀ x ∈ xs, x.length < 32) (room : ℕ)
    (t : List UInt8) :
    List.Forall₂ ReadsAs
        (takeFields 0 (List.replicate xs.length (32 : UInt8))
          ((fields UInt8 xs ++ t).take room)).1 xs ↔
      ∀ c ∈ lost room xs, c = 0 := by
  induction xs generalizing room with
  | nil => simp [lost]
  | cons x xs ih =>
      have hx : x.length < 32 := hxs x (by simp)
      have hrest := ih fun y hy => hxs y (by simp [hy])
      rw [List.length_cons, List.replicate_succ, lost, List.forall_mem_append]
      cases room with
      | zero =>
          -- neither the length nor anything behind it arrives
          have hlen : toNat (readLength 0 (32 : UInt8) []) = 0 := by decide
          have htail := hrest 0
          rw [List.take_zero] at htail ⊢
          rw [takeFields_cons, hlen, padTake_zero, List.drop_nil, List.forall₂_cons, htail,
            Nat.zero_sub, Nat.zero_sub, List.drop_zero]
          exact and_congr_left' readsAs_nil
      | succ k =>
          have hbyte : (UInt8.ofNat x.length).toNat = x.length :=
            UInt8.toNat_ofNat_of_lt' (by rw [UInt8.size]; omega)
          have hclip : (clip 32 (UInt8.ofNat x.length)).toNat = x.length := by
            have hcap : toNat (32 : UInt8) = 32 := by decide
            have hpos : 0 < toNat (32 : UInt8) := by decide
            have h := toNat_clip (UInt8.ofNat x.length) hpos
            rw [toNat_uint8, toNat_uint8, hbyte, hcap] at h
            omega
          have hstream : (fields UInt8 (x :: xs) ++ t).take (k + 1) =
              UInt8.ofNat x.length :: (x ++ (fields UInt8 xs ++ t)).take k := by
            rw [fields_cons, field_uint8, List.append_assoc, List.cons_append,
              List.take_succ_cons]
          have hdrop : ((x ++ (fields UInt8 xs ++ t)).take k).drop x.length =
              (fields UInt8 xs ++ t).take (k - x.length) := by
            rw [List.drop_take, List.drop_left]
          rw [hstream, takeFields_byte, hclip, List.forall₂_cons, hdrop, hrest,
            Nat.add_sub_cancel]
          refine and_congr_left' ?_
          rw [readsAs_of_length_eq (length_padTake _ _ _), padTake_take_eq_iff]

section Scan
variable (b : Bus)

/-- The parse of the reply to a scan. -/
def scanned : Parsed :=
  parseReply scanNetworks (UInt8.ofNat wlNetworksListMaxnum) (WiFiDrv.scanParams.map Param.len)
    (reply wifiSocketBufferSize b)

theorem maxnum_le_scanParams :
    (UInt8.ofNat wlNetworksListMaxnum).toNat ≤ WiFiDrv.scanParams.length := by
  simp [WiFiDrv.scanParams, wlNetworksListMaxnum]

/-- The count that is returned is that of the reply, or what the variable held. -/
theorem val_getScanNetworks :
    WiFiDrv.getScanNetworks.val b =
      ((scanned b).count.getD ((b.mem.loadList ⟨.auto .paramsRead 1, 0⟩ 1).headD 0)).toNat := by
  have hsend := slave_send (L := UInt8) scanNetworks 0 [] b rfl
  have hmem := mem_send (L := UInt8) scanNetworks 0 [] b rfl
  simp only [WiFiDrv.getScanNetworks, Prog.val_bind, Prog.val_pure, sendCmd, receiveResponseCmd,
    Bus.clear, Bus.state_storeList, Bus.uninit, Bus.val_loadList, Bus.state_loadList]
  rw [val_receiveResponse _ _ _ _ _ _ maxnum_le_scanParams, parsed, received, hmem, hsend,
    Memory.loadList_storeList_of_obj_ne _ _ Obj.noConfusion]
  rfl

theorem separated_scanParams : Separated WiFiDrv.scanParams := by
  rw [Separated, WiFiDrv.scanParams, List.pairwise_map]
  exact List.nodup_range.imp fun hne => disjoint_rows hne

/-- The rows are cleared before the reply is received. -/
theorem loadList_row_clear (m : Memory Obj UInt8) {i : ℕ} (hi : i < wlNetworksListMaxnum) :
    (m.storeList Global.networkSsid.ptr (List.replicate Global.networkSsid.size 0)).loadList
      (networkSsidRow i) wlSsidMaxLength = List.replicate wlSsidMaxLength 0 := by
  rw [List.eq_replicate_iff]
  refine ⟨Memory.length_loadList _ _ _, ?_⟩
  intro c hc
  obtain ⟨a, ha, rfl⟩ := List.mem_map.mp hc
  rw [load_clear, if_pos (row_subset hi ha)]

/-- Each row holds the name parsed for it, or nothing. -/
theorem row_getScanNetworks {i : ℕ} (hi : i < wlNetworksListMaxnum) :
    (WiFiDrv.getScanNetworks.state b).mem.loadList (networkSsidRow i) wlSsidMaxLength =
      padTake 0 wlSsidMaxLength ((scanned b).payloads.getD i []) := by
  have hlength : (scanned b).payloads.length = networksFound (reply wifiSocketBufferSize b) :=
    length_scanned _
  have hcaps : ∀ q ∈ WiFiDrv.scanParams, 0 < toNat q.len := by
    simp [WiFiDrv.scanParams, wlSsidMaxLength]
  have hfit := parseReply_params_lt scanNetworks (UInt8.ofNat wlNetworksListMaxnum)
    (reply wifiSocketBufferSize b) hcaps
  have hwidth : toNat (UInt8.ofNat wlSsidMaxLength) = wlSsidMaxLength := by decide
  rw [← next_getScanNetworks]
  by_cases hparam : i < (scanned b).payloads.length
  · -- the name goes to the beginning of a row of zeros
    have hrow : (⟨UInt8.ofNat wlSsidMaxLength, networkSsidRow i⟩, (scanned b).payloads[i]) ∈
        WiFiDrv.scanParams.zip (scanned b).payloads := by
      rw [List.mem_iff_getElem]
      exact ⟨i, by simp [WiFiDrv.scanParams, hi, hparam], by simp [WiFiDrv.scanParams]⟩
    have hname : (scanned b).payloads[i].length < wlSsidMaxLength := rel_of_mem_zip hfit hrow
    have hdest := loadList_storeParams_dest (b.mem.storeList Global.networkSsid.ptr
      (List.replicate Global.networkSsid.size 0)) separated_scanParams hfit hrow
    rw [hwidth, loadList_row_clear b.mem hi, List.drop_replicate] at hdest
    rw [mem_getScanNetworks, List.getD_eq_getElem _ _ hparam, padTake_of_length_le hname.le,
      ← Nat.succ_pred_eq_of_pos (Nat.sub_pos_of_lt hname), List.replicate_succ]
    exact hdest
  · have hfound : networksFound (reply wifiSocketBufferSize b) ≤ i := by omega
    rw [unused_rows b hfound hi, List.getD_eq_default _ _ (by omega),
      padTake_of_length_le (Nat.zero_le _)]
    rfl

end Scan

/-- A scan from `b` reports the networks `xs`: their number, and each name under its index. -/
def Complete (xs : List (List UInt8)) (b : Bus) : Prop :=
  WiFiDrv.getScanNetworks.val b = xs.length ∧
    ∀ i (hi : i < xs.length),
      let name := (WiFiDrv.getSSIDNetworks (UInt8.ofNat i)).val (WiFiDrv.getScanNetworks.state b)
      (WiFiDrv.getScanNetworks.state b).mem.loadList name (xs[i].length + 1) = xs[i] ++ [0]

section Complete
variable {xs : List (List UInt8)} {rest : List UInt8} {b : Bus}

/-- What is left of the names when the reply is cut to the window. -/
def arrived (xs : List (List UInt8)) (rest : List UInt8) : List (List UInt8) :=
  (takeFields 0 (List.replicate xs.length (32 : UInt8))
    ((fields UInt8 xs ++ endCmd :: rest).take 252)).1

theorem length_arrived : (arrived xs rest).length = xs.length := by
  rw [arrived, length_takeFields, List.length_replicate]

theorem toNat_length (hmax : xs.length ≤ wlNetworksListMaxnum) :
    (UInt8.ofNat xs.length).toNat = xs.length :=
  UInt8.toNat_ofNat_of_lt' (hmax.trans_lt (by decide))

/-- The count is always received. -/
theorem scanned_replyFrame (hpos : 1 ≤ xs.length) (hmax : xs.length ≤ wlNetworksListMaxnum)
    (hslave : b.slave 1 = replyFrame UInt8 scanNetworks xs ++ rest) :
    (scanned b).count = some (UInt8.ofNat xs.length) ∧
      (scanned b).payloads = arrived xs rest := by
  have hreply : reply wifiSocketBufferSize b = [] ++ startCmd :: (scanNetworks ||| replyFlag) ::
      UInt8.ofNat xs.length :: (fields UInt8 xs ++ endCmd :: rest).take 252 := by
    rw [reply, replyAt, Nat.mul_zero, Nat.zero_add, hslave]
    simp [replyFrame, window, wifiSocketBufferSize]
  have hbyte := toNat_length hmax
  have hzero : UInt8.ofNat xs.length ≠ 0 := by
    rw [ne_eq, ← UInt8.toNat_inj, hbyte, UInt8.toNat_zero]
    omega
  have hcaps : (WiFiDrv.scanParams.map Param.len).take xs.length =
      List.replicate xs.length (32 : UInt8) := by
    have hall : WiFiDrv.scanParams.map Param.len = List.replicate wlNetworksListMaxnum 32 := rfl
    rw [hall, List.take_replicate, Nat.min_eq_left hmax]
  rw [scanned, hreply, parseReply_header _ _ (by simp) (by simp), limitCount_ofNat hmax]
  simp only [if_neg hzero, hbyte, hcaps]
  trivial

/-- A name is where `WiFiDrv_getSSIDNetworks` says. -/
theorem name_getScanNetworks {i : ℕ} (hi : i < wlNetworksListMaxnum) {n : ℕ}
    (hn : n ≤ wlSsidMaxLength) :
    (WiFiDrv.getScanNetworks.state b).mem.loadList
        ((WiFiDrv.getSSIDNetworks (UInt8.ofNat i)).val (WiFiDrv.getScanNetworks.state b)) n =
      padTake 0 n ((scanned b).payloads.getD i []) := by
  have hbyte : (UInt8.ofNat i).toNat = i := UInt8.toNat_ofNat_of_lt' (hi.trans (by decide))
  have hin : WiFiDrv.outOfList (UInt8.ofNat i) = false := by
    rw [WiFiDrv.outOfList, hbyte]
    exact decide_eq_false hi.not_ge
  rw [WiFiDrv.getSSIDNetworks, Prog.val_pure, hin, hbyte, if_neg Bool.false_ne_true,
    ← Memory.take_loadList _ _ hn, row_getScanNetworks b hi, take_padTake _ _ hn]

/-- **When a scan is complete.**  The names of a well-formed reply are all reported unless
some of their bytes stand behind the first 255 bytes of the reply; zeros do not matter. -/
theorem scan_complete_iff (hpos : 1 ≤ xs.length) (hmax : xs.length ≤ wlNetworksListMaxnum)
    (hlen : ∀ x ∈ xs, x.length < wlSsidMaxLength)
    (hslave : b.slave 1 = replyFrame UInt8 scanNetworks xs ++ rest) :
    Complete xs b ↔ ∀ c ∈ lost 252 xs, c = 0 := by
  obtain ⟨hcount, hpayloads⟩ := scanned_replyFrame hpos hmax hslave
  have hval : WiFiDrv.getScanNetworks.val b = xs.length := by
    rw [val_getScanNetworks, hcount, Option.getD_some, toNat_length hmax]
  rw [← names_takeFields hlen 252 (endCmd :: rest), Complete, and_iff_right hval]
  change _ ↔ List.Forall₂ ReadsAs (arrived xs rest) xs
  rw [List.forall₂_iff_get, and_iff_right length_arrived]
  have hread : ∀ i (hi : i < xs.length) (h : i < (arrived xs rest).length),
      (WiFiDrv.getScanNetworks.state b).mem.loadList
          ((WiFiDrv.getSSIDNetworks (UInt8.ofNat i)).val (WiFiDrv.getScanNetworks.state b))
          (xs[i].length + 1) = padTake 0 (xs[i].length + 1) (arrived xs rest)[i] := by
    intro i hi h
    have hroom := hlen xs[i] (List.getElem_mem hi)
    rw [name_getScanNetworks (hi.trans_le hmax) hroom, hpayloads, List.getD_eq_getElem _ _ h]
  constructor
  · intro hall i h hi
    exact (hread i hi h).symm.trans (hall i hi)
  · intro hall i hi
    have h : i < (arrived xs rest).length := by rwa [length_arrived]
    exact (hread i hi h).trans (hall i h hi)

end Complete

/-- Three networks, one with a name of full length. -/
def threeNames : List (List UInt8) :=
  [[0x68, 0x6F, 0x6D, 0x65], [0x67, 0x75, 0x65, 0x73, 0x74], List.replicate 31 0x61]

theorem scan_complete_threeNames :
    Complete threeNames (Bus.fresh fun _ => replyFrame UInt8 scanNetworks threeNames ++ [1, 2]) :=
  (scan_complete_iff (by decide) (by decide) (by decide) rfl).mpr
    (by decide +kernel)

/-- Networks with names of full length. -/
def longNames (n : ℕ) : List (List UInt8) := List.replicate n (List.replicate 31 0x61)

/-- Of eight such names, the last one loses its last four bytes. -/
theorem not_complete_eight :
    ¬ Complete (longNames 8)
      (Bus.fresh fun _ => replyFrame UInt8 scanNetworks (longNames 8) ++ []) := by
  intro h
  have hslave : (Bus.fresh fun _ => replyFrame UInt8 scanNetworks (longNames 8) ++ []).slave 1 =
      replyFrame UInt8 scanNetworks (longNames 8) ++ [] := rfl
  obtain ⟨-, hpayloads⟩ := scanned_replyFrame (by decide) (by decide) hslave
  have hroom : (longNames 8)[7].length < wlSsidMaxLength := by decide
  have hname := (name_getScanNetworks (by decide) hroom).symm.trans (h.2 7 (by decide))
  rw [hpayloads] at hname
  revert hname
  decide

end WiFiNINA
