import WiFiNINA.SpiDrv.Parse

/-!
# The decoders parse replies

The decoders refine `parseReply`: they leave exactly the bytes it yields, each
parameter followed by a zero, at the destinations, and touch nothing else.
-/

namespace WiFiNINA

open LengthCode

section Params
variable {L : Type} [LengthCode L UInt8]

/-- The parameter array with the lengths of the processed parameters replaced. -/
def setLens : List (Param L) → List (List UInt8) → List (Param L)
  | p :: params, x :: xs => { p with len := ofNat x.length } :: setLens params xs
  | params, _ => params

/-- The stores of the parameter loop: the bytes of each parameter and a zero. -/
def storeParams (m : Memory Obj UInt8) : List (Param L) → List (List UInt8) → Memory Obj UInt8
  | p :: params, x :: xs => storeParams (m.storeList p.data (x ++ [0])) params xs
  | _, _ => m

@[simp] theorem setLens_nil (params : List (Param L)) : setLens params [] = params := by
  cases params <;> rfl
@[simp] theorem setLens_cons (p : Param L) (params : List (Param L)) (x : List UInt8)
    (xs : List (List UInt8)) :
    setLens (p :: params) (x :: xs) = { p with len := ofNat x.length } :: setLens params xs := rfl

omit [LengthCode L UInt8] in
@[simp] theorem storeParams_nil (m : Memory Obj UInt8) (params : List (Param L)) :
    storeParams m params [] = m := by
  cases params <;> rfl
omit [LengthCode L UInt8] in
@[simp] theorem storeParams_cons (m : Memory Obj UInt8) (p : Param L) (params : List (Param L))
    (x : List UInt8) (xs : List (List UInt8)) :
    storeParams m (p :: params) (x :: xs) =
      storeParams (m.storeList p.data (x ++ [0])) params xs := rfl

@[simp] theorem length_setLens (params : List (Param L)) (xs : List (List UInt8)) :
    (setLens params xs).length = params.length := by
  induction params generalizing xs with
  | nil => rfl
  | cons p params ih => cases xs <;> simp [setLens, ih]

theorem getElem?_setLens {params : List (Param L)} {xs : List (List UInt8)} {i : ℕ}
    (hx : i < xs.length) :
    (setLens params xs)[i]? = params[i]?.map fun p => { p with len := ofNat xs[i].length } := by
  induction params generalizing xs i with
  | nil => simp [setLens]
  | cons p params ih =>
      cases xs with
      | nil => simp at hx
      | cons x xs =>
          cases i with
          | zero => rfl
          | succ i => exact ih (by simpa using hx)

theorem drop_setLens {params : List (Param L)} {xs : List (List UInt8)} :
    (setLens params xs).drop xs.length = params.drop xs.length := by
  induction params generalizing xs with
  | nil => rfl
  | cons p params ih =>
      cases xs with
      | nil => rfl
      | cons x xs => simp [ih]

end Params

section Destinations
variable {L : Type} [LengthCode L UInt8]

/-- The bytes a parameter's capacity grants its destination. -/
def Param.dest (p : Param L) : List (Ptr Obj) := p.data.region (toNat p.len)

/-- No destination overlaps another. -/
def Separated (params : List (Param L)) : Prop :=
  params.Pairwise fun p q => p.dest.Disjoint q.dest

/-- Destinations in different objects do not overlap. -/
theorem separated_of_nodup {params : List (Param L)}
    (h : (params.map fun p => p.data.obj).Nodup) : Separated params := by
  refine (List.pairwise_map.mp h).imp fun hobj a hp hq => ?_
  exact hobj ((Ptr.obj_of_mem_region hp).symm.trans (Ptr.obj_of_mem_region hq))

omit [LengthCode L UInt8] in
theorem log_storeParams (m : Memory Obj UInt8) (params : List (Param L))
    (xs : List (List UInt8)) :
    ∃ new, (storeParams m params xs).log = new ++ m.log ∧
      ∀ a ∈ new, ∃ px ∈ params.zip xs, a ∈ px.1.data.region (px.2.length + 1) := by
  induction params generalizing m xs with
  | nil => exact ⟨[], rfl, by simp⟩
  | cons p params ih =>
      cases xs with
      | nil => exact ⟨[], rfl, by simp⟩
      | cons x xs =>
          obtain ⟨new, hlog, hnew⟩ := ih (m.storeList p.data (x ++ [0])) xs
          refine ⟨new ++ (p.data.region (x.length + 1)).reverse, ?_, ?_⟩
          · simp [hlog, Memory.log_storeList]
          · intro a ha
            rcases List.mem_append.mp ha with ha | ha
            · obtain ⟨px, hpx, hmem⟩ := hnew a ha
              exact ⟨px, by simp [hpx], hmem⟩
            · exact ⟨(p, x), by simp, List.mem_reverse.mp ha⟩

omit [LengthCode L UInt8] in
/-- An address outside every written stretch keeps its value. -/
theorem load_storeParams_of_forall_notMem (m : Memory Obj UInt8) {params : List (Param L)}
    {xs : List (List UInt8)} {q : Ptr Obj}
    (h : ∀ px ∈ params.zip xs, q ∉ px.1.data.region (px.2.length + 1)) :
    (storeParams m params xs).load q = m.load q := by
  induction params generalizing m xs with
  | nil => rfl
  | cons p params ih =>
      cases xs with
      | nil => rfl
      | cons x xs =>
          rw [storeParams_cons, ih _ fun px hpx => h px (by simp [hpx]),
            Memory.load_storeList_of_notMem]
          simpa using h (p, x) (by simp)

omit [LengthCode L UInt8] in
/-- Objects that no parameter points into keep their contents. -/
theorem loadList_storeParams_of_obj_ne (m : Memory Obj UInt8) {params : List (Param L)}
    (xs : List (List UInt8)) {p : Ptr Obj} (n : ℕ) (h : ∀ q ∈ params, p.obj ≠ q.data.obj) :
    (storeParams m params xs).loadList p n = m.loadList p n :=
  Memory.loadList_congr fun _ ha =>
    load_storeParams_of_forall_notMem m fun px hpx hregion =>
      h px.1 (List.of_mem_zip (a := px.1) (b := px.2) hpx).1
        ((Ptr.obj_of_mem_region ha).symm.trans (Ptr.obj_of_mem_region hregion))

omit [LengthCode L UInt8] in
/-- The same parameters stored into two memories keep the addresses on which they
agree. -/
theorem load_storeParams_congr {m m' : Memory Obj UInt8} (params : List (Param L))
    (xs : List (List UInt8)) {q : Ptr Obj} (h : m.load q = m'.load q) :
    (storeParams m params xs).load q = (storeParams m' params xs).load q := by
  induction params generalizing m m' xs with
  | nil => exact h
  | cons p params ih =>
      cases xs with
      | nil => exact h
      | cons x xs => exact ih _ (Memory.load_storeList_congr _ _ h)

/-- What fits below the capacities is written inside the destinations. -/
theorem region_subset_dest {params : List (Param L)} {xs : List (List UInt8)}
    (hfit : List.Forall₂ (fun x p => x.length < toNat p.len) xs (params.take xs.length))
    {px : Param L × List UInt8} (hpx : px ∈ params.zip xs) {a : Ptr Obj}
    (ha : a ∈ px.1.data.region (px.2.length + 1)) :
    px.1 ∈ params.take xs.length ∧ a ∈ px.1.dest := by
  induction params generalizing xs with
  | nil => simp at hpx
  | cons p params ih =>
      cases xs with
      | nil => simp at hpx
      | cons x xs =>
          rw [List.length_cons, List.take_succ_cons, List.forall₂_cons] at hfit
          rcases List.mem_cons.mp hpx with rfl | hpx
          · exact ⟨by simp, Ptr.region_subset hfit.1 ha⟩
          · obtain ⟨h, hdest⟩ := ih hfit.2 hpx
            exact ⟨by simp [h], hdest⟩

/-- What destinations hold after the parameters were stored: each parameter, a zero, and behind
that what was there before. -/
def overlay : List (List UInt8) → List (List UInt8) → List (List UInt8)
  | old :: olds, x :: xs => (x ++ 0 :: old.drop (x.length + 1)) :: overlay olds xs
  | olds, [] => olds
  | [], _ :: _ => []

theorem getElem?_overlay {olds xs : List (List UInt8)} {i : ℕ} {old x : List UInt8}
    (hold : olds[i]? = some old) (hx : xs[i]? = some x) :
    (overlay olds xs)[i]? = some (x ++ 0 :: old.drop (x.length + 1)) := by
  induction olds generalizing xs i with
  | nil => simp at hold
  | cons o olds ih =>
      cases xs with
      | nil => simp at hx
      | cons y xs =>
          cases i with
          | zero =>
              obtain rfl := Option.some.inj hold
              obtain rfl := Option.some.inj hx
              rfl
          | succ i => exact ih hold hx

/-- **What the destinations hold** after the parameter loop. -/
theorem map_loadList_storeParams (m : Memory Obj UInt8) {params : List (Param L)}
    {xs : List (List UInt8)} (hsep : Separated params)
    (hfit : List.Forall₂ (fun x p => x.length < toNat p.len) xs (params.take xs.length)) :
    (params.map fun p => (storeParams m params xs).loadList p.data (toNat p.len)) =
      overlay (params.map fun p => m.loadList p.data (toNat p.len)) xs := by
  induction params generalizing m xs with
  | nil => cases xs <;> rfl
  | cons p params ih =>
      cases xs with
      | nil => rfl
      | cons x xs =>
          rw [List.length_cons, List.take_succ_cons, List.forall₂_cons] at hfit
          obtain ⟨hx, hfit⟩ := hfit
          obtain ⟨hp, hsep⟩ := List.pairwise_cons.mp hsep
          -- the later parameters stay away from this destination
          have hlater : ∀ q ∈ p.data.region (toNat p.len),
              (storeParams (m.storeList p.data (x ++ [0])) params xs).load q =
                (m.storeList p.data (x ++ [0])).load q := by
            intro q hq
            refine load_storeParams_of_forall_notMem _ ?_
            intro py hpy hmem
            obtain ⟨hin, hdest⟩ := region_subset_dest hfit hpy hmem
            exact hp py.1 (List.mem_of_mem_take hin) hq hdest
          -- and this one stays away from theirs
          have hfirst : ∀ r ∈ params, (m.storeList p.data (x ++ [0])).loadList r.data
              (toNat r.len) = m.loadList r.data (toNat r.len) := by
            intro r hr
            refine Memory.loadList_congr fun q hq => ?_
            refine Memory.load_storeList_of_notMem m fun hmem => ?_
            rw [List.length_append, List.length_singleton] at hmem
            exact hp r hr (Ptr.region_subset hx hmem) hq
          have hle : (x ++ [0]).length ≤ toNat p.len := by
            rw [List.length_append]
            exact hx
          have hdest := Memory.loadList_congr hlater
          rw [Memory.loadList_storeList_of_le _ _ hle, List.append_assoc,
            List.length_append] at hdest
          rw [storeParams_cons, List.map_cons, List.map_cons, overlay, ih _ hsep hfit,
            List.map_congr_left hfirst, hdest]
          rfl

/-- Each destination holds its bytes, a zero, and behind that what it held before. -/
theorem loadList_storeParams_dest (m : Memory Obj UInt8) {params : List (Param L)}
    {xs : List (List UInt8)} (hsep : Separated params)
    (hfit : List.Forall₂ (fun x p => x.length < toNat p.len) xs (params.take xs.length))
    {px : Param L × List UInt8} (hpx : px ∈ params.zip xs) :
    (storeParams m params xs).loadList px.1.data (toNat px.1.len) =
      px.2 ++ 0 :: (m.loadList px.1.data (toNat px.1.len)).drop (px.2.length + 1) := by
  obtain ⟨i, hi, rfl⟩ := List.getElem_of_mem hpx
  rw [List.length_zip, lt_min_iff] at hi
  have hold : (params.map fun p => m.loadList p.data (toNat p.len))[i]? =
      some (m.loadList params[i].data (toNat params[i].len)) := by
    rw [List.getElem?_map, List.getElem?_eq_getElem hi.1, Option.map_some]
  have hall := congrArg (fun olds => olds[i]?) (map_loadList_storeParams m hsep hfit)
  simp only [getElem?_overlay hold (List.getElem?_eq_getElem hi.2)] at hall
  simpa [hi.1] using hall

omit [LengthCode L UInt8] in
theorem rel_of_mem_zip {R : List UInt8 → Param L → Prop} {params : List (Param L)}
    {xs : List (List UInt8)} (h : List.Forall₂ R xs (params.take xs.length))
    {px : Param L × List UInt8} (hpx : px ∈ params.zip xs) : R px.2 px.1 := by
  obtain ⟨i, hi, rfl⟩ := List.getElem_of_mem hpx
  rw [List.length_zip] at hi
  have hrel := (List.forall₂_iff_get.mp h).2 i (by omega) (by rw [List.length_take]; omega)
  simpa using hrel

/-- Each destination holds its bytes and a zero at the end. -/
theorem loadList_storeParams (m : Memory Obj UInt8) {params : List (Param L)}
    {xs : List (List UInt8)} (hsep : Separated params)
    (hfit : List.Forall₂ (fun x p => x.length < toNat p.len) xs (params.take xs.length))
    {px : Param L × List UInt8} (hpx : px ∈ params.zip xs) :
    (storeParams m params xs).loadList px.1.data (px.2.length + 1) = px.2 ++ [0] := by
  have hlt : px.2.length < toNat px.1.len := rel_of_mem_zip hfit hpx
  rw [← Memory.take_loadList _ _ (Nat.succ_le_of_lt hlt),
    loadList_storeParams_dest m hsep hfit hpx, Nat.succ_eq_add_one, List.take_length_add_append]
  rfl

/-- Every parameter parsed is shorter than the capacity of its destination. -/
theorem parseReply_params_lt {params : List (Param L)} (cmd maxNumParams : UInt8)
    (s : List UInt8) (hcaps : ∀ p ∈ params, 0 < toNat p.len) :
    List.Forall₂ (fun x p => x.length < toNat p.len)
      (parseReply cmd maxNumParams (params.map Param.len) s).payloads
      (params.take (parseReply cmd maxNumParams (params.map Param.len) s).payloads.length) := by
  have hpos : ∀ cap ∈ params.map Param.len, 0 < toNat cap := by simpa using hcaps
  have h := parseReply_lt cmd maxNumParams s hpos
  rw [← List.map_take, List.forall₂_map_right_iff] at h
  exact h

end Destinations

namespace SpiDrv

variable {L : Type} [LengthCode L UInt8]

/-! ## Reading bytes -/

@[simp] theorem val_readChar (b : Bus) : readChar.val b = b.rx.headD 0 := by
  rcases b with ⟨_, _, _, _ | _, _, _, _, _⟩ <;> rfl

@[simp] theorem state_readChar (b : Bus) :
    readChar.state b = { b with rx := b.rx.tail, reads := b.reads + 1 } := by
  rcases b with ⟨_, _, _, _ | _, _, _, _, _⟩ <;> rfl

@[simp] theorem val_readAndCheckChar (c : UInt8) (b : Bus) :
    (readAndCheckChar c).val b = truth (b.rx.headD 0 == c) := by
  simp [readAndCheckChar]

@[simp] theorem state_readAndCheckChar (c : UInt8) (b : Bus) :
    (readAndCheckChar c).state b = { b with rx := b.rx.tail, reads := b.reads + 1 } := by
  simp [readAndCheckChar]

theorem run_waitSpiCharFrom (waitChar : UInt8) (timeout : ℕ) (b : Bus) :
    (waitSpiCharFrom waitChar timeout).val b = (seek waitChar timeout b.rx).1 ∧
      (waitSpiCharFrom waitChar timeout).state b =
        { b with
          rx := b.rx.drop (seek waitChar timeout b.rx).2
          reads := b.reads + (seek waitChar timeout b.rx).2 } := by
  induction timeout generalizing b with
  | zero =>
      simp only [waitSpiCharFrom, Prog.val_bind, Prog.state_bind, val_readChar, state_readChar,
        seek]
      split <;> simp
  | succ timeout ih =>
      simp only [waitSpiCharFrom, Prog.val_bind, Prog.state_bind, val_readChar, state_readChar,
        seek]
      split
      · simp
      · split
        · simp
        · rw [(ih _).1, (ih _).2]
          simp [Nat.add_assoc, Nat.add_comm 1]

theorem run_readChars (n : ℕ) (b : Bus) :
    (readChars n).val b = padTake 0 n b.rx ∧
      (readChars n).state b = { b with rx := b.rx.drop n, reads := b.reads + n } := by
  induction n generalizing b with
  | zero => simp [readChars]
  | succ n ih =>
      simp only [readChars, Prog.val_bind, Prog.state_bind, val_readChar, state_readChar,
        (ih _).1, (ih _).2, padTake_succ]
      simp [Nat.add_comm, Nat.add_left_comm]

theorem run_copyChars (n : ℕ) (buf : Ptr Obj) (b : Bus) :
    (copyChars n buf).val b = buf.add n ∧
      (copyChars n buf).state b =
        { b with
          mem := b.mem.storeList buf (padTake 0 n b.rx)
          rx := b.rx.drop n
          reads := b.reads + n } := by
  induction n generalizing buf b with
  | zero => simp [copyChars]
  | succ n ih =>
      simp only [copyChars, Prog.val_bind, Prog.state_bind, val_readChar, state_readChar,
        Bus.state_store, (ih _ _).1, (ih _ _).2, padTake_succ]
      simp [Nat.add_comm, Nat.add_left_comm]

theorem run_receiveParam (p : Param L) (b : Bus) :
    (receiveParam p).val b = { p with len := readLength 0 p.len b.rx } ∧
      (receiveParam p).state b =
        { b with
          mem := b.mem.storeList p.data
            (padTake 0 (toNat (readLength 0 p.len b.rx)) (b.rx.drop (width L)) ++ [0])
          rx := b.rx.drop (width L + toNat (readLength 0 p.len b.rx))
          reads := b.reads + (width L + toNat (readLength 0 p.len b.rx)) } := by
  simp only [receiveParam, Prog.val_bind, Prog.state_bind, (run_readChars _ _).1,
    (run_readChars _ _).2, (run_copyChars _ _ _).1, (run_copyChars _ _ _).2, Bus.state_store,
    Prog.val_pure, Prog.state_pure, Memory.storeList_append, length_padTake]
  exact ⟨rfl, by simp [readLength, Nat.add_assoc]⟩

theorem run_receiveParams (n : ℕ) (params : List (Param L)) (b : Bus) (hn : n ≤ params.length) :
    let r := takeFields 0 ((params.map Param.len).take n) b.rx
    (receiveParams n params).val b = setLens params r.1 ∧
      (receiveParams n params).state b =
        { b with
          mem := storeParams b.mem params r.1
          rx := b.rx.drop r.2
          reads := b.reads + r.2 } := by
  induction n generalizing params b with
  | zero => simp [receiveParams]
  | succ n ih =>
      obtain ⟨p, params, rfl⟩ : ∃ q qs, params = q :: qs :=
        List.exists_cons_of_length_pos (by omega)
      have h := ih params ((receiveParam p).state b) (by simpa using hn)
      simp only [receiveParams, Prog.val_bind, Prog.state_bind, Prog.val_pure, Prog.state_pure,
        h.1, h.2]
      simp only [(run_receiveParam p b).1, (run_receiveParam p b).2, List.map_cons,
        List.take_succ_cons, takeFields_cons, setLens_cons, storeParams_cons, ofNat_toNat,
        length_padTake, List.drop_drop, Nat.add_assoc, and_self]

/-! ## Whole replies -/

/-- **The decoders compute `parseReply`**, leave the parsed bytes at the destinations
and consume exactly the bytes they asked for. -/
theorem run_decodeReply (cmd numParamRead : UInt8) (params : List (Param L))
    (maxNumParams : UInt8) (b : Bus) (hmax : maxNumParams.toNat ≤ params.length) :
    let r := parseReply cmd maxNumParams (params.map Param.len) b.rx
    (decodeReply cmd numParamRead params maxNumParams).val b =
        ⟨r.ret, r.count.getD numParamRead, setLens params r.payloads⟩ ∧
      (decodeReply cmd numParamRead params maxNumParams).state b =
        { b with
          mem := storeParams b.mem params r.payloads
          rx := b.rx.drop r.reads
          reads := b.reads + r.reads } := by
  simp only [decodeReply, waitSpiChar, Prog.val_bind, Prog.state_bind, Prog.val_ite,
    Prog.state_ite, (run_waitSpiCharFrom _ _ _).1, (run_waitSpiCharFrom _ _ _).2,
    val_readAndCheckChar, state_readAndCheckChar, val_readChar, state_readChar, parseReply,
    truth_eq_zero, beq_eq_false_iff_ne, List.tail_drop, Nat.add_assoc]
  split
  · simp
  split
  · simp
  generalize hcount : (b.rx.drop ((seek startCmd timeoutChar b.rx).2 + 1)).headD 0 = count
  generalize hn : limitCount count maxNumParams = numParam
  by_cases hzero : numParam = 0
  · simp [hzero]
  have hle : numParam.toNat ≤ params.length := by
    rw [← hn, toNat_limitCount]
    omega
  obtain ⟨hval, hstate⟩ := run_receiveParams numParam.toNat params
    { b with
      rx := b.rx.drop ((seek startCmd timeoutChar b.rx).2 + 2)
      reads := b.reads + ((seek startCmd timeoutChar b.rx).2 + 2) } hle
  simp [hzero, hval, hstate, Nat.add_assoc]

/-- The size of the receive window: at most `maxSize` bytes, and at most 255. -/
def window (maxSize : UInt16) : ℕ := min maxSize.toNat 255

/-- What the transfer at the head of a decoder does, up to the handshake. -/
theorem state_receiveTransfer (maxSize : UInt16) (b : Bus) :
    ∃ log busy, (receiveTransfer maxSize).state b =
      { b with
        initialized := true
        espBusy := busy
        txBuffer := b.txBuffer.storeList (txAt 0) (List.replicate (window maxSize) 0)
        rx := (b.slave 0).take (window maxSize)
        slave := fun k => b.slave (k + 1)
        log := b.log ++ log } ∧
      log.filterMap Event.bytes? = [List.replicate (window maxSize) 0] := by
  have hwindow :
      (if maxSize > spiMaxRxBuffer then spiMaxRxBuffer else maxSize).toNat = window maxSize := by
    have h255 : spiMaxRxBuffer.toNat = 255 := rfl
    rw [window]
    split
    · next h =>
        have := UInt16.lt_iff_toNat_lt.mp h
        omega
    · next h =>
        have := mt UInt16.lt_iff_toNat_lt.mpr h
        omega
  have hload : ∀ m : Memory Unit UInt8, (m.storeList (txAt 0)
      (List.replicate (window maxSize) 0)).loadList (txAt 0) (window maxSize) =
        List.replicate (window maxSize) 0 := by
    intro m
    simpa using m.loadList_storeList (txAt 0) (List.replicate (window maxSize) 0)
  obtain ⟨l, busy, hsel, hl⟩ := state_waitForSlaveSelect { b with rx := [] }
  refine ⟨l ++ [.putArray (List.replicate (window maxSize) 0),
    .xSemaphoreTake .spiTxCompleted, .csOverrideWrite false], busy, ?_, by simp [hl]⟩
  simp only [receiveTransfer, hwindow, Prog.state_bind, Bus.state_clearTxBuffer,
    Bus.state_clearRxBuffer, hsel, state_putBytes, Bus.state_putArray, Bus.state_emit,
    spiSlaveDeselect, hload]
  simp [List.append_assoc]

section Response
variable (cmd : UInt8) (maxSize : UInt16) (numParamRead : UInt8) (params : List (Param L))
  (maxNumParams : UInt8) (b : Bus)

/-- The bytes shifted in during the call's transfer. -/
def received : List UInt8 := (b.slave 0).take (window maxSize)

/-- The parse of the bytes shifted in during the call's transfer. -/
def parsed : Parsed :=
  parseReply cmd maxNumParams (params.map Param.len) (received maxSize b)

/-- What a call of a decoder does, up to the handshake. -/
theorem run_receiveResponse (hmax : maxNumParams.toNat ≤ params.length) :
    (receiveResponse cmd maxSize numParamRead params maxNumParams).val b =
        ⟨(parsed cmd maxSize params maxNumParams b).ret,
          (parsed cmd maxSize params maxNumParams b).count.getD numParamRead,
          setLens params (parsed cmd maxSize params maxNumParams b).payloads⟩ ∧
      ∃ log busy, (receiveResponse cmd maxSize numParamRead params maxNumParams).state b =
        { b with
          initialized := true
          espBusy := busy
          mem := storeParams b.mem params (parsed cmd maxSize params maxNumParams b).payloads
          txBuffer := b.txBuffer.storeList (txAt 0) (List.replicate (window maxSize) 0)
          rx := (received maxSize b).drop (parsed cmd maxSize params maxNumParams b).reads
          reads := b.reads + (parsed cmd maxSize params maxNumParams b).reads
          slave := fun k => b.slave (k + 1)
          log := b.log ++ log } ∧
        log.filterMap Event.bytes? = [List.replicate (window maxSize) 0] := by
  obtain ⟨log, busy, hstate, hlog⟩ := state_receiveTransfer maxSize b
  have h := run_decodeReply cmd numParamRead params maxNumParams
    ((receiveTransfer maxSize).state b) hmax
  rw [hstate] at h
  obtain ⟨hval, hdec⟩ := h
  refine ⟨?_, log, busy, ?_, hlog⟩
  · simp only [receiveResponse, Prog.val_bind, hstate]
    exact hval
  · simp only [receiveResponse, Prog.state_bind, hstate]
    exact hdec

theorem val_receiveResponse (hmax : maxNumParams.toNat ≤ params.length) :
    (receiveResponse cmd maxSize numParamRead params maxNumParams).val b =
      ⟨(parsed cmd maxSize params maxNumParams b).ret,
        (parsed cmd maxSize params maxNumParams b).count.getD numParamRead,
        setLens params (parsed cmd maxSize params maxNumParams b).payloads⟩ :=
  (run_receiveResponse cmd maxSize numParamRead params maxNumParams b hmax).1

theorem mem_receiveResponse (hmax : maxNumParams.toNat ≤ params.length) :
    ((receiveResponse cmd maxSize numParamRead params maxNumParams).state b).mem =
      storeParams b.mem params (parsed cmd maxSize params maxNumParams b).payloads := by
  obtain ⟨-, log, busy, h, -⟩ :=
    run_receiveResponse cmd maxSize numParamRead params maxNumParams b hmax
  rw [h]

theorem reads_receiveResponse (hmax : maxNumParams.toNat ≤ params.length) :
    ((receiveResponse cmd maxSize numParamRead params maxNumParams).state b).reads =
      b.reads + (parsed cmd maxSize params maxNumParams b).reads := by
  obtain ⟨-, log, busy, h, -⟩ :=
    run_receiveResponse cmd maxSize numParamRead params maxNumParams b hmax
  rw [h]

theorem slave_receiveResponse (hmax : maxNumParams.toNat ≤ params.length) :
    ((receiveResponse cmd maxSize numParamRead params maxNumParams).state b).slave =
      fun k => b.slave (k + 1) := by
  obtain ⟨-, log, busy, h, -⟩ :=
    run_receiveResponse cmd maxSize numParamRead params maxNumParams b hmax
  rw [h]

theorem transmitted_receiveResponse (hmax : maxNumParams.toNat ≤ params.length) :
    ((receiveResponse cmd maxSize numParamRead params maxNumParams).state b).transmitted =
      b.transmitted ++ [List.replicate (window maxSize) 0] := by
  obtain ⟨-, log, busy, h, hlog⟩ :=
    run_receiveResponse cmd maxSize numParamRead params maxNumParams b hmax
  rw [h]
  simp [Bus.transmitted, hlog]

theorem txBuffer_receiveResponse (hmax : maxNumParams.toNat ≤ params.length) :
    ((receiveResponse cmd maxSize numParamRead params maxNumParams).state b).txBuffer =
      b.txBuffer.storeList (txAt 0) (List.replicate (window maxSize) 0) := by
  obtain ⟨-, log, busy, h, -⟩ :=
    run_receiveResponse cmd maxSize numParamRead params maxNumParams b hmax
  rw [h]

end Response

end SpiDrv
end WiFiNINA
