import WiFiNINA.FixedWidth
import WiFiNINA.SpiDrv.Single

/-!
# Polling for sent data

`ServerDrv_checkDataSent` polls up to 25 times with one parameter array, in which every
reply leaves its length.  The first reply that brings a parameter is cut to nothing, as
the capacity is one, and leaves the capacity zero; the second one then wraps.
-/

namespace WiFiNINA

open LengthCode SpiDrv

namespace ServerDrv

/-- The local `response` of `ServerDrv_checkDataSent`. -/
def responseVar : Ptr Obj := ⟨.auto .response 1, 0⟩

/-- The parameter `sock`. -/
def sockVar : Ptr Obj := ⟨.auto .sock 1, 0⟩

/-- A poll and the zeros shifted out for its reply. -/
def pollTransfers (sock : UInt8) : List (List UInt8) :=
  [frame UInt8 dataSentTcpCmd [[sock]], List.replicate 20 0]

/-- A reply to a poll that carries a response byte other than zero. -/
def Confirms (s : List UInt8) : Prop :=
  Brings dataSentTcpCmd s ∧ firstLength UInt8 s ≠ 0 ∧ ((firstField s).drop 1).headD 0 ≠ 0

/-- The capacity in `outParams[0]` at the start of each iteration of the polling loop. -/
def capacities (sock response : Ptr Obj) : ℕ → List TParam → Bus → List ℕ
  | 0, _, _ => []
  | left + 1, outParams, b =>
      let poll := exchange dataSentTcpCmd 1 [(⟨1, sock⟩ : TParam)] 20 outParams 1
      Reply.lenAt ⟨0, 0, outParams⟩ 0 ::
        if (poll.state b).mem.load response = 0 then
          capacities sock response left (poll.val b).params (poll.state b)
        else []

/-- A run of the polling loop from `b`, with result `v` and final state `b'`, is safe and
correct. -/
structure Polls (sock : UInt8) (left : ℕ) (b : Bus) (v : ℤ) (b' : Bus) : Prop where
  /-- The polls are counted, and the result says whether one of them was confirmed. -/
  polls : ∃ n ≤ left,
    b'.transmitted = b.transmitted ++ (List.replicate n (pollTransfers sock)).flatten ∧
      (v = 1 ↔ ∃ k < n, Confirms (replyAt 20 b k))
  /-- What the decoder stores lies in the variable. -/
  stores : ∀ a ∈ b'.mem.since b.mem, a ∈ responseVar.region 1
  /-- The capacity is that of the variable at the start of every iteration. -/
  capacity : ∀ c ∈ capacities sockVar responseVar left [⟨1, responseVar⟩] b, c = 1

/-- The loop has its socket number in place, and has not seen a response. -/
structure Waiting (sock : UInt8) (b : Bus) : Prop where
  sock : b.mem.loadList sockVar 1 = [sock]
  response : b.mem.load responseVar = 0

/-- A poll with a given capacity. -/
def poll (cap : UInt8) : Prog Bus (Reply UInt8) :=
  exchange dataSentTcpCmd 1 [(⟨1, sockVar⟩ : TParam)] 20 [(⟨cap, responseVar⟩ : TParam)] 1

section Poll
variable {sock cap : UInt8} {b : Bus}

theorem replyAt_poll (k : ℕ) : replyAt 20 ((poll cap).state b) k = replyAt 20 b (k + 1) := by
  rw [replyAt, poll, slave_exchange _ _ _ _ _ _ _ rfl le_rfl]
  rfl

theorem transmitted_poll (h : Waiting sock b) :
    ((poll cap).state b).transmitted = b.transmitted ++ pollTransfers sock := by
  rw [poll, transmitted_exchange _ _ _ _ _ _ _ rfl le_rfl]
  simp only [List.map_cons, List.map_nil, Param.bytes, toNat_uint8, UInt8.reduceToNat, h.sock]
  rfl

/-- A poll whose reply brings nothing changes nothing. -/
theorem poll_of_not_brings (cap : UInt8) (h : ¬ Brings dataSentTcpCmd (reply 20 b)) :
    ((poll cap).state b).mem = b.mem ∧ ((poll cap).val b).params = [⟨cap, responseVar⟩] := by
  rw [poll, mem_exchange_single _ _ _ _ _ _ _ rfl, params_exchange_single _ _ _ _ _ _ _ rfl,
    if_neg h, if_neg h]
  exact ⟨rfl, rfl⟩

/-- A capacity of one cuts every parameter to nothing. -/
theorem clip_one (len : UInt8) : clip 1 len = 0 := by
  apply UInt8.toNat_inj.mp
  have h : toNat (clip (1 : UInt8) len) = min (toNat len) (toNat (1 : UInt8) - 1) :=
    toNat_clip len (by decide)
  simp only [toNat_uint8, show UInt8.toNat 1 = 1 from rfl] at h
  rw [h]
  simp

/-- The first reply that brings a parameter stores a zero, and leaves the capacity zero. -/
theorem poll_of_brings (h : Brings dataSentTcpCmd (reply 20 b)) :
    ((poll 1).state b).mem = b.mem.storeList responseVar [0] ∧
      ((poll 1).val b).params = [⟨0, responseVar⟩] := by
  rw [poll, mem_exchange_single _ _ _ _ _ _ _ rfl, params_exchange_single _ _ _ _ _ _ _ rfl,
    if_pos h, if_pos h, clip_one, firstParam, clip_one]
  simp

theorem Waiting.of_mem (h : Waiting sock b) {b' : Bus}
    (hmem : b'.mem = b.mem ∨ b'.mem = b.mem.storeList responseVar [0]) : Waiting sock b' := by
  rcases hmem with hmem | hmem
  · exact ⟨by rw [hmem, h.sock], by rw [hmem, h.response]⟩
  · refine ⟨?_, by rw [hmem]; simp⟩
    rw [hmem, Memory.loadList_storeList_of_obj_ne _ _ (by decide), h.sock]

/-- With the capacity of the variable, a poll leaves the loop waiting. -/
theorem Waiting.poll (h : Waiting sock b) : Waiting sock ((poll 1).state b) := by
  by_cases hb : Brings dataSentTcpCmd (reply 20 b)
  · exact h.of_mem (.inr (poll_of_brings hb).1)
  · exact h.of_mem (.inl (poll_of_not_brings _ hb).1)

/-- While the loop is waiting it goes on. -/
theorem pollDataSent_succ (left : ℕ) (h : Waiting sock ((ServerDrv.poll cap).state b)) :
    (pollDataSent sockVar responseVar (left + 1) [⟨cap, responseVar⟩]).val b =
        (pollDataSent sockVar responseVar left ((ServerDrv.poll cap).val b).params).val
          ((ServerDrv.poll cap).state b) ∧
      (pollDataSent sockVar responseVar (left + 1) [⟨cap, responseVar⟩]).state b =
        (pollDataSent sockVar responseVar left ((ServerDrv.poll cap).val b).params).state
          ((ServerDrv.poll cap).state b) := by
  rw [ServerDrv.poll] at h ⊢
  have hzero : ofLe (((exchange dataSentTcpCmd 1 [(⟨1, sockVar⟩ : TParam)] 20
      [(⟨cap, responseVar⟩ : TParam)] 1).state b).mem.loadList responseVar 1) = 0 := by
    simp [Memory.loadList_succ, h.response, ofLe]
  simp [pollDataSent_step, hzero]

end Poll

/-! ## The loop -/

section Loop
variable {sock cap : UInt8} {b : Bus}

theorem capacities_succ (left : ℕ) (h : Waiting sock ((poll cap).state b)) :
    capacities sockVar responseVar (left + 1) [⟨cap, responseVar⟩] b = cap.toNat ::
      capacities sockVar responseVar left ((poll cap).val b).params ((poll cap).state b) := by
  have hzero := h.response
  rw [poll] at hzero ⊢
  simp [capacities, Reply.lenAt, hzero]

/-- Where no reply but the last may bring a parameter, every poll is made and none is
confirmed. -/
theorem run_pollDataSent {n : ℕ} (h : Waiting sock b)
    (hquiet : ∀ k < n, ¬ Brings dataSentTcpCmd (replyAt 20 b k)) :
    (pollDataSent sockVar responseVar (n + 1) [⟨1, responseVar⟩]).val b = 0 ∧
      ((pollDataSent sockVar responseVar (n + 1) [⟨1, responseVar⟩]).state b).transmitted =
        b.transmitted ++ (List.replicate (n + 1) (pollTransfers sock)).flatten ∧
      (∀ a ∈ ((pollDataSent sockVar responseVar (n + 1) [⟨1, responseVar⟩]).state b).mem.since
        b.mem, a ∈ responseVar.region 1) ∧
      ∀ c ∈ capacities sockVar responseVar (n + 1) [⟨1, responseVar⟩] b, c = 1 := by
  induction n generalizing b with
  | zero =>
      obtain ⟨hval, hstate⟩ := pollDataSent_succ 0 h.poll
      rw [hval, hstate, capacities_succ 0 h.poll]
      refine ⟨rfl, ?_, ?_, by simp [capacities]⟩
      · rw [pollDataSent_zero, Prog.state_pure, transmitted_poll h]
        simp
      · rw [pollDataSent_zero, Prog.state_pure]
        by_cases hb : Brings dataSentTcpCmd (reply 20 b)
        · rw [(poll_of_brings hb).1, Memory.since_storeList]
          simp
        · rw [(poll_of_not_brings _ hb).1, Memory.since_self]
          simp
  | succ n ih =>
      obtain ⟨hmem, hparams⟩ := poll_of_not_brings 1 (hquiet 0 (Nat.succ_pos n))
      obtain ⟨hval, hstate⟩ := pollDataSent_succ (n + 1) h.poll
      obtain ⟨hzero, htransmitted, hstores, hcapacity⟩ := ih h.poll fun k hk => by
        rw [replyAt_poll]
        exact hquiet (k + 1) (Nat.succ_lt_succ hk)
      rw [hval, hstate, capacities_succ (n + 1) h.poll, hparams]
      refine ⟨hzero, ?_, ?_, ?_⟩
      · rw [htransmitted, transmitted_poll h, List.append_assoc, List.replicate_succ (n := n + 1),
          List.flatten_cons]
      · rwa [hmem] at hstores
      · simpa using hcapacity

/-- A capacity of one at the start of every iteration leaves no room for a parameter before
the last. -/
theorem quiet_of_capacities {n : ℕ} (h : Waiting sock b)
    (hcapacity : ∀ c ∈ capacities sockVar responseVar (n + 1) [⟨1, responseVar⟩] b, c = 1) :
    ∀ k < n, ¬ Brings dataSentTcpCmd (replyAt 20 b k) := by
  induction n generalizing b with
  | zero => simp
  | succ n ih =>
      rw [capacities_succ (n + 1) h.poll, List.forall_mem_cons] at hcapacity
      by_cases hb : Brings dataSentTcpCmd (reply 20 b)
      · rw [(poll_of_brings hb).2, capacities, List.forall_mem_cons] at hcapacity
        exact absurd hcapacity.2.1 (by decide)
      · rw [(poll_of_not_brings _ hb).2] at hcapacity
        intro k hk
        cases k with
        | zero => exact hb
        | succ k =>
            have hreply : replyAt 20 ((poll 1).state b) k = replyAt 20 b (k + 1) := replyAt_poll k
            rw [← hreply]
            exact ih h.poll hcapacity.2 k (Nat.lt_of_succ_lt_succ hk)

theorem polls_iff {n : ℕ} (h : Waiting sock b) :
    Polls sock (n + 1) b ((pollDataSent sockVar responseVar (n + 1) [⟨1, responseVar⟩]).val b)
        ((pollDataSent sockVar responseVar (n + 1) [⟨1, responseVar⟩]).state b) ↔
      (∀ k < n, ¬ Brings dataSentTcpCmd (replyAt 20 b k)) ∧ ¬ Confirms (replyAt 20 b n) := by
  constructor
  · rintro ⟨⟨m, -, htransmitted, hresult⟩, -, hcapacity⟩
    have hquiet := quiet_of_capacities h hcapacity
    obtain ⟨hval, hall, -⟩ := run_pollDataSent h hquiet
    refine ⟨hquiet, fun hlast => ?_⟩
    -- the number of polls can be read off the transfers
    have hm : m = n + 1 := by
      have hlen := congrArg List.length (List.append_cancel_left (htransmitted.symm.trans hall))
      simpa [pollTransfers] using hlen
    have hone := hresult.mpr ⟨n, by omega, hlast⟩
    rw [hval] at hone
    exact absurd hone (by decide)
  · rintro ⟨hquiet, hlast⟩
    obtain ⟨hval, htransmitted, hstores, hcapacity⟩ := run_pollDataSent h hquiet
    refine ⟨⟨n + 1, le_rfl, htransmitted, ?_⟩, hstores, hcapacity⟩
    rw [hval]
    refine ⟨fun h => absurd h (by decide), ?_⟩
    rintro ⟨k, hk, hconfirms⟩
    rcases Nat.lt_succ_iff_lt_or_eq.mp hk with hlt | rfl
    · exact absurd hconfirms.1 (hquiet k hlt)
    · exact absurd hconfirms hlast

end Loop

section Stores
variable {sock cap : UInt8} {b : Bus}

theorem log_poll (cap : UInt8) (b : Bus) :
    ∃ new, ((poll cap).state b).mem.log = new ++ b.mem.log := by
  rw [poll, mem_exchange_single _ _ _ _ _ _ _ rfl]
  split
  · exact ⟨_, Memory.log_storeList _ _ _⟩
  · exact ⟨[], rfl⟩

/-- The loop goes on with one parameter, or ends. -/
theorem pollDataSent_cases (left : ℕ) (cap : UInt8) (b : Bus) :
    ∃ cap', ((poll cap).val b).params = [⟨cap', responseVar⟩] ∧
      ((pollDataSent sockVar responseVar (left + 1) [⟨cap, responseVar⟩]).state b =
          (poll cap).state b ∨
        (pollDataSent sockVar responseVar (left + 1) [⟨cap, responseVar⟩]).state b =
          (pollDataSent sockVar responseVar left [⟨cap', responseVar⟩]).state
            ((poll cap).state b)) := by
  obtain ⟨cap', hparams⟩ : ∃ cap', ((poll cap).val b).params = [⟨cap', responseVar⟩] := by
    rw [poll, params_exchange_single _ _ _ _ _ _ _ rfl]
    split <;> exact ⟨_, rfl⟩
  refine ⟨cap', hparams, ?_⟩
  rw [poll] at hparams ⊢
  simp only [pollDataSent_step, Prog.state_bind, Prog.state_ite, Prog.state_pure, hparams,
    Bus.state_loadList]
  split
  · exact .inl rfl
  · exact .inr rfl

theorem log_pollDataSent (left : ℕ) (cap : UInt8) (b : Bus) :
    ∃ new, ((pollDataSent sockVar responseVar left [⟨cap, responseVar⟩]).state b).mem.log =
      new ++ b.mem.log := by
  induction left generalizing cap b with
  | zero => exact ⟨[], rfl⟩
  | succ left ih =>
      obtain ⟨new, hlog⟩ := log_poll cap b
      obtain ⟨cap', -, hstate | hstate⟩ := pollDataSent_cases left cap b
      · exact ⟨new, by rw [hstate, hlog]⟩
      · obtain ⟨new', hlog'⟩ := ih cap' ((poll cap).state b)
        exact ⟨new' ++ new, by rw [hstate, hlog', hlog, List.append_assoc]⟩

/-- What a run of the loop stores is what its first poll stores and what follows. -/
theorem stores_succ (left : ℕ) (h : Waiting sock ((poll cap).state b)) {cap' : UInt8}
    (hparams : ((poll cap).val b).params = [⟨cap', responseVar⟩]) {P : Ptr Obj → Prop} :
    (∀ a ∈ ((pollDataSent sockVar responseVar (left + 1)
        [⟨cap, responseVar⟩]).state b).mem.since b.mem, P a) ↔
      (∀ a ∈ ((poll cap).state b).mem.since b.mem, P a) ∧
      ∀ a ∈ ((pollDataSent sockVar responseVar left [⟨cap', responseVar⟩]).state
        ((poll cap).state b)).mem.since ((poll cap).state b).mem, P a := by
  obtain ⟨new, hlog⟩ := log_poll cap b
  obtain ⟨new', hlog'⟩ := log_pollDataSent left cap' ((poll cap).state b)
  rw [(pollDataSent_succ left h).2, hparams]
  exact Memory.forall_since_trans hlog hlog'

/-- With a capacity that has wrapped, a parameter runs over the end of the variable. -/
theorem overrun_of_brings (left : ℕ) (hb : Brings dataSentTcpCmd (reply 20 b)) :
    ¬ ∀ a ∈ ((pollDataSent sockVar responseVar (left + 1)
      [⟨0, responseVar⟩]).state b).mem.since b.mem, a ∈ responseVar.region 1 := by
  have hmem : ((poll 0).state b).mem =
      b.mem.storeList responseVar (firstParam (0 : UInt8) (reply 20 b) ++ [0]) := by
    rw [poll, mem_exchange_single _ _ _ _ _ _ _ rfl, if_pos hb]
  have hlen : (firstParam (0 : UInt8) (reply 20 b)).length = 255 := by
    rw [length_firstParam, clip, if_pos (show toNat (0 : UInt8) ≤ _ from Nat.zero_le _)]
    rfl
  have hlog := Memory.log_storeList b.mem responseVar (firstParam (0 : UInt8) (reply 20 b) ++ [0])
  rw [← hmem] at hlog
  -- the second byte is outside, whatever follows
  have hout : ¬ ∀ a ∈ ((poll 0).state b).mem.since b.mem, a ∈ responseVar.region 1 := by
    rw [Memory.since_of_log hlog]
    intro h
    have hmem := h (responseVar.add 1) (List.mem_reverse.mpr
      (Ptr.mem_region.mpr ⟨1, by simp [hlen], rfl⟩))
    simp [Ptr.mem_region, responseVar, Ptr.add] at hmem
  intro h
  obtain ⟨cap', -, hstate | hstate⟩ := pollDataSent_cases left 0 b
  · rw [hstate] at h
    exact hout h
  · obtain ⟨new', hlog'⟩ := log_pollDataSent left cap' ((poll 0).state b)
    rw [hstate, Memory.forall_since_trans hlog hlog'] at h
    exact hout h.1

/-- With a capacity that has wrapped, the loop is safe as long as nothing is brought. -/
theorem stores_wrapped_iff {n : ℕ} (h : Waiting sock b) :
    (∀ a ∈ ((pollDataSent sockVar responseVar n [⟨0, responseVar⟩]).state b).mem.since b.mem,
      a ∈ responseVar.region 1) ↔ ∀ k < n, ¬ Brings dataSentTcpCmd (replyAt 20 b k) := by
  induction n generalizing b with
  | zero => simp [pollDataSent_zero]
  | succ n ih =>
      by_cases hb : Brings dataSentTcpCmd (reply 20 b)
      · exact iff_of_false (overrun_of_brings n hb) fun hq => hq 0 (Nat.succ_pos n) hb
      · obtain ⟨hmem, hparams⟩ := poll_of_not_brings 0 hb
        have hwait : Waiting sock ((poll 0).state b) := h.of_mem (.inl hmem)
        rw [stores_succ n hwait hparams, ih hwait, hmem, Memory.since_self, Nat.forall_lt_succ_left]
        simp [replyAt_poll, hb]

/-- The loop is safe as long as at most one reply brings a parameter. -/
theorem stores_iff {n : ℕ} (h : Waiting sock b) :
    (∀ a ∈ ((pollDataSent sockVar responseVar n [⟨1, responseVar⟩]).state b).mem.since b.mem,
      a ∈ responseVar.region 1) ↔
      ∀ j < n, ∀ k < n, Brings dataSentTcpCmd (replyAt 20 b j) →
        Brings dataSentTcpCmd (replyAt 20 b k) → j = k := by
  induction n generalizing b with
  | zero => simp [pollDataSent_zero]
  | succ n ih =>
      by_cases hb : Brings dataSentTcpCmd (reply 20 b)
      · obtain ⟨hmem, hparams⟩ := poll_of_brings hb
        rw [stores_succ n h.poll hparams, stores_wrapped_iff h.poll, hmem, Memory.since_storeList]
        simp only [Nat.forall_lt_succ_left, replyAt_poll, hb]
        constructor
        · rintro ⟨-, hquiet⟩
          exact ⟨⟨by simp, fun k hk _ hk' => absurd hk' (hquiet k hk)⟩,
            fun j hj => ⟨fun hj' => absurd hj' (hquiet j hj),
              fun k hk _ hk' => absurd hk' (hquiet k hk)⟩⟩
        · rintro ⟨⟨-, hfirst⟩, -⟩
          exact ⟨by simp, fun k hk hk' => absurd (hfirst k hk trivial hk') (by omega)⟩
      · obtain ⟨hmem, hparams⟩ := poll_of_not_brings 1 hb
        rw [stores_succ n h.poll hparams, ih h.poll, hmem, Memory.since_self]
        simp only [Nat.forall_lt_succ_left, replyAt_poll, hb]
        simp

end Stores

/-- The driver when `ServerDrv_checkDataSent` enters its loop. -/
def prepared (sock : UInt8) (b : Bus) : Bus :=
  { b with mem := (b.mem.storeList responseVar [0]).storeList sockVar [sock] }

theorem waiting_prepared (sock : UInt8) (b : Bus) : Waiting sock (prepared sock b) where
  sock := Memory.loadList_storeList _ _ _
  response := by
    rw [prepared, Memory.load_storeList_of_obj_ne _ (by decide)]
    simp

/-- The call is its loop from there. -/
theorem run_checkDataSent (sock : UInt8) (b : Bus) :
    (checkDataSent sock).run b =
      (pollDataSent sockVar responseVar (24 + 1) [⟨1, responseVar⟩]).run (prepared sock b) := by
  generalize hleft : 24 + 1 = left
  have h25 : 25 = left := hleft
  simp only [checkDataSent, h25]
  rfl

theorem state_checkDataSent (sock : UInt8) (b : Bus) :
    (checkDataSent sock).state b =
      (pollDataSent sockVar responseVar (24 + 1) [⟨1, responseVar⟩]).state (prepared sock b) := by
  rw [Prog.state, Prog.state, run_checkDataSent]

/-- **When polling for sent data is safe and correct**: no reply before the last may bring a
parameter, and the last one must not confirm. -/
theorem dataSent_polls (sock : UInt8) (b : Bus) :
    Polls sock 25 (prepared sock b) ((checkDataSent sock).val b) ((checkDataSent sock).state b) ↔
      (∀ k < 24, ¬ Brings dataSentTcpCmd (replyAt 20 b k)) ∧ ¬ Confirms (replyAt 20 b 24) := by
  rw [Prog.val, Prog.state, run_checkDataSent]
  exact polls_iff (n := 24) (waiting_prepared sock b)

/-- **When polling stays inside its variable**: at most one of the replies may bring a
parameter. -/
theorem dataSent_stores_iff (sock : UInt8) (b : Bus) :
    (∀ a ∈ ((checkDataSent sock).state b).mem.since (prepared sock b).mem,
      a ∈ responseVar.region 1) ↔
      ∀ j < 25, ∀ k < 25, Brings dataSentTcpCmd (replyAt 20 b j) →
        Brings dataSentTcpCmd (replyAt 20 b k) → j = k := by
  rw [state_checkDataSent]
  exact stores_iff (n := 24 + 1) (waiting_prepared sock b)

/-- The module confirms every poll. -/
def confirming : Bus := Bus.fresh fun _ => replyFrame UInt8 dataSentTcpCmd [[1]]

/-- The second confirmation finds no capacity left. -/
theorem confirming_not_polls :
    ¬ Polls 0 25 (prepared 0 confirming) ((checkDataSent 0).val confirming)
      ((checkDataSent 0).state confirming) := by
  intro h
  exact quiet_of_capacities (n := 24) (waiting_prepared 0 confirming) h.capacity 0 (by decide)
    (by decide)

end ServerDrv
end WiFiNINA
