import WiFiNINA.Lib.Poll
import WiFiNINA.SpiDrv.Decode

/-!
# The search for the start byte

`SpiDrv_waitSpiChar` is a polling loop over the received bytes, which go on with zeros.  Its
post-decremented counter lets it read one byte more than its timeout, and what it returns is
decided by the last byte read alone.
-/

namespace WiFiNINA
namespace SpiDrv

/-- The received bytes, and the zeros that are read behind them. -/
def stream (b : Bus) (i : ℕ) : UInt8 := b.rx.getD i 0

/-- The first `n` bytes of the stream have been read. -/
def consumed (n : ℕ) (b : Bus) : Bus := { b with rx := b.rx.drop n, reads := b.reads + n }

/-- The byte `c` stands at index `k` of the stream, where the search for `waitChar` gets to. -/
structure FirstAt (b : Bus) (waitChar c : UInt8) (k : ℕ) : Prop where
  le : k ≤ timeoutChar
  byte : stream b k = c
  before : ∀ i < k, stream b i ≠ waitChar ∧ stream b i ≠ errCmd

theorem iterate_readChar (n : ℕ) (b : Bus) : readChar.state^[n] b = consumed n b := by
  induction n with
  | zero => simp [consumed]
  | succ n ih =>
      rw [Function.iterate_succ_apply', ih, state_readChar]
      simp [consumed, Nat.add_assoc]

theorem answers_readChar (b : Bus) (n : ℕ) : readChar.answers b n = stream b n := by
  rw [Prog.answers, iterate_readChar, val_readChar]
  simp [consumed, stream, List.headD_eq_head?_getD, List.getD_eq_getElem?_getD]

/-- A byte that ends the search. -/
def ends (waitChar c : UInt8) : Bool := c == errCmd || c == waitChar

theorem ends_eq_true {waitChar c : UInt8} : ends waitChar c = true ↔ c = errCmd ∨ c = waitChar := by
  simp [ends]

/-- What is returned for the last byte read. -/
def verdict (waitChar c : UInt8) : ℤ := if c = errCmd then -1 else truth (c == waitChar)

/-- The loop of the source is the polling loop. -/
theorem waitSpiCharFrom_eq_poll (waitChar : UInt8) (timeout : ℕ) (b : Bus) :
    (waitSpiCharFrom waitChar timeout).run b =
      (verdict waitChar ((Prog.poll readChar (ends waitChar) timeout).val b),
        (Prog.poll readChar (ends waitChar) timeout).state b) := by
  induction timeout generalizing b with
  | zero =>
      change (if readChar.val b = errCmd then pure (-1)
        else pure (truth (readChar.val b == waitChar)) : Prog Bus ℤ).run (readChar.state b) =
        (verdict waitChar (readChar.val b), readChar.state b)
      rw [verdict]
      split <;> rfl
  | succ timeout ih =>
      change (if readChar.val b = errCmd then pure (-1)
        else if readChar.val b = waitChar then pure 1
        else waitSpiCharFrom waitChar timeout : Prog Bus ℤ).run (readChar.state b) =
        (verdict waitChar ((Prog.poll readChar (ends waitChar) (timeout + 1)).run b).1,
          ((Prog.poll readChar (ends waitChar) (timeout + 1)).run b).2)
      rw [Prog.run_poll_succ]
      have hfirst : readChar.answers b 0 = readChar.val b := rfl
      rw [hfirst]
      by_cases herr : readChar.val b = errCmd
      · rw [if_pos herr, if_pos (ends_eq_true.mpr (.inl herr)), verdict, if_pos herr]
        rfl
      · by_cases hwait : readChar.val b = waitChar
        · rw [if_neg herr, if_pos hwait, if_pos (ends_eq_true.mpr (.inr hwait)), verdict,
            if_neg herr, truth, if_pos (beq_iff_eq.mpr hwait)]
          rfl
        · have hends : ¬ ends waitChar (readChar.val b) = true := by
            rw [ends_eq_true]
            exact not_or.mpr ⟨herr, hwait⟩
          rw [if_neg herr, if_neg hwait, if_neg hends]
          exact ih (readChar.state b)

/-- The last byte read decides, and nothing behind it is consumed. -/
theorem run_waitSpiChar {waitChar : UInt8} {b : Bus} {n : ℕ}
    (h : Settles (ends waitChar · = true) (stream b) timeoutChar n) :
    (waitSpiChar waitChar).val b = verdict waitChar (stream b n) ∧
      (waitSpiChar waitChar).state b = consumed (n + 1) b := by
  have hanswers : readChar.answers b = stream b := funext (answers_readChar b)
  have hrun := waitSpiCharFrom_eq_poll waitChar timeoutChar b
  rw [← hanswers] at h
  rw [Prog.val_poll h, Prog.state_poll h, iterate_readChar, hanswers] at hrun
  exact ⟨congrArg Prod.fst hrun, congrArg Prod.snd hrun⟩

section Result
variable {waitChar c : UInt8} {b : Bus} {k n : ℕ}

/-- The search ends at the first byte that it looks for. -/
theorem FirstAt.settles (h : FirstAt b waitChar c k) (hc : c = errCmd ∨ c = waitChar) :
    Settles (ends waitChar · = true) (stream b) timeoutChar k where
  le := h.le
  before i hi := by
    obtain ⟨hwait, herr⟩ := h.before i hi
    rw [ends_eq_true]
    exact not_or.mpr ⟨herr, hwait⟩
  last _ := ends_eq_true.mpr (h.byte ▸ hc)

theorem firstAt_of_settles (h : Settles (ends waitChar · = true) (stream b) timeoutChar n) :
    FirstAt b waitChar (stream b n) n where
  le := h.le
  byte := rfl
  before i hi := by
    obtain ⟨herr, hwait⟩ := not_or.mp (mt ends_eq_true.mpr (h.before i hi))
    exact ⟨hwait, herr⟩

/-- The byte at which the search has ended is the only one that can be first. -/
theorem exists_firstAt_iff (h : Settles (ends waitChar · = true) (stream b) timeoutChar n)
    (hc : c = errCmd ∨ c = waitChar) : (∃ k, FirstAt b waitChar c k) ↔ stream b n = c := by
  constructor
  · rintro ⟨k, hk⟩
    rw [h.unique (hk.settles hc)]
    exact hk.byte
  · intro hbyte
    exact ⟨n, hbyte ▸ firstAt_of_settles h⟩

theorem verdict_eq_one (hwait : waitChar ≠ errCmd) : verdict waitChar c = 1 ↔ c = waitChar := by
  rw [verdict]
  split
  · next h => simp [h, hwait.symm]
  · next h => rw [truth_eq_one, beq_iff_eq]

theorem verdict_eq_neg_one : verdict waitChar c = -1 ↔ c = errCmd := by
  rw [verdict]
  split
  · next h => simp [h]
  · next h => cases hc : c == waitChar <;> simp [truth, h]

/-- **The search for the start byte**: its result and the bytes it consumes are decided by which
of the two bytes comes first, and at most 1001 bytes are read. -/
theorem waitSpiChar_spec (hwait : waitChar ≠ errCmd) (b : Bus) :
    ((waitSpiChar waitChar).val b = 1 ↔ ∃ k, FirstAt b waitChar waitChar k) ∧
      ((waitSpiChar waitChar).val b = -1 ↔ ∃ k, FirstAt b waitChar errCmd k) ∧
      (∀ k c, c = waitChar ∨ c = errCmd → FirstAt b waitChar c k →
        (waitSpiChar waitChar).state b = consumed (k + 1) b) ∧
      ((¬ ∃ k, FirstAt b waitChar waitChar k) → (¬ ∃ k, FirstAt b waitChar errCmd k) →
        (waitSpiChar waitChar).val b = 0 ∧
          (waitSpiChar waitChar).state b = consumed (timeoutChar + 1) b) := by
  obtain ⟨n, hn⟩ := exists_settles (ends waitChar · = true) (stream b) timeoutChar
  obtain ⟨hval, hstate⟩ := run_waitSpiChar hn
  have hfound := exists_firstAt_iff hn (.inr rfl)
  have herror := exists_firstAt_iff hn (.inl rfl)
  refine ⟨?_, ?_, ?_, ?_⟩
  · rw [hval, verdict_eq_one hwait, hfound]
  · rw [hval, verdict_eq_neg_one, herror]
  · intro k c hc hk
    rw [hstate, hn.unique (hk.settles hc.symm)]
  · intro hnone hnoerr
    rw [hfound] at hnone
    rw [herror] at hnoerr
    have hlast : n = timeoutChar := by
      by_contra hne
      have hends := hn.last (Nat.lt_of_le_of_ne hn.le hne)
      exact (ends_eq_true.mp hends).elim hnoerr hnone
    rw [hval, hstate, verdict, if_neg hnoerr, hlast]
    exact ⟨truth_eq_zero.mpr (beq_eq_false_iff_ne.mpr (hlast ▸ hnone)), rfl⟩

end Result

/-- A start byte behind one other byte. -/
theorem waitSpiChar_start :
    (waitSpiChar startCmd).val { Bus.fresh fun _ => [] with rx := [7, startCmd, 9] } = 1 :=
  (waitSpiChar_spec (by decide) _).1.mpr ⟨1, by decide, by decide, by decide⟩

end SpiDrv
end WiFiNINA
