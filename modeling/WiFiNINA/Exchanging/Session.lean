import WiFiNINA.Exchanging.Runs
import WiFiNINA.Lib.Reader

/-!
# What the module can read

A module that knows no more than the two framings, and which commands use the longer one, can
read everything that the library sends it: the bytes on the wire determine the requests with
their parameters, and how many bytes of each reply are fetched.
-/

namespace WiFiNINA

open LengthCode

instance : ExactCode UInt8 UInt8 where
  encode_decode s hs := by
    obtain ⟨c, rfl⟩ := List.length_eq_one_iff.mp hs
    rfl

instance : ExactCode UInt16 UInt8 where
  encode_decode s hs := by
    obtain ⟨a, b, rfl⟩ := List.length_eq_two.mp hs
    have ha := a.toNat_lt
    have hb := b.toNat_lt
    change [((decode [a, b] : UInt16) >>> 8 &&& 0xFF).toUInt8,
      ((decode [a, b] : UInt16) &&& 0xFF).toUInt8] = [a, b]
    have hvalue : (decode [a, b] : UInt16).toNat = a.toNat * 256 + b.toNat := toNat_join a b
    have hhigh : ((decode [a, b] : UInt16) >>> 8 &&& 0xFF).toUInt8 = a := by
      apply UInt8.toNat_inj.mp
      simp [hvalue, Nat.and_two_pow_sub_one_eq_mod _ 8, Nat.shiftRight_eq_div_pow]
      omega
    have hlow : ((decode [a, b] : UInt16) &&& 0xFF).toUInt8 = b := by
      apply UInt8.toNat_inj.mp
      simp [hvalue, Nat.and_two_pow_sub_one_eq_mod _ 8]
    rw [hhigh, hlow]

section Frame
variable (L : Type) [LengthCode L UInt8]

/-- Read a request in one framing: start byte, a command without the bit for replies, the
counted parameters, the padding, and the end byte. -/
def readFrame : List UInt8 → Option (UInt8 × List (List UInt8))
  | start :: cmd :: count :: body =>
      if start = startCmd ∧ cmd &&& ~~~replyFlag = cmd then
        (readFields L count.toNat body).bind fun r =>
          if r.2 = List.replicate (padding (body.length - r.2.length)) 0 ++ [endCmd] then
            some (cmd, r.1)
          else none
      else none
  | _ => none

variable {L} {cmd : UInt8} {xs : List (List UInt8)} {f : List UInt8}

theorem frame_of_plain (hplain : cmd &&& ~~~replyFlag = cmd) (xs : List (List UInt8)) :
    frame L cmd xs = startCmd :: cmd :: UInt8.ofNat xs.length ::
      (fields L xs ++ (List.replicate (padding (fieldsSize L xs)) 0 ++ [endCmd])) := by
  simp [frame, hplain]

/-- How much of the body the parameters take. -/
theorem size_of_rest {body rest : List UInt8} (h : body = fields L xs ++ rest) :
    body.length - rest.length = fieldsSize L xs := by
  rw [h, List.length_append, length_fields, Nat.add_sub_cancel]

theorem readFrame_eq_some [ExactCode L UInt8] :
    readFrame L f = some (cmd, xs) ↔ cmd &&& ~~~replyFlag = cmd ∧ xs.length < 256 ∧
      (∀ x ∈ xs, x.length < bound L) ∧ f = frame L cmd xs := by
  constructor
  · intro h
    unfold readFrame at h
    split at h
    · next start cmd' count body =>
        split at h
        · next hhead =>
            obtain ⟨⟨ys, rest⟩, hfields, h⟩ := Option.bind_eq_some_iff.mp h
            split at h
            · next hrest =>
                obtain ⟨rfl, rfl⟩ := Prod.mk.inj (Option.some.inj h)
                obtain ⟨hcount, hxs, hbody⟩ := readFields_eq_some.mp hfields
                rw [size_of_rest hbody] at hrest
                refine ⟨hhead.2, hcount ▸ count.toNat_lt, hxs, ?_⟩
                rw [frame_of_plain hhead.2, ← hrest, ← hbody, hhead.1, hcount, UInt8.ofNat_toNat]
            · cases h
        · cases h
    · cases h
  · rintro ⟨hplain, hcount, hxs, rfl⟩
    have hread := readFields_fields (L := L) hxs
      (List.replicate (padding (fieldsSize L xs)) 0 ++ [endCmd])
    rw [frame_of_plain hplain, readFrame, if_pos ⟨rfl, hplain⟩,
      UInt8.toNat_ofNat_of_lt' hcount, hread, Option.bind_some]
    have hsize (rest : List UInt8) :
        (fields L xs ++ rest).length - rest.length = fieldsSize L xs := size_of_rest rfl
    exact if_pos (by rw [hsize])

end Frame

/-- Read a request, in the framing of its command. -/
def readRequest (f : List UInt8) : Option (UInt8 × List (List UInt8)) :=
  if longCommand (f.getD 1 0) then readFrame UInt16 f else readFrame UInt8 f

theorem plain_iff (cmd : UInt8) : cmd &&& ~~~replyFlag = cmd ↔ cmd ∈ plainCommands := by
  have hmask : (cmd &&& ~~~replyFlag).toNat = cmd.toNat % 128 := by
    rw [UInt8.toNat_and]
    exact Nat.and_two_pow_sub_one_eq_mod cmd.toNat 7
  rw [← UInt8.toNat_inj, hmask]
  change cmd.toNat % 128 = cmd.toNat ↔ cmd.toNat < 128
  omega

theorem second_frame {L : Type} [LengthCode L UInt8] {cmd : UInt8}
    (hplain : cmd &&& ~~~replyFlag = cmd) (xs : List (List UInt8)) :
    (frame L cmd xs).getD 1 0 = cmd := by
  rw [frame_of_plain hplain]
  rfl

/-- **One request.**  The reader accepts what the encoders write, and nothing else. -/
theorem readRequest_eq_some {f : List UInt8} {cmd : UInt8} {xs : List (List UInt8)} :
    readRequest f = some (cmd, xs) ↔ cmd ∈ plainCommands ∧ xs.length < 256 ∧
      (∀ x ∈ xs, x.length < lengthBound cmd) ∧ f = requestFrame cmd xs := by
  rw [← plain_iff, readRequest]
  constructor
  · intro h
    split at h
    · next hlong =>
        obtain ⟨hplain, hcount, hxs, rfl⟩ := readFrame_eq_some.mp h
        have hframed := framed_of_long (second_frame (L := UInt16) hplain xs ▸ hlong)
        exact ⟨hplain, hcount, hframed.bound_eq ▸ hxs, hframed.frame_eq xs⟩
    · next hshort =>
        obtain ⟨hplain, hcount, hxs, rfl⟩ := readFrame_eq_some.mp h
        rw [second_frame hplain, Bool.not_eq_true] at hshort
        have hframed := framed_of_short hshort
        exact ⟨hplain, hcount, hframed.bound_eq ▸ hxs, hframed.frame_eq xs⟩
  · rintro ⟨hplain, hcount, hxs, rfl⟩
    cases hlong : longCommand cmd with
    | true =>
        have hframed := framed_of_long hlong
        rw [← hframed.bound_eq] at hxs
        rw [← hframed.frame_eq, second_frame hplain, if_pos hlong]
        exact readFrame_eq_some.mpr ⟨hplain, hcount, hxs, rfl⟩
    | false =>
        have hframed := framed_of_short hlong
        rw [← hframed.bound_eq] at hxs
        rw [← hframed.frame_eq, second_frame hplain, hlong, if_neg Bool.false_ne_true]
        exact readFrame_eq_some.mpr ⟨hplain, hcount, hxs, rfl⟩

/-- Read transfers, by turns a request and the zeros with which its reply is fetched. -/
def readSession : List (List UInt8) → Option (List Exchange)
  | [] => some []
  | [_] => none
  | request :: reply :: ts =>
      (readRequest request).bind fun r =>
        if reply = List.replicate reply.length 0 ∧ 16 ≤ reply.length ∧ reply.length ≤ 255 then
          (readSession ts).map fun es => ⟨r.1, r.2, reply.length⟩ :: es
        else none

theorem readSession_wire {e : Exchange} (hcmd : e.cmd ∈ plainCommands) (he : e.Valid)
    (ts : List (List UInt8)) :
    readSession (e.wire ++ ts) = (readSession ts).map (e :: ·) := by
  have hrequest : readRequest (requestFrame e.cmd e.args) = some (e.cmd, e.args) :=
    readRequest_eq_some.mpr ⟨hcmd, he.count, he.args, rfl⟩
  rw [Exchange.wire, List.cons_append, List.cons_append, List.nil_append, readSession, hrequest,
    Option.bind_some, List.length_replicate, if_pos ⟨rfl, he.window⟩]

/-- **All transfers.**  The reader accepts what consists of whole exchanges, and nothing else;
the exchanges are determined by their transfers. -/
theorem readSession_eq_some {ts : List (List UInt8)} {es : List Exchange} :
    readSession ts = some es ↔
      (∀ e ∈ es, e.cmd ∈ plainCommands ∧ e.Valid) ∧ ts = es.flatMap Exchange.wire := by
  constructor
  · intro h
    induction ts using readSession.induct generalizing es with
    | case1 =>
        obtain rfl : [] = es := Option.some.inj h
        exact ⟨List.forall_mem_nil _, rfl⟩
    | case2 t => cases h
    | case3 request reply ts ih =>
        rw [readSession] at h
        obtain ⟨⟨cmd, args⟩, hrequest, h⟩ := Option.bind_eq_some_iff.mp h
        split at h
        · next hreply =>
            obtain ⟨es', hes', rfl⟩ := Option.map_eq_some_iff.mp h
            obtain ⟨hcmd, hcount, hargs, rfl⟩ := readRequest_eq_some.mp hrequest
            obtain ⟨hvalid, hts⟩ := ih hes'
            refine ⟨List.forall_mem_cons.mpr ⟨⟨hcmd, hcount, hargs, hreply.2⟩, hvalid⟩, ?_⟩
            rw [List.flatMap_cons, ← hts, Exchange.wire, ← hreply.1]
            rfl
        · cases h
  · rintro ⟨hvalid, rfl⟩
    induction es with
    | nil => rfl
    | cons e es ih =>
        obtain ⟨he, hes⟩ := List.forall_mem_cons.mp hvalid
        rw [List.flatMap_cons, readSession_wire he.1 he.2, ih hes]
        rfl

/-- What a run transmits is read back as its exchanges. -/
theorem sessions_read (w : World) (cs : List ApiCall) :
    ∃ sent es, (api.exec w cs).bus.transmitted = w.bus.transmitted ++ sent ∧
      readSession sent = some es ∧ es.length ≤ (cs.map ApiCall.budget).sum := by
  obtain ⟨es, hlen, hes, hperformed⟩ := (driverAdvances_exec w cs).exchanges
  refine ⟨_, es, hperformed.transmitted, readSession_eq_some.mpr ⟨fun e he => ?_, rfl⟩, hlen⟩
  obtain ⟨⟨c, -, hcmd⟩, hvalid⟩ := hes e he
  exact ⟨c.commands_plain hcmd, hvalid⟩

end WiFiNINA
