import AvtTracker.Foundation.PrefixSoundness
import AvtTracker.Tracker.Accounting

/-!
# The CAN Advanced block over longer data zones

More bytes only add PIDs to the list.  The Mobileye reading takes a missing PID
for a zero, so it can change when PIDs are added: it is settled if and only if
the list was not cut short in front of PID 9, or what was cut off is one PID
whose first byte has arrived and reads like a zero.
-/

namespace AvtTracker
namespace Tracker

open Foundation BufferCursor

/-!
## The loop
-/

theorem canAdvanced_extends :
    WalkExtends canAdvancedAdvance
      (fun _ => (FieldDecoder.assign readPid).shortage) where
  bounded _ := (FieldDecoder.assign_extends readPid).bounded
  settled _ := (FieldDecoder.assign_extends readPid).settled
  stable _ buf offset hle hm more := by
    have hread := (FieldDecoder.assign_extends readPid).stable buf offset hle
      hm more
    injection hread with _ hfailure hoffset hnotes
    unfold canAdvancedAdvance
    rw [hfailure, hoffset, hnotes]
  starved _ := (FieldDecoder.assign_extends readPid).starved

theorem canAdvanced_flat (bit : Nat) (buf : Bytes) (offset : Nat)
    (h : (FieldDecoder.assign readPid).shortage buf offset ≠ none) :
    (canAdvancedAdvance bit buf offset).failure ≠ none :=
  fun hf => h (Option.map_eq_none_iff.mpr hf)

theorem canAdvancedBody_stable :
    BodyStable canAdvancedBody
      (fun _ => (FieldDecoder.assign readPid).shortage) := by
  intro bit block buf offset hle hm more
  have hread := (FieldDecoder.assign_extends readPid).settled buf offset hm
  cases hres : (readPid.run buf offset).result with
  | error e =>
      rw [FieldDecoder.assign_of_error hres] at hread
      cases hread
  | ok data =>
      have hstable := Decoder.Lawful.stable (d := readPid) buf offset data hle
        hres more
      unfold canAdvancedBody
      rw [hstable]

def readPids (bits : List Nat) (buf : Bytes) (offset : Nat) :
    List CanAdvancedInfoPid :=
  pidsOf buf (walk canAdvancedAdvance bits buf offset).visits

section Pids

variable {bit : Nat} {bits done rest : List Nat} {buf : Bytes}
variable {offset : Nat}

theorem readPids_cons_error {e : Failure}
    (h : (readPid.run buf offset).result = Except.error e) :
    readPids (bit :: bits) buf offset = [] := by
  have hf : (canAdvancedAdvance bit buf offset).failure = some e := by
    simp only [canAdvancedAdvance, h, errorOf]
  unfold readPids
  rw [walk_cons_stop hf, pidsOf_cons, h]
  rfl

theorem readPids_cons_ok {data : Bytes}
    (h : (readPid.run buf offset).result = Except.ok data) :
    readPids (bit :: bits) buf offset =
      { pid := bit + 1, data := data } ::
        readPids bits buf (readPid.run buf offset).offset := by
  have hf : (canAdvancedAdvance bit buf offset).failure = none := by
    simp only [canAdvancedAdvance, h, errorOf]
  unfold readPids
  rw [walk_cons_next hf, pidsOf_cons, h]
  rfl

theorem readPids_append
    (h : (walk canAdvancedAdvance done buf offset).stop = none) :
    readPids (done ++ rest) buf offset =
      readPids done buf offset ++
        readPids rest buf (walk canAdvancedAdvance done buf offset).offset := by
  unfold readPids
  rw [walk_append h]
  exact List.filterMap_append

theorem walkMissing_of_no_stop
    (h : (walk canAdvancedAdvance bits buf offset).stop = none) :
    walkMissing canAdvancedAdvance
      (fun _ => (FieldDecoder.assign readPid).shortage) bits buf offset =
        none := by
  by_contra hshort
  exact walk_stop_of_short canAdvanced_flat hshort h

theorem readPids_stable (hle : offset ≤ buf.length)
    (h : (walk canAdvancedAdvance bits buf offset).stop = none)
    (more : Bytes) :
    readPids bits (buf ++ more) offset = readPids bits buf offset := by
  induction bits generalizing offset with
  | nil => rfl
  | cons bit bits ih =>
      have hbounded := Decoder.Lawful.bounded (d := readPid) buf offset hle
      cases hres : (readPid.run buf offset).result with
      | error e =>
          have hf : (canAdvancedAdvance bit buf offset).failure = some e := by
            simp only [canAdvancedAdvance, hres, errorOf]
          rw [walk_cons_stop hf] at h
          cases h
      | ok data =>
          have hstable := Decoder.Lawful.stable (d := readPid) buf offset data
            hle hres more
          have hf : (canAdvancedAdvance bit buf offset).failure = none := by
            simp only [canAdvancedAdvance, hres, errorOf]
          rw [walk_cons_next hf] at h
          rw [readPids_cons_ok hres, readPids_cons_ok (hstable ▸ hres),
            hstable, ih hbounded.right h]

/-- A list cut short at a bit: the bits in front of it are complete, and the
read of its own PID fails. -/
structure CutAt (bits : List Nat) (buf : Bytes) (offset : Nat)
    (done : List Nat) (bit : Nat) (rest : List Nat) (start : Nat) : Prop where
  bits_eq : bits = done ++ bit :: rest
  ascending : (done ++ bit :: rest).Pairwise (fun a b => a < b)
  complete : (walk canAdvancedAdvance done buf offset).stop = none
  start_eq : (walk canAdvancedAdvance done buf offset).offset = start
  start_le : start ≤ buf.length
  fails : exists e, (readPid.run buf start).result = Except.error e

theorem exists_cutAt {s start : Nat} {e : Failure}
    (hsorted : bits.Pairwise (fun a b => a < b)) (hle : offset ≤ buf.length)
    (hstop : (walk canAdvancedAdvance bits buf offset).stop = some (s, e))
    (hvisit : (s, start) ∈ (walk canAdvancedAdvance bits buf offset).visits) :
    exists done rest, CutAt bits buf offset done s rest start := by
  rcases exists_split_of_visit hvisit with
    ⟨done, rest, hbits, hcomplete, hstart⟩
  refine ⟨done, rest, hbits, hbits ▸ hsorted, hcomplete, hstart,
    walk_visits_le canAdvanced_extends hle hvisit, e, ?_⟩
  have hfails := walk_failure_of_visit (hsorted.imp Nat.ne_of_lt) hvisit
  rw [hstop] at hfails
  cases hres : (readPid.run buf start).result with
  | error e' =>
      simp only [canAdvancedAdvance, hres, errorOf, Option.filter,
        beq_self_eq_true, if_true, Option.map_some] at hfails
      rw [Option.some.inj hfails]
  | ok data =>
      simp [canAdvancedAdvance, hres, errorOf, Option.filter] at hfails

namespace CutAt

variable {start b : Nat}

theorem mem_done_iff (h : CutAt bits buf offset done bit rest start) :
    b ∈ done <-> b ∈ bits ∧ b < bit := by
  rw [h.bits_eq]
  exact mem_front_iff h.ascending

theorem mem_rest_iff (h : CutAt bits buf offset done bit rest start) :
    b ∈ rest <-> b ∈ bits ∧ bit < b := by
  rw [h.bits_eq]
  exact mem_behind_iff h.ascending

theorem bit_not_mem_rest (h : CutAt bits buf offset done bit rest start) :
    bit ∉ rest :=
  fun hmem => Nat.lt_irrefl bit (h.mem_rest_iff.mp hmem).right

theorem not_mem_done (h : CutAt bits buf offset done bit rest start)
    (hb : b ∈ bit :: rest) : b ∉ done := by
  intro hdone
  have hlt := (h.mem_done_iff.mp hdone).right
  rcases List.mem_cons.mp hb with heq | hb
  · exact Nat.lt_irrefl bit (heq ▸ hlt)
  · exact Nat.lt_asymm hlt (h.mem_rest_iff.mp hb).right

theorem readPids_eq (h : CutAt bits buf offset done bit rest start) :
    readPids bits buf offset = readPids done buf offset := by
  rcases h.fails with ⟨e, he⟩
  rw [h.bits_eq, readPids_append h.complete, h.start_eq,
    readPids_cons_error he, List.append_nil]

theorem readPids_extension (h : CutAt bits buf offset done bit rest start)
    (hle : offset ≤ buf.length) (more : Bytes) :
    readPids bits (buf ++ more) offset =
      readPids done buf offset ++
        readPids (bit :: rest) (buf ++ more) start := by
  have hwalk := walk_stable canAdvanced_extends hle
    (walkMissing_of_no_stop h.complete) more
  rw [h.bits_eq, readPids_append (by rw [hwalk]; exact h.complete), hwalk,
    readPids_stable hle h.complete, h.start_eq]

end CutAt

theorem readPids_isPrefix (hsorted : bits.Pairwise (fun a b => a < b))
    (hle : offset ≤ buf.length) (more : Bytes) :
    readPids bits buf offset <+: readPids bits (buf ++ more) offset := by
  cases hstop : (walk canAdvancedAdvance bits buf offset).stop with
  | none =>
      simp only [readPids_stable hle hstop, List.prefix_rfl]
  | some s =>
      rcases exists_visit_of_stop (hsorted.imp Nat.ne_of_lt) hstop with
        ⟨start, hvisit, _⟩
      rcases exists_cutAt hsorted hle hstop hvisit with ⟨done, rest, hcut⟩
      rw [hcut.readPids_eq, hcut.readPids_extension hle]
      exact List.prefix_append _ _

end Pids

/-!
## The data of a PID
-/

theorem pidData_append (pids pids' : List CanAdvancedInfoPid) (pid : Nat) :
    pidData (pids ++ pids') pid = (pidData pids' pid).or (pidData pids pid) := by
  unfold pidData
  rw [List.reverse_append, List.find?_append]
  cases pids'.reverse.find? (fun entry => entry.pid == pid) <;> rfl

theorem pidData_cons (entry : CanAdvancedInfoPid)
    (pids : List CanAdvancedInfoPid) (pid : Nat) :
    pidData (entry :: pids) pid =
      (pidData pids pid).or (if entry.pid = pid then some entry.data
        else none) := by
  rw [← List.singleton_append, pidData_append]
  by_cases h : entry.pid = pid
  · simp [pidData, h]
  · simp [pidData, h]

section PidData

variable {bit : Nat} {bits done rest : List Nat} {buf : Bytes}
variable {offset start : Nat}

theorem pidData_readPids_of_not_mem (buf : Bytes) (offset : Nat)
    (h : bit ∉ bits) :
    pidData (readPids bits buf offset) (bit + 1) = none := by
  induction bits generalizing offset with
  | nil => rfl
  | cons b bits ih =>
      rw [List.mem_cons, not_or] at h
      cases hres : (readPid.run buf offset).result with
      | error e => rw [readPids_cons_error hres]; rfl
      | ok data =>
          rw [readPids_cons_ok hres, pidData_cons, ih _ h.right,
            if_neg (by simpa using Ne.symm h.left)]
          rfl

theorem pidData_readPids_head {data : Bytes} (hnot : bit ∉ rest)
    (h : (readPid.run buf offset).result = Except.ok data) :
    pidData (readPids (bit :: rest) buf offset) (bit + 1) = some data := by
  rw [readPids_cons_ok h, pidData_cons, pidData_readPids_of_not_mem _ _ hnot,
    if_pos rfl]
  rfl

theorem byteOf_of_pidData {pids pids' : List CanAdvancedInfoPid} {pid : Nat}
    (h : pidData pids pid = pidData pids' pid) :
    byteOf pids pid = byteOf pids' pid := by
  unfold byteOf
  rw [h]

theorem byteOf_of_none {pids : List CanAdvancedInfoPid} {pid : Nat}
    (h : pidData pids pid = none) : byteOf pids pid = 0 := by
  unfold byteOf
  rw [h]
  rfl

theorem byteOf_of_cons {pids : List CanAdvancedInfoPid} {pid : Nat}
    {first : UInt8} {data : Bytes}
    (h : pidData pids pid = some (first :: data)) :
    byteOf pids pid = first.toNat := by
  unfold byteOf
  rw [h]
  rfl

theorem beNat_take_one (length : UInt8) (tail : Bytes) :
    beNat ((length :: tail).take 1) = length.toNat := by
  simp [beNat]

theorem run_readPid (length : UInt8) (data behind : Bytes)
    (h : buf.drop offset = length :: (data ++ behind))
    (hlen : data.length = length.toNat) :
    readPid.run buf offset =
      ⟨Except.ok data, offset + 1 + length.toNat, []⟩ := by
  have hbuf : buf.length - offset = 1 + (data.length + behind.length) := by
    rw [← List.length_drop, h, List.length_cons, List.length_append,
      Nat.add_comm]
  have hone : 1 ≤ buf.length - offset := by lia
  have hrest : length.toNat ≤ buf.length - (offset + 1) := by lia
  have hlength := Decoder.run_unsigned_ok (ω := Warning) hone
  have hdata := Decoder.run_take_ok (ω := Warning) hrest
  have hdrop : buf.drop (offset + 1) = data ++ behind := by
    rw [← List.drop_drop, h]
    rfl
  have hvalue : beNat ((buf.drop offset).take 1) = length.toNat := by
    rw [h, beNat_take_one]
  rw [hdrop, List.take_append_of_le_length (Nat.le_of_eq hlen.symm),
    List.take_of_length_le (Nat.le_of_eq hlen)] at hdata
  rw [hvalue] at hlength
  unfold readPid readUInt8 readBytes
  rw [Decoder.run_bind_quiet hlength, hdata]

theorem short_of_readPid_fails {e : Failure}
    (h : (readPid.run buf offset).result = Except.error e) {length : UInt8}
    {behind : Bytes} (hdrop : buf.drop offset = length :: behind) :
    behind.length < length.toNat := by
  by_contra hlen
  have hsplit : buf.drop offset = length ::
      (behind.take length.toNat ++ behind.drop length.toNat) := by
    rw [hdrop, List.take_append_drop]
  rw [run_readPid _ _ _ hsplit (by rw [List.length_take]; lia)] at h
  cases h

theorem drop_of_readPid_ok {data : Bytes}
    (h : (readPid.run buf offset).result = Except.ok data) :
    exists length behind, buf.drop offset = length :: (data ++ behind) ∧
      data.length = length.toNat := by
  unfold readPid readUInt8 readBytes at h
  by_cases hone : buf.length - offset < 1
  · have hlength := Decoder.run_unsigned_short (ω := Warning) hone
    rw [Decoder.run_bind_error (by rw [hlength])] at h
    cases h
  · have hlength := Decoder.run_unsigned_ok (ω := Warning) (Nat.not_lt.mp hone)
    rw [Decoder.run_bind_quiet hlength] at h
    cases hdrop : buf.drop offset with
    | nil =>
        have hzero := congrArg List.length hdrop
        rw [List.length_drop] at hzero
        exact absurd (by simpa using hzero) hone
    | cons length tail =>
        have htail : buf.drop (offset + 1) = tail := by
          rw [← List.drop_drop, hdrop]
          rfl
        rw [hdrop, beNat_take_one] at h
        by_cases hdata : buf.length - (offset + 1) < length.toNat
        · rw [Decoder.run_take_short hdata] at h
          cases h
        · rw [Decoder.run_take_ok (Nat.not_lt.mp hdata), htail] at h
          injection h with h
          refine ⟨length, tail.drop length.toNat, ?_, ?_⟩
          · rw [← h, List.take_append_drop]
          · rw [← h, List.length_take, ← htail, List.length_drop,
              Nat.min_eq_left (Nat.not_lt.mp hdata)]

end PidData

/-!
## The Mobileye reading
-/

/-- First bytes of a PID that a reading does not tell apart: the second PID is
a number, the other seven are flags. -/
def ReadsAlike (bit v w : Nat) : Prop :=
  if bit = 1 then v = w else (v = 1 <-> w = 1)

theorem ReadsAlike.refl (bit v : Nat) : ReadsAlike bit v v := by
  unfold ReadsAlike
  by_cases h : bit = 1
  · rw [if_pos h]
  · rw [if_neg h]

theorem not_readsAlike_one (bit : Nat) : ¬ ReadsAlike bit 0 1 := by
  unfold ReadsAlike
  by_cases h : bit = 1
  · rw [if_pos h]
    exact Nat.zero_ne_one
  · rw [if_neg h]
    intro hiff
    exact Nat.zero_ne_one (hiff.mpr rfl)

theorem flag_eq_iff (v w : Nat) : (v == 1) = (w == 1) <-> (v = 1 <-> w = 1) := by
  rw [Bool.eq_iff_iff, beq_iff_eq, beq_iff_eq]

theorem derive_isSome_iff {block : CanAdvancedInfoMask1Block} :
    (deriveMobileyeAdasReading block).isSome <->
      exists first data, pidData block.pids 1 = some (first :: data) := by
  unfold deriveMobileyeAdasReading
  cases pidData block.pids 1 with
  | none => simp
  | some data =>
      cases data with
      | nil => simp
      | cons first data => simp

theorem headway_eq_iff (v w : Nat) :
    (v : Rat) * (1 / 10) = (w : Rat) * (1 / 10) <-> v = w := by
  constructor
  · intro h
    have hcast : (v : Rat) = (w : Rat) := by grind
    exact Rat.natCast_inj.mp hcast
  · rintro rfl
    rfl

theorem derive_eq_iff {block block' : CanAdvancedInfoMask1Block}
    (h : (deriveMobileyeAdasReading block).isSome)
    (hpid1 : pidData block'.pids 1 = pidData block.pids 1) :
    deriveMobileyeAdasReading block' = deriveMobileyeAdasReading block <->
      forall bit, bit < 8 ->
        ReadsAlike bit (byteOf block.pids (bit + 1))
          (byteOf block'.pids (bit + 1)) := by
  rcases derive_isSome_iff.mp h with ⟨first, data, hfirst⟩
  have hfirst' := hpid1.trans hfirst
  unfold deriveMobileyeAdasReading
  simp only [hfirst, hfirst', List.length_cons, Nat.succ_ne_zero, if_false,
    Option.some.injEq, MobileyeAdasReading.mk.injEq, flag_eq_iff,
    headway_eq_iff]
  constructor
  · rintro ⟨h1, h2, h3, h4, h5, h6, h7, h8⟩ bit hbit
    match bit, hbit with
    | 0, _ => exact h1.symm
    | 1, _ => exact h2.symm
    | 2, _ => exact h3.symm
    | 3, _ => exact h4.symm
    | 4, _ => exact h5.symm
    | 5, _ => exact h6.symm
    | 6, _ => exact h7.symm
    | 7, _ => exact h8.symm
  · intro hall
    exact ⟨(hall 0 (by decide)).symm, (hall 1 (by decide)).symm,
      (hall 2 (by decide)).symm, (hall 3 (by decide)).symm,
      (hall 4 (by decide)).symm, (hall 5 (by decide)).symm,
      (hall 6 (by decide)).symm, (hall 7 (by decide)).symm⟩

/-- The reading survives whatever bytes follow: the list is cut behind PID 8,
or it is cut at the last PID of the reading, whose first byte has arrived and
reads like the zero taken for it. -/
def ReadingSettled (mask : Nat) (zone : Bytes) (bit start : Nat) : Prop :=
  8 ≤ bit ∨
    ((forall later, later ∈ setBits mask -> bit < later -> 8 ≤ later) ∧
      exists first, zone[start + 1]? = some first ∧
        ReadsAlike bit 0 first.toNat)

section Reading

variable {bit mask : Nat} {bits done rest : List Nat} {buf : Bytes}
variable {offset start : Nat}

namespace CutAt

variable (h : CutAt bits buf offset done bit rest start)

include h

theorem mem_done_of_pidData {b : Nat} {data : Bytes}
    (hdata : pidData (readPids bits buf offset) (b + 1) = some data) :
    b ∈ done := by
  by_contra hb
  rw [h.readPids_eq, pidData_readPids_of_not_mem _ _ hb] at hdata
  cases hdata

theorem pidData_in_front (hle : offset ≤ buf.length) (more : Bytes) {b : Nat}
    (hb : b ∈ done) :
    pidData (readPids bits (buf ++ more) offset) (b + 1) =
      pidData (readPids bits buf offset) (b + 1) := by
  have hbehind : b ∉ bit :: rest := fun hmem => h.not_mem_done hmem hb
  rw [h.readPids_eq, h.readPids_extension hle, pidData_append,
    pidData_readPids_of_not_mem _ _ hbehind]
  rfl

theorem byteOf_behind (hle : offset ≤ buf.length) (more : Bytes) {b : Nat}
    (hb : b ∉ done) :
    byteOf (readPids bits buf offset) (b + 1) = 0 ∧
      byteOf (readPids bits (buf ++ more) offset) (b + 1) =
        byteOf (readPids (bit :: rest) (buf ++ more) start) (b + 1) := by
  have hnone := pidData_readPids_of_not_mem buf offset hb
  rw [h.readPids_eq, h.readPids_extension hle]
  refine ⟨byteOf_of_none hnone, byteOf_of_pidData ?_⟩
  rw [pidData_append, hnone]
  exact Option.or_none

theorem reading_stays_iff (hle : offset ≤ buf.length)
    (hreading : (deriveMobileyeAdasReading
      ⟨mask, readPids bits buf offset⟩).isSome) (more : Bytes) :
    deriveMobileyeAdasReading ⟨mask, readPids bits (buf ++ more) offset⟩ =
        deriveMobileyeAdasReading ⟨mask, readPids bits buf offset⟩ <->
      forall later, later < 8 -> later ∈ bit :: rest ->
        ReadsAlike later 0
          (byteOf (readPids (bit :: rest) (buf ++ more) start)
            (later + 1)) := by
  rcases derive_isSome_iff.mp hreading with ⟨first, data, hfirst⟩
  rw [derive_eq_iff hreading
    (h.pidData_in_front hle more (h.mem_done_of_pidData hfirst))]
  constructor
  · intro hall later hlt hmem
    have hbehind := h.byteOf_behind hle more (h.not_mem_done hmem)
    have halike := hall later hlt
    rw [hbehind.left, hbehind.right] at halike
    exact halike
  · intro hall b hlt
    by_cases hb : b ∈ done
    · rw [byteOf_of_pidData (h.pidData_in_front hle more hb)]
      exact ReadsAlike.refl _ _
    · have hbehind := h.byteOf_behind hle more hb
      rw [hbehind.left, hbehind.right]
      by_cases hmem : b ∈ bit :: rest
      · exact hall b hlt hmem
      · rw [byteOf_of_none (pidData_readPids_of_not_mem _ _ hmem)]
        exact ReadsAlike.refl _ _

/-- Bytes that complete the PID at the cut: those of its data that have not
arrived are chosen, and the first is a one unless it has arrived. -/
theorem exists_completion :
    exists fill first data, first = buf[start + 1]?.getD 1 ∧
      forall behind, readPid.run (buf ++ (fill ++ behind)) start =
        ⟨Except.ok (first :: data), (buf ++ fill).length, []⟩ := by
  rcases h.fails with ⟨e, he⟩
  have hdrop : forall more, (buf ++ more).drop start = buf.drop start ++ more :=
    fun more => List.drop_append_of_le_length h.start_le
  have hfirst : buf[start + 1]? = (buf.drop start)[1]? := by
    rw [List.getElem?_drop]
  have hlen : (buf.drop start).length = buf.length - start :=
    List.length_drop
  have hstart := h.start_le
  cases hbuf : buf.drop start with
  | nil =>
      rw [hbuf] at hfirst hlen
      refine ⟨[1, 1], 1, [], by rw [hfirst]; rfl, fun behind => ?_⟩
      rw [run_readPid 1 [1] behind (by rw [hdrop, hbuf]; rfl) rfl]
      simp only [List.length_append, List.length_cons, List.length_nil] at hlen ⊢
      congr 1
      change start + 1 + 1 = _
      lia
  | cons length tail =>
      have hshort := short_of_readPid_fails he hbuf
      rw [hbuf] at hfirst hlen
      let fill : Bytes := List.replicate (length.toNat - tail.length) 1
      have hfill : fill.length = length.toNat - tail.length :=
        List.length_replicate
      have hdata : (tail ++ fill).length = length.toNat := by
        rw [List.length_append, hfill]
        lia
      have hrun : forall behind, readPid.run (buf ++ (fill ++ behind)) start =
          ⟨Except.ok (tail ++ fill), (buf ++ fill).length, []⟩ := by
        intro behind
        rw [run_readPid length (tail ++ fill) behind
          (by rw [hdrop, hbuf]; simp) hdata]
        rw [List.length_cons] at hlen
        rw [List.length_append, hfill]
        congr 1
        lia
      cases htail : tail with
      | nil =>
          have hpos : length.toNat - tail.length =
              (length.toNat - tail.length - 1) + 1 := by lia
          have hones : tail ++ fill = 1 ::
              List.replicate (length.toNat - tail.length - 1) 1 := by
            rw [htail, List.nil_append, ← List.replicate_succ, ← htail, ← hpos]
          rw [hones] at hrun
          exact ⟨fill, 1, _, by rw [hfirst, htail]; rfl, hrun⟩
      | cons first rest =>
          have hcons : tail ++ fill = first :: (rest ++ fill) := by
            rw [htail, List.cons_append]
          rw [hcons] at hrun
          exact ⟨fill, first, _, by rw [hfirst, htail]; rfl, hrun⟩

end CutAt

theorem readsAlike_at_cut (hnot : bit ∉ rest) {first : UInt8}
    (hfirst : buf[start + 1]? = some first)
    (halike : ReadsAlike bit 0 first.toNat) (more : Bytes) :
    ReadsAlike bit 0
      (byteOf (readPids (bit :: rest) (buf ++ more) start) (bit + 1)) := by
  cases hres : (readPid.run (buf ++ more) start).result with
  | error e =>
      rw [readPids_cons_error hres]
      exact ReadsAlike.refl bit 0
  | ok data =>
      have hhead := pidData_readPids_head hnot hres
      rcases drop_of_readPid_ok hres with ⟨length, behind, hdrop, _⟩
      cases data with
      | nil =>
          have hzero : byteOf (readPids (bit :: rest) (buf ++ more) start)
              (bit + 1) = 0 := by
            unfold byteOf
            rw [hhead]
            rfl
          rw [hzero]
          exact ReadsAlike.refl bit 0
      | cons arrived data =>
          rw [byteOf_of_cons hhead]
          have hsecond : (buf ++ more)[start + 1]? = some arrived := by
            rw [← List.getElem?_drop, hdrop]
            rfl
          rw [List.getElem?_append_left
            (lt_length_of_getElem?_eq_some hfirst), hfirst] at hsecond
          rw [← Option.some.inj hsecond]
          exact halike

theorem exists_next_pid {fill data : Bytes}
    (hsorted : (bit :: rest).Pairwise (fun a b => a < b))
    (hrun : readPid.run (buf ++ (fill ++ [1, 1])) start =
      ⟨Except.ok data, (buf ++ fill).length, []⟩) {later : Nat}
    (hlater : later ∈ rest) :
    exists next, next ∈ rest ∧ next ≤ later ∧
      byteOf (readPids (bit :: rest) (buf ++ (fill ++ [1, 1])) start)
        (next + 1) = 1 := by
  cases rest with
  | nil => cases hlater
  | cons next rest =>
      have hbehind := (List.pairwise_cons.mp
        (List.pairwise_cons.mp hsorted).right).left
      have hnot : next ∉ rest :=
        fun hmem => Nat.lt_irrefl next (hbehind next hmem)
      have hdrop : (buf ++ (fill ++ [1, 1])).drop (buf ++ fill).length =
          [1, 1] := by
        rw [← List.append_assoc, List.drop_left]
      have hnext : readPid.run (buf ++ (fill ++ [1, 1])) (buf ++ fill).length =
          _ := run_readPid 1 [1] [] hdrop rfl
      have hhead : pidData (readPids (next :: rest)
          (buf ++ (fill ++ [1, 1])) (buf ++ fill).length) (next + 1) = _ :=
        pidData_readPids_head hnot (congrArg Outcome.result hnext)
      refine ⟨next, List.mem_cons_self, ?_, ?_⟩
      · rcases List.mem_cons.mp hlater with heq | hmem
        · exact Nat.le_of_eq heq.symm
        · exact Nat.le_of_lt (hbehind later hmem)
      · have hdata : pidData (readPids (bit :: next :: rest)
            (buf ++ (fill ++ [1, 1])) start) (next + 1) = some [1] := by
          rw [readPids_cons_ok (congrArg Outcome.result hrun), pidData_cons,
            hrun, hhead]
          rfl
        exact byteOf_of_cons hdata

namespace CutAt

variable (h : CutAt (setBits mask) buf offset done bit rest start)

include h

theorem exists_first_pid (hmem : 0 ∈ done) :
    exists data, (readPid.run buf offset).result = Except.ok data ∧
      pidData (readPids (setBits mask) buf offset) 1 = some data := by
  have hsorted := (List.pairwise_append.mp h.ascending).left
  have hcomplete := h.complete
  rw [h.readPids_eq]
  cases done with
  | nil => cases hmem
  | cons first done =>
      have hleast := (List.pairwise_cons.mp hsorted).left
      have hzero : first = 0 := by
        rcases List.mem_cons.mp hmem with heq | hmem
        · exact heq.symm
        · exact absurd (hleast 0 hmem) (Nat.not_lt_zero first)
      have hnot : first ∉ done :=
        fun hfirst => Nat.lt_irrefl first (hleast first hfirst)
      cases hres : (readPid.run buf offset).result with
      | error e =>
          have hf : (canAdvancedAdvance first buf offset).failure = some e := by
            simp only [canAdvancedAdvance, hres, errorOf]
          rw [walk_cons_stop hf] at hcomplete
          cases hcomplete
      | ok data =>
          rw [hzero] at hnot ⊢
          exact ⟨data, rfl, pidData_readPids_head hnot hres⟩

/-- A list that is cut short gives a reading if and only if PID 1 lies in front
of the cut and its length byte is not zero. -/
theorem reading_isSome_iff :
    (deriveMobileyeAdasReading
      ⟨mask, readPids (setBits mask) buf offset⟩).isSome <->
      0 ∈ setBits mask ∧ 0 < bit ∧ buf[offset]? ≠ some 0 := by
  rw [derive_isSome_iff, ← and_assoc, ← h.mem_done_iff]
  constructor
  · rintro ⟨first, data, hdata⟩
    have hmem := h.mem_done_of_pidData hdata
    refine ⟨hmem, ?_⟩
    rcases h.exists_first_pid hmem with ⟨data', hres, hdata'⟩
    rcases drop_of_readPid_ok hres with ⟨length, behind, hdrop, hlen⟩
    rw [hdata] at hdata'
    rw [← Option.some.inj hdata'] at hlen
    rw [← Nat.add_zero offset, ← List.getElem?_drop, hdrop]
    intro hzero
    rw [Option.some.inj hzero] at hlen
    cases hlen
  · rintro ⟨hmem, hlength⟩
    rcases h.exists_first_pid hmem with ⟨data, hres, hdata⟩
    rcases drop_of_readPid_ok hres with ⟨length, behind, hdrop, hlen⟩
    cases data with
    | cons first data => exact ⟨first, data, hdata⟩
    | nil =>
        rw [← Nat.add_zero offset, ← List.getElem?_drop, hdrop] at hlength
        have hzero : length = 0 := UInt8.toNat_inj.mp hlen.symm
        exact absurd (by rw [hzero]; rfl) hlength

theorem readsAlike_of_settled (hsettled : ReadingSettled mask buf bit start)
    (more : Bytes) {later : Nat} (hlt : later < 8)
    (hmem : later ∈ bit :: rest) :
    ReadsAlike later 0
      (byteOf (readPids (bit :: rest) (buf ++ more) start) (later + 1)) := by
  rcases hsettled with hbehind | ⟨honly, first, hfirst, halike⟩
  · rcases List.mem_cons.mp hmem with heq | hmem
    · exact absurd hlt (by lia)
    · have hless := (h.mem_rest_iff.mp hmem).right
      exact absurd hlt (by lia)
  · rcases List.mem_cons.mp hmem with heq | hmem
    · rw [heq]
      exact readsAlike_at_cut h.bit_not_mem_rest hfirst halike more
    · rcases h.mem_rest_iff.mp hmem with ⟨hset, hless⟩
      exact absurd hlt (Nat.not_lt.mpr (honly later hset hless))

/-- Bytes can be chosen that change a reading which is not settled. -/
theorem settled_of_readsAlike
    (hstays : forall more later, later < 8 -> later ∈ bit :: rest ->
      ReadsAlike later 0
        (byteOf (readPids (bit :: rest) (buf ++ more) start) (later + 1))) :
    ReadingSettled mask buf bit start := by
  by_cases hlt : bit < 8
  · rcases h.exists_completion with ⟨fill, first, data, hfirst, hrun⟩
    have halike : ReadsAlike bit 0 first.toNat := by
      have hres : (readPid.run (buf ++ (fill ++ [])) start).result = _ :=
        congrArg Outcome.result (hrun [])
      have hbyte := hstays (fill ++ []) bit hlt List.mem_cons_self
      rwa [byteOf_of_cons (pidData_readPids_head h.bit_not_mem_rest hres)]
        at hbyte
    have harrived : buf[start + 1]? = some first := by
      cases hsecond : buf[start + 1]? with
      | some v => rw [hfirst, hsecond]; rfl
      | none =>
          rw [hsecond] at hfirst
          rw [hfirst] at halike
          exact absurd halike (not_readsAlike_one bit)
    refine Or.inr ⟨?_, first, harrived, halike⟩
    intro later hset hless
    by_contra hsmall
    have hbehind := (List.pairwise_append.mp h.ascending).right.left
    rcases exists_next_pid hbehind (hrun [1, 1])
      (h.mem_rest_iff.mpr ⟨hset, hless⟩) with ⟨next, hnext, hle, hbyte⟩
    have hone := hstays (fill ++ [1, 1]) next (by lia)
      (List.mem_cons_of_mem _ hnext)
    rw [hbyte] at hone
    exact not_readsAlike_one next hone
  · exact Or.inl (Nat.not_lt.mp hlt)

/-- Whether a Mobileye reading survives every extension can be told from the
bytes in front of the cut. -/
theorem reading_settled_iff (hle : offset ≤ buf.length)
    (hreading : (deriveMobileyeAdasReading
      ⟨mask, readPids (setBits mask) buf offset⟩).isSome) :
    (forall more, deriveMobileyeAdasReading
      ⟨mask, readPids (setBits mask) (buf ++ more) offset⟩ =
        deriveMobileyeAdasReading
          ⟨mask, readPids (setBits mask) buf offset⟩) <->
      ReadingSettled mask buf bit start := by
  simp only [h.reading_stays_iff hle hreading]
  constructor
  · exact h.settled_of_readsAlike
  · intro hsettled more later hlt hmem
    exact h.readsAlike_of_settled hsettled more hlt hmem

end CutAt

end Reading

end Tracker
end AvtTracker
