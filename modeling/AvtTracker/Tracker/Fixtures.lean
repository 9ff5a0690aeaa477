import AvtTracker.Foundation.Numerals
import AvtTracker.Tracker.BinaryCodec

/-!
# Building frames

The helpers of {lit}`test-fixtures`: the encoders that mirror the decoders of
{lit}`binary-codec.util`, and {lit}`buildFrame`, which assembles a whole frame.
-/

namespace AvtTracker
namespace Tracker

open Foundation

/-- {lit}`Buffer.from(text, 'ascii')` -/
def asciiBytes (text : String) : Bytes :=
  text.toList.map (fun c => UInt8.ofNat c.toNat)

/-- Storing a number in a byte of a buffer; {lit}`none` is {lit}`NaN`. -/
def toByte : Option Int -> UInt8
  | none => 0
  | some z => UInt8.ofNat (z % 256).toNat

/-- {lit}`writeUInt16BE` refuses values that need more than two bytes. -/
def writeUInt16BE (value : Int) : Except String Bytes :=
  if 0 ≤ value ∧ value ≤ 65535 then Except.ok (beBytes 2 value.toNat)
  else Except.error s!"The value {value} is out of range for 16 bits"

def encodeImei (imei : String) : Except String Bytes :=
  if imei.toList.length ≠ 15 then
    Except.error "Test IMEI fixtures must be 15 digits"
  else
    let pair (i : Nat) := (imei.toList.drop (i * 2)).take 2
    let last := (imei.toList.drop 14).take 1
    Except.ok ((List.range 7).map (fun i => toByte (parseInt (pair i))) ++
      [toByte (parseInt last)])

def gTimeBytes (t : Int) : Bytes :=
  beBytes 2 (Date.getUTCFullYear t).toNat ++
    [toByte (some (Date.getUTCMonth t + 1)),
      toByte (some (Date.getUTCDate t)),
      toByte (some (Date.getUTCHours t)),
      toByte (some (Date.getUTCMinutes t)),
      toByte (some (Date.getUTCSeconds t))]

def encodeGTime (date : Date) : Except String Bytes := do
  let year ← match date.time with
    | none => Except.ok [0, 0]
    | some t => writeUInt16BE (Date.getUTCFullYear t)
  pure (year ++
    [toByte (date.time.map (fun t => Date.getUTCMonth t + 1)),
      toByte (date.time.map Date.getUTCDate),
      toByte (date.time.map Date.getUTCHours),
      toByte (date.time.map Date.getUTCMinutes),
      toByte (date.time.map Date.getUTCSeconds)])

structure BuildFrameOptions where
  head : String
  imei : String
  deviceId : Option Nat := none
  dataZone : Bytes
  generatedAt : Date
  serialNumber : Nat
  declaredLengthOverride : Option Nat := none
  deriving DecidableEq, Repr

/-- Assemble a frame: head, Length, IMEI, device id, data zone, generated time,
serial number and terminator. -/
def buildFrame (options : BuildFrameOptions) : Except String Bytes := do
  let headBuf := asciiBytes options.head
  let imeiBuf ← encodeImei options.imei
  let deviceIdBuf := [UInt8.ofNat (options.deviceId.getD 0x20)]
  let gTimeBuf ← encodeGTime options.generatedAt
  let snBuf ← writeUInt16BE options.serialNumber
  let actualLength := imeiBuf.length + deviceIdBuf.length +
    options.dataZone.length + gTimeBuf.length + snBuf.length
  let lengthBuf ←
    writeUInt16BE (options.declaredLengthOverride.getD actualLength)
  pure (headBuf ++ lengthBuf ++ imeiBuf ++ deviceIdBuf ++ options.dataZone ++
    gTimeBuf ++ snBuf ++ asciiBytes "#")

/-- The eight header bytes of a report data zone and the bytes behind them. -/
def buildReportDataZone (protocolVersion : Nat × Nat)
    (eventType eventState dataMask : Nat) (tail : Bytes) : Bytes :=
  [UInt8.ofNat protocolVersion.1, UInt8.ofNat protocolVersion.2] ++
    [UInt8.ofNat eventType, UInt8.ofNat eventState] ++
    beBytes 4 dataMask ++ tail

/-!
## IMEI
-/

theorem digit_cases {c : Char} (h : c.isDigit) :
    exists d : Fin 10, c = Nat.digitChar d := by
  have hsmall : forall n, n < 58 -> 48 ≤ n ->
      exists d : Fin 10, Char.ofNat n = Nat.digitChar d := by decide
  rw [Char.isDigit, Bool.and_eq_true, decide_eq_true_eq,
    decide_eq_true_eq] at h
  have hlo : 48 ≤ c.toNat := h.left
  have hhi : c.toNat ≤ 57 := h.right
  have hc := hsmall c.toNat (by lia) hlo
  rwa [Char.ofNat_toNat] at hc

theorem toByte_parseInt_pair : forall a b : Fin 10,
    (toByte (parseInt [Nat.digitChar a, Nat.digitChar b])).toNat =
      10 * a + b := by
  decide

theorem toByte_parseInt_digit : forall a : Fin 10,
    (toByte (parseInt [Nat.digitChar a])).toNat = a := by
  decide

theorem padStart_toDigits_pair : forall a b : Fin 10,
    padStart 2 (Nat.toDigits 10 (10 * a + b)) =
      [Nat.digitChar a, Nat.digitChar b] := by
  decide

theorem toDigits_digit : forall a : Fin 10,
    Nat.toDigits 10 (a % 10) = [Nat.digitChar a] := by
  decide

def digitChars (ds : List (Fin 10)) : List Char :=
  ds.map (fun d => Nat.digitChar d.val)

theorem exists_digitChars :
    forall {cs : List Char}, (forall c, c ∈ cs -> c.isDigit) ->
      exists ds, cs = digitChars ds
  | [], _ => ⟨[], rfl⟩
  | c :: cs, h => by
      rcases digit_cases (h c List.mem_cons_self) with ⟨d, rfl⟩
      rcases exists_digitChars
        (fun c hc => h c (List.mem_cons_of_mem _ hc)) with ⟨ds, rfl⟩
      exact ⟨d :: ds, rfl⟩

theorem exists_fifteen {ds : List (Fin 10)} (h : ds.length = 15) :
    exists d0 d1 d2 d3 d4 d5 d6 d7 d8 d9 d10 d11 d12 d13 d14, ds =
      [d0, d1, d2, d3, d4, d5, d6, d7, d8, d9, d10, d11, d12, d13, d14] := by
  match ds, h with
  | [_, _, _, _, _, _, _, _, _, _, _, _, _, _, _], _ =>
      exact ⟨_, _, _, _, _, _, _, _, _, _, _, _, _, _, _, rfl⟩

theorem encodeImei_length {imei : String} {bytes : Bytes}
    (h : encodeImei imei = Except.ok bytes) : bytes.length = 8 := by
  rcases ite_eq_iff.mp h with ⟨_, h⟩ | ⟨_, h⟩
  · cases h
  · injection h with h
    rw [← h]
    rfl

/-- A fifteen-digit IMEI survives its encoding. -/
theorem decodeImei_encodeImei {imei : String} {bytes : Bytes}
    (hdigits : forall c, c ∈ imei.toList -> c.isDigit)
    (h : encodeImei imei = Except.ok bytes) :
    decodeImei bytes = Except.ok imei := by
  rcases ite_eq_iff.mp h with ⟨_, h⟩ | ⟨hlen, h⟩
  · cases h
  injection h with h
  rcases exists_digitChars hdigits with ⟨ds, hds⟩
  have himei : imei = String.ofList (digitChars ds) := by
    rw [← hds, String.ofList_toList]
  rw [hds] at h
  rw [hds, not_not, digitChars, List.length_map] at hlen
  rw [decodeImei, if_neg (by rw [← h]; simp), ← h, himei]
  rcases exists_fifteen hlen with
    ⟨d0, d1, d2, d3, d4, d5, d6, d7, d8, d9, d10, d11, d12, d13, d14, rfl⟩
  simp only [digitChars, List.range, List.range.loop, List.map_cons,
    List.map_nil, List.flatMap_cons, List.flatMap_nil, byteAt,
    List.getD_cons_zero, List.getD_cons_succ, List.cons_append,
    List.nil_append, List.drop, List.take, toByte_parseInt_pair,
    toByte_parseInt_digit, padStart_toDigits_pair, toDigits_digit]

/-!
## Generated time
-/

/-- A whole second of a four-digit year from 1000 on. -/
def FourDigitSecond (t : Int) : Prop :=
  t % 1000 = 0 ∧ 1000 ≤ Date.getUTCFullYear t ∧
    Date.getUTCFullYear t ≤ 9999

instance (t : Int) : Decidable (FourDigitSecond t) :=
  inferInstanceAs (Decidable (_ ∧ _ ∧ _))

theorem toByte_toNat {z : Int} (hlo : 0 ≤ z) (hhi : z < 256) :
    ((toByte (some z)).toNat : Int) = z := by
  rw [toByte, Int.emod_eq_of_lt hlo hhi, UInt8.toNat_ofNat']
  lia

@[simp] theorem gTimeBytes_length (t : Int) : (gTimeBytes t).length = 7 := by
  simp [gTimeBytes]

theorem encodeGTime_eq {t : Int} (h : FourDigitSecond t) :
    encodeGTime { time := some t } = Except.ok (gTimeBytes t) := by
  rcases h with ⟨_, hlo, hhi⟩
  simp only [encodeGTime, writeUInt16BE]
  rw [if_pos ⟨by lia, by lia⟩]
  rfl

theorem timeClip_of_fourDigit {t : Int} (h : FourDigitSecond t) :
    Date.timeClip t = some t := by
  rcases h with ⟨_, hlo, hhi⟩
  have hyear := Calendar.dayFromYear_yearFromDay (t / Calendar.msPerDay)
  change 1000 ≤ Calendar.yearFromDay (t / Calendar.msPerDay) at hlo
  change Calendar.yearFromDay (t / Calendar.msPerDay) ≤ 9999 at hhi
  generalize Calendar.yearFromDay (t / Calendar.msPerDay) = y at *
  unfold Calendar.dayFromYear Calendar.msPerDay at hyear
  apply if_pos
  omega

theorem byteAt_gTimeBytes (t : Int) :
    byteAt (gTimeBytes t) 2 = (toByte (some (Date.getUTCMonth t + 1))).toNat ∧
      byteAt (gTimeBytes t) 3 = (toByte (some (Date.getUTCDate t))).toNat ∧
      byteAt (gTimeBytes t) 4 = (toByte (some (Date.getUTCHours t))).toNat ∧
      byteAt (gTimeBytes t) 5 = (toByte (some (Date.getUTCMinutes t))).toNat ∧
      byteAt (gTimeBytes t) 6 = (toByte (some (Date.getUTCSeconds t))).toNat :=
  ⟨rfl, rfl, rfl, rfl, rfl⟩

/-- A generated time survives its encoding. -/
theorem decodeGTime_gTimeBytes {t : Int} (h : FourDigitSecond t) :
    decodeGTime (gTimeBytes t) =
      Except.ok (some { time := some t }) := by
  have hclip := timeClip_of_fourDigit h
  rcases h with ⟨hsecond, hlo, hhi⟩
  have hcalendar := Calendar.month_date_bounds (t / Calendar.msPerDay)
  have hclock := Date.clock_bounds t
  change (0 ≤ Date.getUTCMonth t ∧ Date.getUTCMonth t ≤ 11) ∧
    1 ≤ Date.getUTCDate t ∧ Date.getUTCDate t ≤ 31 at hcalendar
  have hyear : readUInt16BE (gTimeBytes t) 0 =
      (Date.getUTCFullYear t).toNat :=
    readUInt16BE_append [] (by lia) _
  have hmonth := toByte_toNat (z := Date.getUTCMonth t + 1)
    (by lia) (by lia)
  have hdate := toByte_toNat (z := Date.getUTCDate t) (by lia) (by lia)
  have hhour := toByte_toNat (z := Date.getUTCHours t) (by lia) (by lia)
  have hminute := toByte_toNat (z := Date.getUTCMinutes t) (by lia) (by lia)
  have hsec := toByte_toNat (z := Date.getUTCSeconds t) (by lia) (by lia)
  rcases byteAt_gTimeBytes t with ⟨h2, h3, h4, h5, h6⟩
  rw [decodeGTime, if_neg (not_not_intro (gTimeBytes_length t))]
  simp only [hyear, h2, h3, h4, h5, h6]
  rw [if_neg (by lia), hmonth, hdate, hhour, hminute, hsec,
    Int.toNat_of_nonneg (by lia), Int.add_sub_cancel,
    Date.utc_components hsecond (by lia), hclip]

end Tracker
end AvtTracker
