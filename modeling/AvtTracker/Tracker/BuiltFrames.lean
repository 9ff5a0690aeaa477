import AvtTracker.Tracker.Fixtures
import AvtTracker.Tracker.WireFrame

/-!
# Built frames on the wire

The frames {lit}`buildFrame` assembles, with any value in their Length fields,
are frames of the wire format.
-/

namespace AvtTracker
namespace Tracker

open Foundation

/-- A head token: at most seven ASCII characters and a colon, the only one. -/
def HeadToken (head : String) : Prop :=
  head.toList.length ≤ 8 ∧ head.toList.getLast? = some ':' ∧
    forall c, c ∈ head.toList.dropLast -> c.toNat < 128 ∧ c ≠ ':'

instance (head : String) : Decidable (HeadToken head) :=
  haveI : Decidable (forall c, c ∈ head.toList.dropLast ->
      c.toNat < 128 ∧ c ≠ ':') := List.decidableBAll _ _
  inferInstanceAs (Decidable (_ ∧ _ ∧ _))

namespace BuildFrameOptions

def actualLength (options : BuildFrameOptions) : Nat :=
  18 + options.dataZone.length

def declaredLength (options : BuildFrameOptions) : Nat :=
  options.declaredLengthOverride.getD options.actualLength

def imeiBytes (options : BuildFrameOptions) : Bytes :=
  (encodeImei options.imei).toOption.getD []

def gTimeField (options : BuildFrameOptions) : Bytes :=
  (encodeGTime options.generatedAt).toOption.getD []

def body (options : BuildFrameOptions) : Bytes :=
  options.imeiBytes ++ ([UInt8.ofNat (options.deviceId.getD 0x20)] ++
    (options.dataZone ++
      (options.gTimeField ++ beBytes 2 options.serialNumber)))

end BuildFrameOptions

theorem encodeGTime_length {date : Date} {bytes : Bytes}
    (h : encodeGTime date = Except.ok bytes) : bytes.length = 7 := by
  unfold encodeGTime at h
  cases htime : date.time with
  | none =>
      rw [htime] at h
      injection h with h
      rw [← h]
      rfl
  | some t =>
      rw [htime] at h
      unfold writeUInt16BE at h
      by_cases hyear : 0 ≤ Date.getUTCFullYear t ∧
          Date.getUTCFullYear t ≤ 65535
      · simp only [if_pos hyear] at h
        injection h with h
        rw [← h]
        simp
      · simp only [if_neg hyear] at h
        cases h

theorem writeUInt16BE_ok {value : Int} {bytes : Bytes}
    (h : writeUInt16BE value = Except.ok bytes) :
    0 ≤ value ∧ value ≤ 65535 ∧ bytes = beBytes 2 value.toNat := by
  rcases ite_eq_iff.mp h with ⟨hrange, h⟩ | ⟨_, h⟩
  · injection h with h
    exact ⟨hrange.left, hrange.right, h.symm⟩
  · cases h

theorem writeUInt16BE_of_lt {n : Nat} (h : n < 65536) :
    writeUInt16BE (n : Int) = Except.ok (beBytes 2 n) := by
  have hrange : 0 ≤ (n : Int) ∧ (n : Int) ≤ 65535 := by lia
  rw [writeUInt16BE, if_pos hrange, Int.toNat_natCast]

theorem buildFrame_ok {options : BuildFrameOptions} {bytes : Bytes}
    (h : buildFrame options = Except.ok bytes) :
    options.imeiBytes.length = 8 ∧ options.gTimeField.length = 7 ∧
      options.serialNumber < 65536 ∧ options.declaredLength < 65536 ∧
      bytes = asciiBytes options.head ++ (beBytes 2 options.declaredLength ++
        (options.body ++ [frameTerminator])) := by
  unfold buildFrame at h
  cases himei : encodeImei options.imei with
  | error e => rw [himei] at h; cases h
  | ok imei =>
      cases htime : encodeGTime options.generatedAt with
      | error e => rw [himei, htime] at h; cases h
      | ok gTime =>
          cases hserial : writeUInt16BE options.serialNumber with
          | error e => rw [himei, htime, hserial] at h; cases h
          | ok serial =>
              rw [himei, htime, hserial] at h
              have himeiLen := encodeImei_length himei
              have htimeLen := encodeGTime_length htime
              rcases writeUInt16BE_ok hserial with ⟨_, hserialLe, rfl⟩
              have hactual : imei.length +
                  [UInt8.ofNat (options.deviceId.getD 0x20)].length +
                  options.dataZone.length + gTime.length +
                  (beBytes 2 (options.serialNumber : Int).toNat).length =
                  options.actualLength := by
                simp only [BuildFrameOptions.actualLength, himeiLen, htimeLen,
                  beBytes_length, List.length_singleton]
                lia
              simp only [bind, Except.bind, hactual] at h
              cases hlength : writeUInt16BE
                  (options.declaredLengthOverride.getD
                    options.actualLength : Nat) with
              | error e => rw [hlength] at h; cases h
              | ok length =>
                  rw [hlength] at h
                  injection h with h
                  rcases writeUInt16BE_ok hlength with ⟨_, hlengthLe, rfl⟩
                  have himeiField : options.imeiBytes = imei := by
                    rw [BuildFrameOptions.imeiBytes, himei]
                    rfl
                  have htimeField : options.gTimeField = gTime := by
                    rw [BuildFrameOptions.gTimeField, htime]
                    rfl
                  refine ⟨by rw [himeiField, himeiLen],
                    by rw [htimeField, htimeLen], by lia, ?_, ?_⟩
                  · simp only [BuildFrameOptions.declaredLength]
                    lia
                  · rw [← h]
                    simp only [BuildFrameOptions.body, himeiField, htimeField,
                      BuildFrameOptions.declaredLength, Int.toNat_natCast,
                      List.append_assoc]
                    rfl

theorem buildFrame_returns {options : BuildFrameOptions} {imei gTime : Bytes}
    (himei : encodeImei options.imei = Except.ok imei)
    (htime : encodeGTime options.generatedAt = Except.ok gTime)
    (hserial : options.serialNumber < 65536)
    (hlength : options.declaredLength < 65536) :
    exists bytes, buildFrame options = Except.ok bytes := by
  have hactual : imei.length +
      [UInt8.ofNat (options.deviceId.getD 0x20)].length +
      options.dataZone.length + gTime.length +
      (beBytes 2 options.serialNumber).length = options.actualLength := by
    rw [encodeImei_length himei, encodeGTime_length htime, beBytes_length,
      List.length_singleton, BuildFrameOptions.actualLength]
    lia
  have hdeclared := writeUInt16BE_of_lt hlength
  unfold BuildFrameOptions.declaredLength at hdeclared
  unfold buildFrame
  rw [himei, htime, writeUInt16BE_of_lt hserial]
  simp only [bind, Except.bind, hactual, hdeclared]
  exact ⟨_, rfl⟩

/-- A frame as {lit}`buildFrame` assembles it from well-formed options. -/
structure BuiltFrame where
  options : BuildFrameOptions
  bytes : Bytes
  head_token : HeadToken options.head
  built : buildFrame options = Except.ok bytes

namespace BuiltFrame

def headLength (f : BuiltFrame) : Nat :=
  f.options.head.toList.length

theorem asciiBytes_head {head : String} (h : HeadToken head) :
    asciiBytes head = (asciiBytes head).dropLast ++ [colon] ∧
      (asciiBytes head).dropLast.length + 1 = head.toList.length ∧
      forall b, b ∈ (asciiBytes head).dropLast -> b ≠ colon := by
  rcases h with ⟨_, hlast, hchars⟩
  rcases List.getLast?_eq_some_iff.mp hlast with ⟨name, hname⟩
  rw [hname, List.dropLast_concat] at hchars
  have hbytes : asciiBytes head =
      name.map (fun c => UInt8.ofNat c.toNat) ++ [colon] := by
    rw [asciiBytes, hname, List.map_append]
    rfl
  rw [hbytes, List.dropLast_concat]
  refine ⟨rfl, by rw [hname]; simp, ?_⟩
  intro b hb
  rcases List.mem_map.mp hb with ⟨c, hc, rfl⟩
  rcases hchars c hc with ⟨hascii, hne⟩
  intro heq
  apply hne
  have hval := congrArg UInt8.toNat heq
  rw [UInt8.toNat_ofNat', Nat.mod_eq_of_lt (by lia)] at hval
  rw [← Char.ofNat_toNat c, hval]
  rfl

theorem headName_length_le (f : BuiltFrame) :
    (asciiBytes f.options.head).dropLast.length ≤ 7 := by
  have hlen := (asciiBytes_head f.head_token).right.left
  have hmax := f.head_token.left
  lia

theorem le_body_length (f : BuiltFrame) :
    minimumTrailingFixedBytes ≤ f.options.body.length := by
  rcases buildFrame_ok f.built with ⟨himei, htime, _⟩
  simp only [minimumTrailingFixedBytes, BuildFrameOptions.body,
    List.length_append, himei, htime, beBytes_length, List.length_singleton]
  lia

def wire (f : BuiltFrame) : WireFrame where
  headName := (asciiBytes f.options.head).dropLast
  declaredLength := f.options.declaredLength
  body := f.options.body
  headName_length := f.headName_length_le
  headName_colon := (asciiBytes_head f.head_token).right.right
  declaredLength_lt := (buildFrame_ok f.built).right.right.right.left
  body_length := f.le_body_length

variable (f : BuiltFrame)

theorem wire_bytes : f.wire.bytes = f.bytes := by
  rw [(buildFrame_ok f.built).right.right.right.right,
    (asciiBytes_head f.head_token).left]
  simp [WireFrame.bytes, wire]

theorem wire_headLength : f.wire.headLength = f.headLength :=
  (asciiBytes_head f.head_token).right.left

theorem wire_body_length :
    f.wire.body.length = f.options.actualLength := by
  rcases buildFrame_ok f.built with ⟨himei, htime, _⟩
  simp only [wire, BuildFrameOptions.actualLength, BuildFrameOptions.body,
    List.length_append, himei, htime, beBytes_length, List.length_singleton]
  lia

theorem wire_truthful_iff :
    f.wire.Truthful <->
      f.options.declaredLength = f.options.actualLength := by
  rw [WireFrame.Truthful, wire_body_length]
  rfl

end BuiltFrame

end Tracker
end AvtTracker
