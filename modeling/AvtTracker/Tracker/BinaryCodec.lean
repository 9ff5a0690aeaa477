import AvtTracker.Foundation.Calendar
import AvtTracker.Foundation.Decoder
import Mathlib.Data.Nat.Bitwise

/-!
# Binary codecs and the buffer cursor

The field codecs of {lit}`binary-codec.util` and the readers of
{lit}`BufferCursor`.  A codec throws if it is handed the wrong number of bytes;
behind {lit}`readBytes` it never is.
-/

namespace AvtTracker
namespace Tracker

open Foundation

/-!
## Text
-/

/-- {lit}`padStart` with zeros, on decimal digits. -/
def padStart (width : Nat) (digits : List Char) : List Char :=
  List.replicate (width - digits.length) '0' ++ digits

/-- {lit}`toString('ascii')`: the high bit of every byte is dropped. -/
def asciiText (bytes : Bytes) : String :=
  String.ofList (bytes.map (fun b => Char.ofNat (b.toNat % 128)))

theorem char_asciiText {c : Char} (h : c.toNat < 128) :
    Char.ofNat ((UInt8.ofNat c.toNat).toNat % 128) = c := by
  rw [UInt8.toNat_ofNat', Nat.mod_eq_of_lt (by lia : c.toNat < 2 ^ 8),
    Nat.mod_eq_of_lt h, Char.ofNat_toNat]

theorem asciiText_chars {text : List Char}
    (h : forall c, c ∈ text -> c.toNat < 128) :
    asciiText (text.map (fun c => UInt8.ofNat c.toNat)) =
      String.ofList text := by
  unfold asciiText
  rw [List.map_map]
  apply congrArg String.ofList
  calc text.map _ = text.map id :=
        List.map_congr_left (fun c hc => char_asciiText (h c hc))
    _ = text := List.map_id text

def byteAt (bytes : Bytes) (i : Nat) : Nat :=
  (bytes.getD i 0).toNat

/-!
## Codecs
-/

def wrongLength (field : String) (expected : Nat) (bytes : Bytes) : String :=
  s!"{field} field must be {expected} bytes, got {bytes.length}"

def decodeImei (bytes : Bytes) : Except String String :=
  if bytes.length ≠ 8 then Except.error (wrongLength "IMEI" 8 bytes)
  else
    let pairs := (List.range 7).flatMap (fun i =>
      padStart 2 (Nat.toDigits 10 (byteAt bytes i)))
    Except.ok (String.ofList
      (pairs ++ Nat.toDigits 10 (byteAt bytes 7 % 10)))

def decodeGTime (bytes : Bytes) : Except String (Option Date) :=
  if bytes.length ≠ 7 then Except.error (wrongLength "G-Time" 7 bytes)
  else
    let year := readUInt16BE bytes 0
    let month := byteAt bytes 2
    let day := byteAt bytes 3
    let hour := byteAt bytes 4
    let minute := byteAt bytes 5
    let second := byteAt bytes 6
    if year = 0 ∨ month = 0 ∨ day = 0 then Except.ok none
    else Except.ok (some
      { time := Date.utc year ((month : Int) - 1) day hour minute second })

def formatProtocolVersion (bytes : Bytes) : Except String String :=
  if bytes.length ≠ 2 then
    Except.error (wrongLength "Protocol version" 2 bytes)
  else Except.ok (String.ofList (Nat.toDigits 10 (byteAt bytes 0) ++
    '.' :: padStart 2 (Nat.toDigits 10 (byteAt bytes 1))))

def decodeShortHms (bytes : Bytes) : Except String Nat :=
  if bytes.length ≠ 3 then Except.error (wrongLength "Short HMS" 3 bytes)
  else Except.ok
    (byteAt bytes 0 * 3600 + byteAt bytes 1 * 60 + byteAt bytes 2)

def decodeExtendedHms (bytes : Bytes) : Except String Nat :=
  if bytes.length ≠ 5 then Except.error (wrongLength "Extended HMS" 5 bytes)
  else
    let hours := (byteAt bytes 0 <<< 16) ||| (byteAt bytes 1 <<< 8) |||
      byteAt bytes 2
    Except.ok (hours * 3600 + byteAt bytes 3 * 60 + byteAt bytes 4)

structure DtcCode where
  code : String
  permanent : Bool
  pending : Bool
  confirmed : Bool
  deriving DecidableEq, Repr

/-- {lit}`DTC_CATEGORY_LETTERS` -/
def dtcCategoryLetters : List Char := ['P', 'C', 'B', 'U']

def decodeDtcCode (bytes : Bytes) : Except String DtcCode :=
  if bytes.length ≠ 3 then Except.error (wrongLength "DTC" 3 bytes)
  else
    let byte0 := byteAt bytes 0
    let byte1 := byteAt bytes 1
    let byte2 := byteAt bytes 2
    let category := dtcCategoryLetters.getD ((byte0 >>> 6) &&& 0x3) 'P'
    let digit2 := hexDigit ((byte0 >>> 4) &&& 0x3)
    let digit3 := hexDigit (byte0 &&& 0xf)
    let digit4 := hexDigit ((byte1 >>> 4) &&& 0xf)
    let digit5 := hexDigit (byte1 &&& 0xf)
    Except.ok
      { code := String.ofList [category, digit2, digit3, digit4, digit5]
        permanent := byte2 &&& 0x4 ≠ 0
        pending := byte2 &&& 0x2 ≠ 0
        confirmed := byte2 &&& 0x1 ≠ 0 }

/-!
No codec refuses a field of its own length.
-/

theorem decodeImei_accepts {bytes : Bytes} (h : bytes.length = 8) :
    exists imei, decodeImei bytes = Except.ok imei :=
  ⟨_, if_neg (not_not_intro h)⟩

theorem decodeGTime_accepts {bytes : Bytes} (h : bytes.length = 7) :
    exists time, decodeGTime bytes = Except.ok time := by
  simp only [decodeGTime, if_neg (not_not_intro h)]
  by_cases hzero : readUInt16BE bytes 0 = 0 ∨ byteAt bytes 2 = 0 ∨
      byteAt bytes 3 = 0
  · exact ⟨none, if_pos hzero⟩
  · exact ⟨_, if_neg hzero⟩

theorem decodeGTime_range {bytes : Bytes} {date : Date}
    (h : decodeGTime bytes = Except.ok (some date)) :
    exists t, date.time = some t ∧ -62200000000000 ≤ t ∧
      t ≤ 2100000000000000 := by
  unfold decodeGTime at h
  rcases ite_eq_iff.mp h with ⟨_, h⟩ | ⟨hlen, h⟩
  · cases h
  · dsimp only at h
    rcases ite_eq_iff.mp h with ⟨_, h⟩ | ⟨_, h⟩
    · cases h
    · rw [← Option.some.inj (Except.ok.inj h)]
      have hyear := readUInt16BE_lt bytes 0
      have hbyte : forall i, byteAt bytes i < 256 :=
        fun i => (bytes.getD i 0).toNat_lt
      have hmonth := hbyte 2
      have hday := hbyte 3
      have hhour := hbyte 4
      have hminute := hbyte 5
      have hsecond := hbyte 6
      apply Date.utc_range <;> constructor <;> lia

theorem formatProtocolVersion_accepts {bytes : Bytes}
    (h : bytes.length = 2) :
    exists version, formatProtocolVersion bytes = Except.ok version :=
  ⟨_, if_neg (not_not_intro h)⟩

theorem decodeShortHms_accepts {bytes : Bytes} (h : bytes.length = 3) :
    exists seconds, decodeShortHms bytes = Except.ok seconds :=
  ⟨_, if_neg (not_not_intro h)⟩

theorem decodeExtendedHms_accepts {bytes : Bytes} (h : bytes.length = 5) :
    exists seconds, decodeExtendedHms bytes = Except.ok seconds :=
  ⟨_, if_neg (not_not_intro h)⟩

theorem decodeDtcCode_accepts {bytes : Bytes} (h : bytes.length = 3) :
    exists code, decodeDtcCode bytes = Except.ok code :=
  ⟨_, if_neg (not_not_intro h)⟩

/-!
## Reading through the cursor
-/

namespace BufferCursor

variable {ω : Type}

def readBytes (count : Nat) : Decoder ω Bytes :=
  Decoder.take count

def skip (count : Nat) : Decoder ω Unit := do
  let _ ← Decoder.take count
  pure ()

def readUInt8 : Decoder ω Nat := Decoder.unsigned 1
def readInt8 : Decoder ω Int := Decoder.signed 1
def readUInt16BE : Decoder ω Nat := Decoder.unsigned 2
def readInt16BE : Decoder ω Int := Decoder.signed 2
def readUInt32BE : Decoder ω Nat := Decoder.unsigned 4
def readInt32BE : Decoder ω Int := Decoder.signed 4

def readUIntBE (byteLength : Nat) : Decoder ω Nat :=
  Decoder.unsigned byteLength

def readLengthPrefixedAscii : Decoder ω String := do
  let length ← readUInt8
  let bytes ← readBytes length
  pure (asciiText bytes)

theorem run_skip_ok {count : Nat} {buf : Bytes} {offset : Nat}
    (h : count ≤ buf.length - offset) :
    (skip count : Decoder ω Unit).run buf offset =
      ⟨Except.ok (), offset + count, []⟩ := by
  have htake := Decoder.run_take_ok (ω := ω) h
  rw [skip, Decoder.run_bind_ok (by rw [htake]), htake]
  rfl

instance (count : Nat) : Decoder.Lawful (readBytes count : Decoder ω Bytes) :=
  inferInstanceAs (Decoder.Lawful (Decoder.take count))

instance (count : Nat) : Decoder.Lawful (skip count : Decoder ω Unit) :=
  inferInstanceAs
    (Decoder.Lawful (Decoder.take count >>= fun _ => pure ()))

instance : Decoder.Lawful (readUInt8 : Decoder ω Nat) :=
  inferInstanceAs (Decoder.Lawful (Decoder.unsigned 1))

instance : Decoder.Lawful (readInt8 : Decoder ω Int) :=
  inferInstanceAs (Decoder.Lawful (Decoder.signed 1))

instance : Decoder.Lawful (readUInt16BE : Decoder ω Nat) :=
  inferInstanceAs (Decoder.Lawful (Decoder.unsigned 2))

instance : Decoder.Lawful (readInt16BE : Decoder ω Int) :=
  inferInstanceAs (Decoder.Lawful (Decoder.signed 2))

instance : Decoder.Lawful (readUInt32BE : Decoder ω Nat) :=
  inferInstanceAs (Decoder.Lawful (Decoder.unsigned 4))

instance : Decoder.Lawful (readInt32BE : Decoder ω Int) :=
  inferInstanceAs (Decoder.Lawful (Decoder.signed 4))

instance (byteLength : Nat) :
    Decoder.Lawful (readUIntBE byteLength : Decoder ω Nat) :=
  inferInstanceAs (Decoder.Lawful (Decoder.unsigned byteLength))

instance : Decoder.Lawful (readLengthPrefixedAscii : Decoder ω String) := by
  unfold readLengthPrefixedAscii
  infer_instance

end BufferCursor

end Tracker
end AvtTracker
