import AvtTracker.Tracker.ParserTypes

/-!
# ASCII data zones

Replies to commands carry a comma-separated list.  Runs of its fields that
start with {lit}`PEO` are polygon fence records, which are decoded one after
the other until one of them is malformed or cut off.
-/

namespace AvtTracker
namespace Tracker

open Foundation

structure PeoFencePoint where
  longitude : Rat
  latitude : Rat
  deriving DecidableEq, Repr

structure PeoFenceStatus where
  peoId : Rat
  mode : Rat
  startPoint : Rat
  endPoint : Rat
  points : List PeoFencePoint
  checkIntervalSeconds : Rat
  overSpeedAlarmMode : Rat
  overSpeedThresholdKmh : Rat
  overSpeedDurationSeconds : Rat
  deriving DecidableEq, Repr

structure AsciiFrameData where
  raw : String
  fields : List String
  commandKey : Option String
  peoFences : Option (List PeoFenceStatus)
  deriving DecidableEq, Repr

/-- The points of a fence, or the number of complete points in front of the
first pair that is not numeric. -/
def readPoints (pointCount : JsNumber) :
    Nat -> List String -> Except Nat (List PeoFencePoint)
  | p, longitude :: latitude :: fields =>
      if (JsNumber.finite p).lt pointCount then
        match number (some longitude), number (some latitude) with
        | some lon, some lat => do
            let points ← readPoints pointCount (p + 1) fields
            pure ({ longitude := lon, latitude := lat } :: points)
        | _, _ => Except.error p
      else pure []
  | p, _ =>
      if (JsNumber.finite p).lt pointCount then Except.error p else pure []

/-- How many points a start and an end ask for. -/
def pointCountOf (startPoint endPoint : Rat) : JsNumber :=
  ((JsNumber.finite endPoint).sub (JsNumber.finite startPoint)).add 1

/-- Decode the record whose {lit}`PEO` field has a given index, from the fields
behind that one. -/
def parsePeoFence (i : Nat) (fields : List String) :
    Except Warning PeoFenceStatus :=
  match number fields[0]?, number fields[1]?, number fields[2]?,
    number fields[3]? with
  | some peoId, some mode, some startPoint, some endPoint =>
      let pointCount := pointCountOf startPoint endPoint
      if pointCount.lt 0 then Except.error (Warning.malformedFence i)
      else
        match readPoints pointCount 0 (fields.drop 4) with
        | Except.error p =>
            Except.error
              (Warning.fenceCoordinatesTruncated peoId (i + 5 + 2 * p))
        | Except.ok points =>
            let trailer := fields.drop (4 + 2 * points.length)
            match number trailer[0]?, number trailer[1]?, number trailer[2]?,
              number trailer[3]? with
            | some interval, some alarmMode, some threshold, some duration =>
                Except.ok
                  { peoId := peoId, mode := mode, startPoint := startPoint
                    endPoint := endPoint, points := points
                    checkIntervalSeconds := interval
                    overSpeedAlarmMode := alarmMode
                    overSpeedThresholdKmh := threshold
                    overSpeedDurationSeconds := duration }
            | _, _, _, _ =>
                Except.error (Warning.fenceTrailerTruncated peoId
                  (i + 5 + 2 * points.length))
  | _, _, _, _ => Except.error (Warning.malformedFence i)

/-- Fields of a record behind its {lit}`PEO` field. -/
def PeoFenceStatus.fieldCount (fence : PeoFenceStatus) : Nat :=
  4 + 2 * fence.points.length + 4

/-- The scan over the field list from an index on.  A decoded record is jumped
over; the first one that fails ends the scan. -/
def scanPeoFences :
    Nat -> Nat -> List String -> List PeoFenceStatus × List Warning
  | _, _, [] => ([], [])
  | i, skip + 1, _ :: fields => scanPeoFences (i + 1) skip fields
  | i, 0, field :: fields =>
      if field ≠ "PEO" then scanPeoFences (i + 1) 0 fields
      else
        match parsePeoFence i fields with
        | Except.error warning => ([], [warning])
        | Except.ok fence =>
            let rest := scanPeoFences (i + 1) fence.fieldCount fields
            (fence :: rest.1, rest.2)

def parsePeoFenceList (fields : List String) :
    List PeoFenceStatus × List Warning :=
  scanPeoFences 0 0 fields

def parseAsciiDataZone (dataZone : Bytes) : AsciiFrameData × List Warning :=
  let raw := asciiText dataZone
  let fields :=
    if raw.length > 0 then
      (raw.toList.splitOn ',').map String.ofList
    else []
  let peoFences := parsePeoFenceList fields
  ({ raw := raw
     fields := fields
     commandKey := fields[0]?.filter (fun key => key ≠ "")
     peoFences := if peoFences.1.length > 0 then some peoFences.1 else none },
    peoFences.2)

end Tracker
end AvtTracker
