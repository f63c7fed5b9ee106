import RoadWeather.Time.Instant
import RoadWeather.Number.Dyadic

/-! # Instants as day numbers -/

namespace RoadWeather.Time

def serialEpoch : Instant := { year := 1899, month := 12, day := 30 }

def epoch1904 : Instant := { year := 1904, month := 1, day := 1 }

def roundToEven (x : Float) : Int :=
  let f := x.floor
  let n := (Number.wholeValue? f).getD 0
  let r := x - f
  if r > 0.5 then n + 1
  else if r < 0.5 then n
  else if n % 2 = 0 then n else n + 1

namespace Instant

def toSerial (t : Instant) : Float :=
  let days : Int := (t.ordinal : Int) - serialEpoch.ordinal
  let days := if 0 < days ∧ days ≤ 60 then days - 1 else days
  let secs := t.hour * 3600 + t.minute * 60 + t.second
  Float.ofInt days + (Float.ofNat secs + Float.ofNat t.micro / 1000000.0) / 86400.0

def serialMicros (from1904 : Bool) (x : Float) : Int :=
  let day := x.floor
  let ms := roundToEven ((x - day) * 86400.0 * 1000.0)
  let d := (Number.wholeValue? day).getD 0
  if from1904 then epoch1904.toMicros + d * 86400000000 + ms * 1000
  else
    let d := if 0 < x ∧ x < 60 then d + 1 else d
    serialEpoch.toMicros + d * 86400000000 + ms * 1000

def ofSerial (x : Float) : Instant := ofMicros (serialMicros false x)

def stored (t : Instant) : Instant := ofSerial t.toSerial

end Instant

end RoadWeather.Time
