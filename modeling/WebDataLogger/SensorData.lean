import WebDataLogger.RealTimeClock

/-!
# The sensor data of the web service

`WebService_UpdateSensorData` copies the two readings of the analog service and
formats its `t` into a timestamp. The types of the readings are left open.
-/

namespace WebDataLogger.SensorData

open CText RealTimeClock

/-- `WebSensorData_t`. -/
structure WebSensorData (τ π : Type*) where
  temp : τ
  pressure : π
  timestamp : Text
  deriving DecidableEq

/-- `%02d` of a byte. -/
def decimal02 (v : UInt8) : Text :=
  if v<100 then twoDigits v.toNat else digitChar (v.toNat/100)::twoDigits (v.toNat%100)

/-- The timestamp "20YY-MM-DD HH:MM:SS" of a time, cut to its 24-byte buffer. -/
def formatTimestamp (t : RtcTime) : Text :=
  (bytesOf "20"++decimal02 t.year++45::(decimal02 t.month++45::(decimal02 t.date++
    32::(decimal02 t.hour++58::(decimal02 t.min++58::decimal02 t.sec))))).take 23

variable {τ π : Type*}

/-- `WebService_UpdateSensorData`. When the mutex is not free the update is skipped. -/
def webServiceUpdateSensorData (mutexFree : Bool) (data : WebSensorData τ π) (temp : τ)
    (pressure : π) (t : RtcTime) : WebSensorData τ π :=
  if mutexFree=true then ⟨temp,pressure,formatTimestamp t⟩ else data

/-- A timestamp fits its buffer. -/
theorem formatTimestamp_length (t : RtcTime) : (formatTimestamp t).length≤23 :=
  List.length_take_le _ _

end WebDataLogger.SensorData
