import WebDataLogger.HttpConnections

/-!
# The lengths of the sensor response

The timestamp, the JSON text and the response are formatted into three buffers, one
inside the other. Whatever the registers of the clock hold, none of them is cut.
-/

namespace WebDataLogger.ResponseLengths

open CText HttpMessage EepromDriver RealTimeClock SensorData WebService HttpConnections

/-- "20YY-MM-DD HH:MM:SS" as `snprintf` formats it, before its buffer. -/
def timestampText (t : RtcTime) : Text :=
  bytesOf "20"++decimal02 t.year++45::(decimal02 t.month++45::(decimal02 t.date++
    32::(decimal02 t.hour++58::(decimal02 t.min++58::decimal02 t.sec))))

/-- A buffer keeps the whole of a formatted text, and the length returned is what it holds. -/
def Kept (size : ℕ) (formatted : Text) : Prop :=
  snprintf size formatted=(formatted,formatted.length)

section Response

variable {τ : Type*} (float : FloatOps τ)

/-- What `send_sensor_json` copies, or zeros without the mutex. -/
def snapshotOf (mutexFree : Bool) (sensorData : WebSensorData τ τ) : WebSensorData τ τ :=
  if mutexFree then sensorData else ⟨float.zero,float.zero,[]⟩

/-- The sensor data are formatted and sent without a cut, under their own length. -/
structure SentWhole (mutexFree : Bool) (sensorData : WebSensorData τ τ) : Prop where
  /-- `body` holds the JSON text. -/
  body : Kept 128 (formatBody float (snapshotOf float mutexFree sensorData))
  /-- `tx_buf` holds the response, so that `tx_len` does not exceed it. -/
  response : Kept 384 (formatResponse (formatBody float (snapshotOf float mutexFree sensorData))
    (formatBody float (snapshotOf float mutexFree sensorData)).length)
  /-- `send` gets the response and nothing else. -/
  sent : sendSensorJson float mutexFree sensorData=
    formatResponse (formatBody float (snapshotOf float mutexFree sensorData))
      (formatBody float (snapshotOf float mutexFree sensorData)).length
  /-- The response is a message with the JSON text as its body, whose `Content-Length` is
  the number of bytes of that body. -/
  sized : ∃ message : Response, message.bytes=sendSensorJson float mutexFree sensorData ∧
    message.body=formatBody float (snapshotOf float mutexFree sensorData) ∧
      contentLengths message.headers=[decimal message.body.length]

end Response

/-- Decoding any byte as BCD gives ten times its high digit and its low one. -/
theorem bcd2dec_toNat (val : UInt8) : (bcd2dec val).toNat=val.toNat/16*10+val.toNat%16 := by
  have hlt := val.toNat_lt
  have hmask : val.toNat&&&15=val.toNat%16 := Nat.and_two_pow_sub_one_eq_mod _ 4
  simp only [bcd2dec,UInt8.toNat_add,UInt8.toNat_mul,UInt8.toNat_shiftRight,UInt8.toNat_and]
  change (val.toNat>>>4*10%256+(val.toNat&&&15))%256=_
  rw [hmask,Nat.shiftRight_eq_div_pow]
  omega

/-- A byte prints into two digits below a hundred, and never into more than three. -/
theorem decimal02_length (v : UInt8) :
    (decimal02 v).length≤3 ∧ (v.toNat<100 → (decimal02 v).length=2) := by
  unfold decimal02
  split
  next => exact ⟨Nat.le_succ 2,fun _ => rfl⟩
  next hlarge =>
    refine ⟨le_refl _,fun hlt => ?_⟩
    exact absurd (UInt8.lt_iff_toNat_lt.mpr hlt) hlarge

/-- What is decoded from a register without its top bit has two digits. -/
theorem decimal02_bcd2dec {val : UInt8} (h : val.toNat<128) :
    (decimal02 (bcd2dec val)).length=2 := by
  have hvalue := bcd2dec_toNat val
  exact (decimal02_length _).2 (by omega)

/-- The masks of the registers clear their top bits. -/
theorem and_lt (val : UInt8) {mask : UInt8} (h : mask.toNat<128) : (val&&&mask).toNat<128 := by
  rw [UInt8.toNat_and]
  exact Nat.and_le_right.trans_lt h

/-- The timestamp of any registers has at most 20 characters. Only the year, whose register
is not masked, can take three digits. -/
theorem timestampText_decodeTime (chip : Ds3231) :
    (timestampText (decodeTime chip)).length≤20 := by
  have hyear := (decimal02_length (bcd2dec chip.year)).1
  have hmonth := decimal02_bcd2dec (and_lt chip.month (show (0x1F : UInt8).toNat<128 by decide))
  have hdate := decimal02_bcd2dec (and_lt chip.date (show (0x3F : UInt8).toNat<128 by decide))
  have hhour := decimal02_bcd2dec (and_lt chip.hours (show (0x3F : UInt8).toNat<128 by decide))
  have hmin := decimal02_bcd2dec (and_lt chip.minutes (show (0x7F : UInt8).toNat<128 by decide))
  have hsec := decimal02_bcd2dec (and_lt chip.seconds (show (0x7F : UInt8).toNat<128 by decide))
  have hcentury : (bytesOf "20").length=2 := by decide
  simp only [timestampText,decodeTime,List.length_append,List.length_cons]
  omega

/-- A text shorter than its buffer is kept. -/
theorem kept_of_lt {size : ℕ} {formatted : Text} (h : formatted.length<size) :
    Kept size formatted := snprintf_fits (by omega)

/-- A timestamp that is kept is stored as it is formatted. -/
theorem formatTimestamp_eq {t : RtcTime} (h : Kept 24 (timestampText t)) :
    formatTimestamp t=timestampText t := congrArg Prod.fst h

section Response

variable {τ : Type*} (float : FloatOps τ)

/-- Sensor data whose timestamp fits its field are sent whole. -/
theorem sentWhole (mutexFree : Bool) {sensorData : WebSensorData τ τ}
    (h : sensorData.timestamp.length≤23) : SentWhole float mutexFree sensorData := by
  have hsnap : (snapshotOf float mutexFree sensorData).timestamp.length≤23 := by
    cases mutexFree
    · exact Nat.zero_le _
    · exact h
  have hbody := formatBody_length float hsnap
  have hresponse := formatResponse_length hbody
  have hsent : sendSensorJson float mutexFree sensorData=
      formatResponse (formatBody float (snapshotOf float mutexFree sensorData))
        (formatBody float (snapshotOf float mutexFree sensorData)).length :=
    sendSensorJson_snap float rfl hsnap
  refine ⟨kept_of_lt (by omega),kept_of_lt (by omega),hsent,?_⟩
  rw [hsent,formatResponse_parts]
  generalize formatBody float (snapshotOf float mutexFree sensorData)=body
  exact ⟨⟨bytesOf "200",bytesOf "OK",
    [applicationJson]++contentLength body.length::[allowOrigin,connectionClose],body,by decide,
    by decide,sized_of_contentLength (by decide) (by decide)⟩,rfl,rfl,
    contentLengths_single _ (by decide) (by decide)⟩

/-- In every state of the service its response is sent whole. -/
theorem sentWhole_run (temp pressure : τ) (t : RtcTime) (events : List (Event τ))
    (mutexFree : Bool) : SentWhole float mutexFree
      ((webService float).run (webServiceInit float temp pressure t) events).sensorData :=
  sentWhole float mutexFree (timestamp_run float temp pressure t events)

/-- Whatever the seven registers of the clock hold and whatever the readings are, the
timestamp, the JSON text and the response fit their buffers, and the response is sent whole
under the length of its body. -/
theorem response_never_truncated (chip : Ds3231) (before : RtcTime)
    (previous : WebSensorData τ τ) (temp pressure : τ) (mutexFree : Bool) :
    Kept 24 (timestampText (ds3231ReadTime .success chip before).2) ∧
      (webServiceUpdateSensorData true previous temp pressure
        (ds3231ReadTime .success chip before).2).timestamp=
          timestampText (ds3231ReadTime .success chip before).2 ∧
      SentWhole float mutexFree (webServiceUpdateSensorData true previous temp pressure
        (ds3231ReadTime .success chip before).2) := by
  have hlength := timestampText_decodeTime chip
  have hkept : Kept 24 (timestampText (decodeTime chip)) := kept_of_lt (by omega)
  exact ⟨hkept,formatTimestamp_eq hkept,sentWhole float mutexFree (formatTimestamp_length _)⟩

end Response

end WebDataLogger.ResponseLengths
