import WebDataLogger.TransitionRuns

/-!
# Service table and monitor loop of the health monitor

The table holds one entry for each registered task, with its 8-bit missed
time counter and the pending notification of the task behind its handle.
One pass of the monitor loop notifies every live task and then settles the
restflag and the counter of every entry. The watchdog is fed only when no
counter has reached the timeout of its entry.
-/

namespace WebDataLogger.HealthMonitor

/-- Capacity of the service table. -/
def maxServiceCount : ℕ := 10

/-- Stored bytes of `taskname`, its terminator included. -/
def tasknameSize : ℕ := 20

/-- One entry of the table, as `Registor_service` fills it. -/
structure HealthMonitorReg where
  /-- Task name up to its terminator, for diagnostics only. -/
  taskname : List Char
  /-- Index of the entry, returned to the task that registers. -/
  taskId : UInt8
  /-- Missed time in milliseconds at which the task counts as frozen. -/
  timeoutValue : UInt32
  /-- Set by the task when it checks in, cleared by the monitor. -/
  restflag : Bool
  /-- Handle variable of the task and its content: either may be NULL. -/
  taskHandle : Option (Option ℕ)
  deriving DecidableEq

/-- An entry with its counter and the notification state of its task. -/
structure ServiceSlot where
  /-- Registered data. -/
  reg : HealthMonitorReg
  /-- `HeltMonit_timercount` of the entry, in milliseconds modulo 256. -/
  timercount : UInt8
  /-- A notification was sent and the task has not consumed it yet. -/
  notified : Bool
  deriving DecidableEq

/-- The registered entries. `serviceCount` is their number. -/
structure ServiceTable where
  /-- Entries in the order of registration. -/
  slots : List ServiceSlot
  /-- `Registor_service` never returns on a full table. -/
  bounded : slots.length ≤ maxServiceCount
  deriving DecidableEq

/-- Tables with the same entries are equal. -/
@[ext] theorem ServiceTable.ext {first second : ServiceTable} (h : first.slots=second.slots) :
    first=second := by
  cases first
  cases second
  cases h
  rfl

/-- The table before any registration. -/
def emptyTable : ServiceTable := ⟨[],Nat.zero_le _⟩

/-- Append an entry and return its id. On a full table the source prints an
error and spins forever, which is the result `none`. -/
def registorService (table : ServiceTable) (taskname : List Char) (timeoutValue : UInt32)
    (restflag : Bool) (taskHandle : Option (Option ℕ)) : Option (UInt8×ServiceTable) :=
  if h : maxServiceCount≤table.slots.length then none
  else
    let taskId := UInt8.ofNat table.slots.length
    let reg : HealthMonitorReg :=
      ⟨taskname.take (tasknameSize-1),taskId,timeoutValue,restflag,taskHandle⟩
    some (taskId,⟨table.slots++[⟨reg,0,false⟩],by
      simp only [List.length_append,List.length_singleton]
      omega⟩)

/-- A returned id is the index of the new entry, and older entries stay. -/
theorem registorService_slots {table table' : ServiceTable} {taskname : List Char}
    {timeoutValue : UInt32} {restflag : Bool} {taskHandle : Option (Option ℕ)} {taskId : UInt8}
    (h : registorService table taskname timeoutValue restflag taskHandle=some (taskId,table')) :
    taskId.toNat=table.slots.length ∧
      table'.slots=table.slots++[⟨⟨taskname.take (tasknameSize-1),taskId,timeoutValue,restflag,
        taskHandle⟩,0,false⟩] := by
  unfold registorService at h
  split at h
  · cases h
  · have hb := table.bounded
    obtain ⟨rfl,rfl⟩ := Prod.mk.inj (Option.some.inj h)
    refine ⟨?_,rfl⟩
    rw [UInt8.toNat_ofNat']
    unfold maxServiceCount at hb
    omega

/-- Arguments of one `Registor_service` call. -/
structure ServiceRequest where
  /-- Task name. -/
  taskname : List Char
  /-- Timeout in milliseconds. -/
  timeoutValue : UInt32
  /-- Initial restflag. -/
  restflag : Bool
  /-- Handle variable of the task and its content. -/
  taskHandle : Option (Option ℕ)

/-- The table after a sequence of registrations, unless one of them hangs. -/
def registorServices (table : ServiceTable) : List ServiceRequest → Option ServiceTable
  | [] => some table
  | request::requests =>
    (registorService table request.taskname request.timeoutValue request.restflag
      request.taskHandle).bind (fun registered => registorServices registered.2 requests)

/-- Registration keeps the requested timeouts, flags and handles in order. -/
theorem registorServices_slots {table table' : ServiceTable} {requests : List ServiceRequest}
    (h : registorServices table requests=some table') :
    table'.slots.map (fun slot => (slot.reg.timeoutValue,slot.reg.restflag,slot.reg.taskHandle))=
      table.slots.map (fun slot => (slot.reg.timeoutValue,slot.reg.restflag,slot.reg.taskHandle))++
        requests.map (fun request => (request.timeoutValue,request.restflag,request.taskHandle)) := by
  induction requests generalizing table with
  | nil =>
    obtain rfl := Option.some.inj h
    simp
  | cons request requests ih =>
    obtain ⟨⟨taskId,next⟩,hnext,hrest⟩ := Option.bind_eq_some_iff.mp h
    rw [ih hrest,(registorService_slots hnext).2]
    simp

/-- The registrations made by `main` before the scheduler starts, in its order.
All of them set the restflag and pass the handle variable of their own task. -/
def bootRequests : List ServiceRequest :=
  [⟨"Analog_TASK".toList,300,true,some (some 0)⟩,
    ⟨"Data_Logger".toList,600,true,some (some 1)⟩,
    ⟨"tcp_server".toList,1000,true,some (some 2)⟩,
    ⟨"Indicator_Task".toList,200,true,some (some 3)⟩,
    ⟨"MainApp_TASK".toList,300,true,some (some 4)⟩,
    ⟨"http_handler".toList,1000,true,some (some 5)⟩]

/-- An entry of the firmware's table at the start of the scheduler. -/
def bootSlot (taskId : UInt8) (request : ServiceRequest) : ServiceSlot :=
  ⟨⟨request.taskname,taskId,request.timeoutValue,request.restflag,request.taskHandle⟩,0,false⟩

/-- The table at the start of the scheduler. -/
def bootTable : ServiceTable :=
  ⟨List.zipWith bootSlot [0,1,2,3,4,5] bootRequests,by decide⟩

/-- `main` registers all its services without filling the table. -/
theorem registorServices_boot : registorServices emptyTable bootRequests=some bootTable := rfl

/-- Change the entry at one index. An index past the table changes nothing. -/
def updateSlot (table : ServiceTable) (i : ℕ) (f : ServiceSlot → ServiceSlot) : ServiceTable :=
  ⟨table.slots.modify i f,by rw [List.length_modify]; exact table.bounded⟩

/-- The entries after a change at one index. -/
@[simp] theorem updateSlot_getElem? (table : ServiceTable) (i j : ℕ)
    (f : ServiceSlot → ServiceSlot) :
    (updateSlot table i f).slots[j]?=table.slots[j]?.map (fun slot => if i=j then f slot else slot) :=
  List.getElem?_modify f i table.slots j

/-- A change at one index keeps `serviceCount`. -/
@[simp] theorem updateSlot_length (table : ServiceTable) (i : ℕ) (f : ServiceSlot → ServiceSlot) :
    (updateSlot table i f).slots.length=table.slots.length :=
  List.length_modify f table.slots i

/-- Set the restflag of an entry. -/
def setRestflag (slot : ServiceSlot) : ServiceSlot :=
  {slot with reg := {slot.reg with restflag := true}}

/-- `Reset_HeltMonit_service`: a valid id sets the restflag of its entry. -/
def resetHeltMonitService (table : ServiceTable) (taskId : UInt8) : ServiceTable :=
  if taskId.toNat<table.slots.length then updateSlot table taskId.toNat setRestflag else table

/-- The id check of the source decides nothing the update would not ignore. -/
theorem resetHeltMonitService_eq (table : ServiceTable) (taskId : UInt8) :
    resetHeltMonitService table taskId=updateSlot table taskId.toNat setRestflag := by
  unfold resetHeltMonitService
  split
  · rfl
  · have hn : table.slots.modify taskId.toNat setRestflag=table.slots :=
      List.modify_eq_self (by omega)
    simp only [updateSlot,hn]

/-- Send the notification when the handle and its content are not NULL. -/
def notifySlot (slot : ServiceSlot) : ServiceSlot :=
  match slot.reg.taskHandle with
  | some (some _) => {slot with notified := true}
  | _ => slot

/-- The task checked in: clear the flag and the missed time. -/
def clearSlot (slot : ServiceSlot) : ServiceSlot :=
  {slot with reg := {slot.reg with restflag := false}, timercount := 0}

/-- The task did not check in: add 10 ms to the 8-bit counter. -/
def bumpSlot (slot : ServiceSlot) : ServiceSlot :=
  {slot with timercount := slot.timercount+10}

/-- Settle the restflag and the counter of one entry. -/
def checkSlot (slot : ServiceSlot) : ServiceSlot :=
  if slot.reg.restflag=true then clearSlot slot else bumpSlot slot

/-- The counter has reached the timeout. The 8-bit counter is widened to the
32 bits of the timeout before the comparison. -/
def slotExpired (slot : ServiceSlot) : Bool :=
  decide (slot.reg.timeoutValue ≤ slot.timercount.toUInt32)

/-- The expiry test on natural numbers. -/
theorem slotExpired_iff (slot : ServiceSlot) :
    slotExpired slot=true ↔ slot.reg.timeoutValue.toNat ≤ slot.timercount.toNat := by
  rw [slotExpired,decide_eq_true_eq,UInt32.le_iff_toNat_le,UInt8.toNat_toUInt32]

/-- Console line for a frozen task: its name and both times cast to int. -/
structure Alert where
  /-- Printed task name. -/
  taskname : List Char
  /-- Printed counter. -/
  deadlockTime : Int32
  /-- Printed timeout. -/
  allowed : Int32
  deriving DecidableEq

/-- The console line of an expired entry. -/
def alertOf (slot : ServiceSlot) : Alert :=
  ⟨slot.reg.taskname,slot.timercount.toUInt32.toInt32,slot.reg.timeoutValue.toInt32⟩

/-- Second loop of a pass: the settled entries, `systemHealthy` and the alerts. -/
def processSlots : List ServiceSlot → List ServiceSlot×Bool×List Alert
  | [] => ([],true,[])
  | slot::rest =>
    let settled := checkSlot slot
    let tail := processSlots rest
    if slotExpired settled=true then (settled::tail.1,false,alertOf settled::tail.2.2)
    else (settled::tail.1,tail.2.1,tail.2.2)

/-- The second loop settles every entry by itself. -/
theorem processSlots_slots (slots : List ServiceSlot) :
    (processSlots slots).1=slots.map checkSlot := by
  induction slots with
  | nil => rfl
  | cons slot rest ih =>
    rw [processSlots]
    split <;> simp only [List.map_cons,ih]

/-- The system is healthy exactly when no settled entry has expired. -/
theorem processSlots_healthy (slots : List ServiceSlot) :
    (processSlots slots).2.1=true ↔ ∀ slot∈slots,slotExpired (checkSlot slot)=false := by
  induction slots with
  | nil => simp [processSlots]
  | cons slot rest ih =>
    rw [processSlots]
    split
    next h => simp [h]
    next h => simp only [ih,List.forall_mem_cons,Bool.eq_false_iff.mpr h,true_and]

/-- What one pass of the loop does besides changing the table. -/
structure PassReport where
  /-- `WWDT_Refresh` was called. -/
  refreshed : Bool
  /-- Console lines of the pass. -/
  alerts : List Alert
  deriving DecidableEq

/-- One whole pass of the `HealthMonitor_service` loop. -/
def healthMonitorPass (table : ServiceTable) : ServiceTable×PassReport :=
  let settled := processSlots (table.slots.map notifySlot)
  (⟨settled.1,by
      rw [processSlots_slots,List.length_map,List.length_map]
      exact table.bounded⟩,
    ⟨settled.2.1,settled.2.2⟩)

/-- The monitor task clears every counter before its first pass. -/
def clearCounters (table : ServiceTable) : ServiceTable :=
  ⟨table.slots.map (fun slot => {slot with timercount := 0}),by
    rw [List.length_map]
    exact table.bounded⟩

/-- The entries after a pass. -/
theorem healthMonitorPass_slots (table : ServiceTable) :
    (healthMonitorPass table).1.slots=table.slots.map (fun slot => checkSlot (notifySlot slot)) := by
  simp only [healthMonitorPass,processSlots_slots,List.map_map]
  rfl

/-- The watchdog is fed exactly when no settled entry has expired. -/
theorem healthMonitorPass_refreshed (table : ServiceTable) :
    (healthMonitorPass table).2.refreshed=true ↔
      ∀ slot∈table.slots,slotExpired (checkSlot (notifySlot slot))=false := by
  simp only [healthMonitorPass,processSlots_healthy,List.forall_mem_map]

/-- Notification touches neither the entry nor its counter. -/
@[simp] theorem notifySlot_reg (slot : ServiceSlot) : (notifySlot slot).reg=slot.reg := by
  unfold notifySlot
  split <;> rfl

/-- Notification keeps the counter. -/
@[simp] theorem notifySlot_timercount (slot : ServiceSlot) :
    (notifySlot slot).timercount=slot.timercount := by
  unfold notifySlot
  split <;> rfl

/-- Settling keeps the timeout. -/
@[simp] theorem checkSlot_timeout (slot : ServiceSlot) :
    (checkSlot slot).reg.timeoutValue=slot.reg.timeoutValue := by
  unfold checkSlot
  split <;> rfl

/-- Settling keeps the handle. -/
@[simp] theorem checkSlot_taskHandle (slot : ServiceSlot) :
    (checkSlot slot).reg.taskHandle=slot.reg.taskHandle := by
  unfold checkSlot
  split <;> rfl

/-- Settling always leaves the restflag cleared. -/
@[simp] theorem checkSlot_restflag (slot : ServiceSlot) : (checkSlot slot).reg.restflag=false := by
  unfold checkSlot
  split
  next => rfl
  next h => exact Bool.eq_false_iff.mpr h

/-- Settling keeps the notification. -/
@[simp] theorem checkSlot_notified (slot : ServiceSlot) : (checkSlot slot).notified=slot.notified := by
  unfold checkSlot
  split <;> rfl

/-- One missed pass adds ten milliseconds modulo the width of the counter. -/
theorem bumpSlot_timercount (slot : ServiceSlot) :
    (bumpSlot slot).timercount.toNat=(slot.timercount.toNat+10)%256 :=
  UInt8.toNat_add slot.timercount 10

end WebDataLogger.HealthMonitor
