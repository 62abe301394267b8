import Polyfast.Logging.Filters

/-!
# From `log_event` to the line

`logEvent` puts entity and payload on the record as attributes, the masking filter rewrites the message and
the arguments of the record, and the JSON formatter writes message and payload into one line.
-/

namespace Polyfast.Logging

/-- A call of `log_event`, with the name of its logger and of its level. -/
structure LogEvent where
  logger : String
  level : String
  message : String
  entityType : String := ""
  entityId : String := ""
  payload : Option Fields := none

/-- The arguments of a record. -/
inductive LogArgs
  | none
  | dict (fields : Fields)
  | tuple (items : List Data)

/-- `bool(record.args)`. -/
def LogArgs.truthy : LogArgs → Bool
  | none | dict .nil | tuple [] => false
  | _ => true

structure LogRecord where
  name : String
  levelname : String
  msg : String
  args : LogArgs := .none
  entityType : String
  entityId : String
  payload : Option Fields

/-- `log_event`: the record that the logger makes of the call. -/
def logEvent (e : LogEvent) : LogRecord where
  name := e.logger
  levelname := e.level
  msg := e.message
  entityType := e.entityType
  entityId := e.entityId
  payload := e.payload

/-- An argument of the tuple. -/
def maskArg : Data → Data
  | .str s => .str (maskString s)
  | d => d

/-- `CredentialMaskingFilter.filter`. -/
def LogRecord.masked (r : LogRecord) : LogRecord :=
  { r with
    msg := maskString r.msg
    args := match r.args with
      | .none => .none
      | .dict fields => .dict (maskDict fields)
      | .tuple items => .tuple (items.map maskArg) }

/-- `getMessage`, with the `%` operator of strings. -/
def LogRecord.getMessage (percent : String → LogArgs → String) (r : LogRecord) : String :=
  if r.args.truthy then percent r.msg r.args else r.msg

/-- The entries of a line without its payload. -/
def LogRecord.entry (percent : String → LogArgs → String) (r : LogRecord) (timestamp : String)
    (rest : Fields) : Fields :=
  .cons "timestamp" (.str timestamp) <| .cons "severity" (.str r.levelname) <|
    .cons "entity_type" (.str r.entityType) <| .cons "entity_id" (.str r.entityId) <|
      .cons "message" (.str (r.getMessage percent)) <| .cons "logger" (.str r.name) rest

/-- `JsonFormatter.format` of a record without exception: a payload that is not empty comes last. -/
def LogRecord.format (percent : String → LogArgs → String) (r : LogRecord) (timestamp : String) : String :=
  let payload : Fields := match r.payload with
    | none | some .nil => .nil
    | some fields => .cons "payload" (.dict fields) .nil
  String.ofList (Data.dict (r.entry percent timestamp payload)).dumps

/-- The line that a call of `log_event` emits. -/
def line (percent : String → LogArgs → String) (e : LogEvent) (timestamp : String) : String :=
  (logEvent e).masked.format percent timestamp

end Polyfast.Logging
