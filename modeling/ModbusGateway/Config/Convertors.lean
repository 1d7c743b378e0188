import ModbusGateway.Config.Json
import ModbusGateway.Modbus

/-!
# Convertors

`config/convertors.cpp`: the names that stand for the values of an enumeration.
-/

namespace ModbusGateway

/-- `Logger::LogLevel`. -/
inductive LogLevel
  | Trace
  | Debug
  | Info
  | Warning
  | Error
  | Critical
  deriving DecidableEq, Repr

/-- `asio::serial_port_base::parity::type`. -/
inductive Parity
  | none
  | odd
  | even
  deriving DecidableEq, Repr

/-- `asio::serial_port_base::stop_bits::type`. -/
inductive StopBits
  | one
  | onepointfive
  | two
  deriving DecidableEq, Repr

/-- `asio::serial_port_base::flow_control::type`. -/
inductive FlowControl
  | none
  | software
  | hardware
  deriving DecidableEq, Repr

/-- `NumericRangeType`. -/
inductive NumericRangeType
  | Range
  | Value
  deriving DecidableEq, Repr

/-- `ConvertLogLevel(logLevel)`. -/
def convertLogLevel (logLevel : String) : Option LogLevel :=
  [("trace", .Trace), ("debug", .Debug), ("info", .Info), ("warning", .Warning),
    ("error", .Error), ("critical", .Critical)].lookup logLevel

/-- `ConvertFrameType(frameType)`. -/
def convertFrameType (frameType : String) : Option FrameType :=
  [("tcp", .TCP), ("rtu", .RTU), ("ascii", .ASCII)].lookup frameType

/-- `ConvertParity(parity)`. -/
def convertParity (parity : String) : Option Parity :=
  [("none", .none), ("odd", .odd), ("even", .even)].lookup parity

/-- `ConvertStopBits(stopBits)`. -/
def convertStopBits (stopBits : Single) : Option StopBits :=
  if stopBits = ⟨false, some 1⟩ then some .one
  else if stopBits = ⟨false, some (3 / 2)⟩ then some .onepointfive
  else if stopBits = ⟨false, some 2⟩ then some .two
  else none

/-- `ConvertFlowControl(flowControl)`. -/
def convertFlowControl (flowControl : String) : Option FlowControl :=
  [("none", .none), ("software", .software), ("hardware", .hardware)].lookup flowControl

/-- `ConvertNumericRangeType(numericRangeType)`. -/
def convertNumericRangeType (numericRangeType : String) : Option NumericRangeType :=
  [("range", .Range), ("value", .Value)].lookup numericRangeType

end ModbusGateway
