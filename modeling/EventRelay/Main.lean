import EventRelay.Memory
import EventRelay.Server

namespace EventRelay.Server

def variableNames : List String :=
  ["LOGBUS_BROKER_HOST", "LOGBUS_PORT", "LOGBUS_TOPIC", "LOGBUS_CLIENT_ID", "LOGBUS_USERNAME",
    "LOGBUS_PASSWORD", filterVariable]

/-- Runs the server where there is no network. -/
def runProgram : IO UInt32 := do
  let values ← variableNames.mapM fun name => do return (name, ← IO.getEnv name)
  let unique ← IO.rand 0 (1 <<< 60)
  let report := run (fun _ => .failed Mqtt.unreachable) (identifier unique)
    fun name => (values.lookup name).join
  let stderr ← IO.getStderr
  for fault in report.faults do
    stderr.putStr (warning fault)
  for record in report.log do
    stderr.putStr ("[" ++ written record)
  for text in errorLines report.error do
    stderr.putStrLn text
  return report.code.toUInt32

end EventRelay.Server

def main : IO UInt32 := EventRelay.Server.runProgram
