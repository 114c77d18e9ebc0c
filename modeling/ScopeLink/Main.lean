import ScopeLink.Command.Perform
import ScopeLink.Simulated.Bus
/-!
# The program

Reads the arguments, carries out the request, and prints the report: exit code 0, 1 for a failure,
2 for arguments that cannot be read. No USB library is linked, so the bus is an empty one; the
emulated instrument is at hand with `--emulate`.
-/

namespace ScopeLink

def helpText : String :=
  "Control the acquisition state of a USBTMC oscilloscope\n\n" ++
  "Usage: scopelink [OPTIONS] COMMAND\n\n" ++
  "Commands:\n" ++
  "  list      List USBTMC devices\n" ++
  "  identify  Print the *IDN? reply\n" ++
  "  detect    Print the profile the instrument is driven with\n" ++
  "  state     Print the acquisition state\n" ++
  "  run       Start continuous acquisition\n" ++
  "  stop      Stop acquisition\n" ++
  "  single    Arm a single acquisition\n" ++
  "  toggle    Stop if running, run otherwise\n" ++
  "  pulse     Blink the activity indicator\n" ++
  "  caps      Print the USBTMC capabilities\n" ++
  "  ask       Send a query and print the reply\n\n" ++
  "Options:\n" ++
  "      --emulate        Talk to the built-in emulator\n" ++
  "      --vid VID        USB vendor id (hex)\n" ++
  "      --pid PID        USB product id (hex)\n" ++
  "      --bus BUS        USB bus number\n" ++
  "      --address ADDR   USB device address on the bus\n" ++
  "      --timeout-ms MS  Timeout of each USB transfer in milliseconds\n" ++
  "      --strict-tags    Reject replies with another tag than the request\n" ++
  "  -v, --verbose        Accepted, and changes nothing\n" ++
  "  -h, --help           Print help\n"

end ScopeLink

open ScopeLink in
def main (args : List String) : IO UInt32 := do
  match Command.read args with
  | .error e =>
    (← IO.getStderr).putStrLn ("error: " ++ e.message)
    return 2
  | .ok request =>
    match (Command.carryOut Simulated.Bus.host helpText request .empty).1 with
    | .ok output =>
      (← IO.getStdout).putStr output
      return 0
    | .failed failure =>
      (← IO.getStderr).putStrLn failure.report
      return 1
    | .halted _ =>
      (← IO.getStderr).putStrLn "Error: the device broke the protocol"
      return 101
