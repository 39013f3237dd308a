import ChipEight.Colour
import ChipEight.CommandLine.Run
import ChipEight.Console.Report
import ChipEight.Console.Run
import ChipEight.Instruction.Listing
import ChipEight.Keymap
import ChipEight.Machine.Report
import ChipEight.Main
import ChipEight.Monitor.Session
import ChipEight.Proofs.Colour
import ChipEight.Proofs.CommandLine.Headless
import ChipEight.Proofs.CommandLine.Keymap
import ChipEight.Proofs.CommandLine.Listing
import ChipEight.Proofs.CommandLine.Release
import ChipEight.Proofs.Console.Accounting
import ChipEight.Proofs.Console.Debugging
import ChipEight.Proofs.Console.Display
import ChipEight.Proofs.Console.Faults
import ChipEight.Proofs.Console.Loading
import ChipEight.Proofs.Console.Session
import ChipEight.Proofs.Console.Tone
import ChipEight.Proofs.Countdown.Decay
import ChipEight.Proofs.Countdown.Draining
import ChipEight.Proofs.Host.Polling
import ChipEight.Proofs.Host.Repainting
import ChipEight.Proofs.Keymap.Bindings
import ChipEight.Proofs.Machine.Arithmetic
import ChipEight.Proofs.Machine.Calls
import ChipEight.Proofs.Machine.Counts
import ChipEight.Proofs.Machine.Faulting
import ChipEight.Proofs.Machine.Fetching
import ChipEight.Proofs.Machine.Footprint
import ChipEight.Proofs.Machine.KeyWait
import ChipEight.Proofs.Machine.Renewal
import ChipEight.Proofs.Machine.Rewording
import ChipEight.Proofs.Machine.Successor
import ChipEight.Proofs.Machine.Surroundings
import ChipEight.Proofs.Machine.Switches
import ChipEight.Proofs.Machine.Transfer
import ChipEight.Proofs.Monitor.Assignment
import ChipEight.Proofs.Monitor.Dumping
import ChipEight.Proofs.Monitor.Endings
import ChipEight.Proofs.Monitor.Frames
import ChipEight.Proofs.Monitor.Resuming
import ChipEight.Proofs.Monitor.Stepping
import ChipEight.Proofs.Monitor.Writing
import ChipEight.Proofs.Safety
import ChipEight.Proofs.Screen.Mask
import ChipEight.Proofs.Screen.Plotting
import ChipEight.Proofs.Text.LowerCase
import ChipEight.Proofs.Text.Pair
import ChipEight.Tone.Beeper
