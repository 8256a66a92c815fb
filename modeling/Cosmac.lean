import Cosmac.Text.Hex
import Cosmac.Word
import Cosmac.Fault
import Cosmac.Log
import Cosmac.Instruction
import Cosmac.Registers
import Cosmac.Memory
import Cosmac.Memory.Glyphs
import Cosmac.Memory.Program
import Cosmac.Timers
import Cosmac.Picture
import Cosmac.Picture.Sprite
import Cosmac.Picture.Points
import Cosmac.Device
import Cosmac.Device.Headless
import Cosmac.Device.Monitored
import Cosmac.Device.Speaker
import Cosmac.Random.ChaCha
import Cosmac.Random.Stream
import Cosmac.Machine
import Cosmac.Machine.Work
import Cosmac.Machine.Execute
import Cosmac.Machine.Cycle
import Cosmac.Machine.Tick
import Cosmac.Machine.Loop
import Cosmac.Machine.Pass
import Cosmac.Text.Visible
import Cosmac.Text.Quoted
import Cosmac.Terminal.Scene
import Cosmac.Terminal.Canvas
import Cosmac.Terminal.Screen
import Cosmac.Terminal.Control
import Cosmac.Keyboard.Event
import Cosmac.Keyboard.Sequence
import Cosmac.Keyboard.Keymap
import Cosmac.Keyboard
import Cosmac.CommandLine.Options
import Cosmac.CommandLine.Usage
import Cosmac.CommandLine.Session
import Cosmac.Main
import Cosmac.Proofs.Encoding
import Cosmac.Proofs.Work
import Cosmac.Proofs.Request
import Cosmac.Proofs.Atomic
import Cosmac.Proofs.Guards
import Cosmac.Proofs.Effect
import Cosmac.Proofs.Cycle
import Cosmac.Proofs.Outcome
import Cosmac.Proofs.Failure
import Cosmac.Proofs.Footprint
import Cosmac.Proofs.Run
import Cosmac.Proofs.Timers
import Cosmac.Proofs.Bounds
import Cosmac.Proofs.Steps
import Cosmac.Proofs.Arithmetic
import Cosmac.Proofs.CallStack
import Cosmac.Proofs.Countdown
import Cosmac.Proofs.BoundedTime
import Cosmac.Proofs.TickRate
import Cosmac.Proofs.Interleaving
import Cosmac.Proofs.Packing
import Cosmac.Proofs.Drawing
import Cosmac.Proofs.Stamps
import Cosmac.Proofs.Passes
import Cosmac.Proofs.Permanence
import Cosmac.Proofs.History
import Cosmac.Proofs.Draws
import Cosmac.Proofs.Sessions
import Cosmac.Proofs.FirstError
import Cosmac.Proofs.Agreement
import Cosmac.Proofs.PlainCycles
import Cosmac.Proofs.Muted
import Cosmac.Proofs.LastStop
import Cosmac.Proofs.Tending
import Cosmac.Proofs.GivingUp
import Cosmac.Proofs.Tone
import Cosmac.Proofs.Frames
import Cosmac.Proofs.Canvas
import Cosmac.Proofs.Shown
import Cosmac.Proofs.Sprites
import Cosmac.Proofs.Meaning
import Cosmac.Proofs.Hearing
import Cosmac.Proofs.Keystrokes
import Cosmac.Proofs.Tally
import Cosmac.Proofs.CountedTime
import Cosmac.Proofs.Bytes
import Cosmac.Proofs.Stores
import Cosmac.Proofs.Loading
import Cosmac.Proofs.Transfers
import Cosmac.Proofs.Skips
import Cosmac.Proofs.Pace
import Cosmac.Proofs.Presses
import Cosmac.Proofs.Font
import Cosmac.Proofs.Bitplanes
