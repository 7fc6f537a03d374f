import StackMachine.CommandLine.File
import StackMachine.CommandLine.Report
import StackMachine.CommandLine.Request
import StackMachine.Console
import StackMachine.Error
import StackMachine.Execution.Action
import StackMachine.Execution.Basic
import StackMachine.Instruction.Basic
import StackMachine.Instruction.Decode
import StackMachine.Log
import StackMachine.Machine.Basic
import StackMachine.Machine.Effect
import StackMachine.Machine.Registers
import StackMachine.Main
import StackMachine.Memory
import StackMachine.Mnemonic
import StackMachine.Operator
import StackMachine.Program.Basic
import StackMachine.Program.Load
import StackMachine.Proofs.Accesses
import StackMachine.Proofs.Cells
import StackMachine.Proofs.Console
import StackMachine.Proofs.Delivery.Discipline
import StackMachine.Proofs.Delivery.Failing
import StackMachine.Proofs.Delivery.Loss
import StackMachine.Proofs.Delivery.Reads
import StackMachine.Proofs.Display.Numeral
import StackMachine.Proofs.Display.RoundTrip
import StackMachine.Proofs.Echo.Lines
import StackMachine.Proofs.Echo.RoundTrip
import StackMachine.Proofs.Ensures
import StackMachine.Proofs.Extension.Basic
import StackMachine.Proofs.Extension.Resumption
import StackMachine.Proofs.Factorial.Run
import StackMachine.Proofs.Factorial.Source
import StackMachine.Proofs.Faults.Conditions
import StackMachine.Proofs.Faults.Exact
import StackMachine.Proofs.Faults.Operations
import StackMachine.Proofs.Forward
import StackMachine.Proofs.Frames.Balance
import StackMachine.Proofs.Frames.Brackets
import StackMachine.Proofs.Frames.Call
import StackMachine.Proofs.Frames.Faults
import StackMachine.Proofs.Frames.Move
import StackMachine.Proofs.Frames.Protection
import StackMachine.Proofs.Frames.Relocation
import StackMachine.Proofs.Frames.Shift
import StackMachine.Proofs.ListStack.Basic
import StackMachine.Proofs.ListStack.Lockstep
import StackMachine.Proofs.ListStack.Mirror
import StackMachine.Proofs.ListStack.Steps
import StackMachine.Proofs.Loading.Labels
import StackMachine.Proofs.Loading.Layout
import StackMachine.Proofs.Loading.Listing
import StackMachine.Proofs.Loading.Warnings
import StackMachine.Proofs.Memory
import StackMachine.Proofs.Mirrors
import StackMachine.Proofs.Oblivious
import StackMachine.Proofs.Operators
import StackMachine.Proofs.Output.Limited
import StackMachine.Proofs.Output.Truncation
import StackMachine.Proofs.Padding.Basic
import StackMachine.Proofs.Padding.Loading
import StackMachine.Proofs.Padding.Simulation
import StackMachine.Proofs.Reading.Grammar
import StackMachine.Proofs.Reading.Forms
import StackMachine.Proofs.Reading.Lines
import StackMachine.Proofs.Reading.Numeral
import StackMachine.Proofs.Reading.Order
import StackMachine.Proofs.Residue.Basic
import StackMachine.Proofs.Residue.Fault
import StackMachine.Proofs.Residue.Origin
import StackMachine.Proofs.Run
import StackMachine.Proofs.Session
import StackMachine.Proofs.Source.Row
import StackMachine.Proofs.Source.Utf8
import StackMachine.Proofs.Straight
import StackMachine.Proofs.Strict.Basic
import StackMachine.Proofs.Strict.Division
import StackMachine.Proofs.Strict.Room
import StackMachine.Proofs.Strict.Session
import StackMachine.Proofs.Tracing.Blind
import StackMachine.Proofs.Tracing.Past
import StackMachine.Proofs.Tracing.Transparent
import StackMachine.Source.Lines
import StackMachine.Source.Row
import StackMachine.SystemCall
import StackMachine.Text.Blank
import StackMachine.Text.GraphemeExtend
import StackMachine.Text.Numeral
import StackMachine.Text.Plain
import StackMachine.Text.Quoted
import StackMachine.Text.Unprintable
import StackMachine.Word
