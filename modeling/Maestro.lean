import Maestro.Effect.Program
import Maestro.Effect.Loop
import Maestro.Effect.Total
import Maestro.Word.Field
import Maestro.Word.EndAround
import Maestro.Gpio.Block
import Maestro.Gpio.Driver
import Maestro.Gpio.FunctionMap
import Maestro.Gpio.ScriptModel
import Maestro.Gpio.OutputRuns
import Maestro.Gpio.Bounds
import Maestro.Gpio.PinScan
import Maestro.Gpio.PinScanFunctions
import Maestro.Ping.Checksum
import Maestro.Ping.Packet
import Maestro.Ping.PingLoop
import Maestro.Ping.PingCount
import Maestro.Sensor.Compensate
import Maestro.Sensor.Bmp280
import Maestro.Combine.Pins
import Maestro.Combine.GpioTest
import Maestro.Combine.Menu
import Maestro.Combine.MenuSummary
import Maestro.Combine.MenuInput
import Maestro.Gpio.PinScanFrame
import Maestro.Effect.Course
import Maestro.Combine.PwmTest
import Maestro.Combine.PwmMasking
import Maestro.Combine.I2cTest
import Maestro.Combine.SpiTest
import Maestro.Effect.Ledger
import Maestro.Combine.BluetoothTest
import Maestro.Combine.EthernetTest
import Maestro.Combine.WifiTest
import Maestro.Combine.Handles
import Maestro.Combine.SubChecks
import Maestro.Combine.BatchTests
import Maestro.Effect.Family
import Maestro.Combine.Batch
import Maestro.Effect.Runs
import Maestro.Kernel.Nobrand
import Maestro.Memory.PatternTest
import Maestro.Text.Lines
import Maestro.Text.Number
import Maestro.Effect.Console
import Maestro.Text.Streams
import Maestro.Cpu.Looks
import Maestro.Cpu.CpuTest
import Maestro.Cpu.Verdict
import Maestro.Cpu.Timing
import Maestro.Cpu.CompressTest
import Maestro.Cpu.RoundTrip
import Maestro.Ping.Internet
import Maestro.Sensor.Exact
import Maestro.Word.FloorDiv
import Maestro.Sensor.Accuracy
import Maestro.Combine.IpAddress
import Maestro.Combine.PwmWindows
import Maestro.Gpio.PinScanReport
import Maestro.Combine.ResetGpio
import Maestro.Combine.WifiLines
import Maestro.Cpu.Prime
import Maestro.Kernel.FileOps
import Maestro.Memory.Sysbench
import Maestro.Memory.BandWidth
import Maestro.Effect.Protocol
import Maestro.Effect.Refinement
import Maestro.Combine.Whole
import Maestro.Combine.PinBus
import Maestro.Kernel.Lifetime
import Maestro.Kernel.App
import Maestro.Ping.Program
import Maestro.Sensor.Program
import Maestro.Combine.PwmWave
import Maestro.Combine.PwmSweep
import Maestro.Combine.Shorts
import Maestro.Effect.Environments
import Maestro.Memory.Program
import Maestro.Gpio.Blink
import Maestro.Combine.SoftPwm
import Maestro.Cpu.Probe
import Maestro.Combine.EthernetMemory
import Maestro.Combine.Diagnosis
import Maestro.Effect.Console
import Maestro.Text.Streams
