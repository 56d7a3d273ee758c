import TwinDesk.Compositor
import TwinDesk.Desktop.App
import TwinDesk.Desktop.DefaultMenus
import TwinDesk.Desktop.Desktop
import TwinDesk.Desktop.Router
import TwinDesk.Desktop.StandIn
import TwinDesk.Display.Canvas
import TwinDesk.Display.Drawing
import TwinDesk.Display.Frame
import TwinDesk.Display.Screen
import TwinDesk.Fault
import TwinDesk.Geometry.Coord
import TwinDesk.Geometry.Layout
import TwinDesk.Geometry.Rect
import TwinDesk.Hardware.GateArray
import TwinDesk.Hardware.MappedBus
import TwinDesk.Hardware.Register
import TwinDesk.Hardware.Side
import TwinDesk.Input.Buttons
import TwinDesk.Input.PointerEvent
import TwinDesk.Link.BankExchange
import TwinDesk.Link.Handshake
import TwinDesk.Link.LinkError
import TwinDesk.Link.Program
import TwinDesk.Link.Registers
import TwinDesk.Link.Waiting
import TwinDesk.Machine.Bus
import TwinDesk.Machine.LinkBench
import TwinDesk.Machine.Peer
import TwinDesk.Machine.ScriptedMain
import TwinDesk.Machine.ScriptedSub
import TwinDesk.Machine.ServingSub
import TwinDesk.Machine.Station
import TwinDesk.Machine.SubBench
import TwinDesk.Main
import TwinDesk.Main.Boot
import TwinDesk.Main.Client
import TwinDesk.Main.FrameLoop
import TwinDesk.Main.MainError
import TwinDesk.Main.Tracker
import TwinDesk.Menu.Menu
import TwinDesk.Menu.MenuBar
import TwinDesk.Paint.PaintOp
import TwinDesk.Paint.Recording
import TwinDesk.Proofs.Boot.Agreement
import TwinDesk.Proofs.Boot.World
import TwinDesk.Proofs.Checked
import TwinDesk.Proofs.Compositor.Operations
import TwinDesk.Proofs.Compositor.Painting
import TwinDesk.Proofs.Compositor.Pointing
import TwinDesk.Proofs.Compositor.Repaint
import TwinDesk.Proofs.Compositor.SharedPixels
import TwinDesk.Proofs.Compositor.Sound
import TwinDesk.Proofs.Compositor.Tidy
import TwinDesk.Proofs.Desktop.Choices
import TwinDesk.Proofs.Desktop.Cursor
import TwinDesk.Proofs.Desktop.Dots
import TwinDesk.Proofs.Desktop.Dragging
import TwinDesk.Proofs.Desktop.Openings
import TwinDesk.Proofs.Desktop.Room
import TwinDesk.Proofs.Desktop.Routing
import TwinDesk.Proofs.Desktop.Sound
import TwinDesk.Proofs.Display.Clipping
import TwinDesk.Proofs.Display.Pixels
import TwinDesk.Proofs.Display.Safe
import TwinDesk.Proofs.Display.WindowFrames
import TwinDesk.Proofs.Geometry.Bounds
import TwinDesk.Proofs.Geometry.Edges
import TwinDesk.Proofs.Handoff.Apart
import TwinDesk.Proofs.Handoff.Banks
import TwinDesk.Proofs.Handoff.EndToEnd
import TwinDesk.Proofs.Handoff.InStep
import TwinDesk.Proofs.Handoff.Painting
import TwinDesk.Proofs.Handoff.Serving
import TwinDesk.Proofs.Handoff.Viewing
import TwinDesk.Proofs.Handoff.World
import TwinDesk.Proofs.Handshake.Assertions
import TwinDesk.Proofs.Handshake.ExactlyOnce
import TwinDesk.Proofs.Handshake.Exchange
import TwinDesk.Proofs.Handshake.Initiator
import TwinDesk.Proofs.Handshake.Observer
import TwinDesk.Proofs.Handshake.Progress
import TwinDesk.Proofs.Handshake.Registers
import TwinDesk.Proofs.Handshake.Responder
import TwinDesk.Proofs.Handshake.Standstill
import TwinDesk.Proofs.Handshake.World
import TwinDesk.Proofs.Hardware.Banks
import TwinDesk.Proofs.Hardware.SingleWriter
import TwinDesk.Proofs.Hardware.Words
import TwinDesk.Proofs.Link.Calls
import TwinDesk.Proofs.Link.Chip
import TwinDesk.Proofs.Link.Completion
import TwinDesk.Proofs.Link.Cycles
import TwinDesk.Proofs.Link.Grants
import TwinDesk.Proofs.Link.Interleaving
import TwinDesk.Proofs.Link.Outline
import TwinDesk.Proofs.Link.Polls
import TwinDesk.Proofs.Link.Runs
import TwinDesk.Proofs.Link.Yields
import TwinDesk.Proofs.Main.Pointer
import TwinDesk.Proofs.Main.RemoteCalls
import TwinDesk.Proofs.Main.TimedOut
import TwinDesk.Proofs.Menu.Built
import TwinDesk.Proofs.Menu.Layout
import TwinDesk.Proofs.Menu.Rows
import TwinDesk.Proofs.Menu.Sound
import TwinDesk.Proofs.Menu.Tracking
import TwinDesk.Proofs.Paint.Pictures
import TwinDesk.Proofs.Simulation.Samples
import TwinDesk.Proofs.Simulation.Waypoints
import TwinDesk.Proofs.Sub.BoundedCycles
import TwinDesk.Proofs.Sub.BoundedService
import TwinDesk.Proofs.Sub.EveryCommand
import TwinDesk.Proofs.Sub.Execution
import TwinDesk.Proofs.Sub.LateRelease
import TwinDesk.Proofs.Sub.OpenedWindows
import TwinDesk.Proofs.Sub.Refusals
import TwinDesk.Proofs.Sub.RemoteCalls
import TwinDesk.Proofs.Sub.Requests
import TwinDesk.Proofs.Sub.Serve
import TwinDesk.Proofs.Sub.Service
import TwinDesk.Proofs.Sub.WholeService
import TwinDesk.Proofs.Window.BoundingBoxes
import TwinDesk.Proofs.Window.Coherent
import TwinDesk.Proofs.Window.Confined
import TwinDesk.Proofs.Window.Coverage
import TwinDesk.Proofs.Window.Frames
import TwinDesk.Proofs.Window.Layers
import TwinDesk.Proofs.Window.Order
import TwinDesk.Proofs.Window.Parts
import TwinDesk.Proofs.Window.Pending
import TwinDesk.Proofs.Window.PlainList
import TwinDesk.Proofs.Window.Sound
import TwinDesk.Proofs.Window.Titles
import TwinDesk.Protocol.Command
import TwinDesk.Protocol.Opcode
import TwinDesk.Protocol.Status
import TwinDesk.Protocol.WindowId
import TwinDesk.Simulation.Report
import TwinDesk.Simulation.Run
import TwinDesk.Simulation.Script
import TwinDesk.Simulation.Settings
import TwinDesk.Simulation.SimulationError
import TwinDesk.Sub.Dispatcher
import TwinDesk.Text.Blank
import TwinDesk.Text.Natural
import TwinDesk.Text.Printable
import TwinDesk.Text.Quoted
import TwinDesk.Text.Radix
import TwinDesk.Window.Basic
import TwinDesk.Window.Damage
import TwinDesk.Window.DesktopError
import TwinDesk.Window.Flags
import TwinDesk.Window.Hit
import TwinDesk.Window.Pool
import TwinDesk.Window.Slot
import TwinDesk.Window.Title
import TwinDesk.Window.ZOrder
