import Aelkey.Lib.Run
import Aelkey.Lib.Table
import Aelkey.Lib.Epoll
import Aelkey.Loop.Dispatcher
import Aelkey.Loop.Agreement
import Aelkey.Lib.Evdev
import Aelkey.Keyboard.Remapper
import Aelkey.Keyboard.Balance
import Aelkey.Keyboard.Held
import Aelkey.Keyboard.Report
import Aelkey.Lib.Instances
import Aelkey.Keyboard.Instances
import Aelkey.Lib.IntArg
import Aelkey.Click.Model
import Aelkey.Click.Accounting
import Aelkey.Lib.MTSlots
import Aelkey.Helpers.Edge
import Aelkey.Touchpad.Model
import Aelkey.Touchpad.Frame
import Aelkey.Touchpad.Keys
import Aelkey.Touchpad.Tools
import Aelkey.Touchpad.Tables
import Aelkey.Touchpad.TrackingIds
import Aelkey.Touchpad.Buttons
import Aelkey.Touchpad.Instances
import Aelkey.Touchpad.SlotProtocol
import Aelkey.Lib.Greedy
import Aelkey.Sequence.Model
import Aelkey.Sequence.Matcher
import Aelkey.Sequence.Protocol
import Aelkey.Lib.SlotCache
import Aelkey.Haptics.Model
import Aelkey.Haptics.Cache
import Aelkey.Haptics.Playback
import Aelkey.Device.State
import Aelkey.Device.Manager
import Aelkey.Device.Changes
import Aelkey.Device.Consistency
import Aelkey.Device.Tables
import Aelkey.Device.Removal
import Aelkey.Device.Sinks
import Aelkey.Lib.Alternation
import Aelkey.Device.Notifications
import Aelkey.Device.Match
import Aelkey.Device.Hotplug
import Aelkey.Device.OpenAll
import Aelkey.Lib.Hex
import Aelkey.Gatt.Bus
import Aelkey.Gatt.Dispatch
import Aelkey.Gatt.Naming
import Aelkey.Gatt.Resolve
import Aelkey.Gatt.CharPath
import Aelkey.Gatt.Subscriptions
import Aelkey.Loop.Ticks
import Aelkey.Loop.TimerTable
import Aelkey.Usb.Model
import Aelkey.Usb.Transfers
import Aelkey.Usb.Disconnect
import Aelkey.Lib.Crc
import Aelkey.Helpers.Crc32
import Aelkey.Mouse.Model
import Aelkey.Mouse.Buttons
import Aelkey.Mouse.Emit
import Aelkey.Loop.Deferred
import Aelkey.Haptics.EffectIds
import Aelkey.Haptics.Events
import Aelkey.Haptics.Virtual
import Aelkey.Haptics.Forwarding
import Aelkey.Haptics.RoundTrip
import Aelkey.Lib.Frames
import Aelkey.Device.Frames
import Aelkey.Helpers.Ticker
import Aelkey.Loop.TickCalls
import Aelkey.Loop.Heartbeat
import Aelkey.Click.Hosted
import Aelkey.Sequence.Hosted
import Aelkey.Helpers.Tickers
import Aelkey.Lib.Abort
import Aelkey.Click.Errors
import Aelkey.Sequence.Errors
import Aelkey.Lib.Bisect
import Aelkey.Filter.Easing
import Aelkey.Filter.Continuity
import Aelkey.Filter.Inversion
import Aelkey.Filter.Settling
import Aelkey.Lib.Ema
import Aelkey.Filter.Lowpass
import Aelkey.Lib.Assign
import Aelkey.Daemon.Inspect
import Aelkey.Device.Watchlist
import Aelkey.Device.Presence
import Aelkey.Device.TearDown
import Aelkey.Device.Reports
import Aelkey.Output.Uinput
import Aelkey.Output.Touchpad
import Aelkey.Output.Delivery
import Aelkey.Output.Mouse
import Aelkey.Lib.MTDevice
import Aelkey.Output.Contacts
import Aelkey.Lib.Remap
import Aelkey.Output.BootKeyboard
import Aelkey.Output.EvdevKeyboard
