import BleRemote.Device.Interrupts
import BleRemote.Client.Scanning
import BleRemote.Client.Waiting
import BleRemote.Client.Handles
import BleRemote.Client.Conforming
import BleRemote.Client.Subscription
import BleRemote.Client.Commands
import BleRemote.Client.Bounds
import BleRemote.Client.Matching
import BleRemote.Client.Reads
import BleRemote.Server.Notifications
import BleRemote.Server.Keys
import BleRemote.Server.Subscription
import BleRemote.Server.Flow
import BleRemote.Server.Isolation
import BleRemote.System.Press
import BleRemote.System.Led
import BleRemote.System.Security
import BleRemote.System.Reachable
import BleRemote.System.Indicator
import BleRemote.System.PasskeyShown
import BleRemote.System.Confirmations
import BleRemote.Lcd.Shown
import BleRemote.Lcd.Mirror
import BleRemote.Device.Outputs
import BleRemote.Imperative.Stays
import BleRemote.Lcd.Frames
import BleRemote.Lcd.Glass
import BleRemote.Lcd.Readable
import BleRemote.System.Addresses
import BleRemote.System.Advisory
import BleRemote.System.Errors
import BleRemote.System.KeyRow
import BleRemote.System.Pins
import BleRemote.Power.Board
import BleRemote.Timers.Periodic
