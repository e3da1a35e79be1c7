import RqtJtc.PyDict
import RqtJtc.Basic
import RqtJtc.Names
import RqtJtc.RosNames
import RqtJtc.Plugin
import RqtJtc.Run
import RqtJtc.Effects
import RqtJtc.Mode
import RqtJtc.Resources
import RqtJtc.Discovery
import RqtJtc.Joints
import RqtJtc.Command
import RqtJtc.Session
import RqtJtc.Feedback
import RqtJtc.Publish
import RqtJtc.Wedge
import RqtJtc.Transfer
