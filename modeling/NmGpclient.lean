import NmGpclient.Lib.Machine
import NmGpclient.Lib.CStr
import NmGpclient.Lib.TunDriver
import NmGpclient.Lib.Posix
import NmGpclient.Validate
import NmGpclient.Service.Lock
import NmGpclient.Service.Deactivate
import NmGpclient.Service.Connect
import NmGpclient.Service.Lifecycle
import NmGpclient.Service.Effects
import NmGpclient.Service.ConnectResult
import NmGpclient.Service.SecretFlags
import NmGpclient.Service.Children
import NmGpclient.Service.TunAccounting
import NmGpclient.Service.Sessions
import NmGpclient.Service.Protocol
import NmGpclient.Service.Shutdown
import NmGpclient.Service.Concurrent
import NmGpclient.Lib.History
import NmGpclient.Agreement
import NmGpclient.Gates
import NmGpclient.Pieces
import NmGpclient.Dialog.Framing
import NmGpclient.Helper.Handoff
import NmGpclient.Helper.SplitTunnel
import NmGpclient.Injection
import NmGpclient.Editor.Save
import NmGpclient.Editor.Reopen
import NmGpclient.Service.Cleanup
import NmGpclient.Switches
import NmGpclient.Dialog.Quit
import NmGpclient.Helper.Extraction
import NmGpclient.Helper.Lists
import NmGpclient.Helper.Vector
import NmGpclient.Helper.Numbers
import NmGpclient.Helper.Resolution
import NmGpclient.Helper.Tunnel
import NmGpclient.Helper.Preconditions
import NmGpclient.Service.LockOwner
import NmGpclient.Service.Confidential
import NmGpclient.Service.Supervision
import NmGpclient.BrowserChoice
import NmGpclient.Service.Startup
import NmGpclient.BrowserSession
import NmGpclient.Editor.Form
import NmGpclient.Editor.Plugin
import NmGpclient.Activation
import NmGpclient.Service.Verbosity
