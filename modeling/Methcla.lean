import Methcla.Osc
import Methcla.Memory
import Methcla.Worker
import Methcla.Request
import Methcla.Scheduler
import Methcla.AudioBus
import Methcla.Node
import Methcla.Keeps
import Methcla.Environment
import Methcla.Dispatch
import Methcla.Process
import Methcla.Invariant
import Methcla.Registry
import Methcla.Mix
import Methcla.Trace
import Methcla.Routing
import Methcla.Activation
import Methcla.RequestIds
import Methcla.Block
import Methcla.Order
import Methcla.PhaseB
import Methcla.DoneAfter
import Methcla.Construct
import Methcla.Timing
import Methcla.Arena
import Methcla.RoutedOnce
import Methcla.Replies
