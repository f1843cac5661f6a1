import Forcerelay.Basic
import Forcerelay.Denom
import Forcerelay.IbcGoDenom
import Forcerelay.Chain
import Forcerelay.Events
import Forcerelay.Dispatch
import Forcerelay.GetProofs
import Forcerelay.PacketQueries
import Forcerelay.Endpoint
import Forcerelay.CkbMessage
import Forcerelay.ProofBuilders
import Forcerelay.TokenTransfer
