import Kelp.Model.Number
import Kelp.Mirror.Basic
import Kelp.Mirror.Reconcile
import Kelp.Mirror.Pass
import Kelp.Mirror.Outcome
import Kelp.Mirror.Failure
import Kelp.Mirror.Idempotence
import Kelp.Mirror.Hedge
import Kelp.Mirror.Earlier
import Kelp.Exchange.Ccxt
import Kelp.Exchange.Feed
import Kelp.Filter.Volume
import Kelp.Filter.Pass
import Kelp.Twap.Provider
import Kelp.Twap.Calls
import Kelp.Twap.Runs
import Kelp.Twap.Surplus
import Kelp.Os.Registry
import Kelp.Twap.Ledger
import Kelp.Os.Threads
import Kelp.Os.Serial
import Kelp.Os.Safety
