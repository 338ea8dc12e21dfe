import ThunderDB.Go
import ThunderDB.Sqlchain.BlockNode
import ThunderDB.Sqlchain.IndexKey
import ThunderDB.Sqlchain.BlockIndex
import ThunderDB.Storage.Worker
import ThunderDB.Storage.Run
import ThunderDB.Storage.DSN
import ThunderDB.Storage.OpenDB
import ThunderDB.Storage.OpenDBRace
import ThunderDB.Kayak.MockTransport
import ThunderDB.Kayak.RequestSafety
import ThunderDB.Kayak.RequestProgress
import ThunderDB.Kayak.ResponseOnce
import ThunderDB.Kayak.MockWorker
import ThunderDB.Twopc.RaftNode
