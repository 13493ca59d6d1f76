import ShibaDb.BTree.Canonical
import ShibaDb.BTree.Room
import ShibaDb.BTree.Structure
import ShibaDb.BTree.Traversal
import ShibaDb.Engine.IndexVisit
import ShibaDb.Engine.RefusedPut
import ShibaDb.Pager.Canonical
import ShibaDb.Pager.CacheTable
import ShibaDb.Pager.Coverage
import ShibaDb.Pager.MirrorForgery
import ShibaDb.Pager.DirectCalls
import ShibaDb.Pager.GroupCommit
import ShibaDb.Pager.LogForgery
import ShibaDb.Pager.SessionRuns
import ShibaDb.Pager.SlotAtomicity
import ShibaDb.Pager.Suite
import ShibaDb.Pager.WalIndex
