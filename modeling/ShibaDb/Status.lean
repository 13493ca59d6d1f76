/-
The status codes every operation of the library returns.
-/
import ShibaDb.Lib.Fallible
import ShibaDb.Lib.LittleEndian
import ShibaDb.Lib.ByteOrder

namespace ShibaDb

export LittleEndian (Bytes)

/-- The failure codes of `sdb_status`; success is the `ok` of `Except`. -/
inductive SdbError where
  | invalidArgument
  | bufferTooSmall
  | badMagic
  | unsupportedVersion
  | corrupt
  | overflow
  | io
  | internal
  | truncated
  | notFound
  | authentication
  | conflict
  | busy
  | outOfMemory
  deriving DecidableEq, Repr

/-- A page number of the data file. -/
abbrev PageId := UInt64

def uint16Max : Nat := 2 ^ 16 - 1
def uint32Max : Nat := 2 ^ 32 - 1
def uint64Max : Nat := 2 ^ 64 - 1

end ShibaDb
