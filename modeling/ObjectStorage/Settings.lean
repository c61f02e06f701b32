/-!
# Settings of a client
-/

namespace ObjectStorage

structure Settings where
  /-- How many paths one bulk-delete request holds at most. -/
  bulkDeleteBatchSize : UInt64
  /-- How many chunks wait between a writer and the request that sends them. -/
  writerChannelCapacity : UInt64
  deriving DecidableEq, Repr

def Settings.standard : Settings := ⟨10000, 16⟩

end ObjectStorage
