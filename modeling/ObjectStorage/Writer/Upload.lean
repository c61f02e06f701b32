import ObjectStorage.Object.Transfer
import ObjectStorage.Writer.Pipe

/-!
# Uploads that a writer feeds

The producer and the upload are joined by a pipe.  When the producer fails, its error is the result,
unless it failed because the upload had stopped, which then gives the error.
-/

namespace ObjectStorage.Object

variable {σ : Type}

/-- The channel holds a chunk at least. -/
def channelCapacity (settings : Settings) : Nat := max 1 settings.writerChannelCapacity.toNat

/-- The pipe after the producer is done with an upload that pulls the given number of times. -/
def written? (capacity pulled : Nat) (producer : Producer) : Option Pipe :=
  (Pipe.start capacity producer).run (Pipe.schedule capacity pulled true producer)

/-- The producer gets done, whatever it writes and however often the upload pulls. -/
theorem exists_written {capacity : Nat} (holds : 0 < capacity) (pulled : Nat)
    (producer : Producer) :
    ∃ pipe, written? capacity pulled producer = some pipe ∧ pipe.isFinished = true :=
  Pipe.exists_run_schedule producer pulled rfl rfl holds rfl fun _ => Nat.zero_add _

def uploadFrom (transport : Transport σ) (producer : Producer) (options : Options) :
    Remote (Object × σ) Unit := do
  let (object, _) ← get
  let uploaded ← Remote.ofState (uploading transport (.stream producer.stream) options)
  let pipe := written? (channelCapacity object.site.settings) uploaded.pulled producer
  Remote.ofExcept ((pipe.bind (·.result? uploaded.result)).getD uploaded.result)

end ObjectStorage.Object
