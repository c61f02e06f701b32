import ObjectStorage.Object.Basic

/-!
# Copies and moves

The server copies an object to a destination that the request names.  A move is a copy and then a
deletion of the source, which is not sent unless the copy succeeded.
-/

namespace ObjectStorage.Object

variable {σ : Type}

/-- The options of a copy: they name the target and, if it is another, the target's account. -/
def copyOptions (source target : Object) (options : Options) : Options :=
  let options := options.withHeader "Destination"
    (Address.path target.containerName (some target.name))
  if source.site.account = target.site.account then options
  else options.withHeader "Destination-Account" target.site.account

/-- Copies the source to the object of the state. -/
def copyFrom (transport : Transport σ) (source : Object) (options : Options) :
    Remote (Object × σ) Unit := do
  let (target, _) ← get
  Remote.ofExcept
    ((Address.check target.containerName (some target.name)).mapError .invalidRequest)
  let _ ← Remote.onSecond
    ((source.request .copy (copyOptions source target options) [.created]).execute transport
      source.site.endpoint)
  Handle.invalidate

/-- Copies the first object to the second, and deletes the first after that. -/
def move (transport : Transport σ) (options deleteOptions : Options) :
    Remote (Object × Object × σ) Unit := do
  let (source, _) ← get
  Remote.onSecond (copyFrom transport source options)
  delete transport.onSecond deleteOptions

end ObjectStorage.Object
