import ObjectStorage.Handle

/-!
# Containers
-/

namespace ObjectStorage.Container

variable {σ : Type}

def name (container : Container) : String :=
  match container.place with
  | .container name => name

def account (container : Container) : Account := Handle.fresh container.site .account

def object (container : Container) (name : String) : Object :=
  Handle.fresh container.site (.object container.name name)

def create (transport : Transport σ) (options : Options) : Remote (Container × σ) Unit :=
  Handle.change transport .put options [.created, .accepted]

def ensureExists (transport : Transport σ) : Remote (Container × σ) Unit := do
  unless ← Handle.exists? transport do create transport .none

def delete (transport : Transport σ) (options : Options) : Remote (Container × σ) Unit :=
  Handle.change transport .delete options [.noContent]

end ObjectStorage.Container
