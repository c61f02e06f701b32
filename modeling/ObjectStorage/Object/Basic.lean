import ObjectStorage.Handle

/-!
# Objects
-/

namespace ObjectStorage.Object

variable {σ : Type}

def name (object : Object) : String :=
  match object.place with
  | .object _ name => name

def containerName (object : Object) : String :=
  match object.place with
  | .object container _ => container

def container (object : Object) : Container :=
  Handle.fresh object.site (.container object.containerName)

def fullName (object : Object) : String := object.containerName ++ "/" ++ object.name

def delete (transport : Transport σ) (options : Options) : Remote (Object × σ) Unit :=
  Handle.change transport .delete options [.noContent]

end ObjectStorage.Object
