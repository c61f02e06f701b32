import ObjectStorage.Capabilities
import ObjectStorage.Handle

/-!
# Accounts
-/

namespace ObjectStorage.Account

variable {σ : Type}

def ofSite (site : Site) : Account := Handle.fresh site .account

def switch (account : Account) (name : String) : Except Error Account :=
  (account.site.switch name).map ofSite

def container (account : Account) (name : String) : Container :=
  Handle.fresh account.site (.container name)

def create (transport : Transport σ) (options : Options) : Remote (Account × σ) Unit :=
  Handle.change transport .put options [.created, .accepted]

def capabilities (transport : Transport σ) (account : Account) : Remote σ Capabilities := do
  let root ← Remote.ofExcept ((Site.clusterRoot account.site.endpoint).mapError .invalidRequest)
  let request : Request := ⟨.get, some "info", none, .none, .empty, [.ok], false⟩
  let response ← request.execute transport root
  let content ← Remote.ofExcept response.body.read
  match Capabilities.parse? content with
  | some capabilities => return capabilities
  | none => throw .json

end ObjectStorage.Account
