import ObjectStorage.Auth.Authenticator

/-!
# Requests with a token

Every request carries the token of the authenticator and the name of the client.  When the server
rejects the token, the body of its answer is drained, the authenticator is asked for another token,
and the request is sent once more if its body can be sent twice.  What comes back then is final.
-/

namespace ObjectStorage

def standardUserAgent : String := "swc/0.1.0"

namespace Http.Request

/-- The request with the token and the client's name in the place of any that it has. -/
def withToken (request : Http.Request) (userAgent token : String) : Except Error Http.Request :=
  match Http.fieldValue? token with
  | none => .error (.auth .unsendableToken)
  | some token =>
      match Http.fieldValue? userAgent with
      | none => .error (.badHeader "User-Agent" .invalidValue)
      | some userAgent =>
          .ok { request with
            fields := (request.fields.replace "x-auth-token" token).replace "user-agent" userAgent }

/-- The same request again, if its body can be sent twice. -/
def replay? (request : Http.Request) : Option Http.Request :=
  request.body.copy?.map fun body => { request with body }

end Http.Request

namespace Transport

variable {σ : Type}

def sendWithToken (transport : Transport σ) (userAgent token : String) (request : Http.Request) :
    StateM σ Exchange :=
  match request.withToken userAgent token with
  | .error error => return ⟨.error error, 0⟩
  | .ok request => transport.send request

/-- After an answer that rejects the token: drains it, asks for another token and sends again. -/
def retry (transport : Transport σ) (authenticator : Authenticator σ) (userAgent rejected : String)
    (replay : Http.Request) (answer : Body) (pulled : Nat) : StateM σ Exchange := do
  match answer.drain with
  | .error error => return ⟨.error error, pulled⟩
  | .ok () =>
      match ← (authenticator.reauthenticate rejected).attempt with
      | .error error => return ⟨.error error, pulled⟩
      | .ok token => transport.sendWithToken userAgent token replay

def authorized (transport : Transport σ) (authenticator : Authenticator σ) (userAgent : String) :
    Transport σ where
  send request := do
    match ← authenticator.token.attempt with
    | .error error => return ⟨.error error, 0⟩
    | .ok token =>
        let exchange ← transport.sendWithToken userAgent token request
        match exchange.result with
        | .error _ => return exchange
        | .ok response =>
            match request.replay? with
            | some replay =>
                if response.status = .unauthorized then
                  transport.retry authenticator userAgent token replay response.body exchange.pulled
                else return exchange
            | none => return exchange

end Transport

end ObjectStorage
