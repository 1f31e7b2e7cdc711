import SignIn.Http.Routes
import SignIn.Service.Calls

/-!
# Serving requests

Requests are answered one after the other. Each comes with what chance and the clock give to it, and
with the calls that fail while it is answered.
-/

namespace SignIn.Http

/-- A request and what it meets with. -/
structure Exchange where
  faults : Call → Option AuthError
  draw : Draw
  request : Request

/-- An exchange with its answer, and the state before and after it. -/
structure Served (σ : Type) where
  exchange : Exchange
  before : Service.State σ
  answer : Answer
  after : Service.State σ

variable {σ : Type}

/-- Answers the request of an exchange. -/
def Exchange.serve (service : Service σ) (policy : CookiePolicy) (exchange : Exchange)
    (before : Service.State σ) : Served σ :=
  let (answer, after) := (handle (service.interrupted exchange.faults) policy exchange.draw
    exchange.request).run before
  ⟨exchange, before, answer, after⟩

/-- Answers one request after the other. -/
def serveAll (service : Service σ) (policy : CookiePolicy) :
    List Exchange → Service.State σ → List (Served σ)
  | [], _ => []
  | exchange :: exchanges, state =>
    let served := exchange.serve service policy state
    served :: serveAll service policy exchanges served.after

end SignIn.Http
