import SignIn.Http.Serving
import SignIn.Service.Run

/-!
# Visits

The service is called by itself or through requests, in any order. Each visit is noted with its
response, the calls that were made for it, and the state before and after it.
-/

namespace SignIn.Http

/-- A call of the service, or a request to it. -/
inductive Visit
  | call (step : Service.Step)
  | request (draw : Draw) (request : Request)

inductive Response
  | reply (reply : Except AuthError Service.Reply)
  | answer (answer : Answer)

/-- A visit and what became of it. -/
structure Visited (σ : Type) where
  visit : Visit
  before : Service.State σ
  response : Response
  calls : List Call
  after : Service.State σ

variable {σ : Type}

namespace Visit

def respond (service : Service σ) (policy : CookiePolicy) :
    Visit → StateM (Service.State σ) Response
  | .call step => do return .reply (← (service.take step).perform)
  | .request draw asked => do return .answer (← handle service policy draw asked)

/-- Makes a visit. -/
def make (service : Service σ) (policy : CookiePolicy) (visit : Visit) (before : Service.State σ) :
    Visited σ :=
  let (response, after) := (visit.respond service policy).run before
  let (_, recorded) :=
    (visit.respond service.recorded policy).run ⟨before.decoy, before.world, []⟩
  ⟨visit, before, response, recorded.world.2, after⟩

end Visit

/-- Makes one visit after the other. -/
def visitAll (service : Service σ) (policy : CookiePolicy) :
    List Visit → Service.State σ → List (Visited σ)
  | [], _ => []
  | visit :: visits, state =>
    let visited := visit.make service policy state
    visited :: visitAll service policy visits visited.after

end SignIn.Http
