import SignIn.Session.Store
import SignIn.Table

/-!
# Sessions in memory

A registry keeps every session until it is revoked or found to be over by a purge. The seconds for
which a session is saved do not matter here.
-/

namespace SignIn

abbrev Registry : Type := Table SessionToken Session

namespace Registry

/-- The sessions that are not over. -/
def live (registry : Registry) (now : Instant) : Registry :=
  registry.filter fun (_, session) => ¬session.IsExpiredAt now

/-- The registry as a store. -/
def store : SessionStore Registry where
  save token session _ := .of fun registry => (.ok (), registry.put token session)
  find token := .of fun registry => (.ok (registry.get? token), registry)
  revoke token := .of fun registry => (.ok (registry.get? token).isSome, registry.erase token)
  purge now := .of fun registry =>
    (.ok (registry.size - (registry.live now).size), registry.live now)

theorem get?_live (registry : Registry) (now : Instant) (token : SessionToken) :
    (registry.live now).get? token =
      (registry.get? token).filter (fun session => ¬session.IsExpiredAt now) :=
  Table.get?_filter registry _ token

end Registry

end SignIn
