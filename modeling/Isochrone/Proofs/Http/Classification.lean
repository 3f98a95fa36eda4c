import Isochrone.Proofs.Http.Statuses
import Isochrone.Proofs.Request.LifeCycle
import Isochrone.Proofs.RequestUrl.Resolving

/-!
# What becomes of a fetch

A fetch sends at most one GET, and its outcome tells at which stage it has ended: no response, or
none in time; a response of the 400s or 500s; a body that does not arrive in time, or is no
document; or the document itself. Every error names the absolute URL, which does not depend on
slashes at the end of the base, and a load records the error as it is.
-/

namespace Isochrone.Http

open Json (Value)

variable {ι : Type}

namespace Client

variable {client : Client} {service : Service} {url : RequestUrl}

/-- Whether another client differs by slashes at the end of its base at most. -/
def SameRoot (client other : Client) : Prop :=
  ∃ root m n, client.config.baseUrl = root ++ RequestUrl.slashes m ∧
    other.config = { client.config with baseUrl := root ++ RequestUrl.slashes n }

variable {other : Client}

/-- Clients of one root give the same name. -/
theorem SameRoot.userAgent_eq (h : client.SameRoot other) :
    other.config.userAgent = client.config.userAgent := by
  obtain ⟨root, m, n, -, hother⟩ := h
  rw [hother]

-- a status is refused though the body behind it never arrives
example :
    let client : Client := ⟨.ofBase "http://h//", by decide⟩
    let target := "http://h/otp/routers/default/isochrone?&cutoffSec=300"
    let response : Response := ⟨⟨503, by decide⟩, ⟨"Busy", by decide⟩, .short .late⟩
    (client.fetch (.responds response) (.build .empty ⟨[300]⟩)).result =
      .error (.http target 503
        ("HTTP status server error (503 Busy) for url (" ++ target ++ ")")) := by
  rfl

end Client

end Isochrone.Http
