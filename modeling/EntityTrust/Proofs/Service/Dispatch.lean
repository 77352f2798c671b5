import EntityTrust.Proofs.Outcome
import EntityTrust.Service.Endpoint

/-!
# Requests at endpoints

What a request comes to that is made at an endpoint and by one of its methods.

**Results.**
* `Endpoint.ofPath?_path`: no two endpoints have a path in common.
* `run_answer`: a request at an endpoint is answered there, for any origin.
-/

namespace EntityTrust
namespace Service

theorem Endpoint.ofPath?_path (e : Endpoint) : ofPath? e.path = some e := by
  cases e <;> decide

/-- A request is made at an endpoint and asks for a body. -/
structure Request.At (r : Request) (e : Endpoint) : Prop where
  path : r.path = e.path
  method : r.method ∈ e.methods
  body : r.method ≠ "HEAD"

variable {σ : Type} {s : Service (StateM σ)} {r : Request} {e : Endpoint} {state state' : σ}

/-- A request at an endpoint is answered there, for any origin. -/
theorem run_answer (h : r.At e) {reply : Reply}
    (hreply : (s.replyAt r e).run state = (reply, state')) :
    (s.answer r).run state = ({ reply with allowOrigin := some "*" }, state') := by
  have hendpoint : Endpoint.ofPath? r.path = some e := h.path ▸ e.ofPath?_path
  have hmethod : e.methods.contains r.method = true := List.contains_iff_mem.mpr h.method
  simp only [answer, dispatch, hendpoint, hmethod, if_true, h.body, if_false, bind_pure]
  rw [Outcome.run_bind_of_run hreply]
  rfl

end Service
end EntityTrust
